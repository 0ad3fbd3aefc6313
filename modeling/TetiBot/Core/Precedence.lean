import Mathlib.Data.List.Lex
import Mathlib.Data.Prod.Lex
import Mathlib.Data.Sum.Order
import Mathlib.Order.WithBot
import TetiBot.Core.Release

/-
The precedence of versions.

* `TetiVersion.precedence`: what SemVer compares, as an element of a linear order: the core
  numbers, and then the prerelease identifiers, of which a version without any comes last; an
  identifier of digits counts as a number and comes before all others.
* `nearestDouble_mono`: rounding to a double keeps `≤`, but it may make two numbers one.
* `RoundTogether left right`: two numeric identifiers in this order that it makes one.
* `compareTetiVersions_precedence`: the comparison is that of the precedences, unless the first
  identifiers that differ round together.
-/

namespace TetiBot

open Library Library.JsString

/-! ### Rounding to a double -/

/-- The multiple of `unit` that a number is rounded to, a tie to the even one. -/
def roundedTo (unit n : Nat) : Nat :=
  (if unit < 2 * (n % unit) ∨ unit = 2 * (n % unit) ∧ n / unit % 2 = 1 then n / unit + 1
    else n / unit) * unit

lemma roundedTo_mono {unit n m : Nat} (h : n ≤ m) :
    roundedTo unit n ≤ roundedTo unit m := by
  have hdiv : n / unit ≤ m / unit := Nat.div_le_div_right h
  rw [roundedTo, roundedTo]
  refine Nat.mul_le_mul_right unit ?_
  rcases hdiv.lt_or_eq with hlt | heq
  · split_ifs <;> omega
  · have hn := Nat.div_add_mod n unit
    have hm := Nat.div_add_mod m unit
    rw [heq] at hn
    have hmod : n % unit ≤ m % unit := by omega
    rw [heq]
    split_ifs <;> omega

lemma div_mul_le_roundedTo (unit n : Nat) : n / unit * unit ≤ roundedTo unit n := by
  refine Nat.mul_le_mul_right unit ?_
  split_ifs <;> omega

lemma roundedTo_le (unit n : Nat) : roundedTo unit n ≤ (n / unit + 1) * unit := by
  refine Nat.mul_le_mul_right unit ?_
  split_ifs <;> omega

lemma nearestDouble_of_le {n : Nat} (h : ¬n < 2 ^ 53) :
    nearestDouble n = if roundedTo (2 ^ (n.log2 - 52)) n < 2 ^ 1024
      then some (roundedTo (2 ^ (n.log2 - 52)) n) else none := by
  rw [nearestDouble, if_neg h]
  rfl

/-- What a number from `2 ^ 53` on is rounded to lies between the powers of two around it. -/
lemma roundedTo_log2 {n : Nat} (h : ¬n < 2 ^ 53) :
    2 ^ n.log2 ≤ roundedTo (2 ^ (n.log2 - 52)) n
      ∧ roundedTo (2 ^ (n.log2 - 52)) n ≤ 2 ^ (n.log2 + 1) := by
  have hne : n ≠ 0 := by omega
  have hlog : 53 ≤ n.log2 := (Nat.le_log2 hne).mpr (by omega)
  have hlow : 2 ^ n.log2 ≤ n := Nat.log2_self_le hne
  have hhigh : n < 2 ^ (n.log2 + 1) := Nat.lt_log2_self
  have hunit : 2 ^ n.log2 = 2 ^ 52 * 2 ^ (n.log2 - 52) := by
    rw [← pow_add]
    congr 1
    omega
  have hunit' : 2 ^ (n.log2 + 1) = 2 ^ 53 * 2 ^ (n.log2 - 52) := by
    rw [← pow_add]
    congr 1
    omega
  have hpos : 0 < 2 ^ (n.log2 - 52) := by positivity
  constructor
  · refine le_trans ?_ (div_mul_le_roundedTo _ n)
    rw [hunit]
    exact Nat.mul_le_mul_right _ ((Nat.le_div_iff_mul_le hpos).mpr (hunit ▸ hlow))
  · refine (roundedTo_le _ n).trans ?_
    rw [hunit']
    refine Nat.mul_le_mul_right _ ?_
    exact (Nat.div_lt_iff_lt_mul hpos).mpr (hunit' ▸ hhigh)

/-- The value of a double; infinity comes after every number. -/
def doubleValue (n : Nat) : WithTop Nat := nearestDouble n

lemma doubleValue_of_lt {n : Nat} (h : n < 2 ^ 53) : doubleValue n = (n : WithTop Nat) := by
  rw [doubleValue, nearestDouble, if_pos h]
  rfl

/-- Rounded numbers in this order are doubles in this order. -/
lemma doubleValue_le {n m : Nat} (hn : ¬n < 2 ^ 53) (hm : ¬m < 2 ^ 53)
    (h : roundedTo (2 ^ (n.log2 - 52)) n ≤ roundedTo (2 ^ (m.log2 - 52)) m) :
    doubleValue n ≤ doubleValue m := by
  rw [doubleValue, doubleValue, nearestDouble_of_le hn, nearestDouble_of_le hm]
  by_cases hfinite : roundedTo (2 ^ (m.log2 - 52)) m < 2 ^ 1024
  · rw [if_pos hfinite, if_pos (h.trans_lt hfinite)]
    exact WithTop.coe_le_coe.mpr h
  · rw [if_neg hfinite]
    exact le_top

/-- **Rounding keeps the order.** -/
theorem nearestDouble_mono {n m : Nat} (h : n ≤ m) : doubleValue n ≤ doubleValue m := by
  by_cases hm : m < 2 ^ 53
  · rw [doubleValue_of_lt hm, doubleValue_of_lt (h.trans_lt hm)]
    exact WithTop.coe_le_coe.mpr h
  by_cases hn : n < 2 ^ 53
  · rw [doubleValue_of_lt hn, doubleValue, nearestDouble_of_le hm]
    split_ifs
    · have hlog : 53 ≤ m.log2 := (Nat.le_log2 (by omega)).mpr (by omega)
      have hpow : 2 ^ 53 ≤ 2 ^ m.log2 := Nat.pow_le_pow_right (by omega) hlog
      exact WithTop.coe_le_coe.mpr (hn.le.trans (hpow.trans (roundedTo_log2 hm).1))
    · exact le_top
  refine doubleValue_le hn hm ?_
  have hlog : n.log2 ≤ m.log2 := (Nat.le_log2 (by omega)).mpr
    ((Nat.log2_self_le (by omega)).trans h)
  rcases hlog.lt_or_eq with hlt | heq
  · calc roundedTo (2 ^ (n.log2 - 52)) n ≤ 2 ^ (n.log2 + 1) := (roundedTo_log2 hn).2
      _ ≤ 2 ^ m.log2 := Nat.pow_le_pow_right (by omega) hlt
      _ ≤ roundedTo (2 ^ (m.log2 - 52)) m := (roundedTo_log2 hm).1
  · rw [heq]
    exact roundedTo_mono h

variable (left right : JsString)

/-- `Number` tells two numbers apart that it does not round to one. -/
lemma numberLess_iff : numberLess left right = true ↔ digitsValue left < digitsValue right
      ∧ nearestDouble (digitsValue left) ≠ nearestDouble (digitsValue right) := by
  have hless : numberLess left right = true
      ↔ doubleValue (digitsValue left) < doubleValue (digitsValue right) := by
    rw [numberLess, doubleValue, doubleValue]
    cases nearestDouble (digitsValue left) <;> cases nearestDouble (digitsValue right)
    · exact ⟨fun h => (by cases h), fun h => absurd h (lt_irrefl (⊤ : WithTop Nat))⟩
    · exact ⟨fun h => (by cases h), fun h => absurd h not_top_lt⟩
    · exact ⟨fun _ => WithTop.coe_lt_top _, fun _ => rfl⟩
    · exact decide_eq_true_iff.trans WithTop.coe_lt_coe.symm
  rw [hless]
  constructor
  · intro h
    refine ⟨?_, fun heq => h.ne heq⟩
    by_contra hle
    exact absurd (nearestDouble_mono (not_lt.mp hle)) (not_le.mpr h)
  · rintro ⟨hlt, hne⟩
    exact lt_of_le_of_ne (nearestDouble_mono hlt.le) hne

/-! ### Numerals -/

lemma isDigit_iff {u : UInt16} : isDigit u = true ↔ 48 ≤ u.toNat ∧ u.toNat ≤ 57 := by
  simp [isDigit, UInt16.le_iff_toNat_le]

lemma digitsValue_cons {u : UInt16} (hu : isDigit u = true) (s : JsString) :
    digitsValue (u :: s) = 10 ^ s.length * (u.toNat - 48) + digitsValue s := by
  obtain ⟨hlow, hhigh⟩ := isDigit_iff.mp hu
  have hchar : (Char.ofNat u.toNat).toNat = u.toNat := by
    rw [Char.ofNat, dif_pos (show u.toNat.isValidChar from .inl (by omega))]
    rfl
  rw [digitsValue, List.map_cons, Nat.ofDigitChars_cons, Nat.ofDigitChars_eq_ofDigitChars_zero,
    List.length_map, hchar, Nat.mul_zero, Nat.zero_add]
  rfl

variable {s : JsString}

lemma digitsValue_lt (h : s.all isDigit = true) : digitsValue s < 10 ^ s.length := by
  induction s with
  | nil => simp [digitsValue]
  | cons u s ih =>
    rw [List.all_cons, Bool.and_eq_true] at h
    obtain ⟨hlow, hhigh⟩ := isDigit_iff.mp h.1
    have hs := ih h.2
    rw [digitsValue_cons h.1, List.length_cons, pow_succ]
    nlinarith [Nat.mul_le_mul_left (10 ^ s.length) (show u.toNat - 48 ≤ 9 by omega)]

/-- Numerals of one length with one value are the same. -/
lemma digitsValue_inj_of_length {t : JsString} (hlength : s.length = t.length)
    (hs : s.all isDigit = true) (ht : t.all isDigit = true) (h : digitsValue s = digitsValue t) :
    s = t := by
  induction s generalizing t with
  | nil => exact (List.length_eq_zero_iff.mp hlength.symm).symm
  | cons u s ih =>
    match t with
    | v :: t =>
      rw [List.all_cons, Bool.and_eq_true] at hs ht
      have hlen : s.length = t.length := by simpa using hlength
      rw [digitsValue_cons hs.1, digitsValue_cons ht.1, hlen] at h
      have hsmall := digitsValue_lt hs.2
      have hsmall' := digitsValue_lt ht.2
      rw [hlen] at hsmall
      have hhead : u.toNat - 48 = v.toNat - 48 := by
        have hdiv := congrArg (· / 10 ^ t.length) h
        simpa [Nat.mul_add_div, Nat.div_eq_of_lt hsmall, Nat.div_eq_of_lt hsmall'] using hdiv
      obtain ⟨hu, -⟩ := isDigit_iff.mp hs.1
      obtain ⟨hv, -⟩ := isDigit_iff.mp ht.1
      have huv : u = v := UInt16.toNat_inj.mp (by omega)
      subst huv
      rw [ih hlen hs.2 ht.2 (by omega)]

/-- A numeral without leading zeros is longer if its value has more digits. -/
lemma le_digitsValue (hs : isNumericIdentifier s = true) (hlong : 1 < s.length) :
    10 ^ (s.length - 1) ≤ digitsValue s := by
  match s with
  | u :: s =>
    have hne : (u :: s == [0x30]) = false := by
      cases s with
      | nil => simp at hlong
      | cons v s => simp
    rw [isNumericIdentifier, hne, Bool.false_or, Bool.and_eq_true, List.head?_cons,
      Option.any_some, Bool.and_eq_true, List.all_cons, Bool.and_eq_true] at hs
    have hfirst : 49 ≤ u.toNat := by simpa [UInt16.le_iff_toNat_le] using hs.1.1
    rw [digitsValue_cons hs.2.1, List.length_cons, Nat.add_sub_cancel]
    nlinarith [Nat.mul_le_mul_left (10 ^ s.length) (show 1 ≤ u.toNat - 48 by omega)]

lemma all_isDigit_of_isNumericIdentifier (h : isNumericIdentifier s = true) :
    s.all isDigit = true ∧ s ≠ [] := by
  rw [isNumericIdentifier, Bool.or_eq_true] at h
  rcases h with h | h
  · rw [beq_iff_eq] at h
    subst h
    exact ⟨by decide, by simp⟩
  · rw [Bool.and_eq_true] at h
    refine ⟨h.2, ?_⟩
    rintro rfl
    simp at h

/-- **Numerals without leading zeros tell their values apart.** -/
theorem digitsValue_injective {t : JsString} (hs : isNumericIdentifier s = true)
    (ht : isNumericIdentifier t = true) (h : digitsValue s = digitsValue t) : s = t := by
  obtain ⟨hs', hsne⟩ := all_isDigit_of_isNumericIdentifier hs
  obtain ⟨ht', htne⟩ := all_isDigit_of_isNumericIdentifier ht
  refine digitsValue_inj_of_length ?_ hs' ht' h
  have hshort : ∀ {a b : JsString}, isNumericIdentifier b = true → a.all isDigit = true →
      digitsValue a = digitsValue b → ¬a.length < b.length ∨ a = [] := by
    intro a b hb ha hab
    by_cases hnil : a = []
    · exact .inr hnil
    refine .inl fun hlt => ?_
    have hpos := List.length_pos_iff.mpr hnil
    have hlow := le_digitsValue hb (by omega)
    have hhigh := digitsValue_lt ha
    have hpow : 10 ^ a.length ≤ 10 ^ (b.length - 1) := Nat.pow_le_pow_right (by omega) (by omega)
    omega
  have h₁ := (hshort ht hs' h).resolve_right hsne
  have h₂ := (hshort hs ht' h.symm).resolve_right htne
  omega

/-! ### What SemVer compares -/

/-- A numeric identifier counts as its number and comes before the others, which are compared
unit by unit. -/
def identifierPrecedence (s : JsString) : ℕ ⊕ₗ List ℕ :=
  if isDigits s then Sum.inlₗ (digitsValue s) else Sum.inrₗ (s.map UInt16.toNat)

/-- The core numbers, and then the prerelease; a version without one comes last. -/
def TetiVersion.precedence (version : TetiVersion) : List ℕ ×ₗ WithTop (List (ℕ ⊕ₗ List ℕ)) :=
  toLex (version.core, if version.prerelease = [] then ⊤
    else ((version.prerelease.map identifierPrecedence : List (ℕ ⊕ₗ List ℕ)) : WithTop _))

/-- Numbers in this order that are one and the same double. -/
def RoundTogether : Prop :=
  (isDigits left = true ∧ isDigits right = true) ∧ digitsValue left < digitsValue right
    ∧ nearestDouble (digitsValue left) = nearestDouble (digitsValue right)

/-- The first identifiers in which two lists differ. -/
def firstDifference : List JsString → List JsString → Option (JsString × JsString)
  | left :: lefts, right :: rights =>
    if left = right then firstDifference lefts rights else some (left, right)
  | _, _ => none

/-! ### Comparisons -/

section Comparisons

variable {α : Type} [LinearOrder α]

/-- How two elements of a linear order compare. -/
def orderingOf (a b : α) : Ordering := if a < b then .lt else if b < a then .gt else .eq

lemma orderingOf_lt {a b : α} (h : a < b) : orderingOf a b = .lt := if_pos h

lemma orderingOf_gt {a b : α} (h : b < a) : orderingOf a b = .gt := by
  rw [orderingOf, if_neg h.not_gt, if_pos h]

@[simp] lemma orderingOf_self (a : α) : orderingOf a a = .eq := by
  rw [orderingOf, if_neg (lt_irrefl a), if_neg (lt_irrefl a)]

lemma orderingOf_cons_of_ne {a b : α} (h : a ≠ b) (as bs : List α) :
    orderingOf (a :: as) (b :: bs) = orderingOf a b := by
  rcases lt_or_gt_of_ne h with hlt | hgt
  · rw [orderingOf_lt hlt, orderingOf_lt (List.cons_lt_cons_iff.mpr (.inl hlt))]
  · rw [orderingOf_gt hgt, orderingOf_gt (List.cons_lt_cons_iff.mpr (.inl hgt))]

lemma orderingOf_cons_self (a : α) (as bs : List α) :
    orderingOf (a :: as) (a :: bs) = orderingOf as bs := by
  rcases lt_trichotomy as bs with hlt | rfl | hgt
  · rw [orderingOf_lt hlt, orderingOf_lt (List.cons_lt_cons_iff.mpr (.inr ⟨rfl, hlt⟩))]
  · rw [orderingOf_self, orderingOf_self]
  · rw [orderingOf_gt hgt, orderingOf_gt (List.cons_lt_cons_iff.mpr (.inr ⟨rfl, hgt⟩))]

end Comparisons

lemma compareCores_eq (left right : List ℕ) (h : left.length = right.length) :
    compareCores left right = orderingOf left right := by
  induction left generalizing right with
  | nil =>
    obtain rfl := List.length_eq_zero_iff.mp h.symm
    exact (orderingOf_self []).symm
  | cons a as ih =>
    match right with
    | b :: bs =>
      rw [compareCores]
      split_ifs with heq hlt
      · subst heq
        rw [orderingOf_cons_self]
        exact ih bs (by simpa using h)
      · rw [orderingOf_cons_of_ne heq, orderingOf_lt hlt]
      · rw [orderingOf_cons_of_ne heq, orderingOf_gt (by omega)]

lemma lt_iff_map_toNat : left < right ↔ left.map UInt16.toNat < right.map UInt16.toNat := by
  induction left generalizing right with
  | nil => cases right <;> simp
  | cons u left ih =>
    cases right with
    | nil => simp
    | cons v right =>
      rw [List.map_cons, List.map_cons, List.cons_lt_cons_iff, List.cons_lt_cons_iff, ih,
        UInt16.lt_iff_toNat_lt, UInt16.toNat_inj]

/-- A prerelease identifier of digits has no leading zeros. -/
lemma isNumericIdentifier_of_isDigits (hs : isPrereleaseIdentifier s = true) (h : isDigits s = true) :
    isNumericIdentifier s = true := by
  rw [isPrereleaseIdentifier, Bool.or_eq_true] at hs
  refine hs.resolve_right fun halpha => ?_
  rw [Bool.and_eq_true, List.any_eq_true] at halpha
  rw [isDigits, Bool.and_eq_true, List.all_eq_true] at h
  obtain ⟨-, u, hu, hnot⟩ := halpha
  rw [h.2 u hu] at hnot
  cases hnot

lemma identifierPrecedence_ne {left right : JsString} (hleft : isPrereleaseIdentifier left = true)
    (hright : isPrereleaseIdentifier right = true) (hne : left ≠ right) :
    identifierPrecedence left ≠ identifierPrecedence right := by
  intro h
  rw [identifierPrecedence, identifierPrecedence] at h
  split_ifs at h with hl hr hr
  · exact hne (digitsValue_injective (isNumericIdentifier_of_isDigits hleft hl)
      (isNumericIdentifier_of_isDigits hright hr) (Sum.inl.inj h))
  · cases h
  · cases h
  · exact hne (List.map_injective_iff.mpr (fun _ _ => UInt16.toNat_inj.mp) (Sum.inr.inj h))

lemma numbers_eq_iff {left right : JsString} (hl : isDigits left = true)
    (hr : isDigits right = true) (hne : digitsValue left ≠ digitsValue right) :
    (if numberLess left right then Ordering.lt else .gt)
        = orderingOf (digitsValue left) (digitsValue right) ↔ ¬RoundTogether left right := by
  rcases lt_or_gt_of_ne hne with hlt | hgt
  · rw [orderingOf_lt hlt]
    by_cases hless : numberLess left right = true
    · rw [if_pos hless]
      exact ⟨fun _ h => ((numberLess_iff _ _).mp hless).2 h.2.2, fun _ => rfl⟩
    · rw [if_neg hless]
      refine ⟨fun h => (by cases h), fun h => absurd ⟨⟨hl, hr⟩, hlt, ?_⟩ h⟩
      by_contra hdouble
      exact hless ((numberLess_iff _ _).mpr ⟨hlt, hdouble⟩)
  · have hless : ¬numberLess left right = true := fun h =>
      absurd ((numberLess_iff _ _).mp h).1 (by omega)
    rw [orderingOf_gt hgt, if_neg hless]
    exact ⟨fun _ h => absurd h.2.1 (by omega), fun _ => rfl⟩

lemma orderingOf_inlₗ (a b : ℕ) : orderingOf (Sum.inlₗ a : ℕ ⊕ₗ List ℕ) (Sum.inlₗ b) = orderingOf a b := by
  rcases lt_trichotomy a b with h | rfl | h
  · rw [orderingOf_lt h, orderingOf_lt (Sum.Lex.inl_lt_inl_iff.mpr h)]
  · rw [orderingOf_self, orderingOf_self]
  · rw [orderingOf_gt h, orderingOf_gt (Sum.Lex.inl_lt_inl_iff.mpr h)]

/-- Different identifiers are compared by their precedence unless they round together; then the
first counts as the greater. -/
lemma compareIdentifiers_eq_iff {left right : JsString}
    (hleft : isPrereleaseIdentifier left = true) (hright : isPrereleaseIdentifier right = true)
    (hne : left ≠ right) :
    compareIdentifiers left right
        = orderingOf (identifierPrecedence left) (identifierPrecedence right)
      ↔ ¬RoundTogether left right := by
  by_cases hl : isDigits left = true
  · by_cases hr : isDigits right = true
    · have hvalue : digitsValue left ≠ digitsValue right := fun h =>
        hne (digitsValue_injective (isNumericIdentifier_of_isDigits hleft hl)
          (isNumericIdentifier_of_isDigits hright hr) h)
      rw [← numbers_eq_iff hl hr hvalue, identifierPrecedence, identifierPrecedence, if_pos hl,
        if_pos hr, orderingOf_inlₗ, compareIdentifiers, hl, hr]
      rfl
    · have hlt : identifierPrecedence left < identifierPrecedence right := by
        rw [identifierPrecedence, identifierPrecedence, if_pos hl, if_neg hr]
        exact Sum.Lex.inl_lt_inr _ _
      rw [orderingOf_lt hlt, compareIdentifiers, hl, Bool.eq_false_of_not_eq_true hr]
      exact ⟨fun _ h => hr h.1.2, fun _ => rfl⟩
  · by_cases hr : isDigits right = true
    · have hgt : identifierPrecedence right < identifierPrecedence left := by
        rw [identifierPrecedence, identifierPrecedence, if_neg hl, if_pos hr]
        exact Sum.Lex.inl_lt_inr _ _
      rw [orderingOf_gt hgt, compareIdentifiers, hr, Bool.eq_false_of_not_eq_true hl]
      exact ⟨fun _ h => hl h.1.1, fun _ => rfl⟩
    · have hkeys := identifierPrecedence_ne hleft hright hne
      rw [compareIdentifiers, Bool.eq_false_of_not_eq_true hl, Bool.eq_false_of_not_eq_true hr]
      refine ⟨fun _ h => hl h.1.1, fun _ => ?_⟩
      have hless : left < right ↔ identifierPrecedence left < identifierPrecedence right := by
        rw [identifierPrecedence, identifierPrecedence, if_neg hl, if_neg hr]
        exact (lt_iff_map_toNat left right).trans Sum.Lex.inr_lt_inr_iff.symm
      rcases lt_or_gt_of_ne hkeys with hlt | hgt
      · rw [orderingOf_lt hlt]
        simp [hless.mpr hlt]
      · rw [orderingOf_gt hgt]
        have hnot : ¬left < right := fun h => absurd (hless.mp h) hgt.not_gt
        simpa using hnot

/-! ### Lists of identifiers -/

lemma firstDifference_cons_self (a : JsString) (as bs : List JsString) :
    firstDifference (a :: as) (a :: bs) = firstDifference as bs := by
  rw [firstDifference, if_pos rfl]

lemma comparePrereleases_eq_iff {left right : List JsString}
    (hleft : ∀ s ∈ left, isPrereleaseIdentifier s = true)
    (hright : ∀ s ∈ right, isPrereleaseIdentifier s = true) :
    comparePrereleases left right
        = orderingOf (left.map identifierPrecedence) (right.map identifierPrecedence)
      ↔ ¬∃ l r, firstDifference left right = some (l, r) ∧ RoundTogether l r := by
  induction left generalizing right with
  | nil =>
    cases right with
    | nil => simp [comparePrereleases, firstDifference]
    | cons b bs =>
      rw [List.map_nil, List.map_cons, orderingOf_lt (List.nil_lt_cons _ _)]
      simp [comparePrereleases, firstDifference]
  | cons a as ih =>
    cases right with
    | nil =>
      rw [List.map_nil, List.map_cons, orderingOf_gt (List.nil_lt_cons _ _)]
      simp [comparePrereleases, firstDifference]
    | cons b bs =>
      rw [List.map_cons, List.map_cons]
      by_cases hab : a = b
      · subst hab
        rw [comparePrereleases, if_pos rfl, orderingOf_cons_self, firstDifference_cons_self]
        exact ih (fun s hs => hleft s (by simp [hs])) fun s hs => hright s (by simp [hs])
      · have ha := hleft a (by simp)
        have hb := hright b (by simp)
        rw [comparePrereleases, if_neg hab, orderingOf_cons_of_ne (identifierPrecedence_ne ha hb hab),
          compareIdentifiers_eq_iff ha hb hab, firstDifference, if_neg hab]
        simp

/-! ### Versions -/

lemma parseTetiVersion_ok {value : JsString} {version : TetiVersion}
    (h : parseTetiVersion value = .ok version) :
    version.core.length = 3 ∧ ∀ s ∈ version.prerelease, isPrereleaseIdentifier s = true := by
  rw [parseTetiVersion] at h
  obtain ⟨hversion, h⟩ := ite_error_eq_ok.mp h
  obtain ⟨-, h⟩ := ite_error_eq_ok.mp h
  cases h
  have hversion : isTetiVersion value = true := by simpa using hversion
  rw [isTetiVersion, Bool.and_eq_true, Bool.and_eq_true, beq_iff_eq, List.all_eq_true,
    List.all_eq_true] at hversion
  exact ⟨by simpa using hversion.1.1, hversion.2⟩

section Lex

variable {α β : Type} [LinearOrder α] [LinearOrder β]

lemma orderingOf_toLex_of_ne {a b : α} (h : a ≠ b) (x y : β) :
    orderingOf (toLex (a, x)) (toLex (b, y)) = orderingOf a b := by
  rcases lt_or_gt_of_ne h with hlt | hgt
  · have hless : toLex (a, x) < toLex (b, y) := Prod.Lex.toLex_lt_toLex.mpr (.inl hlt)
    rw [orderingOf_lt hlt, orderingOf_lt hless]
  · have hless : toLex (b, y) < toLex (a, x) := Prod.Lex.toLex_lt_toLex.mpr (.inl hgt)
    rw [orderingOf_gt hgt, orderingOf_gt hless]

lemma orderingOf_toLex_self (a : α) (x y : β) :
    orderingOf (toLex (a, x)) (toLex (a, y)) = orderingOf x y := by
  rcases lt_trichotomy x y with hlt | rfl | hgt
  · have hless : toLex (a, x) < toLex (a, y) := Prod.Lex.toLex_lt_toLex.mpr (.inr ⟨rfl, hlt⟩)
    rw [orderingOf_lt hlt, orderingOf_lt hless]
  · rw [orderingOf_self, orderingOf_self]
  · have hless : toLex (a, y) < toLex (a, x) := Prod.Lex.toLex_lt_toLex.mpr (.inr ⟨rfl, hgt⟩)
    rw [orderingOf_gt hgt, orderingOf_gt hless]

lemma orderingOf_coe (x y : β) : orderingOf (x : WithTop β) (y : WithTop β) = orderingOf x y := by
  rcases lt_trichotomy x y with hlt | rfl | hgt
  · rw [orderingOf_lt hlt, orderingOf_lt (WithTop.coe_lt_coe.mpr hlt)]
  · rw [orderingOf_self, orderingOf_self]
  · rw [orderingOf_gt hgt, orderingOf_gt (WithTop.coe_lt_coe.mpr hgt)]

end Lex

lemma orderingOf_eq_iff {α : Type} [LinearOrder α] {a b : α} : orderingOf a b = .eq ↔ a = b := by
  refine ⟨fun h => ?_, fun h => h ▸ orderingOf_self a⟩
  rcases lt_trichotomy a b with hlt | heq | hgt
  · rw [orderingOf_lt hlt] at h
    cases h
  · exact heq
  · rw [orderingOf_gt hgt] at h
    cases h

/-- **Versions are compared by their precedence**, unless the first identifiers in which they
differ are numbers that round together. -/
theorem compareTetiVersions_precedence {left right : JsString} {a b : TetiVersion}
    (ha : parseTetiVersion left = .ok a) (hb : parseTetiVersion right = .ok b) :
    compareTetiVersions left right = .ok (orderingOf a.precedence b.precedence)
      ↔ ¬(a.core = b.core
        ∧ ∃ l r, firstDifference a.prerelease b.prerelease = some (l, r) ∧ RoundTogether l r) := by
  obtain ⟨halength, haprerelease⟩ := parseTetiVersion_ok ha
  obtain ⟨hblength, hbprerelease⟩ := parseTetiVersion_ok hb
  rw [compareTetiVersions, ha, hb, except_ok_bind, except_ok_bind,
    compareCores_eq _ _ (halength.trans hblength.symm), TetiVersion.precedence, TetiVersion.precedence]
  by_cases hcore : a.core = b.core
  · rw [← hcore, orderingOf_toLex_self, orderingOf_self]
    have hempty : ∀ l : List JsString, l.isEmpty = decide (l = []) := fun l => by cases l <;> rfl
    by_cases hl : a.prerelease = []
    · by_cases hr : b.prerelease = []
      · simp [hl, hr, firstDifference, pure, Except.pure]
      · rw [if_pos hl, if_neg hr, orderingOf_gt (WithTop.coe_lt_top _)]
        simp [hl, hr, hempty, firstDifference, pure, Except.pure]
    · by_cases hr : b.prerelease = []
      · rw [if_neg hl, if_pos hr, orderingOf_lt (WithTop.coe_lt_top _)]
        have hnone : firstDifference a.prerelease [] = none := by cases a.prerelease <;> rfl
        simp [hl, hr, hempty, hnone, pure, Except.pure]
      · rw [if_neg hl, if_neg hr, orderingOf_coe]
        simp only [hl, hr, hempty, decide_false, Bool.or_self, Bool.false_eq_true, if_false, true_and,
          ← comparePrereleases_eq_iff haprerelease hbprerelease]
        exact ⟨fun h => Except.ok.inj h, fun h => congrArg Except.ok h⟩
  · rw [orderingOf_toLex_of_ne hcore]
    refine ⟨fun _ h => hcore h.1, fun _ => ?_⟩
    have hne : orderingOf a.core b.core ≠ .eq := fun h => hcore (orderingOf_eq_iff.mp h)
    cases horder : orderingOf a.core b.core with
    | eq => exact absurd horder hne
    | lt => rfl
    | gt => rfl

/-- A number and a word: the number comes first, and nothing is rounded. -/
theorem compareTetiVersions_number_word :
    ∃ a b, parseTetiVersion (ofString "1.0.0-alpha.9007199254740993") = .ok a
      ∧ parseTetiVersion (ofString "1.0.0-alpha.beta") = .ok b
      ∧ compareTetiVersions (ofString "1.0.0-alpha.9007199254740993") (ofString "1.0.0-alpha.beta")
        = .ok (orderingOf a.precedence b.precedence) := by
  refine ⟨⟨[1, 0, 0], [ofString "alpha", ofString "9007199254740993"]⟩,
    ⟨[1, 0, 0], [ofString "alpha", ofString "beta"]⟩, rfl, rfl, ?_⟩
  refine (compareTetiVersions_precedence rfl rfl).mpr ?_
  rintro ⟨-, l, r, hfirst, hdigits, -⟩
  have hdifference : firstDifference [ofString "alpha", ofString "9007199254740993"]
      [ofString "alpha", ofString "beta"]
        = some (ofString "9007199254740993", ofString "beta") := by
    decide +kernel
  rw [hdifference] at hfirst
  cases hfirst
  exact absurd hdigits.2 (by decide +kernel)

/-- Two versions, each greater than the other: `Number` makes their last identifiers one. -/
theorem compareTetiVersions_both_greater :
    compareTetiVersions (ofString "1.0.0-9007199254740992") (ofString "1.0.0-9007199254740993")
        = .ok .gt
      ∧ compareTetiVersions (ofString "1.0.0-9007199254740993") (ofString "1.0.0-9007199254740992")
        = .ok .gt := by
  decide +kernel

end TetiBot
