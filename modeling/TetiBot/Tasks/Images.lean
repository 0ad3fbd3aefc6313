import Mathlib.Data.List.TakeWhile
import TetiBot.Core.Validation
import TetiBot.Library.Framing

/-
Images of a task (`runtime/tasks/attachments.ts`).

* `sanitizeImage`: a PNG chunk by chunk, a JPEG segment by segment, without the
  metadata;
* `PngRead`, `JpegHeader`: what the two loops have read when they end;
* `sanitizeImage_sanitized`: a sanitized image is sanitized already;
* `stored_image_accepted`: it passes the checks of the store and of the receiver.

The bytes of a file are a list; what is read of it, and left, are lists too, in
the place of the offsets.
-/

namespace TetiBot

open Library

/-! ### Limits -/

def imageInvalid : TaskError := plainError "TASK_IMAGE_INVALID"

def requireDimensions (width height : Nat) : Except TaskError Unit :=
  failIf (width = 0 ∨ height = 0
      ∨ MAX_TASK_IMAGE_DIMENSION < width ∨ MAX_TASK_IMAGE_DIMENSION < height)
    (plainError "TASK_IMAGE_DIMENSIONS_INVALID")

def requireBoundedBytes (bytes : List UInt8) : Except TaskError Unit :=
  failIf (bytes.length = 0 ∨ MAX_TASK_IMAGE_BYTES < bytes.length)
    (plainError "TASK_IMAGE_SIZE_INVALID")

structure SanitizedImage where
  bytes : List UInt8
  mimeType : TaskImageMimeType
  width : Nat
  height : Nat
  deriving DecidableEq

/-! ### PNG -/

def PNG_SIGNATURE : List UInt8 := [137, 80, 78, 71, 13, 10, 26, 10]

/-- The codes of an ASCII text. -/
def asciiCodes (text : String) : List UInt8 := text.toList.map fun c => c.toNat.toUInt8

/-- `source.toString("ascii", …)`, which unsets the highest bit of each byte. -/
def asciiText (bytes : List UInt8) : List UInt8 := bytes.map (· &&& 0x7F)

/-- `[A-Za-z]`. -/
def isAsciiLetter (b : UInt8) : Bool := (0x41 ≤ b && b ≤ 0x5A) || (0x61 ≤ b && b ≤ 0x7A)

/-- `toUpperCase` of an ASCII character. -/
def toUpperCase (b : UInt8) : UInt8 := if 0x61 ≤ b && b ≤ 0x7A then b - 0x20 else b

def SAFE_ANCILLARY_CHUNKS : List (List UInt8) := ["tRNS", "gAMA", "cHRM", "sRGB"].map asciiCodes

def isSafePngChunk (type : List UInt8) : Bool :=
  let critical := type.head? == type.head?.map toUpperCase
  critical || SAFE_ANCILLARY_CHUNKS.contains type

/-- The type of a chunk as the code reads it. -/
def pngType (chunk : List UInt8) : List UInt8 := asciiText ((chunk.drop 4).take 4)

/-- The variables of the loop. -/
structure PngScan where
  chunks : List (List UInt8)
  offset : Nat
  width : Nat
  height : Nat
  sawHeader : Bool
  sawData : Bool
  sawEnd : Bool
  deriving DecidableEq

/-- What a chunk does to the variables. -/
def PngScan.next (chunk : List UInt8) (s : PngScan) : PngScan :=
  let type := pngType chunk
  { chunks := if isSafePngChunk type then s.chunks ++ [chunk] else s.chunks
    offset := s.offset + chunk.length
    width := if type = asciiCodes "IHDR" then readBigEndian 4 (chunk.drop 8) else s.width
    height := if type = asciiCodes "IHDR" then readBigEndian 4 (chunk.drop 12) else s.height
    sawHeader := s.sawHeader || type == asciiCodes "IHDR"
    sawData := s.sawData || type == asciiCodes "IDAT"
    sawEnd := s.sawEnd || type == asciiCodes "IEND" }

/-- One round of the loop; the chunk is `source.subarray(offset, end)`. -/
def pngChunk (chunk : List UInt8) (s : PngScan) : Except TaskError PngScan := do
  let length := readBigEndian 4 chunk
  let type := pngType chunk
  failIf (!type.all isAsciiLetter) imageInvalid
  failIf (type = asciiCodes "IHDR"
      ∧ (s.sawHeader ∨ length ≠ 13 ∨ s.offset ≠ PNG_SIGNATURE.length)) imageInvalid
  failIf (type = asciiCodes "IEND" ∧ length ≠ 0) imageInvalid
  return s.next chunk

/-- Where the next chunk ends, checked against the data. -/
def pngChunkEnd (rest : List UInt8) : Option Nat :=
  let length := readBigEndian 4 rest
  if MAX_TASK_IMAGE_BYTES < length ∨ rest.length < 12 + length then none else some (12 + length)

variable {rest : List UInt8}

lemma pngChunkEnd_eq_some {n : Nat} :
    pngChunkEnd rest = some n ↔ readBigEndian 4 rest ≤ MAX_TASK_IMAGE_BYTES
      ∧ n ≤ rest.length ∧ n = 12 + readBigEndian 4 rest := by
  simp only [pngChunkEnd, Option.ite_none_left_eq_some, not_or, not_lt, Option.some.injEq]
  constructor
  · rintro ⟨⟨hmax, hle⟩, rfl⟩
    exact ⟨hmax, hle, rfl⟩
  · rintro ⟨hmax, hle, rfl⟩
    exact ⟨⟨hmax, hle⟩, rfl⟩

/-- The loop; what it has not read comes first. -/
def scanPng (rest : List UInt8) (s : PngScan) : Except TaskError (List UInt8 × PngScan) :=
  if 12 ≤ rest.length then
    match _h : pngChunkEnd rest with
    | none => .error imageInvalid
    | some n =>
      match pngChunk (rest.take n) s with
      | .error e => .error e
      | .ok s => if s.sawEnd then .ok (rest.drop n, s) else scanPng (rest.drop n) s
  else .ok (rest, s)
termination_by rest.length
decreasing_by
  obtain ⟨-, hle, hn⟩ := pngChunkEnd_eq_some.mp _h
  rw [List.length_drop]
  omega

/-- The variables before the loop. -/
def pngStart : PngScan := ⟨[PNG_SIGNATURE], PNG_SIGNATURE.length, 0, 0, false, false, false⟩

def sanitizePng (source : List UInt8) : Except TaskError SanitizedImage := do
  let (rest, s) ← scanPng (source.drop PNG_SIGNATURE.length) pngStart
  failIf (!s.sawHeader ∨ !s.sawData ∨ !s.sawEnd ∨ rest ≠ []) imageInvalid
  requireDimensions s.width s.height
  let bytes := s.chunks.flatten
  requireBoundedBytes bytes
  return ⟨bytes, .png, s.width, s.height⟩

/-! ### JPEG -/

variable (marker : UInt8)

def isStandaloneJpegMarker : Bool :=
  marker == 0x01 || (0xD0 ≤ marker && marker ≤ 0xD7)

def isJpegStartOfFrame : Bool :=
  [0xC0, 0xC1, 0xC2, 0xC3, 0xC5, 0xC6, 0xC7, 0xC9, 0xCA, 0xCB, 0xCD, 0xCE, 0xCF].contains marker

def isPrivateJpegSegment : Bool :=
  marker == 0xE1 || marker == 0xED || marker == 0xFE

/-- The next marker, after any number of fill bytes, and what comes after it. -/
def jpegMarker (rest : List UInt8) : Option (UInt8 × List UInt8) :=
  if rest.head? = some 0xFF then
    match rest.dropWhile (· == 0xFF) with
    | [] => none
    | marker :: rest => some (marker, rest)
  else none

/-- The length of a segment, checked against the data. -/
def jpegSegmentLength (rest : List UInt8) : Option Nat :=
  if rest.length < 2 then none
  else
    let length := readBigEndian 2 rest
    if length < 2 ∨ rest.length < length then none else some length

/-- The variables of the loop. -/
structure JpegScan where
  chunks : List (List UInt8)
  width : Nat
  height : Nat
  foundScan : Bool
  deriving DecidableEq

/-- A segment before the scan; the body begins with its length. -/
def JpegScan.segment (body : List UInt8) (s : JpegScan) : JpegScan :=
  { s with
    chunks := if isPrivateJpegSegment marker then s.chunks
      else s.chunks ++ [0xFF :: marker :: body]
    height := if isJpegStartOfFrame marker then readBigEndian 2 (body.drop 3) else s.height
    width := if isJpegStartOfFrame marker then readBigEndian 2 (body.drop 5) else s.width }

variable {rest' : List UInt8} {marker : UInt8}

lemma jpegMarker_length (h : jpegMarker rest = some (marker, rest')) :
    rest'.length < rest.length := by
  rw [jpegMarker] at h
  split_ifs at h
  split at h
  · cases h
  · next m r hr =>
    simp only [Option.some.injEq, Prod.mk.injEq] at h
    have hle := (List.dropWhile_sublist (· == (0xFF : UInt8)) (l := rest)).length_le
    rw [hr, h.2, List.length_cons] at hle
    exact hle

/-- The loop. What follows the header of the first scan is copied as it is. -/
def scanJpeg (rest : List UInt8) (s : JpegScan) : Except TaskError JpegScan :=
  if rest = [] then .ok s
  else
    match _h : jpegMarker rest with
    | none => .error imageInvalid
    | some (marker, rest') =>
      if marker = 0xD9 then .ok { s with chunks := s.chunks ++ [[0xFF, marker]] }
      else if marker = 0xDA then
        match jpegSegmentLength rest' with
        | none => .error imageInvalid
        | some _ => .ok { s with
            chunks := s.chunks ++ [0xFF :: marker :: rest'], foundScan := true }
      else if isStandaloneJpegMarker marker then
        scanJpeg rest' { s with chunks := s.chunks ++ [[0xFF, marker]] }
      else
        match jpegSegmentLength rest' with
        | none => .error imageInvalid
        | some length =>
          if isJpegStartOfFrame marker ∧ length < 7 then .error imageInvalid
          else scanJpeg (rest'.drop length) (s.segment marker (rest'.take length))
termination_by rest.length
decreasing_by
  · exact jpegMarker_length _h
  · have hlt := jpegMarker_length _h
    rw [List.length_drop]
    omega

def sanitizeJpeg (source : List UInt8) : Except TaskError SanitizedImage := do
  let s ← scanJpeg (source.drop 2) ⟨[source.take 2], 0, 0, false⟩
  failIf (!s.foundScan ∨ s.width = 0 ∨ s.height = 0 ∨ ¬[0xFF, 0xD9] <:+ source) imageInvalid
  requireDimensions s.width s.height
  let bytes := s.chunks.flatten
  requireBoundedBytes bytes
  return ⟨bytes, .jpeg, s.width, s.height⟩

def sanitizeImage (source : List UInt8) : Except TaskError SanitizedImage :=
  if source.take PNG_SIGNATURE.length = PNG_SIGNATURE then sanitizePng source
  else if 4 ≤ source.length ∧ source.take 2 = [0xFF, 0xD8] then sanitizeJpeg source
  else .error (plainError "TASK_IMAGE_TYPE_UNSUPPORTED")

/-! ### What is read of a PNG -/

/-- Chunks: four bytes of length, four of type, the data, four of checksum. -/
def pngFraming : Framing UInt8 where
  size data :=
    if 12 + readBigEndian 4 data ≤ data.length then some (12 + readBigEndian 4 data) else none
  size_pos h := by
    simp only [Option.ite_none_right_eq_some, Option.some.injEq] at h
    omega
  size_le h := by
    simp only [Option.ite_none_right_eq_some, Option.some.injEq] at h
    omega
  size_take {data n} h rest := by
    simp only [Option.ite_none_right_eq_some, Option.some.injEq] at h ⊢
    obtain ⟨hle, rfl⟩ := h
    have hread : readBigEndian 4 (data.take (12 + readBigEndian 4 data) ++ rest)
        = readBigEndian 4 data := by
      rw [readBigEndian_append (by simp only [List.length_take]; omega),
        readBigEndian_take (by omega)]
    rw [hread, List.length_append, List.length_take_of_le hle]
    exact ⟨by omega, rfl⟩

variable {chunk : List UInt8}

lemma isFrame_png : pngFraming.IsFrame chunk ↔ chunk.length = 12 + readBigEndian 4 chunk := by
  simp only [Framing.IsFrame, pngFraming, Option.ite_none_right_eq_some, Option.some.injEq]
  omega

lemma pngChunkEnd_append (hframe : pngFraming.IsFrame chunk)
    (hmax : readBigEndian 4 chunk ≤ MAX_TASK_IMAGE_BYTES) (rest : List UInt8) :
    pngChunkEnd (chunk ++ rest) = some chunk.length := by
  rw [isFrame_png] at hframe
  have hread : readBigEndian 4 (chunk ++ rest) = readBigEndian 4 chunk :=
    readBigEndian_append (by omega) rest
  rw [pngChunkEnd_eq_some, hread, List.length_append]
  exact ⟨hmax, Nat.le_add_right _ _, hframe⟩

/-- What the loop has read from one state to another, chunk by chunk, and what it has
left. -/
inductive PngRead : List UInt8 → PngScan → List (List UInt8) → List UInt8 → PngScan → Prop
  | done {rest s} (h : rest.length < 12) : PngRead rest s [] rest s
  | last {chunk rest s s'} (hframe : pngFraming.IsFrame chunk)
      (hmax : readBigEndian 4 chunk ≤ MAX_TASK_IMAGE_BYTES) (hchunk : pngChunk chunk s = .ok s')
      (hend : s'.sawEnd = true) : PngRead (chunk ++ rest) s [chunk] rest s'
  | more {chunk rest chunks rest' s s₁ s'} (hframe : pngFraming.IsFrame chunk)
      (hmax : readBigEndian 4 chunk ≤ MAX_TASK_IMAGE_BYTES) (hchunk : pngChunk chunk s = .ok s₁)
      (hend : s₁.sawEnd = false) (h : PngRead rest s₁ chunks rest' s') :
      PngRead (chunk ++ rest) s (chunk :: chunks) rest' s'

lemma scanPng_append (hframe : pngFraming.IsFrame chunk)
    (hmax : readBigEndian 4 chunk ≤ MAX_TASK_IMAGE_BYTES) (rest : List UInt8) (s : PngScan) :
    scanPng (chunk ++ rest) s = pngChunk chunk s >>= fun s =>
      if s.sawEnd then .ok (rest, s) else scanPng rest s := by
  have hlen : 12 ≤ (chunk ++ rest).length := by
    rw [List.length_append, isFrame_png.mp hframe]
    omega
  rw [scanPng, if_pos hlen]
  split
  · next hn => rw [pngChunkEnd_append hframe hmax] at hn; cases hn
  · next n hn =>
    rw [pngChunkEnd_append hframe hmax, Option.some.injEq] at hn
    subst hn
    rw [List.take_left, List.drop_left]
    cases pngChunk chunk s <;> rfl

variable {s s' : PngScan} {chunks : List (List UInt8)}

lemma PngRead.scanPng (h : PngRead rest s chunks rest' s') : scanPng rest s = .ok (rest', s') := by
  induction h with
  | done h => rw [TetiBot.scanPng, if_neg (by omega)]
  | last hframe hmax hchunk hend => simp [scanPng_append hframe hmax, hchunk, except_ok_bind, hend]
  | more hframe hmax hchunk hend _ ih =>
    simp [scanPng_append hframe hmax, hchunk, except_ok_bind, hend, ih]

lemma isFrame_of_pngChunkEnd {n : Nat} (h : pngChunkEnd rest = some n) :
    pngFraming.IsFrame (rest.take n)
      ∧ readBigEndian 4 (rest.take n) ≤ MAX_TASK_IMAGE_BYTES := by
  obtain ⟨hmax, hle, hn⟩ := pngChunkEnd_eq_some.mp h
  rw [isFrame_png, readBigEndian_take (by omega), List.length_take_of_le hle]
  exact ⟨hn, hmax⟩

lemma exists_pngRead (h : scanPng rest s = .ok (rest', s')) :
    ∃ chunks, PngRead rest s chunks rest' s' := by
  induction hk : rest.length using Nat.strong_induction_on generalizing rest s with
  | _ k ih =>
    subst hk
    by_cases hlen : 12 ≤ rest.length
    · cases hn : pngChunkEnd rest with
      | none =>
        rw [scanPng, if_pos hlen] at h
        split at h
        · cases h
        · next n hn' => rw [hn] at hn'; cases hn'
      | some n =>
        obtain ⟨hframe, hmax⟩ := isFrame_of_pngChunkEnd hn
        rw [← List.take_append_drop n rest, scanPng_append hframe hmax, except_bind_eq_ok] at h
        obtain ⟨s₁, hchunk, h⟩ := h
        rw [← List.take_append_drop n rest]
        cases hend : s₁.sawEnd with
        | true =>
          simp only [hend, if_true, Except.ok.injEq, Prod.mk.injEq] at h
          obtain ⟨rfl, rfl⟩ := h
          exact ⟨_, .last hframe hmax hchunk hend⟩
        | false =>
          simp only [hend, Bool.false_eq_true, if_false] at h
          obtain ⟨-, hle, hn⟩ := pngChunkEnd_eq_some.mp hn
          obtain ⟨chunks, hread⟩ := ih _ (by rw [List.length_drop]; omega) h rfl
          exact ⟨_, .more hframe hmax hchunk hend hread⟩
    · rw [scanPng, if_neg hlen, Except.ok.injEq, Prod.mk.injEq] at h
      obtain ⟨rfl, rfl⟩ := h
      exact ⟨[], .done (by omega)⟩

/-! ### What is kept of a PNG -/

/-- The chunk is written again. -/
def isKeptChunk (chunk : List UInt8) : Bool := isSafePngChunk (pngType chunk)

lemma pngChunk_eq_ok :
    pngChunk chunk s = .ok s' ↔ (pngType chunk).all isAsciiLetter = true
      ∧ ¬(pngType chunk = asciiCodes "IHDR"
        ∧ (s.sawHeader = true ∨ readBigEndian 4 chunk ≠ 13 ∨ s.offset ≠ PNG_SIGNATURE.length))
      ∧ ¬(pngType chunk = asciiCodes "IEND" ∧ readBigEndian 4 chunk ≠ 0)
      ∧ s.next chunk = s' := by
  simp only [pngChunk, failIf_then_eq_ok, Bool.not_eq_true', Bool.not_eq_false, pure, Except.pure,
    Except.ok.injEq]

/-- The loop at the same place of what is kept. -/
structure Follows (s t : PngScan) : Prop where
  width : t.width = s.width
  height : t.height = s.height
  sawHeader : t.sawHeader = s.sawHeader
  sawData : t.sawData = s.sawData
  sawEnd : t.sawEnd = s.sawEnd
  offset : PNG_SIGNATURE.length ≤ s.offset
  first : s.offset = PNG_SIGNATURE.length → t.offset = PNG_SIGNATURE.length

lemma Follows.next {t : PngScan} (h : Follows s t) (hpos : 0 < chunk.length) :
    Follows (s.next chunk) (t.next chunk) where
  width := by simp only [PngScan.next, h.width]
  height := by simp only [PngScan.next, h.height]
  sawHeader := by simp only [PngScan.next, h.sawHeader]
  sawData := by simp only [PngScan.next, h.sawData]
  sawEnd := by simp only [PngScan.next, h.sawEnd]
  offset := h.offset.trans (Nat.le_add_right _ _)
  first heq := by
    have hle := h.offset
    simp only [PngScan.next] at heq
    omega

/-- A chunk of a type that the loop looks at is kept. -/
lemma isKeptChunk_of_mem (h : pngType chunk ∈ ["IHDR", "IDAT", "IEND"].map asciiCodes) :
    isKeptChunk chunk = true := by
  have hall : ∀ type ∈ ["IHDR", "IDAT", "IEND"].map asciiCodes, isSafePngChunk type = true := by
    decide
  exact hall _ h

lemma Follows.next_of_dropped {t : PngScan} (h : Follows s t) (hpos : 0 < chunk.length)
    (hdropped : isKeptChunk chunk = false) : Follows (s.next chunk) t := by
  have hother : ∀ text ∈ ["IHDR", "IDAT", "IEND"], pngType chunk ≠ asciiCodes text := by
    intro text htext heq
    rw [isKeptChunk_of_mem (heq ▸ List.mem_map_of_mem htext)] at hdropped
    cases hdropped
  have hheader := hother "IHDR" (by simp)
  have hdata := hother "IDAT" (by simp)
  have hend := hother "IEND" (by simp)
  have hle := h.offset
  constructor
  case first => intro heq; simp only [PngScan.next] at heq; omega
  case offset => exact hle.trans (Nat.le_add_right _ _)
  all_goals simp [PngScan.next, h.width, h.height, h.sawHeader, h.sawData, h.sawEnd, hheader,
    hdata, hend]

/-- A chunk that is kept is read again in the same way. -/
lemma Follows.pngChunk {t s₁ : PngScan} (h : Follows s t) (hread : pngChunk chunk s = .ok s₁) :
    TetiBot.pngChunk chunk t = .ok (t.next chunk) := by
  rw [pngChunk_eq_ok] at hread ⊢
  obtain ⟨hletters, hheader, hend, -⟩ := hread
  refine ⟨hletters, ?_, hend, rfl⟩
  rintro ⟨htype, hbad⟩
  rw [h.sawHeader] at hbad
  exact hheader ⟨htype, hbad.imp_right (Or.imp_right fun hne heq => hne (h.first heq))⟩

lemma PngScan.chunks_next (chunk : List UInt8) (s : PngScan) :
    (s.next chunk).chunks = s.chunks ++ [chunk].filter isKeptChunk := by
  cases hkept : isKeptChunk chunk
  · have hsafe : isSafePngChunk (pngType chunk) = false := hkept
    simp [PngScan.next, hsafe, hkept]
  · have hsafe : isSafePngChunk (pngType chunk) = true := hkept
    simp [PngScan.next, hsafe, hkept]

/-- What has been read is made of the chunks, and the safe ones are kept. -/
lemma PngRead.spec (h : PngRead rest s chunks rest' s') :
    rest = chunks.flatten ++ rest' ∧ (∀ chunk ∈ chunks, pngFraming.IsFrame chunk)
      ∧ s'.chunks = s.chunks ++ chunks.filter isKeptChunk := by
  induction h with
  | done h => simp
  | last hframe hmax hchunk hend =>
    obtain ⟨-, -, -, rfl⟩ := pngChunk_eq_ok.mp hchunk
    exact ⟨by simp, by simpa using hframe, PngScan.chunks_next _ _⟩
  | @more chunk rest chunks rest' s s₁ s' hframe hmax hchunk hend _ ih =>
    obtain ⟨-, -, -, rfl⟩ := pngChunk_eq_ok.mp hchunk
    obtain ⟨hrest, hframes, hchunks⟩ := ih
    refine ⟨?_, List.forall_mem_cons.mpr ⟨hframe, hframes⟩, ?_⟩
    · rw [hrest, List.flatten_cons, List.append_assoc]
    · rw [hchunks, PngScan.chunks_next, List.append_assoc, ← List.filter_append,
        List.singleton_append]

/-- **What is kept is read in the same way**, and all of it is kept again. -/
lemma PngRead.kept {t : PngScan} (h : PngRead rest s chunks rest' s') (hf : Follows s t)
    (hs : s.sawEnd = false) :
    ∃ t', PngRead ((chunks.filter isKeptChunk).flatten ++ rest') t (chunks.filter isKeptChunk)
      rest' t' ∧ Follows s' t' := by
  induction h generalizing t with
  | done h => exact ⟨t, .done h, hf⟩
  | @last chunk rest s s' hframe hmax hchunk hend =>
    have hpos : 0 < chunk.length := by rw [isFrame_png.mp hframe]; omega
    obtain ⟨-, -, -, rfl⟩ := pngChunk_eq_ok.mp hchunk
    have hkept : isKeptChunk chunk = true := by
      simp only [PngScan.next, hs, Bool.false_or, beq_iff_eq] at hend
      exact isKeptChunk_of_mem (by simp [hend])
    have hnext := hf.next hpos
    refine ⟨t.next chunk, ?_, hnext⟩
    rw [List.filter_cons_of_pos hkept, List.filter_nil, List.flatten_singleton]
    exact .last hframe hmax (hf.pngChunk hchunk) (hnext.sawEnd.trans hend)
  | @more chunk rest chunks rest' s s₁ s' hframe hmax hchunk hend _ ih =>
    have hpos : 0 < chunk.length := by rw [isFrame_png.mp hframe]; omega
    obtain ⟨-, -, -, rfl⟩ := pngChunk_eq_ok.mp hchunk
    cases hkept : isKeptChunk chunk with
    | true =>
      have hnext := hf.next hpos
      obtain ⟨t', hread, hf'⟩ := ih hnext hend
      refine ⟨t', ?_, hf'⟩
      rw [List.filter_cons_of_pos hkept, List.flatten_cons, List.append_assoc]
      exact .more hframe hmax (hf.pngChunk hchunk) (hnext.sawEnd.trans hend) hread
    | false =>
      obtain ⟨t', hread, hf'⟩ := ih (hf.next_of_dropped hpos hkept) hend
      refine ⟨t', ?_, hf'⟩
      rwa [List.filter_cons_of_neg (by simp [hkept])]

variable {source : List UInt8} {image : SanitizedImage}

lemma sanitizePng_eq_ok :
    sanitizePng source = .ok image ↔
      ∃ s, scanPng (source.drop PNG_SIGNATURE.length) pngStart = .ok ([], s)
        ∧ (s.sawHeader = true ∧ s.sawData = true ∧ s.sawEnd = true)
        ∧ requireDimensions s.width s.height = .ok () ∧ requireBoundedBytes s.chunks.flatten = .ok ()
        ∧ image = ⟨s.chunks.flatten, .png, s.width, s.height⟩ := by
  simp only [sanitizePng, except_bind_eq_ok, pure, Except.pure, Except.ok.injEq]
  constructor
  · rintro ⟨⟨rest, s⟩, hscan, ⟨⟩, hsaw, ⟨⟩, hdim, ⟨⟩, hbound, rfl⟩
    simp only [failIf_eq_ok, not_or, Bool.not_eq_true', Bool.not_eq_false, ne_eq, not_not] at hsaw
    obtain ⟨hheader, hdata, hend, rfl⟩ := hsaw
    exact ⟨s, hscan, ⟨hheader, hdata, hend⟩, hdim, hbound, rfl⟩
  · rintro ⟨s, hscan, ⟨hheader, hdata, hend⟩, hdim, hbound, rfl⟩
    exact ⟨([], s), hscan, (), by simp [hheader, hdata, hend, failIf], (), hdim, (), hbound, rfl⟩

/-- A PNG that has been written: the signature, and the kept chunks of the source. -/
lemma sanitizePng_chunks (h : sanitizePng source = .ok image) :
    ∃ chunks : List (List UInt8), (∀ chunk ∈ chunks, pngFraming.IsFrame chunk)
      ∧ source.drop PNG_SIGNATURE.length = chunks.flatten
      ∧ image.bytes = PNG_SIGNATURE ++ (chunks.filter isKeptChunk).flatten := by
  obtain ⟨s, hscan, -, -, -, rfl⟩ := sanitizePng_eq_ok.mp h
  obtain ⟨chunks, hread⟩ := exists_pngRead hscan
  obtain ⟨hsource, hframes, hchunks⟩ := hread.spec
  refine ⟨chunks, hframes, by simpa using hsource, ?_⟩
  simp only [hchunks, pngStart, List.flatten_append, List.flatten_singleton]

/-- A sanitized PNG is sanitized already. -/
lemma sanitizePng_sanitized (h : sanitizePng source = .ok image) :
    image.bytes.take PNG_SIGNATURE.length = PNG_SIGNATURE ∧ sanitizePng image.bytes = .ok image := by
  obtain ⟨s, hscan, ⟨hheader, hdata, hend⟩, hdim, hbound, rfl⟩ := sanitizePng_eq_ok.mp h
  obtain ⟨chunks, hread⟩ := exists_pngRead hscan
  obtain ⟨t, hkept, hf⟩ := hread.kept (t := pngStart)
    ⟨rfl, rfl, rfl, rfl, rfl, le_rfl, fun _ => rfl⟩ rfl
  have hbytes : s.chunks.flatten = PNG_SIGNATURE ++ (chunks.filter isKeptChunk).flatten := by
    simp only [hread.spec.2.2, pngStart, List.flatten_append, List.flatten_singleton]
  have hagain : t.chunks = s.chunks := by
    rw [hread.spec.2.2, hkept.spec.2.2, List.filter_filter]
    simp only [Bool.and_self]
  refine ⟨by rw [hbytes, List.take_left], sanitizePng_eq_ok.mpr ⟨t, ?_, ?_, ?_, ?_, ?_⟩⟩
  · rw [hbytes, List.drop_left]
    simpa using hkept.scanPng
  · exact ⟨hf.sawHeader.trans hheader, hf.sawData.trans hdata, hf.sawEnd.trans hend⟩
  · rwa [hf.width, hf.height]
  · rwa [hagain]
  · rw [hagain, hf.width, hf.height]

/-! ### What is read of a JPEG -/

/-- Data that goes on with a marker, after some fill bytes. -/
lemma jpegMarker_fill (fill : Nat) (hmarker : marker ≠ 0xFF) (rest : List UInt8) :
    jpegMarker (List.replicate fill 0xFF ++ 0xFF :: marker :: rest) = some (marker, rest) := by
  have hhead : (List.replicate fill (0xFF : UInt8) ++ 0xFF :: marker :: rest).head? = some 0xFF := by
    cases fill <;> rfl
  have hdrop : (List.replicate fill (0xFF : UInt8) ++ 0xFF :: marker :: rest).dropWhile (· == 0xFF)
      = marker :: rest := by
    rw [List.dropWhile_append_of_pos (by simp), List.dropWhile_cons_of_pos (by simp),
      List.dropWhile_cons_of_neg (by simpa using hmarker)]
  rw [jpegMarker, if_pos hhead, hdrop]

lemma jpegMarker_eq_some (h : jpegMarker rest = some (marker, rest')) :
    marker ≠ 0xFF ∧ ∃ fill, rest = List.replicate fill 0xFF ++ 0xFF :: marker :: rest' := by
  rw [jpegMarker] at h
  split_ifs at h with hhead
  split at h
  · cases h
  · next m r hr =>
    simp only [Option.some.injEq, Prod.mk.injEq] at h
    obtain ⟨rfl, rfl⟩ := h
    have hne : m ≠ 0xFF := by
      have hnot := List.head?_dropWhile_not (· == (0xFF : UInt8)) rest
      rw [hr] at hnot
      simpa using hnot
    have hfill : rest.takeWhile (· == 0xFF)
        = List.replicate (rest.takeWhile (· == 0xFF)).length 0xFF :=
      List.eq_replicate_of_mem fun b hb => by simpa using List.mem_takeWhile_imp hb
    have hrest := List.takeWhile_append_dropWhile (p := (· == (0xFF : UInt8))) (l := rest)
    rw [hr, hfill] at hrest
    cases hk : (rest.takeWhile (· == (0xFF : UInt8))).length with
    | zero =>
      -- the data would begin with the marker
      rw [hk, List.replicate_zero, List.nil_append] at hrest
      rw [← hrest, List.head?_cons, Option.some.injEq] at hhead
      exact absurd hhead hne
    | succ fill =>
      refine ⟨hne, fill, ?_⟩
      rw [← hrest, hk, List.replicate_succ', List.append_assoc, List.singleton_append]

lemma jpegSegmentLength_eq_some {n : Nat} :
    jpegSegmentLength rest = some n ↔ 2 ≤ n ∧ n ≤ rest.length ∧ n = readBigEndian 2 rest := by
  simp only [jpegSegmentLength, Option.ite_none_left_eq_some, not_or, not_lt, Option.some.injEq]
  constructor
  · rintro ⟨-, ⟨hpos, hle⟩, rfl⟩
    exact ⟨hpos, hle, rfl⟩
  · rintro ⟨hpos, hle, rfl⟩
    exact ⟨hpos.trans hle, ⟨hpos, hle⟩, rfl⟩

/-- A segment before the scan; the body begins with its length. -/
structure JpegSegment where
  marker : UInt8
  body : List UInt8
  marker_ne : marker ≠ 0xFF ∧ marker ≠ 0xD9 ∧ marker ≠ 0xDA
  /-- A marker stands alone or begins a segment with a length. -/
  framed : if isStandaloneJpegMarker marker then body = []
    else 2 ≤ body.length ∧ readBigEndian 2 body = body.length
  dimensions : isJpegStartOfFrame marker = true → 7 ≤ body.length

namespace JpegSegment

def bytes (segment : JpegSegment) : List UInt8 := 0xFF :: segment.marker :: segment.body

def isPublic (segment : JpegSegment) : Bool := !isPrivateJpegSegment segment.marker

end JpegSegment

/-- The segments before the first scan, and the scan. -/
inductive JpegHeader : List UInt8 → List JpegSegment → List UInt8 → Prop
  | scan (fill : Nat) {scan} (h : (jpegSegmentLength scan).isSome) :
      JpegHeader (List.replicate fill 0xFF ++ 0xFF :: 0xDA :: scan) [] scan
  | segment (fill : Nat) (segment : JpegSegment) {rest segments scan}
      (h : JpegHeader rest segments scan) :
      JpegHeader (List.replicate fill 0xFF ++ (segment.bytes ++ rest)) (segment :: segments) scan

variable (segments : List JpegSegment)

/-- The variables after some segments. -/
def JpegScan.read (s : JpegScan) : JpegScan :=
  segments.foldl (fun s segment => s.segment segment.marker segment.body) s

lemma scanJpeg_marker (h : jpegMarker rest = some (marker, rest')) (s : JpegScan) :
    scanJpeg rest s =
      if marker = 0xD9 then .ok { s with chunks := s.chunks ++ [[0xFF, marker]] }
      else if marker = 0xDA then
        match jpegSegmentLength rest' with
        | none => .error imageInvalid
        | some _ => .ok { s with
            chunks := s.chunks ++ [0xFF :: marker :: rest'], foundScan := true }
      else if isStandaloneJpegMarker marker then
        scanJpeg rest' { s with chunks := s.chunks ++ [[0xFF, marker]] }
      else
        match jpegSegmentLength rest' with
        | none => .error imageInvalid
        | some length =>
          if isJpegStartOfFrame marker ∧ length < 7 then .error imageInvalid
          else scanJpeg (rest'.drop length) (s.segment marker (rest'.take length)) := by
  have hne : rest ≠ [] := by
    rintro rfl
    cases h
  rw [scanJpeg, if_neg hne]
  split
  · next hnone => rw [h] at hnone; cases hnone
  · next m r hsome =>
    rw [h, Option.some.injEq, Prod.mk.injEq] at hsome
    obtain ⟨rfl, rfl⟩ := hsome
    rfl

variable {scan : List UInt8}

lemma scanJpeg_scan (fill : Nat) (h : (jpegSegmentLength scan).isSome) (s : JpegScan) :
    scanJpeg (List.replicate fill 0xFF ++ 0xFF :: 0xDA :: scan) s
      = .ok { s with chunks := s.chunks ++ [0xFF :: 0xDA :: scan], foundScan := true } := by
  obtain ⟨n, hn⟩ := Option.isSome_iff_exists.mp h
  rw [scanJpeg_marker (jpegMarker_fill fill (by decide) scan), if_neg (by decide), if_pos rfl, hn]

/-- A marker that stands alone is not private and begins no frame. -/
lemma standalone_marker (h : isStandaloneJpegMarker marker = true) :
    isPrivateJpegSegment marker = false ∧ isJpegStartOfFrame marker = false := by
  have hall : (List.range 256).all (fun n => !isStandaloneJpegMarker n.toUInt8
      || (!isPrivateJpegSegment n.toUInt8 && !isJpegStartOfFrame n.toUInt8)) = true := by
    decide +kernel
  have hmarker := List.all_eq_true.mp hall marker.toNat (List.mem_range.mpr marker.toNat_lt)
  simpa only [Nat.toUInt8_eq, UInt8.ofNat_toNat, h, Bool.not_true, Bool.false_or,
    Bool.and_eq_true, Bool.not_eq_true'] using hmarker

lemma JpegScan.segment_standalone (h : isStandaloneJpegMarker marker = true) (s : JpegScan) :
    s.segment marker [] = { s with chunks := s.chunks ++ [[0xFF, marker]] } := by
  simp [JpegScan.segment, standalone_marker h]

lemma scanJpeg_segment (fill : Nat) (segment : JpegSegment) (rest : List UInt8) (s : JpegScan) :
    scanJpeg (List.replicate fill 0xFF ++ (segment.bytes ++ rest)) s
      = scanJpeg rest (s.segment segment.marker segment.body) := by
  obtain ⟨hfill, hend, hscan⟩ := segment.marker_ne
  have hframed := segment.framed
  have hread := scanJpeg_marker (jpegMarker_fill fill hfill (segment.body ++ rest)) s
  rw [if_neg hend, if_neg hscan] at hread
  rw [JpegSegment.bytes, List.cons_append, List.cons_append, hread]
  by_cases hstandalone : isStandaloneJpegMarker segment.marker = true
  · rw [if_pos hstandalone] at hframed
    rw [if_pos hstandalone, hframed, JpegScan.segment_standalone hstandalone, List.nil_append]
  · rw [if_neg hstandalone] at hframed
    have hlength : jpegSegmentLength (segment.body ++ rest) = some segment.body.length := by
      rw [jpegSegmentLength_eq_some, readBigEndian_append hframed.1, List.length_append]
      exact ⟨hframed.1, Nat.le_add_right _ _, hframed.2.symm⟩
    have hframe : ¬(isJpegStartOfFrame segment.marker = true ∧ segment.body.length < 7) :=
      fun hbad => absurd (segment.dimensions hbad.1) (by omega)
    rw [if_neg hstandalone, hlength]
    simp only [if_neg hframe, List.take_left, List.drop_left]

lemma JpegHeader.scanJpeg {segments : List JpegSegment} (h : JpegHeader rest segments scan)
    (s : JpegScan) :
    TetiBot.scanJpeg rest s = .ok { s.read segments with
      chunks := (s.read segments).chunks ++ [0xFF :: 0xDA :: scan], foundScan := true } := by
  induction h generalizing s with
  | scan fill h => exact scanJpeg_scan fill h s
  | segment fill segment _ ih => rw [scanJpeg_segment, ih]; rfl

/-- The loop that finds a scan reads a header. -/
lemma exists_jpegHeader {s s' : JpegScan} (h : scanJpeg rest s = .ok s') (hs : s.foundScan = false)
    (hs' : s'.foundScan = true) : ∃ segments scan, JpegHeader rest segments scan := by
  induction hk : rest.length using Nat.strong_induction_on generalizing rest s with
  | _ k ih =>
    subst hk
    cases hmarker : jpegMarker rest with
    | none =>
      rw [scanJpeg] at h
      split_ifs at h
      · obtain rfl := Except.ok.inj h
        rw [hs] at hs'
        cases hs'
      · split at h
        · cases h
        · next hsome => rw [hmarker] at hsome; cases hsome
    | some read =>
      obtain ⟨marker, rest'⟩ := read
      have hlt := jpegMarker_length hmarker
      rw [scanJpeg_marker hmarker] at h
      obtain ⟨hfill, fill, rfl⟩ := jpegMarker_eq_some hmarker
      by_cases hend : marker = 0xD9
      · rw [if_pos hend] at h
        obtain rfl := Except.ok.inj h
        rw [hs] at hs'
        cases hs'
      · rw [if_neg hend] at h
        by_cases hscan : marker = 0xDA
        · subst hscan
          cases hlength : jpegSegmentLength rest' with
          | none => simp [hlength] at h
          | some n => exact ⟨[], rest', .scan fill (by simp [hlength])⟩
        · rw [if_neg hscan] at h
          by_cases hstandalone : isStandaloneJpegMarker marker = true
          · rw [if_pos hstandalone] at h
            obtain ⟨segments, scan, hread⟩ := ih _ hlt h hs rfl
            let segment : JpegSegment := ⟨marker, [], ⟨hfill, hend, hscan⟩, by
              simp [hstandalone], by simp [standalone_marker hstandalone]⟩
            exact ⟨_, scan, .segment fill segment hread⟩
          · rw [if_neg hstandalone] at h
            cases hlength : jpegSegmentLength rest' with
            | none => simp [hlength] at h
            | some n =>
              simp only [hlength] at h
              obtain ⟨hpos, hle, hn⟩ := jpegSegmentLength_eq_some.mp hlength
              have hlen : (rest'.take n).length = n := List.length_take_of_le hle
              by_cases hframe : isJpegStartOfFrame marker = true ∧ n < 7
              · simp [hframe] at h
              · rw [if_neg hframe] at h
                obtain ⟨segments, scan, hread⟩ := ih (rest'.drop n).length
                  (by rw [List.length_drop]; omega) h hs rfl
                let segment : JpegSegment := ⟨marker, rest'.take n, ⟨hfill, hend, hscan⟩, by
                  rw [if_neg hstandalone, hlen, readBigEndian_take hpos]
                  exact ⟨hpos, hn.symm⟩, by
                  rw [hlen]
                  exact fun hmarker => not_lt.mp fun hlt => hframe ⟨hmarker, hlt⟩⟩
                have hsegment := JpegHeader.segment fill segment hread
                refine ⟨segment :: segments, scan, ?_⟩
                rwa [JpegSegment.bytes, List.cons_append, List.cons_append,
                  List.take_append_drop] at hsegment

/-! ### What is kept of a JPEG -/

lemma JpegHeader.scan_spec {segments : List JpegSegment} (h : JpegHeader rest segments scan) :
    (jpegSegmentLength scan).isSome ∧ (0xFF :: 0xDA :: scan) <:+ rest := by
  induction h with
  | scan fill h => exact ⟨h, List.suffix_append _ _⟩
  | segment fill segment _ ih =>
    exact ⟨ih.1, (ih.2.trans (List.suffix_append _ _)).trans (List.suffix_append _ _)⟩

/-- Segments that are written one after the other are read again. -/
lemma jpegHeader_bytes (h : (jpegSegmentLength scan).isSome) :
    JpegHeader (segments.flatMap JpegSegment.bytes ++ 0xFF :: 0xDA :: scan) segments scan := by
  induction segments with
  | nil => exact .scan 0 h
  | cons segment segments ih =>
    rw [List.flatMap_cons, List.append_assoc]
    exact .segment 0 segment ih

lemma JpegScan.chunks_read (s : JpegScan) :
    (s.read segments).chunks
      = s.chunks ++ (segments.filter JpegSegment.isPublic).map JpegSegment.bytes := by
  induction segments generalizing s with
  | nil => simp [JpegScan.read]
  | cons segment segments ih =>
    have hread : s.read (segment :: segments)
        = (s.segment segment.marker segment.body).read segments := rfl
    rw [hread, ih]
    cases hprivate : isPrivateJpegSegment segment.marker <;>
      simp [JpegScan.segment, JpegSegment.isPublic, JpegSegment.bytes, hprivate]

/-- A private segment is not the one with the dimensions. -/
lemma isJpegStartOfFrame_of_private (h : isPrivateJpegSegment marker = true) :
    isJpegStartOfFrame marker = false := by
  simp only [isPrivateJpegSegment, Bool.or_eq_true, beq_iff_eq] at h
  obtain (rfl | rfl) | rfl := h <;> rfl

lemma JpegScan.dimensions_read {s t : JpegScan} (hwidth : t.width = s.width)
    (hheight : t.height = s.height) :
    (t.read (segments.filter JpegSegment.isPublic)).width = (s.read segments).width
      ∧ (t.read (segments.filter JpegSegment.isPublic)).height = (s.read segments).height := by
  induction segments generalizing s t with
  | nil => exact ⟨hwidth, hheight⟩
  | cons segment segments ih =>
    cases hprivate : isPrivateJpegSegment segment.marker with
    | true =>
      have hframe := isJpegStartOfFrame_of_private hprivate
      rw [List.filter_cons_of_neg (by simp [JpegSegment.isPublic, hprivate])]
      exact ih (by simp [JpegScan.segment, hframe, hwidth]) (by simp [JpegScan.segment, hframe, hheight])
    | false =>
      rw [List.filter_cons_of_pos (by simp [JpegSegment.isPublic, hprivate])]
      exact ih (by simp [JpegScan.segment, hwidth]) (by simp [JpegScan.segment, hheight])

/-- What is written for some segments and a scan. -/
def jpegBytes (scan : List UInt8) : List UInt8 :=
  segments.flatMap JpegSegment.bytes ++ 0xFF :: 0xDA :: scan

lemma sanitizeJpeg_eq_ok :
    sanitizeJpeg source = .ok image ↔
      ∃ segments scan s, JpegHeader (source.drop 2) segments scan
        ∧ s = (JpegScan.mk [source.take 2] 0 0 false).read segments
        ∧ (s.width ≠ 0 ∧ s.height ≠ 0 ∧ [0xFF, 0xD9] <:+ source)
        ∧ requireDimensions s.width s.height = .ok () ∧ requireBoundedBytes image.bytes = .ok ()
        ∧ image = ⟨source.take 2 ++ jpegBytes (segments.filter JpegSegment.isPublic) scan, .jpeg,
          s.width, s.height⟩ := by
  simp only [sanitizeJpeg, except_bind_eq_ok, pure, Except.pure, Except.ok.injEq]
  constructor
  · rintro ⟨s, hscan, ⟨⟩, hread, ⟨⟩, hdim, ⟨⟩, hbound, rfl⟩
    simp only [failIf_eq_ok, not_or, Bool.not_eq_true', Bool.not_eq_false, not_not] at hread
    obtain ⟨hfound, hwidth, hheight, hsuffix⟩ := hread
    obtain ⟨segments, scan, hheader⟩ := exists_jpegHeader hscan rfl hfound
    rw [hheader.scanJpeg] at hscan
    obtain rfl := Except.ok.inj hscan
    refine ⟨segments, scan, _, hheader, rfl, ⟨hwidth, hheight, hsuffix⟩, hdim, hbound, ?_⟩
    simp [JpegScan.chunks_read, jpegBytes, List.flatMap]
  · rintro ⟨segments, scan, s, hheader, rfl, ⟨hwidth, hheight, hsuffix⟩, hdim, hbound, rfl⟩
    refine ⟨_, hheader.scanJpeg _, (), ?_, (), hdim, (), ?_, ?_⟩
    · exact failIf_eq_ok.mpr (by simp [hwidth, hheight, hsuffix])
    · simpa [JpegScan.chunks_read, jpegBytes, List.flatMap] using hbound
    · simp [JpegScan.chunks_read, jpegBytes, List.flatMap]

/-- A sanitized JPEG is sanitized already. -/
lemma sanitizeJpeg_sanitized (hsource : source.take 2 = [0xFF, 0xD8])
    (h : sanitizeJpeg source = .ok image) :
    4 ≤ image.bytes.length ∧ image.bytes.take 2 = [0xFF, 0xD8]
      ∧ sanitizeJpeg image.bytes = .ok image := by
  obtain ⟨segments, scan, s, hheader, hs, ⟨hwidth, hheight, hsuffix⟩, hdim, hbound, himage⟩ :=
    sanitizeJpeg_eq_ok.mp h
  obtain ⟨hscan, htail⟩ := hheader.scan_spec
  have hkept := jpegHeader_bytes (segments.filter JpegSegment.isPublic) hscan
  have hbytes : image.bytes
      = [0xFF, 0xD8] ++ jpegBytes (segments.filter JpegSegment.isPublic) scan := by
    rw [himage, hsource]
  have htake : image.bytes.take 2 = [0xFF, 0xD8] := by rw [hbytes]; rfl
  have hdrop : image.bytes.drop 2 = jpegBytes (segments.filter JpegSegment.isPublic) scan := by
    rw [hbytes]; rfl
  refine ⟨?_, htake, sanitizeJpeg_eq_ok.mpr ⟨segments.filter JpegSegment.isPublic, scan, _,
    by rwa [hdrop], rfl, ?_⟩⟩
  · rw [hbytes]
    simp only [jpegBytes, List.length_append, List.length_cons]
    omega
  · obtain ⟨hw, hh⟩ := JpegScan.dimensions_read segments
      (s := ⟨[source.take 2], 0, 0, false⟩) (t := ⟨[image.bytes.take 2], 0, 0, false⟩) rfl rfl
    rw [hw, hh, ← hs]
    refine ⟨⟨hwidth, hheight, ?_⟩, hdim, hbound, ?_⟩
    · have hend : [0xFF, 0xD9] <:+ 0xFF :: 0xDA :: scan :=
        List.suffix_of_suffix_length_le hsuffix (htail.trans (List.drop_suffix 2 source)) (by simp)
      rw [hbytes, jpegBytes]
      exact (hend.trans (List.suffix_append _ _)).trans (List.suffix_append _ _)
    · rw [himage, hsource, List.filter_filter]
      simp

/-! ### The store -/

section Store

-- `digest(bytes)`
variable (digest : List UInt8 → String)

def readBoundedFile (file : List UInt8) : Except TaskError (List UInt8) := do
  failIf (file.length = 0 ∨ MAX_TASK_IMAGE_BYTES < file.length) (plainError "TASK_IMAGE_SIZE_INVALID")
  requireBoundedBytes file
  return file

def imagePart (attachmentId : String) (image : SanitizedImage) : Except TaskError TaskImagePart := do
  let part : TaskImagePart := {
    attachmentId := attachmentId
    mimeType := image.mimeType
    byteLength := image.bytes.length
    width := image.width
    height := image.height
    sha256 := digest image.bytes }
  validateTaskImagePart part "Task image part"
  return part

def requireMatchingImage (part : TaskImagePart) (image : SanitizedImage) : Except TaskError Unit :=
  failIf (part.mimeType ≠ image.mimeType ∨ part.byteLength ≠ image.bytes.length
      ∨ part.width ≠ image.width ∨ part.height ≠ image.height ∨ part.sha256 ≠ digest image.bytes)
    (plainError "TASK_ATTACHMENT_MISMATCH")

/-- `verifyStoredImage` of the file that is found at the path. -/
def verifyStoredImage (file : List UInt8) (part : TaskImagePart) : Except TaskError Unit := do
  let image ← sanitizeImage (← readBoundedFile file)
  requireMatchingImage digest part image

/-- `stageImage` of the selected file: the part, and the file that is written. -/
def stageImage (attachmentId : String) (source : List UInt8) :
    Except TaskError (TaskImagePart × List UInt8) := do
  let sanitized ← sanitizeImage (← readBoundedFile source)
  let part ← imagePart digest attachmentId sanitized
  return (part, sanitized.bytes)

/-- `ingestImage` of a received file: the file that is at the destination in the end. `stored`
is what is there before, `quota` the verdict of the two quotas. -/
def ingestImage (part : TaskImagePart) (source : List UInt8) (stored : Option (List UInt8))
    (quota : Except TaskError Unit) : Except TaskError (List UInt8) := do
  validateTaskImagePart part "Task image part"
  let sanitized ← sanitizeImage (← readBoundedFile source)
  requireMatchingImage digest part sanitized
  match stored.filter fun file => (verifyStoredImage digest file part).isOk with
  | some file => return file
  | none =>
    quota
    verifyStoredImage digest sanitized.bytes part
    return sanitized.bytes

variable {digest} {source : List UInt8} {image : SanitizedImage}

lemma sanitizeImage_bounded (h : sanitizeImage source = .ok image) :
    requireBoundedBytes image.bytes = .ok () := by
  rw [sanitizeImage] at h
  split_ifs at h
  · obtain ⟨s, -, -, -, hbound, rfl⟩ := sanitizePng_eq_ok.mp h
    exact hbound
  · obtain ⟨_, _, _, _, _, _, _, hbound, _⟩ := sanitizeJpeg_eq_ok.mp h
    exact hbound

/-- A sanitized image is sanitized already. -/
lemma sanitizeImage_again (h : sanitizeImage source = .ok image) :
    sanitizeImage image.bytes = .ok image := by
  rw [sanitizeImage] at h
  split_ifs at h with hpng hjpeg
  · obtain ⟨hsignature, hagain⟩ := sanitizePng_sanitized h
    rw [sanitizeImage, if_pos hsignature, hagain]
  · obtain ⟨hlen, hstart, hagain⟩ := sanitizeJpeg_sanitized hjpeg.2 h
    have hno : image.bytes.take PNG_SIGNATURE.length ≠ PNG_SIGNATURE := by
      intro heq
      have htwo := congrArg (List.take 2) heq
      rw [List.take_take, show min 2 PNG_SIGNATURE.length = 2 from rfl, hstart] at htwo
      exact absurd htwo (by decide)
    rw [sanitizeImage, if_neg hno, if_pos ⟨hlen, hstart⟩, hagain]

variable {part : TaskImagePart}

lemma imagePart_eq_ok {attachmentId : String} (h : imagePart digest attachmentId image = .ok part) :
    validateTaskImagePart part "Task image part" = .ok ()
      ∧ requireMatchingImage digest part image = .ok () := by
  simp only [imagePart, except_bind_eq_ok, pure, Except.pure, Except.ok.injEq] at h
  obtain ⟨⟨⟩, hvalid, rfl⟩ := h
  exact ⟨hvalid, by simp [requireMatchingImage, failIf]⟩

lemma readBoundedFile_again (h : sanitizeImage source = .ok image) :
    (readBoundedFile image.bytes >>= sanitizeImage) = .ok image := by
  have hbound := sanitizeImage_bounded h
  have hbound' := hbound
  rw [requireBoundedBytes, failIf_eq_ok] at hbound'
  simp only [readBoundedFile, failIf, if_neg hbound', except_ok_bind, hbound]
  exact sanitizeImage_again h

lemma verifyStoredImage_again (h : sanitizeImage source = .ok image)
    (hpart : requireMatchingImage digest part image = .ok ()) :
    verifyStoredImage digest image.bytes part = .ok () := by
  have hread := readBoundedFile_again h
  rw [except_bind_eq_ok] at hread
  obtain ⟨file, hfile, hagain⟩ := hread
  rw [verifyStoredImage, hfile, except_ok_bind, hagain, except_ok_bind, hpart]

lemma stageImage_eq_ok {attachmentId : String} {file : List UInt8}
    (h : stageImage digest attachmentId source = .ok (part, file)) :
    ∃ image, sanitizeImage source = .ok image ∧ imagePart digest attachmentId image = .ok part
      ∧ file = image.bytes := by
  simp only [stageImage, readBoundedFile, bind_assoc, except_bind_eq_ok, pure, Except.pure,
    Except.ok.injEq, Prod.mk.injEq] at h
  obtain ⟨_, _, _, _, _, rfl, image, himage, part, hpart, rfl, rfl⟩ := h
  exact ⟨image, himage, hpart, rfl⟩

/-- What has been staged is received, whatever is stored there. -/
lemma ingestImage_staged (h : sanitizeImage source = .ok image)
    (hvalid : validateTaskImagePart part "Task image part" = .ok ())
    (hpart : requireMatchingImage digest part image = .ok ()) (stored : Option (List UInt8)) :
    ∃ file, ingestImage digest part image.bytes stored (.ok ()) = .ok file
      ∧ verifyStoredImage digest file part = .ok () := by
  have hverify := verifyStoredImage_again h hpart
  have hread := readBoundedFile_again h
  rw [except_bind_eq_ok] at hread
  obtain ⟨file, hfile, hagain⟩ := hread
  simp only [ingestImage, hvalid, hfile, hagain, hpart, except_ok_bind]
  cases hstored : stored.filter fun file => (verifyStoredImage digest file part).isOk with
  | none => exact ⟨image.bytes, by simp [hverify, except_ok_bind, pure, Except.pure], hverify⟩
  | some kept =>
    rw [Option.filter_eq_some_iff] at hstored
    have hkept : verifyStoredImage digest kept part = .ok () := by
      cases hv : verifyStoredImage digest kept part with
      | ok => rfl
      | error e => simp [hv, Except.isOk, Except.toBool] at hstored
    exact ⟨kept, rfl, hkept⟩

/-- **Sanitized images are stable**: sanitizing one again returns the same bytes, type and
dimensions, and a staged image passes the checks of the store, and those of the receiver,
whatever is stored there. -/
theorem sanitizeImage_sanitized (source : List UInt8) :
    (∀ image, sanitizeImage source = .ok image → sanitizeImage image.bytes = .ok image)
      ∧ ∀ attachmentId part file, stageImage digest attachmentId source = .ok (part, file) →
        verifyStoredImage digest file part = .ok ()
          ∧ ∀ stored, ∃ kept, ingestImage digest part file stored (.ok ()) = .ok kept
            ∧ verifyStoredImage digest kept part = .ok () := by
  refine ⟨fun image h => sanitizeImage_again h, fun attachmentId part file hstaged => ?_⟩
  obtain ⟨image, himage, hmade, rfl⟩ := stageImage_eq_ok hstaged
  obtain ⟨hvalid, hpart⟩ := imagePart_eq_ok hmade
  exact ⟨verifyStoredImage_again himage hpart, ingestImage_staged himage hvalid hpart⟩

end Store

/-- A JPEG of one pixel: fill bytes and a comment before the frame. -/
def commentedJpeg : List UInt8 :=
  [0xFF, 0xD8, 0xFF, 0xFF, 0xFE, 0, 4, 104, 105, 0xFF, 0xC0, 0, 7, 8, 0, 1, 0, 1, 0xFF, 0xDA, 0, 2,
    1, 0xFF, 0xD9]

def plainJpeg : SanitizedImage where
  bytes := [0xFF, 0xD8, 0xFF, 0xC0, 0, 7, 8, 0, 1, 0, 1, 0xFF, 0xDA, 0, 2, 1, 0xFF, 0xD9]
  mimeType := .jpeg
  width := 1
  height := 1

def zeroDigest (_ : List UInt8) : String :=
  "sha256:0000000000000000000000000000000000000000000000000000000000000000"

def plainPart : TaskImagePart where
  attachmentId := "image-1"
  mimeType := .jpeg
  byteLength := 18
  width := 1
  height := 1
  sha256 := zeroDigest []

/-- The image without the comment is stable. -/
theorem sanitizeImage_sanitized_plain :
    sanitizeImage plainJpeg.bytes = .ok plainJpeg
      ∧ verifyStoredImage zeroDigest plainJpeg.bytes plainPart = .ok () :=
  have himage : sanitizeImage commentedJpeg = .ok plainJpeg := by decide +kernel
  have hstaged : stageImage zeroDigest "image-1" commentedJpeg = .ok (plainPart, plainJpeg.bytes) := by
    decide +kernel
  ⟨(@sanitizeImage_sanitized zeroDigest commentedJpeg).1 _ himage,
    ((sanitizeImage_sanitized commentedJpeg).2 _ _ _ hstaged).1⟩

end TetiBot
