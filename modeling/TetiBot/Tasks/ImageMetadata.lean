import TetiBot.Tasks.Images

/-
The metadata of a sanitized image (`sanitizePng`, `sanitizeJpeg`).

* `jpegMarkers`: the markers of a whole file, over its scans and over the images
  that come after the first one;
* `pngChunks`: the chunks of a file, with their types as they are written;
* `jpegMarkers_sanitized`, `pngChunks_sanitized`: what is left of them;
* `metadata_removed_iff`: when the metadata is gone.

The loop over a JPEG ends at the first scan, and what comes after is copied. The
loop over a PNG reads the type of a chunk as ASCII, which loses the highest bits.
-/

namespace TetiBot

open Library

/-! ### The markers of a JPEG -/

/-- A marker without a segment. After the first scan another image may begin. -/
def standsAlone (scanned : Bool) (marker : UInt8) : Bool :=
  isStandaloneJpegMarker marker || marker == 0xD9 || (scanned && marker == 0xD8)

/-- The markers in some bytes. Before the first scan they follow one another, each with its
segment; after it the data of a scan is passed over, in which 0x00 follows 0xFF. -/
def jpegMarkersFrom (scanned : Bool) (bytes : List UInt8) : List UInt8 :=
  match _h : jpegMarker bytes with
  | none =>
    match bytes with
    | [] => []
    | _ :: rest => if scanned then jpegMarkersFrom true rest else []
  | some (marker, rest) =>
    if scanned ∧ marker = 0x00 then jpegMarkersFrom true rest
    else if standsAlone scanned marker then marker :: jpegMarkersFrom scanned rest
    else marker :: jpegMarkersFrom (scanned || marker == 0xDA) (rest.drop (readBigEndian 2 rest))
termination_by bytes.length
decreasing_by
  · simp
  · exact jpegMarker_length _h
  · exact jpegMarker_length _h
  · have hlt := jpegMarker_length _h
    rw [List.length_drop]
    omega

lemma jpegMarkersFrom_marker {bytes rest : List UInt8} {marker : UInt8}
    (h : jpegMarker bytes = some (marker, rest)) (scanned : Bool) :
    jpegMarkersFrom scanned bytes =
      if scanned ∧ marker = 0x00 then jpegMarkersFrom true rest
      else if standsAlone scanned marker then marker :: jpegMarkersFrom scanned rest
      else
        marker :: jpegMarkersFrom (scanned || marker == 0xDA)
          (rest.drop (readBigEndian 2 rest)) := by
  rw [jpegMarkersFrom]
  split
  · next hnone => rw [h] at hnone; cases hnone
  · next m r hsome =>
    rw [h, Option.some.injEq, Prod.mk.injEq] at hsome
    obtain ⟨rfl, rfl⟩ := hsome
    rfl

/-- The markers of a file, after the one it begins with. -/
def jpegMarkers (file : List UInt8) : List UInt8 := jpegMarkersFrom false (file.drop 2)

/-- The markers before the first scan are those of the segments. -/
lemma jpegMarkersFrom_segment (fill : Nat) (segment : JpegSegment) (rest : List UInt8) :
    jpegMarkersFrom false (List.replicate fill 0xFF ++ (segment.bytes ++ rest))
      = segment.marker :: jpegMarkersFrom false rest := by
  obtain ⟨hfill, hend, hscan⟩ := segment.marker_ne
  have hframed := segment.framed
  have hread := jpegMarkersFrom_marker
    (jpegMarker_fill fill hfill (segment.body ++ rest)) false
  rw [JpegSegment.bytes, List.cons_append, List.cons_append, hread, if_neg (by simp)]
  by_cases hstandalone : isStandaloneJpegMarker segment.marker = true
  · rw [if_pos hstandalone] at hframed
    rw [if_pos (by simp [standsAlone, hstandalone]), hframed, List.nil_append]
  · rw [if_neg hstandalone] at hframed
    rw [if_neg (by simp [standsAlone, hstandalone, hend]), readBigEndian_append hframed.1,
      hframed.2, List.drop_left, Bool.false_or, beq_false_of_ne hscan]

lemma JpegHeader.markers {rest scan : List UInt8} {segments : List JpegSegment}
    (h : JpegHeader rest segments scan) :
    jpegMarkersFrom false rest = segments.map JpegSegment.marker
      ++ 0xDA :: jpegMarkersFrom true (scan.drop (readBigEndian 2 scan)) := by
  induction h with
  | scan fill h =>
    rw [jpegMarkersFrom_marker (jpegMarker_fill fill (by decide) _), if_neg (by simp),
      if_neg (by decide)]
    rfl
  | segment fill segment _ ih => rw [jpegMarkersFrom_segment, ih]; rfl

variable {source : List UInt8} {image : SanitizedImage}

/-- **What is left of the markers**: before the first scan those that are not private, and
from there on all of them. -/
theorem jpegMarkers_sanitized (hsource : source.take 2 = [0xFF, 0xD8])
    (h : sanitizeJpeg source = .ok image) :
    jpegMarkers image.bytes
      = ((jpegMarkers source).takeWhile (· != 0xDA)).filter (fun m => !isPrivateJpegSegment m)
        ++ (jpegMarkers source).dropWhile (· != 0xDA) := by
  obtain ⟨segments, scan, s, hheader, -, -, -, -, himage⟩ := sanitizeJpeg_eq_ok.mp h
  have hkept := jpegHeader_bytes (segments.filter JpegSegment.isPublic) hheader.scan_spec.1
  have hdrop : image.bytes.drop 2 = jpegBytes (segments.filter JpegSegment.isPublic) scan := by
    rw [himage, hsource]; rfl
  have hbefore : ∀ m ∈ segments.map JpegSegment.marker, (m != 0xDA) = true := by
    intro m hm
    obtain ⟨segment, -, rfl⟩ := List.mem_map.mp hm
    simpa using segment.marker_ne.2.2
  rw [jpegMarkers, jpegMarkers, hdrop, jpegBytes, hkept.markers, hheader.markers,
    List.takeWhile_append_of_pos hbefore, List.dropWhile_append_of_pos hbefore]
  simp only [List.takeWhile_cons, List.dropWhile_cons, bne_self_eq_false, Bool.false_eq_true,
    if_false, List.append_nil, List.filter_map]
  rfl

/-! ### The chunks of a PNG -/

/-- The chunks of a file, after the signature. -/
def pngChunks (file : List UInt8) : List (List UInt8) :=
  (pngFraming.split (file.drop PNG_SIGNATURE.length)).1

/-- The type of a chunk as it is written. -/
def rawType (chunk : List UInt8) : List UInt8 := (chunk.drop 4).take 4

/-- The fifth bit of the type says that a chunk is ancillary. -/
def isAncillary (chunk : List UInt8) : Bool := (rawType chunk).head?.any fun b => b &&& 0x20 != 0

/-- What comes after the first IEND chunk. -/
def bytesAfterEnd (file : List UInt8) : List UInt8 :=
  ((pngChunks file).dropWhile fun chunk => rawType chunk != asciiCodes "IEND").tail.flatten
    ++ (pngFraming.split (file.drop PNG_SIGNATURE.length)).2

/-- Chunks that are written one after the other are read again, to the end. -/
lemma split_pngChunks {chunks : List (List UInt8)}
    (h : ∀ chunk ∈ chunks, pngFraming.IsFrame chunk) :
    pngFraming.split chunks.flatten = (chunks, []) := by
  have hsplit := Framing.split_flatten h []
  have hnil : pngFraming.split [] = ([], []) := Framing.split_of_none (by decide)
  rwa [hnil, List.append_nil, List.append_nil] at hsplit

/-- **What is left of the chunks**: the safe ones. -/
theorem pngChunks_sanitized (h : sanitizePng source = .ok image) :
    pngChunks image.bytes = (pngChunks source).filter isKeptChunk := by
  obtain ⟨chunks, hframes, hsource, himage⟩ := sanitizePng_chunks h
  rw [pngChunks, pngChunks, himage, List.drop_left, hsource, split_pngChunks hframes,
    split_pngChunks fun chunk hchunk => hframes chunk (List.mem_of_mem_filter hchunk)]

/-- The chunks that the loop has read: their types are letters, and only the last of them may
be the end. -/
lemma PngRead.types {rest rest' : List UInt8} {s s' : PngScan} {chunks : List (List UInt8)}
    (h : PngRead rest s chunks rest' s') :
    (∀ chunk ∈ chunks, (pngType chunk).all isAsciiLetter = true)
      ∧ ∀ chunk ∈ chunks.dropLast, pngType chunk ≠ asciiCodes "IEND" := by
  induction h with
  | done h => simp
  | last hframe hmax hchunk hend => simpa using (pngChunk_eq_ok.mp hchunk).1
  | @more chunk rest chunks rest' s s₁ s' hframe hmax hchunk hend hread ih =>
    obtain ⟨hletters, -, -, rfl⟩ := pngChunk_eq_ok.mp hchunk
    have hother : pngType chunk ≠ asciiCodes "IEND" := by
      simp only [PngScan.next, Bool.or_eq_false_iff, beq_eq_false_iff_ne] at hend
      exact hend.2
    refine ⟨List.forall_mem_cons.mpr ⟨hletters, ih.1⟩, fun c hc => ?_⟩
    cases chunks with
    | nil => simp at hc
    | cons next chunks =>
      rw [List.dropLast_cons_of_ne_nil (List.cons_ne_nil _ _), List.mem_cons] at hc
      rcases hc with rfl | hc
      · exact hother
      · exact ih.2 c hc

lemma tail_dropWhile {α : Type*} {p : α → Bool} {l : List α} (h : ∀ a ∈ l.dropLast, p a = true) :
    (l.dropWhile p).tail = [] := by
  induction l with
  | nil => rfl
  | cons a l ih =>
    cases l with
    | nil => cases hp : p a <;> simp [hp]
    | cons b l =>
      rw [List.dropLast_cons_of_ne_nil (List.cons_ne_nil _ _), List.forall_mem_cons] at h
      rw [List.dropWhile_cons_of_pos h.1]
      exact ih h.2

lemma exists_pngRead_of_sanitized (h : sanitizePng source = .ok image) :
    ∃ s, PngRead (source.drop PNG_SIGNATURE.length) pngStart (pngChunks source) [] s
      ∧ (pngFraming.split (source.drop PNG_SIGNATURE.length)).2 = [] := by
  obtain ⟨s, hscan, -⟩ := sanitizePng_eq_ok.mp h
  obtain ⟨chunks, hread⟩ := exists_pngRead hscan
  obtain ⟨hsource, hframes, -⟩ := hread.spec
  rw [List.append_nil] at hsource
  have hsplit := split_pngChunks hframes
  rw [← hsource] at hsplit
  exact ⟨s, by rwa [pngChunks, hsplit], by rw [hsplit]⟩

lemma bytesAfterEnd_sanitized (h : sanitizePng source = .ok image) :
    bytesAfterEnd image.bytes = [] := by
  obtain ⟨s, hread, hrest⟩ := exists_pngRead_of_sanitized (sanitizePng_sanitized h).2
  have hlast : ∀ chunk ∈ (pngChunks image.bytes).dropLast,
      (rawType chunk != asciiCodes "IEND") = true := by
    intro chunk hchunk
    simp only [bne_iff_ne]
    intro hraw
    have hend : asciiText (asciiCodes "IEND") = asciiCodes "IEND" := by decide
    exact hread.types.2 chunk hchunk (hraw ▸ hend)
  rw [bytesAfterEnd, hrest, tail_dropWhile hlast]
  rfl

/-- A letter is upper case exactly if its fifth bit is not set. -/
lemma toUpperCase_masked {b : UInt8} (h : isAsciiLetter (b &&& 0x7F) = true) :
    toUpperCase (b &&& 0x7F) = b &&& 0x7F ↔ b &&& 0x20 = 0 := by
  have hall : (List.range 256).all (fun n => !isAsciiLetter (n.toUInt8 &&& 0x7F)
      || ((toUpperCase (n.toUInt8 &&& 0x7F) == n.toUInt8 &&& 0x7F) == (n.toUInt8 &&& 0x20 == 0)))
      = true := by
    decide +kernel
  have hb := List.all_eq_true.mp hall b.toNat (List.mem_range.mpr b.toNat_lt)
  simp only [Nat.toUInt8_eq, UInt8.ofNat_toNat, h, Bool.not_true, Bool.false_or, beq_iff_eq] at hb
  rw [← beq_iff_eq, hb, beq_iff_eq]

/-- A chunk is critical to the code exactly if it is not ancillary. -/
lemma critical_iff {chunk : List UInt8} (h : (pngType chunk).all isAsciiLetter = true) :
    ((pngType chunk).head? == (pngType chunk).head?.map toUpperCase) = true
      ↔ isAncillary chunk = false := by
  have htype : pngType chunk = (rawType chunk).map (· &&& 0x7F) := rfl
  cases hraw : rawType chunk with
  | nil => simp [htype, hraw, isAncillary]
  | cons b type =>
    rw [htype, hraw, List.map_cons, List.all_cons, Bool.and_eq_true] at h
    rw [htype, hraw, isAncillary, hraw]
    simp only [List.map_cons, List.head?_cons, Option.map_some, beq_iff_eq, Option.some.injEq,
      Option.any_some, bne_eq_false_iff_eq]
    rw [eq_comm, toUpperCase_masked h.1]

/-- What is kept: the chunks that are not ancillary, and those on the list. -/
lemma isKeptChunk_iff {chunk : List UInt8} (h : (pngType chunk).all isAsciiLetter = true) :
    isKeptChunk chunk = true
      ↔ isAncillary chunk = false ∨ pngType chunk ∈ SAFE_ANCILLARY_CHUNKS := by
  rw [isKeptChunk, isSafePngChunk, Bool.or_eq_true, List.contains_iff_mem, critical_iff h]

/-- The chunks on the list are ancillary. -/
lemma isAncillary_of_mem {chunk : List UInt8} (h : pngType chunk ∈ SAFE_ANCILLARY_CHUNKS) :
    isAncillary chunk = true := by
  have hlist : ∀ type ∈ SAFE_ANCILLARY_CHUNKS, type.all isAsciiLetter = true
      ∧ (type.head? == type.head?.map toUpperCase) = false := by
    decide
  obtain ⟨hletters, hlower⟩ := hlist _ h
  by_contra hnot
  rw [Bool.not_eq_true, ← critical_iff hletters, hlower] at hnot
  cases hnot

/-! ### What is gone -/

/-- No private segment of a JPEG at any position, and no ancillary chunk of a PNG that is not
on the list, nor anything after its end. -/
def MetadataRemoved (image : SanitizedImage) : Prop :=
  match image.mimeType with
  | .jpeg => ∀ marker ∈ jpegMarkers image.bytes, isPrivateJpegSegment marker = false
  | .png =>
    (∀ chunk ∈ pngChunks image.bytes, isAncillary chunk = true →
      rawType chunk ∈ SAFE_ANCILLARY_CHUNKS) ∧ bytesAfterEnd image.bytes = []

/-- The source has no private segment from its first scan on, or no chunk whose type is on the
list only without its highest bits. -/
def PlainWhereCopied (source : List UInt8) : Prop :=
  if source.take PNG_SIGNATURE.length = PNG_SIGNATURE then
    ∀ chunk ∈ pngChunks source, pngType chunk ∈ SAFE_ANCILLARY_CHUNKS →
      rawType chunk ∈ SAFE_ANCILLARY_CHUNKS
  else ∀ marker ∈ (jpegMarkers source).dropWhile (· != 0xDA), isPrivateJpegSegment marker = false

lemma sanitizeJpeg_removed_iff (hsource : source.take 2 = [0xFF, 0xD8])
    (h : sanitizeJpeg source = .ok image) :
    MetadataRemoved image
      ↔ ∀ marker ∈ (jpegMarkers source).dropWhile (· != 0xDA), isPrivateJpegSegment marker = false := by
  have hmarkers := jpegMarkers_sanitized hsource h
  obtain ⟨_, _, _, -, -, -, -, -, himage⟩ := sanitizeJpeg_eq_ok.mp h
  have hmime : image.mimeType = .jpeg := by rw [himage]
  simp only [MetadataRemoved, hmime, hmarkers, List.forall_mem_append, List.mem_filter,
    Bool.not_eq_true']
  exact and_iff_right fun _ hmarker => hmarker.2

lemma sanitizePng_removed_iff (h : sanitizePng source = .ok image) :
    MetadataRemoved image ↔ ∀ chunk ∈ pngChunks source, pngType chunk ∈ SAFE_ANCILLARY_CHUNKS →
      rawType chunk ∈ SAFE_ANCILLARY_CHUNKS := by
  obtain ⟨s, hread, -⟩ := exists_pngRead_of_sanitized h
  have hletters := hread.types.1
  obtain ⟨_, -, -, -, -, himage⟩ := sanitizePng_eq_ok.mp h
  have hmime : image.mimeType = .png := by rw [himage]
  simp only [MetadataRemoved, hmime, pngChunks_sanitized h, bytesAfterEnd_sanitized h, and_true,
    List.mem_filter]
  constructor
  · intro hclean chunk hchunk hlist
    exact hclean chunk ⟨hchunk, (isKeptChunk_iff (hletters chunk hchunk)).mpr (.inr hlist)⟩
      (isAncillary_of_mem hlist)
  · rintro hsource chunk ⟨hchunk, hkept⟩ hancillary
    rcases (isKeptChunk_iff (hletters chunk hchunk)).mp hkept with hnot | hlist
    · rw [hancillary] at hnot
      cases hnot
    · exact hsource chunk hchunk hlist

/-- **When the metadata is gone**: exactly if the source has none of it where the sanitizer
copies what it does not read. -/
theorem metadata_removed_iff {source : List UInt8} {image : SanitizedImage}
    (h : sanitizeImage source = .ok image) : MetadataRemoved image ↔ PlainWhereCopied source := by
  rw [sanitizeImage] at h
  split_ifs at h with hpng hjpeg
  · rw [PlainWhereCopied, if_pos hpng]
    exact sanitizePng_removed_iff h
  · rw [PlainWhereCopied, if_neg hpng]
    exact sanitizeJpeg_removed_iff hjpeg.2 h

/-- Two images in one file; the second one says where it was taken. -/
def trailingJpeg : List UInt8 :=
  [0xFF, 0xD8, 0xFF, 0xC0, 0, 7, 8, 0, 1, 0, 1, 0xFF, 0xDA, 0, 2, 1, 0xFF, 0xD9,
    0xFF, 0xD8, 0xFF, 0xE1, 0, 8, 69, 120, 105, 102, 0, 0, 0xFF, 0xD9]

/-- The metadata of the comment is gone. -/
theorem metadata_removed_comment : MetadataRemoved plainJpeg :=
  have h : sanitizeImage commentedJpeg = .ok plainJpeg := by decide +kernel
  (metadata_removed_iff h).mpr (by rw [PlainWhereCopied, if_neg (by decide)]; decide +kernel)

/-- The metadata of the second image is not. -/
theorem trailing_metadata_kept :
    sanitizeImage trailingJpeg = .ok ⟨trailingJpeg, .jpeg, 1, 1⟩
      ∧ ¬MetadataRemoved ⟨trailingJpeg, .jpeg, 1, 1⟩ := by
  refine ⟨by decide +kernel, fun h => ?_⟩
  have hexif : (0xE1 : UInt8) ∈ jpegMarkers trailingJpeg := by decide +kernel
  exact absurd (h _ hexif) (by decide)

end TetiBot
