import TetiBot.Callable.ExactRecords
import TetiBot.Core.Dates
import TetiBot.Library.JsonData

/-
Task requests as the data that arrives (`core/task/validation.ts`,
`core/task/transport-validation.ts`): a value whose objects list their fields in
any order, and whose times are texts.

* `isTaskRequest`: the validator accepts the value.
* `overlooksKey`: an object of the value has a key that is not listed, which an
  accepted one has only after the empty key.
* `canonicalTaskRequest`: the value that `canonicalTaskRequestJson` writes.
* `canonicalTaskRequest_sameData`, `canonicalTaskRequest_congr`: it says the same as
  a request that overlooks no key, and such requests that say the same have the same.
* `redeliveryStatus_json`: the requests of the runtime are written in the canonical
  order, so that it compares them as data.
* `retouchRequest`: other data with the same canonical text, where a key is overlooked.
* `canonicalTaskRequestJson_faithful_iff`: two requests have the same canonical text
  exactly if they are the same data, as long as they overlook no key.
-/

namespace TetiBot

open Library Library.Json

namespace RequestData

/-! ### Values -/

/-- `value === text`. -/
def isText (text : String) : Option Json → Bool
  | some (.str s) => s = JsString.ofString text
  | _ => false

/-- A string that matches a pattern of ASCII characters. -/
def matchesPattern (pattern : String → Bool) : Option Json → Bool
  | some (.str s) => (JsString.toString? s).any pattern
  | _ => false

/-- The text of a value that is one. -/
def textOf : Option Json → Option JsString
  | some (.str s) => some s
  | _ => none

/-- A positive integer of at most `maximum`. -/
def isPositiveInteger (maximum : Nat) : Option Json → Bool
  | some (.num n) => 0 < n && n ≤ maximum
  | _ => false

/-! ### The validator -/

/-- `exactRecord` returns the object; `found` is how it looks for a key. -/
def isExactRecord (found : List (String × Json) → String → Bool) (keys : List String) : Json → Bool
  | .obj fields => !isTruthy (extraKey fields keys) && !isTruthy (missingKey (found fields) keys)
  | _ => false

/-- `safeSlug`. -/
def isSafeSlug (s : String) : Bool := s.length ≤ 128 && safeSlugPattern s

/-- `validateTextPart`. -/
def isTextPart (maxBytes : Nat) (value : Json) : Bool :=
  isExactRecord hasKey ["kind", "text"] value && isText "text" (value.field "kind")
    && match value.field "text" with
      | some (.str t) => !JsString.isBlank t && JsString.utf8Size t ≤ maxBytes
      | _ => false

def IMAGE_FIELDS : List String :=
  ["kind", "attachmentId", "mimeType", "byteLength", "width", "height", "sha256"]

variable (value : Json)

/-- `validateTaskImagePart`. -/
def isTaskImagePart : Bool :=
  isExactRecord hasKey IMAGE_FIELDS value && isText "image" (value.field "kind")
    && matchesPattern safeTaskId (value.field "attachmentId")
    && (isText "image/jpeg" (value.field "mimeType") || isText "image/png" (value.field "mimeType"))
    && isPositiveInteger MAX_TASK_IMAGE_BYTES (value.field "byteLength")
    && isPositiveInteger MAX_TASK_IMAGE_DIMENSION (value.field "width")
    && isPositiveInteger MAX_TASK_IMAGE_DIMENSION (value.field "height")
    && matchesPattern sha256Pattern (value.field "sha256")

/-- The kind of a part decides how it is read. -/
def isTextKind (part : Json) : Bool := isText "text" (part.field "kind")

/-- The pass over the parts; `attachmentIds` are those already seen. -/
def arePartsFrom (requireLeadingText : Bool) (maximumTextBytes : Nat) :
    Nat → List JsString → List Json → Bool
  | _, _, [] => true
  | index, attachmentIds, part :: parts =>
    if isTextKind part then
      isTextPart maximumTextBytes part && !(requireLeadingText && index ≠ 0)
        && arePartsFrom requireLeadingText maximumTextBytes (index + 1) attachmentIds parts
    else
      let attachmentId := textOf (part.field "attachmentId")
      isTaskImagePart part && !attachmentId.any attachmentIds.contains
        && arePartsFrom requireLeadingText maximumTextBytes (index + 1)
          (attachmentId.toList ++ attachmentIds) parts

def byteLength (part : Json) : Nat :=
  match part.field "byteLength" with
  | some (.num n) => n
  | _ => 0

/-- `validateParts`. -/
def areParts (requireLeadingText : Bool) (maximumTextBytes : Nat) : Option Json → Bool
  | some (.arr parts) =>
    let textCount := (parts.filter isTextKind).length
    let images := parts.filter fun part => !isTextKind part
    0 < parts.length && parts.length ≤ MAX_TASK_INPUT_PARTS
      && arePartsFrom requireLeadingText maximumTextBytes 0 [] parts
      && !(requireLeadingText && textCount ≠ 1) && !(!requireLeadingText && 1 < textCount)
      && images.length ≤ MAX_TASK_IMAGE_PARTS
      && (images.map byteLength).sum ≤ MAX_TASK_IMAGE_TOTAL_BYTES
  | _ => false

/-- `validateMultipartInput`. -/
def isMultipartInput : Bool :=
  isExactRecord hasKey ["kind", "parts"] value && isText "parts" (value.field "kind")
    && areParts true MAX_TASK_INPUT_TEXT_BYTES (value.field "parts")

def workspaceAccessOf? (item : Json) : Option WorkspaceAccess :=
  ACCESS_ORDER.find? fun access => isText access.text (some item)

/-- `validateWorkspaceAccess`. -/
def isWorkspaceAccess : Option Json → Bool
  | some (.arr items) =>
    items.all (fun item => (workspaceAccessOf? item).isSome)
      && (validateWorkspaceAccess (items.filterMap workspaceAccessOf?)).toBool
  | _ => false

def TEMPORARY_FIELDS : List String := ["kind", "access"]

def REFERENCE_FIELDS : List String := ["kind", "workspaceId", "workspaceRevision", "access"]

/-- `validateTaskWorkspaceRequest`. -/
def isTaskWorkspaceRequest : Bool :=
  if isText "temporary" (value.field "kind") then
    isExactRecord hasOwnKey TEMPORARY_FIELDS value && isWorkspaceAccess (value.field "access")
  else if isText "reference" (value.field "kind") then
    isExactRecord hasOwnKey REFERENCE_FIELDS value
      && matchesPattern safeTaskId (value.field "workspaceId")
      && isPositiveInteger MAX_SAFE_INTEGER (value.field "workspaceRevision")
      && isWorkspaceAccess (value.field "access")
  else false

variable (parseDate : JsString → Option Timestamp)

/-- `timestamp`: the time that `Date.parse` reads. -/
def timestamp : Option Json → Option Timestamp
  | some (.str s) => if JsString.isBlank s then none else parseDate s
  | _ => none

/-- The fields of a request of a version, in the order of the canonical text. -/
def requestFields (schemaVersion : Nat) : List String :=
  ["schemaVersion", "taskId", "requesterTetiId", "targetTetiId", "offerId", "capabilityId"]
    ++ ["input"] ++ (if 5 ≤ schemaVersion then ["workspace"] else [])
    ++ (if 6 ≤ schemaVersion then ["executionMode"] else []) ++ ["createdAt", "expiresAt"]

/-- `validateCollaborationTaskRequest`, after its version was read. -/
def isRequestOfVersion (schemaVersion : Nat) (value : Json) : Bool :=
  value.encodedSize ≤ MAX_TASK_REQUEST_BYTES
    && isExactRecord hasKey (requestFields schemaVersion) value
    && 1 ≤ schemaVersion && schemaVersion ≤ 7
    && matchesPattern safeTaskId (value.field "taskId")
    && matchesPattern isCanonicalTetiPublicId (value.field "requesterTetiId")
    && matchesPattern isCanonicalTetiPublicId (value.field "targetTetiId")
    && textOf (value.field "requesterTetiId") ≠ textOf (value.field "targetTetiId")
    && matchesPattern safeTaskId (value.field "offerId")
    && matchesPattern isSafeSlug (value.field "capabilityId")
    && (value.field "input").any (fun input =>
      if schemaVersion = 1 then isTextPart MAX_TASK_INPUT_TEXT_BYTES input
      else isMultipartInput input)
    && (schemaVersion < 5 || (value.field "workspace").any isTaskWorkspaceRequest)
    && (schemaVersion < 6 || isText "single_stage" (value.field "executionMode")
      || isText "long_horizon" (value.field "executionMode"))
    && match timestamp parseDate (value.field "createdAt"),
        timestamp parseDate (value.field "expiresAt") with
      | some createdAt, some expiresAt =>
        createdAt < expiresAt && expiresAt - createdAt ≤ MAX_TASK_REQUEST_TTL_MS
      | _, _ => false

/-- `validateCollaborationTaskRequest` returns without an error.  `Date.parse` is a
parameter: which texts it reads depends on the engine. -/
def isTaskRequest (value : Json) : Bool :=
  match value.field "schemaVersion" with
  | some (.num schemaVersion) => isRequestOfVersion parseDate schemaVersion value
  | _ => false

/-! ### Keys that are not listed -/

/-- The object has a key that is not listed. -/
def hasUnlisted (keys : List String) : Json → Bool
  | .obj fields => (extraKey fields keys).isSome
  | _ => false

/-- The keys of a part. -/
def partFields (part : Json) : List String :=
  if isTextKind part then ["kind", "text"] else IMAGE_FIELDS

def partsOf (input : Json) : List Json :=
  match input.field "parts" with
  | some (.arr parts) => parts
  | _ => []

/-- The objects of an input that are checked, each with its keys. -/
def inputObjects (input : Json) : List (List String × Json) :=
  if isTextKind input then [(["kind", "text"], input)]
  else (["kind", "parts"], input) :: (partsOf input).map fun part => (partFields part, part)

/-- The keys of a workspace request. -/
def workspaceFields (workspace : Json) : List String :=
  if isText "temporary" (workspace.field "kind") then TEMPORARY_FIELDS else REFERENCE_FIELDS

def versionOf : Nat :=
  match value.field "schemaVersion" with
  | some (.num schemaVersion) => schemaVersion
  | _ => 0

/-- The objects of a request that are checked, each with its keys. -/
def checkedObjects : List (List String × Json) :=
  (requestFields (versionOf value), value)
    :: ((value.field "input").toList.flatMap inputObjects
      ++ if 5 ≤ versionOf value then
          (value.field "workspace").toList.map fun workspace => (workspaceFields workspace, workspace)
        else [])

/-- Some object of the request has a key that is not listed. -/
def overlooksKey : Bool :=
  (checkedObjects value).any fun object => hasUnlisted object.1 object.2

/-! ### The canonical text -/

def canonicalTextPart (part : Json) : Json :=
  .obj (("kind", jsonString "text") :: project ["text"] keep part)

def canonicalImagePart (part : Json) : Json :=
  .obj (("kind", jsonString "image")
    :: project ["attachmentId", "mimeType", "byteLength", "width", "height", "sha256"] keep part)

def canonicalPart (part : Json) : Json :=
  if isTextKind part then canonicalTextPart part else canonicalImagePart part

/-- `parts.map(canonicalPart)`. -/
def canonicalParts : Json → Json
  | .arr parts => .arr (parts.map canonicalPart)
  | value => value

def canonicalInput (input : Json) : Json :=
  if isTextKind input then .obj (("kind", jsonString "text") :: project ["text"] keep input)
  else
    .obj (("kind", jsonString "parts") :: project ["parts"] (fun _ parts => canonicalParts parts) input)

/-- `[...value]`, which throws unless the value is a list or a string. -/
def spread : Option Json → Option Json
  | some (.arr items) => some (.arr items)
  | some (.str s) => some (.arr ((JsString.characters s).map .str))
  | _ => none

/-- `canonicalWorkspace`, where it does not throw. -/
def canonicalWorkspace (workspace : Json) : Option Json :=
  (spread (workspace.field "access")).map fun access =>
    if isText "temporary" (workspace.field "kind") then
      .obj [("kind", jsonString "temporary"), ("access", access)]
    else
      .obj (("kind", jsonString "reference")
        :: project ["workspaceId", "workspaceRevision"] keep workspace ++ [("access", access)])

/-- `...(value.workspace ? { workspace: canonicalWorkspace(value.workspace) } : {})`. -/
def workspaceMember : Option (List (String × Json)) :=
  if truthy (value.field "workspace") then
    ((value.field "workspace").bind canonicalWorkspace).map fun workspace =>
      [("workspace", workspace)]
  else some []

/-- The value that `canonicalTaskRequestJson` writes, where it does not throw. -/
def canonicalTaskRequest : Option Json :=
  (workspaceMember value).map fun workspace =>
    .obj (project
        ["schemaVersion", "taskId", "requesterTetiId", "targetTetiId", "offerId", "capabilityId"]
        keep value
      ++ project ["input"] (fun _ input => canonicalInput input) value
      ++ workspace
      ++ (if truthy (value.field "executionMode") then project ["executionMode"] keep value else [])
      ++ project ["createdAt", "expiresAt"] keep value)

def canonicalTaskRequestJson : Option JsString :=
  (canonicalTaskRequest value).map stringify

/-- What `receiveRequest` answers where it knows a request of this task. -/
def redeliveryStatus (existing request : Json) : Option TetiTaskReceiptStatus := do
  let existingText ← canonicalTaskRequestJson existing
  let text ← canonicalTaskRequestJson request
  return if existingText = text then .duplicate else .conflict

/-- `inputDigest` of a grant; `sha256` writes the hexadecimal digest of a text. -/
def inputDigest (sha256 : JsString → JsString) (request : Json) : Option JsString :=
  (canonicalTaskRequestJson request).map fun text => JsString.ofString "sha256:" ++ sha256 text

/-- The canonical form of a workspace request that was checked. -/
def checkedWorkspace (workspace : Json) : Json :=
  if isText "temporary" (workspace.field "kind") then
    .obj (("kind", jsonString "temporary") :: project ["access"] keep workspace)
  else
    .obj (("kind", jsonString "reference")
      :: project ["workspaceId", "workspaceRevision", "access"] keep workspace)

/-! ### What the validator has seen -/

lemma hasOwnKey_eq {fields : List (String × Json)} (key : String) :
    hasOwnKey fields key = (lookup fields key).isSome := by
  rw [hasOwnKey, objectKeys, lookup, Option.isSome_map, Bool.eq_iff_iff, List.find?_isSome]
  simp

/-- An object that is accepted, and has no other key, has exactly the keys: none of
them is empty or inherited. -/
lemma isRecordOf_of_listed {found : List (String × Json) → String → Bool} {keys : List String}
    {v : Json} (h : isExactRecord found keys v = true) (hlisted : hasUnlisted keys v = false)
    (hfound : ∀ fields key, found fields key = true → hasKey fields key = true)
    (hkeys : ∀ key ∈ keys, key ≠ "" ∧ key ∉ OBJECT_PROTOTYPE_KEYS) : isRecordOf keys v = true := by
  cases v with
  | obj fields =>
    simp only [isExactRecord, Bool.and_eq_true, Bool.not_eq_true', isTruthy_eq_false] at h
    have hextra : ∀ field ∈ fields, field.1 ∈ keys := by
      have hnone : extraKey fields keys = none := by simpa [hasUnlisted] using hlisted
      simpa [extraKey, objectKeys, List.find?_eq_none] using hnone
    have hmissing : ∀ key ∈ keys, found fields key = true := by
      rcases h.2 with hnone | hempty
      · simpa [missingKey, List.find?_eq_none] using hnone
      · exact absurd rfl (hkeys _ (List.mem_of_find?_eq_some hempty)).1
    simp only [isRecordOf, Bool.and_eq_true, List.all_eq_true, List.contains_iff_mem]
    refine ⟨hextra, fun key hkey => ?_⟩
    have hown := hfound fields key (hmissing key hkey)
    rw [hasKey, Bool.or_eq_true, List.contains_iff_mem] at hown
    rw [← hasOwnKey_eq]
    exact hown.resolve_right (hkeys key hkey).2
  | null => cases h
  | bool b => cases h
  | num n => cases h
  | decimal d => cases h
  | str s => cases h
  | arr items => cases h

lemma isRecordOf_of_hasKey {keys : List String} {v : Json}
    (h : isExactRecord hasKey keys v = true) (hlisted : hasUnlisted keys v = false)
    (hkeys : ∀ key ∈ keys, key ≠ "" ∧ key ∉ OBJECT_PROTOTYPE_KEYS) : isRecordOf keys v = true :=
  isRecordOf_of_listed h hlisted (fun _ _ h => h) hkeys

variable {value : Option Json}

lemma isText_iff {text : String} : isText text value = true ↔ value = some (jsonString text) := by
  constructor
  · intro h
    rcases value with _ | (_ | b | n | d | s | items | fields) <;> simp [isText] at h
    rw [h]
    rfl
  · rintro rfl
    simp [isText, jsonString]

variable {w : Json}

lemma isText_congr {v : Json} (h : SameData v w) (text name : String) :
    isText text (v.field name) = isText text (w.field name) := by
  obtain ⟨x, y, hx, hy, hsame⟩ | ⟨hx, hy⟩ := h.field name
  · rw [hx, hy]
    cases hsame <;> rfl
  · rw [hx, hy]

lemma isPlain_of_matches {pattern : String → Bool} (h : matchesPattern pattern value = true) :
    ∀ x, value = some x → isPlain x = true := by
  rintro x rfl
  cases x <;> first | rfl | cases h

lemma isPlain_of_positive {maximum : Nat} (h : isPositiveInteger maximum value = true) :
    ∀ x, value = some x → isPlain x = true := by
  rintro x rfl
  cases x <;> first | rfl | cases h

lemma isPlain_of_text {text : String} (h : isText text value = true) :
    ∀ x, value = some x → isPlain x = true := by
  rintro x rfl
  cases x <;> first | rfl | cases h

lemma isScalar_of_access {item : Json} {access : WorkspaceAccess}
    (h : workspaceAccessOf? item = some access) : isScalar item = true := by
  have htext := List.find?_some h
  cases item <;> first | rfl | cases htext

lemma isPlain_of_access (h : isWorkspaceAccess value = true) :
    ∀ x, value = some x → isPlain x = true := by
  rintro x rfl
  cases x with
  | arr items =>
    simp only [isWorkspaceAccess, Bool.and_eq_true] at h
    refine List.all_eq_true.mpr fun item hmem => ?_
    obtain ⟨access, haccess⟩ := Option.isSome_iff_exists.mp (List.all_eq_true.mp h.1 item hmem)
    exact isScalar_of_access haccess
  | null => rfl
  | bool b => rfl
  | num n => rfl
  | decimal d => rfl
  | str s => rfl
  | obj fields => cases h

/-! ### Parts -/

lemma textPart_plain {maxBytes : Nat} {v : Json} (h : isTextPart maxBytes v = true) :
    ∀ x, v.field "text" = some x → isPlain x = true := by
  intro x hx
  rw [isTextPart, hx, Bool.and_eq_true] at h
  cases x <;> first | rfl | cases h.2

lemma sameData_canonicalTextPart {maxBytes : Nat} {v : Json} (h : isTextPart maxBytes v = true)
    (hlisted : hasUnlisted ["kind", "text"] v = false) : SameData (canonicalTextPart v) v := by
  simp only [isTextPart, Bool.and_eq_true] at h
  have hrecord := isRecordOf_of_hasKey h.1.1 hlisted (by decide)
  exact sameData_kind hrecord (isText_iff.mp h.1.2) (by decide) fun _ _ _ _ => .refl _

lemma canonicalTextPart_congr {maxBytes : Nat} {v : Json} (h : isTextPart maxBytes v = true)
    (hsame : SameData v w) : canonicalTextPart v = canonicalTextPart w := by
  rw [canonicalTextPart, canonicalTextPart, project_keep_congr hsame]
  simpa using textPart_plain h

lemma sameData_canonicalImagePart {v : Json} (h : isTaskImagePart v = true)
    (hlisted : hasUnlisted IMAGE_FIELDS v = false) : SameData (canonicalImagePart v) v := by
  simp only [isTaskImagePart, Bool.and_eq_true] at h
  have hrecord := isRecordOf_of_hasKey h.1.1.1.1.1.1.1 hlisted (by decide)
  exact sameData_kind hrecord (isText_iff.mp h.1.1.1.1.1.1.2) (by decide) fun _ _ _ _ => .refl _

lemma canonicalImagePart_congr {v : Json} (h : isTaskImagePart v = true) (hsame : SameData v w) :
    canonicalImagePart v = canonicalImagePart w := by
  rw [canonicalImagePart, canonicalImagePart, project_keep_congr hsame]
  simp only [isTaskImagePart, Bool.and_eq_true, Bool.or_eq_true] at h
  obtain ⟨⟨⟨⟨⟨⟨-, hid⟩, hmime⟩, hbytes⟩, hwidth⟩, hheight⟩, hsha⟩ := h
  intro name hmem
  simp only [List.mem_cons, List.not_mem_nil, or_false] at hmem
  rcases hmem with rfl | rfl | rfl | rfl | rfl | rfl
  · exact isPlain_of_matches hid
  · exact hmime.elim isPlain_of_text isPlain_of_text
  · exact isPlain_of_positive hbytes
  · exact isPlain_of_positive hwidth
  · exact isPlain_of_positive hheight
  · exact isPlain_of_matches hsha

/-- Each part is accepted, as its kind says. -/
lemma part_accepted {part : Json} {requireLeadingText : Bool} {maximumTextBytes : Nat}
    {parts : List Json} (hmem : part ∈ parts) {index : Nat} {attachmentIds : List JsString}
    (h : arePartsFrom requireLeadingText maximumTextBytes index attachmentIds parts = true) :
    isTextKind part = true ∧ isTextPart maximumTextBytes part = true
      ∨ ¬isTextKind part = true ∧ isTaskImagePart part = true := by
  induction parts generalizing index attachmentIds with
  | nil => cases hmem
  | cons first parts ih =>
    rw [arePartsFrom] at h
    by_cases hkind : isTextKind first = true
    · simp only [hkind, if_true, Bool.and_eq_true] at h
      rcases List.mem_cons.mp hmem with rfl | hmem
      · exact .inl ⟨hkind, h.1.1⟩
      · exact ih hmem h.2
    · simp only [hkind, if_false, Bool.false_eq_true, Bool.and_eq_true] at h
      rcases List.mem_cons.mp hmem with rfl | hmem
      · exact .inr ⟨hkind, h.1.1⟩
      · exact ih hmem h.2

lemma canonicalPart_sameData_congr {part : Json} {maximumTextBytes : Nat}
    (h : isTextKind part = true ∧ isTextPart maximumTextBytes part = true
      ∨ ¬isTextKind part = true ∧ isTaskImagePart part = true) :
    (hasUnlisted (partFields part) part = false → SameData (canonicalPart part) part)
      ∧ ∀ w, SameData part w → canonicalPart part = canonicalPart w := by
  rcases h with ⟨hkind, h⟩ | ⟨hkind, h⟩
  · rw [canonicalPart, if_pos hkind, partFields, if_pos hkind]
    refine ⟨sameData_canonicalTextPart h, fun w hw => ?_⟩
    have hw' : isTextKind w = true := (isText_congr hw "text" "kind").symm.trans hkind
    rw [canonicalPart, if_pos hw', canonicalTextPart_congr h hw]
  · rw [canonicalPart, if_neg hkind, partFields, if_neg hkind]
    refine ⟨sameData_canonicalImagePart h, fun w hw => ?_⟩
    have hw' : ¬isTextKind w = true := fun h => hkind ((isText_congr hw "text" "kind").trans h)
    rw [canonicalPart, if_neg hw', canonicalImagePart_congr h hw]

/-! ### Inputs and workspaces -/

/-- The parts that the validator has seen. -/
lemma areParts_iff {requireLeadingText : Bool} {maximumTextBytes : Nat}
    (h : areParts requireLeadingText maximumTextBytes value = true) :
    ∃ parts, value = some (.arr parts)
      ∧ arePartsFrom requireLeadingText maximumTextBytes 0 [] parts = true := by
  rcases value with _ | (_ | b | n | d | s | parts | fields)
  case some.arr =>
    simp only [areParts, Bool.and_eq_true] at h
    exact ⟨parts, rfl, h.1.1.1.1.2⟩
  all_goals cases h

/-- An input that the validator has seen, of either form. -/
def IsInput (input : Json) : Prop :=
  isTextPart MAX_TASK_INPUT_TEXT_BYTES input = true ∨ isMultipartInput input = true

/-- Which form it is can be read off the kind. -/
lemma isTextKind_of_input {v : Json} (h : IsInput v) :
    isTextPart MAX_TASK_INPUT_TEXT_BYTES v = true ∧ isTextKind v = true
      ∨ isMultipartInput v = true ∧ isTextKind v = false := by
  rcases h with h | h
  · have hkind := h
    simp only [isTextPart, Bool.and_eq_true] at hkind
    exact .inl ⟨h, hkind.1.2⟩
  · have hkind := h
    simp only [isMultipartInput, Bool.and_eq_true] at hkind
    refine .inr ⟨h, ?_⟩
    rw [isTextKind, isText_iff.mp hkind.1.2]
    decide

lemma sameData_canonicalInput {v : Json} (h : IsInput v)
    (hlisted : ∀ object ∈ inputObjects v, hasUnlisted object.1 object.2 = false) :
    SameData (canonicalInput v) v := by
  rw [inputObjects] at hlisted
  rcases isTextKind_of_input h with ⟨h, hkind⟩ | ⟨h, hkind⟩
  · rw [if_pos hkind] at hlisted
    rw [canonicalInput, if_pos hkind]
    exact sameData_canonicalTextPart h (hlisted _ List.mem_cons_self)
  · rw [if_neg (by simp [hkind])] at hlisted
    simp only [isMultipartInput, Bool.and_eq_true] at h
    obtain ⟨⟨hrecord, hparts⟩, hfrom⟩ := h
    rw [canonicalInput, if_neg (by simp [hkind])]
    refine sameData_kind (isRecordOf_of_hasKey hrecord (hlisted _ List.mem_cons_self) (by decide))
      (isText_iff.mp hparts) (by decide) fun name hmem x hx => ?_
    obtain rfl := List.mem_singleton.mp hmem
    obtain ⟨parts, hfield, hfrom⟩ := areParts_iff hfrom
    obtain rfl := Option.some.inj (hx.symm.trans hfield)
    have hpartsOf : partsOf v = parts := by rw [partsOf, hfield]
    exact sameData_map fun part hpart => (canonicalPart_sameData_congr (part_accepted hpart hfrom)).1
      (hlisted _ (List.mem_cons_of_mem _ (List.mem_map.mpr ⟨part, hpartsOf ▸ hpart, rfl⟩)))

lemma canonicalInput_congr {v : Json} (h : IsInput v) (hsame : SameData v w) :
    canonicalInput v = canonicalInput w := by
  have hkinds : isTextKind v = isTextKind w := isText_congr hsame "text" "kind"
  rcases isTextKind_of_input h with ⟨h, hkind⟩ | ⟨h, hkind⟩
  · rw [canonicalInput, canonicalInput, if_pos hkind, if_pos (hkinds ▸ hkind),
      project_keep_congr hsame]
    simpa using textPart_plain h
  · rw [canonicalInput, canonicalInput, if_neg (by simp [hkind]), if_neg (by simp [← hkinds, hkind])]
    congr 2
    refine project_congr hsame fun name hmem x y hx hy hxy => ?_
    obtain rfl := List.mem_singleton.mp hmem
    simp only [isMultipartInput, Bool.and_eq_true] at h
    obtain ⟨parts, hfield, hfrom⟩ := areParts_iff h.2
    obtain rfl := Option.some.inj (hx.symm.trans hfield)
    have hys : ∃ ys, y = .arr ys := by
      cases hxy with
      | arr _ _ => exact ⟨_, rfl⟩
    obtain ⟨ys, rfl⟩ := hys
    exact congrArg Json.arr (map_congr_of_sameData hxy fun part hpart other hother =>
      (canonicalPart_sameData_congr (part_accepted hpart hfrom)).2 other hother)

/-- Of a checked workspace request the access is a list. -/
lemma canonicalWorkspace_eq {v : Json} (h : isTaskWorkspaceRequest v = true) :
    canonicalWorkspace v = some (checkedWorkspace v) := by
  have haccess : isWorkspaceAccess (v.field "access") = true := by
    rw [isTaskWorkspaceRequest] at h
    split_ifs at h <;> exact (Bool.and_eq_true_iff.mp h).2
  obtain ⟨items, hitems⟩ : ∃ items, v.field "access" = some (.arr items) := by
    rcases hfield : v.field "access" with _ | (_ | _ | _ | _ | _ | items | _)
    case some.arr => exact ⟨items, rfl⟩
    all_goals
      rw [hfield] at haccess
      cases haccess
  rw [canonicalWorkspace, checkedWorkspace, hitems, spread, Option.map_some]
  split_ifs
  · simp [project, hitems, keep]
  · simp [project, List.filterMap_cons, hitems, keep]
    split <;> split <;> rfl

lemma sameData_checkedWorkspace {v : Json} (h : isTaskWorkspaceRequest v = true)
    (hlisted : hasUnlisted (workspaceFields v) v = false) : SameData (checkedWorkspace v) v := by
  have hown : ∀ fields key, hasOwnKey fields key = true → hasKey fields key = true :=
    fun _ => hasKey_of_own
  rw [isTaskWorkspaceRequest] at h
  rw [workspaceFields] at hlisted
  rw [checkedWorkspace]
  by_cases htemporary : isText "temporary" (v.field "kind") = true
  · rw [if_pos htemporary, Bool.and_eq_true] at h
    rw [if_pos htemporary] at hlisted ⊢
    exact sameData_kind (isRecordOf_of_listed h.1 hlisted hown (by decide)) (isText_iff.mp htemporary)
      (by decide) fun _ _ _ _ => .refl _
  · rw [if_neg htemporary] at h hlisted ⊢
    split_ifs at h with hreference
    simp only [Bool.and_eq_true] at h
    exact sameData_kind (isRecordOf_of_listed h.1.1.1 hlisted hown (by decide))
      (isText_iff.mp hreference) (by decide) fun _ _ _ _ => .refl _

lemma checkedWorkspace_congr {v : Json} (h : isTaskWorkspaceRequest v = true) (hsame : SameData v w) :
    checkedWorkspace v = checkedWorkspace w := by
  have hkinds := isText_congr hsame "temporary" "kind"
  rw [isTaskWorkspaceRequest] at h
  rw [checkedWorkspace, checkedWorkspace, ← hkinds]
  by_cases htemporary : isText "temporary" (v.field "kind") = true
  · rw [if_pos htemporary, Bool.and_eq_true] at h
    rw [if_pos htemporary, if_pos htemporary, project_keep_congr hsame]
    simpa using isPlain_of_access h.2
  · rw [if_neg htemporary] at h
    split_ifs at h with hreference
    simp only [Bool.and_eq_true] at h
    obtain ⟨⟨⟨-, hid⟩, hrevision⟩, haccess⟩ := h
    rw [if_neg htemporary, if_neg htemporary, project_keep_congr hsame]
    intro name hmem
    simp only [List.mem_cons, List.not_mem_nil, or_false] at hmem
    rcases hmem with rfl | rfl | rfl
    · exact isPlain_of_matches hid
    · exact isPlain_of_positive hrevision
    · exact isPlain_of_access haccess

/-! ### Requests -/

/-- What the validator has seen of a request. -/
structure RequestFacts (schemaVersion : Nat) (v : Json) : Prop where
  version : v.field "schemaVersion" = some (.num schemaVersion)
  record : isExactRecord hasKey (requestFields schemaVersion) v = true
  input : ∀ x, v.field "input" = some x → IsInput x
  workspace : 5 ≤ schemaVersion →
    ∃ x, v.field "workspace" = some x ∧ isTaskWorkspaceRequest x = true
  executionMode : 6 ≤ schemaVersion →
    truthy (v.field "executionMode") = true
      ∧ ∀ x, v.field "executionMode" = some x → isPlain x = true
  plain : ∀ name ∈ ["schemaVersion", "taskId", "requesterTetiId", "targetTetiId", "offerId",
    "capabilityId", "createdAt", "expiresAt"], ∀ x, v.field name = some x → isPlain x = true

lemma isPlain_of_timestamp {parseDate : JsString → Option Timestamp} {t : Timestamp}
    (h : timestamp parseDate value = some t) : ∀ x, value = some x → isPlain x = true := by
  rintro x rfl
  cases x <;> first | rfl | cases h

lemma truthy_executionMode (h : (isText "single_stage" value || isText "long_horizon" value) = true) :
    truthy value = true ∧ ∀ x, value = some x → isPlain x = true := by
  rcases Bool.or_eq_true_iff.mp h with h | h
  · exact ⟨by rw [isText_iff.mp h]; decide, isPlain_of_text h⟩
  · exact ⟨by rw [isText_iff.mp h]; decide, isPlain_of_text h⟩

lemma requestFields_own (schemaVersion : Nat) :
    ∀ key ∈ requestFields schemaVersion, key ≠ "" ∧ key ∉ OBJECT_PROTOTYPE_KEYS := by
  rw [requestFields]
  split_ifs <;> decide

lemma requestFacts {parseDate : JsString → Option Timestamp} {v : Json}
    (h : isTaskRequest parseDate v = true) : ∃ schemaVersion, RequestFacts schemaVersion v := by
  rw [isTaskRequest] at h
  split at h
  case h_2 => cases h
  case h_1 schemaVersion hversion =>
    simp only [isRequestOfVersion, Bool.and_eq_true, decide_eq_true_eq] at h
    obtain ⟨⟨⟨⟨⟨⟨⟨⟨⟨⟨⟨⟨⟨-, hrecord⟩, -⟩, -⟩, htask⟩, hrequester⟩, htarget⟩, -⟩, hoffer⟩, hcapability⟩,
      hinput⟩, hworkspace⟩, hmode⟩, htimes⟩ := h
    obtain ⟨createdAt, expiresAt, hcreated, hexpires⟩ : ∃ createdAt expiresAt,
        timestamp parseDate (v.field "createdAt") = some createdAt
          ∧ timestamp parseDate (v.field "expiresAt") = some expiresAt := by
      split at htimes
      case h_1 createdAt expiresAt hcreated hexpires => exact ⟨createdAt, expiresAt, hcreated, hexpires⟩
      case h_2 => cases htimes
    refine ⟨schemaVersion, hversion, hrecord, fun x hx => ?_, fun hle => ?_, fun hle => ?_, ?_⟩
    · rw [hx, Option.any_some] at hinput
      split_ifs at hinput with hone
      · exact .inl hinput
      · exact .inr hinput
    · simp only [Bool.or_eq_true, decide_eq_true_eq, Nat.not_lt.mpr hle, false_or,
        Option.any_eq_true] at hworkspace
      exact hworkspace
    · simp only [Bool.or_assoc, Bool.or_eq_true, decide_eq_true_eq, Nat.not_lt.mpr hle,
        false_or] at hmode
      exact truthy_executionMode (Bool.or_eq_true_iff.mpr hmode)
    · intro name hmem
      simp only [List.mem_cons, List.not_mem_nil, or_false] at hmem
      rcases hmem with rfl | rfl | rfl | rfl | rfl | rfl | rfl | rfl
      · intro x hx
        rw [← Option.some.inj (hversion.symm.trans hx)]
        rfl
      · exact isPlain_of_matches htask
      · exact isPlain_of_matches hrequester
      · exact isPlain_of_matches htarget
      · exact isPlain_of_matches hoffer
      · exact isPlain_of_matches hcapability
      · exact isPlain_of_timestamp hcreated
      · exact isPlain_of_timestamp hexpires

/-- The request overlooks no key. -/
structure ListedFacts (schemaVersion : Nat) (v : Json) : Prop
    extends RequestFacts schemaVersion v where
  listed : overlooksKey v = false

namespace ListedFacts

variable {schemaVersion : Nat} {v : Json}

section

variable (h : ListedFacts schemaVersion v)
include h

lemma objects : ∀ object ∈ (requestFields schemaVersion, v)
      :: ((v.field "input").toList.flatMap inputObjects
        ++ if 5 ≤ schemaVersion then
            (v.field "workspace").toList.map fun workspace => (workspaceFields workspace, workspace)
          else []), hasUnlisted object.1 object.2 = false := by
  have hversion : versionOf v = schemaVersion := by rw [versionOf, h.version]
  have hlisted := h.listed
  rw [overlooksKey, checkedObjects, hversion, List.any_eq_false] at hlisted
  exact fun object hobject => Bool.eq_false_iff.mpr (hlisted object hobject)

lemma isRecord : isRecordOf (requestFields schemaVersion) v = true :=
  isRecordOf_of_hasKey h.record (h.objects _ List.mem_cons_self) (requestFields_own _)

lemma input_listed {x : Json} (hx : v.field "input" = some x) :
    ∀ object ∈ inputObjects x, hasUnlisted object.1 object.2 = false := fun object hobject =>
  h.objects object (List.mem_cons_of_mem _ (List.mem_append_left _ (by simpa [hx] using hobject)))

lemma workspace_listed (hle : 5 ≤ schemaVersion) {x : Json}
    (hx : v.field "workspace" = some x) : hasUnlisted (workspaceFields x) x = false :=
  h.objects (workspaceFields x, x)
    (List.mem_cons_of_mem _ (List.mem_append_right _ (by simp [hle, hx])))

end

end ListedFacts

/-- How the fields of a request are written. -/
def convertRequest (name : String) (value : Json) : Json :=
  if name = "input" then canonicalInput value
  else if name = "workspace" then checkedWorkspace value
  else value

lemma field_eq_none {names : List String} {v : Json} (h : isRecordOf names v = true)
    {name : String} (hnot : name ∉ names) : v.field name = none := by
  obtain ⟨fields, rfl, hnames⟩ := isRecordOf_iff h
  have hnone : ¬(lookup fields name).isSome = true := fun h => hnot ((hnames name).mp h)
  simpa [Json.field] using hnone

lemma ListedFacts.accepts_workspace {schemaVersion : Nat} {v x : Json}
    (h : ListedFacts schemaVersion v) (hx : v.field "workspace" = some x) :
    isTaskWorkspaceRequest x = true ∧ hasUnlisted (workspaceFields x) x = false := by
  by_cases hle : 5 ≤ schemaVersion
  · obtain ⟨y, hy, haccepted⟩ := h.workspace hle
    obtain rfl := Option.some.inj (hx.symm.trans hy)
    exact ⟨haccepted, h.workspace_listed hle hx⟩
  · have hnone : v.field "workspace" = none :=
      field_eq_none h.isRecord (by simp [requestFields, hle])
    rw [hnone] at hx
    cases hx

lemma RequestFacts.plain_field {schemaVersion : Nat} {v : Json} (h : RequestFacts schemaVersion v)
    {name : String} (hmem : name ∈ requestFields schemaVersion) (hinput : name ≠ "input")
    (hworkspace : name ≠ "workspace") : ∀ x, v.field name = some x → isPlain x = true := by
  by_cases hmode : name = "executionMode"
  · subst hmode
    by_cases hle : 6 ≤ schemaVersion
    · exact (h.executionMode hle).2
    · exact absurd hmem (by simp [requestFields, hle])
  · refine h.plain name ?_
    simp only [requestFields, List.mem_append, List.mem_cons, List.not_mem_nil, or_false] at hmem
    simp only [List.mem_cons, List.not_mem_nil, or_false]
    split_ifs at hmem <;> simp_all [or_assoc]

/-- **The canonical request** has the fields of its version, in order. -/
lemma canonicalTaskRequest_eq {schemaVersion : Nat} {v : Json} (h : ListedFacts schemaVersion v) :
    canonicalTaskRequest v = some (.obj (project (requestFields schemaVersion) convertRequest v)) := by
  have hkeep : ∀ names : List String, "input" ∉ names → "workspace" ∉ names →
      project names keep v = project names convertRequest v := by
    intro names hinput hworkspace
    refine project_convert fun name hmem x => ?_
    have hname : name ≠ "input" ∧ name ≠ "workspace" :=
      ⟨fun h => hinput (h ▸ hmem), fun h => hworkspace (h ▸ hmem)⟩
    rw [convertRequest, if_neg hname.1, if_neg hname.2, keep]
  have hworkspace : workspaceMember v
      = some (project (if 5 ≤ schemaVersion then ["workspace"] else []) convertRequest v) := by
    rw [workspaceMember]
    by_cases hle : 5 ≤ schemaVersion
    · obtain ⟨x, hx, haccepted⟩ := h.workspace hle
      have htruthy : truthy (v.field "workspace") = true := by
        rw [hx]
        cases x <;> first | rfl | cases haccepted
      rw [if_pos htruthy, if_pos hle, hx, Option.bind_some, canonicalWorkspace_eq haccepted]
      simp [project, hx, convertRequest]
    · have hnone : v.field "workspace" = none :=
        field_eq_none h.isRecord (by simp [requestFields, hle])
      rw [hnone, if_neg hle]
      rfl
  have hmode : (if truthy (v.field "executionMode") then project ["executionMode"] keep v else [])
      = project (if 6 ≤ schemaVersion then ["executionMode"] else []) convertRequest v := by
    by_cases hle : 6 ≤ schemaVersion
    · rw [if_pos (h.executionMode hle).1, if_pos hle, hkeep _ (by decide) (by decide)]
    · have hnone : v.field "executionMode" = none :=
        field_eq_none h.isRecord (by simp [requestFields, hle])
      rw [hnone, if_neg hle]
      rfl
  rw [canonicalTaskRequest, hworkspace, Option.map_some, hmode, hkeep _ (by decide) (by decide),
    hkeep _ (by decide) (by decide), requestFields, project_append, project_append,
    project_append, project_append]
  rfl

/-- The canonical request says the same as the request. -/
theorem canonicalTaskRequest_sameData {schemaVersion : Nat} {v : Json}
    (h : ListedFacts schemaVersion v) :
    ∃ canonical, canonicalTaskRequest v = some canonical ∧ SameData canonical v := by
  refine ⟨_, canonicalTaskRequest_eq h, sameData_project h.isRecord fun name hmem x hx => ?_⟩
  rw [convertRequest]
  split_ifs with hinput hworkspace
  · subst hinput
    exact sameData_canonicalInput (h.input x hx) (h.input_listed hx)
  · subst hworkspace
    exact sameData_checkedWorkspace (h.accepts_workspace hx).1 (h.accepts_workspace hx).2
  · exact .refl x

/-- Requests that say the same have the same canonical request. -/
theorem canonicalTaskRequest_congr {m n : Nat} {v : Json} (hv : ListedFacts m v)
    (hw : ListedFacts n w) (hsame : SameData v w) :
    canonicalTaskRequest v = canonicalTaskRequest w := by
  have hversion : m = n := by
    obtain ⟨x, y, hx, hy, hxy⟩ | ⟨hx, -⟩ := hsame.field "schemaVersion"
    · obtain rfl := Option.some.inj (hv.version.symm.trans hx)
      obtain rfl := Option.some.inj (hw.version.symm.trans hy)
      exact Json.num.inj (hxy.eq_of_scalar rfl)
    · rw [hv.version] at hx
      cases hx
  subst hversion
  rw [canonicalTaskRequest_eq hv, canonicalTaskRequest_eq hw]
  refine congrArg (some ∘ Json.obj) (project_congr hsame fun name hmem x y hx _ hxy => ?_)
  rw [convertRequest, convertRequest]
  split_ifs with hinput hworkspace
  · subst hinput
    exact canonicalInput_congr (hv.input x hx) hxy
  · subst hworkspace
    exact checkedWorkspace_congr (hv.accepts_workspace hx).1 hxy
  · exact hxy.eq_of_plain (hv.plain_field hmem hinput hworkspace x hx)

/-! ### The requests of the runtime -/

lemma field_obj (fields : List (String × Json)) (name : String) :
    (Json.obj fields).field name = lookup fields name := rfl

lemma isText_jsonString {text s : String} :
    isText text (some (jsonString s)) = true ↔ s = text := by
  rw [isText_iff, Option.some.injEq, jsonString, jsonString, Json.str.injEq,
    JsString.ofString_injective.eq_iff]

/-- The kind of an object that begins with it. -/
lemma isText_kind (text kind : String) (fields : List (String × Json)) :
    isText text ((Json.obj (("kind", jsonString kind) :: fields)).field "kind") = true
      ↔ kind = text := by
  rw [field_obj, lookup_cons, if_pos rfl, isText_jsonString]

lemma canonicalPart_json (part : TaskPart) : canonicalPart part.json = part.json := by
  cases part with
  | text t =>
    rw [canonicalPart, TaskPart.json, isTextKind, if_pos ((isText_kind _ _ _).mpr rfl)]
    simp [canonicalTextPart, project, field_obj, lookup_cons, keep]
  | image part =>
    rw [canonicalPart, TaskPart.json, TaskImagePart.json, isTextKind,
      if_neg (mt (isText_kind "text" "image" _).mp (by decide))]
    simp [canonicalImagePart, project, field_obj, lookup_cons, keep]

lemma canonicalInput_json (input : CollaborationTaskInput) :
    canonicalInput input.json = input.json := by
  cases input with
  | text t =>
    rw [canonicalInput, CollaborationTaskInput.json, isTextKind,
      if_pos ((isText_kind _ _ _).mpr rfl)]
    simp [project, field_obj, lookup_cons, keep]
  | parts parts =>
    have hparts : parts.map (canonicalPart ∘ TaskPart.json) = parts.map TaskPart.json :=
      List.map_congr_left fun part _ => canonicalPart_json part
    rw [canonicalInput, CollaborationTaskInput.json, isTextKind,
      if_neg (mt (isText_kind "text" "parts" _).mp (by decide))]
    simp [project, field_obj, lookup_cons, canonicalParts, hparts]

lemma canonicalWorkspace_json (workspace : TaskWorkspaceRequest) :
    canonicalWorkspace workspace.json = some workspace.json := by
  cases workspace <;>
    simp [canonicalWorkspace, TaskWorkspaceRequest.json, field_obj, lookup_cons, spread, project, keep,
      isText_jsonString]

lemma truthy_none : truthy none = false := rfl

lemma truthy_workspace (workspace : TaskWorkspaceRequest) : truthy (some workspace.json) = true := by
  cases workspace <;> rfl

lemma truthy_mode (mode : CollaborationExecutionMode) :
    truthy (some (jsonString mode.text)) = true := by
  cases mode <;> decide

/-- The runtime writes its requests in the canonical order. -/
theorem canonicalTaskRequest_json (request : CollaborationTaskRequest) :
    canonicalTaskRequest request.json = some request.json := by
  obtain ⟨schemaVersion, taskId, requesterTetiId, targetTetiId, offerId, capabilityId, input,
    workspace, executionMode, createdAt, expiresAt⟩ := request
  cases workspace <;> cases executionMode <;>
    simp [canonicalTaskRequest, workspaceMember, CollaborationTaskRequest.json, project, field_obj,
      lookup_cons, lookup_nil, keep, canonicalInput_json, canonicalWorkspace_json, truthy_none,
      truthy_workspace, truthy_mode]

/-- The comparison of the runtime is that of the data. -/
theorem redeliveryStatus_json (existing request : CollaborationTaskRequest) :
    redeliveryStatus existing.json request.json
      = some (if TetiBot.canonicalTaskRequestJson existing = TetiBot.canonicalTaskRequestJson request
        then .duplicate else .conflict) := by
  rw [redeliveryStatus, canonicalTaskRequestJson, canonicalTaskRequestJson,
    canonicalTaskRequest_json, canonicalTaskRequest_json]
  rfl

/-! ### Other data with the same text -/

/-- Another value, of one byte. -/
def otherValue : Json → Json
  | .num 0 => .num 1
  | _ => .num 0

/-- The object with another value for the empty key; its other values are converted. -/
def retouch (convert : String → Json → Json) : Json → Json
  | .obj fields => .obj (fields.map fun field =>
    (field.1, if field.1 = "" then otherValue field.2 else convert field.1 field.2))
  | value => value

def retouchPart : Json → Json := retouch keep

/-- How the fields of an input are converted: its parts are retouched. -/
def retouchParts (name : String) (value : Json) : Json :=
  match name, value with
  | "parts", .arr parts => .arr (parts.map retouchPart)
  | _, value => value

def retouchInput : Json → Json := retouch retouchParts

/-- How the fields of a request are converted. -/
def retouchFields (name : String) (value : Json) : Json :=
  if name = "input" then retouchInput value
  else if name = "workspace" then retouchPart value
  else value

def retouchRequest : Json → Json := retouch retouchFields

section

variable {convert : String → Json → Json} {found : List (String × Json) → String → Bool}
  {keys : List String} {v : Json} {name : String}

lemma lookup_map (g : String → Json → Json) (fields : List (String × Json)) :
    lookup (fields.map fun field => (field.1, g field.1 field.2)) name
      = (lookup fields name).map (g name) := by
  induction fields with
  | nil => rfl
  | cons field fields ih =>
    rw [List.map_cons, lookup_cons, lookup_cons, ih]
    by_cases hname : field.1 = name
    · rw [if_pos hname, if_pos hname, ← hname, Option.map_some]
    · rw [if_neg hname, if_neg hname]

lemma field_retouch_empty : (retouch convert v).field "" = (v.field "").map otherValue := by
  cases v with
  | obj fields => exact lookup_map (fun name value =>
    if name = "" then otherValue value else convert name value) fields
  | _ => rfl

lemma field_retouch (hname : name ≠ "") :
    (retouch convert v).field name = (v.field name).map (convert name) := by
  cases v with
  | obj fields =>
    have hmap := @lookup_map name (fun name value =>
      if name = "" then otherValue value else convert name value) fields
    simp only [if_neg hname] at hmap
    exact hmap
  | _ => rfl

lemma field_retouch_keep (hname : name ≠ "") (hkeep : ∀ value, convert name value = value) :
    (retouch convert v).field name = v.field name := by
  rw [field_retouch hname, funext hkeep]
  exact Option.map_id'

lemma isExactRecord_retouch (hfound : found = hasKey ∨ found = hasOwnKey) :
    isExactRecord found keys (retouch convert v) = isExactRecord found keys v := by
  cases v with
  | obj fields =>
    have hkeys : objectKeys (fields.map fun field =>
        (field.1, if field.1 = "" then otherValue field.2 else convert field.1 field.2))
        = objectKeys fields := by simp [objectKeys]
    rcases hfound with rfl | rfl <;>
      simp [isExactRecord, retouch, extraKey, missingKey, hasKey, hasOwnKey, hkeys]
  | _ => rfl

/-- The fields that are kept are rebuilt as they were. -/
lemma project_retouch {names : List String} {convert' : String → Json → Json}
    (hnames : "" ∉ names) (h : ∀ name ∈ names, ∀ x, convert' name (convert name x) = convert' name x) :
    project names convert' (retouch convert v) = project names convert' v := by
  refine List.filterMap_congr fun name hmem => ?_
  rw [field_retouch fun h => hnames (h ▸ hmem), Option.map_map]
  cases v.field name with
  | none => rfl
  | some x => simp [h name hmem x]

/-- Where a key is overlooked, the retouched object is other data. -/
lemma not_sameData_retouch (hrecord : isExactRecord found keys v = true)
    (hunlisted : hasUnlisted keys v = true) : ¬SameData v (retouch convert v) := by
  cases v with
  | obj fields =>
    simp only [isExactRecord, Bool.and_eq_true, Bool.not_eq_true', isTruthy_eq_false] at hrecord
    have hempty : extraKey fields keys = some "" := by
      refine hrecord.1.resolve_left fun hnone => ?_
      simp [hasUnlisted, hnone] at hunlisted
    have hown : (lookup fields "").isSome = true := by
      rw [← hasOwnKey_eq]
      exact List.contains_iff_mem.mpr (List.mem_of_find?_eq_some hempty)
    obtain ⟨x, hx⟩ := Option.isSome_iff_exists.mp hown
    intro hsame
    obtain ⟨y, z, hy, hz, hyz⟩ | ⟨hnone, -⟩ := hsame.field ""
    · rw [field_retouch_empty, hy, Option.map_some] at hz
      obtain rfl := Option.some.inj hz
      rcases y with _ | _ | (_ | n) | _ | _ | _ | _ <;> cases hyz
    · rw [field, hx] at hnone
      cases hnone
  | _ => cases hunlisted

end

/-! ### The retouched value is accepted -/

section

variable {v : Json}

lemma isTextPart_retouch {convert : String → Json → Json} {maxBytes : Nat}
    (hkind : ∀ value, convert "kind" value = value) (htext : ∀ value, convert "text" value = value) :
    isTextPart maxBytes (retouch convert v) = isTextPart maxBytes v := by
  rw [isTextPart, isTextPart, isExactRecord_retouch (.inl rfl), field_retouch_keep (by decide) hkind,
    field_retouch_keep (by decide) htext]

lemma field_retouchPart {name : String} (hname : name ≠ "") :
    (retouchPart v).field name = v.field name := field_retouch_keep hname fun _ => rfl

lemma isTextKind_retouchPart : isTextKind (retouchPart v) = isTextKind v := by
  rw [isTextKind, isTextKind, field_retouchPart (by decide)]

lemma isTaskImagePart_retouchPart : isTaskImagePart (retouchPart v) = isTaskImagePart v := by
  have hrecord : isExactRecord hasKey IMAGE_FIELDS (retouchPart v)
      = isExactRecord hasKey IMAGE_FIELDS v := isExactRecord_retouch (.inl rfl)
  simp only [isTaskImagePart, hrecord, field_retouchPart, ne_eq, String.reduceEq, not_false_eq_true]

lemma arePartsFrom_retouch {requireLeadingText : Bool} {maximumTextBytes index : Nat}
    {attachmentIds : List JsString} (parts : List Json) :
    arePartsFrom requireLeadingText maximumTextBytes index attachmentIds (parts.map retouchPart)
      = arePartsFrom requireLeadingText maximumTextBytes index attachmentIds parts := by
  induction parts generalizing index attachmentIds with
  | nil => rfl
  | cons part parts ih =>
    have htext : isTextPart maximumTextBytes (retouchPart part) = isTextPart maximumTextBytes part :=
      isTextPart_retouch (fun _ => rfl) fun _ => rfl
    simp only [List.map_cons, arePartsFrom, isTextKind_retouchPart, htext,
      isTaskImagePart_retouchPart, field_retouchPart, ne_eq, String.reduceEq, not_false_eq_true, ih]

lemma areParts_retouch {requireLeadingText : Bool} {maximumTextBytes : Nat} (value : Option Json) :
    areParts requireLeadingText maximumTextBytes (value.map (retouchParts "parts"))
      = areParts requireLeadingText maximumTextBytes value := by
  rcases value with _ | (_ | _ | _ | _ | _ | parts | _)
  case some.arr =>
    have hkinds : isTextKind ∘ retouchPart = isTextKind := funext fun _ => isTextKind_retouchPart
    have hkinds' : (fun part => !isTextKind part) ∘ retouchPart = fun part => !isTextKind part :=
      funext fun _ => congrArg not isTextKind_retouchPart
    have hlengths : byteLength ∘ retouchPart = byteLength := funext fun part => by
      rw [Function.comp_apply, byteLength, byteLength, field_retouchPart (by decide)]
    simp only [Option.map_some, retouchParts, areParts, List.filter_map, hkinds, hkinds',
      List.length_map, List.map_map, hlengths, arePartsFrom_retouch]
  all_goals rfl

lemma isTextKind_retouchInput : isTextKind (retouchInput v) = isTextKind v := by
  rw [isTextKind, isTextKind, retouchInput, field_retouch_keep (by decide) fun _ => rfl]

lemma isMultipartInput_retouchInput : isMultipartInput (retouchInput v) = isMultipartInput v := by
  rw [isMultipartInput, isMultipartInput, retouchInput, isExactRecord_retouch (.inl rfl),
    field_retouch_keep (by decide) fun _ => rfl, field_retouch (by decide), areParts_retouch]

lemma isTaskWorkspaceRequest_retouchPart :
    isTaskWorkspaceRequest (retouchPart v) = isTaskWorkspaceRequest v := by
  have hrecord : ∀ keys, isExactRecord hasOwnKey keys (retouchPart v) = isExactRecord hasOwnKey keys v :=
    fun _ => isExactRecord_retouch (.inr rfl)
  simp only [isTaskWorkspaceRequest, hrecord, field_retouchPart, ne_eq, String.reduceEq,
    not_false_eq_true]

lemma encodedSize_otherValue (v : Json) : encodedSize (otherValue v) = 1 := by
  have hzero : encodedSize (.num 0) = 1 := by decide +kernel
  have hone : encodedSize (.num 1) = 1 := by decide +kernel
  unfold otherValue
  split
  · exact hone
  · exact hzero

lemma encodedSize_pos (v : Json) : 1 ≤ encodedSize v := by
  by_cases harr : ∃ items, v = .arr items
  · obtain ⟨items, rfl⟩ := harr
    simp
  by_cases hobj : ∃ fields, v = .obj fields
  · obtain ⟨fields, rfl⟩ := hobj
    simp
  obtain ⟨u, s, hu, -⟩ := readScalar_stringify v [] rfl (fun items h => harr ⟨items, h⟩)
    fun fields h => hobj ⟨fields, h⟩
  have hunit : 1 ≤ JsString.unitSize u := by
    rw [JsString.unitSize]
    split_ifs <;> omega
  rw [encodedSize, hu]
  cases s with
  | nil => exact hunit
  | cons w s =>
    rw [JsString.utf8Size]
    split_ifs <;> omega

lemma fieldsSize_map_le (g : String → Json → Json) (hg : ∀ name x, encodedSize (g name x) ≤ encodedSize x)
    (fields : List (String × Json)) :
    fieldsSize (fields.map fun field => (field.1, g field.1 field.2)) ≤ fieldsSize fields := by
  induction fields with
  | nil => exact le_rfl
  | cons field fields ih =>
    have hfield := hg field.1 field.2
    cases fields with
    | nil => simpa [fieldsSize] using hfield
    | cons other fields =>
      simp only [List.map_cons, fieldsSize] at ih ⊢
      omega

lemma itemsSize_map_le {g : Json → Json} (hg : ∀ x, encodedSize (g x) ≤ encodedSize x)
    (items : List Json) : itemsSize (items.map g) ≤ itemsSize items := by
  induction items with
  | nil => exact le_rfl
  | cons item items ih =>
    have hitem := hg item
    cases items with
    | nil => simpa [itemsSize] using hitem
    | cons other items =>
      simp only [List.map_cons, itemsSize] at ih ⊢
      omega

lemma encodedSize_retouch_le {convert : String → Json → Json}
    (hconvert : ∀ name x, encodedSize (convert name x) ≤ encodedSize x) (v : Json) :
    encodedSize (retouch convert v) ≤ encodedSize v := by
  cases v with
  | obj fields =>
    have hfields := fieldsSize_map_le (fun name x => if name = "" then otherValue x else convert name x)
      (fun name x => by
        split_ifs
        · exact (encodedSize_otherValue x).trans_le (encodedSize_pos x)
        · exact hconvert name x) fields
    rw [retouch, encodedSize_obj, encodedSize_obj]
    omega
  | _ => exact le_rfl

lemma encodedSize_retouchPart_le (v : Json) : encodedSize (retouchPart v) ≤ encodedSize v :=
  encodedSize_retouch_le (fun _ _ => le_rfl) v

lemma encodedSize_retouchParts_le (name : String) (v : Json) :
    encodedSize (retouchParts name v) ≤ encodedSize v := by
  unfold retouchParts
  split
  case h_1 parts =>
    have hparts := itemsSize_map_le encodedSize_retouchPart_le parts
    rw [encodedSize_arr, encodedSize_arr]
    omega
  case h_2 => exact le_rfl

lemma encodedSize_retouchFields_le (name : String) (v : Json) :
    encodedSize (retouchFields name v) ≤ encodedSize v := by
  rw [retouchFields]
  split_ifs
  · exact encodedSize_retouch_le encodedSize_retouchParts_le v
  · exact encodedSize_retouchPart_le v
  · exact le_rfl

lemma field_retouchRequest {name : String} (hname : name ≠ "") (hinput : name ≠ "input")
    (hworkspace : name ≠ "workspace") : (retouchRequest v).field name = v.field name :=
  field_retouch_keep hname fun value => by rw [retouchFields, if_neg hinput, if_neg hworkspace]

lemma field_input_retouchRequest :
    (retouchRequest v).field "input" = (v.field "input").map retouchInput :=
  field_retouch (by decide)

lemma field_workspace_retouchRequest :
    (retouchRequest v).field "workspace" = (v.field "workspace").map retouchPart :=
  field_retouch (by decide)

/-- The retouched request is accepted, too. -/
lemma isTaskRequest_retouchRequest {parseDate : JsString → Option Timestamp}
    (h : isTaskRequest parseDate v = true) : isTaskRequest parseDate (retouchRequest v) = true := by
  have hsize := encodedSize_retouch_le encodedSize_retouchFields_le v
  have hrecord : ∀ keys, isExactRecord hasKey keys (retouchRequest v) = isExactRecord hasKey keys v :=
    fun _ => isExactRecord_retouch (.inl rfl)
  have htext : ∀ x, isTextPart MAX_TASK_INPUT_TEXT_BYTES (retouchInput x)
      = isTextPart MAX_TASK_INPUT_TEXT_BYTES x := fun _ => isTextPart_retouch (fun _ => rfl) fun _ => rfl
  rw [isTaskRequest, field_retouchRequest (by decide) (by decide) (by decide)]
  rw [isTaskRequest] at h
  split at h
  case h_2 => cases h
  case h_1 schemaVersion hversion =>
    simp only [isRequestOfVersion, Bool.and_eq_true, decide_eq_true_eq] at h ⊢
    simp only [hrecord, field_retouchRequest, field_input_retouchRequest,
      field_workspace_retouchRequest, Option.any_map, htext,
      isMultipartInput_retouchInput, isTaskWorkspaceRequest_retouchPart, ne_eq, String.reduceEq,
      not_false_eq_true]
    exact ⟨⟨⟨⟨⟨⟨⟨⟨⟨⟨⟨⟨⟨hsize.trans h.1.1.1.1.1.1.1.1.1.1.1.1.1, h.1.1.1.1.1.1.1.1.1.1.1.1.2⟩,
      h.1.1.1.1.1.1.1.1.1.1.1.2⟩, h.1.1.1.1.1.1.1.1.1.1.2⟩, h.1.1.1.1.1.1.1.1.1.2⟩,
      h.1.1.1.1.1.1.1.1.2⟩, h.1.1.1.1.1.1.1.2⟩, h.1.1.1.1.1.1.2⟩, h.1.1.1.1.1.2⟩, h.1.1.1.1.2⟩,
      h.1.1.1.2⟩, h.1.1.2⟩, h.1.2⟩, h.2⟩

/-! ### The retouched value has the same text -/

lemma canonicalPart_retouchPart : canonicalPart (retouchPart v) = canonicalPart v := by
  have hproject : ∀ names, "" ∉ names → project names keep (retouchPart v) = project names keep v :=
    fun _ hnames => project_retouch hnames fun _ _ _ => rfl
  rw [canonicalPart, canonicalPart, isTextKind_retouchPart, canonicalTextPart, canonicalTextPart,
    canonicalImagePart, canonicalImagePart, hproject _ (by decide), hproject _ (by decide)]

lemma canonicalInput_retouchInput : canonicalInput (retouchInput v) = canonicalInput v := by
  have htext : project ["text"] keep (retouchInput v) = project ["text"] keep v :=
    project_retouch (by decide) fun name hmem x => by
      obtain rfl := List.mem_singleton.mp hmem
      rfl
  have hparts : project ["parts"] (fun _ parts => canonicalParts parts) (retouchInput v)
      = project ["parts"] (fun _ parts => canonicalParts parts) v :=
    project_retouch (by decide) fun name hmem x => by
      obtain rfl := List.mem_singleton.mp hmem
      cases x with
      | arr parts => simp [retouchParts, canonicalParts, canonicalPart_retouchPart]
      | _ => rfl
  rw [canonicalInput, canonicalInput, isTextKind_retouchInput, htext, hparts]

lemma canonicalWorkspace_retouchPart : canonicalWorkspace (retouchPart v) = canonicalWorkspace v := by
  have hproject : project ["workspaceId", "workspaceRevision"] keep (retouchPart v)
      = project ["workspaceId", "workspaceRevision"] keep v :=
    project_retouch (by decide) fun _ _ _ => rfl
  rw [canonicalWorkspace, canonicalWorkspace, field_retouchPart (by decide),
    field_retouchPart (by decide), hproject]

lemma workspaceMember_retouchRequest : workspaceMember (retouchRequest v) = workspaceMember v := by
  rw [workspaceMember, workspaceMember, field_workspace_retouchRequest]
  rcases v.field "workspace" with _ | x
  · rfl
  · have htruthy : truthy (some (retouchPart x)) = truthy (some x) := by cases x <;> rfl
    rw [Option.map_some, htruthy, Option.bind_some, Option.bind_some, canonicalWorkspace_retouchPart]

lemma canonicalTaskRequest_retouchRequest :
    canonicalTaskRequest (retouchRequest v) = canonicalTaskRequest v := by
  have hkeep : ∀ names, "" ∉ names → "input" ∉ names → "workspace" ∉ names →
      project names keep (retouchRequest v) = project names keep v := by
    intro names hempty hinput hworkspace
    refine project_retouch hempty fun name hmem x => ?_
    have hname : name ≠ "input" ∧ name ≠ "workspace" :=
      ⟨fun h => hinput (h ▸ hmem), fun h => hworkspace (h ▸ hmem)⟩
    rw [retouchFields, if_neg hname.1, if_neg hname.2]
  have hinput : project ["input"] (fun _ input => canonicalInput input) (retouchRequest v)
      = project ["input"] (fun _ input => canonicalInput input) v :=
    project_retouch (by decide) fun name hmem x => by
      obtain rfl := List.mem_singleton.mp hmem
      exact canonicalInput_retouchInput
  simp only [canonicalTaskRequest, workspaceMember_retouchRequest, hinput,
    @field_retouchRequest v "executionMode" (by decide) (by decide) (by decide)]
  rw [hkeep _ (by decide) (by decide) (by decide), hkeep _ (by decide) (by decide) (by decide),
    hkeep _ (by decide) (by decide) (by decide)]

/-! ### The retouched value is other data -/

lemma record_of_part {part : Json} {maximumTextBytes : Nat}
    (h : isTextKind part = true ∧ isTextPart maximumTextBytes part = true
      ∨ ¬isTextKind part = true ∧ isTaskImagePart part = true) :
    isExactRecord hasKey (partFields part) part = true := by
  rw [partFields]
  rcases h with ⟨hkind, h⟩ | ⟨hkind, h⟩
  · simp only [isTextPart, Bool.and_eq_true] at h
    rw [if_pos hkind]
    exact h.1.1
  · simp only [isTaskImagePart, Bool.and_eq_true] at h
    rw [if_neg hkind]
    exact h.1.1.1.1.1.1.1

/-- A field that is converted says the same if the object does. -/
lemma sameData_field {w x : Json} {name : String} {g : Json → Json} (h : SameData v w)
    (hx : v.field name = some x) (hw : w.field name = (v.field name).map g) : SameData x (g x) := by
  obtain ⟨y, z, hy, hz, hyz⟩ | ⟨hnone, -⟩ := h.field name
  · obtain rfl := Option.some.inj (hx.symm.trans hy)
    rw [hw, hx, Option.map_some] at hz
    exact Option.some.inj hz ▸ hyz
  · rw [hx] at hnone
    cases hnone

lemma not_sameData_retouchInput (h : IsInput v) {object : List String × Json}
    (hobject : object ∈ inputObjects v) (hunlisted : hasUnlisted object.1 object.2 = true) :
    ¬SameData v (retouchInput v) := by
  intro hsame
  rw [inputObjects] at hobject
  rcases isTextKind_of_input h with ⟨h, hkind⟩ | ⟨h, hkind⟩
  · rw [if_pos hkind] at hobject
    obtain rfl := List.mem_singleton.mp hobject
    simp only [isTextPart, Bool.and_eq_true] at h
    exact not_sameData_retouch h.1.1 hunlisted hsame
  · rw [if_neg (by simp [hkind])] at hobject
    simp only [isMultipartInput, Bool.and_eq_true] at h
    rcases List.mem_cons.mp hobject with rfl | hobject
    · exact not_sameData_retouch h.1.1 hunlisted hsame
    · obtain ⟨part, hpart, rfl⟩ := List.mem_map.mp hobject
      obtain ⟨parts, hfield, hfrom⟩ := areParts_iff h.2
      rw [partsOf, hfield] at hpart
      have hparts : SameData (.arr parts) (.arr (parts.map retouchPart)) :=
        sameData_field hsame hfield (field_retouch (by decide))
      obtain ⟨i, hi⟩ := List.getElem?_of_mem hpart
      cases hparts with
      | arr _ hitems =>
        exact not_sameData_retouch (record_of_part (part_accepted hpart hfrom)) hunlisted
          (hitems i _ _ hi (by rw [List.getElem?_map, hi, Option.map_some]; rfl))

lemma not_sameData_retouchRequest {parseDate : JsString → Option Timestamp}
    (h : isTaskRequest parseDate v = true) (hoverlooks : overlooksKey v = true) :
    ¬SameData v (retouchRequest v) := by
  intro hsame
  obtain ⟨schemaVersion, hfacts⟩ := requestFacts h
  have hversion : versionOf v = schemaVersion := by rw [versionOf, hfacts.version]
  obtain ⟨object, hobject, hunlisted⟩ := List.any_eq_true.mp hoverlooks
  rw [checkedObjects, hversion] at hobject
  rcases List.mem_cons.mp hobject with rfl | hobject
  · exact not_sameData_retouch hfacts.record hunlisted hsame
  rcases List.mem_append.mp hobject with hobject | hobject
  · obtain ⟨input, hinput, hobject⟩ := List.mem_flatMap.mp hobject
    have hfield : v.field "input" = some input := by simpa using hinput
    exact not_sameData_retouchInput (hfacts.input input hfield) hobject hunlisted
      (sameData_field hsame hfield field_input_retouchRequest)
  · split_ifs at hobject with hle
    · obtain ⟨workspace, hfield, hworkspace⟩ := hfacts.workspace hle
      obtain rfl : (workspaceFields workspace, workspace) = object := by
        simpa [hfield, eq_comm] using hobject
      have hrecord : isExactRecord hasOwnKey (workspaceFields workspace) workspace = true := by
        rw [isTaskWorkspaceRequest] at hworkspace
        rw [workspaceFields]
        split_ifs at hworkspace ⊢ <;> simp_all
      exact not_sameData_retouch hrecord hunlisted
        (sameData_field hsame hfield field_workspace_retouchRequest)
    · cases hobject

end

/-! ### The canonical text -/

/-- Both requests have a canonical text, and it is the same. -/
def SameText (s t : Option JsString) : Prop := ∃ text, s = some text ∧ t = some text

/-- The digest tells the two texts apart. -/
def NoCollision (sha256 : JsString → JsString) (s t : Option JsString) : Prop :=
  ∀ x y, s = some x → t = some y → sha256 x = sha256 y → x = y

/-- The canonical text tells whether two requests are the same data; so do what is
answered to a redelivery and the digest of a grant, unless the digests collide. -/
structure Faithful (sha256 : JsString → JsString) (v w : Json) : Prop where
  text : SameText (canonicalTaskRequestJson v) (canonicalTaskRequestJson w) ↔ SameData v w
  redelivery : redeliveryStatus v w = some .duplicate ↔ SameData v w
  digest : NoCollision sha256 (canonicalTaskRequestJson v) (canonicalTaskRequestJson w) →
    (SameText (inputDigest sha256 v) (inputDigest sha256 w) ↔ SameData v w)

lemma redeliveryStatus_eq_duplicate {v : Json} : redeliveryStatus v w = some .duplicate
    ↔ SameText (canonicalTaskRequestJson v) (canonicalTaskRequestJson w) := by
  rw [redeliveryStatus, SameText]
  cases canonicalTaskRequestJson v with
  | none => simp
  | some s =>
    cases canonicalTaskRequestJson w with
    | none => simp
    | some t => by_cases h : s = t <;> simp [h, eq_comm]

lemma sameText_inputDigest {sha256 : JsString → JsString} {v : Json}
    (h : NoCollision sha256 (canonicalTaskRequestJson v) (canonicalTaskRequestJson w)) :
    SameText (inputDigest sha256 v) (inputDigest sha256 w)
      ↔ SameText (canonicalTaskRequestJson v) (canonicalTaskRequestJson w) := by
  rw [inputDigest, inputDigest]
  constructor
  · rintro ⟨digest, hv, hw⟩
    obtain ⟨s, hs, rfl⟩ := Option.map_eq_some_iff.mp hv
    obtain ⟨t, ht, hdigest⟩ := Option.map_eq_some_iff.mp hw
    obtain rfl := h s t hs ht (List.append_cancel_left hdigest).symm
    exact ⟨s, hs, ht⟩
  · rintro ⟨text, hv, hw⟩
    exact ⟨_, by rw [hv]; rfl, by rw [hw]; rfl⟩

lemma faithful_of_text {sha256 : JsString → JsString} {v : Json}
    (h : SameText (canonicalTaskRequestJson v) (canonicalTaskRequestJson w) ↔ SameData v w) :
    Faithful sha256 v w where
  text := h
  redelivery := redeliveryStatus_eq_duplicate.trans h
  digest hcollision := (sameText_inputDigest hcollision).trans h

/-- Requests that overlook no key have the same text exactly if they are the same data. -/
lemma sameText_iff {m n : Nat} {v : Json} (hv : ListedFacts m v) (hw : ListedFacts n w) :
    SameText (canonicalTaskRequestJson v) (canonicalTaskRequestJson w) ↔ SameData v w := by
  obtain ⟨canonical, hcanonical, hdata⟩ := canonicalTaskRequest_sameData hv
  obtain ⟨other, hother, hdata'⟩ := canonicalTaskRequest_sameData hw
  rw [canonicalTaskRequestJson, canonicalTaskRequestJson]
  constructor
  · rintro ⟨text, htext, htext'⟩
    rw [hcanonical, Option.map_some] at htext
    rw [hother, Option.map_some] at htext'
    obtain rfl := stringify_injective ((Option.some.inj htext).trans (Option.some.inj htext').symm)
    exact hdata.symm.trans hdata'
  · intro h
    rw [← canonicalTaskRequest_congr hv hw h, hcanonical]
    exact ⟨_, rfl, rfl⟩

/-- **The canonical text is faithful where no key is overlooked**: a request that
overlooks no key has the canonical text of another such request exactly if they are
the same data, in whatever order their fields stand.  So a redelivery is a duplicate
exactly if it carries the same request, and the digest of a grant is that of one
request, unless the digests of two texts collide.  For each request that overlooks a
key, there is an accepted one of which the text does not tell it apart, or it has no
text. -/
theorem canonicalTaskRequestJson_faithful_iff (parseDate : JsString → Option Timestamp)
    (sha256 : JsString → JsString) (v : Json) (hv : isTaskRequest parseDate v = true) :
    (∀ w, isTaskRequest parseDate w = true → (overlooksKey w = true → overlooksKey v = true) →
      Faithful sha256 v w) ↔ overlooksKey v = false := by
  constructor
  · intro h
    by_contra hoverlooks
    rw [Bool.not_eq_false] at hoverlooks
    have hretouched := h (retouchRequest v) (isTaskRequest_retouchRequest hv) fun _ => hoverlooks
    have hitself := (h v hv fun _ => hoverlooks).text.mpr (.refl v)
    refine not_sameData_retouchRequest hv hoverlooks (hretouched.text.mp ?_)
    rwa [canonicalTaskRequestJson, canonicalTaskRequestJson, canonicalTaskRequest_retouchRequest]
  · intro hlisted w hw himp
    have hlisted' : overlooksKey w = false := by
      by_contra hoverlooks
      rw [Bool.not_eq_false] at hoverlooks
      rw [himp hoverlooks] at hlisted
      cases hlisted
    obtain ⟨m, hv⟩ := requestFacts hv
    obtain ⟨n, hw⟩ := requestFacts hw
    exact faithful_of_text (sameText_iff ⟨hv, hlisted⟩ ⟨hw, hlisted'⟩)

/-! ### A request that arrives twice -/

def sampleFields : List (String × Json) :=
  [("schemaVersion", .num 7), ("taskId", jsonString "task-1"),
    ("requesterTetiId", jsonString "teti_aaaaaaaaa"), ("targetTetiId", jsonString "teti_bbbbbbbbb"),
    ("offerId", jsonString "offer-1"), ("capabilityId", jsonString "general-text-assistance"),
    ("input", .obj [("kind", jsonString "parts"),
      ("parts", .arr [.obj [("kind", jsonString "text"), ("text", jsonString "Hello")]])]),
    ("workspace", .obj [("kind", jsonString "temporary"), ("access", .arr [jsonString "read"])]),
    ("executionMode", jsonString "single_stage"),
    ("createdAt", jsonString "2026-07-18T01:00:00.000Z"),
    ("expiresAt", jsonString "2026-07-18T02:00:00.000Z")]

/-- A request, and the same request with its fields in another order, are one
request. -/
theorem canonicalTaskRequestJson_faithful_reversed :
    overlooksKey (.obj sampleFields) = false
      ∧ redeliveryStatus (.obj sampleFields) (.obj sampleFields.reverse) = some .duplicate
      ∧ SameData (.obj sampleFields) (.obj sampleFields.reverse) := by
  have haccepted : isTaskRequest dateParse (.obj sampleFields) = true := by decide +kernel
  have hreversed : isTaskRequest dateParse (.obj sampleFields.reverse) = true := by decide +kernel
  have hstatus : redeliveryStatus (.obj sampleFields) (.obj sampleFields.reverse) = some .duplicate := by
    decide +kernel
  have hlisted : overlooksKey (.obj sampleFields) = false := by decide +kernel
  have hlisted' : ¬overlooksKey (.obj sampleFields.reverse) = true := by decide +kernel
  have hfaithful := (canonicalTaskRequestJson_faithful_iff dateParse id _ haccepted).mpr hlisted
    _ hreversed fun h => absurd h hlisted'
  exact ⟨hlisted, hstatus, hfaithful.redelivery.mp hstatus⟩

/-- A request, and the same request with an empty key, are both accepted, and have
the same text, but are not the same data. -/
theorem canonicalTaskRequestJson_empty_key :
    isTaskRequest dateParse (.obj sampleFields) = true
      ∧ isTaskRequest dateParse (.obj (sampleFields ++ [("", .num 1)])) = true
      ∧ redeliveryStatus (.obj sampleFields) (.obj (sampleFields ++ [("", .num 1)]))
        = some .duplicate
      ∧ ¬SameData (.obj sampleFields) (.obj (sampleFields ++ [("", .num 1)])) := by
  refine ⟨by decide +kernel, by decide +kernel, by decide +kernel, fun h => ?_⟩
  obtain ⟨x, y, hx, -⟩ | ⟨-, hy⟩ := h.field ""
  · have hnone : (Json.obj sampleFields).field "" = none := by decide +kernel
    rw [hnone] at hx
    cases hx
  · exact absurd hy (by decide +kernel)

end RequestData

end TetiBot
