import TetiBot.Memory.Stages

/-
Structured memory items (`runtime/memory/structured-context-sqlite.ts`).

* `createStructuredMemoryItem`, `updateStructuredMemoryItem`: the owner confirms an
  item made from a stage memory, and edits it;
* `deleteStructuredMemoryItem`, `cleanupExpiredStructuredMemory`: an item is removed,
  its source is emptied, and that it was deleted is recorded;
* `setStructuredMemoryAuthorization`: the owner opens or closes a scope;
* `getStructuredMemoryItem`, `getStructuredMemorySourceDraft`: what the owner sees.

A preview that is neither consumed nor invalidated (`PreviewRow.pending`) is
invalidated by every write that it depends on.
-/

namespace TetiBot.Memory

open Library Library.JsString

/-! ### Lookups -/

namespace Database

variable (db : Database)

/-- `selectItem(database, "item.memory_id", value)`. -/
def item? (memoryId : String) : Option ItemRow :=
  db.items.find? fun item => item.memoryId == memoryId

/-- `selectItem(database, "item.source_memory_id", value)`. -/
def itemOf? (sourceMemoryId : String) : Option ItemRow :=
  db.items.find? fun item => item.sourceMemoryId == sourceMemoryId

/-- The stage memory with an id. -/
def stage? (memoryId : String) : Option StageRow :=
  db.stages.find? fun row => row.memoryId == memoryId

/-- `selectAuthorization`. -/
def authorization? (scope : AuthorizedScope) (scopeKey childAgentId : String) :
    Option AuthorizationRow :=
  db.authorizations.find? fun row =>
    row.scope == scope && row.scopeKey == scopeKey && row.childAgentId == childAgentId

end Database

/-- Neither consumed nor invalidated. -/
def PreviewRow.pending (preview : PreviewRow) : Bool :=
  preview.consumedAt.isNone && preview.invalidatedAt.isNone

/-- The preview has a candidate made from an item. -/
def PreviewRow.names (preview : PreviewRow) (memoryId : String) : Bool :=
  preview.candidates.any fun candidate => candidate.memoryId == memoryId

/-- Invalidate the pending previews with a property. -/
def Database.invalidate (db : Database) (at_ : TimeText) (select : PreviewRow → Bool) : Database :=
  { db with previews := db.previews.map fun preview =>
      if preview.pending && select preview then { preview with invalidatedAt := some at_ }
      else preview }

/-- `invalidatePendingPreviews`. -/
def Database.invalidateNaming (db : Database) (at_ : TimeText) (memoryId : String) : Database :=
  db.invalidate at_ fun preview => preview.names memoryId

/-! ### What the owner sees -/

structure StructuredMemoryItemSummary where
  memoryId : String
  sourceMemoryId : String
  sourceTaskId : String
  scope : StructuredMemoryScope
  kind : StructuredMemoryKind
  title : JsString
  contentPreview : JsString
  contentDigest : String
  version : Nat
  pinned : Bool
  childAgentId : String
  expiresAt : Option TimeText
  createdAt : TimeText
  updatedAt : TimeText
  deriving DecidableEq

structure StructuredMemoryItemDetail extends StructuredMemoryItemSummary where
  content : JsString
  deriving DecidableEq

/-- `toItemSummary`. -/
def ItemRow.toSummary (row : ItemRow) : StructuredMemoryItemSummary where
  memoryId := row.memoryId
  sourceMemoryId := row.sourceMemoryId
  sourceTaskId := row.sourceTaskId
  scope := row.scope
  kind := row.kind
  title := row.title
  contentPreview := prefixOf (characters row.content) 240
  contentDigest := row.contentDigest
  version := row.currentVersion
  pinned := row.pinned
  childAgentId := row.childAgentId
  expiresAt := row.expiresAt
  createdAt := row.createdAt
  updatedAt := row.updatedAt

/-- `toItemDetail`. -/
def ItemRow.toDetail (row : ItemRow) : StructuredMemoryItemDetail :=
  { row.toSummary with content := row.content }

/-- The one key of a lookup. -/
inductive MemoryLookup
  | memoryId (value : String)
  | sourceMemoryId (value : String)
  deriving DecidableEq

def MemoryLookup.value : MemoryLookup → String
  | .memoryId value => value
  | .sourceMemoryId value => value

def getStructuredMemoryItem (db : Database) (lookup : MemoryLookup) :
    Except MemoryError (Option StructuredMemoryItemDetail) := do
  requireSafeId lookup.value "Memory ID"
  match lookup with
  | .memoryId value => return (db.item? value).map ItemRow.toDetail
  | .sourceMemoryId value => return (db.itemOf? value).map ItemRow.toDetail

structure StructuredMemorySourceDraft where
  sourceMemoryId : String
  sourceTaskId : String
  childAgentId : String
  workspaceScopeAvailable : Bool
  suggestedTitle : JsString
  content : JsString
  existingItem : Option StructuredMemoryItemDetail
  deriving DecidableEq

/-- The title that a draft suggests: the start of the first line. -/
def suggestedTitle (content : JsString) : JsString :=
  let firstLine := trim (content.takeWhile (· ≠ 0x0A))
  prefixOf (characters (if firstLine = [] then ofString "持续协作阶段记忆" else firstLine))
    STRUCTURED_MEMORY_CONTEXT_LIMITS.maximumTitleCharacters

def getStructuredMemorySourceDraft (db : Database) (sourceMemoryId : String) :
    Except MemoryError (Option StructuredMemorySourceDraft) := do
  requireSafeId sourceMemoryId "Source Memory ID"
  if db.sourceDeleted sourceMemoryId = true then return none
  return (db.stage? sourceMemoryId).map fun source =>
    { sourceMemoryId := source.memoryId
      sourceTaskId := source.taskId
      childAgentId := source.childAgentId
      workspaceScopeAvailable := source.workspaceId.isSome
      suggestedTitle := suggestedTitle source.content
      content := source.content
      existingItem := (db.itemOf? sourceMemoryId).map ItemRow.toDetail }

/-! ### Confirming and editing an item -/

/-- What the owner can edit of an item. -/
structure EditableFields where
  scope : StructuredMemoryScope
  kind : StructuredMemoryKind
  title : JsString
  content : JsString
  pinned : Bool
  expiresAt : Option TimeText
  deriving DecidableEq

structure CreateStructuredMemoryItemInput extends EditableFields where
  sourceMemoryId : String
  changedAt : TimeText
  deriving DecidableEq

structure UpdateStructuredMemoryItemInput extends EditableFields where
  memoryId : String
  expectedVersion : Nat
  changedAt : TimeText
  deriving DecidableEq

def validateEditableFields (input : EditableFields) : Except MemoryError Unit :=
  failIf (isBlank input.title
      ∨ STRUCTURED_MEMORY_CONTEXT_LIMITS.maximumTitleCharacters
        < (characters (trim input.title)).length
      ∨ isBlank input.content
      ∨ STRUCTURED_MEMORY_CONTEXT_LIMITS.maximumContentBytes < utf8Size (trim input.content))
    (invalid "Structured Memory content")

section

variable (parseDate : TimeText → Option Timestamp)

def validateExpiry (value : Option TimeText) (changedAt : TimeText) : Except MemoryError Unit :=
  failIf (value.any fun expiresAt =>
      !isTimestamp parseDate expiresAt || !parsesBefore parseDate changedAt expiresAt)
    (invalid "Structured Memory expiry")

def validateCreateInput (input : CreateStructuredMemoryItemInput) : Except MemoryError Unit := do
  requireSafeId input.sourceMemoryId "Source Memory ID"
  validateEditableFields input.toEditableFields
  failIf (isTimestamp parseDate input.changedAt = false) (invalid "Structured Memory timestamp")
  validateExpiry parseDate input.expiresAt input.changedAt

def validateUpdateInput (input : UpdateStructuredMemoryItemInput) : Except MemoryError Unit := do
  requireSafeId input.memoryId "Memory ID"
  failIf (isSafeInteger input.expectedVersion = false ∨ input.expectedVersion < 1)
    (invalid "Structured Memory version")
  validateEditableFields input.toEditableFields
  failIf (isTimestamp parseDate input.changedAt = false) (invalid "Structured Memory timestamp")
  validateExpiry parseDate input.expiresAt input.changedAt

end

def sameEditableFields (row : ItemRow) (input : EditableFields) : Bool :=
  row.scope == input.scope && row.kind == input.kind && row.title == trim input.title
    && row.content == trim input.content && row.pinned == input.pinned
    && row.expiresAt == input.expiresAt

section

variable (env : MemoryEnv)

/-- The id of the item made from a stage memory. -/
def itemMemoryId (sourceMemoryId : String) : String :=
  shortId env "smi_" (ofString sourceMemoryId)

/-- The first version of an item. -/
def itemRow (source : StageRow) (input : CreateStructuredMemoryItemInput) : ItemRow where
  memoryId := itemMemoryId env source.memoryId
  sourceMemoryId := source.memoryId
  sourceTaskId := source.taskId
  peerTetiId := source.peerTetiId
  workspaceId := source.workspaceId
  childAgentId := source.childAgentId
  currentVersion := 1
  createdAt := input.changedAt
  updatedAt := input.changedAt
  expiresAt := input.expiresAt
  scope := input.scope
  kind := input.kind
  title := trim input.title
  content := trim input.content
  contentDigest := digest env.sha256 (trim input.content)
  pinned := input.pinned

/-- The item limit, the constraints of the table, and the row. -/
def insertItem (item : ItemRow) (db : Database) : MemoryProgram StructuredMemoryItemDetail := do
  Program.throwIf (5000 ≤ db.items.length)
    (full "Structured Memory reached its bounded active-item limit.")
  Program.throwIf (db.items.any fun known => known.memoryId == item.memoryId) unavailable
  Program.writes fun db => { db with items := db.items ++ [item] }
  return item.toDetail

def createStructuredMemoryItem (input : CreateStructuredMemoryItemInput) :
    MemoryProgram StructuredMemoryItemDetail := do
  requireWritableDatabase env
  let db ← Program.reads id
  requireQuotaAvailable env db
  Program.fromExcept (validateCreateInput env.parseDate input)
  let source ← Program.orThrow (db.stage? input.sourceMemoryId)
    (invalid "Structured Memory source")
  Program.throwIf (db.sourceDeleted input.sourceMemoryId = true)
    (conflict "A deleted Structured Memory source cannot be restored implicitly.")
  Program.throwIf (input.scope = .workspace ∧ source.workspaceId = none)
    (invalid "Workspace Memory scope")
  match db.itemOf? input.sourceMemoryId with
  | some existing => do
    Program.throwIf (sameEditableFields existing input.toEditableFields = false)
      (conflict "The source stage is already confirmed as a different Structured Memory item.")
    return existing.toDetail
  | none => insertItem (itemRow env source input) db

/-- The next version of an item. -/
def editedRow (row : ItemRow) (input : UpdateStructuredMemoryItemInput) : ItemRow :=
  { row with
    currentVersion := row.currentVersion + 1
    updatedAt := input.changedAt
    expiresAt := input.expiresAt
    scope := input.scope
    kind := input.kind
    title := trim input.title
    content := trim input.content
    contentDigest := digest env.sha256 (trim input.content)
    pinned := input.pinned }

/-- Replace the row of an item. -/
def Database.setItem (db : Database) (item : ItemRow) : Database :=
  { db with items := db.items.map fun known =>
      if known.memoryId = item.memoryId then item else known }

def updateStructuredMemoryItem (input : UpdateStructuredMemoryItemInput) :
    MemoryProgram StructuredMemoryItemDetail := do
  requireWritableDatabase env
  let db ← Program.reads id
  requireQuotaAvailable env db
  Program.fromExcept (validateUpdateInput env.parseDate input)
  let existing ← Program.orThrow (db.item? input.memoryId) (invalid "Structured Memory item")
  Program.throwIf (input.scope = .workspace ∧ existing.workspaceId = none)
    (invalid "Workspace Memory scope")
  Program.throwIf (existing.currentVersion ≠ input.expectedVersion)
    (conflict "Structured Memory was changed after the editor opened.")
  if sameEditableFields existing input.toEditableFields = true then return existing.toDetail
  let edited := editedRow env existing input
  Program.writes fun db => (db.setItem edited).invalidateNaming input.changedAt input.memoryId
  return edited.toDetail

/-! ### Deleting items -/

/-- Remove an item, empty its source, and record that it was deleted. -/
def Database.removeItem (db : Database) (item : ItemRow) (deletedAt : TimeText)
    (reasonCode : DeletionReason) : Database :=
  { db with
    items := db.items.filter fun known => known.memoryId != item.memoryId
    stages := db.stages.map fun row =>
      if row.memoryId = item.sourceMemoryId then
        { row with content := [], contentDigest := digest env.sha256 [] }
      else row
    deletions := db.deletions ++
      [⟨item.memoryId, item.sourceMemoryId, item.contentDigest, deletedAt, reasonCode⟩] }

def deleteStructuredMemoryItemWithReason (memoryId : String) (deletedAt : TimeText)
    (reasonCode : DeletionReason) : MemoryProgram Bool := do
  let db ← Program.reads id
  match db.item? memoryId with
  | none => return false
  | some existing => do
    Program.throwIf (db.deletions.any fun row => row.memoryId == memoryId) unavailable
    Program.writes fun db =>
      (db.invalidateNaming deletedAt memoryId).removeItem env existing deletedAt reasonCode
    return true

def deleteStructuredMemoryItem (memoryId : String) (deletedAt : TimeText) :
    MemoryProgram Bool := do
  requireWritableDatabase env
  Program.fromExcept (requireSafeId memoryId "Memory ID")
  Program.throwIf (isTimestamp env.parseDate deletedAt = false) (invalid "Memory deletion")
  deleteStructuredMemoryItemWithReason env memoryId deletedAt .userDeleted

/-- A preview that maintenance removes. -/
def PreviewRow.outdated (preview : PreviewRow) (cutoff : TimeText) : Bool :=
  preview.consumedAt.isNone && (textBefore preview.expiresAt cutoff
    || preview.invalidatedAt.any fun invalidatedAt => textBefore invalidatedAt cutoff)

def cleanupExpiredStructuredMemory (executedAt previewRetentionCutoff : TimeText) :
    MemoryProgram Nat := do
  Program.throwIf (isTimestamp env.parseDate executedAt = false
      ∨ isTimestamp env.parseDate previewRetentionCutoff = false)
    (invalid "Structured Memory maintenance timestamp")
  let db ← Program.reads id
  let expired := (db.items.filter fun item => item.expiresAt.any fun expiresAt =>
    !textBefore executedAt expiresAt).map ItemRow.memoryId
  let expiredItemCount ← Program.foldM (fun count memoryId => do
    let deleted ← deleteStructuredMemoryItemWithReason env memoryId executedAt .expired
    return if deleted then count + 1 else count) 0
    (expired.insertionSort fun left right => left ≤ right)
  Program.writes fun db =>
    { db with previews := db.previews.filter fun preview =>
        !preview.outdated previewRetentionCutoff }
  return expiredItemCount

/-- `runMaintenance`. -/
def runMaintenance (executedAt : TimeText) : MemoryProgram Nat := do
  let executed ← Program.orThrow (env.parseDate executedAt)
    (invalid "Structured Memory maintenance")
  requireWritableDatabase env
  cleanupExpiredStructuredMemory env executedAt
    (toISOString (executed - STRUCTURED_MEMORY_STORE_LIMITS.expiredPreviewRetentionMs))

/-! ### Authorizations -/

structure StructuredMemoryAuthorizationInput extends ContextIdentity where
  scope : AuthorizedScope
  enabled : Bool
  changedAt : TimeText
  deriving DecidableEq

/-- `requireContextIdentity`. -/
def requireContextIdentity (input : ContextIdentity) : Except MemoryError Unit := do
  requireSafeId input.taskId "Task ID"
  requireSafeId input.peerTetiId "Peer Teti ID"
  requireSafeId? input.workspaceId "Workspace ID"
  requireAgentId input.childAgentId

def validateAuthorizationInput (parseDate : TimeText → Option Timestamp)
    (input : StructuredMemoryAuthorizationInput) : Except MemoryError Unit := do
  requireContextIdentity input.toContextIdentity
  failIf (input.scope = .workspace ∧ input.workspaceId = none) (invalid "Workspace authorization")
  failIf (isTimestamp parseDate input.changedAt = false) (invalid "Authorization timestamp")

/-- The key of a scope: the workspace, or the peer. -/
def AuthorizedScope.key? (scope : AuthorizedScope) (identity : ContextIdentity) : Option String :=
  match scope with
  | .workspace => identity.workspaceId
  | .peer => some identity.peerTetiId

def PreviewRow.identity (preview : PreviewRow) : ContextIdentity :=
  ⟨preview.taskId, preview.peerTetiId, preview.workspaceId, preview.childAgentId⟩

/-- Insert an authorization, or replace the one with its key. -/
def Database.authorize (db : Database) (row : AuthorizationRow) : Database :=
  { db with authorizations := row :: db.authorizations.filter fun known =>
      !(known.scope == row.scope && known.scopeKey == row.scopeKey
        && known.childAgentId == row.childAgentId) }

def setStructuredMemoryAuthorization (input : StructuredMemoryAuthorizationInput) :
    MemoryProgram Unit := do
  requireWritableDatabase env
  Program.fromExcept (validateAuthorizationInput env.parseDate input)
  let scopeKey ← Program.orThrow (input.scope.key? input.toContextIdentity)
    (invalid "Workspace authorization")
  Program.writes fun db =>
    (db.authorize {
      scope := input.scope
      scopeKey := scopeKey
      childAgentId := input.childAgentId
      enabled := input.enabled
      authorizedAt := if input.enabled then some input.changedAt else none
      revokedAt := if input.enabled then none else some input.changedAt }).invalidate
      input.changedAt fun preview => preview.childAgentId == input.childAgentId
        && input.scope.key? preview.identity == some scopeKey

end

end TetiBot.Memory
