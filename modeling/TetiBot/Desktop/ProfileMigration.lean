import TetiBot.Core.Validation
import TetiBot.Desktop.ProfileDisk
import TetiBot.Relationships.Types

/-
The migration of a 0.1 profile.

* `migrateTetiProfileToV2`: read `profile.json`; if there is none, build the 0.2 Store and the
  archive of the old tasks in staging directories, move each to its name, and write
  `profile.json`.
* `MigrationEnv`: what the migration takes from elsewhere: JSON texts, dates, the shape of the
  accounts and connections that it accepts, and the modes of files whose writer asks for none.
* `MigrationAttempt`: one run, with its clock readings and its faults; `afterAttempts` is what a
  row of runs makes of a disk.
-/

namespace TetiBot

open Library Library.Program Migration

/-- What the migration calls. -/
structure MigrationEnv where
  /-- `JSON.parse` of a file's text. -/
  parseJson : FileContent → Except String Json
  /-- `JSON.stringify(value, null, 2)` and a line feed. -/
  printJson : Json → FileContent
  parseDate : JsString → Option Timestamp
  /-- What `load` makes of the address and the id of a stored account. -/
  normalizeAccount : Json → Except String Json
  validateStoredAccount : Json → Except String Unit
  validateConnectionRecord : Json → Except String Unit
  /-- The modes `0o777` and `0o666` under the process's mask. -/
  directoryMode : Nat
  fileMode : Nat

/-- A time that a `Date` holds. -/
abbrev DateTime : Type := {t : Timestamp // -8640000000000000 ≤ t ∧ t ≤ 8640000000000000}

/-- The two readings of the clock in one run. -/
structure MigrationClock where
  archivedAt : DateTime
  createdAt : DateTime

variable (env : MigrationEnv)

/-! ### Files -/

def pathExists (path : ProfilePath) : Migration Bool := do
  return (← ifFound (lstat path)).isSome

def requireDirectory (path : ProfilePath) (label : String) : Migration Unit := do
  match ← attempt (lstat path) with
  | .ok node => throwIf (node.isDirectory = false) (.refused (label ++ " is missing or invalid."))
  | .error .died => raise .died
  | .error _ => raise (.refused (label ++ " is missing or invalid."))

/-- A value, or the error of the function that could not make it. -/
def orRefuse {α : Type} : Except String α → Migration α
  | .ok a => pure a
  | .error message => raise (.refused message)

def writePrivateJson (path : ProfilePath) (value : Json) : Migration Unit := do
  mkdir path.dirname 0o700
  let temporary := path.temporary
  writeFile temporary (env.printJson value) 0o600
  rename temporary path
  chmod path 0o600

variable (source target : ProfilePath)

def copyOptionalFile : Migration Unit := do
  if !(← pathExists source) then
    return
  mkdir target.dirname 0o700
  copyFile source target
  chmod target 0o600

mutual

/-- `copyTree` from where `lstat` has found a node. -/
def copyNode (source target : ProfilePath) (directoryMode fileMode : Nat) :
    FileNode FileContent → Migration Unit
  | .link _ => pure ()
  | .file _ _ => do
      mkdir target.dirname directoryMode
      copyFile source target
      chmod target fileMode
  | .special => pure ()
  | .dir _ entries => do
      mkdir target directoryMode
      let _ ← readdir source
      copyNodes source target directoryMode fileMode entries
      chmod target directoryMode

/-- `copyTree` of each entry of a directory. -/
def copyNodes (source target : ProfilePath) (directoryMode fileMode : Nat) :
    List (String × FileNode FileContent) → Migration Unit
  | [] => pure ()
  | (name, node) :: rest => do
      if (← ifFound (lstat (source.join name))).isSome then
        copyNode (source.join name) (target.join name) directoryMode fileMode node
      copyNodes source target directoryMode fileMode rest

end

/-- `copyTree`: the profile's own files stay as they are while they are copied, so what is
copied is the tree that `lstat` finds at the top. -/
def copyTree (directoryMode fileMode : Nat) : Migration Unit := do
  match ← ifFound (lstat source) with
  | none => pure ()
  | some node => copyNode source target directoryMode fileMode node

def copyPrivateTree : Migration Unit :=
  copyTree source target 0o700 0o600

def copyArchiveTree : Migration Unit :=
  copyTree source target 0o700 0o600

mutual

/-- `makeTreeReadOnly` from where `lstat` has found a node. -/
def makeNodeReadOnly (path : ProfilePath) : FileNode FileContent → Migration Unit
  | .link _ => pure ()
  | .file _ _ => chmod path 0o400
  | .special => pure ()
  | .dir _ entries => do
      let _ ← readdir path
      makeNodesReadOnly path entries
      chmod path 0o700

/-- `makeTreeReadOnly` of each entry of a directory. -/
def makeNodesReadOnly (path : ProfilePath) : List (String × FileNode FileContent) → Migration Unit
  | [] => pure ()
  | (name, node) :: rest => do
      let _ ← lstat (path.join name)
      makeNodeReadOnly (path.join name) node
      makeNodesReadOnly path rest

end

/-- `makeTreeReadOnly`: it changes modes only, so the tree is the one found at the top. -/
def makeTreeReadOnly (path : ProfilePath) : Migration Unit := do
  makeNodeReadOnly path (← lstat path)

/-! ### The stores of the account and of the connections -/

namespace FileTetiAccountStorage

def load (path : ProfilePath) : Migration (Option Json) := do
  match ← ifFound (readFile path) with
  | none => return none
  | some raw =>
    let account ← orRefuse (env.parseJson raw >>= env.normalizeAccount)
    orRefuse (env.validateStoredAccount account)
    return some account

def save (path : ProfilePath) (account : Json) : Migration Unit := do
  orRefuse (env.validateStoredAccount account)
  mkdir path.dirname env.directoryMode
  writeFile path.temporary (env.printJson account) env.fileMode
  rename path.temporary path

end FileTetiAccountStorage

/-- `validateConnectionStore`, with the connections of the store. -/
def validateConnectionStore (store : Json) : Except String (List Json) := do
  let fields := (recordFields? store).getD []
  if numberField fields "version" ≠ some 1 then
    throw "Unsupported Teti connection store version."
  match Json.lookup fields "connections" with
  | some (.arr connections) =>
    connections.forM env.validateConnectionRecord
    return connections
  | _ => throw "Teti connection store connections must be an array."

def connectionStore (connections : List Json) : Json :=
  .obj [("version", .num 1), ("connections", .arr connections)]

namespace FileTetiConnectionStorage

def loadAll (path : ProfilePath) : Migration (List Json) := do
  match ← ifFound (readFile path) with
  | none => return []
  | some raw => orRefuse (env.parseJson raw >>= validateConnectionStore env)

def saveAll (path : ProfilePath) (connections : List Json) : Migration Unit := do
  let _ ← orRefuse (validateConnectionStore env (connectionStore connections))
  mkdir path.dirname env.directoryMode
  writeFile path.temporary (env.printJson (connectionStore connections)) env.fileMode
  rename path.temporary path

end FileTetiConnectionStorage

/-- `connection.state === TetiConnectionState.Confirmed`. -/
def isConfirmedConnection (connection : Json) : Bool :=
  ((recordFields? connection).bind (textField · "state")) == some "Confirmed"

/-! ### The active Store -/

/-- `migrateIdentity`: the first account that can be loaded. -/
def migrateIdentityFrom : List ProfilePath → Migration Unit
  | [] => pure ()
  | candidate :: rest => do
      if !(← pathExists candidate) then
        migrateIdentityFrom rest
      else
        match ← FileTetiAccountStorage.load env candidate with
        | none => migrateIdentityFrom rest
        | some account => FileTetiAccountStorage.save env ⟨.storeStaging, ["account", "account.json"]⟩ account

def migrateIdentity : Migration Unit :=
  migrateIdentityFrom env [⟨.root, ["account", "account.json"]⟩, ⟨.root, ["account.json"]⟩]

def migrateConfirmedConnections : Migration Unit := do
  if !(← pathExists ⟨.root, ["connections.json"]⟩) then
    FileTetiConnectionStorage.saveAll env ⟨.storeStaging, ["connections.json"]⟩ []
  else
    let connections ← FileTetiConnectionStorage.loadAll env ⟨.root, ["connections.json"]⟩
    FileTetiConnectionStorage.saveAll env ⟨.storeStaging, ["connections.json"]⟩
      (connections.filter isConfirmedConnection)

variable (migratedFromLegacy : Bool)

/-- What is copied from the old profile, or the store of one that has nothing. -/
def copyProfileData : Migration Unit := do
  if migratedFromLegacy then
    migrateIdentity env
    migrateConfirmedConnections env
    copyOptionalFile ⟨.root, ["settings.json"]⟩ ⟨.storeStaging, ["settings.json"]⟩
    copyOptionalFile ⟨.root, ["agent-detectors.override.json"]⟩
      ⟨.storeStaging, ["agent-detectors.override.json"]⟩
    copyPrivateTree ⟨.root, ["credentials", "chatmail-accounts"]⟩
      ⟨.storeStaging, ["credentials", "chatmail-accounts"]⟩
  else
    writePrivateJson env ⟨.storeStaging, ["connections.json"]⟩ (connectionStore [])

/-- The control files of an active Store, as they begin. -/
def controlFiles : List (String × Json) :=
  [("messages.json", .obj [("version", .num 2), ("messageIds", .arr [])]),
    ("tasks.json", .obj [("schemaVersion", .num 2), ("records", .arr []), ("peers", .arr [])]),
    ("peer-protocol-capabilities.json", .obj [("schemaVersion", .num 2), ("peers", .arr [])])]

/-- Write the control files, one after the other. -/
def writeControlFiles : List (String × Json) → Migration Unit
  | [] => pure ()
  | (name, value) :: rest => do
      writePrivateJson env ⟨.storeStaging, [name]⟩ value
      writeControlFiles rest

def createStoreDirectories : Migration Unit := do
  mkdir ⟨.storeStaging, ["account"]⟩ 0o700
  mkdir ⟨.storeStaging, ["credentials", "chatmail-accounts"]⟩ 0o700
  mkdir ⟨.storeStaging, ["task-attachments"]⟩ 0o700

/-- `buildActiveStore` up to its `try` block. -/
def clearStoreStaging : Migration Unit := do
  rm .storeStaging
  createStoreDirectories

/-- The `try` block of `buildActiveStore` up to the renaming. -/
def fillStoreStaging : Migration Unit := do
  copyProfileData env migratedFromLegacy
  writeControlFiles env controlFiles

def buildActiveStore : Migration Unit := do
  clearStoreStaging
  onError
    (do
      fillStoreStaging env migratedFromLegacy
      rename ⟨.storeStaging, []⟩ ⟨.store, []⟩
      chmod ⟨.store, []⟩ 0o700)
    (rm .storeStaging)

/-- Whether each of the files is in the Store. -/
def requireControlFiles : List String → Migration Unit
  | [] => pure ()
  | file :: rest => do
      throwIf (¬(← pathExists ⟨.store, [file]⟩) = true) (.refused
        "Incomplete Teti 0.2 profile migration; active Store control files are missing.")
      requireControlFiles rest

def validateRecoverableActiveStore : Migration Unit := do
  requireDirectory ⟨.store, []⟩ "Teti 0.2 Store"
  requireControlFiles ["messages.json", "tasks.json", "peer-protocol-capabilities.json"]

/-! ### The archive -/

def TETI_LEGACY_MULTI_IMAGE_DEFECT_ID : String := "KD-0.1.15-MULTI-IMAGE-DELIVERY"

/-- The entries that go to the archive. -/
def archivedEntries : List String :=
  ["tasks.json", "task-attachments", "messages.json", "peer-protocol-capabilities.json",
    "connections.json"]

variable (archivedAt : DateTime)

def archiveJson : Json :=
  .obj [("schemaVersion", .num 1), ("sourceReleaseLine", jsonString "0.1.x"),
    ("archivedAt", .str (toISOString archivedAt)), ("executable", .bool false),
    ("knownDefect", jsonString TETI_LEGACY_MULTI_IMAGE_DEFECT_ID)]

def copyArchivedEntries : List String → Migration Unit
  | [] => pure ()
  | entry :: rest => do
      copyArchiveTree ⟨.root, [entry]⟩ ⟨.archiveStaging, [entry]⟩
      copyArchivedEntries rest

/-- `buildLegacyArchive` up to its `try` block. -/
def clearArchiveStaging : Migration Unit := do
  rm .archiveStaging
  mkdir ⟨.archiveStaging, []⟩ 0o700

/-- The `try` block of `buildLegacyArchive` up to the renaming. -/
def fillArchiveStaging : Migration Unit := do
  copyArchivedEntries archivedEntries
  writePrivateJson env ⟨.archiveStaging, ["archive.json"]⟩ (archiveJson archivedAt)
  makeTreeReadOnly ⟨.archiveStaging, []⟩

def buildLegacyArchive : Migration Unit := do
  if ← pathExists ⟨.archive, []⟩ then
    return
  clearArchiveStaging
  onError
    (do
      fillArchiveStaging env archivedAt
      rename ⟨.archiveStaging, []⟩ ⟨.archive, []⟩)
    (do
      ignoringErrors (chmod ⟨.archiveStaging, []⟩ 0o700)
      rm .archiveStaging)

/-! ### The migration -/

def metadataJson (createdAt : DateTime) (migratedFromLegacy : Bool) : Json :=
  .obj ([("schemaVersion", .num 2), ("storeVersion", .num 2),
      ("collaborationProtocolEpoch", .num 2), ("createdAt", .str (toISOString createdAt))]
    ++ (if migratedFromLegacy then [("migratedFrom", jsonString "0.1")] else [])
    ++ [("legacyArchive", jsonString "legacy-0.1"),
      ("knownDefects", .arr [jsonString TETI_LEGACY_MULTI_IMAGE_DEFECT_ID])])

/-- The shape of `profile.json`. -/
def isProfileMetadata (value : Json) : Bool :=
  match recordFields? value with
  | none => false
  | some fields =>
    numberField fields "schemaVersion" == some 2
      && numberField fields "storeVersion" == some 2
      && numberField fields "collaborationProtocolEpoch" == some 2
      && textField fields "legacyArchive" == some "legacy-0.1"
      && ((stringField fields "createdAt").bind env.parseDate).isSome
      && (!hasField fields "migratedFrom" || textField fields "migratedFrom" == some "0.1")
      && (match Json.lookup fields "knownDefects" with
        | some (.arr [.str defect]) =>
          defect == JsString.ofString TETI_LEGACY_MULTI_IMAGE_DEFECT_ID
        | _ => false)
      && fields.all fun field => ["schemaVersion", "storeVersion", "collaborationProtocolEpoch",
        "createdAt", "migratedFrom", "legacyArchive", "knownDefects"].contains field.1

def readMetadata (path : ProfilePath) : Migration (Option Json) := do
  if !(← pathExists path) then
    return none
  let value ← orRefuse (env.parseJson (← readFile path))
  throwIf (isProfileMetadata env value = false)
    (.refused "Unsupported or damaged Teti profile metadata.")
  return some value

/-- Whether one of the paths is there. -/
def anyExists : List ProfilePath → Migration Bool
  | [] => return false
  | candidate :: rest => do
      if ← pathExists candidate then
        return true
      anyExists rest

/-- What a 0.1 profile may have left. -/
def legacyDataPaths : List ProfilePath :=
  [⟨.root, ["account", "account.json"]⟩, ⟨.root, ["account.json"]⟩,
    ⟨.root, ["connections.json"]⟩, ⟨.root, ["credentials", "chatmail-accounts"]⟩,
    ⟨.root, ["tasks.json"]⟩]

def hasLegacyProfileData : Migration Bool := anyExists legacyDataPaths

/-- Build the active Store, or check the one that an earlier run has left. -/
def ensureActiveStore : Migration Unit := do
  if !(← pathExists ⟨.store, []⟩) then
    buildActiveStore env migratedFromLegacy
  else
    validateRecoverableActiveStore

def migrateTetiProfileToV2 (clock : MigrationClock) : Migration Json := do
  match ← readMetadata env ⟨.metadata, []⟩ with
  | some existing =>
    requireDirectory ⟨.store, []⟩ "Teti 0.2 Store"
    return existing
  | none =>
    let migratedFromLegacy ← hasLegacyProfileData
    ensureActiveStore env migratedFromLegacy
    buildLegacyArchive env clock.archivedAt
    let metadata := metadataJson clock.createdAt migratedFromLegacy
    writePrivateJson env ⟨.metadata, []⟩ metadata
    return metadata

/-- One run of the migration. -/
structure MigrationAttempt where
  clock : MigrationClock
  faults : List (Option Fault)

/-- What a run returns and the disk it leaves. -/
def MigrationAttempt.run (attempt : MigrationAttempt) (d : ProfileDisk) :
    Except MigrationError Json × ProfileDisk :=
  let outcome := (migrateTetiProfileToV2 env attempt.clock).exec ⟨d, attempt.faults⟩
  (outcome.1, outcome.2.disk)

/-- The disk after a row of runs. -/
def afterAttempts (d : ProfileDisk) (attempts : List MigrationAttempt) : ProfileDisk :=
  attempts.foldl (fun d attempt => (attempt.run env d).2) d

/-- A profile that no migration has touched. -/
def legacyProfile (mode : Nat) (entries : List (String × FileNode FileContent)) : ProfileDisk :=
  fun area => if area = .root then some (.dir mode entries) else none

end TetiBot
