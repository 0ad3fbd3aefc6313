import TetiBot.Tasks.ReadModel
import TetiBot.Connections.Types
import TetiBot.Library.Lanes
import TetiBot.Library.OrderedMap

/-
The read cache (`runtime/tasks/read-model.ts`).

* `TaskReadModel`, `publish`, `remember`: summaries of the published state, and the
  details of the tasks that were read last.
* `ReadWorld`: the store file with all that it has held, and what the calls have
  answered.  `published` notes which version was published last; no operation reads it.
* `perform`: the reads, each on a lane of its own, and the writer, which saves and then
  publishes; loads and saves are steps between which the others may run.
* `Coherent`: what is cached, and what was answered, is of no older version than what
  was published.
* `read_cache_fresh`: this holds at every point of every run.
-/

namespace TetiBot

open Library Library.Async

/-! ### The cache -/

def MAX_CACHED_TASK_DETAILS : Nat := 16

/-- The records, the first of them with a task id. -/
def findTask (taskId : String) (state : TaskStore) : Option TaskRecord :=
  state.records.find? fun candidate => candidate.request.taskId == taskId

def taskPresentationRank (task : CachedTaskSummary) : Nat :=
  if task.direction = .incoming ∧ task.approval = .pending ∧ task.state = .submitted then 0
  else if task.state = .working ∨ task.state = .inputRequired ∨ task.state = .authRequired then 1
  else 2

/-- The sign of the comparison decides.  Times are compared as instants.  The
source compares their texts by `localeCompare`, which orders them alike where all are in the
form of `toISOString` with a year of four digits. -/
def compareTaskSummaryPresentation (left right : CachedTaskSummary) : Int :=
  let difference := (taskPresentationRank left : Int) - taskPresentationRank right
  if difference ≠ 0 then difference
  else if taskPresentationRank left = 0 then left.expiresAt - right.expiresAt
  else right.updatedAt - left.updatedAt

/-- The summaries that `publish` keeps of a state. -/
def cachedSummaries (state : TaskStore) : List CachedTaskSummaryEntry :=
  ((state.records.map summaryEntry).mergeSort fun left right =>
    compareTaskSummaryPresentation left.summary right.summary ≤ 0).take 100

structure TaskReadModel where
  summaries : List CachedTaskSummaryEntry
  initialized : Bool
  generation : Nat
  details : OrderedMap String TaskRecord

namespace TaskReadModel

def cold : TaskReadModel := ⟨[], false, 0, .empty⟩

def publish (state : TaskStore) (model : TaskReadModel) : TaskReadModel where
  generation := model.generation + 1
  summaries := cachedSummaries state
  details := model.details.refresh fun taskId => findTask taskId state
  initialized := true

/-- A record that was read is the youngest entry. -/
def touch (taskId : String) (record : TaskRecord) (model : TaskReadModel) : TaskReadModel :=
  { model with details := (model.details.erase taskId).set taskId record }

/-- The oldest entries go until there is room. -/
def remember (record : TaskRecord) (model : TaskReadModel) : TaskReadModel :=
  let details := (model.details.erase record.request.taskId).set record.request.taskId record
  { model with details := details.drop (details.size - MAX_CACHED_TASK_DETAILS) }

end TaskReadModel

/-! ### Answers -/

structure CollaborationTaskSummary where
  task : CachedTaskSummary
  connectionRequestId : Option String

/-- The fields that do not vary (`schemaVersion`, `unreadStageResultCount`) are left out. -/
structure CollaborationTaskSummarySnapshot where
  generatedAt : Timestamp
  pendingIncomingCount : Nat
  unreadTaskUpdateCount : Nat
  tasks : List CollaborationTaskSummary

structure CollaborationTaskTransportSnapshot where
  generatedAt : Timestamp
  records : List TaskRecord
  peers : List TetiTaskPeerProtocolCapability

/-- `confirmedByPeer.get(peer)`; of two connections with a peer the last one counts. -/
def confirmedRequestId (connections : List Connections.TetiConnectionRecord) (peer : TetiId) :
    Option String :=
  (connections.reverse.find? fun connection =>
    connection.state == .confirmed && connection.remoteTetiId == peer).map fun connection =>
    connection.requestId

/-- What `listSummaries` makes of the summaries; `now` is the clock, which is read once
for each of them, and once for the snapshot. -/
def summarySnapshot (now : Nat → Timestamp) (connections : List Connections.TetiConnectionRecord)
    (summaries : List CachedTaskSummaryEntry) : CollaborationTaskSummarySnapshot :=
  let tasks := (summaries.mapIdx fun k entry => projectCurrentSummary entry (now k)).mergeSort
    fun left right => compareTaskSummaryPresentation left right ≤ 0
  { generatedAt := now summaries.length
    pendingIncomingCount := tasks.countP fun task =>
      task.direction == .incoming && task.approval == .pending && task.state == .submitted
    unreadTaskUpdateCount := tasks.countP fun task => task.hasUnreadTaskUpdate
    tasks := tasks.map fun task => ⟨task,
      (confirmedRequestId connections task.peerTetiId).filter fun requestId => requestId != ""⟩ }

/-- What `list` makes of a state. -/
def transportSnapshot (localeBefore : String → String → Bool) (now : Nat → Timestamp)
    (state : TaskStore) : CollaborationTaskTransportSnapshot where
  generatedAt := now 0
  records := (state.records.mapIdx fun k record => projectCurrentRecord record (now (k + 1))).mergeSort
    fun left right => right.updatedAt ≤ left.updatedAt
  peers := state.peers.mergeSort fun left right => !localeBefore right.tetiId left.tetiId

/-- The answer of a call, with what had been published when it began. -/
inductive ReadAnswer
  | detail (began : Option Nat) (taskId : String) (record : Option TaskRecord)
  | summaries (began : Option Nat) (connections : List Connections.TetiConnectionRecord)
      (snapshot : CollaborationTaskSummarySnapshot)
  | list (began : Option Nat) (snapshot : CollaborationTaskTransportSnapshot)

/-! ### The world -/

structure ReadEnvironment where
  clock : Nat → Timestamp
  localeBefore : String → String → Bool

/-- What a load has read, and which version of the file it was. -/
structure LoadedState where
  index : Nat
  state : TaskStore

structure ReadWorld where
  earlier : List TaskStore
  file : TaskStore
  model : TaskReadModel
  published : Option Nat
  ticks : Nat
  answers : List ReadAnswer

namespace ReadWorld

/-- A runtime that has just started over a file. -/
def started (file : TaskStore) : ReadWorld := ⟨[], file, .cold, none, 0, []⟩

/-- All that the file has held, the oldest first. -/
def versions (w : ReadWorld) : List TaskStore := w.earlier ++ [w.file]

/-- What a load reads. -/
def current (w : ReadWorld) : LoadedState := ⟨w.earlier.length, w.file⟩

/-- The file is replaced. -/
def rename (state : TaskStore) (w : ReadWorld) : ReadWorld :=
  { w with earlier := w.earlier ++ [w.file], file := state }

def publish (version : LoadedState) (w : ReadWorld) : ReadWorld :=
  { w with model := w.model.publish version.state, published := some version.index }

/-- Answer, with a number of looks at the clock. -/
def answer (clock : Nat → Timestamp) (looks : Nat) (f : (Nat → Timestamp) → ReadAnswer)
    (w : ReadWorld) : ReadWorld :=
  { w with
    ticks := w.ticks + looks
    answers := w.answers ++ [f fun k => clock (w.ticks + k)] }

end ReadWorld

abbrev ReadOperation (α : Type) : Type := Async String ReadWorld α

/-! ### The operations -/

/-- What a call notes when it begins. -/
structure CallStart where
  published : Option Nat
  generation : Nat
  initialized : Bool

def ReadWorld.start (w : ReadWorld) : CallStart :=
  ⟨w.published, w.model.generation, w.model.initialized⟩

/-- `this.source.load()`. -/
def loadTasks : ReadOperation LoadedState := lift (Program.reads ReadWorld.current)

section

variable (env : ReadEnvironment)

/-- `get` until its load: a cached record is answered at once. -/
def answerFromCache (taskId : String) (w : ReadWorld) : ReadWorld :=
  match w.model.details.get? taskId with
  | some cached => ReadWorld.answer env.clock 1
      (fun now => .detail w.published taskId (some (projectCurrentRecord cached (now 0))))
      { w with model := w.model.touch taskId cached }
  | none => w

/-- `get` after its load. -/
def answerLoaded (taskId : String) (start : CallStart) (loaded : LoadedState) (w : ReadWorld) :
    ReadWorld :=
  let w := if w.model.initialized then w else w.publish loaded
  match findTask taskId loaded.state with
  | none => w.answer env.clock 0 fun _ => .detail start.published taskId none
  | some record =>
    let w := if start.generation = w.model.generation then
      { w with model := w.model.remember record } else w
    w.answer env.clock 1 fun now =>
      .detail start.published taskId (some (projectCurrentRecord record (now 0)))

def getTaskDetail (taskId : String) : ReadOperation Unit := do
  let cached ← lift do
    let w ← Program.reads id
    Program.writes (answerFromCache env taskId)
    return if (w.model.details.get? taskId).isSome then none else some w.start
  match cached with
  | none => return ()
  | some start => do
    let loaded ← loadTasks
    lift (Program.writes (answerLoaded env taskId start loaded))

/-- `list` loads once more if a state was published during its load. -/
def reloadTasks (again : Bool) (loaded : LoadedState) : ReadOperation LoadedState :=
  if again then loadTasks else pure loaded

def listTasks : ReadOperation Unit := do
  let start ← lift (Program.reads ReadWorld.start)
  let loaded ← loadTasks
  let again ← lift do
    let w ← Program.reads id
    if w.model.initialized then
      return start.initialized && start.generation != w.model.generation
    else
      Program.writes (ReadWorld.publish loaded)
      return false
  let loaded ← reloadTasks again loaded
  lift (Program.writes (ReadWorld.answer env.clock (loaded.state.records.length + 1) fun now =>
    .list start.published (transportSnapshot env.localeBefore now loaded.state)))

/-- `ensureInitialized` after its load. -/
def initializeWith (start : CallStart) (loaded : LoadedState) (w : ReadWorld) : ReadWorld :=
  if w.model.initialized = false ∧ start.generation = w.model.generation then w.publish loaded
  else w

def ensureInitialized (start : CallStart) : ReadOperation Unit :=
  if start.initialized then return () else do
    let loaded ← loadTasks
    lift (Program.writes (initializeWith start loaded))

def answerSummaries (start : CallStart) (connections : List Connections.TetiConnectionRecord)
    (w : ReadWorld) : ReadWorld :=
  w.answer env.clock (w.model.summaries.length + 1) fun now =>
    .summaries start.published connections (summarySnapshot now connections w.model.summaries)

def listTaskSummaries (connections : List Connections.TetiConnectionRecord) :
    ReadOperation Unit := do
  let start ← lift (Program.reads ReadWorld.start)
  ensureInitialized start
  lift (Program.writes (answerSummaries env start connections))

/-- How a save of the file ends: it may throw before the file is replaced, or after. -/
inductive SaveOutcome
  | saved | refused | interrupted
  deriving DecidableEq

/-- `PublishingTaskTransportStore.save`. -/
def savePublishing (state : TaskStore) (outcome : SaveOutcome) : ReadOperation Unit := do
  throwIf (outcome = .refused) "The Task store could not be written."
  let version ← lift do
    Program.writes (ReadWorld.rename state)
    Program.reads ReadWorld.current
  throwIf (outcome = .interrupted) "The Task store could not be protected."
  lift (Program.writes (ReadWorld.publish version))

/-- `initializeReadModel`: what the recovery has changed is saved, and what it has left
as it is only published. -/
def initializeModel (recover : TaskStore → Option TaskStore) (outcome : SaveOutcome) :
    ReadOperation Unit := do
  let loaded ← loadTasks
  match recover loaded.state with
  | some state => savePublishing state outcome
  | none => lift (Program.writes (ReadWorld.publish loaded))

end

/-! ### The lanes -/

/-- The calls.  Reads run beside each other, the writes one after the other: all
commands are on one queue, and it begins with the initialization. -/
inductive ReadCall
  | startUp (recover : TaskStore → Option TaskStore) (outcome : SaveOutcome)
  | save (state : TaskStore) (outcome : SaveOutcome)
  | get (reader : Nat) (taskId : String)
  | list (reader : Nat)
  | listSummaries (reader : Nat) (connections : List Connections.TetiConnectionRecord)

inductive ReadLane
  | writer
  | reader (n : Nat)
  deriving DecidableEq

def ReadCall.lane : ReadCall → ReadLane
  | .startUp _ _ | .save _ _ => .writer
  | .get n _ | .list n | .listSummaries n _ => .reader n

variable (env : ReadEnvironment)

def ReadCall.perform : ReadCall → ReadOperation Unit
  | .startUp recover outcome => initializeModel recover outcome
  | .save state outcome => savePublishing state outcome
  | .get _ taskId => getTaskDetail env taskId
  | .list _ => listTasks env
  | .listSummaries _ connections => listTaskSummaries env connections

abbrev ReadSystem : Type := Lanes ReadLane ReadCall String ReadWorld Unit

abbrev ReadStep : ReadSystem → ReadSystem → Prop :=
  Lanes.Step ReadCall.lane (ReadCall.perform env)

/-! ### Freshness -/

/-- A version is no older than what was published. -/
def NotOlder (published : Option Nat) (index : Nat) : Prop := ∀ p ∈ published, p ≤ index

/-- An answer was made from a version of the file that is no older than what was
published when the call began. -/
def ReadAnswer.Fresh (localeBefore : String → String → Bool) (versions : List TaskStore) :
    ReadAnswer → Prop
  | .detail began taskId record => ∃ index state, versions[index]? = some state
      ∧ NotOlder began index ∧ ∃ now, record = (findTask taskId state).map (projectCurrentRecord · now)
  | .summaries began connections snapshot => ∃ index state, versions[index]? = some state
      ∧ NotOlder began index
      ∧ ∃ now, snapshot = summarySnapshot now connections (cachedSummaries state)
  | .list began snapshot => ∃ index state, versions[index]? = some state
      ∧ NotOlder began index ∧ ∃ now, snapshot = transportSnapshot localeBefore now state

/-- The cache and the answers are of no older versions than what was published. -/
structure Coherent (env : ReadEnvironment) (w : ReadWorld) : Prop where
  cold : w.published = none → w.model.initialized = false ∧ w.model.generation = 0
  published : ∀ p ∈ w.published, w.model.initialized = true
    ∧ ∃ state, w.versions[p]? = some state ∧ w.model.summaries = cachedSummaries state
  details : ∀ taskId record, w.model.details.get? taskId = some record →
    ∃ index state, w.versions[index]? = some state ∧ NotOlder w.published index
      ∧ findTask taskId state = some record
  answers : ∀ answer ∈ w.answers, answer.Fresh env.localeBefore w.versions

/-- What any two points of a run have in common: nothing of the file is forgotten, what
is published does not get older, and a publication changes the generation. -/
structure MovesOn (env : ReadEnvironment) (w w' : ReadWorld) : Prop where
  coherent : Coherent env w'
  versions : w.versions <+: w'.versions
  published : ∀ p ∈ w.published, ∃ p' ∈ w'.published, p ≤ p'
  generation : w.model.generation ≤ w'.model.generation
  unchanged : w'.model.generation = w.model.generation → w'.published = w.published

section

variable {env : ReadEnvironment} {w w' w'' : ReadWorld}

lemma MovesOn.refl (h : Coherent env w) : MovesOn env w w :=
  ⟨h, List.prefix_rfl, fun p hp => ⟨p, hp, le_refl p⟩, le_refl _, fun _ => rfl⟩

lemma MovesOn.trans (h : MovesOn env w w') (h' : MovesOn env w' w'') : MovesOn env w w'' := by
  refine ⟨h'.coherent, h.versions.trans h'.versions, fun p hp => ?_,
    h.generation.trans h'.generation, fun hsame => ?_⟩
  · obtain ⟨p', hp', hle⟩ := h.published p hp
    obtain ⟨p'', hp'', hle'⟩ := h'.published p' hp'
    exact ⟨p'', hp'', hle.trans hle'⟩
  · have hfirst := h.generation
    have hsecond := h'.generation
    rw [h'.unchanged (by omega), h.unchanged (by omega)]

lemma versions_mono {versions versions' : List TaskStore} (h : versions <+: versions')
    {index : Nat} {state : TaskStore} (hstate : versions[index]? = some state) :
    versions'[index]? = some state := by
  obtain ⟨later, rfl⟩ := h
  have hlt : index < versions.length := (List.getElem?_eq_some_iff.mp hstate).1
  rwa [List.getElem?_append_left hlt]

/-- What is fresh stays fresh when the file is replaced. -/
lemma ReadAnswer.Fresh.mono {localeBefore : String → String → Bool}
    {versions versions' : List TaskStore} {answer : ReadAnswer}
    (h : answer.Fresh localeBefore versions) (hversions : versions <+: versions') :
    answer.Fresh localeBefore versions' := by
  cases answer <;>
  · obtain ⟨index, state, hstate, hrest⟩ := h
    exact ⟨index, state, versions_mono hversions hstate, hrest⟩

lemma getElem?_current (w : ReadWorld) : w.versions[w.current.index]? = some w.current.state := by
  simp [ReadWorld.versions, ReadWorld.current]

section

variable (h : Coherent env w)
include h

/-- The file is the last of its versions. -/
lemma Coherent.notOlder_current : NotOlder w.published w.current.index := by
  intro p hp
  obtain ⟨-, state, hstate, -⟩ := h.published p hp
  have hlt := (List.getElem?_eq_some_iff.mp hstate).1
  simp only [ReadWorld.versions, List.length_append, List.length_singleton] at hlt
  exact Nat.lt_succ_iff.mp hlt

/-! ### What the steps do -/

/-- A version that is no older than what was published is published. -/
lemma Coherent.publish {version : LoadedState}
    (hversion : w.versions[version.index]? = some version.state)
    (hnewer : NotOlder w.published version.index) :
    MovesOn env w (w.publish version) := by
  refine ⟨⟨by simp [ReadWorld.publish], ?_, ?_, h.answers⟩, List.prefix_rfl, fun p hp =>
    ⟨version.index, rfl, hnewer p hp⟩, Nat.le_succ _, fun hsame => ?_⟩
  · intro p hp
    obtain rfl := Option.some.inj hp
    exact ⟨rfl, version.state, hversion, rfl⟩
  · intro taskId record hrecord
    refine ⟨version.index, version.state, hversion, fun p hp => (Option.some.inj hp).ge, ?_⟩
    have hfound : (w.model.publish version.state).details.get? taskId = some record := hrecord
    rw [TaskReadModel.publish, OrderedMap.get?_refresh] at hfound
    split_ifs at hfound
    exact hfound
  · exact absurd hsame (Nat.succ_ne_self _)

lemma Coherent.answer (clock : Nat → Timestamp) (looks : Nat)
    {f : (Nat → Timestamp) → ReadAnswer} (hf : ∀ now, (f now).Fresh env.localeBefore w.versions) :
    MovesOn env w (w.answer clock looks f) := by
  refine ⟨⟨h.cold, h.published, h.details, fun answer hmem => ?_⟩, List.prefix_rfl,
    fun p hp => ⟨p, hp, le_refl p⟩, le_refl _, fun _ => rfl⟩
  rcases List.mem_append.mp hmem with hmem | hmem
  · exact h.answers answer hmem
  · rw [List.mem_singleton.mp hmem]
    exact hf _

/-- Other details that are no older than what was published. -/
lemma Coherent.withDetails {details : OrderedMap String TaskRecord}
    (hdetails : ∀ taskId record, details.get? taskId = some record →
      ∃ index state, w.versions[index]? = some state ∧ NotOlder w.published index
        ∧ findTask taskId state = some record) :
    MovesOn env w { w with model := { w.model with details } } :=
  ⟨⟨h.cold, h.published, hdetails, h.answers⟩, List.prefix_rfl, fun p hp => ⟨p, hp, le_refl p⟩,
    le_refl _, fun _ => rfl⟩

lemma Coherent.rename (state : TaskStore) : MovesOn env w (w.rename state) := by
  have hversions : w.versions <+: (w.rename state).versions := List.prefix_append _ _
  refine ⟨⟨h.cold, fun p hp => ?_, fun taskId record hrecord => ?_, fun answer hmem =>
    (h.answers answer hmem).mono hversions⟩, hversions, fun p hp => ⟨p, hp, le_refl p⟩,
    le_refl _, fun _ => rfl⟩
  · obtain ⟨hinit, published, hpublished, hsummaries⟩ := h.published p hp
    exact ⟨hinit, published, versions_mono hversions hpublished, hsummaries⟩
  · obtain ⟨index, found, hindex, hrest⟩ := h.details taskId record hrecord
    exact ⟨index, found, versions_mono hversions hindex, hrest⟩

lemma Coherent.initialized_iff : w.model.initialized = false ↔ w.published = none := by
  refine ⟨fun hcold => Option.eq_none_iff_forall_not_mem.mpr fun p hp => ?_,
    fun hnone => (h.cold hnone).1⟩
  rw [(h.published p hp).1] at hcold
  cases hcold

end

/-! ### What each lane guarantees -/

/-- Reads leave the file alone. -/
structure ReadGuarantee (env : ReadEnvironment) (lane : ReadLane) (w w' : ReadWorld) : Prop where
  advances : MovesOn env w w'
  file : lane ≠ .writer → w'.current = w.current

/-- The writer finds the file as it has left it. -/
structure ReadRely (env : ReadEnvironment) (lane : ReadLane) (w w' : ReadWorld) : Prop where
  advances : MovesOn env w w'
  file : lane = .writer → w'.current = w.current

variable {lane : ReadLane} {v : ReadWorld} {loaded : LoadedState}

lemma NotOlder.of_advances {index : Nat} (hv : MovesOn env v w)
    (h : NotOlder w.published index) : NotOlder v.published index := by
  intro p hp
  obtain ⟨p', hp', hle⟩ := hv.published p hp
  exact hle.trans (h p' hp')

/-- A call that began at `v` has loaded a version of the file. -/
structure Loading (env : ReadEnvironment) (v : ReadWorld) (loaded : LoadedState) (w : ReadWorld) :
    Prop where
  advances : MovesOn env v w
  version : w.versions[loaded.index]? = some loaded.state
  newer : NotOlder v.published loaded.index

lemma Loading.relies (h : Loading env v loaded w) (hw : MovesOn env w w') :
    Loading env v loaded w' :=
  ⟨h.advances.trans hw, versions_mono hw.versions h.version, h.newer⟩

lemma secure_loadTasks (h : MovesOn env v w) :
    Secure (ReadRely env lane) (ReadGuarantee env lane) (fun loaded => Loading env v loaded)
      loadTasks w := by
  refine Secure.lift fun w' hw' => ⟨⟨MovesOn.refl hw'.advances.coherent, fun _ => rfl⟩, ?_⟩
  intro loaded hloaded
  obtain rfl := Except.ok.inj hloaded
  have hcoherent := hw'.advances.coherent
  exact ⟨h.trans hw'.advances, getElem?_current w',
    hcoherent.notOlder_current.of_advances (h.trans hw'.advances)⟩

/-- Before the first publication any version may be published. -/
lemma Loading.publish_cold (h : Loading env v loaded w) (hcold : w.model.initialized = false) :
    MovesOn env w (w.publish loaded) := by
  have hcoherent := h.advances.coherent
  refine hcoherent.publish h.version ?_
  rw [hcoherent.initialized_iff.mp hcold]
  exact nofun

lemma advances_answerFromCache (h : Coherent env w) (taskId : String) :
    MovesOn env w (answerFromCache env taskId w)
      ∧ (answerFromCache env taskId w).current = w.current := by
  rw [answerFromCache]
  cases hcached : w.model.details.get? taskId with
  | none => exact ⟨MovesOn.refl h, rfl⟩
  | some cached =>
    obtain ⟨index, state, hindex, hnewer, hfound⟩ := h.details taskId cached hcached
    have htouched : MovesOn env w { w with model := w.model.touch taskId cached } := ?_
    · refine ⟨htouched.trans (htouched.coherent.answer env.clock 1 fun now => ?_), rfl⟩
      exact ⟨index, state, hindex, hnewer, now 0, by rw [hfound]; rfl⟩
    · refine h.withDetails fun key record hrecord => ?_
      rw [OrderedMap.get?_set, OrderedMap.get?_erase] at hrecord
      split_ifs at hrecord with hkey
      · obtain rfl := Option.some.inj hrecord
        exact ⟨index, state, hindex, hnewer, hkey ▸ hfound⟩
      · exact h.details key record hrecord

lemma findTask_taskId {taskId : String} {state : TaskStore} {record : TaskRecord}
    (h : findTask taskId state = some record) : record.request.taskId = taskId := by
  simpa using List.find?_some h

/-- A record that was loaded is remembered if nothing was published meanwhile. -/
lemma Loading.remember (h : Loading env v loaded w) {taskId : String} {record : TaskRecord}
    (hfound : findTask taskId loaded.state = some record)
    (hgeneration : v.model.generation = w.model.generation) :
    MovesOn env w { w with model := w.model.remember record } := by
  have hcoherent := h.advances.coherent
  have hpublished := h.advances.unchanged hgeneration.symm
  refine hcoherent.withDetails fun key other hother => ?_
  have hget := OrderedMap.get?_drop hother
  rw [OrderedMap.get?_set, OrderedMap.get?_erase, findTask_taskId hfound] at hget
  split_ifs at hget with hkey
  · obtain rfl := Option.some.inj hget
    exact ⟨loaded.index, loaded.state, h.version, hpublished ▸ h.newer, hkey ▸ hfound⟩
  · exact hcoherent.details key other hget

lemma Loading.answerLoaded (h : Loading env v loaded w) (taskId : String) :
    MovesOn env w (answerLoaded env taskId v.start loaded w)
      ∧ (answerLoaded env taskId v.start loaded w).current = w.current := by
  rw [TetiBot.answerLoaded]
  -- the first load of all publishes what it has read
  obtain ⟨w₁, hw₁, hstep₁, hfile₁⟩ : ∃ w₁, (if w.model.initialized then w else w.publish loaded) = w₁
      ∧ MovesOn env w w₁ ∧ w₁.current = w.current := by
    cases hinit : w.model.initialized with
    | true => exact ⟨w, rfl, MovesOn.refl h.advances.coherent, rfl⟩
    | false => exact ⟨_, rfl, h.publish_cold hinit, rfl⟩
  have hloading := h.relies hstep₁
  rw [hw₁]
  dsimp only
  cases hfound : findTask taskId loaded.state with
  | none =>
    refine ⟨hstep₁.trans (hloading.advances.coherent.answer env.clock 0 fun now => ?_), hfile₁⟩
    exact ⟨loaded.index, loaded.state, hloading.version, h.newer, now 0, by rw [hfound]; rfl⟩
  | some record =>
    dsimp only
    obtain ⟨w₂, hw₂, hstep₂, hfile₂⟩ : ∃ w₂, (if v.start.generation = w₁.model.generation then
        { w₁ with model := w₁.model.remember record } else w₁) = w₂
        ∧ MovesOn env w₁ w₂ ∧ w₂.current = w₁.current := by
      split_ifs with hgeneration
      · exact ⟨_, rfl, hloading.remember hfound hgeneration, rfl⟩
      · exact ⟨_, rfl, MovesOn.refl hloading.advances.coherent, rfl⟩
    rw [hw₂]
    have hlast := hloading.relies hstep₂
    refine ⟨(hstep₁.trans hstep₂).trans (hlast.advances.coherent.answer env.clock 1 fun now => ?_),
      hfile₂.trans hfile₁⟩
    exact ⟨loaded.index, loaded.state, hlast.version, h.newer, now 0, by rw [hfound]; rfl⟩

/-! ### The operations -/

lemma secure_getTaskDetail (taskId : String) :
    Secure (ReadRely env lane) (ReadGuarantee env lane) (fun _ _ => True)
      (getTaskDetail env taskId) w := by
  refine Secure.bind (R := fun cached w' => ∀ start ∈ cached, ∃ v, start = v.start
    ∧ MovesOn env v w') (Secure.lift fun w' hw' => ?_) fun cached w' hcached => ?_
  · obtain ⟨hstep, hfile⟩ := advances_answerFromCache hw'.advances.coherent taskId
    refine ⟨⟨hstep, fun _ => hfile⟩, fun cached hcached start hstart => ⟨w', ?_, hstep⟩⟩
    obtain rfl := Except.ok.inj hcached
    split_ifs at hstart
    · cases hstart
    · exact (Option.some.inj hstart).symm
  · cases cached with
    | none => trivial
    | some start =>
      obtain ⟨v, rfl, hv⟩ := hcached start rfl
      refine Secure.bind (secure_loadTasks hv) fun loaded w₁ hloaded => ?_
      refine Secure.lift fun w₂ hw₂ => ?_
      obtain ⟨hstep, hfile⟩ := (hloaded.relies hw₂.advances).answerLoaded taskId
      exact ⟨⟨hstep, fun _ => hfile⟩, fun _ _ => trivial⟩

lemma secure_listTasks :
    Secure (ReadRely env lane) (ReadGuarantee env lane) (fun _ _ => True) (listTasks env) w := by
  refine Secure.bind (R := fun start w' => ∃ v, start = v.start ∧ MovesOn env v w')
    (Secure.lift fun w' hw' => ?_) ?_
  · have hrefl := MovesOn.refl hw'.advances.coherent
    exact ⟨⟨hrefl, fun _ => rfl⟩, fun start hstart => ⟨w', (Except.ok.inj hstart).symm, hrefl⟩⟩
  rintro start w₁ ⟨v, rfl, hv⟩
  refine Secure.bind (secure_loadTasks hv) fun loaded w₂ hloaded => ?_
  refine Secure.bind (R := fun _ => Loading env v loaded) (Secure.lift fun w₃ hw₃ => ?_)
    fun again w₄ hloaded₄ => ?_
  · have hloaded₃ := hloaded.relies hw₃.advances
    have hcoherent := hloaded₃.advances.coherent
    rw [Program.exec_bind]
    cases hinit : w₃.model.initialized with
    | true =>
      simp only [Program.exec_reads, id, hinit, if_true]
      exact ⟨⟨MovesOn.refl hcoherent, fun _ => rfl⟩, fun _ _ => hloaded₃⟩
    | false =>
      simp only [Program.exec_reads, id, hinit]
      have hstep := hloaded₃.publish_cold hinit
      exact ⟨⟨hstep, fun _ => rfl⟩, fun _ _ => hloaded₃.relies hstep⟩
  · refine Secure.bind (R := fun loaded => Loading env v loaded) ?_ fun loaded w₅ hloaded₅ => ?_
    · cases again with
      | true => exact secure_loadTasks hloaded₄.advances
      | false => exact hloaded₄
    · refine Secure.lift fun w₆ hw₆ => ?_
      have hloaded₆ := hloaded₅.relies hw₆.advances
      have hfresh : ∀ now, (ReadAnswer.list v.published
          (transportSnapshot env.localeBefore now loaded.state)).Fresh env.localeBefore w₆.versions :=
        fun now => ⟨loaded.index, loaded.state, hloaded₆.version, hloaded₆.newer, now, rfl⟩
      exact ⟨⟨hloaded₆.advances.coherent.answer env.clock (loaded.state.records.length + 1) hfresh,
        fun _ => rfl⟩, fun _ _ => trivial⟩

/-- A state has been published since a call began at `v`. -/
structure PublishedSince (env : ReadEnvironment) (v w : ReadWorld) : Prop where
  advances : MovesOn env v w
  published : w.published.isSome = true

lemma PublishedSince.relies (h : PublishedSince env v w) (hw : MovesOn env w w') :
    PublishedSince env v w' := by
  refine ⟨h.advances.trans hw, ?_⟩
  obtain ⟨p, hp⟩ := Option.isSome_iff_exists.mp h.published
  obtain ⟨p', hp', -⟩ := hw.published p hp
  exact Option.isSome_iff_exists.mpr ⟨p', hp'⟩

lemma Loading.initializeWith (h : Loading env v loaded w) :
    MovesOn env w (initializeWith v.start loaded w)
      ∧ PublishedSince env v (initializeWith v.start loaded w)
      ∧ (initializeWith v.start loaded w).current = w.current := by
  have hcoherent := h.advances.coherent
  rw [TetiBot.initializeWith]
  split_ifs with hcold
  · have hstep := h.publish_cold hcold.1
    exact ⟨hstep, ⟨h.advances.trans hstep, rfl⟩, rfl⟩
  · refine ⟨MovesOn.refl hcoherent, ⟨h.advances, ?_⟩, rfl⟩
    -- nothing was published when the call began, so the generations agree
    by_contra hnone
    have hunpublished : w.published = none := by simpa using hnone
    obtain ⟨hinit, hgeneration⟩ := hcoherent.cold hunpublished
    have hle := h.advances.generation
    refine hcold ⟨hinit, ?_⟩
    change v.model.generation = w.model.generation
    omega

lemma secure_ensureInitialized (hv : Coherent env v) (h : MovesOn env v w) :
    Secure (ReadRely env lane) (ReadGuarantee env lane) (fun _ => PublishedSince env v)
      (ensureInitialized v.start) w := by
  rw [ensureInitialized]
  split_ifs with hinit
  · have hpublished : v.published ≠ none := fun hnone => by
      have hcold := hv.initialized_iff.mpr hnone
      rw [show v.start.initialized = v.model.initialized from rfl, hcold] at hinit
      cases hinit
    exact PublishedSince.relies ⟨MovesOn.refl hv, Option.ne_none_iff_isSome.mp hpublished⟩ h
  · refine Secure.bind (secure_loadTasks h) fun loaded w₁ hloaded => ?_
    refine Secure.lift fun w₂ hw₂ => ?_
    obtain ⟨hstep, hpublished, hfile⟩ := (hloaded.relies hw₂.advances).initializeWith
    exact ⟨⟨hstep, fun _ => hfile⟩, fun _ _ => hpublished⟩

lemma secure_listTaskSummaries (connections : List Connections.TetiConnectionRecord) :
    Secure (ReadRely env lane) (ReadGuarantee env lane) (fun _ _ => True)
      (listTaskSummaries env connections) w := by
  refine Secure.bind (R := fun start w' => ∃ v, start = v.start ∧ Coherent env v
    ∧ MovesOn env v w') (Secure.lift fun w' hw' => ?_) ?_
  · have hrefl := MovesOn.refl hw'.advances.coherent
    exact ⟨⟨hrefl, fun _ => rfl⟩, fun start hstart =>
      ⟨w', (Except.ok.inj hstart).symm, hw'.advances.coherent, hrefl⟩⟩
  rintro start w₁ ⟨v, rfl, hv, hw₁⟩
  refine Secure.bind (secure_ensureInitialized hv hw₁) fun _ w₂ hpublished => ?_
  refine Secure.lift fun w₃ hw₃ => ?_
  obtain ⟨hadvances, hsome⟩ := hpublished.relies hw₃.advances
  obtain ⟨p, hp⟩ := Option.isSome_iff_exists.mp hsome
  obtain ⟨-, state, hstate, hsummaries⟩ := hadvances.coherent.published p hp
  have hnewer : NotOlder w₃.published p := fun q hq => by
    rw [hp] at hq
    exact (Option.some.inj hq).ge
  have hfresh : ∀ now, (ReadAnswer.summaries v.published connections
      (summarySnapshot now connections w₃.model.summaries)).Fresh env.localeBefore w₃.versions :=
    fun now => ⟨p, state, hstate, hnewer.of_advances hadvances, now, by rw [hsummaries]⟩
  exact ⟨⟨hadvances.coherent.answer env.clock (w₃.model.summaries.length + 1) hfresh, fun _ => rfl⟩,
    fun _ _ => trivial⟩

/-- The writer publishes what it has saved. -/
lemma secure_publish (hloaded : loaded = w.current) :
    Secure (ReadRely env .writer) (ReadGuarantee env .writer) (fun _ _ => True)
      (lift (Program.writes (ReadWorld.publish loaded)) : ReadOperation Unit) w := by
  refine Secure.lift fun w' hw' => ⟨⟨?_, fun hlane => absurd rfl hlane⟩, fun _ _ => trivial⟩
  have hcurrent : loaded = w'.current := hloaded.trans (hw'.file rfl).symm
  subst hcurrent
  exact hw'.advances.coherent.publish (getElem?_current w') hw'.advances.coherent.notOlder_current

lemma secure_savePublishing (state : TaskStore) (outcome : SaveOutcome) :
    Secure (ReadRely env .writer) (ReadGuarantee env .writer) (fun _ _ => True)
      (savePublishing state outcome) w := by
  refine Secure.bind_throwIf fun _ => Secure.bind (R := fun version w' => version = w'.current)
    (Secure.lift fun w' hw' => ?_) fun version w' hversion =>
    Secure.bind_throwIf fun _ => secure_publish hversion
  exact ⟨⟨hw'.advances.coherent.rename state, fun hlane => absurd rfl hlane⟩,
    fun version hresult => (Except.ok.inj hresult).symm⟩

lemma secure_initializeModel (recover : TaskStore → Option TaskStore) (outcome : SaveOutcome) :
    Secure (ReadRely env .writer) (ReadGuarantee env .writer) (fun _ _ => True)
      (initializeModel recover outcome) w := by
  refine Secure.bind (R := fun loaded w' => loaded = w'.current) (Secure.lift fun w' hw' => ?_)
    fun loaded w' hloaded => ?_
  · exact ⟨⟨MovesOn.refl hw'.advances.coherent, fun _ => rfl⟩,
      fun version hresult => (Except.ok.inj hresult).symm⟩
  · cases recover loaded.state with
    | some state => exact secure_savePublishing state outcome
    | none => exact secure_publish hloaded

end

/-! ### Runs -/

/-- What a lane relies upon is what the others guarantee. -/
theorem reads_agree :
    Lanes.Agreement ReadCall.lane (ReadCall.perform env) (Coherent env) (ReadRely env)
      (ReadGuarantee env) where
  refl _ _ hw := ⟨MovesOn.refl hw, fun _ => rfl⟩
  trans h h' := ⟨h.advances.trans h'.advances,
    fun hlane => (h'.file hlane).trans (h.file hlane)⟩
  others hne _ _ h := ⟨h.advances, fun hlane => h.file fun hother => hne (hlane.trans hother.symm)⟩
  keeps h _ := h.advances.coherent
  secure call w _ := by
    cases call with
    | startUp recover outcome => exact secure_initializeModel recover outcome
    | save state outcome => exact secure_savePublishing state outcome
    | get _ taskId => exact secure_getTaskDetail taskId
    | list _ => exact secure_listTasks
    | listSummaries _ connections => exact secure_listTaskSummaries connections

lemma coherent_started (file : TaskStore) : Coherent env (.started file) where
  cold _ := ⟨rfl, rfl⟩
  published := nofun
  details _ _ h := by cases h
  answers _ h := by cases h

/-- **The read cache is never stale**: in every run over every file, each answer was made
from a version of the file that is no older than what was published when its call began,
what is cached is no older than what was published last, and from any point of the run
on what is published, and with it what is cached, does not get older. -/
theorem read_cache_fresh (env : ReadEnvironment) (file : TaskStore) {s t : ReadSystem}
    (hstart : Reached (ReadStep env) (Lanes.idle (.started file)) s)
    (hrun : Reached (ReadStep env) s t) :
    (∀ answer ∈ t.world.answers, answer.Fresh env.localeBefore t.world.versions)
      ∧ (∀ p ∈ t.world.published, ∃ state, t.world.versions[p]? = some state
        ∧ t.world.model.summaries = cachedSummaries state)
      ∧ (∀ taskId record, t.world.model.details.get? taskId = some record →
        ∃ index state, t.world.versions[index]? = some state ∧ NotOlder t.world.published index
          ∧ findTask taskId state = some record)
      ∧ ∀ p ∈ s.world.published, ∃ p' ∈ t.world.published, p ≤ p' := by
  have hcold := coherent_started env file
  have hadvances : MovesOn env s.world t.world :=
    Lanes.along (reads_agree env) (fun w hw => MovesOn.refl hw) MovesOn.trans
      (fun h => h.advances) hcold hstart hrun
  have hcoherent := hadvances.coherent
  exact ⟨hcoherent.answers, fun p hp => (hcoherent.published p hp).2, hcoherent.details,
    hadvances.published⟩

/-! ### A publication during a load -/

def steadyClock : ReadEnvironment := ⟨fun _ => 0, fun left right => left < right⟩

/-- The summaries and a detail are asked for; both loads are made, and before they are
answered a task is saved and published. -/
def overtaken : ReadSystem :=
  ((((Lanes.idle (.started ⟨[], []⟩)).arrive ReadCall.lane (ReadCall.perform steadyClock)
      (.listSummaries 0 [])).arrive ReadCall.lane (ReadCall.perform steadyClock)
      (.get 1 "task-1")).arrive ReadCall.lane (ReadCall.perform steadyClock)
      (.save ⟨[crowdedRecord], []⟩ .saved)).turns
    [.reader 0, .reader 0, .reader 1, .reader 1, .writer, .writer, .reader 0, .reader 0, .reader 1]

lemma reached_overtaken :
    Reached (ReadStep steadyClock) (Lanes.idle (.started ⟨[], []⟩)) overtaken :=
  Lanes.reached_turns (((Reached.refl.step (.arrive _)).step (.arrive _)).step (.arrive _)) _

/-- Both calls have answered, and what they had loaded did not take the place of what was
published. -/
theorem read_cache_fresh_overtaken :
    overtaken.world.answers.length = 2 ∧ overtaken.world.published = some 1
      ∧ (∀ answer ∈ overtaken.world.answers,
        answer.Fresh steadyClock.localeBefore overtaken.world.versions)
      ∧ ∀ p ∈ overtaken.world.published, ∃ state, overtaken.world.versions[p]? = some state
        ∧ overtaken.world.model.summaries = cachedSummaries state := by
  have hfresh := read_cache_fresh steadyClock ⟨[], []⟩ reached_overtaken .refl
  exact ⟨by decide +kernel, by decide +kernel, hfresh.1, hfresh.2.1⟩

end TetiBot
