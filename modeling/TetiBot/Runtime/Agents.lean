import TetiBot.Runtime.AgentConfig
import TetiBot.Library.Slots
import TetiBot.Library.Transition

/-
Agent discovery and path overrides (`runtime/agents/supervisor.ts`, and
`setAgentPathOverride` in `runtime/service.ts`).

* `AgentScan`: a run of `runDiscovery`, which all calls of `discover` share until it is
  forgotten.
* `OverrideCall`: a call of `setAgentPathOverride`, which waits for the one before it.
* `AgentEvent`, `AgentManagement.step`: calls, scans, the accesses to the file and the
  continuations, in any order.  An access to the file returns only when no continuation
  is due.
* `ScansInOrder`: there is one scan at a time, and a snapshot comes from the last one that
  has completed.
-/

namespace TetiBot

open Library

/-! ### Scans -/

inductive AgentSnapshotState
  | idle | discovering | ready | degraded | disabled
  deriving DecidableEq

/-- `AgentObservationSnapshot`; `source` is the scan that its agents come from. -/
structure AgentSnapshot where
  state : AgentSnapshotState
  revision : Nat
  source : Option Nat
  deriving DecidableEq

/-- Where a scan is: its catalog is being loaded, its agents are observed, its promise has
settled, or the supervisor has forgotten it. -/
inductive ScanStage
  | loading | observing
  | finished (completed : Bool)
  | forgotten (completed : Bool)
  deriving DecidableEq

/-- A run of `runDiscovery`: how many overrides had been written when it began to load its
catalog, and what it has read. -/
structure AgentScan where
  writes : Nat
  catalog : Option AgentConfigFile
  stage : ScanStage

/-! ### Calls -/

/-- Where a call of `setAgentPathOverride` is. -/
inductive OverrideStage
  | waiting
  | reading
  | writing (next : AgentConfigFile)
  /-- The file has been replaced, its mode is set. -/
  | replaced
  /-- Waiting for a scan, and whether another one is needed after it. -/
  | awaiting (scan : Nat) (again : Bool)
  /-- `getAgentManagementSnapshot` reads the overrides. -/
  | reporting (snapshot : AgentSnapshot)
  | resolved (snapshot : AgentSnapshot)
  | rejected

/-- A call, the one it waits for, and the number of its write once that has returned. -/
structure OverrideCall where
  agentId : JsString
  path : Option JsString
  previous : Option Nat
  stage : OverrideStage
  written : Option Nat

def OverrideStage.isSettled : OverrideStage → Bool
  | .resolved _ | .rejected => true
  | _ => false

structure AgentManagement where
  file : AgentConfigFile
  calls : List OverrideCall
  agentMutation : Option Nat
  scans : List AgentScan
  discovery : Option Nat
  snapshot : AgentSnapshot
  /-- How many writes have returned. -/
  writes : Nat
  /-- The calls that have replaced the file. -/
  replacedBy : List Nat

def initialAgents (file : AgentConfigFile) : AgentManagement where
  file := file
  calls := []
  agentMutation := none
  scans := []
  discovery := none
  snapshot := ⟨.idle, 0, none⟩
  writes := 0
  replacedBy := []

inductive AgentEvent
  | setPathOverride (agentId : JsString) (path : Option JsString)
  /-- The call before has settled. -/
  | began (call : Nat)
  | configRead (call : Nat) (fails : Bool)
  | configReplaced (call : Nat) (fails : Bool)
  | configWritten (call : Nat) (fails : Bool)
  /-- A scan that is scheduled, or asked for. -/
  | discover
  | catalogRead (scan : Nat) (fails : Bool)
  /-- The agents have been observed, or one of them is not privacy safe. -/
  | observed (scan : Nat) (state : Option AgentSnapshotState)
  /-- The continuation of the supervisor after a scan. -/
  | forgotten (scan : Nat)
  /-- The continuation of a call after the scan it waits for. -/
  | resumed (call : Nat)
  | reported (call : Nat)
  /-- The continuation of the service after a call. -/
  | mutationCleared (call : Nat)

namespace AgentManagement

/-! ### The supervisor -/

variable (s : AgentManagement)

/-- `discover`, and the scan whose promise it returns. -/
def discover : AgentManagement × Nat :=
  match s.discovery with
  | some scan => (s, scan)
  | none =>
    ({ s with
      scans := s.scans ++ [⟨s.writes, none, .loading⟩]
      discovery := some s.scans.length
      snapshot := { s.snapshot with state := .discovering } }, s.scans.length)

def modifyScan (scan : Nat) (f : AgentScan → AgentScan) : AgentManagement :=
  { s with scans := s.scans.modify scan f }

/-- `complete`, or the rejection of `runDiscovery`. -/
def finishScan (scan : Nat) : Option AgentSnapshotState → AgentManagement
  | none => s.modifyScan scan fun k => { k with stage := .finished false }
  | some state =>
    { s.modifyScan scan fun k => { k with stage := .finished true } with
      snapshot := ⟨state, s.snapshot.revision + 1, some scan⟩ }

/-- The supervisor forgets a scan. -/
def forget (scan : Nat) (completed : Bool) : AgentManagement :=
  { s.modifyScan scan fun k => { k with stage := .forgotten completed } with
    discovery := if s.discovery = some scan then none else s.discovery }

/-- A scan has settled, and the supervisor has yet to forget it. -/
def continuationDue : Bool :=
  s.scans.any fun k => match k.stage with
    | .finished _ => true
    | _ => false

/-! ### The service -/

def modifyCall (call : Nat) (f : OverrideCall → OverrideCall) : AgentManagement :=
  { s with calls := s.calls.modify call f }

def enter (call : Nat) (stage : OverrideStage) : AgentManagement :=
  s.modifyCall call fun c => { c with stage := stage }

/-- `setAgentPathOverride`, up to the promise it returns. -/
def setAgentPathOverride (agentId : JsString) (path : Option JsString) : AgentManagement :=
  { s with
    calls := s.calls ++ [⟨agentId, path, s.agentMutation, .waiting, none⟩]
    agentMutation := some s.calls.length }

/-- The call it waits for has settled. -/
def previousSettled (c : OverrideCall) : Bool :=
  match c.previous with
  | none => true
  | some previous => (s.calls[previous]?).any fun p => p.stage.isSettled

/-- What is read for a mutation, and what it writes. -/
def nextConfig (file : AgentConfigFile) (c : OverrideCall) : Except AgentConfigError AgentConfigFile := do
  setPathOverride (← readConfigRootForMutation file) c.agentId c.path

/-- The write of a call has returned: it notes whether a scan is running, and waits for one. -/
def finishWrite (call : Nat) : AgentManagement :=
  let scanWasAlreadyRunning := s.snapshot.state = .discovering
  let started := ({ s with writes := s.writes + 1 }).discover
  started.1.modifyCall call fun c =>
    { c with stage := .awaiting started.2 scanWasAlreadyRunning, written := some (s.writes + 1) }

/-- The scan that a call waits for has been forgotten. -/
def resume (call : Nat) (again completed : Bool) : AgentManagement :=
  if !completed then s.enter call .rejected
  else if again then s.discover.1.enter call (.awaiting s.discover.2 false)
  else s.enter call (.reporting s.snapshot)

section Steps

variable (isBuiltin : JsString → Bool) (isPathOf : JsString → JsString → Bool)

/-- The checks of `setPathOverride` before it reads: the agent is a known one, and the path fits
it. -/
def validOverride (c : OverrideCall) : Bool := isBuiltin c.agentId && c.path.all (isPathOf c.agentId)

/-- One event, where it can happen. -/
def step (s : AgentManagement) : AgentEvent → Option AgentManagement
  | .setPathOverride agentId path => some (s.setAgentPathOverride agentId path)
  | .began call => match s.calls[call]? with
    | some ⟨agentId, path, previous, .waiting, written⟩ =>
      let c : OverrideCall := ⟨agentId, path, previous, .waiting, written⟩
      if s.previousSettled c then
        some (s.enter call (if validOverride isBuiltin isPathOf c then .reading else .rejected))
      else none
    | _ => none
  | .configRead call fails => match s.calls[call]? with
    | some ⟨agentId, path, previous, .reading, written⟩ =>
      some (match nextConfig (if fails then .unreadable else s.file)
          ⟨agentId, path, previous, .reading, written⟩ with
        | .error _ => s.enter call .rejected
        | .ok next => s.enter call (.writing next))
    | _ => none
  | .configReplaced call fails => match s.calls[call]? with
    | some ⟨_, _, _, .writing next, _⟩ =>
      if fails then some (s.enter call .rejected)
      else some ({ s with file := next, replacedBy := s.replacedBy ++ [call] }.enter call .replaced)
    | _ => none
  | .configWritten call fails => match s.calls[call]? with
    | some ⟨_, _, _, .replaced, _⟩ =>
      -- the answer of the file system comes when all continuations have run
      if s.continuationDue then none
      else if fails then some (s.enter call .rejected)
      else some (s.finishWrite call)
    | _ => none
  | .discover => some s.discover.1
  | .catalogRead scan fails => match s.scans[scan]? with
    | some ⟨_, _, .loading⟩ =>
      some (s.modifyScan scan fun k =>
        { k with catalog := some (if fails then .unreadable else s.file), stage := .observing })
    | _ => none
  | .observed scan state => match s.scans[scan]? with
    | some ⟨_, _, .observing⟩ => some (s.finishScan scan state)
    | _ => none
  | .forgotten scan => match s.scans[scan]? with
    | some ⟨_, _, .finished completed⟩ => some (s.forget scan completed)
    | _ => none
  | .resumed call => match s.calls[call]? with
    | some ⟨_, _, _, .awaiting scan again, _⟩ => match s.scans[scan]? with
      | some ⟨_, _, .forgotten completed⟩ => some (s.resume call again completed)
      | _ => none
    | _ => none
  | .reported call => match s.calls[call]? with
    | some ⟨_, _, _, .reporting snapshot, _⟩ => some (s.enter call (.resolved snapshot))
    | _ => none
  | .mutationCleared call =>
    if (s.calls[call]?).any fun c => c.stage.isSettled then
      some { s with agentMutation := if s.agentMutation = some call then none else s.agentMutation }
    else none

end Steps

/-! ### The order of the scans -/

/-- A scan later: it has read its catalog only once, from the file if it could. -/
structure Continues (file : AgentConfigFile) (a b : AgentScan) : Prop where
  writes : b.writes = a.writes
  catalog : b.catalog = a.catalog
    ∨ a.catalog = none ∧ (b.catalog = some .unreadable ∨ b.catalog = some file)

/-- One scan at a time, in the order in which their catalogs were loaded. -/
structure ScansInOrder (s : AgentManagement) : Prop where
  current : ∀ k, s.discovery = some k → k + 1 = s.scans.length
  remembered : ∀ (k : Nat) scan, s.scans[k]? = some scan →
    ((∀ completed, scan.stage ≠ .forgotten completed) ↔ s.discovery = some k)
  discovering : ∀ (k : Nat) scan, s.scans[k]? = some scan →
    scan.stage = .loading ∨ scan.stage = .observing → s.snapshot.state = .discovering
  loaded : ∀ (k : Nat) scan, s.scans[k]? = some scan → (scan.stage = .loading ↔ scan.catalog = none)
  started : ∀ (k : Nat) scan, s.scans[k]? = some scan → scan.writes ≤ s.writes
  ordered : ∀ (i j : Nat) a b, i ≤ j → s.scans[i]? = some a → s.scans[j]? = some b → a.writes ≤ b.writes
  completed : ∀ (k : Nat) scan, s.scans[k]? = some scan →
    scan.stage = .finished true ∨ scan.stage = .forgotten true → ∃ j, s.snapshot.source = some j ∧ k ≤ j
  source : ∀ j, s.snapshot.source = some j → ∃ scan, s.scans[j]? = some scan ∧ scan.stage ≠ .loading

/-- What can be said of the scans later: they stay, and the new ones begin later. -/
structure Later (s t : AgentManagement) : Prop where
  writes : s.writes ≤ t.writes
  stays : ∀ (k : Nat) a, s.scans[k]? = some a → ∃ b, t.scans[k]? = some b ∧ Continues s.file a b
  begins : ∀ (k : Nat) b, t.scans[k]? = some b →
    (∃ a, s.scans[k]? = some a) ∨ (s.scans.length ≤ k ∧ s.writes ≤ b.writes ∧ b.catalog = none)

variable {s t : AgentManagement}

lemma Continues.refl (file : AgentConfigFile) (a : AgentScan) : Continues file a a := ⟨rfl, .inl rfl⟩

lemma Later.refl (s : AgentManagement) : s.Later s where
  writes := le_rfl
  stays _ a ha := ⟨a, ha, Continues.refl _ a⟩
  begins _ b hb := .inl ⟨b, hb⟩

/-- **`discover`** begins a scan where none is remembered. -/
lemma ScansInOrder.discover (hS : s.ScansInOrder) : s.discover.1.ScansInOrder ∧ s.Later s.discover.1
    ∧ s.discover.2 + 1 = s.discover.1.scans.length
    ∧ (s.discovery = none → s.discover.2 = s.scans.length)
    ∧ (∀ k, s.discovery = some k → s.discover.2 = k) := by
  rw [AgentManagement.discover]
  cases hdiscovery : s.discovery with
  | some k =>
    exact ⟨hS, Later.refl s, hS.current k hdiscovery, fun h => (by cases h), fun _ => Option.some.inj⟩
  | none =>
    dsimp only
    refine ⟨?_, ?_, by simp, fun _ => rfl, fun _ h => (by cases h)⟩
    · exact {
        current := fun k hk => by
          obtain rfl := Option.some.inj hk
          simp
        remembered := fun k scan hscan => by
          rcases getElem?_concat hscan with hold | ⟨rfl, rfl⟩
          · have hlt := (List.getElem?_eq_some_iff.mp hold).1
            rw [hS.remembered k scan hold, hdiscovery]
            simp [Nat.ne_of_gt hlt]
          · simp
        discovering := fun _ _ _ _ => rfl
        loaded := fun k scan hscan => by
          rcases getElem?_concat hscan with hold | ⟨-, rfl⟩
          · exact hS.loaded k scan hold
          · simp
        started := fun k scan hscan => by
          rcases getElem?_concat hscan with hold | ⟨-, rfl⟩
          · exact hS.started k scan hold
          · exact le_rfl
        ordered := fun i j a b hle ha hb => by
          rcases getElem?_concat ha with ha | ⟨rfl, rfl⟩ <;> rcases getElem?_concat hb with hb | ⟨rfl, rfl⟩
          · exact hS.ordered i j a b hle ha hb
          · exact hS.started i a ha
          · have hlt := (List.getElem?_eq_some_iff.mp hb).1
            omega
          · exact le_rfl
        completed := fun k scan hscan hdone => by
          rcases getElem?_concat hscan with hold | ⟨-, rfl⟩
          · exact hS.completed k scan hold hdone
          · simp at hdone
        source := fun j hj => by
          obtain ⟨scan, hscan, hloaded⟩ := hS.source j hj
          exact ⟨scan, getElem?_concat_old hscan, hloaded⟩ }
    · exact {
        writes := le_rfl
        stays := fun k a ha => ⟨a, getElem?_concat_old ha, Continues.refl _ a⟩
        begins := fun k b hb => by
          rcases getElem?_concat hb with hold | ⟨rfl, rfl⟩
          · exact .inl ⟨b, hold⟩
          · exact .inr ⟨le_rfl, le_rfl, rfl⟩ }

section ModifyScan

variable {n : Nat} {scan : AgentScan} {f : AgentScan → AgentScan}

lemma length_modifyScan : (s.modifyScan n f).scans.length = s.scans.length := by
  rw [modifyScan, List.length_modify]

lemma later_modifyScan (hscan : s.scans[n]? = some scan) (hf : Continues s.file scan (f scan)) :
    s.Later (s.modifyScan n f) where
  writes := le_rfl
  stays k a ha := by
    refine ⟨_, getElem?_modify_some ha, ?_⟩
    split_ifs with hk
    · subst hk
      obtain rfl := Option.some.inj (hscan.symm.trans ha)
      exact hf
    · exact Continues.refl _ a
  begins k b hb := by
    rcases getElem?_modify_cases hscan hb with ⟨rfl, -⟩ | ⟨-, hold⟩
    · exact .inl ⟨scan, hscan⟩
    · exact .inl ⟨b, hold⟩

/-- The scan that is not forgotten goes on, or is forgotten; the snapshot stays, or comes from
it. -/
lemma ScansInOrder.modifyScan (hS : s.ScansInOrder) (hscan : s.scans[n]? = some scan)
    (hremembered : ∀ completed, scan.stage ≠ .forgotten completed) (hf : Continues s.file scan (f scan))
    (hloaded : (f scan).stage = .loading ↔ (f scan).catalog = none) (hkept : scan.stage ≠ .loading →
      (f scan).stage ≠ .loading) {discovery : Option Nat} {snapshot : AgentSnapshot}
    (hdiscovery : (∀ completed, (f scan).stage ≠ .forgotten completed) ∧ discovery = some n
      ∨ (∃ completed, (f scan).stage = .forgotten completed) ∧ discovery = none)
    (hstate : (f scan).stage = .loading ∨ (f scan).stage = .observing → snapshot.state = .discovering)
    (hcompleted : (f scan).stage = .finished true ∨ (f scan).stage = .forgotten true →
      ∃ j, snapshot.source = some j ∧ n ≤ j)
    (hsource : snapshot.source = s.snapshot.source
      ∨ snapshot.source = some n ∧ (f scan).stage ≠ .loading) :
    ScansInOrder { s.modifyScan n f with discovery := discovery, snapshot := snapshot } := by
  have hcurrent : s.discovery = some n := (hS.remembered n scan hscan).mp hremembered
  have hlast := hS.current n hcurrent
  have hforgotten : ∀ (k : Nat) old, s.scans[k]? = some old → k ≠ n → ∃ completed, old.stage = .forgotten completed := by
    intro k old hold hk
    by_contra hno
    have hsome := (hS.remembered k old hold).mp fun completed h => hno ⟨completed, h⟩
    exact hk (Option.some.inj (hsome.symm.trans hcurrent))
  exact {
    current := fun k hk => by
      rw [length_modifyScan]
      rcases hdiscovery with ⟨-, hsome⟩ | ⟨-, hnone⟩
      · obtain rfl := Option.some.inj (hsome.symm.trans hk)
        exact hlast
      · cases hnone.symm.trans hk
    remembered := fun k found hfound => by
      rcases getElem?_modify_cases hscan hfound with ⟨rfl, rfl⟩ | ⟨hk, hold⟩
      · rcases hdiscovery with ⟨hstage, hsome⟩ | ⟨⟨completed, hstage⟩, hnone⟩
        · exact ⟨fun _ => hsome, fun _ => hstage⟩
        · exact ⟨fun h => absurd hstage (h completed), fun h => (by cases hnone.symm.trans h)⟩
      · obtain ⟨completed, hstage⟩ := hforgotten k found hold hk
        refine ⟨fun h => absurd hstage (h completed), fun h => ?_⟩
        rcases hdiscovery with ⟨-, hsome⟩ | ⟨-, hnone⟩
        · exact absurd (Option.some.inj (h.symm.trans hsome)) hk
        · cases hnone.symm.trans h
    discovering := fun k found hfound hbusy => by
      rcases getElem?_modify_cases hscan hfound with ⟨rfl, rfl⟩ | ⟨hk, hold⟩
      · exact hstate hbusy
      · obtain ⟨completed, hstage⟩ := hforgotten k found hold hk
        rw [hstage] at hbusy
        simp at hbusy
    loaded := fun k found hfound => by
      rcases getElem?_modify_cases hscan hfound with ⟨rfl, rfl⟩ | ⟨-, hold⟩
      · exact hloaded
      · exact hS.loaded k found hold
    started := fun k found hfound => by
      rcases getElem?_modify_cases hscan hfound with ⟨rfl, rfl⟩ | ⟨-, hold⟩
      · exact hf.writes.trans_le (hS.started k scan hscan)
      · exact hS.started k found hold
    ordered := fun i j a b hle ha hb => by
      rcases getElem?_modify_cases hscan ha with ⟨rfl, rfl⟩ | ⟨-, holda⟩ <;>
        rcases getElem?_modify_cases hscan hb with ⟨rfl, rfl⟩ | ⟨-, holdb⟩
      · exact le_rfl
      · exact hf.writes.trans_le (hS.ordered i j scan b hle hscan holdb)
      · rw [hf.writes]
        exact hS.ordered i j a scan hle holda hscan
      · exact hS.ordered i j a b hle holda holdb
    completed := fun k found hfound hdone => by
      rcases getElem?_modify_cases hscan hfound with ⟨rfl, rfl⟩ | ⟨hk, hold⟩
      · exact hcompleted hdone
      · obtain ⟨i, hi, hle⟩ := hS.completed k found hold hdone
        rcases hsource with hsame | ⟨hnew, -⟩
        · exact ⟨i, hsame.trans hi, hle⟩
        · have hlt := (List.getElem?_eq_some_iff.mp hold).1
          exact ⟨n, hnew, by omega⟩
    source := fun j hj => by
      rcases hsource with hsame | ⟨hnew, hstage⟩
      · obtain ⟨found, hfound, hstage⟩ := hS.source j (hsame.symm.trans hj)
        refine ⟨_, getElem?_modify_some hfound, ?_⟩
        split_ifs with hk
        · subst hk
          obtain rfl := Option.some.inj (hscan.symm.trans hfound)
          exact hkept hstage
        · exact hstage
      · obtain rfl := Option.some.inj (hnew.symm.trans hj)
        exact ⟨_, getElem?_modify_self hscan, hstage⟩ }

end ModifyScan

end AgentManagement

end TetiBot
