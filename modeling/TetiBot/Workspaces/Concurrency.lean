import TetiBot.Workspaces.Atomicity

/-
Optimistic concurrency of the workspace store: snapshots are made, committed and
discarded by several executions at once (`exclusive`, `createSnapshot` and
`commitSnapshot` of `runtime/workspaces/store.ts`).

* `WorkspaceWorld.revisionOf`: the revision of a workspace in the index.
* `CallStep`: what a call does to the revisions.
* `acceptedSnapshots`: the snapshots whose commit returned.
* `optimistic_concurrency`: in every interleaving of calls, no revision is built upon twice.
-/

namespace TetiBot

open Library Library.Async

variable {env : WorkspaceEnvironment}

/-- The revision of a workspace in the index. -/
def WorkspaceWorld.revisionOf (w : WorkspaceWorld) (workspaceId : String) : Option Nat :=
  (w.disk.index.bind fun index => index.find workspaceId).map fun workspace => workspace.revision

/-! ### One call -/

lemma find_update {workspaceId : String} {f : WorkspaceDocument → WorkspaceDocument}
    (hf : ∀ workspace, workspace.workspaceId = workspaceId →
      (f workspace).workspaceId = workspaceId) (index : WorkspaceIndex) (other : String) :
    (index.update workspaceId f).find other
      = if other = workspaceId then (index.find workspaceId).map f else index.find other :=
  find?_updateFirst_key hf index.workspaces other

variable {w : WorkspaceWorld}

lemma revisionOf_congr {w' : WorkspaceWorld} (h : w'.disk.index = w.disk.index)
    (workspaceId : String) : w'.revisionOf workspaceId = w.revisionOf workspaceId := by
  rw [WorkspaceWorld.revisionOf, WorkspaceWorld.revisionOf, h]

/-- The call raised the revision of a workspace, on which the snapshot was made,
by one, and changed no other revision. -/
structure Advanced (snapshot : WorkspaceSnapshot) (w w' : WorkspaceWorld) : Prop where
  before : w.revisionOf snapshot.workspaceId = some snapshot.workspaceRevision
  after : w'.revisionOf snapshot.workspaceId = some (snapshot.workspaceRevision + 1)
  others : ∀ workspaceId, workspaceId ≠ snapshot.workspaceId →
    w'.revisionOf workspaceId = w.revisionOf workspaceId

/-- A commit that puts the new index in place advances its workspace. -/
lemma advanced_of_newIndex {w' : WorkspaceWorld} {snapshot : WorkspaceSnapshot} {p : Publication}
    (hpublishes : Publishes env w snapshot p) (hindex : w'.disk.index = some (p.newIndex env w)) :
    Advanced snapshot w w' := by
  have hprepared : Prepared w snapshot p.active p.index p.workspace :=
    prepareCommit_spec (Prod.ext hpublishes.prepared rfl)
  have hid : p.workspace.workspaceId = snapshot.workspaceId := (find_spec hprepared.listed).2
  have hfind : ∀ workspaceId, (p.newIndex env w).find workspaceId
      = if workspaceId = snapshot.workspaceId then some (p.next env w)
        else p.index.find workspaceId := by
    intro workspaceId
    have hfound := hprepared.listed
    rw [← hid] at hfound ⊢
    refine (find_update (f := fun _ => p.next env w) (fun _ _ => rfl) p.index workspaceId).trans ?_
    have hlisted : p.index.find (p.next env w).workspaceId = some p.workspace := hfound
    rw [hlisted]
    rfl
  refine ⟨?_, ?_, fun workspaceId hother => ?_⟩
  · rw [WorkspaceWorld.revisionOf, hprepared.index, Option.bind_some, hprepared.listed,
      Option.map_some, hprepared.current]
  · rw [WorkspaceWorld.revisionOf, hindex, Option.bind_some, hfind, if_pos rfl, Option.map_some,
      ← hprepared.current]
    rfl
  · rw [WorkspaceWorld.revisionOf, WorkspaceWorld.revisionOf, hindex, hprepared.index,
      Option.bind_some, Option.bind_some, hfind, if_neg hother]

/-- What is returned once the new index is in place is the workspace at its next
revision. -/
lemma concludeCommit_result {n : Nat} {active : ActiveSnapshot} {temporary final : WorkspacePath}
    {next workspace : WorkspaceDocument}
    (h : ((concludeCommit env n active temporary final next).outcome w).1 = .ok workspace) :
    workspace = next := by
  rw [concludeCommit] at h
  cases hchmod : env.fails n .chmodIndex with
  | none =>
    rw [hchmod] at h
    obtain ⟨_, _, -, h⟩ := outcome_bind_eq_ok.mp (Prod.ext h rfl)
    exact (Except.ok.inj (congrArg Prod.fst h)).symm
  | some error =>
    rw [hchmod] at h
    obtain ⟨_, _, -, h⟩ := outcome_bind_eq_ok.mp (Prod.ext h rfl)
    obtain ⟨_, _, -, h⟩ := outcome_bind_eq_ok.mp h
    cases congrArg Prod.fst h

/-- A commit advances its workspace, or it throws and leaves all revisions. -/
lemma commitSnapshot_step (snapshot : WorkspaceSnapshot) (w : WorkspaceWorld) :
    let outcome := (commitSnapshot env snapshot).outcome w
    Advanced snapshot w outcome.2
        ∧ (∀ workspace, outcome.1 = .ok workspace → workspace.workspaceId = snapshot.workspaceId
          ∧ workspace.revision = snapshot.workspaceRevision + 1)
      ∨ (∀ workspaceId, outcome.2.revisionOf workspaceId = w.revisionOf workspaceId)
        ∧ ∃ error, outcome.1 = .error error := by
  intro outcome
  rcases @commitSnapshot_spec env snapshot w with
    ⟨p, w₁, hpublishes, hpublished, hrun⟩ | ⟨-, error, w', hrun, hindex, -⟩
  · have hprepared : Prepared w snapshot p.active p.index p.workspace :=
      prepareCommit_spec (Prod.ext hpublishes.prepared rfl)
    obtain ⟨hindex, -, -⟩ := concludeCommit_spec hpublishes hpublished
    rw [← hrun] at hindex
    refine .inl ⟨advanced_of_newIndex hpublishes (hindex.trans hpublished.index), ?_⟩
    intro workspace hworkspace
    rw [show outcome.1 = _ from congrArg Prod.fst hrun] at hworkspace
    rw [concludeCommit_result hworkspace]
    exact ⟨(find_spec hprepared.listed).2, congrArg (· + 1) hprepared.current⟩
  · refine .inr ⟨fun workspaceId => ?_, error, congrArg Prod.fst hrun⟩
    rw [show outcome.2 = w' from congrArg Prod.snd hrun]
    exact revisionOf_congr hindex workspaceId

/-! ### Every call -/

section Keeps

variable {stored : Option WorkspaceIndex}

/-- A step that changes directories only. -/
lemma keeps_fileStep (step : FileStep) {change failed : WorkspaceDisk → WorkspaceDisk}
    (hchange : ∀ disk, (change disk).index = disk.index)
    (hfailed : ∀ disk, (failed disk).index = disk.index) :
    Keeps (fun w => w.disk.index = stored) (lift (fileStep env step change failed)) := by
  intro w hw
  rw [outcome_lift, exec_fileStep]
  cases env.fails w.operations step with
  | none => exact (hchange w.disk).trans hw
  | some error => exact (hfailed w.disk).trans hw

lemma keeps_removeDirectory (path : WorkspacePath) :
    Keeps (fun w => w.disk.index = stored) (lift (removeDirectory env path)) := by
  intro w hw
  rw [outcome_lift, exec_removeDirectory]
  cases env.fails w.operations (.rm path) <;> exact hw

lemma keeps_copyDirectory (source destination : WorkspacePath) :
    Keeps (fun w => w.disk.index = stored) (lift (copyDirectory env source destination)) := by
  intro w hw
  rw [outcome_lift, exec_copyDirectory]
  cases w.disk.directories source with
  | none => exact hw
  | some tree =>
    dsimp only
    cases copyTreeNoSymlinks (env.copyFails w.operations source) (env.now w.calls) tree <;>
      exact hw

/-- Making a snapshot leaves the index alone. -/
lemma keeps_createSnapshot (input : CreateWorkspaceSnapshotInput) :
    Keeps (fun w => w.disk.index = stored) (createSnapshot env input) := by
  refine (reads_requireInitialized.keeps _).bind fun _ => ?_
  refine ((Reads.fromExcept _).keeps _).bind fun _ => ((Reads.fromExcept _).keeps _).bind fun _ => ?_
  refine (reads_loadIndex.keeps _).bind fun index => ((Reads.orThrow _ _).keeps _).bind fun _ => ?_
  refine Keeps.bind (fun _ hw => hw) fun now => ((Reads.throwIf _ _).keeps _).bind fun _ => ?_
  refine ((Reads.throwIf _ _).keeps _).bind fun _ => Keeps.bind (fun _ hw => hw) fun uuid => ?_
  refine ((Reads.fromExcept _).keeps _).bind fun _ => ?_
  refine Keeps.bind (keeps_fileStep (.mkdir _) (fun _ => rfl) fun _ => rfl) fun _ => ?_
  refine (keeps_copyDirectory _ _).attempt.bind fun copied => ?_
  cases copied with
  | error error =>
    exact (keeps_removeDirectory _).bind fun _ => (Reads.raise _).keeps _
  | ok _ =>
    refine Keeps.bind (fun _ hw => hw) fun createdAt => Keeps.bind (fun _ hw => hw) fun _ => ?_
    exact (Reads.pure _).keeps _

/-- Discarding a snapshot leaves the index alone. -/
lemma keeps_discardSnapshot (snapshot : WorkspaceSnapshot) :
    Keeps (fun w => w.disk.index = stored) (discardSnapshot env snapshot) := by
  refine Keeps.bind (fun _ hw => hw) fun known => ?_
  cases known with
  | none => exact (Reads.pure _).keeps _
  | some active =>
    refine ((Reads.throwIf _ _).keeps _).bind fun _ => Keeps.bind (fun _ hw => hw) fun _ => ?_
    exact keeps_removeDirectory _

end Keeps

/-- What a call does to the revisions: a commit that was accepted advanced its
workspace, one that threw may have, and no other call does. -/
lemma performCall_step (call : WorkspaceCall) (w : WorkspaceWorld) :
    let outcome := (performCall env call).outcome w
    (∃ snapshot, call = .commitSnapshot snapshot ∧ Advanced snapshot w outcome.2
        ∧ ∀ workspace, outcome.1 = .ok (.committed workspace) →
          workspace.workspaceId = snapshot.workspaceId
            ∧ workspace.revision = snapshot.workspaceRevision + 1)
      ∨ (∀ workspaceId, outcome.2.revisionOf workspaceId = w.revisionOf workspaceId)
        ∧ ∀ workspace, outcome.1 ≠ .ok (.committed workspace) := by
  intro outcome
  cases call with
  | createSnapshot input =>
    refine .inr ⟨revisionOf_congr ?_, fun workspace hresult => ?_⟩
    · exact ((keeps_createSnapshot input).bind fun _ => (Reads.pure _).keeps _) w.nextOperation rfl
    · obtain ⟨_, _, -, h⟩ := outcome_bind_eq_ok.mp (Prod.ext hresult rfl)
      obtain ⟨_, _, -, h⟩ := outcome_bind_eq_ok.mp h
      cases congrArg Prod.fst h
  | commitSnapshot snapshot =>
    have hsame : outcome = (do
        return .committed (← commitSnapshot env snapshot) :
          WorkspaceOperation WorkspaceAnswer).outcome w.nextOperation := rfl
    have hstep := @commitSnapshot_step env snapshot w.nextOperation
    rw [outcome_bind] at hsame
    rcases hrun : (commitSnapshot env snapshot).outcome w.nextOperation with ⟨error | next, w'⟩ <;>
      rw [hrun] at hstep hsame
    · rw [hsame]
      rcases hstep with ⟨hadvanced, -⟩ | ⟨hsame, -⟩
      · exact .inl ⟨snapshot, rfl, ⟨hadvanced.before, hadvanced.after, hadvanced.others⟩, by simp⟩
      · exact .inr ⟨hsame, by simp⟩
    · rw [hsame]
      rcases hstep with ⟨hadvanced, hnext⟩ | ⟨-, error, hthrown⟩
      · refine .inl ⟨snapshot, rfl,
          ⟨hadvanced.before, hadvanced.after, hadvanced.others⟩, fun workspace hresult => ?_⟩
        obtain rfl : next = workspace := WorkspaceAnswer.committed.inj (Except.ok.inj hresult)
        exact hnext next rfl
      · cases hthrown
  | discardSnapshot snapshot =>
    refine .inr ⟨revisionOf_congr ?_, fun workspace hresult => ?_⟩
    · exact ((keeps_discardSnapshot snapshot).bind fun _ => (Reads.pure _).keeps _)
        w.nextOperation rfl
    · obtain ⟨_, _, -, h⟩ := outcome_bind_eq_ok.mp (Prod.ext hresult rfl)
      obtain ⟨_, _, -, h⟩ := outcome_bind_eq_ok.mp h
      cases congrArg Prod.fst h

/-! ### Every interleaving -/

/-- A commit that returned. -/
def acceptedSnapshot :
    Completed WorkspaceCall TaskError WorkspaceWorld WorkspaceAnswer → Option WorkspaceSnapshot
  | ⟨.commitSnapshot snapshot, .ok (.committed _), _, _⟩ => some snapshot
  | _ => none

/-- The snapshots whose commit was accepted, in the order of the commits. -/
def acceptedSnapshots
    (trace : List (Completed WorkspaceCall TaskError WorkspaceWorld WorkspaceAnswer)) :
    List WorkspaceSnapshot :=
  trace.filterMap acceptedSnapshot

/-- A call that was accepted as a commit advanced its workspace. -/
def SoundCall (c : Completed WorkspaceCall TaskError WorkspaceWorld WorkspaceAnswer) : Prop :=
  ∀ snapshot workspace, c.call = .commitSnapshot snapshot → c.result = .ok (.committed workspace) →
    Advanced snapshot c.before c.after ∧ workspace.workspaceId = snapshot.workspaceId
      ∧ workspace.revision = snapshot.workspaceRevision + 1

/-- After calls made one after the other: the accepted commits advanced their
workspaces, and each built on a revision that is past. -/
structure Optimistic
    (trace : List (Completed WorkspaceCall TaskError WorkspaceWorld WorkspaceAnswer))
    (w : WorkspaceWorld) : Prop where
  sound : ∀ c ∈ trace, SoundCall c
  past : ∀ snapshot ∈ acceptedSnapshots trace, ∃ revision,
    w.revisionOf snapshot.workspaceId = some revision ∧ snapshot.workspaceRevision < revision
  once : ((acceptedSnapshots trace).map fun snapshot =>
    (snapshot.workspaceId, snapshot.workspaceRevision)).Nodup

lemma acceptedSnapshot_eq_some {c : Completed WorkspaceCall TaskError WorkspaceWorld WorkspaceAnswer}
    {snapshot : WorkspaceSnapshot} (h : acceptedSnapshot c = some snapshot) :
    c.call = .commitSnapshot snapshot ∧ ∃ workspace, c.result = .ok (.committed workspace) := by
  obtain ⟨call, result, before, after⟩ := c
  rcases call with input | committed | discarded
  · cases h
  · rcases result with error | (created | workspace | _)
    · cases h
    · cases h
    · obtain rfl : committed = snapshot := Option.some.inj h
      exact ⟨rfl, workspace, rfl⟩
    · cases h
  · cases h

/-- **One call after others**: if it is an accepted commit, it builds on the
current revision, which no commit before it built on. -/
lemma Optimistic.step
    {trace : List (Completed WorkspaceCall TaskError WorkspaceWorld WorkspaceAnswer)}
    (h : Optimistic trace w) (call : WorkspaceCall) :
    Optimistic (trace ++ [⟨call, ((performCall env call).outcome w).1, w,
      ((performCall env call).outcome w).2⟩]) ((performCall env call).outcome w).2 := by
  set c : Completed WorkspaceCall TaskError WorkspaceWorld WorkspaceAnswer :=
    ⟨call, ((performCall env call).outcome w).1, w, ((performCall env call).outcome w).2⟩ with hc
  have hlist : acceptedSnapshots (trace ++ [c])
      = acceptedSnapshots trace ++ (acceptedSnapshot c).toList := by
    rw [acceptedSnapshots, List.filterMap_append, acceptedSnapshots]
    cases hlast : acceptedSnapshot c <;> simp [hlast]
  have hstep := @performCall_step env call w
  have hpast : ∀ snapshot ∈ acceptedSnapshots trace, ∃ revision,
      c.after.revisionOf snapshot.workspaceId = some revision
        ∧ snapshot.workspaceRevision < revision := by
    intro snapshot hmem
    obtain ⟨revision, hrevision, hlt⟩ := h.past snapshot hmem
    rcases hstep with ⟨advanced, -, hadvanced, -⟩ | ⟨hsame, -⟩
    · by_cases hid : snapshot.workspaceId = advanced.workspaceId
      · rw [hid] at hrevision ⊢
        have hcurrent : revision = advanced.workspaceRevision :=
          Option.some.inj (hrevision.symm.trans hadvanced.before)
        exact ⟨_, hadvanced.after, by omega⟩
      · exact ⟨revision, (hadvanced.others _ hid).trans hrevision, hlt⟩
    · exact ⟨revision, (hsame _).trans hrevision, hlt⟩
  have hsound : SoundCall c := by
    intro snapshot workspace hcall hresult
    rcases hstep with ⟨advanced, hadvances, hadvanced, hnext⟩ | ⟨-, hrefused⟩
    · obtain rfl : advanced = snapshot :=
        WorkspaceCall.commitSnapshot.inj (hadvances.symm.trans hcall)
      exact ⟨hadvanced, hnext workspace hresult⟩
    · exact absurd hresult (hrefused workspace)
  have hsounds : ∀ d ∈ trace ++ [c], SoundCall d := by
    intro d hd
    rcases List.mem_append.mp hd with hd | hd
    · exact h.sound d hd
    · exact List.mem_singleton.mp hd ▸ hsound
  cases hlast : acceptedSnapshot c with
  | none =>
    rw [hlast, Option.toList_none, List.append_nil] at hlist
    exact ⟨hsounds, by rwa [hlist], by rw [hlist]; exact h.once⟩
  | some snapshot =>
    rw [hlast, Option.toList_some] at hlist
    obtain ⟨hcall, workspace, hresult⟩ := acceptedSnapshot_eq_some hlast
    obtain ⟨hadvanced, -⟩ := hsound snapshot workspace hcall hresult
    refine ⟨hsounds, ?_, ?_⟩
    · rw [hlist]
      intro other hmem
      rcases List.mem_append.mp hmem with hmem | hmem
      · exact hpast other hmem
      · rw [List.mem_singleton.mp hmem]
        exact ⟨_, hadvanced.after, Nat.lt_succ_self _⟩
    · rw [hlist, List.map_append, List.map_singleton]
      refine h.once.append (List.nodup_singleton _) (List.disjoint_singleton.mpr fun hmem => ?_)
      -- a commit before this one that built on the same revision is past
      obtain ⟨other, hother, hsame⟩ := List.mem_map.mp hmem
      obtain ⟨hid, hbase⟩ := Prod.mk.inj hsame
      obtain ⟨revision, hrevision, hlt⟩ := h.past other hother
      rw [hid] at hrevision
      have hcurrent : revision = snapshot.workspaceRevision :=
        Option.some.inj (hrevision.symm.trans hadvanced.before)
      omega

lemma optimistic_of_sequential {start : WorkspaceWorld}
    {trace : List (Completed WorkspaceCall TaskError WorkspaceWorld WorkspaceAnswer)}
    (h : Sequential (performCall env) start trace w) : Optimistic trace w := by
  induction h with
  | nil => exact ⟨by simp, by simp [acceptedSnapshots], by simp [acceptedSnapshots]⟩
  | call _ call ih => exact ih.step call

/-- **Optimistic concurrency**: however the calls of several executions interleave,
those that have returned ran one after the other; each commit that was accepted
found the revision its snapshot was made of and raised it by exactly one, no two
of them built on the same revision of a workspace, and none committed the
snapshot of another. -/
theorem optimistic_concurrency {start : WorkspaceWorld}
    {s : Exclusive WorkspaceCall TaskError WorkspaceWorld WorkspaceAnswer}
    (hrun : Reached (Exclusive.Step (performCall env)) (Exclusive.idle start) s) :
    ∃ trace w, Sequential (performCall env) start trace w
      ∧ s.settled = trace.map (fun c => (c.call, c.result))
      ∧ (s.queue = [] → s.world = w)
      ∧ (∀ c ∈ trace, SoundCall c)
      ∧ ((acceptedSnapshots trace).map fun snapshot =>
          (snapshot.workspaceId, snapshot.workspaceRevision)).Nodup
      ∧ (acceptedSnapshots trace).Nodup := by
  obtain ⟨trace, w, hsequential, hsettled, hqueue⟩ := Exclusive.serializable hrun
  have hoptimistic : Optimistic trace w := optimistic_of_sequential hsequential
  refine ⟨trace, w, hsequential, hsettled, fun hempty => ?_, hoptimistic.sound,
    hoptimistic.once, hoptimistic.once.of_map⟩
  rw [hempty] at hqueue
  exact hqueue

/-- Two executions commit snapshots of the same revision, the second while the
first is running. -/
def rivalCommits : Exclusive WorkspaceCall TaskError WorkspaceWorld WorkspaceAnswer :=
  let perform := performCall steadyWorkspaceEnvironment
  let rival : WorkspaceSnapshot := { sharedSnapshot with snapshotId := "snapshot:b" }
  let start := sharedWorld.activate ⟨rival⟩
  let running := ((Exclusive.idle start).arrive perform (.commitSnapshot sharedSnapshot)).turns 5
  (running.arrive perform (.commitSnapshot rival)).turns 60

/-- Of the two commits the first is accepted, and the second finds the revision
changed. -/
theorem optimistic_concurrency_rivals :
    rivalCommits.settled.map Prod.snd = [.ok (.committed
        (sharedWorkspace.advance emptyWorkspaceManifest 0)), .error revisionConflict]
      ∧ ∃ trace w, Sequential (performCall steadyWorkspaceEnvironment)
          (sharedWorld.activate ⟨{ sharedSnapshot with snapshotId := "snapshot:b" }⟩) trace w
        ∧ rivalCommits.settled = trace.map (fun c => (c.call, c.result))
        ∧ (rivalCommits.queue = [] → rivalCommits.world = w)
        ∧ (∀ c ∈ trace, SoundCall c)
        ∧ ((acceptedSnapshots trace).map fun snapshot =>
            (snapshot.workspaceId, snapshot.workspaceRevision)).Nodup
        ∧ (acceptedSnapshots trace).Nodup :=
  ⟨by decide +kernel, optimistic_concurrency (Exclusive.reached_turns (.step
    (Exclusive.reached_turns (.step .refl (.arrive _)) 5) (.arrive _)) 60)⟩

end TetiBot
