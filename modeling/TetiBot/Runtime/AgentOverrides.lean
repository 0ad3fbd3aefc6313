import TetiBot.Runtime.Agents

/-
Path overrides take effect (`setAgentPathOverride` in `runtime/service.ts`).

* `OneAtATime`: a call waits until the calls before it have settled.
* `Kept`: the file gives the path of the last call for each agent.
* `Fresh`: a call waits for a scan that covers its override, or its snapshot comes from one.
* `agent_override_takes_effect`: a call resolves with a snapshot whose catalog was loaded
  after its override was written, and the file keeps the overrides of all agents.
-/

namespace TetiBot

open Library

namespace AgentManagement

variable {s t : AgentManagement} {calls : List OverrideCall} {c : OverrideCall} {n : Nat}

/-! ### One call at a time -/

/-- The calls before a call have settled. -/
def earlierSettled (calls : List OverrideCall) (n : Nat) : Prop :=
  ∀ (i : Nat) a, i < n → calls[i]? = some a → a.stage.isSettled = true

/-- A call that waits for the one before it, or for none. -/
def WaitsFor (calls : List OverrideCall) (j : Nat) (c : OverrideCall) : Prop :=
  match c.previous with
  | some previous => previous + 1 = j
  | none => earlierSettled calls j

structure OneAtATime (calls : List OverrideCall) (agentMutation : Option Nat) : Prop where
  mutation : ∀ i, agentMutation = some i → i + 1 = calls.length
  idle : agentMutation = none → earlierSettled calls calls.length
  alone : ∀ (i j : Nat) a b, i < j → calls[i]? = some a → calls[j]? = some b →
    a.stage.isSettled = false → b.stage = .waiting
  chained : ∀ (j : Nat) c, calls[j]? = some c → c.stage = .waiting → WaitsFor calls j c

lemma isSettled_of_waiting {stage : OverrideStage} (h : stage = .waiting) : stage.isSettled = false := by
  subst h
  rfl

lemma OneAtATime.append {agentMutation : Option Nat} (h : OneAtATime calls agentMutation)
    (agentId : JsString) (path : Option JsString) :
    OneAtATime (calls ++ [⟨agentId, path, agentMutation, .waiting, none⟩]) (some calls.length) where
  mutation i hi := by
    obtain rfl := Option.some.inj hi
    simp
  idle hnone := by cases hnone
  alone i j a b hlt ha hb hbusy := by
    rcases getElem?_concat hb with hb | ⟨rfl, rfl⟩
    · rcases getElem?_concat ha with ha | ⟨rfl, -⟩
      · exact h.alone i j a b hlt ha hb hbusy
      · have := (List.getElem?_eq_some_iff.mp hb).1
        omega
    · rfl
  chained j c hc hwaiting := by
    have hold : ∀ (i : Nat) a, i < calls.length →
        (calls ++ [(⟨agentId, path, agentMutation, .waiting, none⟩ : OverrideCall)])[i]? = some a →
        calls[i]? = some a := fun i a hi ha => by
      rwa [List.getElem?_append_left hi] at ha
    rcases getElem?_concat hc with hc | ⟨rfl, rfl⟩
    · have hj := (List.getElem?_eq_some_iff.mp hc).1
      have hbefore := h.chained j c hc hwaiting
      rw [WaitsFor] at hbefore ⊢
      cases hprevious : c.previous with
      | some p => rwa [hprevious] at hbefore
      | none =>
        rw [hprevious] at hbefore
        exact fun i a hi ha => hbefore i a hi (hold i a (by omega) ha)
    · rw [WaitsFor]
      cases agentMutation with
      | some i => exact h.mutation i rfl
      | none => exact fun i a hi ha => h.idle rfl i a hi (hold i a hi ha)

/-- The call that a waiting one waits for has settled, and so have all before it. -/
lemma OneAtATime.settled {agentMutation : Option Nat} (h : OneAtATime s.calls agentMutation)
    (hc : s.calls[n]? = some c) (hwaiting : c.stage = .waiting) (hsettled : s.previousSettled c = true) :
    earlierSettled s.calls n := by
  have hchained := h.chained n c hc hwaiting
  rw [WaitsFor] at hchained
  rw [previousSettled] at hsettled
  cases hprevious : c.previous with
  | none => rwa [hprevious] at hchained
  | some p =>
    rw [hprevious] at hchained hsettled
    obtain ⟨b, hb, hdone⟩ := (Option.any_eq_true _ _).mp hsettled
    intro i a hi ha
    rcases Nat.lt_or_ge i p with hlt | hge
    · by_contra hbusy
      have := isSettled_of_waiting (h.alone i p a b hlt ha hb (by simpa using hbusy))
      rw [hdone] at this
      cases this
    · obtain rfl : i = p := by
        have : p + 1 = n := hchained
        omega
      obtain rfl := Option.some.inj (hb.symm.trans ha)
      exact hdone

/-- A call goes on: it is the first that has not settled. -/
lemma OneAtATime.modify {agentMutation : Option Nat} (h : OneAtATime calls agentMutation)
    (hc : calls[n]? = some c) (hbusy : c.stage.isSettled = false)
    (hfirst : c.stage = .waiting → earlierSettled calls n) {f : OverrideCall → OverrideCall}
    (hf : (f c).stage ≠ .waiting) : OneAtATime (calls.modify n f) agentMutation where
  mutation i hi := by
    rw [List.length_modify]
    exact h.mutation i hi
  idle hnone := by
    have := h.idle hnone n c (List.getElem?_eq_some_iff.mp hc).1 hc
    rw [hbusy] at this
    cases this
  alone i j a b hlt ha hb hunsettled := by
    rcases getElem?_modify_cases hc hb with ⟨rfl, rfl⟩ | ⟨hj, holdb⟩
    · rcases getElem?_modify_cases hc ha with ⟨rfl, -⟩ | ⟨-, holda⟩
      · exact absurd hlt (lt_irrefl _)
      · -- the calls before it have settled
        by_cases hwaiting : c.stage = .waiting
        · rw [hfirst hwaiting i a hlt holda] at hunsettled
          cases hunsettled
        · exact absurd (h.alone i j a c hlt holda hc hunsettled) hwaiting
    · rcases getElem?_modify_cases hc ha with ⟨rfl, rfl⟩ | ⟨-, holda⟩
      · exact h.alone i j c b hlt hc holdb hbusy
      · exact h.alone i j a b hlt holda holdb hunsettled
  chained j b hb hwaiting := by
    rcases getElem?_modify_cases hc hb with ⟨rfl, rfl⟩ | ⟨-, holdb⟩
    · exact absurd hwaiting hf
    · have hbefore := h.chained j b holdb hwaiting
      rw [WaitsFor] at hbefore ⊢
      cases hprevious : b.previous with
      | some p => rwa [hprevious] at hbefore
      | none =>
        rw [hprevious] at hbefore
        intro i a hi ha
        rcases getElem?_modify_cases hc ha with ⟨rfl, -⟩ | ⟨-, holda⟩
        · have := hbefore i c hi hc
          rw [hbusy] at this
          cases this
        · exact hbefore i a hi holda

/-- The service forgets a call that has settled. -/
lemma OneAtATime.cleared {agentMutation : Option Nat} (h : OneAtATime calls agentMutation)
    (hc : calls[n]? = some c) (hsettled : c.stage.isSettled = true) :
    OneAtATime calls (if agentMutation = some n then none else agentMutation) := by
  split_ifs with hmutation
  · have hlast := h.mutation n hmutation
    refine { h with mutation := fun i hi => (by cases hi), idle := fun _ i a hi ha => ?_ }
    rcases Nat.lt_or_ge i n with hlt | hge
    · by_contra hbusy
      have := isSettled_of_waiting (h.alone i n a c hlt ha hc (by simpa using hbusy))
      rw [hsettled] at this
      cases this
    · obtain rfl : i = n := by omega
      obtain rfl := Option.some.inj (hc.symm.trans ha)
      exact hsettled
  · exact h

/-! ### The paths of the file -/

/-- The call has replaced the file, and has not failed since. -/
def hasReplaced : OverrideStage → Bool
  | .replaced | .awaiting _ _ | .reporting _ | .resolved _ => true
  | .waiting | .reading | .writing _ | .rejected => false

/-- The file that a call writes gives its path for its agent, and what the file gave before for
the others. -/
lemma overrideOf_nextConfig {file next : AgentConfigFile} (h : nextConfig file c = .ok next) (id : JsString) :
    overrideOf next id = if id = c.agentId then c.path else overrideOf file id := by
  rw [nextConfig] at h
  cases hread : readConfigRootForMutation file with
  | error e =>
    rw [hread] at h
    cases h
  | ok root =>
    rw [hread] at h
    exact overrideOf_setPathOverride hread h id

/-- For each agent the file gives the path of the last call that has replaced it, and else the one
that it gave at first. -/
structure Kept (first : AgentConfigFile) (file : AgentConfigFile) (calls : List OverrideCall)
    (replacedBy : List Nat) : Prop where
  known : ∀ i ∈ replacedBy, ∃ c, calls[i]? = some c ∧ (hasReplaced c.stage = true ∨ c.stage = .rejected)
  replaced : ∀ (i : Nat) c, calls[i]? = some c → hasReplaced c.stage = true → i ∈ replacedBy
  next : ∀ (i : Nat) c next, calls[i]? = some c → c.stage = .writing next → nextConfig file c = .ok next
  kept : ∀ i ∈ replacedBy, ∀ c, calls[i]? = some c →
    (∀ j ∈ replacedBy, ∀ d, calls[j]? = some d → i < j → d.agentId ≠ c.agentId) →
    overrideOf file c.agentId = c.path
  others : ∀ id, (∀ i ∈ replacedBy, ∀ c, calls[i]? = some c → c.agentId ≠ id) →
    overrideOf file id = overrideOf first id

section Kept

variable {first file : AgentConfigFile} {replacedBy : List Nat} {agentMutation : Option Nat}
  {f : OverrideCall → OverrideCall}

lemma Kept.append (h : Kept first file calls replacedBy) (d : OverrideCall) (hd : d.stage = .waiting) :
    Kept first file (calls ++ [d]) replacedBy where
  known i hi := by
    obtain ⟨c, hc, hstage⟩ := h.known i hi
    exact ⟨c, getElem?_concat_old hc, hstage⟩
  replaced i c hc hstage := by
    rcases getElem?_concat hc with hold | ⟨-, rfl⟩
    · exact h.replaced i c hold hstage
    · rw [hd] at hstage
      cases hstage
  next i c next hc hstage := by
    rcases getElem?_concat hc with hold | ⟨-, rfl⟩
    · exact h.next i c next hold hstage
    · cases hd.symm.trans hstage
  kept i hi c hc hlast := by
    obtain ⟨b, hb, -⟩ := h.known i hi
    obtain rfl := Option.some.inj ((getElem?_concat_old hb).symm.trans hc)
    exact h.kept i hi b hb fun j hj d hd => hlast j hj d (getElem?_concat_old hd)
  others id hid := h.others id fun i hi c hc => hid i hi c (getElem?_concat_old hc)

/-- The call of a new list has the agent and the path that it had. -/
lemma getElem?_modify_of_some (hc : calls[n]? = some c) (hf : (f c).agentId = c.agentId ∧ (f c).path = c.path)
    {k : Nat} {a : OverrideCall} (ha : calls[k]? = some a) :
    ∃ b, (calls.modify n f)[k]? = some b ∧ b.agentId = a.agentId ∧ b.path = a.path
      ∧ b = if n = k then f a else a := by
  refine ⟨_, getElem?_modify_some ha, ?_⟩
  by_cases hk : n = k
  · subst hk
    obtain rfl := Option.some.inj (hc.symm.trans ha)
    simpa using hf
  · simp [hk]

section

variable (h : Kept first file calls replacedBy)
include h

lemma Kept.modify (hc : calls[n]? = some c) (hf : (f c).agentId = c.agentId ∧ (f c).path = c.path)
    (hreplaced : hasReplaced (f c).stage = true → hasReplaced c.stage = true)
    (hknown : hasReplaced c.stage = true → hasReplaced (f c).stage = true ∨ (f c).stage = .rejected)
    (hrejected : c.stage ≠ .rejected)
    (hnext : ∀ next, (f c).stage = .writing next → nextConfig file c = .ok next) :
    Kept first file (calls.modify n f) replacedBy where
  known i hi := by
    obtain ⟨a, ha, hstage⟩ := h.known i hi
    obtain ⟨b, hb, -, -, rfl⟩ := getElem?_modify_of_some hc hf ha
    refine ⟨_, hb, ?_⟩
    split_ifs with hk
    · subst hk
      obtain rfl := Option.some.inj (hc.symm.trans ha)
      exact hknown (hstage.resolve_right hrejected)
    · exact hstage
  replaced i b hb hstage := by
    rcases getElem?_modify_cases hc hb with ⟨rfl, rfl⟩ | ⟨-, hold⟩
    · exact h.replaced i c hc (hreplaced hstage)
    · exact h.replaced i b hold hstage
  next i b next hb hstage := by
    rcases getElem?_modify_cases hc hb with ⟨rfl, rfl⟩ | ⟨-, hold⟩
    · rw [nextConfig, hf.1, hf.2]
      exact hnext next hstage
    · exact h.next i b next hold hstage
  kept i hi b hb hlast := by
    obtain ⟨a, ha, -⟩ := h.known i hi
    obtain ⟨b', hb', hagent, hpath, -⟩ := getElem?_modify_of_some hc hf ha
    obtain rfl := Option.some.inj (hb'.symm.trans hb)
    rw [hagent, hpath]
    refine h.kept i hi a ha fun j hj d hd hlt => ?_
    obtain ⟨e, he, hsame, -, -⟩ := getElem?_modify_of_some hc hf hd
    rw [← hsame, ← hagent]
    exact hlast j hj e he hlt
  others id hid := h.others id fun i hi a ha => by
    obtain ⟨b, hb, hagent, -, -⟩ := getElem?_modify_of_some hc hf ha
    rw [← hagent]
    exact hid i hi b hb

section

variable (hone : OneAtATime calls agentMutation)
include hone

/-- The calls that have replaced the file came before one that has not settled. -/
lemma Kept.lt_of_busy
    (hc : calls[n]? = some c) (hbusy : c.stage.isSettled = false) {j : Nat} (hj : j ∈ replacedBy) : j ≤ n := by
  obtain ⟨d, hd, hstage⟩ := h.known j hj
  by_contra hlt
  have hwaiting := hone.alone n j c d (by omega) hc hd hbusy
  rw [hwaiting] at hstage
  simp [hasReplaced] at hstage

/-- **A call that has replaced the file, and has not settled**, finds its path there. -/
lemma Kept.path_of_busy
    (hc : calls[n]? = some c) (hbusy : c.stage.isSettled = false) (hstage : hasReplaced c.stage = true) :
    overrideOf file c.agentId = c.path := by
  refine h.kept n (h.replaced n c hc hstage) c hc fun j hj _ _ hlt => ?_
  have := h.lt_of_busy hone hc hbusy hj
  omega

/-- **A call replaces the file.** -/
lemma Kept.replace
    {next : AgentConfigFile} (hc : calls[n]? = some c) (hstage : c.stage = .writing next) :
    Kept first next (calls.modify n fun c => { c with stage := .replaced }) (replacedBy ++ [n]) := by
  have hbusy : c.stage.isSettled = false := by
    rw [hstage]
    rfl
  have hpaths := overrideOf_nextConfig (h.next n c next hc hstage)
  have hnew : n ∉ replacedBy := fun hmem => by
    obtain ⟨d, hd, hreplaced⟩ := h.known n hmem
    obtain rfl := Option.some.inj (hc.symm.trans hd)
    rw [hstage] at hreplaced
    simp [hasReplaced] at hreplaced
  have hself : (calls.modify n fun c => { c with stage := .replaced })[n]? = some { c with stage := .replaced } :=
    getElem?_modify_self hc
  have hold : ∀ {k : Nat} {a : OverrideCall}, calls[k]? = some a →
      ∃ b, (calls.modify n fun c => { c with stage := .replaced })[k]? = some b ∧ b.agentId = a.agentId
        ∧ b.path = a.path ∧ b = if n = k then { a with stage := .replaced } else a :=
    fun ha => getElem?_modify_of_some hc (f := fun c => { c with stage := .replaced }) ⟨rfl, rfl⟩ ha
  exact {
    known := fun i hi => by
      rcases List.mem_append.mp hi with hi | hi
      · obtain ⟨a, ha, hreplaced⟩ := h.known i hi
        obtain ⟨b, hb, -, -, rfl⟩ := hold ha
        have hother : n ≠ i := fun heq => hnew (heq ▸ hi)
        refine ⟨_, hb, ?_⟩
        rw [if_neg hother]
        exact hreplaced
      · obtain rfl := List.mem_singleton.mp hi
        exact ⟨_, hself, .inl rfl⟩
    replaced := fun i b hb hreplaced => by
      rcases getElem?_modify_cases hc hb with ⟨rfl, -⟩ | ⟨-, hb⟩
      · exact List.mem_append_right _ (List.mem_singleton_self i)
      · exact List.mem_append_left _ (h.replaced i b hb hreplaced)
    next := fun i b other hb hwriting => by
      rcases getElem?_modify_cases hc hb with ⟨rfl, rfl⟩ | ⟨hi, hb⟩
      · cases hwriting
      · -- one of the two would have to wait
        rcases Nat.lt_or_gt_of_ne hi with hlt | hlt
        · have := hone.alone i n b c hlt hb hc (by rw [hwriting]; rfl)
          cases hstage.symm.trans this
        · have := hone.alone n i c b hlt hc hb hbusy
          cases hwriting.symm.trans this
    kept := fun i hi b hb hlast => by
      rcases List.mem_append.mp hi with hi | hi
      · obtain ⟨a, ha, -⟩ := h.known i hi
        obtain ⟨b', hb', hagent, hpath, -⟩ := hold ha
        obtain rfl := Option.some.inj (hb'.symm.trans hb)
        have hlt : i < n := Nat.lt_of_le_of_ne (h.lt_of_busy hone hc hbusy hi) fun heq => hnew (heq ▸ hi)
        have hother := hlast n (List.mem_append_right _ (List.mem_singleton_self n)) _ hself hlt
        rw [hagent, hpath, hpaths, if_neg (by simpa [hagent] using Ne.symm hother)]
        refine h.kept i hi a ha fun j hj d hd hlt => ?_
        obtain ⟨e, he, hsame, -, -⟩ := hold hd
        rw [← hsame, ← hagent]
        exact hlast j (List.mem_append_left _ hj) e he hlt
      · obtain rfl := List.mem_singleton.mp hi
        obtain rfl := Option.some.inj (hself.symm.trans hb)
        rw [hpaths, if_pos rfl]
    others := fun id hid => by
      have hother := hid n (List.mem_append_right _ (List.mem_singleton_self n)) _ hself
      rw [hpaths, if_neg (Ne.symm hother)]
      refine h.others id fun i hi a ha => ?_
      obtain ⟨b, hb, hagent, -, -⟩ := hold ha
      rw [← hagent]
      exact hid i (List.mem_append_left _ hi) b hb }

end

end

end Kept

/-! ### Scans that cover an override -/

/-- The scan began after a write had returned, and its catalog was loaded with the path for the
agent in the file, if it could be. -/
structure Covers (agentId : JsString) (path : Option JsString) (written : Nat) (scan : AgentScan) :
    Prop where
  after : written ≤ scan.writes
  catalog : ∀ file, scan.catalog = some file → file = .unreadable ∨ overrideOf file agentId = path

/-- The agents of a snapshot come from a scan with a catalog that was loaded after a write had
returned. -/
def ComesAfter (s : AgentManagement) (agentId : JsString) (path : Option JsString) (written : Option Nat)
    (snapshot : AgentSnapshot) : Prop :=
  ∃ w, written = some w ∧ ∃ k scan, snapshot.source = some k ∧ s.scans[k]? = some scan
    ∧ scan.catalog ≠ none ∧ Covers agentId path w scan

/-- The scan that a call waits for covers its override, or, where another one is needed, those
after it do. -/
def Fresh (s : AgentManagement) (c : OverrideCall) : Prop :=
  match c.stage with
  | .awaiting k again => ∃ written, c.written = some written ∧ written ≤ s.writes ∧ k < s.scans.length
      ∧ ∀ (j : Nat) scan, s.scans[j]? = some scan → (if again then k < j else k ≤ j) →
        Covers c.agentId c.path written scan
  | .reporting snapshot | .resolved snapshot => s.ComesAfter c.agentId c.path c.written snapshot
  | _ => True

lemma Covers.continues {agentId : JsString} {path : Option JsString} {a b : AgentScan} {w : Nat}
    (h : Covers agentId path w a) {file : AgentConfigFile} (hab : Continues file a b)
    (hpath : overrideOf file agentId = path) : Covers agentId path w b where
  after := h.after.trans_eq hab.writes.symm
  catalog read hread := by
    rcases hab.catalog with hsame | ⟨-, hnew | hnew⟩
    · exact h.catalog read (hsame.symm.trans hread)
    · exact .inl (Option.some.inj (hread.symm.trans hnew))
    · obtain rfl := Option.some.inj (hread.symm.trans hnew)
      exact .inr hpath

lemma ComesAfter.later {agentId : JsString} {path : Option JsString} {written : Option Nat}
    {snapshot : AgentSnapshot} (h : s.ComesAfter agentId path written snapshot) (hlater : s.Later t) :
    t.ComesAfter agentId path written snapshot := by
  obtain ⟨w, hw, k, scan, hsource, hscan, hcatalog, hcovers⟩ := h
  obtain ⟨b, hb, hcontinues⟩ := hlater.stays k scan hscan
  have hsame : b.catalog = scan.catalog := hcontinues.catalog.resolve_right fun h => hcatalog h.1
  refine ⟨w, hw, k, b, hsource, hb, hsame ▸ hcatalog, ⟨hcovers.after.trans_eq hcontinues.writes.symm, ?_⟩⟩
  rw [hsame]
  exact hcovers.catalog

/-- **The scans go on**, while the file gives the path of a call that waits for one. -/
lemma Fresh.later (h : s.Fresh c) (hlater : s.Later t)
    (hpath : c.stage.isSettled = false → hasReplaced c.stage = true → overrideOf s.file c.agentId = c.path) :
    t.Fresh c := by
  rw [Fresh] at h ⊢
  cases hstage : c.stage with
  | awaiting k again =>
    rw [hstage] at h hpath
    obtain ⟨w, hw, hle, hk, hcovers⟩ := h
    obtain ⟨a, ha⟩ : ∃ a, s.scans[k]? = some a := ⟨_, List.getElem?_eq_getElem hk⟩
    obtain ⟨a', ha', -⟩ := hlater.stays k a ha
    refine ⟨w, hw, hle.trans hlater.writes, (List.getElem?_eq_some_iff.mp ha').1, fun j b hb hj => ?_⟩
    rcases hlater.begins j b hb with ⟨old, hold⟩ | ⟨-, hwrites, hcatalog⟩
    · obtain ⟨b', hb', hcontinues⟩ := hlater.stays j old hold
      obtain rfl := Option.some.inj (hb'.symm.trans hb)
      exact (hcovers j old hold hj).continues hcontinues (hpath rfl rfl)
    · exact ⟨hle.trans hwrites, fun file hfile => (by cases hcatalog.symm.trans hfile)⟩
  | reporting snapshot | resolved snapshot =>
    rw [hstage] at h
    exact h.later hlater
  | waiting | reading | writing | replaced | rejected => trivial

/-! ### Steps -/

structure OverridesSound (first : AgentConfigFile) (s : AgentManagement) : Prop where
  scans : s.ScansInOrder
  calls : OneAtATime s.calls s.agentMutation
  paths : Kept first s.file s.calls s.replacedBy
  fresh : ∀ (i : Nat) c, s.calls[i]? = some c → s.Fresh c

section Steps

variable {first : AgentConfigFile}

lemma overridesSound_initial (file : AgentConfigFile) : OverridesSound file (initialAgents file) where
  scans := {
    current := fun k hk => (by cases hk)
    remembered := fun k scan hscan => (by cases hscan)
    discovering := fun k scan hscan => (by cases hscan)
    loaded := fun k scan hscan => (by cases hscan)
    started := fun k scan hscan => (by cases hscan)
    ordered := fun i j a b _ ha => (by cases ha)
    completed := fun k scan hscan => (by cases hscan)
    source := fun j hj => (by cases hj) }
  calls := {
    mutation := fun i hi => (by cases hi)
    idle := fun _ i a _ ha => (by cases ha)
    alone := fun i j a b _ ha => (by cases ha)
    chained := fun j c hc => (by cases hc) }
  paths := {
    known := fun i hi => (by cases hi)
    replaced := fun i c hc => (by cases hc)
    next := fun i c next hc => (by cases hc)
    kept := fun i hi => (by cases hi)
    others := fun _ _ => rfl }
  fresh i c hc := by cases hc

section

variable (h : OverridesSound first s)
include h

lemma OverridesSound.scan (hscans : t.ScansInOrder) (hlater : s.Later t)
    (hcalls : t.calls = s.calls) (hmutation : t.agentMutation = s.agentMutation) (hfile : t.file = s.file)
    (hreplaced : t.replacedBy = s.replacedBy) : OverridesSound first t where
  scans := hscans
  calls := by
    rw [hcalls, hmutation]
    exact h.calls
  paths := by
    rw [hcalls, hfile, hreplaced]
    exact h.paths
  fresh i c hc := by
    rw [hcalls] at hc
    exact (h.fresh i c hc).later hlater fun hbusy hstage => h.paths.path_of_busy h.calls hc hbusy hstage

lemma OverridesSound.modifyCall (hc : s.calls[n]? = some c)
    (hbusy : c.stage.isSettled = false) (hfirst : c.stage = .waiting → earlierSettled s.calls n)
    {f : OverrideCall → OverrideCall} (hf : (f c).stage ≠ .waiting) {file : AgentConfigFile}
    {replacedBy : List Nat} (hpaths : Kept first file (s.calls.modify n f) replacedBy)
    (hfresh : s.Fresh (f c)) :
    OverridesSound first ({ s with file := file, replacedBy := replacedBy }.modifyCall n f) where
  scans := { h.scans with }
  calls := h.calls.modify hc hbusy hfirst hf
  paths := hpaths
  fresh i b hb := by
    rcases getElem?_modify_cases hc hb with ⟨rfl, rfl⟩ | ⟨-, hold⟩
    · exact hfresh
    · exact h.fresh i b hold

/-- A call goes on without the file, the scans stay. -/
lemma OverridesSound.enter (hc : s.calls[n]? = some c)
    (hbusy : c.stage.isSettled = false) (hfirst : c.stage = .waiting → earlierSettled s.calls n)
    {f : OverrideCall → OverrideCall} (hagent : (f c).agentId = c.agentId ∧ (f c).path = c.path)
    (hf : (f c).stage ≠ .waiting)
    (hreplaced : hasReplaced (f c).stage = true → hasReplaced c.stage = true)
    (hknown : hasReplaced c.stage = true → hasReplaced (f c).stage = true ∨ (f c).stage = .rejected)
    (hnext : ∀ next, (f c).stage = .writing next → nextConfig s.file c = .ok next)
    (hfresh : s.Fresh (f c)) : OverridesSound first (s.modifyCall n f) := by
  have hrejected : c.stage ≠ .rejected := fun hstage => by
    rw [hstage] at hbusy
    cases hbusy
  exact h.modifyCall hc hbusy hfirst hf (h.paths.modify hc hagent hreplaced hknown hrejected hnext) hfresh

lemma OverridesSound.discover : OverridesSound first s.discover.1 := by
  obtain ⟨hscans, hlater, -⟩ := h.scans.discover
  refine h.scan hscans hlater ?_ ?_ ?_ ?_ <;> (rw [AgentManagement.discover]; cases s.discovery <;> rfl)

end

lemma calls_discover (s : AgentManagement) : s.discover.1.calls = s.calls := by
  rw [AgentManagement.discover]
  cases s.discovery <;> rfl

/-- **A write returns**: where a scan is running, the call waits for the one after it. -/
lemma OverridesSound.finishWrite (h : OverridesSound first s) (hc : s.calls[n]? = some c)
    (hstage : c.stage = .replaced) (hdue : s.continuationDue = false) :
    OverridesSound first (s.finishWrite n) := by
  have hwritten : OverridesSound first { s with writes := s.writes + 1 } := by
    refine h.scan { h.scans with started := fun k scan hscan => ?_ } ?_ rfl rfl rfl rfl
    · exact (h.scans.started k scan hscan).trans (Nat.le_succ _)
    · exact { Later.refl s with writes := Nat.le_succ _ }
  obtain ⟨-, hlater, hlength, hnew, hold⟩ := hwritten.scans.discover
  have hbusy : c.stage.isSettled = false := by
    rw [hstage]
    rfl
  rw [AgentManagement.finishWrite]
  refine hwritten.discover.enter (c := c) (by rwa [calls_discover]) hbusy
    (fun hwaiting => by cases hstage.symm.trans hwaiting) ⟨rfl, rfl⟩ (by simp) (fun _ => by rw [hstage]; rfl)
    (fun _ => .inl rfl) (fun _ hnext => by cases hnext) ?_
  refine ⟨s.writes + 1, rfl, hlater.writes, by omega, fun j b hb hj => ?_⟩
  have hlt := (List.getElem?_eq_some_iff.mp hb).1
  cases hdiscovery : s.discovery with
  | some k =>
    -- the scan that is remembered has not settled
    have hk := hold k hdiscovery
    have hin : k < s.scans.length := by
      have := h.scans.current k hdiscovery
      omega
    obtain ⟨scan, hscan⟩ : ∃ scan, s.scans[k]? = some scan := ⟨_, List.getElem?_eq_getElem hin⟩
    have hrunning : scan.stage = .loading ∨ scan.stage = .observing := by
      have hremembered := (h.scans.remembered k scan hscan).mpr hdiscovery
      have hfinished := List.any_eq_false.mp hdue scan (List.mem_of_getElem? hscan)
      cases hcase : scan.stage with
      | loading => exact .inl rfl
      | observing => exact .inr rfl
      | finished completed => simp [hcase] at hfinished
      | forgotten completed => exact absurd hcase (hremembered completed)
    have hagain := h.scans.discovering k scan hscan hrunning
    rw [if_pos (by simpa using hagain)] at hj
    omega
  | none =>
    have hk : _ = s.scans.length := hnew hdiscovery
    have hle : s.scans.length ≤ j := by
      split_ifs at hj <;> omega
    rcases hlater.begins j b hb with ⟨a, ha⟩ | ⟨-, hwrites, hcatalog⟩
    · have : j < s.scans.length := (List.getElem?_eq_some_iff.mp ha).1
      omega
    · exact ⟨hwrites, fun file hfile => (by cases hcatalog.symm.trans hfile)⟩

/-- **The scan that a call waits for is over.** -/
lemma OverridesSound.resume (h : OverridesSound first s) (hc : s.calls[n]? = some c) {k : Nat} {again : Bool}
    (hstage : c.stage = .awaiting k again) {scan : AgentScan} (hscan : s.scans[k]? = some scan)
    {completed : Bool} (hforgotten : scan.stage = .forgotten completed) :
    OverridesSound first (s.resume n again completed) := by
  have hbusy : c.stage.isSettled = false := by
    rw [hstage]
    rfl
  have hfirst : c.stage = .waiting → earlierSettled s.calls n := fun hwaiting => by
    cases hstage.symm.trans hwaiting
  have hreplaced : hasReplaced c.stage = true := by
    rw [hstage]
    rfl
  rw [AgentManagement.resume]
  split_ifs with hfailed hagain
  · exact h.enter hc hbusy hfirst ⟨rfl, rfl⟩ (by simp) (fun _ => hreplaced) (fun _ => .inr rfl)
      (fun _ hnext => by cases hnext) trivial
  · -- the next scan is not the one that is over
    obtain ⟨-, hlater, hlength, hnew, hold⟩ := h.scans.discover
    have hfresh := h.discover.fresh n c (by rwa [calls_discover])
    simp only [Fresh, hstage, hagain, if_true] at hfresh
    obtain ⟨w, hw, hle, -, hcovers⟩ := hfresh
    have hlt : k < s.discover.2 := by
      have hk := (List.getElem?_eq_some_iff.mp hscan).1
      cases hdiscovery : s.discovery with
      | none => exact hk.trans_eq (hnew hdiscovery).symm
      | some m =>
        have hlast := h.scans.current m hdiscovery
        have hother : k ≠ m := fun heq => by
          subst heq
          exact (h.scans.remembered k scan hscan).mpr hdiscovery completed hforgotten
        rw [hold m hdiscovery]
        omega
    refine h.discover.enter (c := c) (by rwa [calls_discover]) hbusy (by rwa [calls_discover]) ⟨rfl, rfl⟩
      (by simp) (fun _ => hreplaced) (fun _ => .inl rfl) (fun _ hnext => by cases hnext) ?_
    refine ⟨w, hw, hle, by omega, fun j b hb hj => hcovers j b hb (hlt.trans_le ?_)⟩
    simpa using hj
  · have hfresh := h.fresh n c hc
    simp only [Fresh, hstage, hagain] at hfresh
    obtain ⟨w, hw, -, -, hcovers⟩ := hfresh
    have hdone : scan.stage = .forgotten true := by
      rw [hforgotten]
      simpa using hfailed
    obtain ⟨j, hj, hle⟩ := h.scans.completed k scan hscan (.inr hdone)
    obtain ⟨b, hb, hloaded⟩ := h.scans.source j hj
    refine h.enter hc hbusy hfirst ⟨rfl, rfl⟩ (by simp) (fun _ => hreplaced) (fun _ => .inl rfl)
      (fun _ hnext => by cases hnext) ⟨w, hw, j, b, hj, hb, ?_, hcovers j b hb (by simpa using hle)⟩
    exact fun hnone => hloaded ((h.scans.loaded j b hb).mpr hnone)

variable {isBuiltin : JsString → Bool} {isPathOf : JsString → JsString → Bool}

/-- **One event.** -/
lemma OverridesSound.step (h : OverridesSound first s) {e : AgentEvent}
    (hstep : step isBuiltin isPathOf s e = some t) : OverridesSound first t := by
  cases e with
  | setPathOverride agentId path =>
    obtain rfl := Option.some.inj hstep
    exact {
      scans := { h.scans with }
      calls := h.calls.append agentId path
      paths := h.paths.append _ rfl
      fresh := fun i c hc => by
        rcases getElem?_concat hc with hold | ⟨-, rfl⟩
        · exact h.fresh i c hold
        · trivial }
  | began call =>
    simp only [AgentManagement.step] at hstep
    split at hstep
    · rename_i agentId path previous written hc
      obtain ⟨hsettled, rfl⟩ := Option.ite_none_right_eq_some.mp hstep |>.imp_right Option.some.inj
      have hfirst := h.calls.settled hc rfl hsettled
      refine h.enter hc rfl (fun _ => hfirst) ⟨rfl, rfl⟩ ?_ ?_ (fun hcase => by cases hcase) ?_ ?_ <;>
        split_ifs
      all_goals simp [hasReplaced, Fresh]
    · cases hstep
  | configRead call fails =>
    simp only [AgentManagement.step] at hstep
    split at hstep
    · rename_i agentId path previous written hc
      obtain rfl := Option.some.inj hstep
      split
      · exact h.enter hc rfl (fun hcase => by cases hcase) ⟨rfl, rfl⟩ (by simp) (fun hcase => by cases hcase)
          (fun hcase => by cases hcase) (fun _ hnext => by cases hnext) trivial
      · rename_i next hnext
        refine h.enter hc rfl (fun hcase => by cases hcase) ⟨rfl, rfl⟩ (by simp) (fun hcase => by cases hcase)
          (fun hcase => by cases hcase) (fun other hother => ?_) trivial
        cases hother
        cases fails with
        | false => exact hnext
        | true => cases hnext
    · cases hstep
  | configReplaced call fails =>
    simp only [AgentManagement.step] at hstep
    split at hstep
    · rename_i agentId path previous next written hc
      split_ifs at hstep
      · obtain rfl := Option.some.inj hstep
        exact h.enter hc rfl (fun hcase => by cases hcase) ⟨rfl, rfl⟩ (by simp) (fun hcase => by cases hcase)
          (fun hcase => by cases hcase) (fun _ hnext => by cases hnext) trivial
      · obtain rfl := Option.some.inj hstep
        exact h.modifyCall hc rfl (fun hcase => by cases hcase) (by simp) (h.paths.replace h.calls hc rfl) trivial
    · cases hstep
  | configWritten call fails =>
    simp only [AgentManagement.step] at hstep
    split at hstep
    · rename_i agentId path previous written hc
      split_ifs at hstep with hdue
      · obtain rfl := Option.some.inj hstep
        exact h.enter hc rfl (fun hcase => by cases hcase) ⟨rfl, rfl⟩ (by simp) (fun hcase => by cases hcase)
          (fun _ => .inr rfl) (fun _ hnext => by cases hnext) trivial
      · obtain rfl := Option.some.inj hstep
        exact h.finishWrite hc rfl (by simpa using hdue)
    · cases hstep
  | discover =>
    obtain rfl := Option.some.inj hstep
    exact h.discover
  | catalogRead scan fails =>
    simp only [AgentManagement.step] at hstep
    split at hstep
    · rename_i writes catalog hscan
      obtain rfl := Option.some.inj hstep
      have hnone : catalog = none := (h.scans.loaded scan _ hscan).mp rfl
      have hcontinues : Continues s.file ⟨writes, catalog, .loading⟩
          ⟨writes, some (if fails then .unreadable else s.file), .observing⟩ := by
        refine ⟨rfl, .inr ⟨hnone, ?_⟩⟩
        cases fails <;> simp
      have hdiscovery := (h.scans.remembered scan _ hscan).mp (by simp)
      have hstate := h.scans.discovering scan _ hscan (.inl rfl)
      exact h.scan (h.scans.modifyScan hscan (by simp) hcontinues (by simp) (by simp) (.inl ⟨by simp, hdiscovery⟩)
        (fun _ => hstate) (by simp) (.inl rfl)) (later_modifyScan hscan hcontinues) rfl rfl rfl rfl
    · cases hstep
  | observed scan state =>
    simp only [AgentManagement.step] at hstep
    split at hstep
    · rename_i writes catalog hscan
      obtain rfl := Option.some.inj hstep
      have hsome : catalog ≠ none := fun hnone => by
        have := (h.scans.loaded scan _ hscan).mpr hnone
        cases this
      have hdiscovery := (h.scans.remembered scan _ hscan).mp (by simp)
      have hcontinues : ∀ completed, Continues s.file ⟨writes, catalog, .observing⟩
          ⟨writes, catalog, .finished completed⟩ := fun _ => ⟨rfl, .inl rfl⟩
      cases state with
      | none =>
        exact h.scan (h.scans.modifyScan hscan (by simp) (hcontinues false) (by simpa using hsome) (by simp)
          (.inl ⟨by simp, hdiscovery⟩) (by simp) (by simp) (.inl rfl))
          (later_modifyScan hscan (hcontinues false)) rfl rfl rfl rfl
      | some state =>
        have hlater := later_modifyScan (f := fun k => { k with stage := .finished true }) hscan
          (hcontinues true)
        exact h.scan (h.scans.modifyScan hscan (by simp) (hcontinues true) (by simpa using hsome) (by simp)
          (.inl ⟨by simp, hdiscovery⟩) (by simp) (fun _ => ⟨scan, rfl, le_rfl⟩) (.inr ⟨rfl, by simp⟩))
          { hlater with } rfl rfl rfl rfl
    · cases hstep
  | forgotten scan =>
    simp only [AgentManagement.step] at hstep
    split at hstep
    · rename_i writes catalog completed hscan
      obtain rfl := Option.some.inj hstep
      have hsome : catalog ≠ none := fun hnone => by
        have := (h.scans.loaded scan _ hscan).mpr hnone
        cases this
      have hdiscovery := (h.scans.remembered scan _ hscan).mp (by simp)
      have hcontinues : Continues s.file ⟨writes, catalog, .finished completed⟩
          ⟨writes, catalog, .forgotten completed⟩ := ⟨rfl, .inl rfl⟩
      have hlater := later_modifyScan (f := fun k => { k with stage := .forgotten completed }) hscan
        hcontinues
      rw [AgentManagement.forget, if_pos hdiscovery]
      refine h.scan (h.scans.modifyScan hscan (by simp) hcontinues (by simpa using hsome) (by simp)
        (.inr ⟨⟨completed, rfl⟩, rfl⟩) (by simp) (fun hdone => ?_) (.inl rfl)) { hlater with } rfl rfl rfl rfl
      exact h.scans.completed scan _ hscan (by simpa using hdone)
    · cases hstep
  | resumed call =>
    simp only [AgentManagement.step] at hstep
    split at hstep
    · rename_i agentId path previous scan again written hc
      split at hstep
      · rename_i writes catalog completed hscan
        obtain rfl := Option.some.inj hstep
        exact h.resume hc rfl hscan rfl
      · cases hstep
    · cases hstep
  | reported call =>
    simp only [AgentManagement.step] at hstep
    split at hstep
    · rename_i agentId path previous snapshot written hc
      obtain rfl := Option.some.inj hstep
      have hfresh : s.ComesAfter agentId path written snapshot := h.fresh call _ hc
      exact h.enter hc rfl (fun hcase => by cases hcase) ⟨rfl, rfl⟩ (by simp) (fun _ => rfl)
        (fun _ => .inl rfl) (fun _ hnext => by cases hnext) hfresh
    · cases hstep
  | mutationCleared call =>
    obtain ⟨hsettled, hcleared⟩ := Option.ite_none_right_eq_some.mp hstep
    obtain rfl := Option.some.inj hcleared
    obtain ⟨c, hc, hdone⟩ := (Option.any_eq_true _ _).mp hsettled
    exact { h with
      scans := { h.scans with }
      calls := h.calls.cleared hc hdone }

end Steps

end AgentManagement

open AgentManagement in
/-- **A path override takes effect**: in every order of the calls, the scans, the accesses to the
file and their answers, a call that resolves has replaced the file, and the agents of its snapshot
come from a scan that began when its write had returned, whose catalog was loaded with its path in
the file.  For each agent the file gives the path of the last call that has replaced it, and for the
agents without a call the path that it gave at first. -/
theorem agent_override_takes_effect (isBuiltin : JsString → Bool) (isPathOf : JsString → JsString → Bool)
    (file : AgentConfigFile) (events : List AgentEvent) (s : AgentManagement)
    (hrun : Runs (step isBuiltin isPathOf) (initialAgents file) events s) :
    (∀ (i : Nat) c snapshot, s.calls[i]? = some c → c.stage = .resolved snapshot →
      i ∈ s.replacedBy ∧ ∃ written k scan catalog, c.written = some written ∧ snapshot.source = some k
        ∧ s.scans[k]? = some scan ∧ written ≤ scan.writes ∧ scan.catalog = some catalog
        ∧ (catalog = .unreadable ∨ overrideOf catalog c.agentId = c.path))
    ∧ (∀ i ∈ s.replacedBy, ∀ c, s.calls[i]? = some c →
      (∀ j ∈ s.replacedBy, ∀ d, s.calls[j]? = some d → i < j → d.agentId ≠ c.agentId) →
      overrideOf s.file c.agentId = c.path)
    ∧ ∀ id, (∀ i ∈ s.replacedBy, ∀ c, s.calls[i]? = some c → c.agentId ≠ id) →
      overrideOf s.file id = overrideOf file id := by
  have hsound : OverridesSound file s :=
    hrun.invariant (overridesSound_initial file) fun _ _ _ hbefore hstep => hbefore.step hstep
  refine ⟨fun i c snapshot hc hstage => ⟨?_, ?_⟩, hsound.paths.kept, hsound.paths.others⟩
  · refine hsound.paths.replaced i c hc ?_
    rw [hstage]
    rfl
  · have hfresh := hsound.fresh i c hc
    simp only [Fresh, hstage] at hfresh
    obtain ⟨w, hw, k, scan, hsource, hscan, hcatalog, hcovers⟩ := hfresh
    obtain ⟨catalog, hloaded⟩ := Option.ne_none_iff_exists'.mp hcatalog
    exact ⟨w, k, scan, catalog, hw, hsource, hscan, hcovers.after, hloaded, hcovers.catalog catalog hloaded⟩

/-- Two calls for different agents, the first of which meets a scan that has loaded its catalog. -/
def overriddenWhileScanning : List AgentEvent :=
  [.discover, .catalogRead 0 false, .setPathOverride (.ofString "codex") (some (.ofString "/opt/codex")),
    .setPathOverride (.ofString "cursor") (some (.ofString "/opt/cursor")), .began 0, .configRead 0 false,
    .configReplaced 0 false, .configWritten 0 false, .observed 0 (some .ready), .forgotten 0, .resumed 0,
    .catalogRead 1 false, .observed 1 (some .ready), .forgotten 1, .resumed 0, .reported 0,
    .mutationCleared 0, .began 1, .configRead 1 false, .configReplaced 1 false, .configWritten 1 false,
    .catalogRead 2 false, .observed 2 (some .ready), .forgotten 2, .resumed 1, .reported 1]

open AgentManagement in
theorem agent_override_while_scanning :
    ∃ s, Runs (step (fun _ => true) fun _ _ => true) (initialAgents .absent) overriddenWhileScanning s
      ∧ ∃ c snapshot, s.calls[0]? = some c ∧ c.stage = .resolved snapshot ∧ c.written = some 1
      ∧ 0 ∈ s.replacedBy ∧ ∃ written k scan catalog, c.written = some written ∧ snapshot.source = some k
        ∧ s.scans[k]? = some scan ∧ written ≤ scan.writes ∧ scan.catalog = some catalog
        ∧ (catalog = .unreadable ∨ overrideOf catalog c.agentId = c.path) :=
  ⟨_, rfl, _, _, rfl, rfl, rfl,
    (agent_override_takes_effect (fun _ => true) (fun _ _ => true) .absent overriddenWhileScanning _ rfl).1
      0 _ _ rfl rfl⟩

end TetiBot
