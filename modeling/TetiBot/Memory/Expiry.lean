import TetiBot.Core.Calendar
import TetiBot.Memory.Deletion

/-
The expiry of memory items (`runtime/memory/structured-context-sqlite.ts`), which the queries
compare as a text and the code as an instant.

* `expiredInCleanup`, `expiredInPreview`, `expiredInExecution`: an item counts as expired for the
  cleanup, for the candidates of a preview, and where an approved preview is used;
  `cleanup_items`, `mem_eligibleItems`, `candidateCurrent_expiry` say so of the operations;
* `expired_memory_erased`: what the cleanup takes for expired is gone for good.
* `expiry_one_instant`: the expiries that mean their instant on all three paths.
-/

namespace TetiBot.Memory

open Library Library.JsString

/-! ### The three paths -/

section

variable (parse : TimeText → Option Timestamp)

/-- `Date.parse` reads the date time string format; of other texts the engine decides. -/
def ReadsIso : Prop := ∀ text instant, dateParse text = some instant → parse text = some instant

/-- `validateExpiry` accepts an expiry at a time. -/
def acceptsExpiry (expiresAt changedAt : TimeText) : Bool :=
  match parse expiresAt, parse changedAt with
  | some instant, some changed => changed < instant
  | _, _ => false

/-- `expires_at <= ?` -/
def expiredInCleanup (expiresAt executedAt : TimeText) : Bool := !textBefore executedAt expiresAt

/-- Not `item.expires_at > ?` -/
def expiredInPreview (expiresAt generatedAt : TimeText) : Bool := !textBefore generatedAt expiresAt

/-- `Date.parse(item.expires_at) <= Date.parse(at)`. -/
def expiredInExecution (expiresAt at_ : TimeText) : Bool :=
  match parse expiresAt, parse at_ with
  | some instant, some now => instant ≤ now
  | _, _ => false

end

/-! ### What the operations do with an expired item -/

variable {env : MemoryEnv} {db left : Database}

lemma validateExpiry_eq_ok {expiresAt changedAt : TimeText} {u : Unit} :
    validateExpiry env.parseDate (some expiresAt) changedAt = .ok u
      ↔ acceptsExpiry env.parseDate expiresAt changedAt = true := by
  rw [validateExpiry, failIf_eq_ok, acceptsExpiry, Option.any_some, isTimestamp, parsesBefore]
  cases env.parseDate expiresAt with
  | none => simp
  | some instant => cases env.parseDate changedAt <;> simp

/-- One deletion removes the item with an id. -/
lemma delete_items {memoryId : String} {deletedAt : TimeText} {reasonCode : DeletionReason}
    {deleted : Bool} (h : (deleteStructuredMemoryItemWithReason env memoryId deletedAt
      reasonCode).exec db = (.ok deleted, left)) :
    left.items = db.items.filter fun item => item.memoryId != memoryId := by
  rcases (deleteStructuredMemoryItemWithReason_yields env memoryId deletedAt reasonCode db).ok
    rfl h with ⟨-, hnone, rfl⟩ | ⟨-, item, hitem, rfl⟩
  · refine (List.filter_eq_self.mpr fun item hitem => ?_).symm
    simpa using List.find?_eq_none.mp hnone item hitem
  · obtain ⟨-, rfl⟩ := item?_eq_some hitem
    rfl

lemma deleteAll_items {executedAt : TimeText} {ids : List String} {n m : Nat}
    (h : (Program.foldM (fun count memoryId => do
        let deleted ← deleteStructuredMemoryItemWithReason env memoryId executedAt .expired
        return if deleted then count + 1 else count) n ids).exec db = (.ok m, left)) :
    left.items = db.items.filter fun item => item.memoryId ∉ ids := by
  induction ids generalizing n db with
  | nil =>
    obtain ⟨-, rfl⟩ := Prod.mk.inj h
    simp
  | cons memoryId ids ih =>
    obtain ⟨count, rest, hfirst, hrest⟩ := Program.exec_bind_eq_ok.mp h
    obtain ⟨deleted, kept, hdelete, hcount⟩ := Program.exec_bind_eq_ok.mp hfirst
    obtain ⟨-, rfl⟩ := Prod.mk.inj hcount
    rw [ih hrest, delete_items hdelete, List.filter_filter]
    refine List.filter_congr fun item _ => ?_
    by_cases hid : item.memoryId = memoryId <;> simp [hid]

/-- **The cleanup keeps the items that are not expired for it**, and no others. -/
lemma cleanup_items (hids : (db.items.map ItemRow.memoryId).Nodup) {executedAt cutoff : TimeText}
    {count : Nat} (h : (cleanupExpiredStructuredMemory env executedAt cutoff).exec db
      = (.ok count, left)) :
    left.items = db.items.filter fun item =>
      item.expiresAt.all fun expiresAt => !expiredInCleanup expiresAt executedAt := by
  obtain ⟨_, db₁, hcheck, h⟩ := Program.exec_bind_eq_ok.mp h
  obtain ⟨-, rfl⟩ := Program.exec_throwIf_eq_ok.mp hcheck
  rw [Program.exec_reads_bind] at h
  obtain ⟨count', db₂, hdelete, h⟩ := Program.exec_bind_eq_ok.mp h
  obtain ⟨_, db₃, hwrite, h⟩ := Program.exec_bind_eq_ok.mp h
  obtain ⟨-, rfl⟩ := Prod.mk.inj hwrite
  obtain ⟨-, rfl⟩ := Prod.mk.inj h
  refine (deleteAll_items hdelete).trans (List.filter_congr fun item hitem => ?_)
  rw [Bool.eq_iff_iff, decide_eq_true_eq, List.mem_insertionSort, List.mem_map]
  have hexpired : (∃ other ∈ db.items.filter fun item => item.expiresAt.any fun expiresAt =>
      !textBefore executedAt expiresAt, other.memoryId = item.memoryId)
        ↔ item.expiresAt.any (expiredInCleanup · executedAt) = true := by
    refine ⟨?_, fun hany => ⟨item, List.mem_filter.mpr ⟨hitem, hany⟩, rfl⟩⟩
    rintro ⟨other, hother, hid⟩
    obtain ⟨hknown, hany⟩ := List.mem_filter.mp hother
    exact List.inj_on_of_nodup_map hids hknown hitem hid ▸ hany
  refine (not_congr hexpired).trans ?_
  cases item.expiresAt <;> simp

/-- **What has expired is erased.**  A cleanup after any run leaves the items that are not
expired for it; whatever happens then, the source of an expired item stays empty, and no item is
made of it. -/
theorem expired_memory_erased (env : MemoryEnv) (featureEnabledAt : TimeText)
    (before after : List Operation) {executedAt cutoff : TimeText} {count : Nat} {left : Database}
    (h : (cleanupExpiredStructuredMemory env executedAt cutoff).exec
      (run env featureEnabledAt before) = (.ok count, left)) :
    (left.items = (run env featureEnabledAt before).items.filter fun item =>
        item.expiresAt.all fun expiresAt => !expiredInCleanup expiresAt executedAt)
      ∧ ∀ item ∈ (run env featureEnabledAt before).items,
        item.expiresAt.any (expiredInCleanup · executedAt) = true →
        (∀ row ∈ (runFrom env left after).stages,
          row.memoryId = item.sourceMemoryId → row.content = [])
        ∧ ∀ other ∈ (runFrom env left after).items, other.sourceMemoryId ≠ item.sourceMemoryId := by
  have hdb : Coherent env Set.univ (run env featureEnabledAt before) :=
    (run_coherent featureEnabledAt before).mono (Set.subset_univ _)
  have hcleanup : Changes env Set.univ (run env featureEnabledAt before) left := by
    have hchanges : Changes env Set.univ _ _ :=
      maintenanceStep_change.cleanup executedAt cutoff (run env featureEnabledAt before)
    rwa [h] at hchanges
  have hitems := cleanup_items hdb.items.itemIds h
  refine ⟨hitems, fun item hitem hexpired => ?_⟩
  have hdeleted : left.sourceDeleted item.sourceMemoryId = true := by
    refine (hcleanup.keeps_item hdb (.inl ⟨item, hitem, rfl, rfl⟩)).resolve_left ?_
    rintro ⟨kept, hkept, hid, -⟩
    rw [hitems, List.mem_filter] at hkept
    rw [List.inj_on_of_nodup_map hdb.items.itemIds hkept.1 hitem hid] at hkept
    cases hexpiry : item.expiresAt with
    | none => simp [hexpiry] at hexpired
    | some expiresAt => simp_all
  have hafter : Changes env Set.univ left (runFrom env left after) :=
    (runFrom_changes left after).mono (Set.subset_univ _)
  have hlast := ((hdb.changes hcleanup).changes hafter).items
  have hstays := hafter.keeps_deleted hdeleted
  refine ⟨fun row hrow hid => hlast.emptied row hrow (hid ▸ hstays), fun other hother hsame => ?_⟩
  have hundeleted := hlast.undeleted other hother
  rw [hsame, hstays] at hundeleted
  cases hundeleted

/-- A stage is saved and confirmed, for five minutes. -/
def exampleExpiry : List Operation :=
  [.saveStage (exampleStage "t" "alice" "a"),
    .createItem { exampleItem "lhm_5" with expiresAt := some (exampleTime 8) }]

/-- At nine minutes past the item has expired. -/
theorem expired_memory_erased_example :
    ∃ count left, (cleanupExpiredStructuredMemory plainMemoryEnv (exampleTime 9)
        (exampleTime 0)).exec (run plainMemoryEnv (exampleTime 0) exampleExpiry)
      = (.ok count, left) ∧ left.items = [] := by
  have hok : ((cleanupExpiredStructuredMemory plainMemoryEnv (exampleTime 9)
      (exampleTime 0)).exec (run plainMemoryEnv (exampleTime 0) exampleExpiry)).1.isOk = true := by
    decide +kernel
  generalize hexec : Program.exec _ _ = r at hok ⊢
  obtain ⟨_ | count, left⟩ := r
  · cases hok
  · exact ⟨count, left, rfl, (expired_memory_erased plainMemoryEnv (exampleTime 0) exampleExpiry
      [] hexec).1.trans (by decide +kernel)⟩

/-- The candidates of a preview are taken from the items that are not expired for it. -/
lemma unexpiredAt_iff {item : ItemRow} {at_ : TimeText} : item.unexpiredAt at_ = true
    ↔ ∀ expiresAt, item.expiresAt = some expiresAt → expiredInPreview expiresAt at_ = false := by
  simp only [ItemRow.unexpiredAt, Option.all_eq_true, expiredInPreview, Bool.not_eq_false']

/-- An approved candidate is used only while its item is not expired. -/
lemma candidateCurrent_expiry {at_ : TimeText} {candidate : PreviewCandidateRow} {item : ItemRow}
    (hitem : db.item? candidate.memoryId = some item) :
    candidateCurrent env db at_ candidate = true
      ↔ (∀ expiresAt, item.expiresAt = some expiresAt →
          expiredInExecution env.parseDate expiresAt at_ = false)
        ∧ item.currentVersion = candidate.version ∧ item.contentDigest = candidate.itemDigest
        ∧ item.scope = candidate.scope ∧ item.kind = candidate.kind := by
  have hexpiry : ∀ expiresAt : TimeText, ((env.parseDate expiresAt).isNone
      || (env.parseDate at_).isNone || parsesBefore env.parseDate at_ expiresAt)
        = !expiredInExecution env.parseDate expiresAt at_ := by
    intro expiresAt
    rw [parsesBefore, expiredInExecution]
    cases env.parseDate expiresAt with
    | none => rfl
    | some instant =>
      cases env.parseDate at_ with
      | none => rfl
      | some now =>
        rcases lt_or_ge now instant with hlt | hge
        · simp [hlt, not_le.mpr hlt]
        · simp [hge, not_lt.mpr hge]
  simp only [candidateCurrent, hitem, Option.any_some, hexpiry, Bool.and_eq_true, beq_iff_eq,
    Option.all_eq_true, Bool.not_eq_true', and_assoc]

/-! ### The expiries that mean their instant -/

/-- All three paths take an expiry for passed exactly from its instant on. -/
def OneInstant (parse : TimeText → Option Timestamp) (expiresAt : TimeText) (instant now : Int) :
    Prop :=
  (expiredInCleanup expiresAt (toISOString now) = true ↔ instant ≤ now)
    ∧ (expiredInPreview expiresAt (toISOString now) = true ↔ instant ≤ now)
    ∧ (expiredInExecution parse expiresAt (toISOString now) = true ↔ instant ≤ now)

/-- The text comes after the texts of the times before its instant, and not after that of its
instant. -/
def SortsAtInstant (expiresAt : TimeText) (instant : Int) : Prop :=
  toISOString (min (instant - 1) lastIsoTime) < expiresAt
    ∧ (instant ≤ lastIsoTime → ¬toISOString instant < expiresAt)

lemma toISOString_lt_of_le {t u : Int} (ht : IsoTime t) (hu : IsoTime u) (h : t ≤ u)
    {text : TimeText} (htext : toISOString u < text) : toISOString t < text := by
  rcases lt_or_eq_of_le h with hlt | rfl
  · exact List.lt_trans (toISOString_lt ht hu hlt) htext
  · exact htext

section

variable {parse : TimeText → Option Timestamp} {expiresAt : TimeText} {instant : Int}

/-- The path that parses both times always goes by the instant. -/
lemma expiredInExecution_iff (hparse : ReadsIso parse) (hinstant : parse expiresAt = some instant)
    {now : Int} (hnow : IsoTime now) :
    expiredInExecution parse expiresAt (toISOString now) = true ↔ instant ≤ now := by
  rw [expiredInExecution, hinstant, hparse _ _ (dateParse_toISOString hnow)]
  simp

lemma oneInstant_iff (hparse : ReadsIso parse) (hinstant : parse expiresAt = some instant)
    {now : Int} (hnow : IsoTime now) : OneInstant parse expiresAt instant now
      ↔ (toISOString now < expiresAt ↔ now < instant) := by
  simp only [OneInstant, expiredInExecution_iff hparse hinstant hnow, expiredInCleanup,
    expiredInPreview, textBefore, Bool.not_eq_true', decide_eq_false_iff_not, and_true, and_self,
    ← not_lt (a := now), not_iff_not]

/-- **When an expiry means one instant**: the cleanup, the previews and the use of a preview all
take an accepted expiry for passed from its instant on, at every time that is written with a year
of four digits, if and only if the text of the expiry lies between that of the millisecond before
its instant and that of its instant. -/
theorem expiry_one_instant (hparse : ReadsIso parse) {changedAt : Int}
    (hchanged : IsoTime changedAt)
    (haccepted : acceptsExpiry parse expiresAt (toISOString changedAt) = true)
    (hinstant : parse expiresAt = some instant) :
    (∀ now, IsoTime now → OneInstant parse expiresAt instant now)
      ↔ SortsAtInstant expiresAt instant := by
  have hlater : changedAt < instant := by
    rw [acceptsExpiry, hinstant, hparse _ _ (dateParse_toISOString hchanged)] at haccepted
    simpa using haccepted
  obtain ⟨hfirst, hlast⟩ := hchanged
  have hbefore : IsoTime (min (instant - 1) lastIsoTime) := ⟨by omega, by omega⟩
  constructor
  · intro h
    refine ⟨?_, fun hin => ?_⟩
    · exact ((oneInstant_iff hparse hinstant hbefore).mp (h _ hbefore)).mpr (by omega)
    · have hnow : IsoTime instant := ⟨by omega, hin⟩
      rw [(oneInstant_iff hparse hinstant hnow).mp (h _ hnow)]
      exact lt_irrefl _
  · rintro ⟨hafter, hupto⟩ now hnow
    rw [oneInstant_iff hparse hinstant hnow]
    constructor
    · intro htext
      by_contra hpassed
      have hin : instant ≤ lastIsoTime := le_trans (not_lt.mp hpassed) hnow.2
      have hinstantTime : IsoTime instant := ⟨by omega, hin⟩
      exact hupto hin (toISOString_lt_of_le hinstantTime hnow (not_lt.mp hpassed) htext)
    · intro hlt
      have hle : now ≤ min (instant - 1) lastIsoTime := by
        have := hnow.2
        omega
      exact toISOString_lt_of_le hnow hbefore hle hafter

end

/-- One, three and seven o'clock UTC on a day. -/
def oneOClock : Int := 1787187600000
def threeOClock : Int := 1787194800000
def sevenOClock : Int := 1787209200000

/-- The instant in the form of `toISOString`. -/
theorem expiry_one_instant_iso :
    (∀ now, IsoTime now → OneInstant dateParse (toISOString sevenOClock) sevenOClock now)
      ↔ SortsAtInstant (toISOString sevenOClock) sevenOClock :=
  expiry_one_instant (fun _ _ h => h) (show IsoTime oneOClock by decide) (by decide +kernel)
    (by decide +kernel)

/-! ### A text with another offset -/

/-- Seven o'clock UTC, which the queries take for two o'clock. -/
def offsetExpiry : TimeText := ofString "2026-08-20T02:00:00.000-05:00"

/-- The cleanup deletes an item four hours before its instant, and a preview does not offer it. -/
theorem offsetExpiry_early :
    acceptsExpiry dateParse offsetExpiry (toISOString oneOClock) = true
      ∧ dateParse offsetExpiry = some sevenOClock
      ∧ ¬OneInstant dateParse offsetExpiry sevenOClock threeOClock := by
  have hcleanup : expiredInCleanup offsetExpiry (toISOString threeOClock) = true := by
    decide +kernel
  refine ⟨by decide +kernel, by decide +kernel, fun h => ?_⟩
  exact absurd (h.1.mp hcleanup) (by decide)

end TetiBot.Memory
