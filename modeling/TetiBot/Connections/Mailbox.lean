import TetiBot.Library.Transition
import Mathlib.Logic.Function.Basic
import Mathlib.Data.List.Infix

/-
Which messages of the mailbox a poll receives (`integrations/chatmail/rpc-client.ts`,
`poll` of `lifecycle-sidecar/connections.ts`).

* `Mailbox`: the messages, the cursor of the server and what the process remembers.
* `Mailbox.step`: messages arrive, a poll looks for messages and processes them one after
  the other, the process ends at any point.
* `Kept`: where the messages lie that polls have left.
* `left_messages_return`: they come with the next call whose fetches succeed, as long as
  no message is acknowledged before an older one that is left.
-/

namespace TetiBot.Connections

open Library

/-! ### The mailbox -/

/-- The account that is polled, and which of its messages it has sent itself. -/
structure ChatmailAccount where
  accountId : Nat
  isOutgoing : Nat → Bool

/-- What is read of an entry of `get_next_event_batch`. -/
structure ChatmailEvent where
  contextId : Option Nat
  isMessageEvent : Bool
  msgId : Option Nat
  deriving DecidableEq

/-- The message that an event announces to the account. -/
def ChatmailEvent.messageId? (account : ChatmailAccount) (event : ChatmailEvent) : Option Nat :=
  if event.contextId.all (· == account.accountId) && event.isMessageEvent then event.msgId else none

/-- Where a poll stands; between two polls there are no messages to process. -/
inductive PollPhase
  /-- The messages still to process, and whether events have announced them. -/
  | processing (announced : Bool) (messages : List Nat)
  /-- The backlog had no message. -/
  | backlogEmpty
  /-- The events had none either. -/
  | unannounced
  deriving DecidableEq

def PollPhase.messages : PollPhase → List Nat
  | .processing _ messages => messages
  | _ => []

structure Mailbox where
  /-- All messages, by their id. -/
  inbox : List Nat
  cursor : Nat
  observedMessageIds : List Nat
  messageProcessingFailures : Nat → Nat
  phase : PollPhase
  /-- The messages that were left unacknowledged, and not processed since. -/
  left : List Nat

/-- A mailbox without messages. -/
def Mailbox.empty : Mailbox := ⟨[], 0, [], fun _ => 0, .processing false [], []⟩

/-- The limit of a poll. -/
def messageLimit : Nat := 100

/-! ### Receiving -/

inductive Fetched
  | skipped (observed : List Nat)
  | received
  | thrown
  deriving DecidableEq

namespace Mailbox

section

variable (account : ChatmailAccount) (s : Mailbox)

/-- `get_next_msgs`. -/
def nextMessageIds : List Nat :=
  s.inbox.filter fun id => decide (s.cursor < id) && !account.isOutgoing id

/-- `fetchReceivedMessage`; `get_message` throws for the unreadable messages. -/
def fetchReceivedMessage (unreadable observed : List Nat) (id : Nat) : Fetched :=
  if id ∈ observed then .skipped observed
  else if id ∉ s.inbox ∨ id ∈ unreadable then .thrown
  else if account.isOutgoing id then .skipped (id :: observed)
  else .received

/-- The loops over ids: what has been observed, and the messages unless a fetch throws. -/
def fetchMessages (unreadable observed messages : List Nat) :
    List Nat → List Nat × Option (List Nat)
  | [] => (observed, some messages)
  | id :: ids =>
    match s.fetchReceivedMessage account unreadable observed id with
    | .thrown => (observed, none)
    | .skipped observed =>
      if messageLimit ≤ messages.length then (observed, some messages)
      else fetchMessages unreadable observed messages ids
    | .received =>
      if messageLimit ≤ (messages ++ [id]).length then (observed, some (messages ++ [id]))
      else fetchMessages unreadable observed (messages ++ [id]) ids

/-- A look of `receiveMessages`: a throw ends the poll, and without messages it goes on
as `otherwise` says. -/
def look (announced : Bool) (unreadable ids : List Nat) (otherwise : PollPhase) : Mailbox :=
  let looked := s.fetchMessages account unreadable s.observedMessageIds [] ids
  { s with
    observedMessageIds := looked.1
    phase := match looked.2 with
      | none => .processing false []
      | some [] => otherwise
      | some messages => .processing announced messages }

end

/-! ### Processing -/

/-- What becomes of a message in the loop of `poll`. -/
inductive Outcome
  | handled
  /-- `RelationshipAuthorizationDeniedError`. -/
  | denied
  /-- `TetiNetworkClientError`. -/
  | unavailable
  /-- `isPendingTaskMessageError`. -/
  | pending
  | failed
  deriving DecidableEq

/-- How `markseen_msgs` ends. -/
inductive SeenResult
  | done
  /-- The server has marked the message; its answer is lost. -/
  | unanswered
  | refused
  deriving DecidableEq

section

variable (s : Mailbox) (id : Nat)

/-- `processed`. -/
def processed : Outcome → Bool
  | .handled | .denied => true
  | .unavailable | .pending => false
  | .failed => 5 ≤ s.messageProcessingFailures id + 1

/-- What the loop notes of the failures of a message. -/
def countFailures : Outcome → Nat → Nat
  | .handled | .denied => s.messageProcessingFailures
  | .unavailable | .pending => Function.update s.messageProcessingFailures id 0
  | .failed => Function.update s.messageProcessingFailures id (s.messageProcessingFailures id + 1)

/-- `acknowledgeReceivedMessage`. -/
def acknowledge : SeenResult → Mailbox
  | .done =>
    { s with
      cursor := max s.cursor id
      observedMessageIds := id :: s.observedMessageIds
      messageProcessingFailures := Function.update s.messageProcessingFailures id 0 }
  | .unanswered => { s with cursor := max s.cursor id }
  | .refused => s

/-- A message in the loop of `poll`. -/
def process (outcome : Outcome) (seen : SeenResult) : Mailbox :=
  let counted := { s with messageProcessingFailures := s.countFailures id outcome }
  if s.processed id outcome then
    { counted.acknowledge id seen with left := s.left.filter (· ≠ id) }
  else { counted with left := id :: s.left }

end

/-! ### Runs -/

inductive Event
  | arrived (id : Nat)
  /-- `appendNextMessages`, which cannot read some messages. -/
  | backlog (unreadable : List Nat)
  /-- `takeAvailableEventBatch`, which a timeout leaves empty. -/
  | events (batch : List ChatmailEvent) (unreadable : List Nat)
  /-- A request for ids or events throws. -/
  | receiveFailed
  | processed (outcome : Outcome) (seen : SeenResult)
  | restarted
  deriving DecidableEq

section

variable (account : ChatmailAccount)

def step (s : Mailbox) : Event → Option Mailbox
  | .arrived id =>
    if s.cursor < id ∧ ∀ earlier ∈ s.inbox, earlier < id then some { s with inbox := s.inbox ++ [id] }
    else none
  | .backlog unreadable =>
    match s.phase with
    | .processing _ [] =>
      some (s.look account false unreadable (s.nextMessageIds account) .backlogEmpty)
    | .unannounced =>
      some (s.look account false unreadable (s.nextMessageIds account) (.processing false []))
    | _ => none
  | .events batch unreadable =>
    match s.phase with
    | .backlogEmpty =>
      some (s.look account true unreadable (batch.filterMap (·.messageId? account)) .unannounced)
    | _ => none
  | .receiveFailed =>
    match s.phase with
    | .processing _ (_ :: _) => none
    | _ => some { s with phase := .processing false [] }
  | .processed outcome seen =>
    match s.phase with
    | .processing announced (id :: rest) =>
      some { s.process id outcome seen with phase := .processing announced rest }
    | _ => none
  | .restarted =>
    some { s with
      observedMessageIds := []
      messageProcessingFailures := fun _ => 0
      phase := .processing false [] }

/-- No message is acknowledged before an older one that is left; one that an event has
announced is left only where the next calls look. -/
def Safe (s : Mailbox) : Event → Bool
  | .processed outcome seen =>
    match s.phase with
    | .processing announced (id :: _) =>
      if s.processed id outcome then seen == .refused || s.left.all (id ≤ ·)
      else !announced || decide (id ∈ (s.nextMessageIds account).take messageLimit)
    | _ => true
  | _ => true

/-- Steps that are safe. -/
def safeStep (s : Mailbox) (e : Event) : Option Mailbox :=
  if s.Safe account e then s.step account e else none

/-- Steps whose events do not announce the message. -/
def silentStep (id : Nat) (s : Mailbox) (e : Event) : Option Mailbox :=
  match e with
  | .events batch _ => if id ∈ batch.filterMap (·.messageId? account) then none else s.step account e
  | _ => s.step account e

end

/-! ### What a look finds -/

/-- The messages that the next calls look at. -/
def waiting (account : ChatmailAccount) (s : Mailbox) : List Nat :=
  (s.nextMessageIds account).take messageLimit

section

variable {account : ChatmailAccount} {s t : Mailbox} {id : Nat} {p : Nat → Bool}
  {unreadable observed messages ids : List Nat}

lemma mem_nextMessageIds :
    id ∈ s.nextMessageIds account ↔ id ∈ s.inbox ∧ s.cursor < id ∧ account.isOutgoing id = false := by
  simp [nextMessageIds]

/-- What goes from a list brings the others closer to its start. -/
lemma mem_take_filter (n : Nat) (h : id ∈ ids.take n) (hp : p id = true) :
    id ∈ (ids.filter p).take n := by
  have hprefix : (ids.take n).filter p <+: ids.filter p := (List.take_prefix n ids).filter p
  have hlength : ((ids.take n).filter p).length ≤ n :=
    (List.length_filter_le _ _).trans (List.length_take_le n ids)
  have hmem : id ∈ (ids.take n).filter p := List.mem_filter.mpr ⟨h, hp⟩
  rw [List.prefix_iff_eq_take.mp hprefix] at hmem
  exact List.take_subset_take_left _ hlength hmem

/-- The messages that a look fetches come from the ids it has. -/
lemma fetchMessages_subset {found : List Nat}
    (h : (s.fetchMessages account unreadable observed messages ids).2 = some found) :
    ∀ x ∈ found, x ∈ messages ∨ x ∈ ids := by
  induction ids generalizing observed messages with
  | nil =>
    intro x hx
    simp only [fetchMessages, Option.some.injEq] at h
    exact .inl (h ▸ hx)
  | cons id ids ih =>
    intro x hx
    unfold fetchMessages at h
    split at h
    · cases h
    · split_ifs at h
      · exact .inl (Option.some.inj h ▸ hx)
      · exact (ih h x hx).imp_right (List.mem_cons_of_mem id)
    · split_ifs at h
      · have hx : x ∈ messages ++ [id] := Option.some.inj h ▸ hx
        simp only [List.mem_append, List.mem_singleton] at hx
        simp only [List.mem_cons]
        tauto
      · have hx := ih h x hx
        simp only [List.mem_append, List.mem_singleton] at hx
        simp only [List.mem_cons]
        tauto

lemma look_messages {announced : Bool} {otherwise : PollPhase} :
    ∀ x ∈ (s.look account announced unreadable ids otherwise).phase.messages,
      x ∈ otherwise.messages ∨ x ∈ ids := by
  intro x hx
  simp only [look] at hx
  split at hx
  · cases hx
  · exact .inl hx
  · exact .inr ((fetchMessages_subset ‹_› x hx).resolve_left (by simp))

lemma fetchReceivedMessage_observed {observed' : List Nat}
    (h : s.fetchReceivedMessage account unreadable observed id = .skipped observed') :
    ∀ x ∈ observed', x ∈ observed ∨ account.isOutgoing x = true := by
  unfold fetchReceivedMessage at h
  split_ifs at h with _ _ hout
  · exact fun x hx => .inl (Fetched.skipped.inj h ▸ hx)
  · intro x hx
    obtain rfl | hx := List.mem_cons.mp (Fetched.skipped.inj h ▸ hx)
    · exact .inr hout
    · exact .inl hx

/-- A look observes only messages that the account has sent. -/
lemma fetchMessages_observed :
    ∀ x ∈ (s.fetchMessages account unreadable observed messages ids).1,
      x ∈ observed ∨ account.isOutgoing x = true := by
  induction ids generalizing observed messages with
  | nil => exact fun x hx => .inl hx
  | cons id ids ih =>
    intro x hx
    unfold fetchMessages at hx
    split at hx
    · exact .inl hx
    · have hskipped := fetchReceivedMessage_observed ‹_›
      split_ifs at hx
      · exact hskipped x hx
      · exact (ih x hx).elim (hskipped x) .inr
    · split_ifs at hx
      · exact .inl hx
      · exact ih x hx

variable (s unreadable) in
/-- A look at messages that are neither observed nor sent brings the first of them, or
throws for one of those. -/
lemma fetchMessages_waiting (hlength : messages.length < messageLimit)
    (hids : ∀ x ∈ ids, x ∈ s.nextMessageIds account ∧ x ∉ observed) :
    s.fetchMessages account unreadable observed messages ids
      = (observed, if ∃ x ∈ ids.take (messageLimit - messages.length), x ∈ unreadable then none
          else some (messages ++ ids.take (messageLimit - messages.length))) := by
  induction ids generalizing messages with
  | nil => simp [fetchMessages]
  | cons id ids ih =>
    obtain ⟨hnext, hfresh⟩ := hids id (by simp)
    obtain ⟨hinbox, -, hreceived⟩ := mem_nextMessageIds.mp hnext
    obtain ⟨n, hn⟩ : ∃ n, messageLimit - messages.length = n + 1 :=
      ⟨messageLimit - messages.length - 1, by omega⟩
    rw [hn, List.take_succ_cons]
    by_cases hread : id ∈ unreadable
    · simp [fetchMessages, fetchReceivedMessage, hfresh, hread]
    · have hfetch : s.fetchReceivedMessage account unreadable observed id = .received := by
        simp [fetchReceivedMessage, hfresh, hinbox, hread, hreceived]
      rw [fetchMessages]
      simp only [hfetch, List.mem_cons, exists_eq_or_imp, hread, false_or]
      have hnext : messageLimit - (messages ++ [id]).length = n := by
        simp only [List.length_append, List.length_singleton]
        omega
      split_ifs with hfull hthrown hthrown
      · obtain rfl : n = 0 := by omega
        simp at hthrown
      · obtain rfl : n = 0 := by omega
        simp
      · rw [ih (by omega) fun x hx => hids x (List.mem_cons_of_mem id hx), hnext, if_pos hthrown]
      · rw [ih (by omega) fun x hx => hids x (List.mem_cons_of_mem id hx), hnext, if_neg hthrown]
        simp

end

/-! ### What is left -/

/-- The messages that are left are among those at which the next calls look, and so are
those of the backlog that are still to process. -/
structure Kept (account : ChatmailAccount) (s : Mailbox) : Prop where
  inbox : s.inbox.Pairwise (· < ·)
  observed : ∀ id ∈ s.observedMessageIds, account.isOutgoing id = true ∨ id ≤ s.cursor
  left : ∀ id ∈ s.left, id ∈ waiting account s
  backlog : ∀ messages, s.phase = .processing false messages →
    messages.Pairwise (· < ·) ∧ ∀ id ∈ messages, id ∈ waiting account s

section

variable {account : ChatmailAccount} {s t : Mailbox} {e : Event} {id : Nat}
  {unreadable : List Nat} {outcome : Outcome} {seen : SeenResult}

/-- A poll that has nothing of the backlog to process. -/
lemma Kept.ofPhase (h : s.Kept account) {phase : PollPhase}
    (hphase : ∀ messages, phase = .processing false messages → messages = []) :
    Kept account { s with phase := phase } where
  inbox := h.inbox
  observed := h.observed
  left := h.left
  backlog messages hmessages := by
    obtain rfl := hphase messages hmessages
    exact ⟨.nil, by simp⟩

/-- A look at the backlog brings the first messages that wait. -/
lemma Kept.look_backlog (h : s.Kept account) {otherwise : PollPhase} :
    s.look account false unreadable (s.nextMessageIds account) otherwise
      = { s with phase :=
          if ∃ x ∈ waiting account s, x ∈ unreadable then .processing false []
          else match waiting account s with
            | [] => otherwise
            | messages => .processing false messages } := by
  have hunobserved : ∀ x ∈ s.nextMessageIds account,
      x ∈ s.nextMessageIds account ∧ x ∉ s.observedMessageIds := by
    refine fun x hx => ⟨hx, fun hobserved => ?_⟩
    obtain ⟨-, hcursor, hreceived⟩ := mem_nextMessageIds.mp hx
    obtain hout | hle := h.observed x hobserved
    · exact absurd hout (by simp [hreceived])
    · omega
  have hnone : ([] : List Nat).length < messageLimit := by decide
  have hfetch := fetchMessages_waiting s unreadable hnone hunobserved
  simp only [List.length_nil, Nat.sub_zero, List.nil_append] at hfetch
  unfold look
  rw [hfetch]
  unfold waiting
  split_ifs
  · rfl
  · cases (s.nextMessageIds account).take messageLimit <;> rfl

lemma Kept.look_backlog_kept (h : s.Kept account) {otherwise : PollPhase}
    (hotherwise : ∀ messages, otherwise = .processing false messages → messages = []) :
    Kept account (s.look account false unreadable (s.nextMessageIds account) otherwise) := by
  rw [h.look_backlog]
  split_ifs
  · exact h.ofPhase fun messages hmessages => (PollPhase.processing.inj hmessages).2.symm
  · split
    · exact h.ofPhase hotherwise
    · refine { h with backlog := fun messages hmessages => ?_ }
      obtain rfl := (PollPhase.processing.inj hmessages).2
      refine ⟨?_, fun id hid => hid⟩
      exact (h.inbox.filter _).sublist (List.take_sublist _ _)

lemma Kept.look_events (h : s.Kept account) {ids : List Nat} :
    Kept account (s.look account true unreadable ids .unannounced) := by
  have hlooked : Kept account { s with
      observedMessageIds := (s.fetchMessages account unreadable s.observedMessageIds [] ids).1 } :=
    { h with
      observed := fun id hid => (fetchMessages_observed id hid).elim (h.observed id) .inl }
  refine hlooked.ofPhase fun messages hmessages => ?_
  split at hmessages
  · exact (PollPhase.processing.inj hmessages).2.symm
  · cases hmessages
  · cases hmessages

/-- A cursor that moves up to a message keeps the later ones that wait. -/
lemma mem_waiting_of_cursor {s t : Mailbox} (hinbox : t.inbox = s.inbox)
    (hcursor : t.cursor = max s.cursor id) {later : Nat} (hlater : id < later)
    (h : later ∈ waiting account s) : later ∈ waiting account t := by
  have hfilter : t.nextMessageIds account
      = (s.nextMessageIds account).filter fun x => decide (id < x) := by
    simp only [nextMessageIds, hinbox, hcursor, List.filter_filter]
    refine List.filter_congr fun x _ => ?_
    rw [Bool.eq_iff_iff]
    simp only [Bool.and_eq_true, decide_eq_true_eq, Nat.max_lt]
    tauto
  unfold waiting at h ⊢
  rw [hfilter]
  exact mem_take_filter messageLimit h (by simpa using hlater)

lemma Kept.arrived (h : s.Kept account) (harrived : ∀ earlier ∈ s.inbox, earlier < id) :
    Kept account { s with inbox := s.inbox ++ [id] } := by
  have hwaiting : ∀ x ∈ waiting account s, x ∈ waiting account { s with inbox := s.inbox ++ [id] } := by
    intro x hx
    unfold waiting nextMessageIds at hx ⊢
    rw [List.filter_append]
    exact (List.IsPrefix.take (List.prefix_append _ _) messageLimit).subset hx
  refine ⟨?_, h.observed, fun x hx => hwaiting x (h.left x hx), fun messages hmessages => ?_⟩
  · rw [List.pairwise_append]
    exact ⟨h.inbox, List.pairwise_singleton .., by simpa using harrived⟩
  · obtain ⟨hsorted, hbacklog⟩ := h.backlog messages hmessages
    exact ⟨hsorted, fun x hx => hwaiting x (hbacklog x hx)⟩

/-- After an acknowledgement the later messages still wait. -/
lemma mem_waiting_acknowledge {later : Nat} (hlater : seen = .refused ∨ id < later)
    (h : later ∈ waiting account s) : later ∈ waiting account (s.acknowledge id seen) := by
  cases seen with
  | refused => exact h
  | done =>
    exact mem_waiting_of_cursor (s := s) (t := s.acknowledge id .done) rfl rfl
      (hlater.resolve_left (by decide)) h
  | unanswered =>
    exact mem_waiting_of_cursor (s := s) (t := s.acknowledge id .unanswered) rfl rfl
      (hlater.resolve_left (by decide)) h

/-- A message that is processed leaves the others that are left where they are. -/
lemma Kept.process (h : s.Kept account) {announced : Bool} {rest : List Nat}
    (hphase : s.phase = .processing announced (id :: rest))
    (hsafe : s.Safe account (.processed outcome seen) = true) :
    Kept account { s.process id outcome seen with phase := .processing announced rest } := by
  simp only [Safe, hphase] at hsafe
  unfold Mailbox.process
  split_ifs at hsafe ⊢ with hprocessed
  · have hafter : ∀ x ∈ s.left, x ≠ id → seen = .refused ∨ id < x := by
      intro x hx hne
      refine (Bool.or_eq_true _ _ |>.mp hsafe).imp (by simp) fun hold => ?_
      have hle := List.all_eq_true.mp hold x hx
      simp only [decide_eq_true_eq] at hle
      omega
    refine ⟨?_, ?_, fun x hx => ?_, fun messages hmessages => ?_⟩
    · cases seen <;> exact h.inbox
    · intro x hx
      cases seen with
      | refused => exact h.observed x hx
      | unanswered => exact (h.observed x hx).imp_right fun hle => hle.trans (Nat.le_max_left _ _)
      | done =>
        obtain rfl | hx := List.mem_cons.mp hx
        · exact .inr (Nat.le_max_right _ _)
        · exact (h.observed x hx).imp_right fun hle => hle.trans (Nat.le_max_left _ _)
    · obtain ⟨hx, hne⟩ := List.mem_filter.mp hx
      exact mem_waiting_acknowledge (hafter x hx (by simpa using hne)) (h.left x hx)
    · obtain ⟨rfl, rfl⟩ := PollPhase.processing.inj hmessages
      obtain ⟨hsorted, hbacklog⟩ := h.backlog _ hphase
      obtain ⟨hfirst, hrest⟩ := List.pairwise_cons.mp hsorted
      exact ⟨hrest, fun x hx => mem_waiting_acknowledge (.inr (hfirst x hx))
        (hbacklog x (List.mem_cons_of_mem id hx))⟩
  · refine ⟨h.inbox, h.observed, fun x hx => ?_, fun messages hmessages => ?_⟩
    · obtain rfl | hx := List.mem_cons.mp hx
      · cases announced with
        | false => exact (h.backlog _ hphase).2 _ List.mem_cons_self
        | true =>
          rw [Bool.not_true, Bool.false_or, decide_eq_true_eq] at hsafe
          exact hsafe
      · exact h.left x hx
    · obtain ⟨rfl, rfl⟩ := PollPhase.processing.inj hmessages
      obtain ⟨hsorted, hbacklog⟩ := h.backlog _ hphase
      exact ⟨(List.pairwise_cons.mp hsorted).2,
        fun x hx => hbacklog x (List.mem_cons_of_mem id hx)⟩

lemma Kept.step (h : s.Kept account) (hstep : s.safeStep account e = some t) :
    t.Kept account := by
  obtain ⟨hsafe, hstep⟩ := Option.ite_none_right_eq_some.mp hstep
  cases e with
  | arrived id =>
    obtain ⟨harrived, ht⟩ := Option.ite_none_right_eq_some.mp hstep
    obtain rfl := Option.some.inj ht
    exact h.arrived harrived.2
  | backlog unreadable =>
    simp only [Mailbox.step] at hstep
    split at hstep <;> cases hstep
    · exact h.look_backlog_kept fun messages => by rintro ⟨⟩
    · exact h.look_backlog_kept fun messages hmessages => (PollPhase.processing.inj hmessages).2.symm
  | events batch unreadable =>
    simp only [Mailbox.step] at hstep
    split at hstep <;> cases hstep
    exact h.look_events
  | receiveFailed =>
    simp only [Mailbox.step] at hstep
    split at hstep <;> cases hstep
    exact h.ofPhase fun messages hmessages => (PollPhase.processing.inj hmessages).2.symm
  | processed outcome seen =>
    simp only [Mailbox.step] at hstep
    split at hstep <;> cases hstep
    exact h.process ‹_› hsafe
  | restarted =>
    obtain rfl := Option.some.inj hstep
    exact ⟨h.inbox, by simp, h.left, fun messages hmessages => by
      obtain rfl := (PollPhase.processing.inj hmessages).2
      exact ⟨.nil, by simp⟩⟩

lemma kept_empty : empty.Kept account :=
  ⟨.nil, by simp [empty], by simp [empty], fun messages hmessages => by
    obtain rfl := (PollPhase.processing.inj hmessages).2
    exact ⟨.nil, by simp⟩⟩

end

end Mailbox

open Mailbox in
/-- **Messages that are left come back**, as long as no message is acknowledged before an
older one that is left, and one that an event has announced is left only where the cursor
has not passed it: the next call brings all of them, exactly when it can read what it
looks at. -/
theorem left_messages_return (account : ChatmailAccount) (events : List Event) (s : Mailbox)
    (h : Runs (safeStep account) Mailbox.empty events s) :
    ∀ id ∈ s.left, ∀ announced, s.phase = .processing announced [] →
      ∀ unreadable, ∃ t, s.step account (.backlog unreadable) = some t ∧
        (id ∈ t.phase.messages ↔ ∀ x ∈ waiting account s, x ∉ unreadable) := by
  intro id hid announced hphase unreadable
  have hkept : s.Kept account := h.invariant kept_empty fun _ _ _ hs => hs.step
  have hstep : s.step account (.backlog unreadable)
      = some (s.look account false unreadable (s.nextMessageIds account) .backlogEmpty) := by
    simp only [Mailbox.step, hphase]
  refine ⟨_, hstep, ?_⟩
  rw [hkept.look_backlog]
  have hwaits := hkept.left id hid
  split_ifs with hunreadable
  · simp only [PollPhase.messages, List.not_mem_nil, false_iff]
    obtain ⟨x, hx, hread⟩ := hunreadable
    exact fun hall => hall x hx hread
  · push Not at hunreadable
    refine iff_of_true ?_ hunreadable
    split
    · simp [‹waiting account s = []›] at hwaits
    · exact hwaits

/-- The account of the examples has sent nothing. -/
def receivingAccount : ChatmailAccount := ⟨1, fun _ => false⟩

open Mailbox in
/-- Two messages, of which the first waits for a task. -/
def pendingFirst : List Event :=
  [.arrived 1, .arrived 2, .backlog [], .processed .pending .done]

open Mailbox in
/-- The second cannot be decided, and the process ends. -/
def bothLeft : List Event := pendingFirst ++ [.processed .unavailable .done, .restarted]

open Mailbox in
theorem left_messages_return_pending :
    ∃ s, Runs (safeStep receivingAccount) Mailbox.empty bothLeft s
      ∧ s.left = [2, 1]
      ∧ ∃ t, s.step receivingAccount (.backlog []) = some t ∧ 1 ∈ t.phase.messages := by
  obtain ⟨s, hs, hseen⟩ := Runs.exists_of_any
    (p := fun s : Mailbox => s.left == [2, 1] && s.phase == .processing false [])
    (by decide +kernel : (bothLeft.foldlM (safeStep receivingAccount) Mailbox.empty).any _ = true)
  simp only [Bool.and_eq_true, beq_iff_eq] at hseen
  obtain ⟨hleft, hphase⟩ := hseen
  obtain ⟨t, ht, hmem⟩ :=
    left_messages_return receivingAccount _ s hs 1 (by simp [hleft]) false hphase []
  exact ⟨s, hs, hleft, t, ht, hmem.mpr (by simp)⟩

namespace Mailbox

variable {account : ChatmailAccount} {s t : Mailbox} {e : Event} {id : Nat}

/-- What the cursor has passed comes with no call, unless an event announces it again. -/
lemma passed_step (hcursor : id ≤ s.cursor ∧ id ∉ s.phase.messages)
    (hstep : silentStep account id s e = some t) : id ≤ t.cursor ∧ id ∉ t.phase.messages := by
  obtain ⟨hcursor, hmessages⟩ := hcursor
  have hnext : id ∉ s.nextMessageIds account := fun h => by
    have := (mem_nextMessageIds.mp h).2.1
    omega
  cases e with
  | arrived new =>
    obtain ⟨-, ht⟩ := Option.ite_none_right_eq_some.mp hstep
    obtain rfl := Option.some.inj ht
    exact ⟨hcursor, hmessages⟩
  | backlog unreadable =>
    simp only [silentStep, step] at hstep
    split at hstep <;> cases hstep
    · exact ⟨hcursor, fun h => (look_messages id h).elim (by simp [PollPhase.messages]) hnext⟩
    · exact ⟨hcursor, fun h => (look_messages id h).elim (by simp [PollPhase.messages]) hnext⟩
  | events batch unreadable =>
    obtain ⟨hsilent, hstep⟩ := Option.ite_none_left_eq_some.mp hstep
    simp only [step] at hstep
    split at hstep <;> cases hstep
    exact ⟨hcursor, fun h => (look_messages id h).elim (by simp [PollPhase.messages]) hsilent⟩
  | receiveFailed =>
    simp only [silentStep, step] at hstep
    split at hstep <;> cases hstep
    exact ⟨hcursor, by simp [PollPhase.messages]⟩
  | processed outcome seen =>
    simp only [silentStep, step] at hstep
    split at hstep <;> cases hstep
    rw [‹s.phase = _›] at hmessages
    refine ⟨?_, fun h => hmessages (List.mem_cons_of_mem _ h)⟩
    unfold process
    split_ifs
    · cases seen with
      | refused => exact hcursor
      | done => exact hcursor.trans (Nat.le_max_left _ _)
      | unanswered => exact hcursor.trans (Nat.le_max_left _ _)
    · exact hcursor
  | restarted =>
    obtain rfl := Option.some.inj hstep
    exact ⟨hcursor, by simp [PollPhase.messages]⟩

end Mailbox

open Mailbox in
/-- The first message waits for a task, and the second one is acknowledged: no later call
brings the first, whatever follows. And a message that cannot be read hides the other. -/
theorem left_message_passed :
    (∃ s, Runs (step receivingAccount) Mailbox.empty (pendingFirst ++ [.processed .handled .done]) s
      ∧ s.left = [1]
      ∧ ∀ later t, Runs (silentStep receivingAccount 1) s later t → 1 ∉ t.phase.messages)
    ∧ ∃ s t, Runs (step receivingAccount) Mailbox.empty bothLeft s
      ∧ s.left = [2, 1] ∧ s.step receivingAccount (.backlog [2]) = some t ∧ t.phase.messages = [] := by
  refine ⟨⟨_, rfl, rfl, fun later t h => ?_⟩, _, _, rfl, rfl, rfl, rfl⟩
  exact (h.invariant (I := fun s => 1 ≤ s.cursor ∧ 1 ∉ s.phase.messages) (by decide)
    fun _ _ _ hs => passed_step hs).2

end TetiBot.Connections
