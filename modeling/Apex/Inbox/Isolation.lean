import Apex.Inbox.Recovery

/-!
What one caller's polls depend on.

A poll is made for the agent and the scopes of a credential. Its view of the
inbox is the list of the commands addressed to that agent in those scopes, in
their order and with their delivery data. A poll reads nothing else of the
state (`deliverable_eq_view`) and acts on the view as on the state, so two
inboxes with one view give one answer (`claim_alike_iff`), and the requests of
others leave the view alone (`view_serve`).

What polls do share is the journal. The delivery records have to be appended
before a command is handed out, and the file they are appended to is bounded for
all tenants together: `polls_isolated_iff` is over runs, and its condition is
that the file has room for a poll's records in both inboxes or in neither.
-/

namespace Apex.Inbox

open Checked Control FileCommandInbox Lines Runs Saturating InboxState List Option KeyMap

/-- Whom a poll is made for: an agent, in the scopes its credential allows. -/
structure Viewer where
  agentId : String
  allows : String → String → Bool

def Viewer.sees (viewer : Viewer) (command : PendingCommand) : Bool :=
  command.agentId = viewer.agentId && viewer.allows command.workspaceId command.namespaceId

namespace InboxState

variable {viewer : Viewer} {state first second : InboxState} {key : InboxKey}

/-- What a caller sees under a key. -/
def viewAt (state : InboxState) (viewer : Viewer) (key : InboxKey) : Option (InboxKey × Entry) :=
  ((state.entries.lookup key).filter fun entry => viewer.sees entry.command).map fun entry =>
    (key, entry.unnumbered)

/-- The commands a caller sees, in their order. -/
def view (state : InboxState) (viewer : Viewer) : List (InboxKey × Entry) :=
  state.order.filterMap (state.viewAt viewer)

/-- The two states agree on what a caller sees; the rest is arbitrary. -/
def Agree (viewer : Viewer) (first second : InboxState) : Prop :=
  first.view viewer = second.view viewer

/-! ### Reading the view -/

theorem viewAt_eq_some {pair} :
    state.viewAt viewer key = some pair ↔
      ∃ stored, state.entries.lookup key = some stored ∧ viewer.sees stored.command = true ∧
        (key, stored.unnumbered) = pair := by
  simp only [viewAt, map_eq_some_iff, filter_eq_some_iff, and_assoc]

theorem viewAt_eq_none_of_unseen
    (unseen : ∀ entry, state.entries.lookup key = some entry →
      viewer.sees entry.command = false) : state.viewAt viewer key = none := by
  rw [eq_none_iff_forall_ne_some]
  intro pair shown
  obtain ⟨stored, found, seen, -⟩ := viewAt_eq_some.mp shown
  rw [unseen stored found] at seen
  cases seen

theorem mem_view {entry} :
    (key, entry) ∈ state.view viewer ↔
      key ∈ state.order ∧ ∃ stored, state.entries.lookup key = some stored ∧
        viewer.sees stored.command = true ∧ stored.unnumbered = entry := by
  simp only [view, mem_filterMap, viewAt_eq_some, Prod.mk.injEq]
  constructor
  · rintro ⟨_, mem, stored, found, seen, rfl, rfl⟩
    exact ⟨mem, stored, found, seen, rfl⟩
  · rintro ⟨mem, stored, found, seen, rfl⟩
    exact ⟨key, mem, stored, found, seen, rfl, rfl⟩

/-- A key of the view has the same data in every state with that view. -/
theorem Agree.lookup (agree : Agree viewer first second)
    (mem : key ∈ (first.view viewer).map Prod.fst) :
    ∃ here there, first.entries.lookup key = some here ∧ second.entries.lookup key = some there ∧
      here.unnumbered = there.unnumbered := by
  obtain ⟨⟨_, entry⟩, shown, rfl⟩ := mem_map.mp mem
  obtain ⟨-, here, found, -, same⟩ := mem_view.mp shown
  rw [agree] at shown
  obtain ⟨-, there, found', -, same'⟩ := mem_view.mp shown
  exact ⟨here, there, found, found', same.trans same'.symm⟩

/-- Dropping the keys of past commands from the order shows no one anything. -/
theorem view_filter_order :
    ({ state with order := state.order.filter (· ∈ state.entries) } : InboxState).view viewer =
      state.view viewer := by
  change (state.order.filter _).filterMap (state.viewAt viewer) = state.order.filterMap _
  rw [filterMap_filter]
  refine filterMap_congr fun key _ => ?_
  split_ifs with live
  · rfl
  · refine (viewAt_eq_none_of_unseen fun entry found => ?_).symm
    exact absurd (decide_eq_true (mem_of_lookup found)) live

/-! ### Acting on the view -/

/-- A change of delivery data that does not look at the place in the listing. -/
structure Unnumbered (f : Entry → Entry) : Prop where
  command : ∀ entry, (f entry).command = entry.command
  unnumbered : ∀ entry, (f entry.unnumbered).unnumbered = (f entry).unnumbered

/-- One pair of a view changed as its entry is. -/
def amend (key : InboxKey) (f : Entry → Entry) (pair : InboxKey × Entry) : InboxKey × Entry :=
  if pair.1 = key then (pair.1, (f pair.2).unnumbered) else pair

variable {f : Entry → Entry}

theorem viewAt_updateEntry (blind : Unnumbered f) (other : InboxKey) :
    (state.updateEntry key f).viewAt viewer other =
      (state.viewAt viewer other).map (amend key f) := by
  simp only [viewAt, updateEntry, KeyMap.lookup_modify]
  by_cases same : other = key
  · subst same
    rw [if_pos rfl]
    cases state.entries.lookup other with
    | none => rfl
    | some entry =>
      rw [Option.map_some, Option.filter_some, Option.filter_some, blind.command]
      split_ifs
      · simp [amend, blind.unnumbered]
      · rfl
  · rw [if_neg same, Option.map_map]
    refine congrArg₂ Option.map (funext fun entry => ?_) rfl
    simp [amend, same]

theorem view_updateEntry (blind : Unnumbered f) :
    (state.updateEntry key f).view viewer = (state.view viewer).map (amend key f) := by
  have each : (state.updateEntry key f).viewAt viewer =
      fun other => (state.viewAt viewer other).map (amend key f) :=
    funext (viewAt_updateEntry blind)
  rw [view, each, view, map_filterMap]
  rfl

theorem fst_amend (f : Entry → Entry) (pair : InboxKey × Entry) :
    (amend key f pair).1 = pair.1 := by
  unfold amend
  split_ifs <;> rfl

/-- A change of a command a caller does not see. -/
theorem view_updateEntry_unseen (blind : Unnumbered f)
    (unseen : ∀ entry, state.entries.lookup key = some entry → viewer.sees entry.command = false) :
    (state.updateEntry key f).view viewer = state.view viewer := by
  refine List.filterMap_congr fun other _ => ?_
  rw [viewAt_updateEntry blind]
  by_cases same : other = key
  · rw [same, viewAt_eq_none_of_unseen unseen]
    rfl
  · rw [viewAt, Option.map_map]
    refine congrArg₂ Option.map (funext fun entry => ?_) rfl
    simp [amend, same]

/-- A command a caller does not see is recorded. -/
theorem view_insertRecorded_unseen {command : PendingCommand}
    (fresh : command.key ∉ state.entries) (unseen : viewer.sees command = false) :
    (state.insertRecorded command).view viewer = state.view viewer := by
  have others (other : InboxKey) (different : other ≠ command.key) :
      (state.insertRecorded command).viewAt viewer other = state.viewAt viewer other := by
    simp only [viewAt, insertRecorded, lookup_insert_eq, if_neg different]
  have own : (state.insertRecorded command).viewAt viewer command.key = none := by
    refine viewAt_eq_none_of_unseen fun entry found => ?_
    simp only [insertRecorded, lookup_insert_eq, if_pos] at found
    obtain rfl := Option.some.inj found
    exact unseen
  have before : state.viewAt viewer command.key = none :=
    viewAt_eq_none_of_unseen fun entry found => absurd (mem_of_lookup found) fresh
  change (state.order.filter _ ++ [command.key]).filterMap _ = state.order.filterMap _
  rw [filterMap_append, filterMap_cons, own, filterMap_nil, append_nil, filterMap_filter]
  refine filterMap_congr fun other _ => ?_
  split_ifs with different
  · exact others other (of_decide_eq_true different)
  · obtain rfl : other = command.key := by simpa using different
    exact before.symm

theorem unnumbered_deliveredEntry (now : UInt64) : Unnumbered (deliveredEntry now) :=
  ⟨fun _ => rfl, fun _ => rfl⟩

theorem unnumbered_cancelledEntry (now : UInt64) : Unnumbered (cancelledEntry now) :=
  ⟨fun _ => rfl, fun _ => rfl⟩

theorem keys_view_updateEntry (blind : Unnumbered f) (other : InboxKey) :
    ((state.updateEntry other f).view viewer).map Prod.fst =
      (state.view viewer).map Prod.fst := by
  rw [view_updateEntry blind, List.map_map]
  exact List.map_congr_left fun pair _ => fst_amend f pair

theorem Agree.updateEntry (agree : Agree viewer first second) (blind : Unnumbered f)
    (key : InboxKey) :
    Agree viewer (first.updateEntry key f) (second.updateEntry key f) := by
  rw [Agree, view_updateEntry blind, view_updateEntry blind, agree]

/-! ### A poll -/

/-- What may be handed out is seen. -/
theorem sees_of_isDeliverable {limit policy now entry}
    (may : isDeliverable ⟨viewer.agentId, limit⟩ viewer.allows policy now entry = true) :
    viewer.sees entry.command = true := by
  simp only [isDeliverable, Bool.and_eq_true] at may
  simp only [Viewer.sees, Bool.and_eq_true]
  exact may.1.1.1.1

/-- A poll chooses among what its caller sees. -/
theorem deliverable_eq_view (state : InboxState) (viewer : Viewer) (limit : Nat)
    (policy : DeliveryPolicy) (now : UInt64) :
    state.deliverable ⟨viewer.agentId, limit⟩ viewer.allows policy now =
      (((state.view viewer).filter fun pair =>
        isDeliverable ⟨viewer.agentId, limit⟩ viewer.allows policy now pair.2).map
          Prod.fst).take limit := by
  rw [deliverable, view]
  refine congrArg (List.take limit) ?_
  induction state.order with
  | nil => rfl
  | cons key rest ih =>
    rw [filter_cons, ih, filterMap_cons]
    cases found : state.entries.lookup key with
    | none =>
      have hidden : state.viewAt viewer key = none := by rw [viewAt, found]; rfl
      rw [hidden]
      rfl
    | some entry =>
      by_cases seen : viewer.sees entry.command = true
      · have shown : state.viewAt viewer key = some (key, entry.unnumbered) :=
          viewAt_eq_some.mpr ⟨entry, found, seen, rfl⟩
        rw [shown, any_some, filter_cons]
        -- The place in the listing is not read.
        change (if isDeliverable _ _ _ _ entry.unnumbered = true then _ else _) = _
        split_ifs <;> rfl
      · have hidden : state.viewAt viewer key = none :=
          viewAt_eq_none_of_unseen fun stored found' => by
            obtain rfl := Option.some.inj (found.symm.trans found')
            simpa using seen
        rw [hidden, any_some, if_neg fun may => seen (sees_of_isDeliverable may)]

theorem Agree.deliverable (agree : Agree viewer first second)
    (limit : Nat) (policy : DeliveryPolicy) (now : UInt64) :
    first.deliverable ⟨viewer.agentId, limit⟩ viewer.allows policy now =
      second.deliverable ⟨viewer.agentId, limit⟩ viewer.allows policy now := by
  rw [deliverable_eq_view, deliverable_eq_view, agree]

theorem mem_view_of_deliverable {limit policy now}
    (mem : key ∈ state.deliverable ⟨viewer.agentId, limit⟩ viewer.allows policy now) :
    key ∈ (state.view viewer).map Prod.fst := by
  rw [deliverable_eq_view] at mem
  exact map_subset _ (filter_subset_self _) (mem_of_mem_take mem)

theorem Agree.markDelivered (agree : Agree viewer first second)
    (mem : key ∈ (first.view viewer).map Prod.fst) (now : UInt64) :
    (first.markDelivered key now).1 = (second.markDelivered key now).1 ∧
      (first.markDelivered key now).2 = first.updateEntry key (deliveredEntry now) ∧
      (second.markDelivered key now).2 = second.updateEntry key (deliveredEntry now) := by
  obtain ⟨here, there, found, found', same⟩ := agree.lookup mem
  have command : here.command = there.command := congrArg (·.command) same
  have attempts : here.attempts = there.attempts := congrArg (·.attempts) same
  simp only [InboxState.markDelivered, found, found', command, attempts, and_self]

/-- Marking what both callers see hands out the same commands. -/
theorem Agree.markAll (agree : Agree viewer first second) (now : UInt64) {keys}
    (seen : ∀ key ∈ keys, key ∈ (first.view viewer).map Prod.fst) :
    (FileCommandInbox.markAll now keys first).1 = (FileCommandInbox.markAll now keys second).1 ∧
      Agree viewer (FileCommandInbox.markAll now keys first).2
        (FileCommandInbox.markAll now keys second).2 := by
  induction keys generalizing first second with
  | nil => exact ⟨rfl, agree⟩
  | cons key rest ih =>
    obtain ⟨here, later⟩ := forall_mem_cons.mp seen
    obtain ⟨command, marked, marked'⟩ := agree.markDelivered here now
    have blind := unnumbered_deliveredEntry now
    obtain ⟨commands, agree'⟩ := ih (agree.updateEntry blind key) fun other mem => by
      rw [keys_view_updateEntry blind]
      exact later other mem
    simp only [FileCommandInbox.markAll, command, marked, marked', commands]
    exact ⟨trivial, agree'⟩

end InboxState

variable {viewer : Viewer} {inbox first second : FileCommandInbox}

theorem Rewritten.view {after} (rewritten : Rewritten inbox after) :
    after.state.view viewer = inbox.state.view viewer := by
  cases rewritten with
  | counted count => rfl
  | compacted ok =>
    simp only [compact, bind_eq_ok, pure_eq_ok] at ok
    obtain ⟨_, -, rfl⟩ := ok
    exact view_filter_order

/-- The records can be appended to the journal: each fits a line, and all of
them fit what is left of the file. -/
def FileCommandInbox.HasRoom (inbox : FileCommandInbox) (records : List InboxRecord) : Prop :=
  records = [] ∨ (∀ record ∈ records, FitsLine record) ∧
    byteLength inbox.journal + byteLength (inboxCodec.text records) ≤ maxInboxFileBytes

instance instDecidableFitsLine (record : InboxRecord) : Decidable (FitsLine record) :=
  inferInstanceAs (Decidable (_ ≤ _))

instance instDecidableHasRoom (inbox : FileCommandInbox) (records : List InboxRecord) :
    Decidable (inbox.HasRoom records) :=
  inferInstanceAs (Decidable (_ ∨ _))

theorem appendBatch_of_room {records} (room : inbox.HasRoom records) :
    ∃ appended, inbox.appendBatch records = .ok appended := by
  rcases room with rfl | ⟨fits, size⟩
  · exact ⟨inbox, rfl⟩
  · exact ⟨_, appendBatch_of_fits fits size⟩

/-- Whatever the reason, a batch is refused with one error. -/
theorem appendBatch_of_full {records} (full : ¬ inbox.HasRoom records) :
    inbox.appendBatch records = .error .inboxCapacity := by
  have nonempty : ¬ records.isEmpty = true := fun empty => full (.inl (isEmpty_iff.mp empty))
  rw [appendBatch, if_neg nonempty]
  cases encoded : encodeRecords records with
  | error e =>
    simp only [encodeRecords, bind_eq_error, ensure_eq_error] at encoded
    rcases encoded with failed | ⟨_, -, ⟨-, rfl⟩ | ⟨_, -, impossible⟩⟩
    · obtain ⟨record, -, long⟩ := forM_eq_error failed
      obtain ⟨-, rfl⟩ := ensure_eq_error.mp long
      rfl
    · rfl
    · cases impossible
  | ok text =>
    obtain ⟨fits, -, rfl⟩ := encodeRecords_eq_ok.mp encoded
    have large : ¬ byteLength inbox.journal + byteLength (unlines (records.map InboxRecord.encode))
        ≤ maxInboxFileBytes := fun size => full (.inr ⟨fits, size⟩)
    rw [ok_bind, decide_eq_false large]
    rfl

/-- The records of a poll. -/
def FileCommandInbox.deliveries (inbox : FileCommandInbox) (viewer : Viewer) (limit : Nat)
    (policy : DeliveryPolicy) (now : UInt64) : List InboxRecord :=
  claimRecords inbox.state
    (inbox.state.deliverable ⟨viewer.agentId, limit⟩ viewer.allows policy now) now

/-- Inboxes that agree on what a caller sees answer its poll alike, and agree
after it, exactly when both or neither have room for its records. -/
theorem claim_alike_iff (agree : Agree viewer first.state second.state) (limit : Nat)
    (policy : DeliveryPolicy) (now : UInt64) (scan scan' : Scan InboxKey UInt64) :
    ((first.claim ⟨viewer.agentId, limit⟩ viewer.allows policy now scan).1 =
        (second.claim ⟨viewer.agentId, limit⟩ viewer.allows policy now scan').1 ∧
      Agree viewer (first.claim ⟨viewer.agentId, limit⟩ viewer.allows policy now scan).2.state
        (second.claim ⟨viewer.agentId, limit⟩ viewer.allows policy now scan').2.state) ↔
      (first.HasRoom (first.deliveries viewer limit policy now) ↔
        second.HasRoom (second.deliveries viewer limit policy now)) := by
  have keys := agree.deliverable limit policy now
  have full {inbox : FileCommandInbox} (scan : Scan InboxKey UInt64)
      (refused : ¬ inbox.HasRoom (inbox.deliveries viewer limit policy now)) :
      inbox.claim ⟨viewer.agentId, limit⟩ viewer.allows policy now scan =
        (.error .inboxCapacity, inbox) := by
    have failed := appendBatch_of_full refused
    rw [FileCommandInbox.deliveries] at failed
    simp only [claim, failed]
  have roomy {inbox : FileCommandInbox} (scan : Scan InboxKey UInt64)
      (room : inbox.HasRoom (inbox.deliveries viewer limit policy now)) :
      (inbox.claim ⟨viewer.agentId, limit⟩ viewer.allows policy now scan).1 =
          .ok (markAll now (inbox.state.deliverable ⟨viewer.agentId, limit⟩ viewer.allows policy
            now) inbox.state).1 ∧
        (inbox.claim ⟨viewer.agentId, limit⟩ viewer.allows policy now scan).2.state.view viewer =
          (markAll now (inbox.state.deliverable ⟨viewer.agentId, limit⟩ viewer.allows policy
            now) inbox.state).2.view viewer := by
    obtain ⟨appended, ok⟩ := appendBatch_of_room room
    rw [claim_eq_ok scan ok]
    have rewritten := compactIfNeeded_rewritten { appended with state := (markAll now
      (inbox.state.deliverable ⟨viewer.agentId, limit⟩ viewer.allows policy now) inbox.state).2 }
      (appended.deliveryRecordsSinceCompaction + (inbox.state.deliverable
        ⟨viewer.agentId, limit⟩ viewer.allows policy now).length) scan
    exact ⟨rfl, rewritten.view⟩
  by_cases room : first.HasRoom (first.deliveries viewer limit policy now)
  · obtain ⟨answer, shown⟩ := roomy scan room
    by_cases room' : second.HasRoom (second.deliveries viewer limit policy now)
    · obtain ⟨answer', shown'⟩ := roomy scan' room'
      obtain ⟨commands, agree'⟩ := agree.markAll now fun key mem =>
        mem_view_of_deliverable mem
      refine iff_of_true ⟨?_, ?_⟩ (iff_of_true room room')
      · rw [answer, answer', commands, keys]
      · rw [Agree, shown, shown', agree', keys]
    · rw [full scan' room', answer]
      exact iff_of_false (fun same => by cases same.1) fun alike => room' (alike.mp room)
  · rw [full scan room]
    by_cases room' : second.HasRoom (second.deliveries viewer limit policy now)
    · rw [(roomy scan' room').1]
      exact iff_of_false (fun same => by cases same.1) fun alike => room (alike.mpr room')
    · rw [full scan' room']
      exact iff_of_true ⟨rfl, agree⟩ (iff_of_false room room')

/-! ### The requests of others -/

/-- A request to the inbox. -/
inductive Request where
  | record (command : PendingCommand)
  | claim (target : PollTarget) (allows : String → String → Bool) (policy : DeliveryPolicy)
      (now : UInt64) (scan : Scan InboxKey UInt64)
  | acknowledge (target : PollTarget) (key : InboxKey) (deliveryAttempt : UInt32) (now : UInt64)
  | cancel (key : InboxKey) (now : UInt64)

/-- The inbox after a request. -/
def FileCommandInbox.serve (inbox : FileCommandInbox) : Request → FileCommandInbox
  | .record command => (inbox.record command).2
  | .claim target allows policy now scan => (inbox.claim target allows policy now scan).2
  | .acknowledge target key deliveryAttempt now =>
      (inbox.acknowledge target key deliveryAttempt now).2
  | .cancel key now => (inbox.cancel key now).2

/-- A request about commands that a caller does not see: one addressed to
another agent or in another scope, the poll of an agent that sees none of them,
the acknowledgement of its own command by another agent, the cancellation of a
command of others. -/
def Viewer.Elsewhere (viewer : Viewer) (inbox : FileCommandInbox) : Request → Prop
  | .record command => viewer.sees command = false
  | .claim target allows _ _ _ =>
      ∀ command, Viewer.sees ⟨target.agentId, allows⟩ command = true →
        viewer.sees command = false
  | .acknowledge target key _ _ =>
      ∀ entry, inbox.state.entries.lookup key = some entry →
        entry.command.agentId = target.agentId → viewer.sees entry.command = false
  | .cancel key _ =>
      ∀ entry, inbox.state.entries.lookup key = some entry → viewer.sees entry.command = false

/-- Marking commands that a caller does not see. -/
theorem view_markAll_unseen (now : UInt64) {keys} {state : InboxState}
    (unseen : ∀ key ∈ keys, ∀ entry, state.entries.lookup key = some entry →
      viewer.sees entry.command = false) :
    (markAll now keys state).2.view viewer = state.view viewer := by
  induction keys generalizing state with
  | nil => rfl
  | cons key rest ih =>
    obtain ⟨here, later⟩ := forall_mem_cons.mp unseen
    change (markAll now rest (state.markDelivered key now).2).2.view viewer = _
    cases found : state.entries.lookup key with
    | none =>
      have same : (state.markDelivered key now).2 = state := by
        simp only [markDelivered, found]
      rw [same]
      exact ih later
    | some entry =>
      have marked : (state.markDelivered key now).2 =
          state.updateEntry key (deliveredEntry now) := by
        simp only [markDelivered, found]
      rw [marked]
      refine (ih fun other mem entry' found' => ?_).trans
        (view_updateEntry_unseen (unnumbered_deliveredEntry now) here)
      -- A marked entry keeps its command.
      simp only [updateEntry, lookup_modify] at found'
      split_ifs at found' with same
      · obtain ⟨stored, found'', rfl⟩ := map_eq_some_iff.mp found'
        exact here stored found''
      · exact later other mem entry' found'

variable {now : UInt64} {key : InboxKey}

/-- An entry that a caller does not see, changed and changed back. -/
theorem view_undone_unseen {state : InboxState} {f g} (forth : Unnumbered f) (back : Unnumbered g)
    (unseen : ∀ entry, state.entries.lookup key = some entry → viewer.sees entry.command = false) :
    ((state.updateEntry key f).updateEntry key g).view viewer = state.view viewer := by
  refine (view_updateEntry_unseen back fun entry found => ?_).trans
    (view_updateEntry_unseen forth unseen)
  simp only [updateEntry, lookup_modify, if_pos] at found
  obtain ⟨stored, found', rfl⟩ := map_eq_some_iff.mp found
  rw [forth.command]
  exact unseen stored found'

/-- A request as an operation. -/
def Request.op : Request → InboxOp
  | .record command => .record command
  | .claim target allows policy now scan => .claim target allows policy now scan
  | .acknowledge target key deliveryAttempt now => .acknowledge target key deliveryAttempt now
  | .cancel key now => .cancel key now

/-- The requests of others leave the view of a caller alone. -/
theorem view_serve {request} (elsewhere : viewer.Elsewhere inbox request) :
    (inbox.serve request).state.view viewer = inbox.state.view viewer := by
  have same : inbox.serve request = inbox.served request.op := by cases request <;> rfl
  have unseen {key : InboxKey} {entry : Entry}
      (found : inbox.state.entries.lookup key = some entry)
      (hidden : viewer.sees entry.command = false) : ∀ stored,
        inbox.state.entries.lookup key = some stored → viewer.sees stored.command = false := by
    intro stored found'
    obtain rfl := Option.some.inj (found.symm.trans found')
    exact hidden
  have turn := turn inbox request.op
  rw [same]
  generalize answers inbox request.op = given, handedOut inbox request.op = handed,
    inbox.served request.op = after at turn
  generalize isOp : request.op = op at turn
  cases turn with
  | still => rfl
  | restored restored =>
    cases request with
    | record | claim =>
      cases isOp
      cases restored
    | acknowledge target key deliveryAttempt now =>
      cases isOp
      obtain ⟨found, fresh, own⟩ := restored
      exact view_undone_unseen ⟨fun _ => rfl, fun _ => rfl⟩ ⟨fun _ => rfl, fun _ => rfl⟩
        (unseen found (elsewhere _ found own))
    | cancel key now =>
      cases isOp
      cases restored
      exact view_undone_unseen (unnumbered_cancelledEntry now) ⟨fun _ => rfl, fun _ => rfl⟩
        elsewhere
  | written writes ok rewritten =>
    rw [rewritten.view]
    cases request with
    | record command =>
      cases isOp
      obtain ⟨_, admitted⟩ := writes
      exact view_insertRecorded_unseen (checkRecordable_eq_none admitted).1 elsewhere
    | claim target allows policy now scan =>
      cases isOp
      cases writes
      refine view_markAll_unseen now fun key mem entry found => elsewhere entry.command ?_
      have chosen := (mem_filter.mp (mem_of_mem_take mem)).2
      rw [found, any_some] at chosen
      exact sees_of_isDeliverable chosen
    | acknowledge target key deliveryAttempt now =>
      cases isOp
      cases writes with
      | acknowledge found own =>
        exact view_updateEntry_unseen ⟨fun _ => rfl, fun _ => rfl⟩
          (unseen found (elsewhere _ found own))
    | cancel key now =>
      cases isOp
      cases writes
      exact view_updateEntry_unseen (unnumbered_cancelledEntry now) elsewhere
  | swept => cases request <;> cases isOp

theorem view_run_serve {requests} (elsewhere : AllSteps serve viewer.Elsewhere inbox requests) :
    (run serve inbox requests).state.view viewer = inbox.state.view viewer := by
  have keep : ∀ (between : FileCommandInbox) (request : Request),
      between.state.view viewer = inbox.state.view viewer → viewer.Elsewhere between request →
      (between.serve request).state.view viewer = inbox.state.view viewer :=
    fun between request same elsewhere => (view_serve elsewhere).trans same
  exact run_of_allSteps keep rfl elsewhere

/-! ### Runs of two inboxes -/

/-- One poll of the caller, made alike on two inboxes, after what others asked
of each of them. -/
structure Round where
  first : List Request
  second : List Request
  limit : Nat
  policy : DeliveryPolicy
  now : UInt64
  firstScan : Scan InboxKey UInt64
  secondScan : Scan InboxKey UInt64

/-- The two inboxes when the poll is made. -/
def Round.before (round : Round) (inboxes : FileCommandInbox × FileCommandInbox) :
    FileCommandInbox × FileCommandInbox :=
  (run serve inboxes.1 round.first, run serve inboxes.2 round.second)

/-- The poll on the first inbox. -/
def Round.pollFirst (viewer : Viewer) (round : Round)
    (inboxes : FileCommandInbox × FileCommandInbox) :
    Except CommandError (List PendingCommand) × FileCommandInbox :=
  (round.before inboxes).1.claim ⟨viewer.agentId, round.limit⟩ viewer.allows round.policy round.now
    round.firstScan

/-- The poll on the second inbox. -/
def Round.pollSecond (viewer : Viewer) (round : Round)
    (inboxes : FileCommandInbox × FileCommandInbox) :
    Except CommandError (List PendingCommand) × FileCommandInbox :=
  (round.before inboxes).2.claim ⟨viewer.agentId, round.limit⟩ viewer.allows round.policy round.now
    round.secondScan

def roundStep (viewer : Viewer) (inboxes : FileCommandInbox × FileCommandInbox) (round : Round) :
    FileCommandInbox × FileCommandInbox :=
  ((round.pollFirst viewer inboxes).2, (round.pollSecond viewer inboxes).2)

/-- Between the polls there are only requests of others. -/
def OthersOnly (viewer : Viewer) (inboxes : FileCommandInbox × FileCommandInbox) (round : Round) :
    Prop :=
  AllSteps serve viewer.Elsewhere inboxes.1 round.first ∧
    AllSteps serve viewer.Elsewhere inboxes.2 round.second

/-- The polls return the same, and leave inboxes that agree. -/
def AnsweredAlike (viewer : Viewer) (inboxes : FileCommandInbox × FileCommandInbox)
    (round : Round) : Prop :=
  (round.pollFirst viewer inboxes).1 = (round.pollSecond viewer inboxes).1 ∧
    Agree viewer (round.pollFirst viewer inboxes).2.state
      (round.pollSecond viewer inboxes).2.state

/-- Both journals have room for the delivery records of the poll, or neither
has. -/
def RoomAlike (viewer : Viewer) (inboxes : FileCommandInbox × FileCommandInbox)
    (round : Round) : Prop :=
  (round.before inboxes).1.HasRoom
      ((round.before inboxes).1.deliveries viewer round.limit round.policy round.now) ↔
    (round.before inboxes).2.HasRoom
      ((round.before inboxes).2.deliveries viewer round.limit round.policy round.now)

/-- Two inboxes agree on what a caller sees and differ in everything else, and
others ask different things of each. The polls of the caller return the same all
along, and leave the inboxes agreeing, exactly when at each of them both
journals have room for its records or neither has. -/
theorem polls_isolated_iff (viewer : Viewer) (first second : FileCommandInbox)
    (agree : Agree viewer first.state second.state) (rounds : List Round)
    (others : AllSteps (roundStep viewer) (OthersOnly viewer) (first, second) rounds) :
    AllSteps (roundStep viewer) (AnsweredAlike viewer) (first, second) rounds ↔
      AllSteps (roundStep viewer) (RoomAlike viewer) (first, second) rounds := by
  have keep : ∀ (inboxes : FileCommandInbox × FileCommandInbox) (round : Round),
      Agree viewer inboxes.1.state inboxes.2.state → OthersOnly viewer inboxes round →
      AnsweredAlike viewer inboxes round →
      Agree viewer (roundStep viewer inboxes round).1.state
        (roundStep viewer inboxes round).2.state :=
    fun _ _ _ _ alike => alike.2
  refine allSteps_iff_allSteps keep ?_ agree others
  rintro inboxes round agree ⟨firstElsewhere, secondElsewhere⟩
  have still : Agree viewer (round.before inboxes).1.state (round.before inboxes).2.state := by
    rw [Agree, Round.before, view_run_serve firstElsewhere, view_run_serve secondElsewhere, agree]
  exact claim_alike_iff still round.limit round.policy round.now round.firstScan round.secondScan

def isolatedViewer : Viewer :=
  ⟨"a", fun workspaceId _ => workspaceId = "w"⟩

/-- An inbox that stored one command of the viewer. -/
def isolatedInbox : FileCommandInbox :=
  (quotaOverrunConfig.fresh.record (quotaOverrunCommand "A")).2

/-- Another agent's poll in one inbox, and another tenant's command in the
other. -/
def isolatedRound : Round where
  first := [.claim ⟨"b", 1⟩ (fun _ _ => true) ⟨1, 8⟩ 5 (Scan.stored _ _)]
  second := [.record { quotaOverrunCommand "B" with workspaceId := "v" }]
  limit := 1
  policy := ⟨1, 8⟩
  now := 10
  firstScan := Scan.stored _ _
  secondScan := Scan.stored _ _

theorem polls_isolated_isolatedRound :
    AllSteps (roundStep isolatedViewer) (AnsweredAlike isolatedViewer)
      (isolatedInbox, isolatedInbox) [isolatedRound] := by
  have others : AllSteps (roundStep isolatedViewer) (OthersOnly isolatedViewer)
      (isolatedInbox, isolatedInbox) [isolatedRound] := by
    refine ⟨⟨⟨fun command seen => ?_, trivial⟩, rfl, trivial⟩, trivial⟩
    have other : command.agentId = "b" := by simpa [Viewer.sees] using seen
    simp [Viewer.sees, isolatedViewer, other]
  refine (polls_isolated_iff isolatedViewer isolatedInbox isolatedInbox rfl [isolatedRound]
    others).mpr ⟨?_, trivial⟩
  apply iff_of_true
  · decide +kernel
  · decide +kernel

/-- The same inbox with text of others in its file. -/
def crowdedInbox (others : List Char) : FileCommandInbox :=
  { isolatedInbox with journal := isolatedInbox.journal ++ others }

theorem state_crowdedInbox (others : List Char) :
    (crowdedInbox others).state = isolatedInbox.state := by
  simp only [crowdedInbox]

theorem claim_crowdedInbox {others} (full : maxInboxFileBytes < 203 + byteLength others + 101) :
    ((crowdedInbox others).claim ⟨"a", 1⟩ isolatedViewer.allows ⟨1, 8⟩ 10 (Scan.stored _ _)).1 =
      .error .inboxCapacity := by
  have records : claimRecords (crowdedInbox others).state
      ((crowdedInbox others).state.deliverable ⟨"a", 1⟩ isolatedViewer.allows ⟨1, 8⟩ 10) 10 =
        [.delivered ⟨"w", "n", "A"⟩ 1 10] := by
    rw [state_crowdedInbox]
    decide +kernel
  have noRoom : ¬ (crowdedInbox others).HasRoom [.delivered ⟨"w", "n", "A"⟩ 1 10] := by
    rintro (empty | ⟨-, room⟩)
    · cases empty
    · have own : byteLength isolatedInbox.journal = 203 := by decide +kernel
      have next : byteLength (inboxCodec.text [.delivered ⟨"w", "n", "A"⟩ 1 10]) = 101 := by
        decide +kernel
      rw [crowdedInbox, byteLength_append, own, next] at room
      exact absurd room (Nat.not_le.mpr full)
  simp only [claim, records, appendBatch_of_full noRoom]

/-- Other tenants fill the file with their records. The poll that the inbox
answers without them is refused. -/
theorem crowdedInbox_refuses :
    let crowded := crowdedInbox (unlines (List.replicate 2949837
      (InboxRecord.encode (.acknowledged ⟨"v", "n", "B"⟩ 0))))
    byteLength crowded.journal ≤ maxInboxFileBytes ∧
      Agree isolatedViewer isolatedInbox.state crowded.state ∧
      (isolatedInbox.claim ⟨"a", 1⟩ isolatedViewer.allows ⟨1, 8⟩ 10 (Scan.stored _ _)).1 =
        .ok [{ quotaOverrunCommand "A" with deliveryAttempt := 1 }] ∧
      (crowded.claim ⟨"a", 1⟩ isolatedViewer.allows ⟨1, 8⟩ 10 (Scan.stored _ _)).1 =
        .error .inboxCapacity := by
  have agree (others : List Char) :
      Agree isolatedViewer isolatedInbox.state (crowdedInbox others).state := by
    rw [state_crowdedInbox, Agree]
  have own : byteLength isolatedInbox.journal = 203 := by decide +kernel
  have line : byteLength (InboxRecord.encode (.acknowledged ⟨"v", "n", "B"⟩ 0)) = 90 := by
    decide +kernel
  refine ⟨?_, agree _, by decide +kernel, claim_crowdedInbox ?_⟩
  · rw [crowdedInbox, byteLength_append, byteLength_unlines_replicate, own, line,
      maxInboxFileBytes]
    omega
  · rw [byteLength_unlines_replicate, line, maxInboxFileBytes]
    omega

end Apex.Inbox
