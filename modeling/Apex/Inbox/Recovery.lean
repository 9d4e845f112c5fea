import Apex.Inbox.Standing

/-!
What an inbox finds when its file is opened again.

`Told` is the invariant: the journal says how every command stands. The
operations of an inbox keep it, and say of each of their answers that it holds
of the standing afterwards (`Answer.HoldsOf`).

A write that fails leaves the beginning of a batch behind and the state as it
was. The loader has no case for a line that is cut off, and a later append would
complete the line instead of starting one: nothing is lost where the write stopped
between two lines (`Durable.crashed`).
-/

namespace Apex.Inbox

open Checked Control Lines Saturating FileCommandInbox Runs InboxState List KeyMap Standing

/-- `serde_json` on the records of the journal. -/
def inboxCodec : LineCodec InboxRecord where
  encode := InboxRecord.encode
  decode := InboxRecord.decode
  decode_encode := InboxRecord.decode_encode
  isLine record := JsonFields.isLine_render record.toJson

/-- The journal says how every command stands. -/
def Told (inbox : FileCommandInbox) : Prop :=
  ∃ records, inbox.journal = inboxCodec.text records ∧
    ∀ key, inbox.state.standing key = Standing.after key .unknown records

/-- An open inbox whose journal tells its state. -/
structure Durable (config : InboxConfig) (inbox : FileCommandInbox) : Prop extends
    OpenWith config inbox where
  told : Told inbox

variable {config : InboxConfig} {inbox : FileCommandInbox}

theorem checkRecordable_known {state : InboxState} {command result}
    (known : state.checkRecordable command = .ok (some result)) :
    state.standing command.key ≠ .unknown := by
  intro unknown
  obtain ⟨notLive, notRetired⟩ := standing_eq_unknown.mp unknown
  rw [checkRecordable, if_neg (not_or.mpr ⟨notLive, notRetired⟩)] at known
  split_ifs at known
  cases known

/-! ### The operations keep what the journal tells -/

variable {appended : FileCommandInbox}

/-- Appended records tell what they did. -/
theorem Told.append {batch} {after : InboxState} (told : Told inbox)
    (ok : inbox.appendBatch batch = .ok appended)
    (stands : ∀ key, after.standing key = Standing.after key (inbox.state.standing key) batch) :
    Told { appended with state := after } := by
  obtain ⟨records, text, tells⟩ := told
  refine ⟨records ++ batch, ?_, ?_⟩
  · rw [(appendBatch_eq_ok ok).1, text]
    exact (inboxCodec.text_append records batch).symm
  · intro key
    rw [stands, tells, after_append]

theorem compact_told {compacted scan} (wf : inbox.state.WellFormed)
    (ok : inbox.compact scan = .ok compacted) :
    Told compacted ∧ ∀ key, compacted.state.standing key = inbox.state.standing key := by
  simp only [compact, bind_eq_ok, encodeRecords_eq_ok, pure_eq_ok] at ok
  obtain ⟨encoded, ⟨-, -, text⟩, rfl⟩ := ok
  exact ⟨⟨_, text, fun key => (after_snapshot wf scan key).symm⟩, fun key => rfl⟩

/-! ### Answers -/

namespace Answer

/-- The answer is still true. A retired command is settled, whatever it was
answered about it. -/
def HoldsOf : Answer → Standing → Prop
  | _, .unknown => False
  | _, .retired => True
  | .recorded command, .live progress => progress.command = command
  | .known _, .live _ => True
  | .delivered _ attempt, .live progress => attempt ≤ progress.attempts
  | .acknowledged _, .live progress => progress.acknowledged = true
  | .cancelled _, .live progress => progress.cancelled = true

theorem HoldsOf.advance {answer : Answer} {before after} (holds : answer.HoldsOf before)
    (advances : before.Advances after) : answer.HoldsOf after := by
  cases before with
  | unknown => cases answer <;> exact holds.elim
  | retired =>
    cases after with
    | retired => exact holds
    | unknown | live => exact advances.elim
  | live p =>
    cases after with
    | unknown => exact advances.elim
    | retired => cases answer <;> trivial
    | live q =>
      obtain ⟨command, attempts, acknowledged, cancelled⟩ := advances
      cases answer with
      | recorded stored => exact command.trans holds
      | known key => trivial
      | delivered key attempt => exact UInt32.le_trans holds attempts
      | acknowledged key => exact acknowledged holds
      | cancelled key => exact cancelled holds

theorem HoldsOf.known_of_tracked {key standing} (tracked : standing ≠ .unknown) :
    (Answer.known key).HoldsOf standing := by
  cases standing with
  | unknown => exact absurd rfl tracked
  | live p => trivial
  | retired => trivial

end Answer

theorem deliverable_nodup {state : InboxState} (wf : state.WellFormed) (target : PollTarget)
    (allows : String → String → Bool) (policy : DeliveryPolicy) (now : UInt64) :
    (state.deliverable target allows policy now).Nodup :=
  (wf.orderNodup.filter _).sublist (take_sublist _ _)

/-- An entry changed and changed back. -/
theorem standing_undone {state : InboxState} {key entry f g}
    (found : state.entries.lookup key = some entry)
    (undone : (g (f entry)).progress = entry.progress) (other : InboxKey) :
    ((state.updateEntry key f).updateEntry key g).standing other = state.standing other := by
  by_cases same : other = key
  · subst same
    rw [standing_of_lookup found, ← undone]
    apply standing_of_lookup
    simp [updateEntry, lookup_modify, found]
  · simp only [InboxState.standing, updateEntry, lookup_modify, if_neg same]
    rfl

/-- A state in which every command stands as before. -/
theorem Told.same {after : InboxState} (told : Told inbox)
    (stands : ∀ key, after.standing key = inbox.state.standing key) :
    Told { inbox with state := after } := by
  obtain ⟨records, text, tells⟩ := told
  exact ⟨records, text, fun key => (stands key).trans (tells key)⟩

/-! ### Turns -/

variable {op : InboxOp} {records : List InboxRecord} {given : List Answer}
  {handed : List PendingCommand} {before changed : InboxState} {after : FileCommandInbox}

theorem Rewritten.told (rewritten : Rewritten inbox after) (told : Told inbox)
    (wf : inbox.state.WellFormed) :
    Told after ∧ ∀ key, after.state.standing key = inbox.state.standing key := by
  cases rewritten with
  | counted count => exact ⟨told, fun _ => rfl⟩
  | compacted ok => exact compact_told wf ok

theorem Restored.standing (restored : Restored before op changed) (key : InboxKey) :
    changed.standing key = before.standing key := by
  cases restored with
  | acknowledge found fresh => exact standing_undone found (by simp [Entry.progress, fresh]) key
  | cancel found fresh =>
    exact standing_undone found (by simp [Entry.progress, cancelledEntry, fresh]) key

theorem undone_standing (inbox : FileCommandInbox) (op : InboxOp) (key : InboxKey) :
    (undone inbox op).standing key = inbox.state.standing key := by
  rcases (attempt inbox op).2 with same | restored
  · rw [same]
  · exact restored.standing key

/-- Everything of a command is afterwards as the records say, but for the time of a
delivery that the clock went back for. -/
theorem Writes.detail (writes : Writes before op records given handed changed) :
    (∃ target allows policy now scan, op = .claim target allows policy now scan ∧
      records = claimRecords before (before.deliverable target allows policy now) now ∧
      changed = (markAll now (before.deliverable target allows policy now) before).2) ∨
    ∀ key, changed.detail key = Detail.after key (before.detail key) records := by
  cases writes with
  | record _ admitted =>
    obtain ⟨notLive, notRetired, -⟩ := checkRecordable_eq_none admitted
    exact .inr (detail_insertRecorded notLive notRetired)
  | claim => exact .inl ⟨_, _, _, _, _, rfl, rfl, rfl⟩
  | acknowledge | cancel =>
    exact .inr (detail_updateEntry _ rfl (fun _ _ => rfl) ⟨rfl, fun _ => rfl⟩)

/-- Every command stands afterwards as the records say. -/
theorem Writes.standing (writes : Writes before op records given handed changed)
    (wf : before.WellFormed) (key : InboxKey) :
    changed.standing key = Standing.after key (before.standing key) records := by
  rcases writes.detail with ⟨target, allows, policy, now, _, -, rfl, rfl⟩ | details
  · exact standing_markAll now (deliverable_nodup wf target allows policy now) key
  · exact standing_of_detail (details key)

theorem Still.holds (still : Still before op given) :
    ∀ answer ∈ given, answer.HoldsOf (before.standing answer.key) := by
  intro answer mem
  cases still with
  | refused => cases mem
  | known known =>
    obtain rfl := mem_singleton.mp mem
    exact .known_of_tracked (checkRecordable_known known)
  | acknowledged found already | cancelled found already =>
    obtain rfl := mem_singleton.mp mem
    rw [Answer.key, standing_of_lookup found]
    exact already

theorem Writes.holds (writes : Writes before op records given handed changed)
    (wf : before.WellFormed) : ∀ answer ∈ given, answer.HoldsOf (changed.standing answer.key) := by
  intro answer mem
  have stands := writes.standing wf answer.key
  cases writes with
  | record _ admitted =>
    obtain rfl := mem_singleton.mp mem
    obtain ⟨notLive, notRetired, -⟩ := checkRecordable_eq_none admitted
    rw [stands, Answer.key, standing_eq_unknown.mpr ⟨notLive, notRetired⟩]
    simp [Standing.after, Standing.note, InboxRecord.key, Standing.noteOwn, Answer.HoldsOf]
  | claim =>
    obtain ⟨command, delivered, rfl⟩ := mem_map.mp mem
    obtain ⟨progress, live, counted⟩ := markAll_delivered _ (deliverable_nodup wf _ _ _ _)
      (fun key entry found => (wf.ownKey key entry found).1) delivered
    rw [Answer.key, live]
    exact counted
  | acknowledge found | cancel found =>
    obtain rfl := mem_singleton.mp mem
    rw [stands, Answer.key, standing_of_lookup found]
    simp [Standing.after, Standing.note, InboxRecord.key, Standing.noteOwn, Answer.HoldsOf]

/-! ### Sweeps -/

/-- A sweep retires what is settled and drops tombstones; it changes nothing
else. -/
theorem standing_swept (state : InboxState) (now cutoff : UInt64) (maxAttempts : UInt32)
    (key : InboxKey) :
    (swept state now cutoff maxAttempts).standing key = .unknown ∨
      (state.standing key).Advances ((swept state now cutoff maxAttempts).standing key) := by
  have retired : (state.standing key).Advances
      ((retireAll state (settled state now cutoff maxAttempts)).standing key) := by
    refine retireSettled_induction (P := fun after =>
      (state.standing key).Advances (after.standing key)) ?_ (.refl _) now cutoff maxAttempts
    intro middle other at_ advanced live
    rw [standing_of_detail (detail_retire at_ key)]
    exact advanced.trans (advances_after key _ _)
  set middle := retireAll state (settled state now cutoff maxAttempts)
  cases found : middle.entries.lookup key with
  | some entry =>
    have same : (middle.removeExpiredRetired cutoff).2.standing key = middle.standing key := by
      rw [standing_of_lookup found]
      exact standing_of_lookup found
    right
    change Standing.Advances _ ((middle.removeExpiredRetired cutoff).2.standing key)
    rw [same]
    exact retired
  | none =>
    by_cases kept : key ∈ (middle.removeExpiredRetired cutoff).2.retired
    · right
      have was : key ∈ middle.retired := by
        obtain ⟨at_, present, -⟩ := mem_retain.mp kept
        exact mem_of_lookup present
      have after : (swept state now cutoff maxAttempts).standing key = .retired := by
        rw [standing_of_notMem (show (swept state now cutoff
          maxAttempts).entries.lookup key = none from found)]
        exact if_pos kept
      rw [standing_of_notMem found, if_pos was] at retired
      rw [after]
      exact retired
    · left
      rw [standing_of_notMem (show (swept state now cutoff
        maxAttempts).entries.lookup key = none from found)]
      exact if_neg kept

/-- What an operation leaves: the journal tells the new state, nothing answered
before is lost but what a sweep drops, and its own answers hold. -/
theorem Turn.accounts (turn : Turn inbox op given handed after) (told : Told inbox)
    (wf : inbox.state.WellFormed) :
    Told after ∧
      (∀ key, after.state.standing key = .unknown ∨
        (inbox.state.standing key).Advances (after.state.standing key)) ∧
      ∀ answer ∈ given, answer.HoldsOf (after.state.standing answer.key) := by
  cases turn with
  | still still => exact ⟨told, fun _ => .inr (.refl _), still.holds⟩
  | restored restored =>
    refine ⟨told.same restored.standing, fun key => .inr ?_, forall_mem_nil _⟩
    rw [restored.standing]
    exact .refl _
  | written writes ok rewritten =>
    have stands := writes.standing wf
    obtain ⟨told', same⟩ := rewritten.told (told.append ok stands) (writes.wellFormed wf)
    refine ⟨told', fun key => .inr ?_, fun answer mem => ?_⟩
    · rw [same, stands]
      exact advances_after key _ _
    · rw [same]
      exact writes.holds wf answer mem
  | @swept now retention maxAttempts _ _ ok =>
    obtain ⟨told', stands⟩ := @compact_told { inbox with
      state := Inbox.swept inbox.state now (sub64 now retention) maxAttempts } _ _
      (wf.swept now (sub64 now retention) maxAttempts) ok
    refine ⟨told', fun key => ?_, forall_mem_nil _⟩
    rw [stands]
    exact standing_swept inbox.state now (sub64 now retention) maxAttempts key

/-! ### Writes that stop early -/

/-- The records an operation has under way, none where its append is refused. -/
def inFlight (inbox : FileCommandInbox) (op : InboxOp) : List InboxRecord :=
  match inbox.appendBatch (appends inbox op) with
  | .error _ => []
  | .ok _ => appends inbox op

/-- An operation whose append stops after `reached` bytes with an error. -/
def failedWrite (inbox : FileCommandInbox) (op : InboxOp) (reached : Nat) : FileCommandInbox :=
  { inbox with
    state := undone inbox op
    journal := inbox.journal ++ takeBytes reached (inboxCodec.text (inFlight inbox op)) }

/-- The file after a crash `reached` bytes into the append of an operation, opened
again. Bytes that end inside a character are no text, and the loader refuses
them. -/
def openCrashed (config : InboxConfig) (inbox : FileCommandInbox) (op : InboxOp)
    (reached : Nat) : Except CommandError FileCommandInbox :=
  match cutBytes reached (inboxCodec.text (inFlight inbox op)) with
  | none => .error .configuration
  | some tail => config.open (inbox.journal ++ tail)

theorem failedWrite_zero (inbox : FileCommandInbox) (op : InboxOp) :
    failedWrite inbox op 0 = { inbox with state := undone inbox op } := by
  have nothing : takeBytes 0 (inboxCodec.text (inFlight inbox op)) = [] := takeBytes_append [] _
  rw [failedWrite, nothing, append_nil]

/-! ### After a crash -/

theorem appendBatch_of_fits {batch} (fits : ∀ record ∈ batch, FitsLine record)
    (size : byteLength inbox.journal + byteLength (inboxCodec.text batch) ≤ maxInboxFileBytes) :
    inbox.appendBatch batch =
      .ok { inbox with journal := inbox.journal ++ inboxCodec.text batch } := by
  cases batch with
  | nil =>
    change Except.ok inbox = .ok { inbox with journal := inbox.journal ++ [] }
    rw [append_nil]
  | cons record rest =>
    have encoded : encodeRecords (record :: rest) = .ok (inboxCodec.text (record :: rest)) := by
      refine encodeRecords_eq_ok.mpr ⟨fits, ?_, rfl⟩
      omega
    simp only [appendBatch, isEmpty_cons, Bool.false_eq_true, if_false, encoded, ok_bind,
      decide_eq_true size, ensure_true]
    rfl

/-- A beginning of what an operation writes can be appended. -/
theorem appendBatch_landed (opened : OpenWith config inbox) {landed}
    (start : landed <+: inFlight inbox op) :
    landed <+: appends inbox op ∧ inbox.appendBatch landed =
      .ok { inbox with journal := inbox.journal ++ inboxCodec.text landed } := by
  unfold inFlight at start
  split at start
  · obtain rfl := prefix_nil.mp start
    constructor
    · exact nil_prefix
    · exact appendBatch_of_fits (forall_mem_nil _) opened.journaled.1
  · next ok =>
      obtain ⟨is, fits, grown⟩ := appendBatch_eq_ok ok
      have size := grown opened.journaled.1
      refine ⟨start, appendBatch_of_fits (fun record mem => fits record (start.subset mem)) ?_⟩
      obtain ⟨rest, whole⟩ := start
      rw [is] at size
      change byteLength (inbox.journal ++ inboxCodec.text (appends inbox op)) ≤ _ at size
      rw [← whole, inboxCodec.text_append, byteLength_append, byteLength_append] at size
      omega

/-- The inbox whose file holds what landed of a batch, and how many live
commands it has. -/
theorem OpenWith.landed (opened : OpenWith config inbox) {landed}
    (start : landed <+: inFlight inbox op) :
    ∃ after, OpenWith config after ∧ after.journal = inbox.journal ++ inboxCodec.text landed ∧
      ∀ scope, after.state.liveCount scope =
        inbox.state.liveCount scope + commandsIn scope landed := by
  obtain ⟨start, part⟩ := appendBatch_landed opened start
  have nothing : commandKeys landed = [] ∧ retiredKeys landed = [] →
      ∃ after, OpenWith config after ∧ after.journal = inbox.journal ++ inboxCodec.text landed ∧
        ∀ scope, after.state.liveCount scope =
          inbox.state.liveCount scope + commandsIn scope landed := by
    intro notes
    have sound := opened.toSound.note (.refl inbox.state) part notes
    refine ⟨_, ⟨sound, opened.capacity, opened.scopeQuota⟩, rfl, fun scope => ?_⟩
    rw [commandsIn, notes.1]
    rfl
  rcases (attempt inbox op).1 with none_ | ⟨_, _, _, writes⟩
  · obtain rfl := prefix_nil.mp (none_ ▸ start)
    exact nothing ⟨rfl, rfl⟩
  rcases writes.kind with ⟨command, is, recordable, admitted, -⟩ | ⟨-, notes⟩
  · rw [is, prefix_cons_iff] at start
    rcases start with rfl | ⟨rest, rfl, empty⟩
    · exact nothing ⟨rfl, rfl⟩
    · obtain rfl := prefix_nil.mp empty
      obtain ⟨fresh, -⟩ := checkRecordable_eq_none admitted
      refine ⟨_, ⟨opened.toSound.recorded recordable admitted part, opened.capacity,
        opened.scopeQuota⟩, rfl, fun scope => ?_⟩
      change KeyMap.countKeys (AList.insert command.key _ inbox.state.entries) _ = _
      rw [countKeys_insert_of_notMem fresh]
      simp [liveCount, commandsIn, commandKeys, countP_cons]
  · refine nothing ⟨?_, ?_⟩
    · exact sublist_nil.mp (notes.1 ▸ start.sublist.filterMap _)
    · exact sublist_nil.mp (notes.2 ▸ start.sublist.filterMap _)

/-- A file of whole records is opened into what they tell, while no scope has more
live commands than its quota. -/
theorem OpenWith.reopen_told (opened : OpenWith config inbox)
    (text : inbox.journal = inboxCodec.text records)
    (within : ∀ scope, inbox.state.liveCount scope ≤ config.scopeQuota) :
    ∃ reopened, config.open inbox.journal = .ok reopened ∧ Durable config reopened ∧
      ∀ key, reopened.state.standing key = Standing.after key .unknown records := by
  obtain ⟨sound, accepted⟩ := opened.reopen
  obtain ⟨reopened, ok⟩ := accepted.mpr within
  obtain ⟨size, others, othersText, represents⟩ := opened.journaled
  obtain rfl : others = records := inboxCodec.text_injective (othersText.symm.trans text)
  obtain ⟨state, loaded, rfl⟩ := (InboxConfig.open_eq_ok size).mp ok
  have read : lines inbox.journal = others.map InboxRecord.encode := by
    rw [text]
    exact lines_unlines (inboxCodec.isLines _)
  rw [load, read, foldlM_loadLine represents.fits] at loaded
  exact ⟨_, ok, ⟨(sound _ ok).1, others, text, standing_replay loaded⟩, standing_replay loaded⟩

/-- After a crash that stopped the write between two lines the file is accepted,
while no scope is left with more live commands than its quota; nothing is lost. -/
theorem Durable.crashed (durable : Durable config inbox) {reached landed}
    (stops : inboxCodec.Stops reached (inFlight inbox op) landed)
    (within : ∀ scope, inbox.state.liveCount scope + commandsIn scope landed ≤
      config.scopeQuota) :
    ∃ reopened, openCrashed config inbox op reached = .ok reopened ∧ Durable config reopened ∧
      ∀ key, (inbox.state.standing key).Advances (reopened.state.standing key) := by
  obtain ⟨records, text, tells⟩ := durable.told
  obtain ⟨after, opened, journal, counts⟩ := durable.toOpenWith.landed stops.1
  have landedText : after.journal = inboxCodec.text (records ++ landed) := by
    rw [journal, text, inboxCodec.text_append]
  obtain ⟨reopened, ok, durable', stands⟩ :=
    opened.reopen_told landedText fun scope => (counts scope).trans_le (within scope)
  refine ⟨reopened, ?_, durable', fun key => ?_⟩
  · rw [journal] at ok
    simpa only [openCrashed, stops.2] using ok
  · rw [stands, after_append, ← tells]
    exact advances_after key _ _

end Apex.Inbox
