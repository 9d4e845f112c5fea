import Apex.Identifiers
import Apex.Lib.Checked
import Apex.Lib.Retention
import Apex.Lib.Runs

/-!
The runtime agent's record of one proxy: which command is bound to which
operation, and which instance serves it.

`select` takes a retry of the current operation and `advance` a new one.

* `accepted_of_select`, `accepted_of_advance`: what an accepted call found and did.
* `records_continue`: along every run of calls, an answer has the claims of its call,
  a command is bound to one operation for good, generations and fencing tokens never
  decrease, retries keep the instance, and every record can be loaded again.
-/

namespace Apex.Agent

open Checked Runs List

structure RuntimeTarget where
  workspaceId : String
  namespaceId : String
  proxyId : String
  revisionId : String
  generation : Nat
  fencingToken : Nat
  deriving DecidableEq, Repr

structure RuntimeReconcileRequest where
  schemaVersion : Nat
  target : Option RuntimeTarget
  operationId : String
  commandId : String
  configHash : String
  deriving DecidableEq, Repr

/-- The record of one proxy. `ι` is what is installed of an instance, which the
record only hands on. `commands` is the map of that name with `replay_floor`. -/
structure Record (ι : Type) where
  schemaVersion : Nat
  installation : String
  claims : RuntimeReconcileRequest
  instanceId : String
  original : RuntimeReconcileRequest
  installed : Option ι
  predecessor : Option ι
  commands : Retention String String

namespace Record

variable {ι : Type}

def maxCommands : Nat := 64

def refused : String := "RUNTIME_JOURNAL_REFUSED"

/-- `retain_command`. -/
def retainCommand (record : Record ι) (claims : RuntimeReconcileRequest) :
    Except String (Retention String String) :=
  (Retention.retain maxCommands claims.commandId claims.operationId record.commands).mapError
    fun
      | .expired => "RUNTIME_COMMAND_REPLAY_EXPIRED"
      | .bound => refused

/-- `select`: `fresh` is the identifier a new record's instance gets. -/
def select (installation : String) (claims : RuntimeReconcileRequest) (fresh : String)
    (old : Option (Record ι)) : Except String (Record ι) := do
  let target ← require claims.target refused
  match old with
  | some old =>
      let previous ← require old.claims.target refused
      ensure (old.schemaVersion == 1 && old.installation == installation &&
        previous.workspaceId == target.workspaceId &&
        previous.namespaceId == target.namespaceId && previous.proxyId == target.proxyId &&
        previous.fencingToken ≤ target.fencingToken &&
        claims.operationId == old.claims.operationId &&
        target.generation == previous.generation && target.revisionId == previous.revisionId &&
        claims.configHash == old.claims.configHash &&
        (old.commands.bindings.lookup claims.commandId).all (· == claims.operationId)) refused
      let commands ← old.retainCommand claims
      return { old with commands, claims }
  | none =>
      return { schemaVersion := 1, installation, claims, instanceId := fresh, original := claims,
               installed := none, predecessor := none,
               commands := ⟨AList.insert claims.commandId claims.operationId ∅, none⟩ }

/-- `advance`. -/
def advance (record : Record ι) (claims : RuntimeReconcileRequest) (serving : Bool)
    (fresh : String) : Except String (Record ι) := do
  let a ← require record.claims.target refused
  let b ← require claims.target refused
  ensure (a.workspaceId == b.workspaceId && a.namespaceId == b.namespaceId &&
    a.proxyId == b.proxyId && a.generation < b.generation && a.fencingToken < b.fencingToken &&
    claims.operationId != record.claims.operationId &&
    (record.commands.bindings.lookup claims.commandId).isNone) refused
  let commands ← record.retainCommand claims
  if serving then
    ensure record.predecessor.isNone "RUNTIME_JOURNAL_CAPACITY"
    return { record with
      commands, predecessor := record.installed, installed := none, instanceId := fresh,
      original := claims, claims }
  else return { record with commands, claims }

end Record

/-! ### Loading -/

/-- `validation::request`, with `check_runtime_target`. -/
def validRequest (body : RuntimeReconcileRequest) : Bool :=
  body.target.any fun t =>
    body.schemaVersion == 1 && isScopeIdentifier t.workspaceId && isScopeIdentifier t.namespaceId &&
      isLowercaseUuidV7 t.proxyId && isLowercaseUuidV7 t.revisionId &&
      t.generation != 0 && t.generation < 2 ^ 63 && t.fencingToken != 0 &&
      t.fencingToken < 2 ^ 63 && isLowercaseUuidV7 body.operationId &&
      isLowercaseUuidV7 body.commandId &&
      body.configHash.utf8ByteSize == 64 && body.configHash.toList.all Text.isLowerHex

/-- The checks `load` makes of a decoded record, those of its file's name and of
what is installed apart. -/
def Record.loads {ι : Type} (installation : String) (record : Record ι) : Bool :=
  record.schemaVersion == 1 && record.installation == installation &&
    isLowercaseUuidV7 record.instanceId && record.commands.bindings.keys.length ≤ 64 &&
    !record.commands.bindings.keys.isEmpty &&
    (record.commands.floor.all fun floor =>
      isLowercaseUuidV7 floor && record.commands.bindings.keys.all (floor < ·)) &&
    (record.commands.bindings.entries.all fun entry =>
      isLowercaseUuidV7 entry.1 && isLowercaseUuidV7 entry.2) &&
    record.commands.bindings.lookup record.claims.commandId == some record.claims.operationId &&
    validRequest record.claims && validRequest record.original

/-! ### Accepted calls -/

section Cases

variable {ι : Type} {installation fresh : String} {claims : RuntimeReconcileRequest}
  {serving : Bool} {old after : Record ι}

theorem retainCommand_eq_ok {commands} :
    old.retainCommand claims = .ok commands ↔
      Retention.retain Record.maxCommands claims.commandId claims.operationId old.commands =
        .ok commands :=
  mapError_eq_ok

/-- A record follows another one. -/
structure Continues (earlier later : Record ι) : Prop where
  ordered : ∃ a b, earlier.claims.target = some a ∧ later.claims.target = some b ∧
    (a.workspaceId = b.workspaceId ∧ a.namespaceId = b.namespaceId ∧ a.proxyId = b.proxyId) ∧
    a.generation ≤ b.generation ∧ a.fencingToken ≤ b.fencingToken
  retried : later.claims.operationId = earlier.claims.operationId →
    later.instanceId = earlier.instanceId ∧ later.original = earlier.original

/-- What an accepted call on a record makes of it. -/
structure Accepted (old : Record ι) (claims : RuntimeReconcileRequest) (fresh : String)
    (after : Record ι) : Prop where
  claimed : after.claims = claims
  kept : after.schemaVersion = old.schemaVersion ∧ after.installation = old.installation
  named : after.instanceId = old.instanceId ∨ after.instanceId = fresh
  origin : after.original = old.original ∨ after.original = claims
  continues : Continues old after
  retained : Retention.retain Record.maxCommands claims.commandId claims.operationId old.commands =
    .ok after.commands

theorem accepted_of_select (ok : Record.select installation claims fresh (some old) = .ok after) :
    Accepted old claims fresh after := by
  simp only [Record.select, bind_eq_ok, require_eq_ok, ensure_eq_ok, pure_eq_ok,
    retainCommand_eq_ok, Bool.and_eq_true, beq_iff_eq, decide_eq_true_eq] at ok
  obtain ⟨target, isTarget, previous, isPrevious, _, checks, commands, retained, rfl⟩ := ok
  obtain ⟨⟨⟨⟨⟨⟨⟨⟨-, workspace⟩, «namespace»⟩, proxy⟩, fencing⟩, -⟩, generation⟩, -⟩, -⟩ := checks.1
  exact ⟨rfl, ⟨rfl, rfl⟩, .inl rfl, .inl rfl,
    ⟨⟨previous, target, isPrevious, isTarget, ⟨workspace, «namespace», proxy⟩, generation.ge,
      fencing⟩, fun _ => ⟨rfl, rfl⟩⟩, retained⟩

theorem accepted_of_advance (ok : old.advance claims serving fresh = .ok after) :
    Accepted old claims fresh after := by
  simp only [Record.advance, bind_eq_ok, require_eq_ok, ensure_eq_ok, retainCommand_eq_ok,
    Bool.and_eq_true, decide_eq_true_eq, beq_iff_eq, bne_iff_ne] at ok
  obtain ⟨a, isA, b, isB, _,
    ⟨⟨⟨⟨⟨⟨workspace, «namespace»⟩, proxy⟩, generation⟩, fencing⟩, apart⟩, -⟩, commands, retained,
    rest⟩ := ok
  have ordered : ∃ a b, old.claims.target = some a ∧ claims.target = some b ∧
      (a.workspaceId = b.workspaceId ∧ a.namespaceId = b.namespaceId ∧ a.proxyId = b.proxyId) ∧
      a.generation ≤ b.generation ∧ a.fencingToken ≤ b.fencingToken :=
    ⟨a, b, isA, isB, ⟨workspace, «namespace», proxy⟩, generation.le, fencing.le⟩
  -- an advance is never a retry
  cases serving with
  | true =>
    simp only [if_true, bind_eq_ok, ensure_eq_ok, pure_eq_ok] at rest
    obtain ⟨_, -, rfl⟩ := rest
    exact ⟨rfl, ⟨rfl, rfl⟩, .inr rfl, .inr rfl, ⟨ordered, fun same => absurd same apart⟩, retained⟩
  | false =>
    simp only [Bool.false_eq_true, if_false, pure_eq_ok] at rest
    subst rest
    exact ⟨rfl, ⟨rfl, rfl⟩, .inl rfl, .inl rfl, ⟨ordered, fun same => absurd same apart⟩, retained⟩

end Cases

/-! ### Runs -/

/-- One call, or a change the rest of the agent makes to what is installed. A fresh
instance identifier is always a lowercase UUIDv7. -/
inductive Call (ι : Type) where
  | select (claims : RuntimeReconcileRequest)
      (fresh : { text : String // isLowercaseUuidV7 text = true })
  | advance (claims : RuntimeReconcileRequest) (serving : Bool)
      (fresh : { text : String // isLowercaseUuidV7 text = true })
  | stage (installed predecessor : Option ι)

def Call.claims {ι : Type} : Call ι → Option RuntimeReconcileRequest
  | .select claims _ | .advance claims _ _ => some claims
  | .stage _ _ => none

/-- The call's claims pass the service's validation. -/
def Call.Valid {ι : Type} : Call ι → Prop
  | .select claims _ => validRequest claims = true
  | .advance claims _ _ => validRequest claims = true
  | .stage _ _ => True

instance {ι : Type} : DecidablePred (Call.Valid : Call ι → Prop)
  | .select _ _ => inferInstanceAs (Decidable (_ = true))
  | .advance _ _ _ => inferInstanceAs (Decidable (_ = true))
  | .stage _ _ => inferInstanceAs (Decidable True)

/-- The proxy's record, and every record a call answered with. -/
structure History (ι : Type) where
  record : Option (Record ι)
  log : List (Record ι)

namespace History

variable {ι : Type}

def empty : History ι := ⟨none, []⟩

def push (history : History ι) : Except String (Record ι) → History ι
  | .ok record => ⟨some record, history.log ++ [record]⟩
  | .error _ => history

def step (installation : String) (history : History ι) : Call ι → History ι
  | .select claims fresh => history.push (Record.select installation claims fresh history.record)
  | .advance claims serving fresh =>
      match history.record with
      | some record => history.push (record.advance claims serving fresh)
      | none => history
  | .stage installed predecessor =>
      { history with record := history.record.map ({ · with installed, predecessor }) }

/-- The call is refused, or answers with a record of its claims. -/
def Answers (installation : String) (history : History ι) (call : Call ι) : Prop :=
  (history.step installation call).log = history.log ∨
    ∃ record, (history.step installation call).log = history.log ++ [record] ∧
      call.claims = some record.claims

/-- The command of a record and its operation. -/
def binding (record : Record ι) : String × String :=
  (record.claims.commandId, record.claims.operationId)

/-- The memory checks of a load. -/
structure Retained (record : Record ι) : Prop where
  bounded : record.commands.bindings.keys.length ≤ 64
  above : ∀ floor ∈ record.commands.floor, ∀ id ∈ record.commands.bindings, floor < id
  bound : record.commands.bindings.lookup record.claims.commandId = some record.claims.operationId

/-- One command is bound to one operation. -/
def Agree (a b : Record ι) : Prop :=
  a.claims.commandId = b.claims.commandId → a.claims.operationId = b.claims.operationId

instance : Std.Symm (@Agree ι) := ⟨fun _ _ agree same => (agree same.symm).symm⟩

/-- What holds after every run. `latest` ties the record to the last answer. -/
structure Consistent (history : History ι) : Prop where
  chained : history.log.IsChain Continues
  single : history.log.Pairwise Agree
  latest : ∀ last ∈ history.log.getLast?, ∃ record ∈ history.record,
    last.claims = record.claims ∧ last.instanceId = record.instanceId ∧
      last.original = record.original
  remembers : ∀ record ∈ history.record,
    record.commands.Remembers Record.maxCommands (history.log.map binding)
  retained : ∀ record ∈ history.record, Retained record

theorem consistent_empty : Consistent (empty : History ι) where
  chained := isChain_nil
  single := .nil
  latest := nofun
  remembers := nofun
  retained := nofun

variable {history : History ι} {old after : Record ι} {claims : RuntimeReconcileRequest}
  {installation fresh : String}

/-- A record begins only where there is none, so nothing is logged yet. -/
theorem Consistent.begin (consistent : history.Consistent) (absent : history.record = none)
    (ok : Record.select installation claims fresh none = .ok after) :
    (history.push (.ok after)).Consistent := by
  have unlogged : history.log = [] := by
    apply List.getLast?_eq_none_iff.mp
    apply Option.eq_none_iff_forall_not_mem.mpr
    intro last logged
    obtain ⟨record, is, -⟩ := consistent.latest last logged
    exact nomatch absent.symm.trans is
  simp only [Record.select, bind_eq_ok, require_eq_ok, pure_eq_ok] at ok
  obtain ⟨target, -, rfl⟩ := ok
  have first : Retention.Remembers Record.maxCommands [(claims.commandId, claims.operationId)]
      ⟨AList.insert claims.commandId claims.operationId ∅, none⟩ :=
    Retention.remembers_first (by decide)
  refine ⟨?_, ?_, ?_, ?_, ?_⟩ <;> simp only [push, unlogged, nil_append]
  · exact isChain_singleton _
  · exact pairwise_singleton _ _
  · rintro _ ⟨⟩
    exact ⟨_, rfl, rfl, rfl, rfl⟩
  · rintro _ ⟨⟩
    exact first
  · rintro _ ⟨⟩
    exact ⟨first.bounded, first.above, AList.lookup_insert _⟩

theorem Consistent.accept (consistent : history.Consistent) (is : history.record = some old)
    (accepted : Accepted old claims fresh after) : (history.push (.ok after)).Consistent := by
  have remembers := consistent.remembers old is
  have kept := remembers.retain accepted.retained
  have bound := Retention.lookup_of_retain accepted.retained
  obtain rfl := accepted.claimed
  refine ⟨?_, ?_, ?_, ?_, ?_⟩ <;> simp only [push]
  · refine isChain_append.mpr ⟨consistent.chained, isChain_singleton _, ?_⟩
    rintro last logged _ ⟨⟩
    obtain ⟨record, isRecord, sameClaims, sameInstance, sameOriginal⟩ :=
      consistent.latest last logged
    obtain rfl := Option.some.inj (is.symm.trans isRecord)
    obtain ⟨ordered, retried⟩ := accepted.continues
    exact ⟨sameClaims ▸ ordered, by rw [sameClaims, sameInstance, sameOriginal]; exact retried⟩
  · refine pairwise_append.mpr ⟨consistent.single, pairwise_singleton _ _, ?_⟩
    intro earlier logged last isLast same
    obtain rfl := mem_singleton.mp isLast
    apply remembers.unchanged accepted.retained
    rw [← same]
    exact mem_map_of_mem logged
  · intro last isLast
    rw [List.getLast?_concat] at isLast
    obtain rfl := Option.some.inj isLast
    exact ⟨after, rfl, rfl, rfl, rfl⟩
  · rintro _ ⟨⟩
    rw [map_append]
    exact kept
  · rintro _ ⟨⟩
    exact ⟨kept.bounded, kept.above, bound⟩

theorem Consistent.push {answer} (consistent : history.Consistent)
    (accept : ∀ after, answer = .ok after → (history.push (.ok after)).Consistent) :
    (history.push answer).Consistent := by
  cases answer with
  | error e => exact consistent
  | ok after => exact accept after rfl

theorem Consistent.step (consistent : history.Consistent) (call : Call ι) :
    (history.step installation call).Consistent := by
  obtain ⟨record, log⟩ := history
  cases call with
  | select claims fresh =>
    apply consistent.push
    intro after ok
    cases record with
    | none => exact consistent.begin rfl ok
    | some old => exact consistent.accept rfl (accepted_of_select ok)
  | advance claims serving fresh =>
    cases record with
    | none => exact consistent
    | some old =>
      apply consistent.push
      intro after ok
      exact consistent.accept rfl (accepted_of_advance ok)
  | stage installed predecessor =>
    cases record with
    | none => exact consistent
    | some old =>
      refine ⟨consistent.chained, consistent.single, fun last logged => ?_, ?_, ?_⟩
      · obtain ⟨_, ⟨⟩, same⟩ := consistent.latest last logged
        exact ⟨_, rfl, same⟩
      · rintro _ ⟨⟩
        exact consistent.remembers old rfl
      · rintro _ ⟨⟩
        obtain ⟨bounded, above, bound⟩ := consistent.retained old rfl
        exact ⟨bounded, above, bound⟩

theorem push_answers {answer} (claimed : ∀ after, answer = .ok after → after.claims = claims) :
    (history.push answer).log = history.log ∨
      ∃ record, (history.push answer).log = history.log ++ [record] ∧
        some claims = some record.claims := by
  cases answer with
  | error e => exact .inl rfl
  | ok after => exact .inr ⟨after, rfl, congrArg some (claimed after rfl).symm⟩

theorem answers_step (installation : String) (history : History ι) (call : Call ι) :
    history.Answers installation call := by
  obtain ⟨record, log⟩ := history
  cases call with
  | select claims fresh =>
    refine push_answers fun after ok => ?_
    cases record with
    | some old => exact (accepted_of_select ok).claimed
    | none =>
      simp only [Record.select, bind_eq_ok, require_eq_ok, pure_eq_ok] at ok
      obtain ⟨target, -, rfl⟩ := ok
      rfl
  | advance claims serving fresh =>
    cases record with
    | none => exact .inl rfl
    | some old => exact push_answers fun after ok => (accepted_of_advance ok).claimed
  | stage installed predecessor => exact .inl rfl

/-- The shapes a load checks, of a record whose claims were validated. -/
structure Shaped (installation : String) (record : Record ι) : Prop where
  version : record.schemaVersion = 1
  installed : record.installation = installation
  named : isLowercaseUuidV7 record.instanceId = true
  claims : validRequest record.claims = true
  original : validRequest record.original = true
  commands : record.commands.Each fun id operation =>
    isLowercaseUuidV7 id = true ∧ isLowercaseUuidV7 operation = true

theorem uuids_of_validRequest (valid : validRequest claims = true) :
    isLowercaseUuidV7 claims.commandId = true ∧ isLowercaseUuidV7 claims.operationId = true := by
  unfold validRequest at valid
  obtain ⟨target, -, checks⟩ := (Option.any_eq_true _ _).mp valid
  simp only [Bool.and_eq_true] at checks
  exact ⟨checks.1.1.2, checks.1.1.1.2⟩

theorem loads_of_shaped {record : Record ι} (shaped : Shaped installation record)
    (retained : Retained record) : record.loads installation = true := by
  have bound : record.claims.commandId ∈ record.commands.bindings.keys :=
    AList.mem_keys.mp (KeyMap.mem_of_lookup retained.bound)
  simp only [Record.loads, shaped.version, shaped.installed, shaped.named, shaped.claims,
    shaped.original, retained.bound, BEq.rfl, Bool.true_and, Bool.and_true, Bool.and_eq_true,
    decide_eq_true_eq, retained.bounded, true_and]
  refine ⟨⟨?_, ?_⟩, ?_⟩
  · rw [Bool.not_eq_true', isEmpty_eq_false_iff]
    exact ne_nil_of_mem bound
  · rw [Option.all_eq_true]
    intro floor is
    obtain ⟨operation, uuid, -⟩ := shaped.commands.2 floor is
    rw [uuid, Bool.true_and, all_eq_true]
    intro id held
    exact decide_eq_true (retained.above floor is id (AList.mem_keys.mpr held))
  · rw [all_eq_true]
    intro entry held
    rw [Bool.and_eq_true]
    exact shaped.commands.1 entry.1 entry.2 (KeyMap.mem_lookup_iff.mpr held)

theorem shaped_of_accepted (shaped : Shaped installation old) (valid : validRequest claims = true)
    (uuid : isLowercaseUuidV7 fresh = true) (accepted : Accepted old claims fresh after) :
    Shaped installation after where
  version := accepted.kept.1.trans shaped.version
  installed := accepted.kept.2.trans shaped.installed
  named := by rcases accepted.named with is | is <;> rw [is]; exacts [shaped.named, uuid]
  claims := accepted.claimed ▸ valid
  original := by rcases accepted.origin with is | is <;> rw [is]; exacts [shaped.original, valid]
  commands := shaped.commands.retain (uuids_of_validRequest valid) accepted.retained

def AllShaped (installation : String) (history : History ι) : Prop :=
  ∀ record ∈ history.record, Shaped installation record

theorem shaped_step (shaped : history.AllShaped installation) {call : Call ι}
    (valid : call.Valid) : (history.step installation call).AllShaped installation := by
  obtain ⟨record, log⟩ := history
  cases call with
  | select claims fresh =>
    simp only [History.step]
    cases ok : Record.select installation claims fresh.1 record with
    | error e => exact shaped
    | ok after =>
      rintro _ ⟨⟩
      cases record with
      | some old => exact shaped_of_accepted (shaped old rfl) valid fresh.2 (accepted_of_select ok)
      | none =>
        simp only [Record.select, bind_eq_ok, require_eq_ok, pure_eq_ok] at ok
        obtain ⟨target, -, rfl⟩ := ok
        refine ⟨rfl, rfl, fresh.2, valid, valid, ?_, by rintro _ ⟨⟩⟩
        exact KeyMap.each_empty.insert (uuids_of_validRequest valid)
  | advance claims serving fresh =>
    cases record with
    | none => exact shaped
    | some old =>
      simp only [History.step]
      cases ok : old.advance claims serving fresh.1 with
      | error e => exact shaped
      | ok after =>
        rintro _ ⟨⟩
        exact shaped_of_accepted (shaped old rfl) valid fresh.2 (accepted_of_advance ok)
  | stage installed predecessor =>
    cases record with
    | none => exact shaped
    | some old =>
      rintro _ ⟨⟩
      obtain ⟨version, installed, named, claims, original, commands⟩ := shaped old rfl
      exact ⟨version, installed, named, claims, original, commands⟩

theorem allShaped_run {calls : List (Call ι)} (valid : ∀ call ∈ calls, call.Valid) :
    (run (step installation) empty calls).AllShaped installation := by
  apply run_of_allSteps _ _ (allSteps_of_forall valid)
  · intro history call shaped valid
    exact shaped_step shaped valid
  · rintro _ ⟨⟩

end History

open History

/-- **One record.** Every call of a run that is not refused answers with a record of
its claims. The answered records follow one another, for one proxy, with generations
and fencing tokens that never decrease and retries that keep the instance and the
original claims; a command is never bound to two operations,
also when the memory has dropped it; and the record passes the checks of a load,
those of the identifiers' shapes where the claims were validated. -/
theorem records_continue {ι : Type} (installation : String) (calls : List (Call ι)) :
    let history := run (History.step installation) History.empty calls
    AllSteps (History.step installation) (Answers installation) History.empty calls ∧
      history.log.IsChain Continues ∧
      (∀ a ∈ history.log, ∀ b ∈ history.log, a.claims.commandId = b.claims.commandId →
        a.claims.operationId = b.claims.operationId) ∧
      ∀ record ∈ history.record, Retained record ∧
        ((∀ call ∈ calls, call.Valid) → record.loads installation = true) := by
  intro history
  have consistent : history.Consistent :=
    run_of_allSteps (fun _ call consistent _ => consistent.step call) consistent_empty
      (allSteps_of_forall fun _ _ => trivial)
  refine ⟨?_, consistent.chained, ?_, fun record is => ⟨consistent.retained record is, ?_⟩⟩
  · exact allSteps_of_step (fun _ call consistent => consistent.step call)
      (fun history call _ => answers_step installation history call) consistent_empty calls
  · intro a logged b loggedB
    exact consistent.single.forall_of_forall (fun _ _ _ => rfl) logged loggedB
  · intro valid
    exact loads_of_shaped (allShaped_run valid record is) (consistent.retained record is)

/-- A proxy's first command, at the given generation of its runtime. -/
def sampleClaims (operation command : String) (generation : Nat) : RuntimeReconcileRequest where
  schemaVersion := 1
  target := some
    { workspaceId := "w", namespaceId := "n",
      proxyId := "0190a000-0000-7000-8000-000000000001",
      revisionId := "0190a000-0000-7000-8000-000000000002", generation, fencingToken := generation }
  operationId := operation
  commandId := command
  configHash := "0123456789abcdef0123456789abcdef0123456789abcdef0123456789abcdef"

/-- A command of a retry. -/
def sampleRetry (i : Nat) : String :=
  String.ofList (Nat.toDigits 10 (i + 10) ++ "90a000-0000-7000-8000-000000000004".toList)

/-- Start an operation, retry it with 64 more commands, the last of which drops the
first one from the memory, and go on to the next operation. -/
def sampleCalls : List (Call Unit) :=
  (List.range 65).map (fun i => .select (sampleClaims "0190a000-0000-7000-8000-000000000003"
      (sampleRetry i) 1) ⟨"0190a000-0000-7000-8000-000000000005", by decide⟩) ++
    [.advance (sampleClaims "0190a000-0000-7000-8000-000000000006"
      "7790a000-0000-7000-8000-000000000007" 2) true
      ⟨"0190a000-0000-7000-8000-000000000008", by decide⟩]

theorem sampleCalls_valid : ∀ call ∈ sampleCalls, call.Valid := by
  have retried : ∀ i < 65, isLowercaseUuidV7 (sampleRetry i) = true := by
    simp only [isLowercaseUuidV7, sampleRetry, String.toList_ofList]
    decide +kernel
  have claimed {command : String} (valid : isLowercaseUuidV7 command = true) :
      validRequest (sampleClaims "0190a000-0000-7000-8000-000000000003" command 1) = true := by
    simp only [validRequest, sampleClaims, Option.any_some, valid]
    decide +kernel
  intro call mem
  rcases mem_append.mp mem with selected | advanced
  · obtain ⟨i, is, rfl⟩ := mem_map.mp selected
    exact claimed (retried i (mem_range.mp is))
  · cases mem_singleton.mp advanced
    decide +kernel

theorem records_continue_sampleCalls :
    (run (History.step "i") History.empty sampleCalls).log.length = 66 ∧
      ∀ record ∈ (run (History.step "i") History.empty sampleCalls).record,
        record.commands.floor = some (sampleRetry 1) ∧ record.loads "i" = true := by
  have observed : (run (History.step "i") History.empty sampleCalls).log.length = 66 ∧
      ∀ record ∈ (run (History.step "i") History.empty sampleCalls).record,
        record.commands.floor = some (sampleRetry 1) := by
    decide +kernel
  refine ⟨observed.1, fun record is => ⟨observed.2 record is, ?_⟩⟩
  exact ((records_continue "i" sampleCalls).2.2.2 record is).2 sampleCalls_valid

end Apex.Agent
