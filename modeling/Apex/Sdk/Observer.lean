import Apex.Lib.Runs

/-!
The bounded observer: emitting threads, closing threads and the worker that
drains the queue into the sink.

One action is one section that the source runs under a lock, or one call of the
queue or of the sink, so a list of actions is an interleaving of the threads. A
queued snapshot is named by the call that put it.

The worker looks at the closed flag only after the queue timed out empty, and an
event can be put, and the observer closed, between the two: the worker then shuts
the sink with the event still queued, and `close` reports a full drain
(`close_misses_late_event`). Where the flag is found set only with an empty queue
every accepted event is written once before the sink is closed
(`accepted_events_written`).
-/

namespace Apex.Observer

open Runs List

variable {Event : Type}

/-- How `validate_event` and the copy of the event end. -/
inductive Snapshot where
  | taken
  | invalid
  | uncopyable
  deriving DecidableEq, Repr

/-- How one call of the sink's `write` ends. An exception that is no `Exception`
is not caught by the worker. -/
inductive WriteOutcome where
  | exported
  | failed
  | fatal
  deriving DecidableEq, Repr

/-- A call of `emit`; it has no result between its two locked sections. -/
structure EmitCall (Event : Type) where
  event : Event
  result : Option Bool
  deriving DecidableEq, Repr

inductive WorkerPhase where
  /-- In `queue.get`. -/
  | waiting
  /-- `Empty` was raised; the flag is not read yet. -/
  | timedOut
  | writing (call : Nat)
  /-- The flag was found set; the sink is about to be closed. -/
  | closing
  | dead
  deriving DecidableEq, Repr

inductive SinkCall where
  | write (call : Nat)
  | close
  deriving DecidableEq, Repr

/-- The observer and what its threads did so far. `joining` counts the `close`
calls inside `join`, `closes` lists what finished ones returned. -/
structure BoundedObserver (Event : Type) where
  calls : List (EmitCall Event)
  queue : List Nat
  closed : Bool
  worker : WorkerPhase
  sink : List SinkCall
  joining : Nat
  closes : List Bool
  accepted : Nat
  dropped : Nat
  exported : Nat
  failed : Nat
  deriving DecidableEq, Repr

def BoundedObserver.init : BoundedObserver Event :=
  ⟨[], [], false, .waiting, [], 0, [], 0, 0, 0, 0⟩

inductive Action (Event : Type) where
  /-- The first locked section of `emit`. -/
  | enter (event : Event)
  /-- The rest of an `emit`. -/
  | put (call : Nat) (snapshot : Snapshot)
  | close
  /-- A `join` returns, because the worker is dead or its timeout passed. -/
  | joined
  | get
  | timeout
  /-- The worker reads the closed flag. -/
  | check
  | write (outcome : WriteOutcome)
  | closeSink (succeeds : Bool)

def BoundedObserver.returns (s : BoundedObserver Event) (call : Nat) (result : Bool) :
    BoundedObserver Event :=
  { s with calls := s.calls.modify call fun entry => { entry with result := some result } }

/-- `_record_drop`. -/
def BoundedObserver.recordDrop (s : BoundedObserver Event) : BoundedObserver Event :=
  { s with dropped := s.dropped + 1 }

def enter (s : BoundedObserver Event) (event : Event) : BoundedObserver Event :=
  if s.closed then { s.recordDrop with calls := s.calls ++ [⟨event, some false⟩] }
  else { s with calls := s.calls ++ [⟨event, none⟩] }

def put (capacity : Nat) (s : BoundedObserver Event) (call : Nat) (snapshot : Snapshot) :
    BoundedObserver Event :=
  match s.calls[call]? with
  | some ⟨_, none⟩ =>
      if snapshot ≠ .taken ∨ s.closed = true ∨ capacity ≤ s.queue.length then
        s.recordDrop.returns call false
      else { s.returns call true with queue := s.queue ++ [call], accepted := s.accepted + 1 }
  | _ => s

/-- `close` up to its `join`; a second `close` looks at the worker at once. -/
def close (s : BoundedObserver Event) : BoundedObserver Event :=
  if s.closed then { s with closes := s.closes ++ [s.worker == .dead] }
  else { s with closed := true, joining := s.joining + 1 }

def joined (s : BoundedObserver Event) : BoundedObserver Event :=
  if s.joining = 0 then s
  else { s with joining := s.joining - 1, closes := s.closes ++ [s.worker == .dead] }

def get (s : BoundedObserver Event) : BoundedObserver Event :=
  match s.worker, s.queue with
  | .waiting, call :: rest => { s with worker := .writing call, queue := rest }
  | _, _ => s

/-- `Empty` is raised only while the queue is empty. -/
def timeout (s : BoundedObserver Event) : BoundedObserver Event :=
  if s.worker = .waiting ∧ s.queue = [] then { s with worker := .timedOut } else s

def check (s : BoundedObserver Event) : BoundedObserver Event :=
  if s.worker = .timedOut then { s with worker := if s.closed then .closing else .waiting } else s

def write (s : BoundedObserver Event) (outcome : WriteOutcome) : BoundedObserver Event :=
  match s.worker with
  | .writing call =>
      let s := { s with sink := s.sink ++ [SinkCall.write call] }
      match outcome with
      | .exported => { s with worker := .waiting, exported := s.exported + 1 }
      | .failed => { s with worker := .waiting, failed := s.failed + 1 }
      | .fatal => { s with worker := .dead }
  | _ => s

def closeSink (s : BoundedObserver Event) (succeeds : Bool) : BoundedObserver Event :=
  if s.worker = .closing then
    { s with
      worker := .dead
      sink := s.sink ++ [.close]
      failed := if succeeds then s.failed else s.failed + 1 }
  else s

def step (capacity : Nat) (s : BoundedObserver Event) : Action Event → BoundedObserver Event
  | .enter event => enter s event
  | .put call snapshot => put capacity s call snapshot
  | .close => close s
  | .joined => joined s
  | .get => get s
  | .timeout => timeout s
  | .check => check s
  | .write outcome => write s outcome
  | .closeSink succeeds => closeSink s succeeds

/-! ### The drain -/

/-- The call's event was passed to the sink once, and before the sink was closed. -/
def WrittenOnce (s : BoundedObserver Event) (call : Nat) : Prop :=
  ∃ before after, s.sink = before ++ .write call :: after ∧ .close ∉ before ∧
    .write call ∉ before ∧ .write call ∉ after

/-- `emit` returned true for the call. -/
def Accepted (s : BoundedObserver Event) (call : Nat) : Prop :=
  ∃ event, s.calls[call]? = some ⟨event, some true⟩

/-- Once a `close` returned true every accepted event was written. -/
def Drained (s : BoundedObserver Event) : Prop :=
  true ∈ s.closes → ∀ call, Accepted s call → WrittenOnce s call

/-- The worker finds the flag set only with an empty queue, and no write takes the
worker down. -/
def Careful (s : BoundedObserver Event) : Action Event → Prop
  | .check => s.worker = .timedOut → s.closed = true → s.queue = []
  | .write outcome => outcome ≠ .fatal
  | _ => True

/-- The calls whose events the sink was given. -/
def written (sink : List SinkCall) : List Nat :=
  sink.filterMap fun
    | .write call => some call
    | .close => none

def WorkerPhase.inFlight : WorkerPhase → List Nat
  | .writing call => [call]
  | _ => []

/-- Every accepted call, in the order of the queue: written, being written, queued. -/
def BoundedObserver.order (s : BoundedObserver Event) : List Nat :=
  written s.sink ++ s.worker.inFlight ++ s.queue

structure Consistent (s : BoundedObserver Event) : Prop where
  tracked : ∀ call, Accepted s call ↔ call ∈ s.order
  nodup : s.order.Nodup
  /-- A worker that shuts down has nothing left to write and gets nothing more. -/
  shutting : s.worker = .closing ∨ s.worker = .dead → s.closed = true ∧ s.queue = []
  unclosed : s.worker ≠ .dead → .close ∉ s.sink
  shut : s.worker = .dead → ∃ sink, s.sink = sink ++ [.close] ∧ .close ∉ sink
  told : true ∈ s.closes → s.worker = .dead

open BoundedObserver WorkerPhase

variable {capacity : Nat} {s : BoundedObserver Event}

/-- A call that had no result yet gets one. -/
theorem accepted_returns {call other event result} (found : s.calls[call]? = some ⟨event, none⟩) :
    Accepted (s.returns call result) other ↔
      Accepted s other ∨ (other = call ∧ result = true) := by
  simp only [Accepted, returns, List.getElem?_modify]
  by_cases same : call = other
  · subst same
    rw [found]
    simp
  · simp [same, Ne.symm same]

theorem accepted_enter (event : Event) {result} (undecided : result ≠ some true) (call : Nat) :
    (∃ event', (s.calls ++ [⟨event, result⟩])[call]? = some ⟨event', some true⟩) ↔
      Accepted s call := by
  unfold Accepted
  rw [List.getElem?_append]
  split
  · rfl
  · rename_i beyond
    have absent : s.calls[call]? = none := List.getElem?_eq_none (Nat.le_of_not_lt beyond)
    rw [absent, List.getElem?_singleton]
    constructor
    · rintro ⟨event', found⟩
      split at found
      · cases found
        exact absurd rfl undecided
      · cases found
    · rintro ⟨event', found⟩
      cases found

/-- The sections that touch neither the accepted calls nor the way to the sink. -/
theorem Consistent.of_same {s' : BoundedObserver Event} (holds : Consistent s)
    (accepted : ∀ call, Accepted s' call ↔ Accepted s call) (queue : s'.queue = s.queue)
    (worker : s'.worker = s.worker) (sink : s'.sink = s.sink)
    (closed : s.closed = true → s'.closed = true)
    (told : true ∈ s'.closes → s'.worker = .dead) : Consistent s' where
  tracked call := by
    rw [accepted, holds.tracked, order, order, queue, worker, sink]
  nodup := by
    rw [order, queue, worker, sink]
    exact holds.nodup
  shutting phase := by
    rw [worker] at phase
    obtain ⟨isClosed, empty⟩ := holds.shutting phase
    exact ⟨closed isClosed, queue.trans empty⟩
  unclosed phase := by
    rw [sink]
    rw [worker] at phase
    exact holds.unclosed phase
  shut phase := by
    rw [sink]
    rw [worker] at phase
    exact holds.shut phase
  told := told

theorem consistent_enter (holds : Consistent s) (event : Event) : Consistent (enter s event) := by
  unfold enter
  split
  · have refused : some false ≠ some true := nofun
    exact holds.of_same (accepted_enter event refused) rfl rfl rfl id holds.told
  · have undecided : none ≠ some true := nofun
    exact holds.of_same (accepted_enter event undecided) rfl rfl rfl id holds.told

theorem consistent_put (holds : Consistent s) (call : Nat) (snapshot : Snapshot) :
    Consistent (put capacity s call snapshot) := by
  unfold put
  split
  · rename_i event found
    split
    · refine holds.of_same (fun other => ?_) rfl rfl rfl id holds.told
      exact (accepted_returns (s := s.recordDrop) found).trans (by simp [Accepted, recordDrop])
    · rename_i room
      simp only [not_or, not_not] at room
      have unshut : ¬ (s.worker = .closing ∨ s.worker = .dead) := by
        intro phase
        exact room.2.1 (holds.shutting phase).1
      have unknown : call ∉ s.order := by
        intro mem
        obtain ⟨event', accepted⟩ := (holds.tracked call).mpr mem
        rw [found] at accepted
        cases accepted
      have order : BoundedObserver.order
          { s.returns call true with queue := s.queue ++ [call], accepted := s.accepted + 1 } =
          s.order ++ [call] := by
        simp [order, returns]
      refine ⟨fun other => ?_, ?_, fun phase => absurd phase unshut, holds.unclosed, holds.shut,
        holds.told⟩
      · rw [order, mem_append, mem_singleton, ← holds.tracked]
        exact (accepted_returns found).trans (by simp)
      · rw [order]
        refine nodup_append.mpr ⟨holds.nodup, pairwise_singleton _ _, ?_⟩
        rintro a mem b single rfl
        rw [mem_singleton.mp single] at mem
        exact unknown mem
  · exact holds

theorem consistent_close (holds : Consistent s) : Consistent (close s) := by
  unfold close
  split
  · refine holds.of_same (fun _ => Iff.rfl) rfl rfl rfl id fun told => ?_
    rcases mem_append.mp told with before | now
    · exact holds.told before
    · simpa using now
  · exact holds.of_same (fun _ => Iff.rfl) rfl rfl rfl (fun _ => rfl) holds.told

theorem consistent_joined (holds : Consistent s) : Consistent (joined s) := by
  unfold joined
  split
  · exact holds
  · refine holds.of_same (fun _ => Iff.rfl) rfl rfl rfl id fun told => ?_
    rcases mem_append.mp told with before | now
    · exact holds.told before
    · simpa using now

/-- The steps of the worker that only move a call along the way to the sink. -/
theorem Consistent.of_order {s' : BoundedObserver Event} (holds : Consistent s)
    (calls : s'.calls = s.calls) (order : s'.order = s.order) (closes : s'.closes = s.closes)
    (alive : s.worker ≠ .dead) (shutting : s'.worker = .closing ∨ s'.worker = .dead →
      s'.closed = true ∧ s'.queue = [])
    (unclosed : s'.worker ≠ .dead → .close ∉ s'.sink)
    (shut : s'.worker = .dead → ∃ sink, s'.sink = sink ++ [.close] ∧ .close ∉ sink) :
    Consistent s' where
  tracked call := by
    rw [order, ← holds.tracked, Accepted, Accepted, calls]
  nodup := by
    rw [order]
    exact holds.nodup
  shutting := shutting
  unclosed := unclosed
  shut := shut
  told told := by
    rw [closes] at told
    exact absurd (holds.told told) alive

theorem consistent_get (holds : Consistent s) : Consistent (get s) := by
  unfold get
  split
  · rename_i call rest waiting queued
    have alive : s.worker ≠ .dead := by rw [waiting]; nofun
    refine holds.of_order rfl ?_ rfl alive nofun (fun _ => holds.unclosed alive) nofun
    simp [order, waiting, queued, inFlight]
  · exact holds

theorem consistent_timeout (holds : Consistent s) : Consistent (timeout s) := by
  unfold timeout
  split
  · rename_i idle
    have alive : s.worker ≠ .dead := by rw [idle.1]; nofun
    refine holds.of_order rfl ?_ rfl alive nofun (fun _ => holds.unclosed alive) nofun
    simp [order, idle.1, inFlight]
  · exact holds

theorem consistent_check (holds : Consistent s) (careful : Careful s .check) :
    Consistent (check s) := by
  unfold check
  split
  · rename_i timedOut
    have alive : s.worker ≠ .dead := by rw [timedOut]; nofun
    cases flag : s.closed with
    | true =>
      refine holds.of_order rfl ?_ rfl alive (fun _ => ⟨rfl, careful timedOut flag⟩)
        (fun _ => holds.unclosed alive) nofun
      simp [order, timedOut, inFlight]
    | false =>
      refine holds.of_order rfl ?_ rfl alive nofun (fun _ => holds.unclosed alive) nofun
      simp [order, timedOut, inFlight]
  · exact holds

theorem consistent_write (holds : Consistent s) {outcome} (careful : Careful s (.write outcome)) :
    Consistent (write s outcome) := by
  unfold write
  split
  · rename_i call writing
    have alive : s.worker ≠ .dead := by rw [writing]; nofun
    have open' : .close ∉ s.sink ++ [.write call] := by
      simp [holds.unclosed alive]
    cases outcome with
    | exported | failed =>
      refine holds.of_order rfl ?_ rfl alive nofun (fun _ => open') nofun
      simp [order, writing, inFlight, written]
    | fatal => exact absurd rfl careful
  · exact holds

theorem consistent_closeSink (holds : Consistent s) (succeeds : Bool) :
    Consistent (closeSink s succeeds) := by
  unfold closeSink
  split
  · rename_i closing
    have alive : s.worker ≠ .dead := by rw [closing]; nofun
    refine holds.of_order rfl ?_ rfl alive (fun _ => holds.shutting (.inl closing))
      (fun living => absurd rfl living) fun _ => ⟨s.sink, rfl, holds.unclosed alive⟩
    simp [order, closing, inFlight, written]
  · exact holds

theorem consistent_step (holds : Consistent s) {action} (careful : Careful s action) :
    Consistent (step capacity s action) := by
  cases action with
  | enter event => exact consistent_enter holds event
  | put call snapshot => exact consistent_put holds call snapshot
  | close => exact consistent_close holds
  | joined => exact consistent_joined holds
  | get => exact consistent_get holds
  | timeout => exact consistent_timeout holds
  | check => exact consistent_check holds careful
  | write outcome => exact consistent_write holds careful
  | closeSink succeeds => exact consistent_closeSink holds succeeds

theorem consistent_init : Consistent (BoundedObserver.init : BoundedObserver Event) where
  tracked call := by simp [Accepted, BoundedObserver.init, order, written, inFlight]
  nodup := by simp [BoundedObserver.init, order, written, inFlight]
  shutting := nofun
  unclosed _ := not_mem_nil
  shut := nofun
  told told := nomatch told

/-- A call whose event is written, in a sink whose writes are all different. -/
theorem writtenOnce_of_mem {sink call} (mem : call ∈ written sink) (nodup : (written sink).Nodup)
    (unclosed : .close ∉ sink) :
    ∃ before after, sink = before ++ .write call :: after ∧ .close ∉ before ∧
      .write call ∉ before ∧ .write call ∉ after := by
  obtain ⟨entry, stored, named⟩ := mem_filterMap.mp mem
  cases entry with
  | close => cases named
  | write other =>
    cases named
    obtain ⟨before, after, rfl⟩ := append_of_mem stored
    have listed : ∀ part, .write call ∈ part → call ∈ written part := by
      intro part mem
      exact mem_filterMap.mpr ⟨_, mem, rfl⟩
    have split : written (before ++ .write call :: after) =
        written before ++ call :: written after := by
      rw [written, filterMap_append]
      rfl
    rw [split, nodup_middle, nodup_cons, mem_append, not_or] at nodup
    refine ⟨before, after, rfl, fun closes => unclosed (mem_append_left _ closes), ?_, ?_⟩
    · exact fun again => nodup.1.1 (listed before again)
    · exact fun again => nodup.1.2 (listed after again)

/-- In a consistent observer a `close` that returned true told the truth. -/
theorem Consistent.drained (holds : Consistent s) : Drained s := by
  intro told call accepted
  have dead := holds.told told
  obtain ⟨sink, shut, unclosed⟩ := holds.shut dead
  have order : s.order = written sink := by
    rw [order, dead, (holds.shutting (.inr dead)).2, shut, written,
      filterMap_append]
    simp [written, inFlight]
  have mem := (holds.tracked call).mp accepted
  have nodup := holds.nodup
  rw [order] at mem nodup
  obtain ⟨before, after, rfl, early, first, last⟩ := writtenOnce_of_mem mem nodup unclosed
  refine ⟨before, after ++ [.close], ?_, early, first, ?_⟩
  · rw [shut, append_assoc, cons_append]
  · simpa using last

/-- In every interleaving in which the worker finds the flag set only with an empty
queue, a `close` that returns true was preceded by one write of every accepted
event, all before the sink was closed. -/
theorem accepted_events_written (capacity : Nat) (actions : List (Action Event))
    (careful : AllSteps (step capacity) Careful BoundedObserver.init actions) :
    Always (step capacity) Drained (BoundedObserver.init : BoundedObserver Event) actions := by
  have consistent : Always (step capacity) Consistent BoundedObserver.init actions :=
    always_of_allSteps (fun s _ (holds : Consistent s) met => consistent_step holds met)
      consistent_init careful
  exact consistent.mono fun _ holds => holds.drained

/-- One event, written, and a close after it. -/
def quietClose : List (Action String) :=
  [.enter "event", .put 0 .taken, .get, .write .exported, .close, .timeout, .check,
    .closeSink true, .joined]

theorem accepted_events_written_quietClose :
    AllSteps (step 1) Careful BoundedObserver.init quietClose ∧
      Always (step 1) Drained BoundedObserver.init quietClose := by
  have careful : AllSteps (step 1) Careful BoundedObserver.init quietClose :=
    ⟨trivial, trivial, trivial, nofun, trivial, trivial, fun _ _ => rfl, trivial, trivial, trivial⟩
  exact ⟨careful, accepted_events_written 1 quietClose careful⟩

/-- The event is put and the observer closed after the worker's timeout and before
its look at the flag. -/
def lateEvent : List (Action String) :=
  [.timeout, .enter "event", .put 0 .taken, .close, .check, .closeSink true, .joined]

/-- `close` returns true, and the accepted event was never written. -/
theorem close_misses_late_event :
    ¬ Always (step 1) Drained BoundedObserver.init lateEvent := by
  intro always
  have drained := always.last
  have told : true ∈ (run (step 1) BoundedObserver.init lateEvent).closes := by decide
  obtain ⟨before, after, sink, -⟩ := drained told 0 ⟨"event", by decide⟩
  have shut : (run (step 1) BoundedObserver.init lateEvent).sink = [.close] := by decide
  rw [shut] at sink
  cases before with
  | nil => cases sink
  | cons first rest => simp at sink

end Apex.Observer
