import Apex.Lib.Runs
import Apex.Runtime.Loop

/-!
Holds: what the reference runtime owes an operator while a tool call is
suspended.

The first part says what each piece of a turn keeps, as triples over `Stands`.
The second part watches a whole run beside what the polls delivered: while a
hold waits no turn calls its tool, and the turn whose poll brings the denial
does not call it either (`hold_respected`); `decided_of_new` reads the decision of
a poll off the commands it delivers. A denial that arrives together with
a `stop` is discarded with the rest of its batch, so it never ends a turn as
`held_denied` (`stop_discards_denial`).
-/

namespace Apex.Runtime

open Raising Runs Option

variable {Number : Type} {token : String}

/-! ### What a turn keeps -/

/-- The hold in force, the remembered commands and the calls of the tool. -/
def Stands (held : Option String) (enacted calls : List String) (w : World Number) : Prop :=
  w.enactment.heldToken = held ∧ w.enactment.enacted = enacted ∧ w.calls = calls

section Keeps

variable {settings : Settings Number} {held : Option String} {enacted calls : List String}

/-- A computation that changes nothing `Stands` looks at, however it ends. -/
def KeepsStanding {α : Type} (m : Turn Number α) : Prop :=
  ∀ held enacted calls,
    Meets (Stands held enacted calls) m (fun _ => Stands held enacted calls)
      (Stands held enacted calls)

/-- An event that joined the trace is one the contract takes. -/
theorem emitFrom_meets {agentId data} :
    Meets (Stands held enacted calls) (emitFrom settings agentId data)
      (fun _ w => settings.secretLike data = false ∧ Stands held enacted calls w)
      (Stands held enacted calls) := by
  apply Meets.ite
  · intro _
    exact .raise fun _ stands => stands
  · intro taken
    exact .modify fun _ stands => ⟨eq_false_of_ne_true taken, stands⟩

theorem emit_keeps {data} : KeepsStanding (emit settings data) := by
  intro held enacted calls
  exact emitFrom_meets.post fun _ _ taken => taken.2

theorem KeepsStanding.bind {α β : Type} {m} {next : α → Turn Number β} (first : KeepsStanding m)
    (later : ∀ a, KeepsStanding (next a)) :
    KeepsStanding (m >>= next) :=
  fun held enacted calls => (first held enacted calls).bind fun a => later a held enacted calls

theorem KeepsStanding.pure {α : Type} {a} :
    KeepsStanding (Pure.pure a : Turn Number α) :=
  fun _ _ _ => .pure fun _ stands => stands

theorem KeepsStanding.read : KeepsStanding (Raising.read : Turn Number (World Number)) :=
  fun _ _ _ => .read fun _ stands => stands

theorem KeepsStanding.modifyEnactment {f : ControlEnactment Number → ControlEnactment Number}
    (held : ∀ e, (f e).heldToken = e.heldToken) (enacted : ∀ e, (f e).enacted = e.enacted) :
    KeepsStanding (Runtime.modifyEnactment f) := by
  intro token remembered calls
  refine .modify fun w stands => ⟨?_, ?_, stands.2.2⟩
  · exact (held w.enactment).trans stands.1
  · exact (enacted w.enactment).trans stands.2.1

variable {answer : Poll Number} {answers : Option (Nat → Acknowledgement)} {batch : Batch Number}
  {E : World Number → Prop}

theorem poll_meets :
    Meets (Stands held enacted calls) (poll settings answer)
      (fun commands w => commands = answer.delivered ∧ Stands held enacted calls w)
      (Stands held enacted calls) := by
  cases answer with
  | failed =>
    exact .bind (emit_keeps held enacted calls) fun _ => .pure fun _ stands => ⟨rfl, stands⟩
  | noControl | commands _ => exact .pure fun _ stands => ⟨rfl, stands⟩

theorem acknowledge_keeps {commands} :
    KeepsStanding (acknowledge settings answers commands) := by
  cases answers with
  | none => exact .pure
  | some answer =>
    intro held enacted calls
    refine .forEach fun entry _ => ?_
    split
    · exact KeepsStanding.pure held enacted calls
    · exact emit_keeps held enacted calls
    · exact emit_keeps held enacted calls

theorem endTurn_meets {data P}
    (traceFree : ∀ w event, P w → P { w with trace := w.trace ++ [event] }) :
    Meets P (endTurn settings data) (fun answer w => answer = data ∧ P w) P := by
  refine .bind (Q := fun _ => P) ?_ fun _ => .pure fun _ holds => ⟨rfl, holds⟩
  apply Meets.ite
  · intro _
    exact .raise fun _ holds => holds
  · intro _
    exact .modify fun w holds => traceFree w _ holds

variable [Amount Number]

theorem emitControl_keeps {action given} :
    KeepsStanding (emitControl settings action given) := by
  refine .bind ?_ fun _ => emit_keeps
  intro held enacted calls
  exact .ofExcept (fun _ _ _ stands => stands) fun _ _ _ stands => stands

theorem applyBudget_keeps {command} :
    KeepsStanding (applyBudget settings command) := by
  unfold applyBudget
  split
  · exact .bind (.modifyEnactment (fun _ => rfl) fun _ => rfl) fun _ => emitControl_keeps
  · exact emit_keeps

theorem surfaceInject_keeps {command} :
    KeepsStanding (surfaceInject settings command) := by
  have refused : KeepsStanding (do
      emit settings (.error .referenceInjectContentRefused)
      pure none : Turn Number (Option String)) := .bind emit_keeps fun _ => .pure
  unfold surfaceInject
  split
  · split
    · intro held enacted calls
      exact .attempt (KeepsStanding.bind emitControl_keeps (fun _ => .pure) held enacted calls)
        fun _ => refused held enacted calls
    · exact refused
  · exact refused

theorem applyPauseIntent_keeps {command} :
    KeepsStanding (applyPauseIntent settings command) := by
  cases command with
  | none => exact .pure
  | some command =>
    refine .bind .read fun w => ?_
    split
    all_goals
      split
      · exact .pure
      · exact .bind (.modifyEnactment (fun _ => rfl) fun _ => rfl) fun _ =>
          .bind emitControl_keeps fun _ => .pure

/-! ### Resolving a hold -/

/-- The decision of the first command that names the token with one. -/
def resolution (token : String) (resolves : List (PendingControlCommand Number)) :
    Option Decision :=
  resolves.findSome? fun command =>
    if command.holdToken = some token then command.decision else none

/-- A hold is resolved exactly by the first command that names it with a decision.
Where an event is refused the walk ends early, and only a hold that no command
resolves is known to be still there. -/
theorem applyResolveHold_meets {resolves} :
    Meets (Stands (some token) enacted calls) (applyResolveHold settings resolves)
      (fun resolved w =>
        resolved.map Resolution.decision = resolution token resolves ∧
        Stands (if (resolution token resolves).isSome then none else some token) enacted calls w)
      (fun w => w.calls = calls ∧
        (resolution token resolves = none → Stands (some token) enacted calls w)) := by
  induction resolves with
  | nil => exact .pure fun _ stands => ⟨rfl, stands⟩
  | cons command rest ih =>
    refine .readBind (fun _ stands => stands.1) fun w holds => ?_
    rw [holds]
    refine .ite (fun named => ?_) fun other => ?_
    · cases decides : command.decision with
      | none =>
        have skipped : resolution token (command :: rest) = resolution token rest := by
          simp [resolution, named, decides]
        rw [skipped]
        refine .bind (Q := fun _ => Stands (some token) enacted calls) ?_ fun _ => ih
        exact (emit_keeps (some token) enacted calls).raises fun _ stands =>
          ⟨stands.2.2, fun _ => stands⟩
      | some decision =>
        have found : resolution token (command :: rest) = some decision := by
          simp [resolution, named, decides]
        rw [found]
        refine .bind (Q := fun _ => Stands none enacted calls) ?_ fun _ => ?_
        · exact .modify fun w stands => ⟨rfl, stands.2⟩
        refine .bind (Q := fun _ => Stands none enacted calls) ?_ fun _ => ?_
        · exact (emitControl_keeps none enacted calls).raises fun _ stands => ⟨stands.2.2, nofun⟩
        · exact .pure fun _ stands => ⟨rfl, stands⟩
    · have skipped : resolution token (command :: rest) = resolution token rest := by
        simp [resolution, other]
      rw [skipped]
      exact ih

/-! ### The checkpoint -/

/-- The ways a turn ends that received a denial and was not raised out of. -/
def EndsDenied (status : Status) : Prop :=
  status = .paused ∨ status = .budgetExceeded ∨ status = .heldDenied

instance (status : Status) : Decidable (EndsDenied status) :=
  inferInstanceAs (Decidable (_ ∨ _))

theorem verdictOf_held {enactment : ControlEnactment Number} {injected resolved resumedBy}
    (holds : enactment.heldToken = some token) :
    ∃ data, verdictOf enactment injected resolved resumedBy = .terminal data := by
  unfold verdictOf
  rw [holds]
  cases enactment.pausedBy with
  | some pausedBy => exact ⟨_, rfl⟩
  | none =>
    cases budgetExceeded enactment with
    | some exceeded => exact ⟨_, rfl⟩
    | none =>
      match resolved with
      | none | some ⟨.approved, _, _⟩ | some ⟨.denied, _, _⟩ => exact ⟨_, rfl⟩

theorem verdictOf_denied {enactment : ControlEnactment Number} {injected}
    {resolved : Option Resolution} {resumedBy}
    (denied : resolved.map Resolution.decision = some .denied) :
    ∃ data, verdictOf enactment injected resolved resumedBy = .terminal data ∧
      EndsDenied data.status := by
  obtain ⟨⟨_, commandId, reason⟩, rfl, rfl⟩ := map_eq_some_iff.mp denied
  unfold verdictOf
  cases enactment.pausedBy with
  | some pausedBy => exact ⟨_, rfl, .inl rfl⟩
  | none =>
    cases budgetExceeded enactment with
    | some exceeded => exact ⟨_, rfl, .inr (.inl rfl)⟩
    | none => exact ⟨_, rfl, .inr (.inr rfl)⟩

/-- What stands before the resolutions of a batch are looked at stands as before
the batch. -/
theorem enactBatch_meets {R Q} (early : ∀ w, Stands held enacted calls w → E w)
    (resolve : Meets (Stands held enacted calls) (applyResolveHold settings batch.resolves) R E)
    (finish : ∀ injected resolved, Meets (R resolved) (do
      let resumedBy ← applyPauseIntent settings batch.pauseIntent
      let w ← Raising.read
      acknowledge settings answers batch.acknowledged
      pure (verdictOf w.enactment injected resolved resumedBy)) Q E) :
    Meets (Stands held enacted calls) (enactBatch settings answers batch) Q E := by
  refine .bind (Q := fun _ => Stands held enacted calls) ?_ fun _ => ?_
  · exact (Meets.forEach fun _ _ => applyBudget_keeps held enacted calls).raises early
  refine .bind (Q := fun _ => Stands held enacted calls) ?_ fun injected => ?_
  · exact (Meets.collect fun _ _ => surfaceInject_keeps held enacted calls).raises early
  exact .bind resolve fun resolved => finish injected resolved

theorem enactBatch_waiting (unresolved : resolution token batch.resolves = none) :
    Meets (Stands (some token) enacted calls) (enactBatch settings answers batch)
      (fun verdict w => (∃ data, verdict = .terminal data) ∧ Stands (some token) enacted calls w)
      (Stands (some token) enacted calls) := by
  refine enactBatch_meets (R := fun _ => Stands (some token) enacted calls)
    (fun _ stands => stands) ?_ fun injected resolved => ?_
  · refine applyResolveHold_meets.mono (fun _ stands => stands) ?_
      fun _ raised => raised.2 unresolved
    intro resolved w after
    rw [unresolved] at after
    exact after.2
  refine .bind (applyPauseIntent_keeps (some token) enacted calls) fun resumedBy => ?_
  refine .readBind (fun _ stands => stands.1) fun seen holds => ?_
  refine .bind (acknowledge_keeps (some token) enacted calls) fun _ => ?_
  exact .pure fun _ stands => ⟨verdictOf_held holds, stands⟩

theorem enactBatch_denied (denied : resolution token batch.resolves = some .denied) :
    Meets (Stands (some token) enacted calls) (enactBatch settings answers batch)
      (fun verdict w => (∃ data, verdict = .terminal data ∧ EndsDenied data.status) ∧
        w.calls = calls)
      (fun w => w.calls = calls) := by
  refine enactBatch_meets
    (R := fun resolved w => resolved.map Resolution.decision = some .denied ∧
      Stands none enacted calls w)
    (fun _ stands => stands.2.2) ?_ fun injected resolved => ?_
  · refine applyResolveHold_meets.mono (fun _ stands => stands) ?_ fun _ raised => raised.1
    intro resolved w after
    rw [denied] at after
    exact after
  refine .assume (fun _ before => before.1) fun decided => ?_
  refine .bind (Q := fun _ => Stands none enacted calls) ?_ fun resumedBy => ?_
  · exact (applyPauseIntent_keeps none enacted calls).mono (fun _ before => before.2)
      (fun _ _ stands => stands) fun _ stands => stands.2.2
  refine .readBind (fun _ stands => stands) fun seen _ => ?_
  refine .bind (Q := fun _ => Stands none enacted calls) ?_ fun _ => ?_
  · exact (acknowledge_keeps none enacted calls).raises fun _ stands => stands.2.2
  · exact .pure fun _ stands => ⟨verdictOf_denied decided, stands.2.2⟩

/-- The commands of a poll that the loop takes up. -/
def taken (enacted : List String) (answer : Poll Number) : Batch Number :=
  (dispatch enacted answer.delivered).1

theorem enact_meets {Q} (raised : ∀ remembered w, Stands held remembered calls w → E w)
    (stopped : ∀ stop, (taken enacted answer).stop = some stop →
      ∀ data remembered w, Stands held remembered calls w → Q (.terminal data) w)
    (running : (taken enacted answer).stop = none → ∀ remembered,
      Meets (Stands held remembered calls) (enactBatch settings answers (taken enacted answer))
        Q E) :
    Meets (Stands held enacted calls) (enact settings answer answers) Q E := by
  refine .bind (Q := fun commands w => commands = answer.delivered ∧ Stands held enacted calls w)
    ?_ fun commands => ?_
  · exact poll_meets.raises (raised enacted)
  refine .assume (fun _ before => before.1) ?_
  rintro rfl
  refine .readBind (fun _ before => before.2.2.1) fun seen remembers => ?_
  rw [remembers]
  refine .bind (Q := fun _ => Stands held (dispatch enacted answer.delivered).2 calls) ?_
    fun _ => ?_
  · exact .modify fun _ before => ⟨before.2.1, rfl, before.2.2.2⟩
  split
  · rename_i stop stopping
    refine .bind (Q := fun _ => Stands held (dispatch enacted answer.delivered).2 calls) ?_
      fun _ => ?_
    · exact (emitControl_keeps held _ calls).raises (raised _)
    refine .bind (Q := fun _ => Stands held (dispatch enacted answer.delivered).2 calls) ?_
      fun _ => ?_
    · exact (acknowledge_keeps held _ calls).raises (raised _)
    · exact .pure fun w stands => stopped stop stopping _ _ w stands
  · exact running ‹_› _

/-- What a poll decides about the hold named by a token: the first resolution of
it that the loop takes up, unless a `stop` discards the batch. -/
def decided (enacted : List String) (answer : Poll Number) (token : String) : Option Decision :=
  match (taken enacted answer).stop with
  | some _ => none
  | none => resolution token (taken enacted answer).resolves

omit [Amount Number] in
/-- A command under a new id is taken up, and no other id is remembered for it. -/
theorem dispatchOne_new (batch : Batch Number) {command : PendingControlCommand Number}
    (named : command.commandId.isEmpty = false) (new : command.commandId ∉ enacted) :
    (dispatchOne (batch, enacted) command).1.resolves =
        batch.resolves ++ [command].filter (·.action = .resolveHold) ∧
      (dispatchOne (batch, enacted) command).1.stop.isSome =
        (batch.stop.isSome || command.action = .stop) ∧
      (dispatchOne (batch, enacted) command).2 ⊆ enacted ++ [command.commandId] := by
  have sight : firstSight enacted command.commandId =
      (true, (enacted ++ [command.commandId]).drop
        ((enacted ++ [command.commandId]).length - maxRememberedCommands)) := if_neg new
  cases action : command.action <;>
    simp [dispatchOne, Batch.add, action, named, sight, List.drop_subset]

omit [Amount Number] in
theorem dispatch_new (seen : Batch Number × List String)
    {commands : List (PendingControlCommand Number)}
    (new : ∀ command ∈ commands, command.commandId.isEmpty = false ∧ command.commandId ∉ seen.2)
    (distinct : (commands.map (·.commandId)).Nodup) :
    (commands.foldl dispatchOne seen).1.resolves =
        seen.1.resolves ++ commands.filter (·.action = .resolveHold) ∧
      (commands.foldl dispatchOne seen).1.stop.isSome =
        (seen.1.stop.isSome || commands.any (·.action = .stop)) := by
  induction commands generalizing seen with
  | nil => simp
  | cons command rest ih =>
    obtain ⟨other, distinct⟩ := List.nodup_cons.mp distinct
    obtain ⟨⟨named, unseen⟩, later⟩ := List.forall_mem_cons.mp new
    obtain ⟨resolves, stop, remembered⟩ := dispatchOne_new seen.1 named unseen
    have still : ∀ next ∈ rest, next.commandId.isEmpty = false ∧
        next.commandId ∉ (dispatchOne seen command).2 := by
      refine fun next mem => ⟨(later next mem).1, fun known => ?_⟩
      rcases List.mem_append.mp (remembered known) with before | same
      · exact (later next mem).2 before
      · exact other (List.mem_map.mpr ⟨next, mem, List.mem_singleton.mp same⟩)
    obtain ⟨restResolves, restStop⟩ := ih (dispatchOne seen command) still distinct
    rw [List.foldl_cons, restResolves, restStop, resolves, stop, List.append_assoc,
      ← List.filter_append, List.singleton_append, List.any_cons, Bool.or_assoc]
    exact ⟨rfl, rfl⟩

omit [Amount Number] in
/-- A poll whose commands come under new ids decides what the first command says that
resolves the hold, and nothing where a `stop` is among them. -/
theorem decided_of_new
    (new : ∀ command ∈ answer.delivered,
      command.commandId.isEmpty = false ∧ command.commandId ∉ enacted)
    (distinct : (answer.delivered.map (·.commandId)).Nodup) :
    decided enacted answer token =
      if answer.delivered.any (·.action = .stop) then none
      else resolution token (answer.delivered.filter (·.action = .resolveHold)) := by
  obtain ⟨resolves, stop⟩ := dispatch_new (Batch.empty, enacted) new distinct
  change (taken enacted answer).resolves = _ at resolves
  change (taken enacted answer).stop.isSome = _ at stop
  simp only [Batch.empty, List.nil_append, Option.isSome_none, Bool.false_or] at resolves stop
  rw [decided, resolves, ← stop]
  cases (taken enacted answer).stop <;> rfl

/-- A hold nothing decided is still there after the checkpoint, and the turn ends
at it. -/
theorem enact_waiting (undecided : decided enacted answer token = none) :
    Meets (Stands (some token) enacted calls) (enact settings answer answers)
      (fun verdict w => (∃ data, verdict = .terminal data) ∧
        ∃ remembered, Stands (some token) remembered calls w)
      (fun w => ∃ remembered, Stands (some token) remembered calls w) := by
  refine enact_meets (fun remembered _ stands => ⟨remembered, stands⟩) ?_ ?_
  · intro stop _ data remembered w stands
    exact ⟨⟨data, rfl⟩, remembered, stands⟩
  · intro stopless remembered
    rw [decided, stopless] at undecided
    exact (enactBatch_waiting undecided).mono (fun _ stands => stands)
      (fun _ _ after => ⟨after.1, remembered, after.2⟩) fun _ stands => ⟨remembered, stands⟩

/-- A denial ends the turn at the checkpoint. -/
theorem enact_denied (denied : decided enacted answer token = some .denied) :
    Meets (Stands (some token) enacted calls) (enact settings answer answers)
      (fun verdict w => (∃ data, verdict = .terminal data ∧ EndsDenied data.status) ∧
        w.calls = calls)
      (fun w => w.calls = calls) := by
  refine enact_meets (fun _ _ stands => stands.2.2) ?_ ?_
  · intro stop stopping
    rw [decided, stopping] at denied
    cases denied
  · intro stopless remembered
    rw [decided, stopless] at denied
    exact enactBatch_denied denied

/-! ### The turn -/

/-- A turn does what its tool step does where it reaches the checkpoint, and
nothing to the hold or the tool where it does not. -/
theorem runTurn_meets {input Q} (raised : ∀ w, Stands held enacted calls w → E w)
    (skipped : reachesCheckpoint settings input = false →
      ∀ data w, Stands held enacted calls w → Q data w)
    (reached : ∀ tool, reachesCheckpoint settings input = true →
      Meets (Stands held enacted calls) (toolStep settings input tool) Q E) :
    Meets (Stands held enacted calls) (runTurn settings input) Q E := by
  have say : ∀ agentId data, Meets (Stands held enacted calls) (emitFrom settings agentId data)
      (fun _ w => settings.secretLike data = false ∧ Stands held enacted calls w) E :=
    fun _ _ => emitFrom_meets.raises raised
  have ends : ∀ data, reachesCheckpoint settings input = false →
      Meets (Stands held enacted calls) (endTurn settings data) Q E := by
    intro data missed
    exact .bind (say _ _) fun _ => .pure fun w taken => skipped missed data w taken.2
  have finish : input.childAgentId.all safeIdentifier = true →
      ((preamble settings input).all fun data => !settings.secretLike data) = true →
      Meets (Stands held enacted calls) (finishTurn settings input) Q E := by
    intro child clear
    unfold finishTurn
    split
    · exact ends _ (by simp [reachesCheckpoint, *])
    · exact reached _ (by simp [reachesCheckpoint, *])
  refine .bind (say _ _) fun _ => .assume (fun _ taken => taken.1) fun start => ?_
  refine .bind (Q := fun _ => Stands held enacted calls) ?_ fun _ => ?_
  · exact .modify fun _ taken => taken.2
  refine .bind (say _ _) fun _ => .assume (fun _ taken => taken.1) fun model => ?_
  cases child : input.childAgentId with
  | none =>
    have clear := finish (by simp [child]) (by simp [preamble, child, start, model])
    exact clear.pre fun _ taken => taken.2
  | some childAgentId =>
    refine .ite (fun safe => ?_) fun notSafe => ?_
    · refine .bind (Q := fun _ w => (settings.secretLike (.agentSpawn childAgentId) = false ∧
        settings.secretLike (.turnEnd { status := .completed }) = false) ∧
        Stands held enacted calls w) ?_ fun _ => .assume (fun _ taken => taken.1) ?_
      · refine .bind ((say _ _).pre fun _ taken => taken.2) fun _ =>
          .assume (fun _ taken => taken.1) fun spawned => ?_
        refine .bind ((say _ _).pre fun _ taken => taken.2) fun _ => ?_
        exact (say _ _).mono (fun _ taken => taken.2)
          (fun _ _ ended => ⟨⟨spawned, ended.1⟩, ended.2⟩) fun _ holds => holds
      · rintro ⟨spawned, ended⟩
        have clear := finish (by simp [child, safe])
          (by simp [preamble, child, start, model, spawned, ended])
        exact clear.pre fun _ taken => taken.2
    · have missed : reachesCheckpoint settings input = false := by
        simp [reachesCheckpoint, child, notSafe]
      refine .bind ((say _ _).mono (fun _ taken => taken.2) (fun _ _ taken => taken.2)
        fun _ holds => holds) fun _ => ends _ missed

/-- Where the checkpoint ends the turn, the tool step is the checkpoint and the
terminal event. -/
theorem toolStep_meets {input : TurnInput Number} {tool} {D : TurnEnd → Prop} {P}
    (traceFree : ∀ w event, P w → P { w with trace := w.trace ++ [event] })
    (checkpoint : Meets (Stands held enacted calls)
      (enact settings input.poll input.acknowledgements)
      (fun verdict w => (∃ data, verdict = .terminal data ∧ D data) ∧ P w) P) :
    Meets (Stands held enacted calls) (toolStep settings input tool)
      (fun data w => D data ∧ P w) P := by
  refine .bind checkpoint fun verdict => .assume (fun _ before => before.1) ?_
  rintro ⟨data, rfl, ends⟩
  refine (endTurn_meets traceFree).mono (fun _ before => before.2) ?_ fun _ holds => holds
  rintro _ w ⟨rfl, holds⟩
  exact ⟨ends, holds⟩

/-- What a turn's poll decides about the hold named by a token; a turn that does
not reach its checkpoint polls nothing. -/
def received (settings : Settings Number) (w : World Number) (input : TurnInput Number)
    (token : String) : Option Decision :=
  if reachesCheckpoint settings input then decided w.enactment.enacted input.poll token else none

variable {w : World Number} {input : TurnInput Number} {token : String}

theorem runTurn_waiting (holds : w.enactment.heldToken = some token)
    (undecided : received settings w input token = none) :
    (runTurn settings input w).1.enactment.heldToken = some token ∧
      ¬ RunsTool settings w input := by
  have meets : Meets (Stands (some token) w.enactment.enacted w.calls) (runTurn settings input)
      (fun _ after => ∃ remembered, Stands (some token) remembered w.calls after)
      (fun after => ∃ remembered, Stands (some token) remembered w.calls after) := by
    refine runTurn_meets (fun _ stands => ⟨_, stands⟩) (fun _ _ _ stands => ⟨_, stands⟩) ?_
    intro tool reached
    rw [received, if_pos reached] at undecided
    refine (toolStep_meets (D := fun _ => True) ?_ ?_).post fun _ _ after => after.2
    · rintro _ event ⟨remembered, stands⟩
      exact ⟨remembered, stands⟩
    · refine (enact_waiting undecided).post ?_
      rintro verdict after ⟨⟨data, ended⟩, stands⟩
      exact ⟨⟨data, ended, trivial⟩, stands⟩
  obtain ⟨remembered, kept, -, uncalled⟩ := meets.ends ⟨holds, rfl, rfl⟩
  exact ⟨kept, fun called => called uncalled⟩

theorem runTurn_denied (holds : w.enactment.heldToken = some token)
    (denied : received settings w input token = some .denied) :
    ¬ RunsTool settings w input ∧
      ∀ status, turnStatus settings w input = some status → EndsDenied status := by
  obtain ⟨reached, decides⟩ : reachesCheckpoint settings input = true ∧
      decided w.enactment.enacted input.poll token = some .denied := by
    unfold received at denied
    split at denied
    · exact ⟨‹_›, denied⟩
    · cases denied
  have meets : Meets (Stands (some token) w.enactment.enacted w.calls) (runTurn settings input)
      (fun data after => EndsDenied data.status ∧ after.calls = w.calls)
      (fun after => after.calls = w.calls) := by
    refine runTurn_meets (fun _ stands => stands.2.2) (fun missed => ?_) fun tool _ => ?_
    · rw [reached] at missed
      cases missed
    · exact toolStep_meets (D := fun data => EndsDenied data.status)
        (fun _ _ same => same) (enact_denied decides)
  obtain ⟨answers, faults⟩ := meets w ⟨holds, rfl, rfl⟩
  unfold RunsTool turnStatus
  cases ran : runTurn settings input w with
  | mk after answer =>
    cases answer with
    | ok data =>
      obtain ⟨ends, uncalled⟩ := answers after data ran
      refine ⟨fun called => called uncalled, ?_⟩
      rintro status ended
      cases ended
      exact ends
    | error e => exact ⟨fun called => called (faults after e ran), nofun⟩

end Keeps

/-! ### Whole runs -/

variable [Amount Number]

/-- A loop beside the hold an operator still has to decide, as the calls of
`enter_hold` and the polls tell it. -/
structure Watched (Number : Type) where
  world : World Number
  waiting : Option String

def watchStep (settings : Settings Number) (h : Watched Number) : LoopAction Number → Watched Number
  | .enterHold token => ⟨loopStep settings h.world (.enterHold token), some token⟩
  | .turn input =>
      ⟨loopStep settings h.world (.turn input),
        h.waiting.filter fun token => (received settings h.world input token).isNone⟩

/-- A turn under a hold: without a decision it calls no tool; with a denial it
calls none either and, where no pause and no ceiling ends it, ends as denied. -/
def HoldRespected (settings : Settings Number) (h : Watched Number) : LoopAction Number → Prop
  | .enterHold _ => True
  | .turn input => ∀ token, h.waiting = some token →
      (received settings h.world input token = none → ¬ RunsTool settings h.world input) ∧
      (received settings h.world input token = some .denied →
        ¬ RunsTool settings h.world input ∧
        ∀ status, turnStatus settings h.world input = some status → EndsDenied status)

/-- The hold that waits is the one in force. -/
def InForce (h : Watched Number) : Prop :=
  ∀ token, h.waiting = some token → h.world.enactment.heldToken = some token

theorem inForce_step {settings h} (inForce : InForce h) (action : LoopAction Number) :
    InForce (watchStep settings h action) := by
  intro token waits
  cases action with
  | enterHold fresh => exact waits
  | turn input =>
    obtain ⟨waited, undecided⟩ := filter_eq_some_iff.mp waits
    exact (runTurn_waiting (inForce token waited) (isNone_iff_eq_none.mp undecided)).1

theorem holdRespected_of_inForce {settings h} (inForce : InForce h) (action : LoopAction Number) :
    HoldRespected settings h action := by
  cases action with
  | enterHold token => trivial
  | turn input =>
    intro token waits
    constructor
    · intro undecided
      exact (runTurn_waiting (inForce token waits) undecided).2
    · intro denied
      exact runTurn_denied (inForce token waits) denied

/-- Over every sequence of holds and turns: while a hold waits for its decision no
turn calls its tool, and the turn whose poll brings a denial does not either. -/
theorem hold_respected (settings : Settings Number) (actions : List (LoopAction Number)) :
    AllSteps (watchStep settings) (HoldRespected settings) ⟨World.init, none⟩ actions := by
  have start : InForce (⟨World.init, none⟩ : Watched Number) := by
    intro token waits
    cases waits
  have keep : ∀ (h : Watched Number) action, InForce h → InForce (watchStep settings h action) :=
    fun _ action inForce => inForce_step inForce action
  exact allSteps_of_step keep
    (fun _ action inForce => holdRespected_of_inForce inForce action) start actions

/-! ### The denial an operator would expect to be kept

The stronger promise, where a delivered denial stays owed over later turns until
one ends as denied. It fails by design where a `stop` arrives in the same poll. -/

/-- What an operator who had a hold decided is owed. -/
inductive Standing where
  | clear
  | waiting (token : String)
  | refused
  deriving DecidableEq, Repr

def Standing.receive (decision : String → Option Decision) : Standing → Standing
  | .clear => .clear
  | .refused => .refused
  | .waiting token =>
      match decision token with
      | none => .waiting token
      | some .approved => .clear
      | some .denied => .refused

def Standing.isWaiting : Standing → Bool
  | .waiting _ => true
  | .clear | .refused => false

/-- The decision a turn's poll delivers for a token, taken up or not. -/
def delivers (settings : Settings Number) (input : TurnInput Number) (token : String) :
    Option Decision :=
  if reachesCheckpoint settings input then
    resolution token (input.poll.delivered.filter fun command => command.action = .resolveHold)
  else none

structure Owed (Number : Type) where
  world : World Number
  standing : Standing

def owedStep (settings : Settings Number) (h : Owed Number) : LoopAction Number → Owed Number
  | .enterHold token => ⟨loopStep settings h.world (.enterHold token), .waiting token⟩
  | .turn input =>
      let standing := h.standing.receive (delivers settings input)
      ⟨loopStep settings h.world (.turn input),
        if standing = .refused ∧ turnStatus settings h.world input = some .heldDenied then .clear
        else standing⟩

/-- No tool runs while a hold waits, and from the turn that received the denial on
the first turn with a tool step that no stop, pause or ceiling ends is denied. -/
def DenialKept (settings : Settings Number) (h : Owed Number) : LoopAction Number → Prop
  | .enterHold _ => True
  | .turn input =>
      let standing := h.standing.receive (delivers settings input)
      (standing.isWaiting = true → ¬ RunsTool settings h.world input) ∧
      (standing = .refused → input.tool.isSome = true →
        turnStatus settings h.world input ∉
          [some .stopped, some .paused, some .budgetExceeded] →
        ¬ RunsTool settings h.world input ∧
          turnStatus settings h.world input = some .heldDenied)

instance (settings : Settings Number) (h : Owed Number) :
    ∀ action, Decidable (DenialKept settings h action)
  | .enterHold _ => .isTrue trivial
  | .turn _ => inferInstanceAs (Decidable (_ ∧ _))

/-- Costs in whole units. -/
instance wholeAmount : Amount Nat where
  zero := 0
  maxControlBudgetLimit := 1000000000000000
  add := (· + ·)
  le a b := a ≤ b
  tokensLe a b := a ≤ b
  isFinite _ := true

def sampleSettings : Settings Nat where
  agentId := "agent"
  model := "reference-model"
  syntheticInputTokens := 0
  syntheticOutputTokens := 0
  syntheticCostPerTurn := 0
  sha256Hex value := value
  secretLike _ := false

/-- A turn with a tool step whose poll delivers the commands. -/
def sampleTurn (commands : List (PendingControlCommand Nat)) : LoopAction Nat :=
  .turn ⟨"prompt", some (.text "result"), none, .commands commands, none⟩

def sampleDenial : PendingControlCommand Nat where
  commandId := "cmd-resolve-1"
  action := .resolveHold
  reasonCode := none
  parameters := [("hold_token", .text "hold-1"), ("decision", .text "denied"), ("reason", .none)]

def sampleCommand (commandId : String) (action : PendingAction) : PendingControlCommand Nat :=
  ⟨commandId, action, none, []⟩

/-- A denial polled together with a `stop` is discarded: the hold stays in force,
and the next turn ends as held. -/
theorem stop_discards_denial :
    ¬ AllSteps (owedStep sampleSettings) (DenialKept sampleSettings) ⟨World.init, .clear⟩
      [.enterHold "hold-1", sampleTurn [sampleDenial, sampleCommand "cmd-stop-1" .stop],
        sampleTurn []] := by
  decide +kernel

-- A pause in the same poll ends the turn with the hold already cleared, and the
-- decision is not kept beyond the turn: the turn after the resume calls the tool.
example :
    (run (loopStep sampleSettings) World.init
      [.enterHold "hold-1", sampleTurn [sampleDenial, sampleCommand "cmd-pause-1" .pause],
        sampleTurn [sampleCommand "cmd-resume-1" .resume]]).calls = ["reference-input"] := by
  decide +kernel

end Apex.Runtime
