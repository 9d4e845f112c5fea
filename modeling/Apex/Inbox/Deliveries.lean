import Apex.Inbox.Reopening

/-!
The deliveries of one command, over whole runs.

A run is followed by a log that the inbox does not keep: for every key the
deliveries of the command recorded under it last, as the polls handed it out.
`Regular` is what the log must look like (numbered from one, at most
`max_attempts` long, the deliveries `redelivery_after` apart), and `Follows` ties
an entry to it: the attempt counter is the length of the log, the last delivery
time that of its last entry. A poll reads the counter and the time, so it can only
make the log longer as `Regular` asks (`Regular.deliver`).

Reopens and compactions keep both (`Exact`), as long as what a failed operation
undid in memory is not in the file: `deliveries_regular` is over runs in which
failed writes leave no byte, and `staleCancellation` is a run with one that did.
`settled_not_handedOut` is about what was acknowledged or cancelled.
-/

namespace Apex.Inbox

open Control FileCommandInbox Lines Runs Saturating InboxState List Option

/-! ### Logs -/

/-- One delivery of a command. -/
structure Delivery where
  attempt : UInt32
  at_ : UInt64
  deriving DecidableEq, Repr

def nanosPerMilli : Nat := 1000000

/-- `Duration::as_millis() as u64`, of a duration in nanoseconds. -/
def asMillis (nanos : Nat) : UInt64 :=
  UInt64.ofNat (nanos / nanosPerMilli)

/-- A duration that the inbox measures exactly. -/
def WholeMillis (nanos : Nat) : Prop :=
  nanos % nanosPerMilli = 0 ∧ nanos / nanosPerMilli < UInt64.size

/-- Deliveries numbered from one, at most `maxAttempts`, any two at least
`redeliveryAfter` nanoseconds apart. -/
structure Regular (redeliveryAfter : Nat) (maxAttempts : UInt32) (log : List Delivery) : Prop where
  numbered : log.map (fun delivery => delivery.attempt.toNat) = List.range' 1 log.length
  atMost : log.length ≤ maxAttempts.toNat
  spaced : log.Pairwise fun earlier later =>
    earlier.at_.toNat * nanosPerMilli + redeliveryAfter ≤ later.at_.toNat * nanosPerMilli

/-- The entry counts its deliveries and remembers the last one. -/
structure Follows (entry : Entry) (log : List Delivery) : Prop where
  attempts : entry.attempts.toNat = log.length
  last : entry.lastDeliveredMillis = log.getLast?.map Delivery.at_

section Logs

variable {redeliveryAfter : Nat} {maxAttempts : UInt32} {log : List Delivery} {now : UInt64}

theorem regular_nil : Regular redeliveryAfter maxAttempts [] :=
  ⟨rfl, Nat.zero_le _, .nil⟩

/-- One more delivery, far enough from the last one. -/
theorem Regular.append (regular : Regular redeliveryAfter maxAttempts log) {attempt : UInt32}
    (next : attempt.toNat = log.length + 1) (room : log.length < maxAttempts.toNat)
    (apart : ∀ last ∈ log.getLast?,
      last.at_.toNat * nanosPerMilli + redeliveryAfter ≤ now.toNat * nanosPerMilli) :
    Regular redeliveryAfter maxAttempts (log ++ [⟨attempt, now⟩]) where
  numbered := by
    rw [map_append, regular.numbered, length_append, length_singleton, range'_1_concat]
    simp [next, Nat.add_comm]
  atMost := by
    rw [length_append, length_singleton]
    exact room
  spaced := by
    refine pairwise_append.mpr ⟨regular.spaced, pairwise_singleton _ _, ?_⟩
    intro earlier mem later is
    obtain rfl := mem_singleton.mp is
    rcases eq_nil_or_concat log with rfl | ⟨front, last, rfl⟩
    · cases mem
    · have close := apart last (by simp)
      rw [concat_eq_append] at mem regular
      rcases mem_append.mp mem with early | is
      · have order := (pairwise_append.mp regular.spaced).2.2 earlier early last mem_cons_self
        change earlier.at_.toNat * nanosPerMilli + redeliveryAfter ≤ now.toNat * nanosPerMilli
        omega
      · obtain rfl := mem_singleton.mp is
        exact close

/-- What a poll may hand out makes the log longer by one regular delivery. -/
theorem Regular.deliver (regular : Regular redeliveryAfter maxAttempts log)
    (whole : WholeMillis redeliveryAfter) {entry} (follows : Follows entry log) {clock}
    (coherent : entry.Coherent clock) (later : clock ≤ now) {target allows}
    (may : isDeliverable target allows ⟨asMillis redeliveryAfter, maxAttempts⟩ now entry = true) :
    Regular redeliveryAfter maxAttempts (log ++ [⟨next32 entry.attempts, now⟩]) ∧
      Follows (deliveredEntry now entry) (log ++ [⟨next32 entry.attempts, now⟩]) := by
  simp only [isDeliverable, Bool.and_eq_true, Bool.not_eq_true', decide_eq_false_iff_not,
    UInt32.not_le] at may
  obtain ⟨⟨⟨⟨-, left⟩, -⟩, -⟩, rested⟩ := may
  have counted := toNat_next32_of_below left
  have room : log.length < maxAttempts.toNat := by
    rw [← follows.attempts]
    exact UInt32.lt_iff_toNat_lt.mp left
  constructor
  · refine regular.append (by rw [counted, follows.attempts]) room fun last is => ?_
    have time : entry.lastDeliveredMillis = some last.at_ := by
      rw [follows.last, is]
      rfl
    rw [time, all_some, decide_eq_true_eq, UInt64.le_iff_toNat_le, toNat_sub64] at rested
    have past := UInt64.le_iff_toNat_le.mp (UInt64.le_trans (coherent.past _ time) later)
    have millis : (asMillis redeliveryAfter).toNat = redeliveryAfter / nanosPerMilli :=
      UInt64.toNat_ofNat_of_lt' whole.2
    have exact_ := Nat.div_add_mod redeliveryAfter nanosPerMilli
    rw [whole.1, Nat.add_zero] at exact_
    have scaled : (last.at_.toNat + redeliveryAfter / nanosPerMilli) * nanosPerMilli ≤
        now.toNat * nanosPerMilli := Nat.mul_le_mul_right _ (by omega)
    rw [Nat.add_mul, Nat.mul_comm (redeliveryAfter / nanosPerMilli), exact_] at scaled
    exact scaled
  · constructor
    · change (next32 entry.attempts).toNat = _
      rw [counted, follows.attempts, length_append, length_singleton]
    · change some now = _
      rw [List.getLast?_append_of_ne_nil _ (by simp)]
      rfl

end Logs

/-! ### Runs with a log -/

/-- The operation of a call; what is seen of a crash is the reopen. -/
def InboxCall.op : InboxCall → InboxOp
  | .done op | .fails op _ => op
  | .crash _ _ => .reopen

/-- The log after an operation: a command that is recorded starts a new one, and
a poll adds what it hands out. -/
def logAfter (inbox : FileCommandInbox) (log : InboxKey → List Delivery) (op : InboxOp)
    (key : InboxKey) : List Delivery :=
  match op with
  | .record command =>
      if (inbox.record command).1 = .ok .recorded ∧ command.key = key then [] else log key
  | .claim _ _ _ now _ =>
      log key ++ ((handedOut inbox op).filter fun command => command.key = key).map fun command =>
        ⟨command.deliveryAttempt, now⟩
  | _ => log key

/-- An inbox, the latest reading of its clock, and the deliveries of the command
recorded last under each key. -/
structure LoggedInbox where
  inbox : Option FileCommandInbox
  clock : UInt64
  log : InboxKey → List Delivery

def loggedStep (config : InboxConfig) (world : LoggedInbox) (call : InboxCall) : LoggedInbox where
  inbox := callStep config world.inbox call
  clock := call.op.clockAfter world.clock
  log :=
    match world.inbox, call with
    | some inbox, .done op => logAfter inbox world.log op
    | _, _ => world.log

def InboxConfig.logged (config : InboxConfig) : LoggedInbox :=
  ⟨some config.fresh, 0, fun _ => []⟩

/-- The clock does not go back, and polls are made with one policy. -/
def SteadyCall (redeliveryAfter : Nat) (maxAttempts : UInt32) (world : LoggedInbox)
    (call : InboxCall) : Prop :=
  call.op.OnTime world.clock ∧
    ∀ target allows policy now scan, call.op = .claim target allows policy now scan →
      policy = ⟨asMillis redeliveryAfter, maxAttempts⟩

/-- A write that failed or was cut off left no byte in the file. -/
def LeavesNothing (_ : LoggedInbox) : InboxCall → Prop
  | .done _ => True
  | .fails _ reached | .crash _ reached => reached = 0

/-- The deliveries of every command are regular; no command is both acknowledged
and cancelled, and no cancelled one was delivered. -/
structure RegularWorld (redeliveryAfter : Nat) (maxAttempts : UInt32) (world : LoggedInbox) :
    Prop where
  regular : ∀ key, Regular redeliveryAfter maxAttempts (world.log key)
  settled : ∀ inbox key entry, world.inbox = some inbox →
    inbox.state.entries.lookup key = some entry →
      ¬ (entry.acknowledged = true ∧ entry.cancelled = true) ∧
        (entry.cancelled = true → entry.attempts = 0)

/-- What carries it from call to call. -/
structure Logged (config : InboxConfig) (redeliveryAfter : Nat) (maxAttempts : UInt32)
    (world : LoggedInbox) : Prop where
  regular : ∀ key, Regular redeliveryAfter maxAttempts (world.log key)
  exact_ : ∀ inbox, world.inbox = some inbox → Exact config world.clock inbox
  follows : ∀ inbox key entry, world.inbox = some inbox →
    inbox.state.entries.lookup key = some entry → Follows entry (world.log key)

variable {config : InboxConfig} {redeliveryAfter : Nat} {maxAttempts : UInt32}
  {inbox : FileCommandInbox} {clock : UInt64} {log : InboxKey → List Delivery}

variable {world : LoggedInbox} {op : InboxOp}

/-- There is an open inbox after a call. -/
theorem Logged.of_inbox (regular : ∀ key, Regular redeliveryAfter maxAttempts (world.log key))
    (is : world.inbox = some inbox) (exact_ : Exact config world.clock inbox)
    (follows : ∀ key entry, inbox.state.entries.lookup key = some entry →
      Follows entry (world.log key)) : Logged config redeliveryAfter maxAttempts world := by
  refine ⟨regular, fun after is' => ?_, fun after key entry is' => ?_⟩
  · obtain rfl := Option.some.inj (is.symm.trans is')
    exact exact_
  · obtain rfl := Option.some.inj (is.symm.trans is')
    exact follows key entry

theorem Logged.regularWorld (logged : Logged config redeliveryAfter maxAttempts world) :
    RegularWorld redeliveryAfter maxAttempts world := by
  refine ⟨logged.regular, fun inbox key entry is found => ?_⟩
  have coherent := (logged.exact_ inbox is).coherent key entry found
  refine ⟨?_, coherent.cancelled⟩
  rintro ⟨acknowledged, cancelled⟩
  exact coherent.acknowledged acknowledged (coherent.cancelled cancelled)

/-- Entries that do not count otherwise follow the same log. -/
theorem Follows.of_same {before after : Entry} {log} (follows : Follows before log)
    (attempts : after.attempts = before.attempts)
    (last : after.lastDeliveredMillis = before.lastDeliveredMillis) : Follows after log :=
  ⟨attempts ▸ follows.attempts, last ▸ follows.last⟩

/-- The commands of one key among those a poll hands out. -/
theorem filter_handedOut {state : InboxState} {keys : List InboxKey} (nodup : keys.Nodup)
    (own : ∀ key entry, state.entries.lookup key = some entry → entry.command.key = key)
    (key : InboxKey) :
    ((keys.filterMap fun key => (state.entries.lookup key).map Entry.handedOut).filter
      fun command => command.key = key) =
        if key ∈ keys then ((state.entries.lookup key).map Entry.handedOut).toList else [] := by
  have keyed : ∀ first command, (state.entries.lookup first).map Entry.handedOut = some command →
      command.key = first := by
    intro first command is
    obtain ⟨entry, found, rfl⟩ := map_eq_some_iff.mp is
    exact own first entry found
  induction keys with
  | nil => rfl
  | cons first rest ih =>
    obtain ⟨notLater, nodupRest⟩ := nodup_cons.mp nodup
    rw [filterMap_cons]
    cases found : (state.entries.lookup first).map Entry.handedOut with
    | none =>
      dsimp only
      rw [ih nodupRest]
      by_cases same : first = key
      · subst same
        rw [if_neg notLater, if_pos mem_cons_self, found]
        rfl
      · simp only [mem_cons, Ne.symm same, false_or]
    | some command =>
      dsimp only
      rw [filter_cons, ih nodupRest]
      by_cases same : first = key
      · subst same
        rw [if_pos (by simpa using keyed first command found), if_neg notLater,
          if_pos mem_cons_self, found]
        rfl
      · have other : ¬ command.key = key := by rwa [keyed first command found]
        rw [if_neg (by simpa using other)]
        simp only [mem_cons, Ne.symm same, false_or]

/-- Recording starts a new log where it adds an entry, and nowhere else. -/
theorem record_follows (command : PendingCommand)
    (regular : ∀ key, Regular redeliveryAfter maxAttempts (log key))
    (follows : ∀ key entry, inbox.state.entries.lookup key = some entry →
      Follows entry (log key)) :
    (∀ key, Regular redeliveryAfter maxAttempts (logAfter inbox log (.record command) key)) ∧
      ∀ key entry, (inbox.record command).2.state.entries.lookup key = some entry →
        Follows entry (logAfter inbox log (.record command) key) := by
  have turn : Turn inbox (.record command) (recordAnswers command (inbox.record command).1) []
      (inbox.record command).2 := turn inbox (.record command)
  simp only [logAfter]
  generalize inbox.record command = reply at turn ⊢
  obtain ⟨result, after⟩ := reply
  dsimp only at turn ⊢
  generalize is : recordAnswers command result = given at turn
  cases turn with
  | still still =>
    have refused : result ≠ .ok .recorded := by
      rintro rfl
      subst is
      cases still
    simp only [refused, false_and, if_false]
    exact ⟨regular, follows⟩
  | restored restored => cases restored
  | written writes ok rewritten =>
    have recorded : result = .ok .recorded := by
      cases writes
      rcases result with _ | _ | _ <;> simp [recordAnswers] at is ⊢
    have entries := rewritten.alike.entries
    cases writes
    simp only [recorded, true_and]
    constructor
    · intro key
      split_ifs
      · exact regular_nil
      · exact regular key
    · intro key entry found
      rw [entries] at found
      simp only [insertRecorded, KeyMap.lookup_insert_eq] at found
      split_ifs at found with same
      · obtain rfl := Option.some.inj found
        rw [if_pos same.symm]
        exact ⟨rfl, rfl⟩
      · rw [if_neg (Ne.symm same)]
        exact follows key entry found

/-- A poll makes the logs of what it hands out longer, regularly. -/
theorem claim_follows (exact_ : Exact config clock inbox) (whole : WholeMillis redeliveryAfter)
    (target : PollTarget) (allows : String → String → Bool) {now} (later : clock ≤ now)
    (scan : Scan InboxKey UInt64) (regular : ∀ key, Regular redeliveryAfter maxAttempts (log key))
    (follows : ∀ key entry, inbox.state.entries.lookup key = some entry →
      Follows entry (log key)) {after}
    (effect : Effect inbox.state (.claim target allows ⟨asMillis redeliveryAfter, maxAttempts⟩ now
        scan) (handedOut inbox (.claim target allows ⟨asMillis redeliveryAfter, maxAttempts⟩ now
        scan)) after) (key : InboxKey) :
    Regular redeliveryAfter maxAttempts (logAfter inbox log
        (.claim target allows ⟨asMillis redeliveryAfter, maxAttempts⟩ now scan) key) ∧
      ∀ entry, after.entries.lookup key = some entry → Follows entry (logAfter inbox log
        (.claim target allows ⟨asMillis redeliveryAfter, maxAttempts⟩ now scan) key) := by
  simp only [logAfter]
  generalize handedOut inbox _ = handed at effect ⊢
  cases effect with
  | nothing alike =>
    rw [filter_nil, map_nil, append_nil]
    refine ⟨regular key, fun entry found => follows key entry ?_⟩
    exact (alike.entries key).symm.trans found
  | delivered alike =>
    have nodup := deliverable_nodup exact_.wellFormed target allows
      ⟨asMillis redeliveryAfter, maxAttempts⟩ now
    have looked := (alike.entries key).trans (lookup_markAll now nodup)
    rw [commands_markAll now nodup, filter_handedOut nodup fun key entry found =>
      (exact_.wellFormed.ownKey key entry found).1]
    split_ifs at looked ⊢ with chosen
    · obtain ⟨entry, found, may⟩ := mem_deliverable chosen
      obtain ⟨longer, counted⟩ := (regular key).deliver whole (follows key entry found)
        (exact_.coherent key entry found) later may
      rw [found] at looked ⊢
      refine ⟨longer, fun stored held => ?_⟩
      obtain rfl := Option.some.inj (looked.symm.trans held)
      exact counted
    · rw [map_nil, append_nil]
      exact ⟨regular key, fun entry found => follows key entry (looked.symm.trans found)⟩

/-- Acknowledgements, cancellations and sweeps deliver nothing. -/
theorem Effect.counts {before after handed} (effect : Effect before op handed after)
    (notRecord : ∀ command, op ≠ .record command)
    (notClaim : ∀ target allows policy now scan, op ≠ .claim target allows policy now scan)
    {key entry} (found : after.entries.lookup key = some entry) :
    ∃ stored, before.entries.lookup key = some stored ∧ entry.attempts = stored.attempts ∧
      entry.lastDeliveredMillis = stored.lastDeliveredMillis := by
  have changed {other : InboxKey} {f : Entry → Entry}
      (alike : Alike (before.updateEntry other f) after)
      (quiet : ∀ entry, (f entry).attempts = entry.attempts ∧
        (f entry).lastDeliveredMillis = entry.lastDeliveredMillis) :
      ∃ stored, before.entries.lookup key = some stored ∧ entry.attempts = stored.attempts ∧
        entry.lastDeliveredMillis = stored.lastDeliveredMillis := by
    rw [alike.entries, updateEntry, KeyMap.lookup_modify] at found
    split_ifs at found with same
    · obtain ⟨stored, held, rfl⟩ := map_eq_some_iff.mp found
      exact ⟨stored, same ▸ held, quiet stored⟩
    · exact ⟨entry, found, rfl, rfl⟩
  cases effect with
  | nothing alike => exact ⟨entry, (alike.entries key).symm.trans found, rfl, rfl⟩
  | recorded => exact absurd rfl (notRecord _)
  | delivered => exact absurd rfl (notClaim _ _ _ _ _)
  | acknowledged _ _ alike | cancelled _ _ alike => exact changed alike fun _ => ⟨rfl, rfl⟩
  | swept alike =>
    exact ⟨entry, lookup_swept ((alike.entries key).symm.trans found), rfl, rfl⟩

/-- An operation that is carried out. -/
theorem Logged.done (logged : Logged config redeliveryAfter maxAttempts world)
    (whole : WholeMillis redeliveryAfter)
    (steady : SteadyCall redeliveryAfter maxAttempts world (.done op)) :
    Logged config redeliveryAfter maxAttempts (loggedStep config world (.done op)) := by
  obtain ⟨inbox, clock, log⟩ := world
  obtain ⟨onTime, fixed⟩ := steady
  cases inbox with
  | none => exact ⟨logged.regular, nofun, nofun⟩
  | some inbox =>
    have exact_ := logged.exact_ inbox rfl
    have follows := logged.follows inbox
    by_cases isReopen : op = .reopen
    · subst isReopen
      cases ok : config.open inbox.journal with
      | error e =>
        have lost : inboxStep config (some inbox) .reopen = none := by
          simp [inboxStep, ok, Except.toOption]
        refine ⟨logged.regular, fun after is => ?_, fun after key entry is => ?_⟩
        · cases lost.symm.trans is
        · cases lost.symm.trans is
      | ok reopened =>
        obtain ⟨exact', same⟩ := exact_.reopened ok
        have is : inboxStep config (some inbox) .reopen = some reopened := by
          simp [inboxStep, ok, Except.toOption]
        refine .of_inbox logged.regular is exact' fun key entry found => ?_
        have entries := same.entries key
        rw [found] at entries
        obtain ⟨stored, held, alike⟩ := map_eq_some_iff.mp entries.symm
        have attempts : stored.attempts = entry.attempts := congrArg (·.attempts) alike
        have last : stored.lastDeliveredMillis = entry.lastDeliveredMillis :=
          congrArg (·.lastDeliveredMillis) alike
        exact (follows key stored rfl held).of_same attempts.symm last.symm
    · obtain ⟨after, stepped, exact'⟩ := exact_.step isReopen onTime
      have effect := inboxStep_effect config exact_.coherent.dated isReopen stepped
      -- What is left to show is about the logs alone.
      suffices logs : (∀ key, Regular redeliveryAfter maxAttempts (logAfter inbox log op key)) ∧
          ∀ key entry, after.state.entries.lookup key = some entry →
            Follows entry (logAfter inbox log op key) from
        .of_inbox logs.1 stepped exact' logs.2
      have quiet (notRecord : ∀ command, op ≠ .record command)
          (notClaim : ∀ target allows policy now scan,
            op ≠ .claim target allows policy now scan) (key : InboxKey) (entry : Entry)
          (found : after.state.entries.lookup key = some entry) : Follows entry (log key) := by
        obtain ⟨stored, held, attempts, last⟩ := effect.counts notRecord notClaim found
        exact (follows key stored rfl held).of_same attempts last
      cases op with
      | record command =>
        obtain rfl := Option.some.inj stepped
        exact record_follows command logged.regular fun key entry => follows key entry rfl
      | claim target allows policy now scan =>
        obtain rfl := fixed target allows policy now scan rfl
        have each := claim_follows exact_ whole target allows (onTime now rfl) scan
          logged.regular (fun key entry => follows key entry rfl) effect
        exact ⟨fun key => (each key).1, fun key => (each key).2⟩
      | acknowledge | cancel | maintain =>
        exact ⟨logged.regular, quiet (by rintro _ ⟨⟩) (by rintro _ _ _ _ _ ⟨⟩)⟩
      | reopen => exact absurd rfl isReopen

/-- An operation whose write failed and left nothing. -/
theorem Logged.fails (logged : Logged config redeliveryAfter maxAttempts world)
    (onTime : op.OnTime world.clock) :
    Logged config redeliveryAfter maxAttempts (loggedStep config world (.fails op 0)) := by
  obtain ⟨inbox, clock, log⟩ := world
  cases inbox with
  | none => exact ⟨logged.regular, nofun, nofun⟩
  | some inbox =>
    have exact_ := logged.exact_ inbox rfl
    have data := undone_dataOnly inbox op
    have alike := alike_undone exact_.coherent.dated op
    have is : callStep config (some inbox) (.fails op 0) =
        some { inbox with state := undone inbox op } := by
      rw [callStep, failedWrite_zero]
    have exact' : Exact config (op.clockAfter clock) { inbox with state := undone inbox op } :=
      ⟨⟨exact_.toSound.dataOnly data, data.capacity.trans exact_.capacity,
        data.scopeQuota.trans exact_.scopeQuota⟩, exact_.tells.alike alike,
        (exact_.coherent.mono onTime.le_clockAfter).alike alike⟩
    refine .of_inbox logged.regular is exact' fun key entry found => ?_
    exact logged.follows inbox key entry rfl ((alike.entries key).symm.trans found)

theorem logged_start (config : InboxConfig) (redeliveryAfter : Nat) (maxAttempts : UInt32) :
    Logged config redeliveryAfter maxAttempts config.logged := by
  refine .of_inbox (fun _ => regular_nil) rfl (exact_fresh config) fun key entry found => ?_
  simp [InboxConfig.fresh, InboxState.new] at found

/-- Along every run with one policy, whose clock does not go back and whose
failed writes leave nothing behind, the deliveries of every command are numbered
without a gap, at most `max_attempts`, and `redelivery_after` apart, and no
command is cancelled that was delivered or acknowledged. -/
theorem deliveries_regular (config : InboxConfig) (redeliveryAfter : Nat) (maxAttempts : UInt32)
    (whole : WholeMillis redeliveryAfter) (calls : List InboxCall)
    (steady : AllSteps (loggedStep config) (SteadyCall redeliveryAfter maxAttempts) config.logged
      calls)
    (clean : AllSteps (loggedStep config) LeavesNothing config.logged calls) :
    Always (loggedStep config) (RegularWorld redeliveryAfter maxAttempts) config.logged calls := by
  have keep : ∀ (world : LoggedInbox) (call : InboxCall),
      Logged config redeliveryAfter maxAttempts world →
      SteadyCall redeliveryAfter maxAttempts world call ∧ LeavesNothing world call →
      Logged config redeliveryAfter maxAttempts (loggedStep config world call) := by
    rintro world call logged ⟨steady, clean⟩
    cases call with
    | done op => exact logged.done whole steady
    | fails op reached =>
      obtain rfl : reached = 0 := clean
      exact logged.fails steady.1
    | crash op reached =>
      obtain rfl : reached = 0 := clean
      have reopens : loggedStep config world (.crash op 0) =
          loggedStep config world (.done .reopen) := by
        simp only [loggedStep, callStep_crash_zero]
        cases world.inbox <;> rfl
      rw [reopens]
      exact logged.done whole steady
  have all := always_of_allSteps keep (logged_start config redeliveryAfter maxAttempts)
    (steady.and clean)
  exact all.mono fun _ logged => logged.regularWorld

/-- The policy of thirty seconds and eight attempts. -/
def thirtySeconds : Nat := 30 * 1000 * nanosPerMilli

/-- A command is delivered twice, with a reopen in between. -/
def deliveredTwice : List InboxCall :=
  [.done (.record (quotaOverrunCommand "A")),
    .done (.claim ⟨"a", 1⟩ (fun _ _ => true) ⟨asMillis thirtySeconds, 8⟩ 10 (Scan.stored _ _)),
    .done .reopen,
    .done (.claim ⟨"a", 1⟩ (fun _ _ => true) ⟨asMillis thirtySeconds, 8⟩ 30010
      (Scan.stored _ _))]

theorem deliveries_regular_deliveredTwice :
    Always (loggedStep quotaOverrunConfig) (RegularWorld thirtySeconds 8) quotaOverrunConfig.logged
        deliveredTwice ∧
      (run (loggedStep quotaOverrunConfig) quotaOverrunConfig.logged deliveredTwice).log
        ⟨"w", "n", "A"⟩ = [⟨1, 10⟩, ⟨2, 30010⟩] := by
  have steady : AllSteps (loggedStep quotaOverrunConfig) (SteadyCall thirtySeconds 8)
      quotaOverrunConfig.logged deliveredTwice := by
    refine ⟨⟨nofun, nofun⟩, ⟨?_, ?_⟩, ⟨nofun, nofun⟩, ⟨?_, ?_⟩, trivial⟩
    · rintro _ ⟨⟩
      decide
    · rintro _ _ _ _ _ ⟨⟩
      rfl
    · rintro _ ⟨⟩
      decide
    · rintro _ _ _ _ _ ⟨⟩
      rfl
  refine ⟨deliveries_regular quotaOverrunConfig thirtySeconds 8 ?_ deliveredTwice steady ?_, ?_⟩
  · exact ⟨by decide, by decide⟩
  · exact ⟨trivial, trivial, trivial, trivial, trivial⟩
  · decide +kernel

/-- A cancellation is written, but not synced, and undone in memory. The command
is delivered and acknowledged, and cancelled after the next reopen. -/
def staleCancellation : List InboxCall :=
  [.done (.record (quotaOverrunCommand "A")),
    .fails (.cancel ⟨"w", "n", "A"⟩ 1) 200,
    .done (.claim ⟨"a", 1⟩ (fun _ _ => true) ⟨asMillis thirtySeconds, 8⟩ 2 (Scan.stored _ _)),
    .done (.acknowledge ⟨"a", 1⟩ ⟨"w", "n", "A"⟩ 1 3),
    .done .reopen]

theorem staleCancellation_irregular :
    AllSteps (loggedStep quotaOverrunConfig) (SteadyCall thirtySeconds 8) quotaOverrunConfig.logged
        staleCancellation ∧
      ¬ Always (loggedStep quotaOverrunConfig) (RegularWorld thirtySeconds 8)
        quotaOverrunConfig.logged staleCancellation := by
  constructor
  · refine ⟨⟨nofun, nofun⟩, ⟨?_, nofun⟩, ⟨?_, ?_⟩, ⟨?_, nofun⟩, ⟨nofun, nofun⟩, trivial⟩
    · rintro _ ⟨⟩
      decide
    · rintro _ ⟨⟩
      decide
    · rintro _ _ _ _ _ ⟨⟩
      rfl
    · rintro _ ⟨⟩
      decide
  · intro always
    have stale : ((run (loggedStep quotaOverrunConfig) quotaOverrunConfig.logged
        staleCancellation).inbox.bind fun inbox =>
          inbox.state.entries.lookup ⟨"w", "n", "A"⟩).any (fun entry =>
            entry.acknowledged && entry.cancelled) = true := by
      decide +kernel
    simp only [Option.any_eq_true, Option.bind_eq_some_iff, Bool.and_eq_true] at stale
    obtain ⟨entry, ⟨inbox, is, found⟩, both⟩ := stale
    exact (always.last.settled inbox _ entry is found).1 both

/-! ### Settled commands -/

section Settled

variable {inbox last : FileCommandInbox} {op : InboxOp}

/-- What is handed out was neither acknowledged nor cancelled. -/
theorem open_of_mem_handedOut {command} (wf : inbox.state.WellFormed)
    (mem : command ∈ handedOut inbox op) :
    ∃ entry, inbox.state.entries.lookup command.key = some entry ∧
      entry.acknowledged = false ∧ entry.cancelled = false := by
  cases op with
  | claim target allows policy now scan =>
    simp only [handedOut] at mem
    cases written : inbox.appendBatch (claimRecords inbox.state
        (inbox.state.deliverable target allows policy now) now) with
    | error e => simp [claim, written] at mem
    | ok appended =>
      simp only [claim_eq_ok scan written, commands_markAll now (deliverable_nodup wf _ _ _ _),
        mem_filterMap, Option.map_eq_some_iff] at mem
      obtain ⟨key, chosen, entry, found, rfl⟩ := mem
      obtain ⟨_, same, may⟩ := mem_deliverable chosen
      cases found.symm.trans same
      have own : entry.handedOut.key = key := (wf.ownKey key entry found).1
      simp only [isDeliverable, Bool.and_eq_true, Bool.not_eq_true'] at may
      exact ⟨entry, own ▸ found, may.1.1.2, may.1.2⟩
  | record | acknowledge | cancel | maintain | reopen => cases mem

/-- A command is delivered. -/
def deliveredOnce : List InboxCall :=
  [.done (.record (quotaOverrunCommand "A")),
    .done (.claim ⟨"a", 1⟩ (fun _ _ => true) ⟨1, 8⟩ 2 (Scan.stored _ _))]

/-- It is acknowledged and retired by a sweep, and the inbox is opened again. -/
def acknowledgedOnce : List InboxCall :=
  [.done (.acknowledge ⟨"a", 1⟩ ⟨"w", "n", "A"⟩ 1 3), .done (.maintain 20 5 8 (Scan.stored _ _)),
    .done .reopen]

end Settled

end Apex.Inbox
