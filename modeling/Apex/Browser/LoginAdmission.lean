import Apex.Browser.Sessions
import Apex.Lib.Runs

/-!
The admission of logins: one bucket for all replicas, kept in one row.

A call locks the row, samples the clock of the database and decides, so the calls
of all replicas are made one after the other. The row holds the theoretical
arrival time of the next login and the last accepted sample. Every accepted login
moves the arrival time by one token, and it never gets further than the burst
ahead of the sample, which bounds the logins of every interval.
-/

namespace Apex.Browser

open Checked Runs

/-- The row of `apex_browser_login_admission`. -/
structure AdmissionRow where
  tatUs : Int
  clockUs : Int
  deriving DecidableEq, Repr

def tokenUs : Int := 1000000

def burstUs : Int := 60000000

/-- `i64::checked_add`. -/
def checkedAdd (a b : Int) : Option Int :=
  if -2 ^ 63 ≤ a + b ∧ a + b < 2 ^ 63 then some (a + b) else none

/-- What the database made of a commit. -/
inductive CommitOutcome where
  | done
  | lost
  | unacknowledged
  deriving DecidableEq, Repr

/-- One call: the sample of the clock, or that the row or the clock could not be
read, whether the update changed the row, and what became of the commit. -/
structure LoginCall where
  sampled : Option Int
  updated : Bool
  commit : CommitOutcome
  deriving DecidableEq, Repr

/-- The decision under the lock: the new row and the expiry of the login, or
nothing where the bucket is full. -/
def decideAdmission (row : AdmissionRow) (sampled : Int) :
    Except BrowserError (Option (AdmissionRow × Int)) := do
  ensure (0 ≤ row.tatUs && 0 ≤ row.clockUs && 0 ≤ sampled && row.clockUs ≤ sampled)
    BrowserError.unavailable
  let previousLimit ← require (checkedAdd row.clockUs burstUs) BrowserError.unavailable
  ensure (row.tatUs ≤ previousLimit) BrowserError.unavailable
  let limit ← require (checkedAdd sampled burstUs) BrowserError.unavailable
  let candidate ← require (checkedAdd (max row.tatUs sampled) tokenUs) BrowserError.unavailable
  if limit < candidate then return none
  let expiresAt ← require (checkedAdd (sampled.tdiv tokenUs) 600) BrowserError.unavailable
  return some (⟨candidate, sampled⟩, expiresAt)

/-- The answer of a call and the row it leaves. A commit that was not acknowledged
may have been made. -/
def admitWithClock (row : AdmissionRow) (call : LoginCall) :
    Except BrowserError Int × AdmissionRow :=
  match call.sampled with
  | none => (.error .unavailable, row)
  | some sampled =>
      match decideAdmission row sampled with
      | .error e => (.error e, row)
      | .ok none => (.error (if call.commit = .done then .rateLimited else .unavailable), row)
      | .ok (some (after, expiresAt)) =>
          if !call.updated then (.error .unavailable, row)
          else
            match call.commit with
            | .done => (.ok expiresAt, after)
            | .lost => (.error .unavailable, row)
            | .unacknowledged => (.error .unavailable, after)

/-- The row, and the samples of the logins that were admitted. -/
structure AdmissionLog where
  row : AdmissionRow
  admitted : List Int

/-- The row the schema inserts. -/
def AdmissionLog.start : AdmissionLog :=
  ⟨⟨0, 0⟩, []⟩

def admissionStep (log : AdmissionLog) (call : LoginCall) : AdmissionLog where
  row := (admitWithClock log.row call).2
  admitted :=
    match admitWithClock log.row call with
    | (.ok _, _) => call.sampled.toList ++ log.admitted
    | (.error _, _) => log.admitted

/-- How many of the samples lie in the interval of a length from `first` on. -/
def samplesWithin (first : Int) (length : Nat) (samples : List Int) : Nat :=
  samples.countP fun sampled => first ≤ sampled && sampled ≤ first + length

/-! ### One call -/

variable {row after : AdmissionRow} {log : AdmissionLog} {call : LoginCall} {sampled : Int}

/-- The sample is accepted, with this row. -/
structure AcceptedBy (row : AdmissionRow) (sampled : Int) (after : AdmissionRow) : Prop where
  later : row.clockUs ≤ sampled
  room : max row.tatUs sampled + tokenUs ≤ sampled + burstUs
  is : after = ⟨max row.tatUs sampled + tokenUs, sampled⟩

theorem checkedAdd_eq_some {a b c} (added : checkedAdd a b = some c) : c = a + b := by
  unfold checkedAdd at added
  split_ifs at added
  exact (Option.some.inj added).symm

theorem acceptedBy_of_decideAdmission {expiresAt}
    (decided : decideAdmission row sampled = .ok (some (after, expiresAt))) :
    AcceptedBy row sampled after := by
  simp only [decideAdmission, bind_eq_ok, ensure_eq_ok, require_eq_ok, Bool.and_eq_true,
    decide_eq_true_eq] at decided
  obtain ⟨_, ⟨-, later⟩, _, -, _, -, limit, atLimit, candidate, added, decided⟩ := decided
  split_ifs at decided with full
  · cases decided
  · obtain ⟨_, -, is⟩ := bind_eq_ok.mp decided
    obtain ⟨rfl, -⟩ := Prod.mk.inj (Option.some.inj (Except.ok.inj is))
    rw [checkedAdd_eq_some added, checkedAdd_eq_some atLimit] at full
    exact ⟨later, Int.not_lt.mp full, by rw [checkedAdd_eq_some added]⟩

/-- A call is refused and leaves the row, or its sample is accepted. -/
theorem admitWithClock_cases (row : AdmissionRow) (call : LoginCall) :
    (∃ e, admitWithClock row call = (.error e, row)) ∨
      ∃ sampled after, call.sampled = some sampled ∧ AcceptedBy row sampled after ∧
        ((∃ e, admitWithClock row call = (.error e, after)) ∨
          ∃ expiresAt, admitWithClock row call = (.ok expiresAt, after)) := by
  unfold admitWithClock
  cases read : call.sampled with
  | none => exact .inl ⟨_, rfl⟩
  | some sampled =>
    dsimp only
    cases decided : decideAdmission row sampled with
    | error e => exact .inl ⟨_, rfl⟩
    | ok decision =>
      rcases decision with _ | ⟨after, expiresAt⟩
      · exact .inl ⟨_, rfl⟩
      have accepted := acceptedBy_of_decideAdmission decided
      dsimp only
      split_ifs
      · exact .inl ⟨_, rfl⟩
      cases call.commit with
      | done => exact .inr ⟨sampled, after, rfl, accepted, .inr ⟨_, rfl⟩⟩
      | lost => exact .inl ⟨_, rfl⟩
      | unacknowledged => exact .inr ⟨sampled, after, rfl, accepted, .inl ⟨_, rfl⟩⟩

/-! ### Whole runs -/

theorem samplesWithin_cons (first : Int) (length : Nat) (sampled : Int) (samples : List Int) :
    samplesWithin first length (sampled :: samples) = samplesWithin first length samples +
      if first ≤ sampled ∧ sampled ≤ first + length then 1 else 0 := by
  simp [samplesWithin, List.countP_cons]

/-- The debt is within the burst of the last accepted sample, and pays for the
logins of every interval. -/
structure AdmissionLog.Paid (log : AdmissionLog) : Prop where
  debt : log.row.tatUs ≤ log.row.clockUs + burstUs
  past : ∀ sampled ∈ log.admitted, sampled ≤ log.row.clockUs
  paid : ∀ first length, samplesWithin first length log.admitted = 0 ∨
    first + samplesWithin first length log.admitted * tokenUs ≤ log.row.tatUs
  bounded : ∀ first length,
    samplesWithin first length log.admitted * tokenUs ≤ length + burstUs

/-- An accepted sample pays for itself. -/
theorem AdmissionLog.Paid.admit (paid : log.Paid) (accepted : AcceptedBy log.row sampled after) :
    AdmissionLog.Paid ⟨after, sampled :: log.admitted⟩ := by
  obtain ⟨later, room, rfl⟩ := accepted
  refine ⟨room, ?_, fun first length => ?_, fun first length => ?_⟩
  · exact List.forall_mem_cons.mpr
      ⟨Int.le_refl _, fun earlier mem => Int.le_trans (paid.past earlier mem) later⟩
  · have before := paid.paid first length
    rw [samplesWithin_cons]
    simp only [tokenUs, burstUs] at *
    split_ifs <;> omega
  · have before := paid.paid first length
    have bounded := paid.bounded first length
    rw [samplesWithin_cons]
    simp only [tokenUs, burstUs] at *
    split_ifs <;> omega

/-- Debt that was taken on for a login whose commit was not acknowledged. -/
theorem AdmissionLog.Paid.charge (paid : log.Paid) (accepted : AcceptedBy log.row sampled after) :
    AdmissionLog.Paid ⟨after, log.admitted⟩ := by
  obtain ⟨later, room, rfl⟩ := accepted
  refine ⟨room, fun earlier mem => Int.le_trans (paid.past earlier mem) later,
    fun first length => ?_, paid.bounded⟩
  have before := paid.paid first length
  simp only [tokenUs] at *
  omega

theorem AdmissionLog.Paid.step (paid : log.Paid) (call : LoginCall) :
    (admissionStep log call).Paid := by
  unfold admissionStep
  rcases admitWithClock_cases log.row call with
    ⟨e, is⟩ | ⟨sampled, after, read, accepted, ⟨e, is⟩ | ⟨expiresAt, is⟩⟩
  · rw [is]
    exact paid
  · rw [is]
    exact paid.charge accepted
  · rw [is, read]
    exact paid.admit accepted

theorem AdmissionLog.paid_start : AdmissionLog.start.Paid :=
  ⟨by decide, List.forall_mem_nil _, fun _ _ => .inl rfl, fun _ length => by
    simp [samplesWithin, start, burstUs]
    omega⟩

/-- In every run of login calls the debt is within the burst of the last accepted
sample, the samples of the admitted logins of any interval are at most sixty and
one for each second of it, and a sample before the last accepted one admits
nothing. -/
theorem logins_bounded (calls : List LoginCall) :
    Always admissionStep (fun log => log.row.tatUs ≤ log.row.clockUs + burstUs ∧
        (∀ sampled ∈ log.admitted, sampled ≤ log.row.clockUs) ∧
        ∀ first length, samplesWithin first length log.admitted ≤ 60 + length / 1000000)
      .start calls ∧
      AllSteps admissionStep (fun log call => ∀ sampled, call.sampled = some sampled →
        sampled < log.row.clockUs → ∀ expiresAt, (admitWithClock log.row call).1 ≠ .ok expiresAt)
        .start calls := by
  constructor
  · refine (always_of_step (fun _ call paid => paid.step call) AdmissionLog.paid_start
      calls).mono ?_
    intro log paid
    refine ⟨paid.debt, paid.past, fun first length => ?_⟩
    have bounded := paid.bounded first length
    simp only [tokenUs, burstUs] at bounded
    omega
  · have refused (log : AdmissionLog) (call : LoginCall) (sampled : Int)
        (read : call.sampled = some sampled) (early : sampled < log.row.clockUs)
        (expiresAt : Int) : (admitWithClock log.row call).1 ≠ .ok expiresAt := by
      intro ok
      rcases admitWithClock_cases log.row call with
        ⟨e, is⟩ | ⟨accepted, after, read', ⟨later, -, -⟩, -⟩
      · rw [is] at ok
        cases ok
      · cases read.symm.trans read'
        exact Int.not_le.mpr early later
    exact allSteps_of_step (fun _ call paid => paid.step call) (fun log call _ => refused log call)
      AdmissionLog.paid_start calls

/-- Sixty logins at one instant, and one more a second later. -/
example : (run admissionStep .start (List.replicate 61 ⟨some 5000000, true, .done⟩ ++
    [⟨some 6000000, true, .done⟩, ⟨some 6000000, true, .done⟩])).admitted.length = 61 := by
  decide +kernel

end Apex.Browser
