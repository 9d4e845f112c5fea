import Apex.Lib.Checked
import Apex.Lib.Text

/-!
The telemetry clock: one wall sample, carried on by the monotonic source.

The wall sample is bound to the middle of the two monotonic reads around it, and
half their distance is added to its uncertainty. Every later read adds what has
elapsed since then and is truncated to microseconds, with the truncated part added
to the uncertainty as well. A source that unwinds poisons the sampling state.
-/

namespace Apex.Telemetry

open Checked Text

inductive ClockError where
  | monotonicBackwards
  | overflow
  | invalidMetadata
  | beforeUnixEpoch
  | poisoned
  | sourceUnavailable
  deriving DecidableEq, Repr

structure WallClockSample where
  unixNs : Nat
  resolutionNs : Nat
  uncertaintyNs : Option Nat
  deriving DecidableEq, Repr

structure ClockSnapshot where
  monotonicNs : Nat
  unixUs : Nat
  resolutionNs : Nat
  uncertaintyUs : Option Nat
  source : String
  deriving DecidableEq, Repr

structure Clock where
  anchorNs : Nat
  anchorUnixNs : Nat
  resolutionNs : Nat
  anchorUncertaintyNs : Option Nat
  sourceLabel : String
  deriving DecidableEq, Repr

/-- What the mutex of a clock guards, beside the source. -/
structure SamplingState where
  lastNs : Nat
  poisoned : Bool
  deriving DecidableEq, Repr

/-- What a source gives while a clock is made of it. -/
structure ClockSource where
  label : String
  before : Except ClockError Nat
  wall : Except ClockError WallClockSample
  after : Except ClockError Nat

/-- A later read of the source: what it returns, or that it unwinds. -/
abbrev Reading := Option (Except ClockError Nat)

def nsPerUs : Nat := 1000

/-- A number that is an error unless a condition holds. -/
def checked (holds : Bool) (e : ClockError) (value : Nat) : Except ClockError Nat := do
  ensure holds e
  return value

def narrowU64 (value : Nat) : Except ClockError Nat :=
  checked (value < 2 ^ 64) .overflow value

/-- `checked_add` of integers of some bits. -/
def checkedAdd (bits a b : Nat) : Except ClockError Nat :=
  checked (a + b < 2 ^ bits) .overflow (a + b)

/-- `checked_sub`. -/
def checkedSub (a b : Nat) : Except ClockError Nat :=
  checked (b ≤ a) .monotonicBackwards (a - b)

def ceilMicroseconds (ns : Nat) : Except ClockError Nat := do
  narrowU64 (← checkedAdd 128 (ns / nsPerUs) (if ns % nsPerUs = 0 then 0 else 1))

def withSource (source : ClockSource) : Except ClockError (Clock × SamplingState) := do
  ensure (!(256 < source.label.utf8ByteSize ||
    (trimMatches isWhitespace source.label.toList).isEmpty || source.label.toList.any isControl))
    ClockError.invalidMetadata
  let beforeNs ← narrowU64 (← source.before)
  let wall ← source.wall
  let afterNs ← narrowU64 (← source.after)
  let windowNs ← checkedSub afterNs beforeNs
  ensure (wall.resolutionNs ≠ 0) ClockError.invalidMetadata
  let _ ← narrowU64 (wall.unixNs / nsPerUs)
  let anchorNs ← checkedAdd 64 beforeNs (windowNs / 2)
  let radiusNs ← checkedAdd 128 (windowNs / 2) (windowNs % 2)
  let anchorUncertaintyNs ← wall.uncertaintyNs.mapM fun ns => checkedAdd 128 ns radiusNs
  let _ ← anchorUncertaintyNs.mapM ceilMicroseconds
  return (⟨anchorNs, wall.unixNs, wall.resolutionNs, anchorUncertaintyNs, source.label⟩,
    ⟨afterNs, false⟩)

namespace Clock

variable (clock : Clock)

/-- What `now` makes of a read that returned. -/
def snapshot (lastNs : Nat) (sample : Except ClockError Nat) :
    Except ClockError ClockSnapshot := do
  let monotonicNs ← narrowU64 (← sample)
  ensure (lastNs ≤ monotonicNs) ClockError.monotonicBackwards
  let elapsedNs ← checkedSub monotonicNs clock.anchorNs
  let unixNs ← checkedAdd 128 clock.anchorUnixNs elapsedNs
  let unixUs ← narrowU64 (unixNs / nsPerUs)
  let uncertaintyUs ← clock.anchorUncertaintyNs.mapM fun ns => do
    ceilMicroseconds (← checkedAdd 128 ns (unixNs % nsPerUs))
  return ⟨monotonicNs, unixUs, clock.resolutionNs, uncertaintyUs, clock.sourceLabel⟩

/-- The answer of a call, if it does not unwind, and the state it leaves. -/
def now (state : SamplingState) (reading : Reading) :
    Option (Except ClockError ClockSnapshot) × SamplingState :=
  if state.poisoned then (some (.error .poisoned), state)
  else
    match reading with
    | none => (none, { state with poisoned := true })
    | some sample =>
        match clock.snapshot state.lastNs sample with
        | .error e => (some (.error e), state)
        | .ok snapshot => (some (.ok snapshot), { state with lastNs := snapshot.monotonicNs })

/-- The snapshots of successful calls, in the order of the mutex. -/
def snapshots : SamplingState → List Reading → List ClockSnapshot
  | _, [] => []
  | state, reading :: rest =>
      let called := clock.now state reading
      match called.1 with
      | some (.ok snapshot) => snapshot :: snapshots called.2 rest
      | _ => snapshots called.2 rest

end Clock

/-! ### One call -/

variable {source : ClockSource} {clock : Clock} {state : SamplingState} {reading : Reading}
  {snapshot : ClockSnapshot}

theorem checked_eq_ok {holds e value value'} :
    checked holds e value = .ok value' ↔ holds = true ∧ value = value' := by
  simp only [checked, bind_eq_ok, ensure_eq_ok, pure_eq_ok, exists_const]

/-- The microseconds are rounded up. -/
theorem le_ceilMicroseconds {ns us} (ok : ceilMicroseconds ns = .ok us) :
    ns ≤ us * nsPerUs := by
  simp only [ceilMicroseconds, narrowU64, checkedAdd, bind_eq_ok, checked_eq_ok] at ok
  obtain ⟨_, ⟨-, rfl⟩, -, rfl⟩ := ok
  unfold nsPerUs
  split_ifs <;> omega

theorem mapM_eq_ok {α β : Type} {f : α → Except ClockError β} {found : Option α} {mapped}
    (ok : found.mapM f = .ok mapped) {a} (is : found = some a) :
    ∃ b, f a = .ok b ∧ mapped = some b := by
  subst is
  obtain ⟨b, computed, rfl⟩ := map_eq_ok.mp ok
  exact ⟨b, computed, rfl⟩

/-- The wall time of a monotonic reading, in nanoseconds. -/
def Clock.unixNs (clock : Clock) (monotonicNs : Nat) : Nat :=
  clock.anchorUnixNs + (monotonicNs - clock.anchorNs)

/-- The snapshot is what the clock makes of its reading. -/
structure Clock.Maps (clock : Clock) (lastNs : Nat) (snapshot : ClockSnapshot) : Prop where
  lastNs_le : lastNs ≤ snapshot.monotonicNs
  anchorNs_le : clock.anchorNs ≤ snapshot.monotonicNs
  unixUs_eq : snapshot.unixUs = clock.unixNs snapshot.monotonicNs / nsPerUs
  uncertainty : ∀ ns, clock.anchorUncertaintyNs = some ns → ∃ us,
    snapshot.uncertaintyUs = some us ∧
      ns + clock.unixNs snapshot.monotonicNs % nsPerUs ≤ us * nsPerUs

theorem maps_of_snapshot {lastNs sample} (ok : clock.snapshot lastNs sample = .ok snapshot) :
    sample = .ok snapshot.monotonicNs ∧ clock.Maps lastNs snapshot := by
  simp only [Clock.snapshot, narrowU64, checkedSub, checkedAdd, bind_eq_ok, checked_eq_ok,
    ensure_eq_ok, decide_eq_true_eq, pure_eq_ok] at ok
  obtain ⟨_, read, _, ⟨-, rfl⟩, _, last, _, ⟨anchor, rfl⟩, _, ⟨-, rfl⟩, _, ⟨-, rfl⟩, uncertaintyUs,
    mapped, rfl⟩ := ok
  refine ⟨read, last, anchor, rfl, fun ns is => ?_⟩
  obtain ⟨us, computed, rfl⟩ := mapM_eq_ok mapped is
  obtain ⟨_, added, ceiled⟩ := bind_eq_ok.mp computed
  obtain ⟨-, rfl⟩ := checked_eq_ok.mp added
  exact ⟨us, rfl, le_ceilMicroseconds ceiled⟩

/-- A call succeeds, and accepts its reading, or it leaves the last accepted one. -/
theorem now_cases (clock : Clock) (state : SamplingState) (reading : Reading) :
    (∃ snapshot, reading = some (.ok snapshot.monotonicNs) ∧ clock.Maps state.lastNs snapshot ∧
        clock.now state reading = (some (.ok snapshot), ⟨snapshot.monotonicNs, state.poisoned⟩)) ∨
      (∀ snapshot, (clock.now state reading).1 ≠ some (.ok snapshot)) ∧
        (clock.now state reading).2.lastNs = state.lastNs := by
  unfold Clock.now
  split_ifs
  · exact .inr ⟨nofun, rfl⟩
  · cases reading with
    | none => exact .inr ⟨nofun, rfl⟩
    | some sample =>
      dsimp only
      cases read : clock.snapshot state.lastNs sample with
      | error e => exact .inr ⟨nofun, rfl⟩
      | ok snapshot =>
        obtain ⟨is, maps⟩ := maps_of_snapshot read
        exact .inl ⟨snapshot, by rw [is], maps, rfl⟩

/-! ### The order of the snapshots -/

/-- Neither time of the second snapshot is before that of the first. -/
def NotBefore (first second : ClockSnapshot) : Prop :=
  first.unixUs ≤ second.unixUs ∧ first.monotonicNs ≤ second.monotonicNs

theorem Clock.Maps.notBefore {lastNs lastNs' later} (maps : clock.Maps lastNs snapshot)
    (maps' : clock.Maps lastNs' later) (le : snapshot.monotonicNs ≤ later.monotonicNs) :
    NotBefore snapshot later := by
  refine ⟨?_, le⟩
  rw [maps.unixUs_eq, maps'.unixUs_eq]
  apply Nat.div_le_div_right
  exact Nat.add_le_add_left (Nat.sub_le_sub_right le _) _

/-- The snapshots of a run, with what was accepted before each. -/
theorem snapshots_spec (clock : Clock) (state : SamplingState) (readings : List Reading) :
    (∀ snapshot ∈ clock.snapshots state readings, ∃ lastNs, state.lastNs ≤ lastNs ∧
        clock.Maps lastNs snapshot) ∧
      (clock.snapshots state readings).Pairwise NotBefore := by
  induction readings generalizing state with
  | nil => exact ⟨nofun, .nil⟩
  | cons reading rest ih =>
    obtain ⟨maps', sorted⟩ := ih (clock.now state reading).2
    rw [Clock.snapshots]
    rcases now_cases clock state reading with ⟨first, -, maps, called⟩ | ⟨failed, same⟩
    · rw [called] at maps' sorted ⊢
      refine ⟨List.forall_mem_cons.mpr ⟨⟨_, Nat.le_refl _, maps⟩, ?_⟩, .cons ?_ sorted⟩
      · intro later mem
        obtain ⟨lastNs, le, maps'⟩ := maps' later mem
        exact ⟨lastNs, Nat.le_trans maps.lastNs_le le, maps'⟩
      · intro later mem
        obtain ⟨lastNs, le, maps'⟩ := maps' later mem
        exact maps.notBefore maps' (Nat.le_trans le maps'.lastNs_le)
    · rw [same] at maps'
      split
      · next is => exact absurd is (failed _)
      · exact ⟨maps', sorted⟩

/-! ### True time -/

/-- As much true time passes between two instants as the monotonic source shows. -/
def TrueRate (trueNs : ℝ → ℝ) : Prop :=
  ∀ first second, trueNs second - trueNs first = second - first

/-- At some instant between the two reads around it, the wall sample was within its
uncertainty of true time. -/
def ClockSource.Truthful (source : ClockSource) (trueNs : ℝ → ℝ) : Prop :=
  ∃ (before after uncertaintyNs : Nat) (wall : WallClockSample) (instant : ℝ),
    source.before = .ok before ∧ source.wall = .ok wall ∧ source.after = .ok after ∧
      wall.uncertaintyNs = some uncertaintyNs ∧ before ≤ instant ∧ instant ≤ after ∧
      |wall.unixNs - trueNs instant| ≤ uncertaintyNs

/-- The snapshot names an uncertainty, and is within it of the true time of its
reading. -/
def ClockSnapshot.Within (snapshot : ClockSnapshot) (trueNs : ℝ → ℝ) : Prop :=
  ∃ us, snapshot.uncertaintyUs = some us ∧
    |((snapshot.unixUs * nsPerUs : Nat) : ℝ) - trueNs snapshot.monotonicNs| ≤ (us * nsPerUs : Nat)

/-- The anchor is within its uncertainty of true time. -/
theorem anchor_within {trueNs} (rate : TrueRate trueNs) (truthful : source.Truthful trueNs)
    (made : withSource source = .ok (clock, state)) :
    ∃ ns, clock.anchorUncertaintyNs = some ns ∧
      |clock.anchorUnixNs - trueNs clock.anchorNs| ≤ ns := by
  obtain ⟨before, after, uncertaintyNs, wall, instant, isBefore, isWall, isAfter, stated, low, high,
    within⟩ := truthful
  simp only [withSource, isBefore, isWall, isAfter, ok_bind, narrowU64, checkedSub, checkedAdd,
    bind_eq_ok, checked_eq_ok, decide_eq_true_eq, pure_eq_ok] at made
  obtain ⟨_, -, _, ⟨-, rfl⟩, _, ⟨-, rfl⟩, _, ⟨le, rfl⟩, _, -, _, -, _, ⟨-, rfl⟩, _, ⟨-, rfl⟩,
    anchorUncertainty, mapped, _, -, is⟩ := made
  obtain ⟨rfl, -⟩ := Prod.mk.inj is
  obtain ⟨ns, added, rfl⟩ := mapM_eq_ok mapped stated
  obtain ⟨-, rfl⟩ := checked_eq_ok.mp added
  refine ⟨_, rfl, ?_⟩
  -- The instant is at most the radius away from the middle of the bracket.
  have reaches : after ≤ before + (after - before) / 2 +
      ((after - before) / 2 + (after - before) % 2) := by omega
  have starts : before + (after - before) / 2 ≤
      before + ((after - before) / 2 + (after - before) % 2) := by omega
  generalize before + (after - before) / 2 = middle at *
  generalize (after - before) / 2 + (after - before) % 2 = radius at *
  have elapsed := rate instant middle
  rify at reaches starts
  rw [abs_le] at within ⊢
  rw [Nat.cast_add]
  constructor
  · linarith
  · linarith

theorem Clock.Maps.within {trueNs} (rate : TrueRate trueNs) {lastNs ns}
    (maps : clock.Maps lastNs snapshot) (stated : clock.anchorUncertaintyNs = some ns)
    (anchored : |clock.anchorUnixNs - trueNs clock.anchorNs| ≤ ns) : snapshot.Within trueNs := by
  obtain ⟨us, is, covered⟩ := maps.uncertainty ns stated
  refine ⟨us, is, ?_⟩
  have elapsed := rate clock.anchorNs snapshot.monotonicNs
  have mapped : ((snapshot.unixUs * nsPerUs : Nat) : ℝ) +
      (clock.unixNs snapshot.monotonicNs % nsPerUs : Nat) =
      clock.anchorUnixNs + (snapshot.monotonicNs - clock.anchorNs) := by
    rw [← Nat.cast_sub maps.anchorNs_le, maps.unixUs_eq]
    exact_mod_cast Nat.div_add_mod' _ _
  have covered : (ns : ℝ) + (clock.unixNs snapshot.monotonicNs % nsPerUs : Nat) ≤
      (us * nsPerUs : Nat) := by
    exact_mod_cast covered
  have rest : (0 : ℝ) ≤ (clock.unixNs snapshot.monotonicNs % nsPerUs : Nat) := Nat.cast_nonneg _
  rw [abs_le] at anchored ⊢
  constructor
  · linarith
  · linarith

/-! ### The clock -/

/-- The snapshot of a successful call is of its reading, and within the uncertainty it
names of true time. -/
def Clock.Accurate (clock : Clock) (trueNs : ℝ → ℝ) : Prop :=
  ∀ state reading snapshot, (clock.now state reading).1 = some (.ok snapshot) →
    reading = some (.ok snapshot.monotonicNs) ∧ snapshot.Within trueNs

/-- A failed call leaves the last accepted reading. -/
def Clock.KeepsAccepted (clock : Clock) : Prop :=
  ∀ state reading, (∀ snapshot, (clock.now state reading).1 ≠ some (.ok snapshot)) →
    (clock.now state reading).2.lastNs = state.lastNs

/-- **The clock is sound.** If the source keeps the true rate and its wall sample was
truthful, every snapshot is within its uncertainty of true time. Whatever the source
gives later, neither time of a snapshot is before that of an earlier one, and a failed
call leaves the last accepted reading. -/
theorem clock_sound (source : ClockSource) (clock : Clock) (state : SamplingState)
    (made : withSource source = .ok (clock, state)) :
    (∀ trueNs, TrueRate trueNs → source.Truthful trueNs → clock.Accurate trueNs) ∧
      (∀ readings, (clock.snapshots state readings).Pairwise NotBefore) ∧
      clock.KeepsAccepted := by
  refine ⟨?_, fun readings => (snapshots_spec clock state readings).2, ?_⟩
  · intro trueNs rate truthful state reading snapshot ok
    obtain ⟨ns, stated, anchored⟩ := anchor_within rate truthful made
    rcases now_cases clock state reading with ⟨first, read, maps, called⟩ | ⟨failed, -⟩
    · rw [called] at ok
      cases ok
      exact ⟨read, maps.within rate stated anchored⟩
    · exact absurd ok (failed _)
  · intro state reading failed
    rcases now_cases clock state reading with ⟨first, -, -, called⟩ | ⟨-, same⟩
    · exact absurd (congrArg Prod.fst called) (failed first)
    · exact same

/-- A source that takes three nanoseconds for its wall sample. -/
def bracketedSource : ClockSource where
  label := "bracket"
  before := .ok 10
  wall := .ok ⟨1000500, 1, some 2⟩
  after := .ok 13

theorem clock_sound_bracketedSource :
    (⟨11, 1000500, 1, some 4, "bracket"⟩ : Clock).Accurate (fun m => m + 1000490) :=
  (clock_sound bracketedSource ⟨11, 1000500, 1, some 4, "bracket"⟩ ⟨13, false⟩
    (by decide +kernel)).1 _ (fun _ _ => add_sub_add_right_eq_sub _ _ _)
      ⟨10, 13, 2, ⟨1000500, 1, some 2⟩, 11, rfl, rfl, rfl, rfl, by norm_num, by norm_num,
        by norm_num⟩

end Apex.Telemetry
