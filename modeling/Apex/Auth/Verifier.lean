import Apex.Lib.KeyMap
import Apex.Lib.Runs
import Apex.Lib.Saturating
import Apex.Lib.Text

/-!
The bearer-token verifier: rate buckets per token and peer, and the resolver calls
that are under way.

An attempt is admitted under the lock of the buckets, resolved without it and
finished under it again, so a run is any interleaving of admissions, malformed
attempts and ends of resolver calls. The clock, the shared deny hint, the order a
hash map is scanned in and how a resolver call ends are inputs.

The roll-over of a bucket's window in `admit_attempt` forgets the attempts under
way, where the one in `record_malformed_attempt` keeps them. The counters are
right exactly as long as no window rolls over under an unfinished attempt and no
resolver call panics (`inFlight_exact_iff`).
-/

namespace Apex.Auth

open Runs Saturating List Option KeyMap

abbrev Digest : Type := BitVec 256

inductive AuthError where
  | rateLimited
  | unauthenticated
  | invalidAuthorization
  deriving DecidableEq, Repr

/-- Times are in nanoseconds. -/
structure RateBucket where
  windowStarted : Nat
  failures : UInt32
  successes : UInt32
  inFlight : Nat
  deriving DecidableEq, Repr

def RateBucket.new (now : Nat) : RateBucket := ⟨now, 0, 0, 0⟩

structure RateKey where
  token : Digest
  peer : Digest
  deriving DecidableEq, Repr

abbrev Buckets : Type := KeyMap RateKey RateBucket

def authFailuresPerSecond : UInt32 := 60

def authInFlightPerIdentity : Nat := 32

def maxAuthIdentities : Nat := 4096

def second : Nat := 1000000000

def authBucketRetention : Nat := 60 * second

/-- The clock readings of one locked section: its `now`, the one for each bucket
the sweep looks at, and the one of the window check. -/
structure Readings where
  now : Nat
  sweep : RateKey → Nat
  window : Nat

/-- The sweep: a bucket stays while attempts are under way or for the retention. -/
def sweep (clock : Readings) (buckets : Buckets) : Buckets :=
  buckets.retain fun key bucket =>
    0 < bucket.inFlight || clock.sweep key - bucket.windowStarted < authBucketRetention

/-- `min_by_key` of the window start: the first of the oldest. -/
def oldest : List (RateKey × RateBucket) → Option (RateKey × RateBucket)
  | [] => none
  | entry :: rest =>
      match oldest rest with
      | none => some entry
      | some other =>
          if other.2.windowStarted < entry.2.windowStarted then some other else some entry

/-- Room for one more key: the oldest idle bucket goes when the map is full, and
nothing can be added where every bucket has attempts under way. -/
def makeRoom (scan : Scan RateKey RateBucket) (key : RateKey) (buckets : Buckets) :
    Option Buckets :=
  if key ∉ buckets ∧ maxAuthIdentities ≤ buckets.keys.length then
    (oldest ((scan.order buckets).filter fun entry => entry.2.inFlight = 0)).map fun entry =>
      AList.erase entry.1 buckets
  else some buckets

/-- A window older than a second starts again, and with it every counter. -/
def RateBucket.rollOver (bucket : RateBucket) (clock : Readings) : RateBucket :=
  if second ≤ clock.window - bucket.windowStarted then .new clock.now else bucket

/-- The roll-over of `record_malformed_attempt`, which keeps the attempts under
way. -/
def RateBucket.rollOverFailures (bucket : RateBucket) (clock : Readings) : RateBucket :=
  if second ≤ clock.window - bucket.windowStarted then
    { bucket with windowStarted := clock.now, failures := 0, successes := 0 }
  else bucket

/-- `admit_attempt`, with the shared deny hint it saw. -/
def admitAttempt (clock : Readings) (scan : Scan RateKey RateBucket) (denied : Bool)
    (key : RateKey) (buckets : Buckets) : Buckets × Except AuthError Unit :=
  if denied then (buckets, .error .rateLimited)
  else
    match makeRoom scan key (sweep clock buckets) with
    | none => (sweep clock buckets, .error .rateLimited)
    | some room =>
        let bucket := ((room.lookup key).getD (.new clock.now)).rollOver clock
        if authFailuresPerSecond ≤ bucket.failures ∨ authInFlightPerIdentity ≤ bucket.inFlight then
          (AList.insert key bucket room, .error .rateLimited)
        else (AList.insert key { bucket with inFlight := bucket.inFlight + 1 } room, .ok ())

/-- `finish_attempt`. -/
def finishAttempt (key : RateKey) (succeeded : Bool) (buckets : Buckets) : Buckets :=
  buckets.modify key fun bucket =>
    if succeeded then
      { bucket with inFlight := bucket.inFlight - 1, successes := next32 bucket.successes }
    else { bucket with inFlight := bucket.inFlight - 1, failures := next32 bucket.failures }

/-- `malformed_key`. -/
def malformedKey (peer : Option Digest) : RateKey := ⟨0, peer.getD 0⟩

/-- `record_malformed_attempt`. -/
def recordMalformedAttempt (clock : Readings) (scan : Scan RateKey RateBucket) (denied : Bool)
    (peer : Option Digest) (buckets : Buckets) : Buckets × Except AuthError Unit :=
  let key := malformedKey peer
  if denied then (buckets, .error .rateLimited)
  else
    match makeRoom scan key (sweep clock buckets) with
    | none => (sweep clock buckets, .error .rateLimited)
    | some room =>
        let bucket := ((room.lookup key).getD (.new clock.now)).rollOverFailures clock
        if authFailuresPerSecond ≤ bucket.failures then
          (AList.insert key bucket room, .error .rateLimited)
        else (AList.insert key { bucket with failures := bucket.failures + 1 } room, .ok ())

/-! ### Attempts -/

/-- How the verifier is deployed, and the digest it names tokens by. -/
structure Settings where
  sha256 : String → Digest
  requirePeerIdentity : Bool

/-- `byte.is_ascii_graphic()`. -/
def isAsciiGraphic (c : Char) : Bool := 0x21 ≤ c.toNat && c.toNat ≤ 0x7e

/-- The checks of `verify_with_peer` before the admission: one `authorization`
value that is text, of the bearer scheme, with a printable token. A value that is
not text is `none` here. -/
def presentedToken (settings : Settings) (authorization : List (Option String))
    (peer : Option Digest) : Except AuthError String :=
  if settings.requirePeerIdentity && peer.isNone then .error .unauthenticated
  else
    match authorization with
    | [] => .error .unauthenticated
    | [some value] =>
        let (scheme, rest) := value.toList.span (· ≠ ' ')
        match rest with
        | [] => .error .invalidAuthorization
        | _ :: token =>
            if Text.toAsciiLower scheme = "bearer".toList ∧ token ≠ [] ∧
                (String.ofList token).utf8ByteSize ≤ 4096 ∧ token.all isAsciiGraphic then
              .ok (String.ofList token)
            else .error .invalidAuthorization
    | _ => .error .invalidAuthorization

/-- An admitted attempt whose resolver call has not ended. -/
structure Attempt where
  token : String
  peer : Option Digest
  deriving DecidableEq, Repr

def Attempt.key (settings : Settings) (attempt : Attempt) : RateKey :=
  ⟨settings.sha256 attempt.token, attempt.peer.getD 0⟩

structure Verifier where
  buckets : Buckets
  unfinished : List Attempt

def Verifier.init : Verifier := ⟨∅, []⟩

inductive Action where
  | authenticate (authorization : List (Option String)) (peer : Option Digest) (denied : Bool)
      (clock : Readings) (scan : Scan RateKey RateBucket)
  /-- The resolver call of the attempt at an index returns. -/
  | finish (index : Nat) (succeeded : Bool)
  /-- The resolver call panics: the attempt is over and is not finished. -/
  | panic (index : Nat)

/-- `verify_with_peer`, cut at the resolver call. -/
def step (settings : Settings) (s : Verifier) : Action → Verifier
  | .authenticate authorization peer denied clock scan =>
      match presentedToken settings authorization peer with
      | .error _ =>
          { s with buckets := (recordMalformedAttempt clock scan denied peer s.buckets).1 }
      | .ok token =>
          let attempt : Attempt := ⟨token, peer⟩
          match admitAttempt clock scan denied (attempt.key settings) s.buckets with
          | (buckets, .ok ()) => ⟨buckets, s.unfinished ++ [attempt]⟩
          | (buckets, .error _) => { s with buckets := buckets }
  | .finish index succeeded =>
      match s.unfinished[index]? with
      | some attempt =>
          ⟨finishAttempt (attempt.key settings) succeeded s.buckets, s.unfinished.eraseIdx index⟩
      | none => s
  | .panic index => { s with unfinished := s.unfinished.eraseIdx index }

/-! ### The counters -/

/-- The unfinished attempts of one rate key. -/
def Verifier.real (settings : Settings) (s : Verifier) (key : RateKey) : Nat :=
  s.unfinished.countP fun attempt => attempt.key settings = key

/-- The counter of every tracked identity is the number of its unfinished attempts,
and no token and peer have more than 32 of them. -/
structure Exact (settings : Settings) (s : Verifier) : Prop where
  counted : ∀ key bucket, s.buckets.lookup key = some bucket →
    bucket.inFlight = s.real settings key
  bounded : ∀ token peer,
    s.unfinished.countP (fun attempt => attempt = ⟨token, peer⟩) ≤ authInFlightPerIdentity

/-- No window rolls over under an unfinished attempt, and no resolver call panics. -/
def Careful (settings : Settings) (s : Verifier) : Action → Prop
  | .authenticate authorization peer denied clock _ =>
      ∀ token, presentedToken settings authorization peer = .ok token → denied = false →
        ∀ bucket, s.buckets.lookup (Attempt.key settings ⟨token, peer⟩) = some bucket →
          0 < bucket.inFlight → clock.window - bucket.windowStarted < second
  | .finish _ _ => True
  | .panic index => s.unfinished.length ≤ index

/-- The counter a key has, tracked or not. -/
def inFlight (buckets : Buckets) (key : RateKey) : Nat :=
  (buckets.lookup key).elim 0 RateBucket.inFlight

theorem inFlight_insert (buckets : Buckets) (key other : RateKey) (bucket : RateBucket) :
    inFlight (AList.insert key bucket buckets) other =
      if other = key then bucket.inFlight else inFlight buckets other := by
  rw [inFlight, lookup_insert_eq]
  split
  · rfl
  · rfl

theorem mem_of_oldest {entries entry} (found : oldest entries = some entry) : entry ∈ entries := by
  induction entries generalizing entry with
  | nil => cases found
  | cons first rest ih =>
    unfold oldest at found
    split at found
    · cases found
      exact mem_cons_self
    · rename_i other tail
      split at found
      · cases found
        exact mem_cons_of_mem _ (ih tail)
      · cases found
        exact mem_cons_self

variable {scan : Scan RateKey RateBucket} {key : RateKey} {buckets room : Buckets}
  {clock : Readings} {denied : Bool}

theorem inFlight_insert_same {bucket : RateBucket} (same : bucket.inFlight = inFlight buckets key)
    {other} :
    inFlight (AList.insert key bucket buckets) other = inFlight buckets other := by
  rw [inFlight_insert]
  split
  · rename_i is
    rw [same, is]
  · rfl

/-- A table that lost idle buckets only. -/
def Spares (buckets room : Buckets) : Prop :=
  ∀ key, room.lookup key = buckets.lookup key ∨ room.lookup key = none ∧ inFlight buckets key = 0

theorem Spares.inFlight (spares : Spares buckets room) (key : RateKey) :
    inFlight room key = inFlight buckets key := by
  rcases spares key with same | ⟨lost, idle⟩
  · rw [Auth.inFlight, same, Auth.inFlight]
  · rw [idle, Auth.inFlight, lost]
    rfl

theorem sweep_spares (clock : Readings) (buckets : Buckets) :
    Spares buckets (sweep clock buckets) := by
  intro key
  rw [inFlight, sweep, lookup_retain]
  cases buckets.lookup key with
  | none => exact .inl rfl
  | some bucket =>
    rw [filter_some]
    split
    · exact .inl rfl
    · rename_i dropped
      simp only [Bool.or_eq_true, decide_eq_true_eq, not_or, Nat.not_lt, Nat.le_zero] at dropped
      exact .inr ⟨rfl, dropped.1⟩

theorem makeRoom_spares (made : makeRoom scan key buckets = some room) : Spares buckets room := by
  intro other
  unfold makeRoom at made
  split at made
  · obtain ⟨⟨evicted, bucket⟩, found, rfl⟩ := map_eq_some_iff.mp made
    obtain ⟨stored, idle⟩ := mem_filter.mp (mem_of_oldest found)
    rw [lookup_erase_eq]
    split
    · rename_i same
      subst same
      refine .inr ⟨rfl, ?_⟩
      rw [inFlight, (scan.mem_order buckets).mp stored]
      exact of_decide_eq_true idle
    · exact .inl rfl
  · cases made
    exact .inl rfl

/-- The sweep and the eviction before an attempt. -/
theorem room_spares (made : makeRoom scan key (sweep clock buckets) = some room) :
    Spares buckets room := by
  intro other
  have swept := sweep_spares clock buckets
  rcases makeRoom_spares made other with same | ⟨lost, idle⟩
  · rw [same]
    exact swept other
  · exact .inr ⟨lost, (swept.inFlight other).symm.trans idle⟩

theorem inFlight_getD (room : Buckets) (key : RateKey) (now : Nat) :
    ((room.lookup key).getD (.new now)).inFlight = inFlight room key := by
  rw [inFlight]
  cases room.lookup key <;> rfl

/-- Where no window rolls over under attempts of the key, the roll-over keeps the
counter. -/
theorem inFlight_rollOver (made : makeRoom scan key (sweep clock buckets) = some room)
    (careful : ∀ bucket, buckets.lookup key = some bucket → 0 < bucket.inFlight →
      clock.window - bucket.windowStarted < second) :
    (((room.lookup key).getD (.new clock.now)).rollOver clock).inFlight = inFlight buckets key := by
  have spares := room_spares made
  rw [RateBucket.rollOver]
  split
  · rename_i late
    rcases spares key with same | ⟨-, idle⟩
    · rw [same] at late
      cases found : buckets.lookup key with
      | none =>
        rw [inFlight, found]
        rfl
      | some bucket =>
        rw [found, getD_some] at late
        rw [inFlight, found]
        refine (Nat.eq_zero_of_not_pos fun busy => ?_).symm
        exact Nat.not_lt.mpr late (careful bucket found busy)
    · exact idle.symm
  · rw [inFlight_getD, spares.inFlight]

/-- What an admission does to the counters. -/
theorem admitAttempt_spec {after answer}
    (ran : admitAttempt clock scan denied key buckets = (after, answer))
    (careful : denied = false → ∀ bucket, buckets.lookup key = some bucket → 0 < bucket.inFlight →
      clock.window - bucket.windowStarted < second) :
    (answer = .ok () → inFlight buckets key < authInFlightPerIdentity ∧
      ∀ other, inFlight after other = inFlight buckets other + if other = key then 1 else 0) ∧
    (answer ≠ .ok () → ∀ other, inFlight after other = inFlight buckets other) := by
  unfold admitAttempt at ran
  split at ran
  · cases ran
    exact ⟨nofun, fun _ _ => rfl⟩
  · rename_i undenied
    split at ran
    · cases ran
      exact ⟨nofun, fun _ => (sweep_spares clock buckets).inFlight⟩
    · rename_i room made
      have kept := (room_spares made).inFlight
      have counter := inFlight_rollOver made (careful (eq_false_of_ne_true undenied))
      dsimp only at ran
      split at ran
      · cases ran
        refine ⟨nofun, fun _ other => ?_⟩
        rw [inFlight_insert_same (counter.trans (kept key).symm), kept]
      · rename_i admitted
        cases ran
        rw [not_or, Nat.not_le, counter] at admitted
        refine ⟨fun _ => ⟨admitted.2, fun other => ?_⟩, fun refused => absurd rfl refused⟩
        rw [inFlight_insert, kept]
        split
        · rename_i same
          rw [counter, same]
        · rfl

/-- A malformed attempt leaves every counter alone. -/
theorem recordMalformedAttempt_spec {peer} (other : RateKey) :
    inFlight (recordMalformedAttempt clock scan denied peer buckets).1 other =
      inFlight buckets other := by
  unfold recordMalformedAttempt
  dsimp only
  split
  · rfl
  · split
    · exact (sweep_spares clock buckets).inFlight other
    · rename_i room made
      have kept := (room_spares made).inFlight other
      have counter : (((room.lookup (malformedKey peer)).getD (.new clock.now)).rollOverFailures
          clock).inFlight = inFlight room (malformedKey peer) := by
        rw [← inFlight_getD room _ clock.now, RateBucket.rollOverFailures]
        split
        · rfl
        · rfl
      split
      · exact (inFlight_insert_same counter).trans kept
      · refine (inFlight_insert_same ?_).trans kept
        exact counter

theorem finishAttempt_spec (buckets : Buckets) (key other : RateKey) (succeeded : Bool) :
    inFlight (finishAttempt key succeeded buckets) other =
      if other = key then inFlight buckets key - 1 else inFlight buckets other := by
  rw [finishAttempt, inFlight, lookup_modify]
  split
  · rw [inFlight]
    cases buckets.lookup key with
    | none => rfl
    | some bucket => cases succeeded <;> rfl
  · rfl

/-! ### Runs -/

/-- Tracked or not, a key's counter is the number of its unfinished attempts, and
both stay within the limit. -/
def Consistent (settings : Settings) (s : Verifier) : Prop :=
  ∀ key, inFlight s.buckets key = s.real settings key ∧
    s.real settings key ≤ authInFlightPerIdentity

variable {settings : Settings} {s : Verifier}

theorem Consistent.exact (holds : Consistent settings s) : Exact settings s where
  counted key bucket found := by
    rw [← (holds key).1, inFlight, found]
    rfl
  bounded token peer := by
    refine Nat.le_trans ?_ (holds (Attempt.key settings ⟨token, peer⟩)).2
    refine countP_mono_left fun attempt _ same => ?_
    rw [of_decide_eq_true same]
    exact decide_eq_true rfl

theorem real_append (key : RateKey) (attempt : Attempt) (buckets : Buckets) :
    Verifier.real settings ⟨buckets, s.unfinished ++ [attempt]⟩ key =
      s.real settings key + if attempt.key settings = key then 1 else 0 := by
  rw [Verifier.real, countP_append, countP_singleton, Verifier.real]
  simp only [decide_eq_true_eq]

variable (settings) in
theorem real_eraseIdx {index attempt} (found : s.unfinished[index]? = some attempt)
    (buckets : Buckets) (key : RateKey) :
    Verifier.real settings ⟨buckets, s.unfinished.eraseIdx index⟩ key +
      (if attempt.key settings = key then 1 else 0) = s.real settings key := by
  obtain ⟨within, rfl⟩ := List.getElem?_eq_some_iff.mp found
  have split : s.unfinished = s.unfinished.take index ++ s.unfinished[index] ::
      s.unfinished.drop (index + 1) := by
    rw [getElem_cons_drop, take_append_drop]
  rw [Verifier.real, Verifier.real, eraseIdx_eq_take_drop_succ, countP_append]
  conv => rhs; rw [split, countP_append, countP_cons]
  simp only [decide_eq_true_eq, Nat.add_assoc]

theorem consistent_authenticate {authorization peer} (holds : Consistent settings s)
    (careful : Careful settings s (.authenticate authorization peer denied clock scan)) :
    Consistent settings (step settings s (.authenticate authorization peer denied clock scan)) := by
  simp only [step]
  split
  · intro key
    exact ⟨(recordMalformedAttempt_spec key).trans (holds key).1, (holds key).2⟩
  · rename_i token presented
    split
    · rename_i after ran
      obtain ⟨below, counts⟩ := (admitAttempt_spec ran (careful token presented)).1 rfl
      intro key
      rw [real_append, counts, (holds key).1]
      by_cases same : Attempt.key settings ⟨token, peer⟩ = key
      · subst same
        rw [if_pos rfl]
        rw [(holds _).1] at below
        exact ⟨rfl, below⟩
      · rw [if_neg same, if_neg fun flipped => same flipped.symm]
        exact ⟨rfl, (holds key).2⟩
    · rename_i after refusal ran
      have counts := (admitAttempt_spec ran (careful token presented)).2 nofun
      intro key
      exact ⟨(counts key).trans (holds key).1, (holds key).2⟩

theorem consistent_finish (holds : Consistent settings s) (index : Nat) (succeeded : Bool) :
    Consistent settings (step settings s (.finish index succeeded)) := by
  simp only [step]
  split
  · rename_i attempt found
    intro key
    have erased := real_eraseIdx settings found
      (finishAttempt (attempt.key settings) succeeded s.buckets) key
    rw [finishAttempt_spec]
    by_cases same : attempt.key settings = key
    · subst same
      rw [if_pos rfl] at erased ⊢
      rw [(holds _).1]
      have limit := (holds (attempt.key settings)).2
      omega
    · rw [if_neg same] at erased
      rw [if_neg fun flipped => same flipped.symm, (holds key).1]
      have limit := (holds key).2
      omega
  · exact holds

theorem consistent_step {action} (holds : Consistent settings s)
    (careful : Careful settings s action) : Consistent settings (step settings s action) := by
  cases action with
  | authenticate authorization peer denied clock scan =>
    exact consistent_authenticate holds careful
  | finish index succeeded => exact consistent_finish holds index succeeded
  | panic index =>
    have same : step settings s (.panic index) = s := by
      simp only [step, eraseIdx_of_length_le careful]
    rw [same]
    exact holds

/-- An admission whose window rolls over under attempts forgets them. -/
theorem admitAttempt_forgets (scan : Scan RateKey RateBucket) {bucket}
    (found : buckets.lookup key = some bucket) (busy : 0 < bucket.inFlight)
    (late : second ≤ clock.window - bucket.windowStarted) :
    ∃ room, admitAttempt clock scan false key buckets =
      (AList.insert key { RateBucket.new clock.now with inFlight := 1 } room, .ok ()) := by
  have swept : (sweep clock buckets).lookup key = some bucket := by
    rw [sweep, lookup_retain, found]
    simp [busy]
  have made : makeRoom scan key (sweep clock buckets) = some (sweep clock buckets) := by
    rw [makeRoom, if_neg]
    rintro ⟨absent, -⟩
    exact absent (mem_of_lookup swept)
  refine ⟨sweep clock buckets, ?_⟩
  have fresh : ¬ (authFailuresPerSecond ≤ (RateBucket.new clock.now).failures ∨
      authInFlightPerIdentity ≤ (RateBucket.new clock.now).inFlight) := by
    rintro (failures | inFlight)
    · exact (show ¬ authFailuresPerSecond ≤ 0 by decide) failures
    · exact (show ¬ authInFlightPerIdentity ≤ 0 by decide) inFlight
  simp only [admitAttempt, Bool.false_eq_true, if_false, made, swept, getD_some,
    RateBucket.rollOver, if_pos late, if_neg fresh]
  rfl

theorem careful_of_exact {action} (holds : Consistent settings s)
    (exact : Exact settings (step settings s action)) : Careful settings s action := by
  cases action with
  | authenticate authorization peer denied clock scan =>
    rintro token presented rfl bucket found busy
    by_contra late
    obtain ⟨room, ran⟩ := admitAttempt_forgets scan found busy (Nat.le_of_not_lt late)
    simp only [step, presented, ran] at exact
    have counted : 1 = _ := exact.counted _ _ (AList.lookup_insert _)
    rw [real_append, if_pos rfl] at counted
    have before := (holds (Attempt.key settings ⟨token, peer⟩)).1
    rw [inFlight, found, elim_some] at before
    omega
  | finish index succeeded => trivial
  | panic index =>
    rw [Careful]
    by_contra unfinished
    have found := List.getElem?_eq_getElem (Nat.lt_of_not_le unfinished)
    have erased := real_eraseIdx settings found s.buckets (Attempt.key settings s.unfinished[index])
    rw [if_pos rfl] at erased
    have before := (holds (Attempt.key settings s.unfinished[index])).1
    cases tracked : s.buckets.lookup (Attempt.key settings s.unfinished[index]) with
    | none =>
      rw [inFlight, tracked, elim_none] at before
      omega
    | some bucket =>
      rw [inFlight, tracked, elim_some] at before
      have counted := exact.counted _ bucket tracked
      simp only [step] at counted
      omega

theorem consistent_init : Consistent settings Verifier.init := by
  intro key
  exact ⟨rfl, Nat.zero_le _⟩

/-- In every interleaving, the counters are the numbers of unfinished attempts and
no identity has more than 32 of them, exactly when no window rolls over under an
unfinished attempt and no resolver call panics. -/
theorem inFlight_exact_iff (settings : Settings) (actions : List Action) :
    Always (step settings) (Exact settings) Verifier.init actions ↔
      AllSteps (step settings) (Careful settings) Verifier.init actions :=
  always_iff_allSteps (fun _ _ holds _ careful => consistent_step holds careful)
    (fun _ holds => Consistent.exact holds)
    (fun _ _ holds _ exact => careful_of_exact holds exact) consistent_init
    (allSteps_of_forall fun _ _ => trivial)

/-! ### A slow resolver -/

def sampleSettings : Settings := ⟨fun _ => 1, false⟩

/-- An attempt of the one token, with every clock reading at the given second. -/
def sampleAttempt (seconds : Nat) : Action :=
  .authenticate [some "Bearer token"] none false
    ⟨seconds * second, fun _ => seconds * second, seconds * second⟩ (.stored _ _)

/-- The first resolver call takes longer than a second: the second attempt starts
the window again and with it the counter. -/
theorem slowResolver_uncounted :
    ¬ Always (step sampleSettings) (Exact sampleSettings) Verifier.init
      [sampleAttempt 0, sampleAttempt 1] := by
  intro always
  have exact := always.last
  have tracked : (run (step sampleSettings) Verifier.init
      [sampleAttempt 0, sampleAttempt 1]).buckets.lookup ⟨1, 0⟩ =
        some ⟨second, 0, 0, 1⟩ := by decide +kernel
  have counted := exact.counted _ _ tracked
  have real : Verifier.real sampleSettings (run (step sampleSettings) Verifier.init
      [sampleAttempt 0, sampleAttempt 1]) ⟨1, 0⟩ = 2 := by decide +kernel
  rw [real] at counted
  cases counted

end Apex.Auth
