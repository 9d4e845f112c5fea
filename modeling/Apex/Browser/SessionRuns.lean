import Apex.Browser.Sessions
import Apex.Lib.Runs

/-!
Sessions over whole runs.

`Turn` says once what a statement can do to a row, and `commit_cases` what a commit
can do to the store; every invariant is derived from these two. A session has
ended once it is revoked or a refresh of it was claimed and has passed its deadline
unfinished. No step brings it back (`Ended.step`): each of the statements asks for
a state that the row no longer has, or for a deadline that lies ahead.
-/

namespace Apex.Browser

open Checked RowLocks Runs LockedTable List Option

/-- What a statement does to a row. -/
inductive Turn : Op → Option SessionRow → Change → Prop where
  | unchanged (op : Op) (row : Option SessionRow) : Turn op row .unchanged
  | created {input} {row : SessionRow} {envelope} (generation : row.generation = 0)
      (active : row.state = .active envelope)
      (idle : row.idleExpiresAt ≤ row.identity.absoluteExpiresAt) :
      Turn (.createSession input) none (.inserted row)
  | touched {row : SessionRow} {envelope expected secs idle} (active : row.state = .active envelope)
      (bound : idle ≤ row.identity.absoluteExpiresAt) :
      Turn (.touch expected secs) (some row) (.updated { row with idleExpiresAt := idle })
  | claimed {row : SessionRow} {envelope expected deadline} (active : row.state = .active envelope)
      :
      Turn (.claimRefresh expected) (some row) (.updated { row with
        state := .refreshing deadline envelope
        generation := row.generation + 1 })
  | finished {row : SessionRow} {envelope deadline} {input : RefreshCommit}
      (refreshing : row.state = .refreshing deadline envelope)
      (carried : input.generation = row.generation) :
      Turn (.finishRefresh input) (some row) (.updated { row with
        state := .active input.envelope
        accessExpiresAt := input.accessExpiresAt
        refreshExpiresAt := input.refreshExpiresAt })
  | revoked (row : SessionRow) :
      Turn .revoke (some row) (.updated { row with state := .revoked })
  | pruned (row : SessionRow) : Turn .pruneExpired (some row) .deleted

theorem turn_of_statement {read count op row change}
    (ran : statement read count op row = some change) : Turn op row change := by
  cases row with
  | none =>
    cases op with
    | createSession input =>
      simp only [statement, insertSession] at ran
      split_ifs at ran
      cases ran
      exact .created rfl rfl (Int.min_le_left _ _)
    | _ =>
      cases ran
      exact .unchanged _ _
  | some row =>
    cases op with
    | createSession input => cases ran
    | touch expected secs =>
      simp only [statement, elim_some, updateIdle, Option.some.injEq] at ran
      split at ran
      · next envelope active =>
          split_ifs at ran
          · cases ran
            exact .touched active (Int.min_le_left _ _)
          · cases ran
            exact .unchanged _ _
      · cases ran
        exact .unchanged _ _
    | claimRefresh expected =>
      simp only [statement, elim_some, updateClaim, Option.some.injEq] at ran
      split at ran
      · next envelope active =>
          split_ifs at ran
          · cases ran
            exact .claimed active
          · cases ran
            exact .unchanged _ _
      · cases ran
        exact .unchanged _ _
    | finishRefresh input =>
      simp only [statement, elim_some, updateFinish, Option.some.injEq] at ran
      split at ran
      · next deadline envelope refreshing =>
          split_ifs at ran with passes
          · cases ran
            simp only [Bool.and_eq_true, decide_eq_true_eq] at passes
            exact .finished refreshing passes.1.1.1.symm
          · cases ran
            exact .unchanged _ _
      · cases ran
        exact .unchanged _ _
    | revoke =>
      cases ran
      exact .revoked row
    | pruneExpired =>
      simp only [statement, elim_some, Option.some.injEq] at ran
      split_ifs at ran
      · cases ran
        exact .unchanged _ _
      · cases ran
        exact .pruned row

/-! ### Events -/

namespace Event

def session : Event → Nat
  | .created session | .loaded session | .touched session | .claimed session _
  | .finished session _ | .revoked session | .pruned session => session

/-- The session was loaded, touched or refreshed. -/
def isUse : Event → Bool
  | .loaded _ | .touched _ | .claimed _ _ | .finished _ _ => true
  | .created _ | .revoked _ | .pruned _ => false

/-- The generation a refresh of the session was claimed under. -/
def claimOf (session : Nat) : Event → Option Nat
  | .claimed named generation => if named = session then some generation else none
  | _ => none

/-- A claim, with its session. -/
def claim : Event → Option (Nat × Nat)
  | .claimed session generation => some (session, generation)
  | _ => none

end Event

/-- The uses of a session. -/
def uses (session : Nat) (log : List Event) : List Event :=
  log.filter fun event => event.isUse && event.session == session

/-- The claims of all sessions. -/
def claims (log : List Event) : List (Nat × Nat) :=
  log.filterMap Event.claim

/-- The latest claim of a session. -/
def lastClaim (session : Nat) (log : List Event) : Option Nat :=
  log.findSome? (Event.claimOf session)

/-- Every finish carries the generation of the latest claim before it. -/
def FinishesClaims : List Event → Prop
  | [] => True
  | .finished session generation :: earlier =>
      lastClaim session earlier = some generation ∧ FinishesClaims earlier
  | _ :: earlier => FinishesClaims earlier

theorem FinishesClaims.split {later earlier session generation}
    (finishes : FinishesClaims (later ++ .finished session generation :: earlier)) :
    lastClaim session earlier = some generation := by
  induction later with
  | nil => exact finishes.1
  | cons event rest ih =>
    refine ih ?_
    cases event with
    | finished => exact finishes.2
    | _ => exact finishes

/-! ### The invariant -/

namespace SessionStore

variable {store : SessionStore} {digest : LookupDigest} {row : SessionRow}

/-- What holds of the row of a session and the log. -/
structure RowOk (log : List Event) (next : Nat) (row : SessionRow) : Prop where
  numbered : row.session < next
  idle : row.idleExpiresAt ≤ row.identity.absoluteExpiresAt
  claimed : lastClaim row.session log = if row.generation = 0 then none else some row.generation
  bounded : ∀ claim ∈ claims log, claim.1 = row.session → claim.2 ≤ row.generation
  refreshing : ∀ deadline envelope, row.state = .refreshing deadline envelope → row.generation ≠ 0
  revoked : .revoked row.session ∈ log → row.state = .revoked

structure Consistent (store : SessionStore) : Prop where
  current : store.table.Current Turn
  row : ∀ digest row, store.table.rows.lookup digest = some row → RowOk store.log store.next row
  distinct : ∀ digest digest' row row', store.table.rows.lookup digest = some row →
    store.table.rows.lookup digest' = some row' → row.session = row'.session → digest = digest'
  logged : ∀ event ∈ store.log, event.session < store.next
  once : (claims store.log).Nodup
  finishes : FinishesClaims store.log

theorem consistent_empty (clock : Int) : (empty clock).Consistent := by
  have none (digest : LookupDigest) : (empty clock).table.rows.lookup digest = none :=
    AList.lookup_empty digest
  refine ⟨current_empty, ?_, ?_, nofun, nodup_nil, trivial⟩
  · intro digest row found
    rw [none] at found
    cases found
  · intro digest digest' row row' found
    rw [none] at found
    cases found

/-- What a commit does to the store. -/
inductive Committed (store : SessionStore) (digest : LookupDigest) : SessionStore → Prop where
  | released : Committed store digest { store with table := store.table.release digest }
  | created {op row} (turn : Turn op none (.inserted row)) :
      Committed store digest { store with
        table := store.table.publish digest (some { row with session := store.next })
        next := store.next + 1
        log := .created store.next :: store.log }
  | updated {op row new} (found : store.table.rows.lookup digest = some row)
      (turn : Turn op (some row) (.updated new))
      (pending : store.table.pending digest = some (op, .updated new)) :
      Committed store digest { store with
        table := store.table.publish digest (some new)
        log := (eventOf new op).toList ++ store.log }
  | pruned {row : SessionRow} (found : store.table.rows.lookup digest = some row) :
      Committed store digest { store with
        table := store.table.publish digest none
        log := .pruned row.session :: store.log }

/-- A commit does nothing, or carries out what its statement came to. -/
theorem commit_cases (current : store.table.Current Turn) (digest : LookupDigest) :
    store.commit digest = store ∨ Committed store digest (store.commit digest) := by
  unfold commit
  split
  · exact .inl rfl
  · exact .inr .released
  · next op row pending =>
      have turn := current digest _ _ pending
      generalize store.table.rows.lookup digest = found at turn
      cases found with
      | none => exact .inr (.created turn)
      | some row => cases turn
  · next op row pending =>
      have turn := current digest _ _ pending
      cases found : store.table.rows.lookup digest with
      | none =>
        rw [found] at turn
        cases turn
      | some old =>
        rw [found] at turn
        exact .inr (.updated found turn pending)
  · next op pending =>
      have turn := current digest _ _ pending
      cases found : store.table.rows.lookup digest with
      | none =>
        rw [found] at turn
        cases turn
      | some row => exact .inr (.pruned found)

/-! ### Steps keep the invariant -/

/-- An event that the row of its session has to know of. -/
def Marks (session : Nat) (event : Event) : Prop :=
  event = .revoked session ∨ ∃ generation, event = .claimed session generation

variable {log : List Event} {next session : Nat} {event : Event} {new : SessionRow}
  {after : SessionStore}

/-- An event that does not concern the row. -/
theorem RowOk.cons (ok : RowOk log next row) (apart : ¬ Marks row.session event) :
    RowOk (event :: log) next row where
  numbered := ok.numbered
  idle := ok.idle
  claimed := by
    have skipped : event.claimOf row.session = none := by
      cases event with
      | claimed named generation =>
        refine if_neg fun same => apart (.inr ⟨generation, ?_⟩)
        rw [same]
      | _ => rfl
    rw [lastClaim, List.findSome?_cons, skipped]
    exact ok.claimed
  bounded := by
    intro claim mem same
    rw [claims, filterMap_cons] at mem
    cases event with
    | claimed named generation =>
      rcases mem_cons.mp mem with rfl | mem
      · exact absurd (.inr ⟨generation, by rw [← same]⟩) apart
      · exact ok.bounded claim mem same
    | _ => exact ok.bounded claim mem same
  refreshing := ok.refreshing
  revoked := by
    intro mem
    rcases mem_cons.mp mem with rfl | mem
    · exact absurd (.inl rfl) apart
    · exact ok.revoked mem

theorem not_marks_of_session (apart : event.session ≠ session) :
    ¬ Marks session event := by
  rintro (rfl | ⟨generation, rfl⟩)
  · exact apart rfl
  · exact apart rfl

theorem RowOk.mono {next'} (ok : RowOk log next row) (le : next ≤ next') :
    RowOk log next' row :=
  ⟨Nat.lt_of_lt_of_le ok.numbered le, ok.idle, ok.claimed, ok.bounded, ok.refreshing, ok.revoked⟩

/-- A finish is added to the log for the generation that is claimed; any other
event can be added. -/
theorem FinishesClaims.cons (finishes : FinishesClaims log)
    (other : ∀ session generation, event = .finished session generation →
      lastClaim session log = some generation) : FinishesClaims (event :: log) := by
  cases event with
  | finished session generation => exact ⟨other session generation rfl, finishes⟩
  | _ => exact finishes

/-- The row of a digest is replaced, and an event logged, that the other rows need not
know of. -/
theorem Consistent.publish (consistent : store.Consistent) {new} (le : store.next ≤ next)
    (numbered : event.session < next)
    (ok : ∀ row, new = some row → RowOk (event :: store.log) next row)
    (apart : ∀ other row, other ≠ digest → store.table.rows.lookup other = some row →
      ¬ Marks row.session event ∧ ∀ written, new = some written → written.session ≠ row.session)
    (once : (claims (event :: store.log)).Nodup) (finishes : FinishesClaims (event :: store.log)) :
    Consistent { store with
      table := store.table.publish digest new, next := next, log := event :: store.log } where
  current := consistent.current.publish _
  row := by
    intro other held heldAt
    rw [lookup_publish] at heldAt
    split_ifs at heldAt with here
    · exact ok held heldAt
    · exact ((consistent.row other held heldAt).cons (apart other held here heldAt).1).mono le
  distinct := by
    intro other other' held held' at_ at_' sessions
    rw [lookup_publish] at at_ at_'
    split_ifs at at_ at_' with here here' here'
    · rw [here, here']
    · exact absurd sessions ((apart other' held' here' at_').2 held at_)
    · exact absurd sessions.symm ((apart other held here at_).2 held' at_')
    · exact consistent.distinct other other' held held' at_ at_' sessions
  logged := by
    intro logged mem
    rcases mem_cons.mp mem with rfl | mem
    · exact numbered
    · exact Nat.lt_of_lt_of_le (consistent.logged logged mem) le
  once := once
  finishes := finishes

/-- A new version of a row. -/
theorem Consistent.update (consistent : store.Consistent)
    (found : store.table.rows.lookup digest = some row) (same : new.session = row.session)
    (about : event.session = row.session) (ok : RowOk (event :: store.log) store.next new)
    (once : (claims (event :: store.log)).Nodup) (finishes : FinishesClaims (event :: store.log)) :
    Consistent { store with
      table := store.table.publish digest (some new), log := event :: store.log } := by
  refine consistent.publish (Nat.le_refl _) (about ▸ (consistent.row digest row found).numbered)
    (by rintro _ ⟨⟩; exact ok) ?_ once finishes
  intro other held there heldAt
  have apart : row.session ≠ held.session := fun sessions =>
    there (consistent.distinct other digest held row heldAt found sessions.symm)
  refine ⟨not_marks_of_session (about ▸ apart), ?_⟩
  rintro _ ⟨⟩
  exact same ▸ apart

theorem Consistent.create (consistent : store.Consistent) {envelope}
    (generation : new.generation = 0) (active : new.state = .active envelope)
    (idle : new.idleExpiresAt ≤ new.identity.absoluteExpiresAt) (number : new.session = store.next)
    :
    Consistent { store with
      table := store.table.publish digest (some new)
      next := store.next + 1
      log := .created store.next :: store.log } := by
  have unknown : ∀ event ∈ store.log, event.session ≠ new.session := by
    intro event mem same
    exact absurd (consistent.logged event mem) (by rw [same, number]; exact lt_irrefl _)
  have unclaimed : lastClaim new.session store.log = none := by
    refine List.findSome?_eq_none_iff.mpr fun event mem => ?_
    cases event with
    | claimed named generation => exact if_neg (unknown _ mem)
    | _ => rfl
  have unbounded : ∀ claim ∈ claims store.log, claim.1 ≠ new.session := by
    intro claim mem
    obtain ⟨event, logged, is⟩ := mem_filterMap.mp mem
    cases event with
    | claimed named generation =>
      cases is
      exact unknown _ logged
    | _ => cases is
  refine consistent.publish (Nat.le_succ _) (Nat.lt_succ_self _) ?_ ?_ consistent.once
    consistent.finishes
  · rintro _ ⟨⟩
    refine ⟨by rw [number]; exact Nat.lt_succ_self _, idle, ?_, ?_, ?_, ?_⟩
    · rw [if_pos generation]
      exact unclaimed
    · intro claim mem same
      exact absurd same (unbounded claim mem)
    · intro deadline kept refreshing
      rw [active] at refreshing
      cases refreshing
    · intro mem
      rcases mem_cons.mp mem with impossible | mem
      · cases impossible
      · exact absurd rfl (unknown _ mem)
  · intro other held _ heldAt
    have apart : store.next ≠ held.session :=
      (Nat.ne_of_lt (consistent.row other held heldAt).numbered).symm
    refine ⟨not_marks_of_session apart, ?_⟩
    rintro _ ⟨⟩
    exact number ▸ apart

theorem Consistent.delete (consistent : store.Consistent)
    (found : store.table.rows.lookup digest = some row) :
    Consistent { store with
      table := store.table.publish digest none, log := .pruned row.session :: store.log } := by
  refine consistent.publish (Nat.le_refl _) (consistent.row digest row found).numbered nofun ?_
    consistent.once consistent.finishes
  intro other held _ _
  refine ⟨?_, nofun⟩
  rintro (impossible | ⟨generation, impossible⟩)
  · cases impossible
  · cases impossible

/-- What a commit carries out keeps the store consistent. -/
theorem Consistent.committed (consistent : store.Consistent)
    (committed : Committed store digest after) : after.Consistent := by
  cases committed with
  | released =>
    exact ⟨consistent.current.release, consistent.row, consistent.distinct, consistent.logged,
      consistent.once, consistent.finishes⟩
  | created turn =>
    cases turn with
    | created generation active idle => exact consistent.create generation active idle rfl
  | pruned found => exact consistent.delete found
  | @updated op row new found turn pending =>
    have ok := consistent.row digest row found
    cases turn with
    | touched active bound =>
      have logged : RowOk (.touched row.session :: store.log) store.next row :=
        ok.cons (by rintro (impossible | ⟨_, impossible⟩) <;> cases impossible)
      refine consistent.update found rfl rfl ?_ consistent.once
        (FinishesClaims.cons consistent.finishes nofun)
      exact ⟨logged.numbered, bound, logged.claimed, logged.bounded, logged.refreshing,
        logged.revoked⟩
    | claimed active =>
      refine consistent.update found rfl rfl ⟨ok.numbered, ok.idle, ?_, ?_, ?_, ?_⟩ ?_
        (FinishesClaims.cons consistent.finishes nofun)
      · rw [lastClaim, List.findSome?_cons, Event.claimOf, if_pos rfl,
          if_neg (Nat.succ_ne_zero _)]
      · intro claim mem same
        rcases mem_cons.mp mem with rfl | mem
        · exact le_rfl
        · exact Nat.le_succ_of_le (ok.bounded claim mem same)
      · intro _ _ _
        exact Nat.succ_ne_zero _
      · intro mem
        have revoked := ok.revoked (by simpa using mem)
        rw [active] at revoked
        cases revoked
      · -- All earlier claims of the session are of smaller generations.
        refine nodup_cons.mpr ⟨fun mem => ?_, consistent.once⟩
        have bound := ok.bounded _ mem rfl
        exact absurd bound (Nat.not_succ_le_self _)
    | @finished _ envelope deadline input refreshing carried =>
      have logged : RowOk (.finished row.session input.generation :: store.log) store.next row :=
        ok.cons (by rintro (impossible | ⟨_, impossible⟩) <;> cases impossible)
      refine consistent.update found rfl rfl ?_ consistent.once
        (FinishesClaims.cons consistent.finishes ?_)
      · refine ⟨logged.numbered, logged.idle, logged.claimed, logged.bounded, nofun, fun mem => ?_⟩
        have revoked := logged.revoked mem
        rw [refreshing] at revoked
        cases revoked
      · rintro _ _ ⟨⟩
        rw [ok.claimed, if_neg (ok.refreshing deadline envelope refreshing), carried]
    | revoked row =>
      exact consistent.update found rfl rfl ⟨ok.numbered, ok.idle, ok.claimed, ok.bounded, nofun,
        fun _ => rfl⟩ consistent.once (FinishesClaims.cons consistent.finishes nofun)

/-- Every step keeps the store consistent. -/
theorem Consistent.step (consistent : store.Consistent) (action : Action) :
    (store.step action).Consistent := by
  cases action with
  | tick elapsed =>
    exact ⟨consistent.current, consistent.row, consistent.distinct, consistent.logged,
      consistent.once, consistent.finishes⟩
  | begin digest op =>
    simp only [SessionStore.step, begin]
    split
    · exact consistent
    · split
      · exact ⟨consistent.current.acquire op, by simpa using consistent.row,
          by simpa using consistent.distinct, consistent.logged, consistent.once,
          consistent.finishes⟩
      · exact consistent
  | execute digest elapsed =>
    exact ⟨consistent.current.execute fun _ _ _ => turn_of_statement,
      by simpa [SessionStore.step, execute] using consistent.row,
      by simpa [SessionStore.step, execute] using consistent.distinct,
      consistent.logged, consistent.once, consistent.finishes⟩
  | commit digest =>
    simp only [SessionStore.step]
    rcases commit_cases consistent.current digest with same | committed
    · rw [same]
      exact consistent
    · exact consistent.committed committed
  | rollback digest =>
    exact ⟨consistent.current.release, consistent.row, consistent.distinct, consistent.logged,
      consistent.once, consistent.finishes⟩
  | load digest elapsed =>
    simp only [SessionStore.step]
    cases loaded : store.load digest elapsed with
    | none => exact consistent
    | some row =>
      obtain ⟨found, -⟩ := filter_eq_some_iff.mp loaded
      refine ⟨consistent.current, fun other held at_ => (consistent.row other held at_).cons ?_,
        consistent.distinct, ?_, consistent.once, consistent.finishes⟩
      · rintro (impossible | ⟨generation, impossible⟩)
        · cases impossible
        · cases impossible
      · intro event mem
        rcases mem_cons.mp mem with rfl | mem
        · exact (consistent.row digest row found).numbered
        · exact consistent.logged event mem

/-! ### Sessions that have ended -/

/-- A finish of the row's refresh has been carried out under the lock and waits for
its commit. -/
def Finishing (store : SessionStore) (digest : LookupDigest) : Prop :=
  ∃ input row, store.table.pending digest = some (.finishRefresh input, .updated row)

/-- The row is revoked, or its refresh has passed the deadline unfinished. -/
def Gone (store : SessionStore) (digest : LookupDigest) (row : SessionRow) : Prop :=
  row.state = .revoked ∨ ∃ deadline envelope, row.state = .refreshing deadline envelope ∧
    deadline ≤ store.clock ∧ ¬ store.Finishing digest

/-- A refresh of the session was claimed and has passed its deadline unfinished. -/
def Abandoned (store : SessionStore) (session : Nat) : Prop :=
  ∃ digest row deadline envelope, store.table.rows.lookup digest = some row ∧
    row.session = session ∧ row.state = .refreshing deadline envelope ∧
    deadline ≤ store.clock ∧ ¬ store.Finishing digest

/-- The row of the session is gone, or there is none any more. -/
structure Ended (store : SessionStore) (session : Nat) : Prop where
  numbered : session < store.next
  gone : ∀ digest row, store.table.rows.lookup digest = some row → row.session = session →
    store.Gone digest row

theorem Consistent.ended_of_revoked (consistent : store.Consistent)
    (revoked : .revoked session ∈ store.log) : store.Ended session := by
  refine ⟨consistent.logged _ revoked, ?_⟩
  rintro digest row found rfl
  exact .inl ((consistent.row digest row found).revoked revoked)

theorem Consistent.ended_of_abandoned (consistent : store.Consistent)
    (abandoned : store.Abandoned session) : store.Ended session := by
  obtain ⟨digest, row, deadline, envelope, found, rfl, refreshing, passed, unfinished⟩ := abandoned
  refine ⟨(consistent.row digest row found).numbered, fun other held heldAt same => ?_⟩
  obtain rfl := consistent.distinct other digest held row heldAt found same
  rw [found] at heldAt
  cases heldAt
  exact .inr ⟨deadline, envelope, refreshing, passed, unfinished⟩

/-- A row that is gone is not live. -/
theorem Gone.not_live (gone : store.Gone digest row) (elapsed : Nat → Nat) :
    live (store.readings elapsed) row = false := by
  rcases gone with revoked | ⟨deadline, envelope, refreshing, passed, -⟩
  · rw [live, revoked]
  · have late : ¬ store.readings elapsed 3 < deadline := by
      rw [readings]
      omega
    simp [live, refreshing, late]

/-- An event that is no use of the session. -/
theorem uses_cons_of_not (not : ¬ (event.isUse = true ∧ event.session = session)) :
    uses session (event :: log) = uses session log := by
  refine filter_cons_of_neg ?_
  simpa using not

/-- A step that leaves the rows and the pending finishes of a session alone. -/
theorem Ended.mono (ended : store.Ended session) (next : store.next ≤ after.next)
    (clock : store.clock ≤ after.clock)
    (rows : ∀ digest row, after.table.rows.lookup digest = some row → row.session = session →
      store.table.rows.lookup digest = some row)
    (finishing : ∀ digest row, after.table.rows.lookup digest = some row →
      row.session = session → after.Finishing digest → store.Finishing digest) :
    after.Ended session := by
  refine ⟨Nat.lt_of_lt_of_le ended.numbered next, fun digest row found same => ?_⟩
  rcases ended.gone digest row (rows digest row found same) same with
    revoked | ⟨deadline, envelope, refreshing, passed, unfinished⟩
  · exact .inl revoked
  · exact .inr ⟨deadline, envelope, refreshing, Int.le_trans passed clock,
      fun now => unfinished (finishing digest row found same now)⟩

/-- A statement does not finish the refresh of a row that is gone. -/
theorem Gone.not_finished (gone : store.Gone digest row) {elapsed count input} :
    statement (store.readings elapsed) count (.finishRefresh input) (some row) ≠
      some (.updated new) := by
  have dead := gone.not_live elapsed
  simp only [statement, elim_some, updateFinish, dead]
  split <;> simp

/-- A commit that leaves the session without a row, or with a revoked one. -/
theorem Ended.publish (ended : store.Ended session) {new}
    (gone : ∀ row, new = some row → row.session = session → row.state = .revoked)
    (le : store.next ≤ next) (log : List Event) :
    Ended { store with
      table := store.table.publish digest new, next := next, log := log } session := by
  refine ⟨Nat.lt_of_lt_of_le ended.numbered le, fun other held heldAt same => ?_⟩
  rw [lookup_publish] at heldAt
  split_ifs at heldAt with here
  · exact .inl (gone held heldAt same)
  · rcases ended.gone other held heldAt same with
      revoked | ⟨deadline, envelope, refreshing, passed, unfinished⟩
    · exact .inl revoked
    · refine .inr ⟨deadline, envelope, refreshing, passed, ?_⟩
      rintro ⟨input, written, pending⟩
      rw [pending_publish, if_neg here] at pending
      exact unfinished ⟨input, written, pending⟩

/-- The rows a commit touches, claims or finishes are not of a session that has
ended. -/
theorem Ended.ne_of_active (ended : store.Ended session) {envelope}
    (found : store.table.rows.lookup digest = some row) (active : row.state = .active envelope) :
    row.session ≠ session := by
  intro same
  rcases ended.gone digest row found same with revoked | ⟨deadline, kept, refreshing, -, -⟩
  · rw [active] at revoked
    cases revoked
  · rw [active] at refreshing
    cases refreshing

/-- What a commit carries out leaves a session that has ended so, and is no use of
it. -/
theorem Ended.committed (ended : store.Ended session) (committed : Committed store digest after) :
    after.Ended session ∧ uses session after.log = uses session store.log := by
  cases committed with
  | released =>
    refine ⟨ended.mono (Nat.le_refl _) (Int.le_refl _) (fun _ _ found _ => found) ?_, rfl⟩
    rintro other held - - ⟨input, written, pending⟩
    rw [pending_release] at pending
    split_ifs at pending
    exact ⟨input, written, pending⟩
  | created turn =>
    refine ⟨ended.publish ?_ (Nat.le_succ _) _, uses_cons_of_not (by simp [Event.isUse])⟩
    rintro row ⟨⟩ same
    exact absurd ended.numbered (same ▸ Nat.lt_irrefl _)
  | @updated op row new found turn pending =>
    -- A row that is only changed further is not one of the session.
    have others (apart : row.session ≠ session) {written : SessionRow}
        (same : written.session = row.session) (event : Event)
        (about : event.session = row.session) :
        Ended { store with
          table := store.table.publish digest (some written), log := event :: store.log } session ∧
          uses session (event :: store.log) = uses session store.log := by
      refine ⟨ended.publish ?_ (Nat.le_refl _) _,
        uses_cons_of_not fun use => apart (about ▸ use.2)⟩
      rintro _ ⟨⟩ is
      exact absurd (same ▸ is) apart
    cases turn with
    | touched active bound =>
      exact others (ended.ne_of_active found active) (by rfl) (.touched _) rfl
    | claimed active => exact others (ended.ne_of_active found active) (by rfl) (.claimed _ _) rfl
    | finished refreshing carried =>
      refine others (fun same => ?_) (by rfl) (.finished _ _) rfl
      rcases ended.gone digest row found same with revoked | ⟨_, _, _, _, unfinished⟩
      · rw [refreshing] at revoked
        cases revoked
      · exact unfinished ⟨_, _, pending⟩
    | revoked row =>
      refine ⟨ended.publish ?_ (Nat.le_refl _) _, uses_cons_of_not (by simp [Event.isUse])⟩
      rintro _ ⟨⟩ -
      rfl
  | pruned found =>
    refine ⟨ended.publish ?_ (Nat.le_refl _) _, uses_cons_of_not (by simp [Event.isUse])⟩
    intro row impossible
    cases impossible

/-- No step brings a session back that has ended. -/
theorem Ended.step (consistent : store.Consistent) (ended : store.Ended session) (action : Action) :
    (store.step action).Ended session ∧
      uses session (store.step action).log = uses session store.log := by
  cases action with
  | tick elapsed =>
    refine ⟨ended.mono (Nat.le_refl _) ?_ (fun _ _ found _ => found) fun _ _ _ _ now => now, rfl⟩
    simp only [SessionStore.step]
    omega
  | begin digest op =>
    simp only [SessionStore.step, begin]
    split
    · exact ⟨ended, rfl⟩
    · split
      · refine ⟨ended.mono (Nat.le_refl _) (Int.le_refl _) ?_ ?_, rfl⟩
        · intro other held found _
          simpa using found
        · rintro other held - - ⟨input, written, pending⟩
          rw [pending_acquire] at pending
          exact ⟨input, written, pending⟩
      · exact ⟨ended, rfl⟩
  | execute digest elapsed =>
    refine ⟨ended.mono (Nat.le_refl _) (Int.le_refl _) ?_ ?_, rfl⟩
    · intro other held found _
      simpa [SessionStore.step, execute] using found
    · rintro other held after same ⟨input, written, pending⟩
      have found : store.table.rows.lookup other = some held := by
        simpa [SessionStore.step, execute] using after
      rcases store.table.pending_execute digest pending with before | ⟨rfl, ran⟩
      · exact ⟨input, written, before⟩
      · rw [found] at ran
        exact absurd ran (ended.gone other held found same).not_finished
  | commit digest =>
    simp only [SessionStore.step]
    rcases commit_cases consistent.current digest with same | committed
    · rw [same]
      exact ⟨ended, rfl⟩
    · exact ended.committed committed
  | rollback digest => exact ended.committed .released
  | load digest elapsed =>
    refine ⟨⟨ended.numbered, ended.gone⟩, ?_⟩
    simp only [SessionStore.step]
    cases loaded : store.load digest elapsed with
    | none => rfl
    | some row =>
      obtain ⟨found, isLive⟩ := filter_eq_some_iff.mp loaded
      refine uses_cons_of_not fun use => ?_
      rw [(ended.gone digest row found use.2).not_live elapsed] at isLive
      cases isLive

/-- A session that has ended is not used in any later run. -/
theorem Ended.run (consistent : store.Consistent) (ended : store.Ended session)
    (actions : List Action) :
    uses session (run SessionStore.step store actions).log = uses session store.log := by
  induction actions generalizing store with
  | nil => rfl
  | cons action rest ih =>
    obtain ⟨ended', same⟩ := ended.step consistent action
    rw [run_cons, ih (consistent.step action) ended', same]

/-- In every run of the store, a session that was revoked, or whose claimed refresh
has passed its deadline unfinished, is never loaded, touched or refreshed again;
each generation of a session is claimed at most once; a finish that commits carries
the generation that was claimed last; and no session is to idle beyond its absolute
expiry. -/
theorem sessions_end_for_good (clock : Int) (actions : List Action) :
    let store := Runs.run SessionStore.step (empty clock) actions
    (∀ session, .revoked session ∈ store.log ∨ store.Abandoned session → ∀ later,
        uses session (Runs.run SessionStore.step store later).log = uses session store.log) ∧
      (claims store.log).Nodup ∧
      (∀ later session generation earlier,
        store.log = later ++ .finished session generation :: earlier →
          lastClaim session earlier = some generation) ∧
      ∀ digest row, store.table.rows.lookup digest = some row →
        row.idleExpiresAt ≤ row.identity.absoluteExpiresAt := by
  intro store
  have consistent : store.Consistent := List.foldlRecOn actions _ (consistent_empty clock)
    fun _ kept action _ => kept.step action
  refine ⟨?_, consistent.once, ?_, fun digest row found => (consistent.row digest row found).idle⟩
  · intro session how later
    have ended : store.Ended session := by
      rcases how with revoked | abandoned
      · exact consistent.ended_of_revoked revoked
      · exact consistent.ended_of_abandoned abandoned
    exact ended.run consistent later
  · intro later session generation earlier split
    have finishes := consistent.finishes
    rw [split] at finishes
    exact finishes.split

/-! ### A session that is refreshed and revoked -/

def sampleDigest : LookupDigest := ⟨List.replicate 32 7, List.length_replicate⟩

def sampleEnvelope : TokenEnvelope := ⟨1, "key", List.replicate 24 1, List.replicate 16 2⟩

def sampleSession : NewSession where
  identity := ⟨sampleDigest, "https://issuer", "client", "operator", 1000⟩
  csrfBinding := sampleDigest
  envelope := sampleEnvelope
  accessExpiresAt := 20
  refreshExpiresAt := 500
  idleTimeoutSecs := 600

/-- A transaction that runs without a pause. -/
def transaction (op : Op) : List Action :=
  [.begin sampleDigest op, .execute sampleDigest fun _ => 0, .commit sampleDigest]

/-- The session is created, loaded, refreshed, and revoked by a logout; then a late
load and a late refresh come in. -/
def refreshAndRevoke : List Action :=
  transaction (.createSession sampleSession) ++ [.load sampleDigest fun _ => 0] ++
    transaction (.claimRefresh 0) ++
    transaction (.finishRefresh ⟨1, sampleEnvelope, 40, 600⟩) ++ transaction .revoke

theorem sessions_end_for_good_sample :
    let store := Runs.run SessionStore.step (empty 0) refreshAndRevoke
    store.log = [.revoked 0, .finished 0 1, .claimed 0 1, .loaded 0, .created 0] ∧
      uses 0 (Runs.run SessionStore.step store
        (.load sampleDigest (fun _ => 0) :: transaction (.claimRefresh 1))).log =
          uses 0 store.log := by
  have log : (Runs.run SessionStore.step (empty 0) refreshAndRevoke).log =
      [.revoked 0, .finished 0 1, .claimed 0 1, .loaded 0, .created 0] := by
    decide +kernel
  refine ⟨log, (sessions_end_for_good 0 refreshAndRevoke).1 0 (.inl ?_) _⟩
  rw [log]
  exact List.mem_cons_self

end SessionStore

end Apex.Browser
