import Apex.Gateway.GrantOwner
import Apex.Lib.Runs

/-!
Grants over whole runs.

`Move` says once what a call can do to the owner; every call is a few moves, and
the facts below are shown of one move. A grant is only ever replaced while it is
within its time, so once the owner has stopped, its clock has failed, or the time
it has seen is past the grant it holds, it is shut for good (`Shut.move`): a failed
renewal voids the grant, and a voided grant is past at any time.
-/

namespace Apex.Gateway

open Relation Runs List Option ReflTransGen

/-- What matters of a renewal beside its transport and its timer. -/
@[ext] structure RenewalView where
  started : Int
  nonce : String
  sequence : Int
  finished : Bool
  result : Option Bool
  granted : Option GrantReply

def Renewal.view (renewal : Renewal) : RenewalView :=
  ⟨renewal.started, renewal.nonce, renewal.sequence, renewal.finished, renewal.result,
    renewal.granted⟩

/-- `Renewal.settle` on a view. -/
def RenewalView.settle (success : Bool) (view : RenewalView) : RenewalView :=
  if view.finished then view else { view with finished := true, result := some success }

theorem Renewal.view_settle (success : Bool) (renewal : Renewal) :
    (renewal.settle success).view = renewal.view.settle success := by
  unfold Renewal.settle RenewalView.settle
  split
  · next finished => exact (if_pos (c := renewal.view.finished = true) finished).symm
  · next unfinished => exact (if_neg (c := renewal.view.finished = true) unfinished).symm

/-- A renewal whose reply is accepted. -/
def RenewalView.grant (reply : GrantReply) (view : RenewalView) : RenewalView :=
  RenewalView.settle true { view with granted := some reply }

theorem Renewal.view_grant (reply : GrantReply) (renewal : Renewal) :
    (Renewal.settle true { renewal with granted := some reply }).view =
      renewal.view.grant reply :=
  Renewal.view_settle true { renewal with granted := some reply }

namespace GrantOwner

/-- The renewals. -/
def views (owner : GrantOwner) : List RenewalView :=
  owner.renewals.map Renewal.view

/-- The time the owner has seen, 0 before the first reading. -/
def seen (owner : GrantOwner) : Int :=
  owner.lastTime.getD 0

/-! ### Moves -/

/-- The number of calls that were begun and not released. -/
def unreleased (tickets : List Ticket) : Nat :=
  tickets.countP fun ticket => !ticket.released

/-- What a part of a call does. The renewals are given by their views, the transport
and the timer of a renewal may change with any move. -/
inductive Move (owner : GrantOwner) : GrantOwner → Prop where
  | idle {renewals : List Renewal} (same : renewals.map Renewal.view = owner.views)
      (callsDrained : Option Bool) :
      Move owner { owner with renewals := renewals, callsDrained := callsDrained }
  | sampled {now} (nonneg : 0 ≤ now) (later : ∀ t, owner.lastTime = some t → t ≤ now) :
      Move owner { owner with lastTime := some now }
  | clockFails : Move owner { owner with clockFailed := true }
  | stops : Move owner { owner with stopped := true }
  | reserves :
      Move owner { owner with
        pending := some owner.renewals.length
        renewals := owner.renewals ++ [Renewal.reserved] }
  | drafts {id f} {g : RenewalView → RenewalView}
      (same : ∀ renewal, (f renewal).view = g renewal.view) (pending : owner.pending = some id)
      (unfinished : ∀ view, owner.views[id]? = some view → view.finished = false)
      (keeps : ∀ view, (g view).result = view.result ∧ (g view).granted = view.granted)
      (started : ∀ view, view.started ≤ owner.seen → (g view).started ≤ owner.seen)
      (lastNonce : Option String) (sequence : Int) :
      Move owner { owner with
        renewals := owner.renewals.modify id f, lastNonce := lastNonce, sequence := sequence }
  | fails {id} (pending : owner.pending = some id) :
      Move owner { owner with
        accepted := owner.accepted.map Accepted.void
        renewals := owner.renewals.modify id (Renewal.settle false) }
  | accepts {id view reply now} (pending : owner.pending = some id)
      (found : owner.views[id]? = some view) (unfinished : view.finished = false)
      (running : owner.stopped = false) (clock : owner.clockFailed = false)
      (time : owner.lastTime = some now)
      (valid : validReply reply owner.binding view.nonce view.sequence = true)
      (held : ∀ accepted, owner.accepted = some accepted → now < accepted.expires)
      (replaces : owner.replaces reply = true) :
      Move owner { owner with
        renewals := owner.renewals.modify id fun renewal =>
          Renewal.settle true { renewal with granted := some reply }
        accepted := some ⟨reply, view.started + reply.validForUs * 1000, id⟩ }
  | frees : Move owner { owner with pending := none }
  | begins (room : owner.activeCalls < maxLocalCalls) (epoch : Option Int) :
      Move owner { owner with
        activeCalls := owner.activeCalls + 1
        tickets := owner.tickets ++ [⟨epoch, false⟩] }
  | ends {ticket held} (found : owner.tickets[ticket]? = some held)
      (unreleased : held.released = false) (callsDrained : Option Bool) :
      Move owner { owner with
        tickets := owner.tickets.modify ticket fun held => { held with released := true }
        activeCalls := owner.activeCalls - 1
        callsDrained := callsDrained }

/-- Some moves, one after the other. -/
abbrev Moves : GrantOwner → GrantOwner → Prop := ReflTransGen Move

variable {owner : GrantOwner} {view : RenewalView} {now : Int}

variable {after : GrantOwner} {id : Nat}

/-- The renewals after one of them was changed. -/
theorem map_view_modify {f g} (same : ∀ renewal, (f renewal).view = g renewal.view)
    (renewals : List Renewal) (id : Nat) :
    (renewals.modify id f).map Renewal.view = (renewals.map Renewal.view).modify id g := by
  induction renewals generalizing id with
  | nil => cases id <;> rfl
  | cons renewal rest ih =>
    cases id with
    | zero => simp [same]
    | succ id => simp [ih]

/-- The transport or the timer of a renewal changes. -/
theorem moves_modify (owner : GrantOwner) (id : Nat) (f : Renewal → Renewal)
    (same : ∀ renewal, (f renewal).view = renewal.view) :
    Moves owner (owner.modifyRenewal id f) := by
  refine .single (.idle ?_ owner.callsDrained)
  rw [map_view_modify (g := fun view => view) same]
  exact modify_id id owner.views

theorem moves_ite (holds : Bool) (moves : Moves owner after) :
    Moves owner (if holds then after else owner) := by
  split
  · exact moves
  · exact .refl

theorem moves_sample (owner : GrantOwner) (reading : Option Int) :
    Moves owner (owner.sample reading).2 := by
  unfold sample
  split
  · exact .refl
  · split
    · exact .single .clockFails
    · next now =>
        split
        · next passes =>
            simp only [Bool.and_eq_true, decide_eq_true_eq, Option.all_eq_true] at passes
            exact .single (.sampled passes.1 passes.2)
        · exact .single .clockFails

theorem moves_snapshot (owner : GrantOwner) (reading : Option Int) :
    Moves owner (owner.snapshot reading).2 :=
  moves_sample owner reading

theorem moves_release (owner : GrantOwner) (id : Nat) : Moves owner (owner.release id) := by
  refine moves_ite _ ?_
  have drains := moves_modify owner id (fun renewal => { renewal with drained := true })
    fun _ => rfl
  refine drains.trans ?_
  split
  · exact .single .frees
  · exact .refl

theorem moves_fail (owner : GrantOwner) (id : Nat) : Moves owner (owner.fail id) := by
  unfold fail
  split
  · next pending => exact (single (.fails pending)).trans (moves_release _ id)
  · exact .refl

theorem moves_abandon (owner : GrantOwner) (id : Nat) : Moves owner (owner.abandon id) :=
  (moves_modify owner id (fun renewal => { renewal with physicallyClosed := true })
    fun _ => rfl).trans (moves_fail _ id)

theorem moves_physicallyClosed (owner : GrantOwner) (id : Nat) :
    Moves owner (owner.physicallyClosed id) :=
  (moves_modify owner id (fun renewal => { renewal with physicallyClosed := true })
    fun _ => rfl).trans (moves_release _ id)

theorem moves_arm (owner : GrantOwner) (id : Nat) (reading : Option Int) (timer : Bool) :
    Moves owner (owner.arm id reading timer) := by
  unfold arm
  split
  · exact .refl
  · split
    · exact .refl
    · refine (moves_sample owner reading).trans ?_
      dsimp only
      split
      · exact moves_fail _ id
      · exact moves_modify _ id (fun renewal => { renewal with armed := true }) fun _ => rfl

theorem moves_startExchange (owner : GrantOwner) (id : Nat) (reads : Nat → Option Int)
    (request : GrantRequest) (start : StartOutcome) (timer : Bool) :
    Moves owner (owner.startExchange id reads request start timer) := by
  have noted := moves_modify owner id (fun renewal => { renewal with exchange := some request })
    fun _ => rfl
  cases start with
  | throws => exact moves_abandon owner id
  | broken => exact noted.trans (moves_fail _ id)
  | exchange => exact noted.trans (moves_arm _ id (reads 2) timer)

/-- A reading that is accepted is the time that was seen last. -/
theorem sample_eq_some {reading} (read : owner.sample reading = (some now, after)) :
    owner.clockFailed = false ∧ reading = some now ∧ 0 ≤ now ∧
      (∀ t, owner.lastTime = some t → t ≤ now) ∧ after = { owner with lastTime := some now } := by
  unfold sample at read
  split at read
  · cases read
  · next alive =>
      split at read
      · cases read
      · split at read
        · next passes =>
            simp only [Bool.and_eq_true, decide_eq_true_eq, Option.all_eq_true] at passes
            cases read
            exact ⟨by simpa using alive, rfl, passes.1, passes.2, rfl⟩
        · cases read

theorem moves_send {started requestNonce} (reads : Nat → Option Int) (start : StartOutcome)
    (timer : Bool) (pending : owner.pending = some id)
    (unfinished : ∀ view, owner.views[id]? = some view → view.finished = false)
    (bound : started ≤ owner.seen) :
    Moves owner (owner.send id started requestNonce reads start timer) := by
  let name (renewal : Renewal) : Renewal :=
    { renewal with started := started, nonce := requestNonce }
  let nameView (view : RenewalView) : RenewalView :=
    { view with started := started, nonce := requestNonce }
  let named : GrantOwner := { owner with
    renewals := owner.renewals.modify id name
    lastNonce := some requestNonce }
  have names : Move owner named :=
    .drafts (g := nameView) (fun _ => rfl) pending unfinished (fun _ => ⟨rfl, rfl⟩)
      (fun _ _ => bound) _ _
  have pending' : named.pending = some id := pending
  have unfinished' : ∀ view, named.views[id]? = some view → view.finished = false := by
    intro view found
    rw [views, map_view_modify (g := nameView) fun _ => rfl, List.getElem?_modify_eq] at found
    obtain ⟨before, was, rfl⟩ := map_eq_some_iff.mp found
    exact unfinished before was
  have numbers : Move named { named with
      renewals := named.renewals.modify id fun renewal =>
        { renewal with sequence := owner.sequence + 1 }
      sequence := owner.sequence + 1 } :=
    .drafts (f := fun renewal => { renewal with sequence := owner.sequence + 1 })
      (g := fun view => { view with sequence := owner.sequence + 1 }) (fun _ => rfl) pending'
      unfinished' (fun _ => ⟨rfl, rfl⟩) (fun _ started => started) _ _
  unfold send
  refine (single names).trans ?_
  dsimp only
  split
  · refine (single numbers).trans ((moves_snapshot _ (reads 1)).trans ?_)
    split
    · exact moves_abandon _ id
    · exact moves_startExchange _ id reads _ start timer
  · exact (single .stops).trans (moves_abandon _ id)

theorem moves_renew (owner : GrantOwner) (reads : Nat → Option Int)
    (requestNonce : Option String) (start : StartOutcome) (timer : Bool) :
    Moves owner (owner.renew reads requestNonce start timer) := by
  unfold renew
  split
  · exact .refl
  · refine (single .reserves).trans ?_
    dsimp only
    generalize reserved : ({ owner with
      pending := some owner.renewals.length
      renewals := owner.renewals ++ [Renewal.reserved] } : GrantOwner) = begun
    have pending : begun.pending = some owner.renewals.length := by rw [← reserved]
    have unfinished : ∀ view, begun.views[owner.renewals.length]? = some view →
        view.finished = false := by
      intro view found
      rw [← reserved, views, List.getElem?_map, List.getElem?_concat_length] at found
      cases found
      rfl
    refine (moves_sample begun (reads 0)).trans ?_
    generalize read : begun.sample (reads 0) = sampled
    obtain ⟨started, after⟩ := sampled
    cases started with
    | none => exact moves_abandon after _
    | some started =>
      obtain ⟨-, -, -, -, rfl⟩ := sample_eq_some read
      cases requestNonce with
      | none => exact moves_abandon _ _
      | some requestNonce =>
        dsimp only
        split
        · exact moves_send reads start timer pending unfinished (Int.le_refl _)
        · exact moves_abandon _ _

theorem moves_receive (owner : GrantOwner) (id : Nat) (reply : Option GrantReply)
    (reading : Option Int) : Moves owner (owner.receive id reply reading) := by
  unfold receive
  split
  · exact .refl
  · next renewal found =>
      split
      · exact .refl
      · next waiting =>
          simp only [Bool.or_eq_true, decide_eq_true_eq, not_or, Bool.not_eq_true,
            not_not] at waiting
          refine (moves_sample owner reading).trans ?_
          generalize read : owner.sample reading = sampled
          obtain ⟨now, after⟩ := sampled
          cases now with
          | none => exact moves_fail after id
          | some now =>
            obtain ⟨clock, -, -, -, rfl⟩ := sample_eq_some read
            cases reply with
            | none => exact moves_fail _ id
            | some reply =>
              dsimp only
              split
              · next passes =>
                  simp only [Bool.and_eq_true, Bool.not_eq_true', decide_eq_true_eq,
                    Option.all_eq_true] at passes
                  obtain ⟨⟨⟨⟨running, valid⟩, held⟩, within⟩, replaces⟩ := passes
                  have view : owner.views[id]? = some renewal.view := by
                    rw [views, List.getElem?_map, found]
                    rfl
                  refine (single (.accepts waiting.2 view waiting.1 running clock rfl
                    valid held replaces)).trans ?_
                  rw [finish, modifyRenewal, List.modify_modify_eq]
                  exact moves_release _ id
              · exact moves_fail _ id

theorem moves_tryBeginCall (owner : GrantOwner) (reading : Option Int) :
    Moves owner (owner.tryBeginCall reading) := by
  unfold tryBeginCall
  refine (moves_snapshot owner reading).trans ?_
  dsimp only
  split
  · exact .refl
  · next admitted =>
      simp only [Bool.or_eq_true, decide_eq_true_eq, not_or, Nat.not_le] at admitted
      exact .single (.begins admitted.2 _)

theorem moves_isCurrent (owner : GrantOwner) (ticket : Nat) (reading : Option Int) :
    Moves owner (owner.isCurrent ticket reading).2 := by
  unfold isCurrent
  split
  · exact .refl
  · split
    · exact .refl
    · exact moves_snapshot owner reading

theorem moves_releaseCall (owner : GrantOwner) (ticket : Nat) :
    Moves owner (owner.releaseCall ticket) := by
  unfold releaseCall
  split
  · exact .refl
  · next held found =>
      split
      · exact .refl
      · next open_ => exact .single (.ends found (by simpa using open_) _)

/-- Closing stops the owner first. -/
theorem moves_close (owner : GrantOwner) : Moves { owner with stopped := true } owner.close := by
  unfold close
  have fails : Moves { owner with stopped := true }
      (({ owner with stopped := true } : GrantOwner).pending.elim { owner with stopped := true }
        { owner with stopped := true }.fail) := by
    cases owner.pending with
    | none => exact .refl
    | some id => exact moves_fail _ id
  refine fails.trans ?_
  dsimp only
  split
  · exact .single (.idle rfl _)
  · exact .refl

/-- Everything that happens to the owner is some moves. -/
theorem moves_step (owner : GrantOwner) (action : GrantAction) :
    Moves owner (owner.step action) := by
  cases action with
  | renew => exact moves_renew ..
  | reply id => exact moves_ite _ (moves_receive owner id ..)
  | transportClosed id => exact moves_ite _ (moves_physicallyClosed owner id)
  | replyFailed id | transportCloseFailed id => exact moves_ite _ (moves_fail owner id)
  | timer id => exact moves_ite _ (moves_arm owner id ..)
  | snapshot => exact moves_snapshot ..
  | tryBeginCall => exact moves_tryBeginCall ..
  | isCurrent => exact moves_isCurrent ..
  | releaseCall => exact moves_releaseCall ..
  | close => exact (single .stops).trans (moves_close owner)

/-! ### The pending slot -/

/-- The slot is that of the last renewal. -/
def Slotted (owner : GrantOwner) : Prop :=
  ∀ id, owner.pending = some id → id + 1 = owner.renewals.length

theorem Slotted.move (slotted : owner.Slotted) (move : Move owner after) : after.Slotted := by
  cases move with
  | @idle renewals same callsDrained =>
    have length : renewals.length = owner.renewals.length := by
      simpa [views] using congrArg List.length same
    exact fun id held => (slotted id held).trans length.symm
  | reserves =>
    rintro _ ⟨⟩
    simp
  | drafts | fails | accepts =>
    intro other held
    rw [length_modify]
    exact slotted other held
  | frees => exact nofun
  | _ => exact slotted

/-- A change of the renewal that holds the slot. -/
theorem Slotted.modify (slotted : owner.Slotted) (pending : owner.pending = some id) {f}
    {g : RenewalView → RenewalView} (same : ∀ renewal, (f renewal).view = g renewal.view) :
    ∃ earlier view, owner.views = earlier ++ [view] ∧ owner.views[id]? = some view ∧
      (owner.renewals.modify id f).map Renewal.view = earlier ++ [g view] := by
  have length : owner.views.length = id + 1 := by
    rw [views, length_map, ← slotted id pending]
  obtain ⟨earlier, view, is⟩ := eq_nil_or_concat'  owner.views |>.resolve_left
    (ne_nil_of_length_eq_add_one length)
  rw [is, length_append] at length
  obtain rfl : earlier.length = id := Nat.succ.inj length
  refine ⟨earlier, view, is, by rw [is, List.getElem?_concat_length], ?_⟩
  rw [map_view_modify same, ← views, is]
  simp [modify_eq_take_cons_drop]

/-! ### Calls -/

/-- The calls that were begun and not released are counted, and are not too many. -/
structure Counted (owner : GrantOwner) : Prop where
  calls : owner.activeCalls = unreleased owner.tickets
  bound : owner.activeCalls ≤ maxLocalCalls

theorem unreleased_release {tickets ticket held} (found : tickets[ticket]? = some held)
    (open_ : held.released = false) :
    unreleased (tickets.modify ticket fun held => { held with released := true }) + 1 =
      unreleased tickets := by
  induction tickets generalizing ticket with
  | nil => cases found
  | cons first rest ih =>
    cases ticket with
    | zero =>
      cases found
      simp [unreleased, open_]
    | succ n =>
      have later := ih found
      simp only [unreleased, modify_succ_cons, countP_cons] at later ⊢
      omega

theorem Counted.move (counted : owner.Counted) (move : Move owner after) :
    after.Counted := by
  cases move with
  | begins room epoch =>
    refine ⟨?_, room⟩
    have calls := counted.calls
    simp only [unreleased, countP_append] at calls ⊢
    rw [calls]
    rfl
  | @ends ticket held found open_ callsDrained =>
    have one := unreleased_release found open_
    have calls := counted.calls
    have bound := counted.bound
    exact ⟨by dsimp only; omega, by dsimp only; omega⟩
  | _ => exact ⟨counted.calls, counted.bound⟩

/-! ### Owners that are shut -/

/-- The owner has seen a time at which the grant it holds is past. -/
def Expired (owner : GrantOwner) : Prop :=
  ∃ accepted now, owner.accepted = some accepted ∧ owner.lastTime = some now ∧
    accepted.expires ≤ now

/-- The owner has stopped, its clock has failed, or its grant is past. -/
def Shut (owner : GrantOwner) : Prop :=
  owner.stopped = true ∨ owner.clockFailed = true ∨ owner.Expired

/-- The times the owner sees do not go back before 0. -/
def TimeOk (owner : GrantOwner) : Prop :=
  ∀ now, owner.lastTime = some now → 0 ≤ now

theorem seen_le (nonneg : 0 ≤ now) (later : ∀ t, owner.lastTime = some t → t ≤ now) :
    owner.seen ≤ now := by
  unfold seen
  cases last : owner.lastTime with
  | none => exact nonneg
  | some t => exact later t last

theorem TimeOk.move (timeOk : owner.TimeOk) (move : Move owner after) :
    after.TimeOk := by
  cases move with
  | sampled nonneg later =>
    rintro _ ⟨⟩
    exact nonneg
  | _ => exact timeOk

/-- A reply is not accepted once the grant it would replace is past. -/
theorem not_shut (running : owner.stopped = false) (clock : owner.clockFailed = false)
    (time : owner.lastTime = some now)
    (held : ∀ accepted, owner.accepted = some accepted → now < accepted.expires) :
    ¬ owner.Shut := by
  rintro (stopped | failed | ⟨grant, seen, has, last, past⟩)
  · rw [running] at stopped
    cases stopped
  · rw [clock] at failed
    cases failed
  · rw [time] at last
    cases last
    exact absurd (held grant has) (Int.not_lt.mpr past)

/-- An owner that is shut stays shut. -/
theorem Shut.move (timeOk : owner.TimeOk) (shut : owner.Shut) (move : Move owner after) :
    after.Shut := by
  cases move with
  | @sampled now nonneg later =>
    rcases shut with stopped | failed | ⟨accepted, seen, held, time, past⟩
    · exact .inl stopped
    · exact .inr (.inl failed)
    · exact .inr (.inr ⟨accepted, now, held, rfl, Int.le_trans past (later seen time)⟩)
  | clockFails => exact .inr (.inl rfl)
  | stops => exact .inl rfl
  | fails pending =>
    rcases shut with stopped | failed | ⟨accepted, seen, held, time, past⟩
    · exact .inl stopped
    · exact .inr (.inl failed)
    · refine .inr (.inr ⟨accepted.void, seen, ?_, time, timeOk seen time⟩)
      simp [held]
  | accepts pending found unfinished running clock time valid held replaces =>
    exact absurd shut (not_shut running clock time held)
  | _ => exact shut

/-- An owner that is shut admits nothing. -/
theorem Shut.not_admitting (shut : owner.Shut) (reading : Option Int) :
    (owner.snapshot reading).1.admitting = false := by
  unfold snapshot
  generalize read : owner.sample reading = sampled
  obtain ⟨now, after⟩ := sampled
  dsimp only
  cases now with
  | none => rfl
  | some now =>
    obtain ⟨clock, -, -, later, rfl⟩ := sample_eq_some read
    rcases shut with stopped | failed | ⟨accepted, seen, held, time, past⟩
    · unfold modeAt
      split
      · simp [stopped]
      · rfl
    · rw [clock] at failed
      cases failed
    · have late : ¬ now < accepted.expires :=
        Int.not_lt.mpr (Int.le_trans past (later seen time))
      simp [modeAt, held, late]

/-! ### Grants -/

/-- The renewals that were granted. -/
def grants (owner : GrantOwner) : List RenewalView :=
  owner.views.filter fun view => view.granted.isSome

/-- The accepted replies, in the order of their renewals. -/
def acceptedReplies (owner : GrantOwner) : List GrantReply :=
  owner.renewals.filterMap Renewal.granted

theorem acceptedReplies_eq :
    owner.acceptedReplies = owner.grants.filterMap RenewalView.granted := by
  rw [grants, filterMap_filter, views, filterMap_map]
  refine filterMap_congr fun renewal _ => ?_
  change renewal.granted = if renewal.granted.isSome then renewal.granted else none
  cases renewal.granted <;> rfl

/-- What holds of each renewal, given the time that was seen. -/
structure Regular (binding : DeploymentBinding) (seen : Int) (view : RenewalView) : Prop where
  started : view.started ≤ seen
  unsettled : view.finished = false → view.result = none ∧ view.granted = none
  succeeded : view.result = some true → view.granted.isSome
  replied : ∀ reply, view.granted = some reply →
    validReply reply binding view.nonce view.sequence = true

/-- No renewal has failed after another was granted. -/
def Unfailed (views : List RenewalView) : Prop :=
  views.Pairwise fun earlier later => earlier.granted.isSome → later.result ≠ some false

/-- The renewals and the grant that is held. -/
structure Granted (owner : GrantOwner) : Prop where
  regular : ∀ view ∈ owner.views, Regular owner.binding owner.seen view
  ordered : owner.acceptedReplies.Pairwise fun earlier later => earlier.epoch ≤ later.epoch
  newest : ∀ reply ∈ owner.acceptedReplies, ∃ accepted, owner.accepted = some accepted ∧
    reply.epoch ≤ accepted.reply.epoch
  held : ∀ accepted, owner.accepted = some accepted → owner.lastTime.isSome ∧
    ∃ view ∈ owner.grants, view.granted = some accepted.reply ∧
      (accepted.expires = view.started + accepted.reply.validForUs * 1000 ∨ accepted.expires = 0)
  failed : owner.Shut ∨ Unfailed owner.views

/-- A move by which nothing is granted. -/
theorem Granted.keep (granted : owner.Granted) (grants : after.grants = owner.grants)
    (regular : ∀ view ∈ after.views, Regular after.binding after.seen view)
    (accepted : after.accepted = owner.accepted ∨
      after.accepted = owner.accepted.map Accepted.void)
    (lastTime : owner.lastTime.isSome → after.lastTime.isSome)
    (failed : after.Shut ∨ Unfailed after.views) : after.Granted := by
  have replies : after.acceptedReplies = owner.acceptedReplies := by
    rw [acceptedReplies_eq, acceptedReplies_eq, grants]
  refine ⟨regular, by rw [replies]; exact granted.ordered, ?_, ?_, failed⟩
  · intro reply mem
    obtain ⟨grant, holds, epoch⟩ := granted.newest reply (replies ▸ mem)
    rcases accepted with same | voids
    · exact ⟨grant, same.trans holds, epoch⟩
    · exact ⟨grant.void, by rw [voids, holds]; rfl, epoch⟩
  · rw [grants]
    intro grant has
    rcases accepted with same | voids
    · obtain ⟨some, view⟩ := granted.held grant (same ▸ has)
      exact ⟨lastTime some, view⟩
    · rw [voids] at has
      obtain ⟨old, was, rfl⟩ := map_eq_some_iff.mp has
      obtain ⟨some, view, mem, replied, -⟩ := granted.held old was
      exact ⟨lastTime some, view, mem, replied, .inr rfl⟩

theorem Regular.later {binding seen seen'} (regular : Regular binding seen view)
    (later : seen ≤ seen') : Regular binding seen' view :=
  { regular with started := Int.le_trans regular.started later }

/-- A renewal without a result and a grant. -/
theorem regular_of_unsettled {binding seen} (started : view.started ≤ seen)
    (result : view.result = none) (granted : view.granted = none) :
    Regular binding seen view := by
  constructor
  · exact started
  · exact fun _ => ⟨result, granted⟩
  · simp [result]
  · simp [granted]

/-- A change that leaves the renewals and the grant alone. -/
theorem Granted.same (granted : owner.Granted) (views : after.views = owner.views)
    (binding : after.binding = owner.binding) (accepted : after.accepted = owner.accepted)
    (seen : owner.seen ≤ after.seen) (lastTime : owner.lastTime.isSome → after.lastTime.isSome)
    (shut : owner.Shut → after.Shut) : after.Granted := by
  refine granted.keep (by rw [grants, grants, views]) ?_ (.inl accepted) lastTime ?_
  · rw [views, binding]
    exact fun view mem => (granted.regular view mem).later seen
  · rw [views]
    exact granted.failed.imp_left shut

/-- The renewal that is last has no result yet, and gets none. -/
theorem Granted.draft (granted : owner.Granted) {earlier} (last : Option RenewalView)
    (was : owner.views = earlier ++ last.toList) (unsettled : ∀ old ∈ last, old.granted = none)
    (is : after.views = earlier ++ [view]) (binding : after.binding = owner.binding)
    (accepted : after.accepted = owner.accepted) (lastTime : after.lastTime = owner.lastTime)
    (started : view.started ≤ owner.seen) (result : view.result = none) (none : view.granted = none)
    (shut : owner.Shut → after.Shut) :
    after.Granted := by
  have seen : after.seen = owner.seen := congrArg (Option.getD · 0) lastTime
  refine granted.keep ?_ ?_ (.inl accepted) (by rw [lastTime]; exact fun some => some) ?_
  · rw [grants, grants, was, is, filter_append, filter_append]
    cases last with
    | none => simp [none]
    | some old => simp [none, unsettled old rfl]
  · rw [is, binding, seen, forall_mem_append]
    refine ⟨fun view mem => granted.regular view (was ▸ mem_append_left _ mem), ?_⟩
    exact forall_mem_singleton.mpr (regular_of_unsettled started result none)
  · refine granted.failed.imp shut fun unfailed => ?_
    rw [Unfailed, was] at unfailed
    rw [Unfailed, is]
    refine pairwise_append.mpr ⟨(pairwise_append.mp unfailed).1, pairwise_singleton _ _, ?_⟩
    simp [result]

/-- A failure voids the grant that is held. -/
theorem Granted.fail (granted : owner.Granted) (slotted : owner.Slotted) (timeOk : owner.TimeOk)
    (pending : owner.pending = some id) :
    Granted { owner with
      accepted := owner.accepted.map Accepted.void
      renewals := owner.renewals.modify id (Renewal.settle false) } := by
  obtain ⟨earlier, view, was, -, is⟩ := slotted.modify pending (Renewal.view_settle false)
  have regular := granted.regular view (by simp [was])
  -- A renewal that was granted is finished, and stays as it is.
  have kept : view.granted.isSome → view.settle false = view := by
    intro some
    rw [RenewalView.settle, if_pos]
    by_contra unfinished
    rw [(regular.unsettled (Bool.not_eq_true _ ▸ unfinished)).2] at some
    cases some
  have same : (view.settle false).granted = view.granted := by
    unfold RenewalView.settle
    split <;> rfl
  generalize after_eq : ({ owner with
    accepted := owner.accepted.map Accepted.void
    renewals := owner.renewals.modify id (Renewal.settle false) } : GrantOwner) = after
  have views : after.views = earlier ++ [view.settle false] := by rw [← after_eq]; exact is
  have grants : after.grants = owner.grants := by
    rw [GrantOwner.grants, GrantOwner.grants, was, views, filter_append, filter_append]
    cases some : view.granted.isSome with
    | true => rw [kept some]
    | false => simp [same, some]
  have voided : after.accepted = owner.accepted.map Accepted.void := by rw [← after_eq]
  have lastTime : after.lastTime = owner.lastTime := by rw [← after_eq]
  refine granted.keep grants ?_ (.inr voided) (by rw [lastTime]; exact fun some => some) ?_
  · rw [views, forall_mem_append, ← after_eq]
    refine ⟨fun view mem => granted.regular view (was ▸ mem_append_left _ mem), ?_⟩
    refine forall_mem_singleton.mpr ?_
    unfold RenewalView.settle
    split
    · exact regular
    · exact ⟨regular.started, nofun, nofun, regular.replied⟩
  · cases holds : owner.accepted with
    | some grant =>
      obtain ⟨now, time⟩ := isSome_iff_exists.mp (granted.held grant holds).1
      refine .inl (.inr (.inr ⟨grant.void, now, ?_, lastTime.trans time, timeOk now time⟩))
      rw [voided, holds]
      rfl
    | none =>
      -- Nothing was granted yet.
      refine .inr (pairwise_of_forall_mem_list fun first mem _ _ some => ?_)
      have granted' : first ∈ after.grants := mem_filter.mpr ⟨mem, some⟩
      obtain ⟨reply, has⟩ := isSome_iff_exists.mp some
      obtain ⟨grant, is, -⟩ := granted.newest reply (by
        rw [acceptedReplies_eq, ← grants]
        exact mem_filterMap.mpr ⟨first, granted', has⟩)
      rw [holds] at is
      cases is

/-- A reply that is accepted is that of the last renewal. -/
theorem Granted.accept (granted : owner.Granted) (slotted : owner.Slotted)
    (pending : owner.pending = some id) {reply} (found : owner.views[id]? = some view)
    (unfinished : view.finished = false) (unshut : ¬ owner.Shut) (time : owner.lastTime = some now)
    (valid : validReply reply owner.binding view.nonce view.sequence = true)
    (replaces : owner.replaces reply = true) :
    Granted { owner with
      renewals := owner.renewals.modify id fun renewal =>
        Renewal.settle true { renewal with granted := some reply }
      accepted := some ⟨reply, view.started + reply.validForUs * 1000, id⟩ } := by
  obtain ⟨earlier, last, was, there, is⟩ := slotted.modify pending (Renewal.view_grant reply)
  rw [found] at there
  cases there
  have settled : view.grant reply =
      { view with granted := some reply, finished := true, result := some true } := by
    simp [RenewalView.grant, RenewalView.settle, unfinished]
  generalize after_eq : ({ owner with
    renewals := owner.renewals.modify id fun renewal =>
      Renewal.settle true { renewal with granted := some reply }
    accepted := some ⟨reply, view.started + reply.validForUs * 1000, id⟩ } : GrantOwner) = after
  have views : after.views = earlier ++ [view.grant reply] := by rw [← after_eq]; exact is
  have accepted : after.accepted =
    some ⟨reply, view.started + reply.validForUs * 1000, id⟩ := by rw [← after_eq]
  have regular := granted.regular view (by simp [was])
  have grants : after.grants = owner.grants ++ [view.grant reply] := by
    simp [GrantOwner.grants, views, was, settled, (regular.unsettled unfinished).2]
  have replies : after.acceptedReplies = owner.acceptedReplies ++ [reply] := by
    rw [acceptedReplies_eq, acceptedReplies_eq, grants, filterMap_append, settled]
    rfl
  -- The epochs accepted before are at most that of the grant which is replaced.
  have newer : ∀ answer ∈ owner.acceptedReplies, answer.epoch ≤ reply.epoch := by
    intro answer mem
    obtain ⟨grant, holds, epoch⟩ := granted.newest answer mem
    unfold GrantOwner.replaces at replaces
    rw [holds] at replaces
    simp only [all_some, Bool.and_eq_true, decide_eq_true_eq] at replaces
    exact Int.le_trans epoch replaces.1.1
  constructor
  · rw [views, forall_mem_append, ← after_eq]
    refine ⟨fun view mem => granted.regular view (was ▸ mem_append_left _ mem), ?_⟩
    refine forall_mem_singleton.mpr ?_
    rw [settled]
    refine ⟨regular.started, nofun, fun _ => rfl, ?_⟩
    rintro _ ⟨⟩
    exact valid
  · rw [replies]
    exact pairwise_append.mpr ⟨granted.ordered, pairwise_singleton _ _,
      fun answer mem => forall_mem_singleton.mpr (newer answer mem)⟩
  · rw [replies, accepted, forall_mem_append]
    exact ⟨fun answer mem => ⟨_, rfl, newer answer mem⟩,
      forall_mem_singleton.mpr ⟨_, rfl, Int.le_refl _⟩⟩
  · rw [accepted, grants]
    rintro _ ⟨⟩
    refine ⟨by rw [← after_eq]; exact isSome_of_eq_some time, view.grant reply,
      mem_append_right _ mem_cons_self, ?_⟩
    rw [settled]
    exact ⟨rfl, .inl rfl⟩
  · have unfailed := granted.failed.resolve_left unshut
    rw [Unfailed, was] at unfailed
    refine .inr ?_
    rw [Unfailed, views]
    refine pairwise_append.mpr ⟨(pairwise_append.mp unfailed).1, pairwise_singleton _ _, ?_⟩
    simp [settled]

/-! ### Runs -/

/-- What holds of an owner at any time. -/
structure Sound (binding : DeploymentBinding) (owner : GrantOwner) : Prop where
  bound : owner.binding = binding
  slotted : owner.Slotted
  counted : owner.Counted
  timeOk : owner.TimeOk
  granted : owner.Granted

variable {binding : DeploymentBinding}

/-- An owner without renewals. -/
theorem sound_new (binding : DeploymentBinding) : Sound binding (new binding) := by
  constructor
  · rfl
  · exact nofun
  · exact ⟨rfl, Nat.zero_le _⟩
  · exact nofun
  · constructor
    · intro _ mem
      cases mem
    · exact List.Pairwise.nil
    · intro _ mem
      cases mem
    · intro _ held
      cases held
    · exact .inr List.Pairwise.nil

theorem Granted.move (sound : Sound binding owner) (move : Move owner after) :
    after.Granted := by
  have shut := fun shut : owner.Shut => shut.move sound.timeOk move
  have granted := sound.granted
  cases move with
  | idle same callsDrained =>
    exact granted.same same rfl rfl (Int.le_refl _) (fun some => some) shut
  | @sampled now nonneg later =>
    exact granted.same rfl rfl rfl (seen_le nonneg later) (fun _ => rfl) shut
  | reserves =>
    have is : GrantOwner.views { owner with
        pending := some owner.renewals.length
        renewals := owner.renewals ++ [Renewal.reserved] } =
        owner.views ++ [Renewal.reserved.view] := map_append
    refine granted.draft none (append_nil _).symm (by simp) is rfl rfl rfl ?_ rfl rfl shut
    change 0 ≤ owner.lastTime.getD 0
    cases last : owner.lastTime with
    | none => exact Int.le_refl 0
    | some now => exact sound.timeOk now last
  | drafts same pending unfinished keeps started lastNonce sequence =>
    obtain ⟨earlier, view, was, found, is⟩ := sound.slotted.modify pending same
    have regular := granted.regular view (by simp [was])
    obtain ⟨result, none⟩ := regular.unsettled (unfinished view found)
    refine granted.draft (some view) was ?_ is rfl rfl rfl (started view regular.started)
      ((keeps view).1.trans result) ((keeps view).2.trans none) shut
    rintro _ ⟨⟩
    exact none
  | fails pending => exact granted.fail sound.slotted sound.timeOk pending
  | accepts pending found unfinished running clock time valid held replaces =>
    exact granted.accept sound.slotted pending found unfinished (not_shut running clock time held)
      time valid replaces
  | _ => exact granted.same rfl rfl rfl (Int.le_refl _) (fun some => some) shut

theorem Sound.move (sound : Sound binding owner) (move : Move owner after) :
    Sound binding after where
  bound := by
    cases move with
    | _ => exact sound.bound
  slotted := sound.slotted.move move
  counted := sound.counted.move move
  timeOk := sound.timeOk.move move
  granted := Granted.move sound move

theorem Sound.moves (sound : Sound binding owner) (moves : Moves owner after) :
    Sound binding after := by
  induction moves with
  | refl => exact sound
  | tail _ move before => exact before.move move

theorem Shut.moves (sound : Sound binding owner) (shut : owner.Shut) (moves : Moves owner after) :
    after.Shut := by
  induction moves with
  | refl => exact shut
  | tail before move ih => exact ih.move (sound.moves before).timeOk move

theorem moves_run (owner : GrantOwner) (actions : List GrantAction) :
    Moves owner (run step owner actions) := by
  induction actions generalizing owner with
  | nil => exact .refl
  | cons action rest ih => exact (moves_step owner action).trans (ih (owner.step action))

/-- An owner that was closed has stopped. -/
theorem Moves.stopped (moves : Moves owner after) (stopped : owner.stopped = true) :
    after.stopped = true := by
  induction moves with
  | refl => exact stopped
  | tail _ move before =>
    cases move with
    | stops => rfl
    | _ => exact before

theorem run_close {actions} (closes : .close ∈ actions) (owner : GrantOwner) :
    (run step owner actions).stopped = true := by
  obtain ⟨before, later, rfl⟩ := append_of_mem closes
  rw [run_append, run_cons]
  exact Moves.stopped ((moves_close _).trans (moves_run _ later)) rfl

/-- An owner that admits holds a serving grant which is within its time. -/
theorem Sound.admits (sound : Sound binding owner) {reading}
    (admits : (owner.snapshot reading).1.admitting = true) :
    ∃ (now : Int) (id : Nat) (renewal : Renewal) (reply : GrantReply),
      reading = some now ∧ owner.renewals[id]? = some renewal ∧
      renewal.granted = some reply ∧ reply.mode = .serve ∧
      validReply reply binding renewal.nonce renewal.sequence = true ∧
      renewal.started ≤ now ∧ now < renewal.started + reply.validForUs * 1000 := by
  unfold snapshot at admits
  generalize read : owner.sample reading = sampled at admits
  obtain ⟨now, after⟩ := sampled
  have serves : after.modeAt now = .serve := of_decide_eq_true admits
  cases now with
  | none => cases serves
  | some now =>
    obtain ⟨clock, rfl, nonneg, later, rfl⟩ := sample_eq_some read
    unfold modeAt at serves
    dsimp only at serves
    cases holds : owner.accepted with
    | none =>
      rw [holds] at serves
      cases serves
    | some grant =>
      rw [holds] at serves
      dsimp only at serves
      split at serves
      · next within =>
          simp only [Bool.and_eq_true, decide_eq_true_eq] at within
          obtain ⟨-, view, mem, replied, expires⟩ := sound.granted.held grant holds
          have regular := sound.granted.regular view (mem_filter.mp mem).1
          have started : view.started ≤ now :=
            Int.le_trans regular.started (seen_le nonneg later)
          have valid := regular.replied grant.reply replied
          obtain ⟨renewal, there, rfl⟩ := mem_map.mp (mem_filter.mp mem).1
          obtain ⟨id, is⟩ := mem_iff_getElem?.mp there
          rw [sound.bound] at valid
          refine ⟨now, id, renewal, grant.reply, rfl, is, replied, serves, valid, started, ?_⟩
          rcases expires with expires | void
          · exact expires ▸ within.2
          · exact absurd within.2 (Int.not_lt.mpr (void ▸ nonneg))
      · cases serves

/-- A renewal has failed after another was granted. -/
def FailedAfterGrant (owner : GrantOwner) : Prop :=
  ∃ (i j : Nat) (granted failed : Renewal), i < j ∧
    owner.renewals[i]? = some granted ∧ granted.result = some true ∧
    owner.renewals[j]? = some failed ∧ failed.result = some false

theorem Granted.shut_of_failed (granted : owner.Granted) (failed : owner.FailedAfterGrant) :
    owner.Shut := by
  obtain ⟨i, j, first, second, order, is, success, is', failure⟩ := failed
  refine granted.failed.resolve_right fun unfailed => ?_
  obtain ⟨bound, rfl⟩ := List.getElem?_eq_some_iff.mp is
  obtain ⟨bound', rfl⟩ := List.getElem?_eq_some_iff.mp is'
  have apart := pairwise_iff_getElem.mp (pairwise_map.mp unfailed) i j bound bound' order
  have mem : owner.renewals[i].view ∈ owner.views :=
    mem_map_of_mem (getElem_mem bound)
  exact apart ((granted.regular _ mem).succeeded success) failure

/-- Whatever happens to an owner: it admits only within the time of a serving grant it was
given for its binding, nonce and sequence; the epochs it accepts do not go back; once its
grant is past, a renewal has failed after another was granted, the clock has failed or it
was closed, it never admits again; and its calls are counted. -/
theorem grants_hold (binding : DeploymentBinding) (actions : List GrantAction) :
    (∀ reading, ((run step (new binding) actions).snapshot reading).1.admitting = true →
      ∃ (now : Int) (id : Nat) (renewal : Renewal) (reply : GrantReply), reading = some now ∧
        (run step (new binding) actions).renewals[id]? = some renewal ∧
        renewal.granted = some reply ∧ reply.mode = .serve ∧
        validReply reply binding renewal.nonce renewal.sequence = true ∧
        renewal.started ≤ now ∧ now < renewal.started + reply.validForUs * 1000) ∧
    (run step (new binding) actions).acceptedReplies.Pairwise
      (fun earlier later => earlier.epoch ≤ later.epoch) ∧
    ((run step (new binding) actions).Expired ∨
        (run step (new binding) actions).FailedAfterGrant ∨
        (run step (new binding) actions).clockFailed = true ∨ .close ∈ actions →
      ∀ later reading,
        ((run step (new binding) (actions ++ later)).snapshot reading).1.admitting = false) ∧
    (run step (new binding) actions).activeCalls =
      unreleased (run step (new binding) actions).tickets ∧
    (run step (new binding) actions).activeCalls ≤ 128 := by
  have sound := (sound_new binding).moves (moves_run (new binding) actions)
  refine ⟨fun reading admits => sound.admits admits, sound.granted.ordered, ?_,
    sound.counted.calls, sound.counted.bound⟩
  intro ended later reading
  have shut : (run step (new binding) actions).Shut := by
    rcases ended with expired | failed | clock | closes
    · exact .inr (.inr expired)
    · exact sound.granted.shut_of_failed failed
    · exact .inr (.inl clock)
    · exact .inl (run_close closes _)
  rw [run_append]
  exact (shut.moves sound (moves_run _ later)).not_admitting reading

def sampleBinding : DeploymentBinding where
  installationId := "01890f2e-7b1a-7c3d-8e4f-0123456789a0"
  workspaceId := "workspace"
  namespaceId := "namespace"
  proxyId := "01890f2e-7b1a-7c3d-8e4f-0123456789a1"
  revisionId := "01890f2e-7b1a-7c3d-8e4f-0123456789a2"
  generation := 1
  fencingToken := 1
  processInstanceId := "01890f2e-7b1a-7c3d-8e4f-0123456789a3"
  configHash := "0000000000000000000000000000000000000000000000000000000000000000"
  launchContextHash := "1111111111111111111111111111111111111111111111111111111111111111"

def sampleNonce : String :=
  "2222222222222222222222222222222222222222222222222222222222222222"

/-- A renewal that is sent at time 5 and granted at time 7. -/
def sampleActions : List GrantAction :=
  [.renew (fun _ => some 5) (some sampleNonce) .exchange true,
    .reply 0 (some ⟨sampleBinding, sampleNonce, 1, "01890f2e-7b1a-7c3d-8e4f-0123456789a4", 1,
      .serve, 1⟩) (some 7)]

theorem sampleActions_admitting :
    ((run step (new sampleBinding) sampleActions).snapshot (some 8)).1.admitting = true := by
  decide +kernel

/-- The owner admits at time 8, and never after it was closed. -/
theorem grants_hold_sample :
    (∃ (now : Int) (id : Nat) (renewal : Renewal) (reply : GrantReply), some 8 = some now ∧
      (run step (new sampleBinding) sampleActions).renewals[id]? = some renewal ∧
      renewal.granted = some reply ∧ reply.mode = .serve ∧
      validReply reply sampleBinding renewal.nonce renewal.sequence = true ∧
      renewal.started ≤ now ∧ now < renewal.started + reply.validForUs * 1000) ∧
    ∀ later reading, ((run step (new sampleBinding) (sampleActions ++ [.close] ++ later)).snapshot
      reading).1.admitting = false := by
  constructor
  · exact (grants_hold sampleBinding sampleActions).1 (some 8) sampleActions_admitting
  · have closes : GrantAction.close ∈ sampleActions ++ [GrantAction.close] := by simp
    have ended := (grants_hold sampleBinding (sampleActions ++ [.close])).2.2.1
    exact ended (Or.inr (Or.inr (Or.inr closes)))

end GrantOwner

end Apex.Gateway
