import Apex.Identifiers

/-!
The owner of a deployment's grant in the gateway.

The owner asks for a grant by renewals, one at a time. A renewal holds the one
pending slot until its result is known and its transport has closed; replies,
failures, timers and the closing of the transport come in any order, late ones
included. Each call into the owner runs to its end, as the event loop has it.

The clock is not trusted: a reading that is no number, is negative or lies before
an earlier one makes the clock fail for good. A call takes its readings from its
inputs, `none` being a reading that throws or is no integer.

A renewal keeps the reply that was accepted for it, so the replies that were ever
accepted are those of the renewals, in their order.
-/

namespace Apex.Gateway

/-! ### Bindings and replies -/

structure DeploymentBinding where
  installationId : String
  workspaceId : String
  namespaceId : String
  proxyId : String
  revisionId : String
  generation : Int
  fencingToken : Int
  processInstanceId : String
  configHash : String
  launchContextHash : String
  deriving DecidableEq

/-- A reply may name any mode; `other` stands for those the owner does not know. -/
inductive GrantMode where
  | prepare
  | serve
  | closed
  | other (name : String)
  deriving DecidableEq

structure AppliedGrant where
  decisionId : String
  epoch : Int
  admitting : Bool
  activeCalls : Nat
  deriving DecidableEq

structure GrantRequest where
  binding : DeploymentBinding
  nonce : String
  renewalSequence : Int
  applied : Option AppliedGrant
  deriving DecidableEq

structure GrantReply where
  binding : DeploymentBinding
  nonce : String
  renewalSequence : Int
  decisionId : String
  epoch : Int
  mode : GrantMode
  validForUs : Int
  deriving DecidableEq

def maxGrantUs : Int := 10000000

def uint64 (value : Int) : Bool :=
  0 < value && value ≤ 18446744073709551615

/-- `HASH`. -/
def nonce (value : String) : Bool :=
  value.toList.length == 64 && value.toList.all Text.isLowerHex

/-- The checks of `immutableBinding`. -/
def immutableBinding (value : DeploymentBinding) : Bool :=
  [value.installationId, value.proxyId, value.revisionId, value.processInstanceId].all
      isLowercaseUuidV7 &&
    [value.workspaceId, value.namespaceId].all isScopeIdentifier &&
    [value.configHash, value.launchContextHash].all nonce &&
    uint64 value.generation && uint64 value.fencingToken

def validReply (reply : GrantReply) (binding : DeploymentBinding) (expectedNonce : String)
    (sequence : Int) : Bool :=
  immutableBinding reply.binding && reply.binding = binding && reply.nonce = expectedNonce &&
    uint64 reply.renewalSequence && reply.renewalSequence = sequence &&
    isLowercaseUuidV7 reply.decisionId && uint64 reply.epoch &&
    [GrantMode.prepare, .serve, .closed].contains reply.mode &&
    0 < reply.validForUs && reply.validForUs ≤ maxGrantUs

/-! ### The owner -/

/-- A renewal. -/
structure Renewal where
  started : Int
  nonce : String
  sequence : Int
  finished : Bool
  physicallyClosed : Bool
  /-- What was sent, once the transport has started. -/
  exchange : Option GrantRequest
  armed : Bool
  /-- What the caller's promise was settled with. -/
  result : Option Bool
  drained : Bool
  /-- The reply that was accepted. -/
  granted : Option GrantReply
  deriving DecidableEq

def Renewal.reserved : Renewal :=
  ⟨0, "", 0, false, false, none, false, none, false, none⟩

/-- A renewal gets its result, unless it has one. -/
def Renewal.settle (success : Bool) (renewal : Renewal) : Renewal :=
  if renewal.finished then renewal
  else { renewal with finished := true, armed := false, result := some success }

structure Accepted where
  reply : GrantReply
  expires : Int
  /-- The renewal the reply is from. -/
  renewal : Nat
  deriving DecidableEq

/-- A grant that no time is within. -/
def Accepted.void (accepted : Accepted) : Accepted :=
  { accepted with expires := 0 }

/-- A call that was begun; `epoch` is that of the grant it was begun under. -/
structure Ticket where
  epoch : Option Int
  released : Bool
  deriving DecidableEq

structure GrantSnapshot where
  mode : GrantMode
  admitting : Bool
  activeCalls : Nat
  epoch : Option Int
  decisionId : Option String
  validUntilMonotonicNs : Option Int
  deriving DecidableEq

def maxLocalCalls : Nat := 128

structure GrantOwner where
  binding : DeploymentBinding
  pending : Option Nat
  accepted : Option Accepted
  lastTime : Option Int
  lastNonce : Option String
  sequence : Int
  stopped : Bool
  clockFailed : Bool
  activeCalls : Nat
  /-- Whether the promise of the drained calls is settled, once there is one. -/
  callsDrained : Option Bool
  renewals : List Renewal
  tickets : List Ticket

/-- What starting the transport does: it throws, gives an exchange, or gives
something that is none. -/
inductive StartOutcome where
  | throws
  | exchange
  | broken
  deriving DecidableEq

namespace GrantOwner

def new (binding : DeploymentBinding) : GrantOwner :=
  ⟨binding, none, none, none, none, 0, false, false, 0, none, [], []⟩

variable (owner : GrantOwner)

/-- The clock reads a time that is not before an earlier one. -/
def sample (reading : Option Int) : Option Int × GrantOwner :=
  if owner.clockFailed then (none, owner)
  else
    match reading with
    | none => (none, { owner with clockFailed := true })
    | some now =>
        if 0 ≤ now && owner.lastTime.all (· ≤ now) then
          (some now, { owner with lastTime := some now })
        else (none, { owner with clockFailed := true })

/-- The mode at a time, `closed` outside the grant. -/
def modeAt (now : Option Int) : GrantMode :=
  match now, owner.accepted with
  | some now, some accepted =>
      if !owner.stopped && now < accepted.expires then accepted.reply.mode else .closed
  | _, _ => .closed

def snapshot (reading : Option Int) : GrantSnapshot × GrantOwner :=
  let (now, owner) := owner.sample reading
  let mode := owner.modeAt now
  ({ mode := mode
     admitting := mode = .serve
     activeCalls := owner.activeCalls
     epoch := owner.accepted.map fun accepted => accepted.reply.epoch
     decisionId := owner.accepted.map fun accepted => accepted.reply.decisionId
     validUntilMonotonicNs :=
       if mode = .closed then none else owner.accepted.map Accepted.expires }, owner)

def modifyRenewal (id : Nat) (f : Renewal → Renewal) : GrantOwner :=
  { owner with renewals := owner.renewals.modify id f }

/-- The slot is free again once the renewal is finished and its transport is
closed. -/
def release (id : Nat) : GrantOwner :=
  if (owner.renewals[id]?).any fun renewal => renewal.finished && renewal.physicallyClosed then
    { owner with
      renewals := owner.renewals.modify id fun renewal => { renewal with drained := true }
      pending := if owner.pending = some id then none else owner.pending }
  else owner

def finish (id : Nat) (success : Bool) : GrantOwner :=
  (owner.modifyRenewal id (Renewal.settle success)).release id

/-- The renewal fails, and with it the grant that is held. -/
def fail (id : Nat) : GrantOwner :=
  if owner.pending = some id then
    { owner with accepted := owner.accepted.map Accepted.void }.finish id false
  else owner

/-- Sets the timer of a renewal, `timer` being whether the scheduler takes it. -/
def arm (id : Nat) (reading : Option Int) (timer : Bool) : GrantOwner :=
  match owner.renewals[id]? with
  | none => owner
  | some renewal =>
      if renewal.finished then owner
      else
        let (now, owner) := owner.sample reading
        let remaining := now.elim 0 fun now => renewal.started + maxGrantUs * 1000 - now
        if owner.stopped || remaining ≤ 0 || !timer then owner.fail id
        else owner.modifyRenewal id fun renewal => { renewal with armed := true }

/-- An exception before there is an exchange. -/
def abandon (id : Nat) : GrantOwner :=
  (owner.modifyRenewal id fun renewal => { renewal with physicallyClosed := true }).fail id

/-- What a renewal tells of the grant that is held. -/
def applied (admitting : Bool) : Option AppliedGrant :=
  owner.accepted.map fun accepted =>
    ⟨accepted.reply.decisionId, accepted.reply.epoch, admitting, owner.activeCalls⟩

/-- The transport of a renewal is started. -/
def startExchange (id : Nat) (reads : Nat → Option Int) (request : GrantRequest)
    (start : StartOutcome) (timer : Bool) : GrantOwner :=
  match start with
  | .throws => owner.abandon id
  | .broken =>
      (owner.modifyRenewal id fun renewal => { renewal with exchange := some request }).fail id
  | .exchange =>
      (owner.modifyRenewal id fun renewal => { renewal with exchange := some request }).arm id
        (reads 2) timer

/-- The renewal that holds the slot is given its start, nonce and sequence, and is
sent. -/
def send (id : Nat) (started : Int) (requestNonce : String) (reads : Nat → Option Int)
    (start : StartOutcome) (timer : Bool) : GrantOwner :=
  let owner := { owner with
    renewals := owner.renewals.modify id fun renewal =>
      { renewal with started := started, nonce := requestNonce }
    lastNonce := some requestNonce }
  if uint64 (owner.sequence + 1) then
    let owner := { owner with
      renewals := owner.renewals.modify id fun renewal =>
        { renewal with sequence := owner.sequence + 1 }
      sequence := owner.sequence + 1 }
    let (snapshot, owner) := owner.snapshot (reads 1)
    if owner.stopped || owner.clockFailed then owner.abandon id
    else owner.startExchange id reads
      ⟨owner.binding, requestNonce, owner.sequence, owner.applied snapshot.admitting⟩ start timer
  else { owner with stopped := true }.abandon id

def renew (reads : Nat → Option Int) (requestNonce : Option String) (start : StartOutcome)
    (timer : Bool) : GrantOwner :=
  if owner.pending.isSome || owner.stopped || owner.clockFailed then owner
  else
    let id := owner.renewals.length
    let owner := { owner with
      pending := some id
      renewals := owner.renewals ++ [Renewal.reserved] }
    let (started, owner) := owner.sample (reads 0)
    match started, requestNonce with
    | some started, some requestNonce =>
        if !owner.stopped && nonce requestNonce && owner.lastNonce ≠ some requestNonce then
          owner.send id started requestNonce reads start timer
        else owner.abandon id
    | _, _ => owner.abandon id

/-- A replacement of the grant that is held: not of an earlier epoch, and in the same
epoch of the same mode by another decision. -/
def replaces (reply : GrantReply) : Bool :=
  owner.accepted.all fun accepted =>
    accepted.reply.epoch ≤ reply.epoch && reply.decisionId ≠ accepted.reply.decisionId &&
      (reply.epoch ≠ accepted.reply.epoch || reply.mode = accepted.reply.mode)

/-- A reply is taken for a renewal; `none` is a value that is no reply. -/
def receive (id : Nat) (reply : Option GrantReply) (reading : Option Int) : GrantOwner :=
  match owner.renewals[id]? with
  | none => owner
  | some renewal =>
      if renewal.finished || owner.pending ≠ some id then owner
      else
        let (now, owner) := owner.sample reading
        match now, reply with
        | some now, some reply =>
            if !owner.stopped && validReply reply owner.binding renewal.nonce renewal.sequence &&
                owner.accepted.all (fun accepted => now < accepted.expires) &&
                now < renewal.started + reply.validForUs * 1000 && owner.replaces reply then
              { owner with
                renewals := owner.renewals.modify id fun renewal =>
                  { renewal with granted := some reply }
                accepted := some
                  ⟨reply, renewal.started + reply.validForUs * 1000, id⟩ }.finish id true
            else owner.fail id
        | _, _ => owner.fail id

/-- The transport of a renewal has closed. -/
def physicallyClosed (id : Nat) : GrantOwner :=
  (owner.modifyRenewal id fun renewal => { renewal with physicallyClosed := true }).release id

def tryBeginCall (reading : Option Int) : GrantOwner :=
  let (grant, owner) := owner.snapshot reading
  if !grant.admitting || maxLocalCalls ≤ owner.activeCalls then owner
  else { owner with
    activeCalls := owner.activeCalls + 1
    tickets := owner.tickets ++ [⟨grant.epoch, false⟩] }

/-- Whether a call may go on. -/
def isCurrent (ticket : Nat) (reading : Option Int) : Bool × GrantOwner :=
  match owner.tickets[ticket]? with
  | none => (false, owner)
  | some held =>
      if held.released then (false, owner)
      else
        let (grant, owner) := owner.snapshot reading
        (grant.admitting &&
          owner.accepted.any (fun accepted => held.epoch = some accepted.reply.epoch), owner)

def releaseCall (ticket : Nat) : GrantOwner :=
  match owner.tickets[ticket]? with
  | none => owner
  | some held =>
      if held.released then owner
      else { owner with
        tickets := owner.tickets.modify ticket fun held => { held with released := true }
        activeCalls := owner.activeCalls - 1
        callsDrained := if owner.activeCalls = 1 then owner.callsDrained.map fun _ => true
          else owner.callsDrained }

def close : GrantOwner :=
  let owner := { owner with stopped := true }
  let owner := owner.pending.elim owner owner.fail
  if 0 < owner.activeCalls && owner.callsDrained.isNone then
    { owner with callsDrained := some false }
  else owner

/-- The renewal has an exchange whose promises can settle. -/
def isSent (id : Nat) : Bool :=
  (owner.renewals[id]?).any fun renewal => renewal.exchange.isSome

/-- A timer of the renewal is set. -/
def isArmed (id : Nat) : Bool :=
  (owner.renewals[id]?).any fun renewal => renewal.armed && !renewal.finished

end GrantOwner

/-- Something that happens to the owner. -/
inductive GrantAction where
  | renew (reads : Nat → Option Int) (requestNonce : Option String) (start : StartOutcome)
      (timer : Bool)
  | reply (renewal : Nat) (reply : Option GrantReply) (reading : Option Int)
  | replyFailed (renewal : Nat)
  | transportClosed (renewal : Nat)
  | transportCloseFailed (renewal : Nat)
  | timer (renewal : Nat) (reading : Option Int) (timer : Bool)
  | snapshot (reading : Option Int)
  | tryBeginCall (reading : Option Int)
  | isCurrent (ticket : Nat) (reading : Option Int)
  | releaseCall (ticket : Nat)
  | close

def GrantOwner.step (owner : GrantOwner) : GrantAction → GrantOwner
  | .renew reads requestNonce start timer => owner.renew reads requestNonce start timer
  | .reply id reply reading => if owner.isSent id then owner.receive id reply reading else owner
  | .replyFailed id => if owner.isSent id then owner.fail id else owner
  | .transportClosed id => if owner.isSent id then owner.physicallyClosed id else owner
  | .transportCloseFailed id => if owner.isSent id then owner.fail id else owner
  | .timer id reading timer => if owner.isArmed id then owner.arm id reading timer else owner
  | .snapshot reading => (owner.snapshot reading).2
  | .tryBeginCall reading => owner.tryBeginCall reading
  | .isCurrent ticket reading => (owner.isCurrent ticket reading).2
  | .releaseCall ticket => owner.releaseCall ticket
  | .close => owner.close

end Apex.Gateway
