import Apex.Findings.Store
import Apex.Idempotency.File
import Apex.Lib.Raising

/-!
One ingest call: the checks, the reservation of the event's key, the publish and the
commit.

The gateway is over any idempotency store and any publisher. A store carries what its
reservations come to: a reservation that was made is pending, and one that was aborted
or committed is not. A publisher answers or panics; the panic is caught and reported
as an internal error. `reservation_released_iff` says when a call that has returned
leaves its reservation behind.
-/

namespace Apex.Ingest

open Checked Domain Findings Idempotency Outbox

/-! ### Idempotency stores -/

/-- `IdempotencyStore`, over the state `σ` of a backend. -/
structure IdempotencyStore (σ : Type) where
  reserve : OutboxKey → Fingerprint → Raising σ GatewayError ReservationResult
  commit : (token : UInt64) → Raising σ GatewayError Unit
  abort : (token : UInt64) → σ → σ
  /-- The reservation is pending. -/
  Pending : σ → UInt64 → Prop
  pending_reserve : ∀ key hash token state,
    (reserve key hash state).2 = .ok (.reserved token) → Pending (reserve key hash state).1 token
  not_pending_commit : ∀ token state,
    (commit token state).2 = .ok () → ¬ Pending (commit token state).1 token
  not_pending_abort : ∀ token state, ¬ Pending (abort token state) token

/-- `InMemoryIdempotencyStore`. -/
structure InMemoryIdempotencyStore where
  capacity : Nat
  nextToken : UInt64
  committed : KeyMap OutboxKey Fingerprint
  pending : KeyMap UInt64 (OutboxKey × Fingerprint)

namespace InMemoryIdempotencyStore

def empty (capacity : Nat) : InMemoryIdempotencyStore where
  capacity := capacity
  nextToken := 1
  committed := ∅
  pending := ∅

def new (capacity : Nat) : Except GatewayError InMemoryIdempotencyStore := do
  ensure (capacity ≠ 0 && capacity ≤ 1000000) GatewayError.idempotencyCapacity
  return empty capacity

/-- The reservation a key has, if any. -/
def pendingHash (store : InMemoryIdempotencyStore) (key : OutboxKey) : Option Fingerprint :=
  (store.pending.entries.find? fun entry => entry.2.1 = key).map fun entry => entry.2.2

/-- How many committed keys and reservations a scope has. -/
def scopeEntries (store : InMemoryIdempotencyStore) (key : OutboxKey) : Nat :=
  let inScope (other : OutboxKey) : Bool :=
    other.workspaceId = key.workspaceId && other.namespaceId = key.namespaceId
  store.committed.keys.countP inScope +
    store.pending.entries.countP fun entry => inScope entry.2.1

def reserve (key : OutboxKey) (payloadHash : Fingerprint) :
    Raising InMemoryIdempotencyStore GatewayError ReservationResult := fun store =>
  match store.committed.lookup key with
  | some existing => (store, .ok (if existing = payloadHash then .duplicate else .conflict))
  | none =>
      match store.pendingHash key with
      | some existing => (store, .ok (if existing = payloadHash then .inProgress else .conflict))
      | none =>
          if scopeCapacity store.capacity ≤ store.scopeEntries key ||
              store.capacity ≤ store.committed.keys.length + store.pending.keys.length then
            (store, .error .idempotencyCapacity)
          else if store.nextToken.toNat + 1 = UInt64.size then
            (store, .error .idempotencyCapacity)
          else
            ({ store with
              nextToken := store.nextToken + 1
              pending := AList.insert store.nextToken (key, payloadHash) store.pending },
              .ok (.reserved store.nextToken))

def commit (token : UInt64) : Raising InMemoryIdempotencyStore GatewayError Unit := fun store =>
  match store.pending.lookup token with
  | none => (store, .error .internal)
  | some (key, hash) =>
      ({ store with
        pending := AList.erase token store.pending
        committed := AList.insert key hash store.committed }, .ok ())

def abort (token : UInt64) (store : InMemoryIdempotencyStore) : InMemoryIdempotencyStore :=
  { store with pending := AList.erase token store.pending }

theorem reserve_reserved {store key hash token}
    (reserved : (reserve key hash store).2 = .ok (.reserved token)) :
    (reserve key hash store).1.pending = AList.insert token (key, hash) store.pending := by
  unfold reserve at reserved ⊢
  split at reserved
  · split at reserved <;> cases reserved
  next committed =>
    split at reserved
    · split at reserved <;> cases reserved
    next pending =>
      split at reserved
      · cases reserved
      next room =>
        split at reserved
        · cases reserved
        next tokens =>
          cases reserved
          rw [if_neg room, if_neg tokens]

/-- The in-memory store as a store. -/
def idempotencyStore : IdempotencyStore InMemoryIdempotencyStore where
  reserve := reserve
  commit := commit
  abort := abort
  Pending store token := token ∈ store.pending
  pending_reserve key hash token store reserved := by
    rw [reserve_reserved reserved, AList.mem_insert]
    exact .inl rfl
  not_pending_commit token store committed := by
    unfold commit at committed ⊢
    split
    next missing => simp [missing] at committed
    next => simp
  not_pending_abort token store := by simp [abort]

end InMemoryIdempotencyStore

/-! ### Publishers -/

inductive PublishOutcome where
  | published
  | alreadyComplete
  deriving DecidableEq, Repr

/-- What `catch_unwind` makes of a publish. -/
inductive Publishing where
  | answered (answer : Except GatewayError PublishOutcome)
  | panicked

/-- `EventPublisher`, over the state `π` of a publisher. -/
structure EventPublisher (π : Type) where
  publish : IngestRequest → π → π × Publishing
  canReconcileCommitFailure : Bool

/-! ### The call -/

inductive IngestOutcome where
  | accepted
  | duplicate
  deriving DecidableEq, Repr

def PublishOutcome.answer : PublishOutcome → IngestOutcome
  | .published => .accepted
  | .alreadyComplete => .duplicate

/-- The gateway without its security alerts. -/
structure IngestGateway (σ π : Type) where
  idempotency : σ
  publisher : π

/-- The actor type of an agent. -/
def agentActor : Int := 2

/-- The checks before a key is reserved; `decode` is `EventEnvelope::decode`. -/
def admission (decode : List UInt8 → Option EventEnvelope) (caller : Caller)
    (event : IngestRequest) : Except GatewayError Unit := do
  ensure (caller.isValid && caller.boundAgentId.isSome) GatewayError.unauthenticated
  ensure (isScopeIdentifier event.workspaceId && isScopeIdentifier event.namespaceId)
    GatewayError.scopeDenied
  ensure (caller.allowsScope event.scopeKey) GatewayError.scopeDenied
  ensure (isLowercaseUuidV7 event.eventId) GatewayError.invalidEventId
  ensure (!event.envelope.isEmpty) GatewayError.invalidEnvelope
  ensure (event.envelope.length ≤ maxEnvelopeBytes) GatewayError.payloadTooLarge
  let boundAgentId ← require caller.boundAgentId GatewayError.unauthenticated
  let envelope ← require (decode event.envelope) GatewayError.invalidEnvelope
  -- The workload acts as an agent, and as no other agent than its own.
  let agentActorMatches := envelope.actor.any fun actor =>
    actor.type = agentActor && actor.id = boundAgentId
  ensure (envelope.agentId = boundAgentId && agentActorMatches) GatewayError.scopeDenied

section Ingest

variable {σ π : Type} (store : IdempotencyStore σ) (publisher : EventPublisher π)
  (decode : List UInt8 → Option EventEnvelope) (sha256 : List UInt8 → Fingerprint)
  (caller : Caller) (event : IngestRequest)

/-- The publish and the commit of a reserved event. -/
def publishReserved (token : UInt64) :
    Raising (IngestGateway σ π) GatewayError IngestOutcome := fun gateway =>
  match publisher.publish event gateway.publisher with
  | (published, .panicked) => ({ gateway with publisher := published }, .error .internal)
  | (published, .answered (.error e)) =>
      (⟨store.abort token gateway.idempotency, published⟩, .error e)
  | (published, .answered (.ok outcome)) =>
      match store.commit token gateway.idempotency with
      | (state, .ok _) => (⟨state, published⟩, .ok outcome.answer)
      | (state, .error e) =>
          -- Without an outbox nothing proves that a retry does not publish twice.
          if publisher.canReconcileCommitFailure then
            (⟨store.abort token state, published⟩, .error e)
          else (⟨state, published⟩, .error e)

def ingestInner : Raising (IngestGateway σ π) GatewayError IngestOutcome := fun gateway =>
  match admission decode caller event with
  | .error e => (gateway, .error e)
  | .ok _ =>
      match store.reserve event.key (sha256 event.envelope) gateway.idempotency with
      | (state, .error e) => ({ gateway with idempotency := state }, .error e)
      | (state, .ok .duplicate) => ({ gateway with idempotency := state }, .ok .duplicate)
      | (state, .ok .inProgress) =>
          ({ gateway with idempotency := state }, .error .idempotencyInProgress)
      | (state, .ok .conflict) =>
          ({ gateway with idempotency := state }, .error .idempotencyConflict)
      | (state, .ok (.reserved token)) =>
          publishReserved store publisher event token { gateway with idempotency := state }

/-! ### Reservations -/

/-- The gateway once the key was reserved. -/
def reserved (gateway : IngestGateway σ π) : IngestGateway σ π :=
  { gateway with
    idempotency := (store.reserve event.key (sha256 event.envelope) gateway.idempotency).1 }

/-- The call makes the reservation. -/
def Reserves (gateway : IngestGateway σ π) (token : UInt64) : Prop :=
  admission decode caller event = .ok () ∧
    (store.reserve event.key (sha256 event.envelope) gateway.idempotency).2 = .ok (.reserved token)

/-- The event was published, and the commit of the reservation fails. -/
def CommitFails (gateway : IngestGateway σ π) (token : UInt64) : Prop :=
  (∃ outcome, (publisher.publish event gateway.publisher).2 = .answered (.ok outcome)) ∧
    ∃ e, (store.commit token (reserved store sha256 event gateway).idempotency).2 = .error e

variable {store publisher decode sha256 caller event} {gateway : IngestGateway σ π} {token : UInt64}

theorem ingestInner_reserved (reserves : Reserves store decode sha256 caller event gateway token) :
    ingestInner store publisher decode sha256 caller event gateway =
      publishReserved store publisher event token (reserved store sha256 event gateway) := by
  obtain ⟨admitted, reserved⟩ := reserves
  unfold ingestInner
  rw [admitted]
  unfold Ingest.reserved
  dsimp only
  cases ran : store.reserve event.key (sha256 event.envelope) gateway.idempotency with
  | mk state answer =>
    rw [ran] at reserved
    cases reserved
    rfl

theorem publishReserved_panicked
    (panics : (publisher.publish event gateway.publisher).2 = .panicked) :
    (publishReserved store publisher event token gateway).1.idempotency = gateway.idempotency := by
  unfold publishReserved
  cases ran : publisher.publish event gateway.publisher with
  | mk published answer =>
    rw [ran] at panics
    cases panics
    rfl

/-- A publish that answers leaves the reservation behind only where its commit
fails. -/
theorem publishReserved_answered (calm : (publisher.publish event gateway.publisher).2 ≠ .panicked)
    (pending : store.Pending
      (publishReserved store publisher event token gateway).1.idempotency token) :
    (∃ outcome, (publisher.publish event gateway.publisher).2 = .answered (.ok outcome)) ∧
      ∃ e, (store.commit token gateway.idempotency).2 = .error e := by
  unfold publishReserved at pending
  cases ran : publisher.publish event gateway.publisher with
  | mk published answer =>
    rw [ran] at calm pending
    cases answer with
    | panicked => exact absurd rfl calm
    | answered answer =>
      cases answer with
      | error e => exact absurd pending (store.not_pending_abort token _)
      | ok outcome =>
        refine ⟨⟨outcome, rfl⟩, ?_⟩
        cases committed : store.commit token gateway.idempotency with
        | mk state answer =>
          cases answer with
          | error e => exact ⟨e, rfl⟩
          | ok _ =>
            have released := store.not_pending_commit token gateway.idempotency
              (by rw [committed])
            rw [committed] at pending released
            exact absurd pending released

/-- **When a returned call has released its reservation.** Whatever the publish and
the commit come to, no reservation the call made is pending after it, unless the
commit failed after a publish that succeeded; this holds exactly of the calls that do
not reserve a key and then meet a panic of the publisher. -/
theorem reservation_released_iff (store : IdempotencyStore σ) (publisher : EventPublisher π)
    (decode : List UInt8 → Option EventEnvelope) (sha256 : List UInt8 → Fingerprint)
    (caller : Caller) (event : IngestRequest) (gateway : IngestGateway σ π) :
    (∀ token, Reserves store decode sha256 caller event gateway token →
      store.Pending (ingestInner store publisher decode sha256 caller event gateway).1.idempotency
        token → CommitFails store publisher sha256 event gateway token) ↔
      ∀ token, Reserves store decode sha256 caller event gateway token →
        (publisher.publish event gateway.publisher).2 ≠ .panicked := by
  constructor
  · intro released token reserves panics
    have pending : store.Pending (ingestInner store publisher decode sha256 caller event
        gateway).1.idempotency token := by
      have kept := @publishReserved_panicked _ _ store publisher event
        (reserved store sha256 event gateway) token panics
      rw [ingestInner_reserved reserves, kept]
      exact store.pending_reserve _ _ _ _ reserves.2
    obtain ⟨⟨outcome, answered⟩, -⟩ := released token reserves pending
    rw [panics] at answered
    cases answered
  · intro calm token reserves pending
    rw [ingestInner_reserved reserves] at pending
    exact @publishReserved_answered _ _ store publisher event
      (reserved store sha256 event gateway) token (calm token reserves) pending

end Ingest

/-! ### A publisher that panics -/

def sampleCaller : Caller where
  authenticated := true
  subject := some "workload"
  boundAgentId := some "agent"
  allowedScopes := ["w/n"]

def sampleIngest : IngestRequest where
  eventId := "0190a000-0000-7000-8000-000000000001"
  workspaceId := "w"
  namespaceId := "n"
  scopeKey := "w/n"
  envelope := [1]

/-- An envelope of the caller's agent, whatever the bytes. -/
def sampleDecode (_ : List UInt8) : Option EventEnvelope :=
  some { eventId := "", timestamp := "", type := 1, agentId := "agent", runId := "",
         parentRunId := none, traceId := "", scope := none, actor := some ⟨2, "agent"⟩,
         version := none, data := none, integrity := none, schemaVersion := 1 }

def panickingPublisher : EventPublisher Unit where
  publish _ _ := ((), .panicked)
  canReconcileCommitFailure := true

/-- A call against the in-memory store. -/
def samplePanic :
    Raising (IngestGateway InMemoryIdempotencyStore Unit) GatewayError IngestOutcome :=
  ingestInner InMemoryIdempotencyStore.idempotencyStore panickingPublisher sampleDecode
    (fun _ => .zero) sampleCaller sampleIngest

/-- The publisher panics: the call returns an internal error, its reservation is
pending, and the same event is refused as in progress from then on. -/
theorem samplePanic_keeps_reservation :
    let gateway : IngestGateway InMemoryIdempotencyStore Unit :=
      ⟨InMemoryIdempotencyStore.empty 8, ()⟩
    (samplePanic gateway).2 = .error .internal ∧
      (samplePanic gateway).1.idempotency.pending.keys = [1] ∧
      (samplePanic (samplePanic gateway).1).2 = .error .idempotencyInProgress := by
  decide +kernel

end Apex.Ingest
