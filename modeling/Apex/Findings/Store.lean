import Apex.Findings.Finding
import Apex.Lib.KeyMap

/-!
The bounded, append-only store of findings and their status history.

The store keeps its findings in a vector and looks them up through an index. The
index never points past the vector, which the structure carries, so a lookup
needs no check.
-/

namespace Apex.Findings

open Checked List

/-- An authenticated workload, as admission leaves it. -/
structure Caller where
  authenticated : Bool
  subject : Option String
  boundAgentId : Option String
  allowedScopes : List String

def maxSubjectBytes : Nat := 256

def maxAllowedScopes : Nat := 256

/-- `is_valid_subject`. -/
def isValidSubject (subject : String) : Bool :=
  subject.utf8ByteSize ≤ maxSubjectBytes && subject.toList.all (·.toNat < 128) &&
    (isScopeIdentifier subject ||
      (Text.stripPrefix subject "spiffe://").any fun path =>
        (Text.splitAt '/' path.toList).all fun part => isScopeIdentifier (String.ofList part))

def Caller.isValid (caller : Caller) : Bool :=
  caller.authenticated && caller.subject.any isValidSubject &&
    caller.boundAgentId.all isScopeIdentifier &&
    caller.allowedScopes.dedup.length ≤ maxAllowedScopes &&
    caller.allowedScopes.all fun scope => (splitScope scope).any fun (workspace, «namespace») =>
      isScopeIdentifier workspace && isScopeIdentifier «namespace»

def Caller.allowsScope (caller : Caller) (scope : String) : Bool :=
  caller.isValid && caller.subject.any (!·.isEmpty) && caller.allowedScopes.contains scope

structure FindingStore where
  scopeCapacity : Nat
  globalCapacity : Nat
  maxUpdates : Nat
  findings : List SecurityFinding
  updates : List FindingStatusUpdate
  byId : KeyMap String Nat
  byScopeFingerprint : KeyMap (String × String × String) String
  scopeCounts : KeyMap (String × String) Nat
  indexed : ∀ findingId index, byId.lookup findingId = some index → index < findings.length

namespace FindingStore

/-- `with_quotas`. -/
def withQuotas (scopeCapacity globalCapacity : Nat) : Except FindingErrorCode FindingStore := do
  ensure (scopeCapacity ≠ 0 && globalCapacity ≠ 0 && scopeCapacity ≤ globalCapacity &&
    globalCapacity ≤ maxFindings) .capacity
  return { scopeCapacity, globalCapacity,
           maxUpdates := globalCapacity * maxStatusUpdatesPerFinding, findings := [],
           updates := [], byId := ∅, byScopeFingerprint := ∅, scopeCounts := ∅,
           indexed := by simp }

/-- `new`. -/
def new (scopeCapacity : Nat) : Except FindingErrorCode FindingStore :=
  withQuotas scopeCapacity maxFindings

/-- The finding behind an identifier. -/
def find (store : FindingStore) (findingId : String) : Option SecurityFinding :=
  match found : store.byId.lookup findingId with
  | none => none
  | some index => some (store.findings.get ⟨index, store.indexed findingId index found⟩)

/-- The rows a new finding adds. -/
def push (store : FindingStore) (finding : SecurityFinding) : FindingStore :=
  let scope := (finding.workspaceId, finding.namespaceId)
  { store with
    findings := store.findings ++ [finding]
    byId := AList.insert finding.findingId store.findings.length store.byId
    byScopeFingerprint := AList.insert
      (finding.workspaceId, finding.namespaceId, finding.fingerprint) finding.findingId
      store.byScopeFingerprint
    scopeCounts := AList.insert scope ((store.scopeCounts.lookup scope).getD 0 + 1)
      store.scopeCounts
    indexed := by
      intro findingId index found
      rw [KeyMap.lookup_insert_eq] at found
      rw [List.length_append, List.length_singleton]
      split_ifs at found
      · cases found
        omega
      · have := store.indexed findingId index found
        omega }

/-- What stands in the way of storing a valid finding: nothing, a finding that
says the same, or an error. -/
def admission (store : FindingStore) (finding : SecurityFinding) : Except FindingErrorCode Bool :=
  match store.find finding.findingId with
  | some existing => if existing = finding then .ok false else .error .duplicateId
  | none =>
      match store.byScopeFingerprint.lookup
        (finding.workspaceId, finding.namespaceId, finding.fingerprint) with
      | some existingId => do
          let existing ← require (store.find existingId) .fingerprintConflict
          ensure (logicallyEqual existing finding) .fingerprintConflict
          return false
      | none => do
          ensure (store.findings.length < store.globalCapacity) .capacity
          ensure ((store.scopeCounts.lookup (finding.workspaceId, finding.namespaceId)).getD 0 <
            store.scopeCapacity) .capacity
          return true

/-- `append`: whether the finding is new. -/
def append (sha256 : List UInt8 → String) (store : FindingStore) (finding : SecurityFinding) :
    Except FindingErrorCode (Bool × FindingStore) := do
  validateFinding sha256 finding
  let accepted ← store.admission finding
  return (accepted, if accepted then store.push finding else store)

/-- `current_status`. -/
def currentStatus (store : FindingStore) (findingId : String) :
    Except FindingErrorCode FindingStatus := do
  ensure (store.byId.lookup findingId).isSome .notFound
  return ((store.updates.reverse.find? fun update => update.findingId = findingId).map
    FindingStatusUpdate.«to»).getD .open

/-- `transition_internal`, up to the moment the clock is read. -/
def checkTransition (store : FindingStore) (findingId : String) (expected next : FindingStatus)
    (actorScope : String) (action : Option ContainmentAction) :
    Except FindingErrorCode Unit := do
  let finding ← require (store.find findingId) .notFound
  validateScope finding.workspaceId finding.namespaceId
  ensure (actorScope = finding.workspaceId ++ "/" ++ finding.namespaceId) .scopeDenied
  let current ← store.currentStatus findingId
  ensure (current = expected && allowedTransition current next) .invalidTransition
  ensure (!(next = .contained || next = .resolved) || action.isSome) .invalidTransition
  ensure (store.updates.length < store.maxUpdates) .capacity

/-- The row of a status change. -/
def pushUpdate (store : FindingStore) (update : FindingStatusUpdate) : FindingStore :=
  { store with updates := store.updates ++ [update] }

/-- `transition_internal`. `now` is the reading of the clock, where it has one. -/
def transitionInternal (store : FindingStore) (findingId : String) (expected next : FindingStatus)
    (actorScope actorSubject : String) (action : Option ContainmentAction) (now : Option UInt64) :
    Except FindingErrorCode FindingStore := do
  store.checkTransition findingId expected next actorScope action
  let atMs ← require now .clockUnavailable
  return store.pushUpdate
    { findingId, «from» := expected, «to» := next, action, actorScope, actorSubject, atMs }

/-- `transition`. -/
def transition (store : FindingStore) (findingId : String) (expected next : FindingStatus)
    (caller : Caller) (actorScope : String) (action : Option ContainmentAction)
    (now : Option UInt64) : Except FindingErrorCode FindingStore := do
  ensure (validActorScope actorScope) .scopeDenied
  let actorSubject ← require (caller.subject.filter (!·.isEmpty)) .scopeDenied
  ensure (caller.allowsScope actorScope) .scopeDenied
  store.transitionInternal findingId expected next actorScope actorSubject action now

/-- `transition_replayed`. -/
def transitionReplayed (store : FindingStore) (findingId : String) (expected next : FindingStatus)
    (actorScope actorSubject : String) (action : Option ContainmentAction) (now : Option UInt64) :
    Except FindingErrorCode FindingStore := do
  ensure (!actorSubject.isEmpty && validActorScope actorScope) .scopeDenied
  store.transitionInternal findingId expected next actorScope actorSubject action now

/-! ### The same store at other times -/

/-- The store with the times of its updates read off a clock, one reading an
update. -/
def retime (store : FindingStore) (clock : Nat → UInt64) : FindingStore :=
  { store with updates := store.updates.mapIdx fun k update => { update with atMs := clock k } }

@[simp] theorem length_retime_updates (store : FindingStore) (clock : Nat → UInt64) :
    (store.retime clock).updates.length = store.updates.length := by
  simp [retime]

@[simp] theorem retime_retime (store : FindingStore) (first second : Nat → UInt64) :
    (store.retime first).retime second = store.retime second := by
  simp [retime, mapIdx_mapIdx, Function.comp_def]

theorem retime_pushUpdate (store : FindingStore) (update : FindingStatusUpdate)
    (clock : Nat → UInt64) :
    (store.pushUpdate update).retime clock =
      (store.retime clock).pushUpdate { update with atMs := clock store.updates.length } := by
  simp [retime, pushUpdate, mapIdx_append]

/-- Storing findings does not look at the updates. -/
theorem append_retime (sha256 : List UInt8 → String) (store : FindingStore)
    (finding : SecurityFinding) (clock : Nat → UInt64) :
    (store.retime clock).append sha256 finding =
      (store.append sha256 finding).map fun reply => (reply.1, reply.2.retime clock) := by
  have admitted : (store.retime clock).admission finding = store.admission finding := rfl
  unfold append
  rw [admitted]
  cases validateFinding sha256 finding with
  | error e => rfl
  | ok u =>
    cases store.admission finding with
    | error e => rfl
    | ok accepted => cases accepted <;> rfl

/-- Whose status an update changes, and to what, does not depend on when. -/
theorem currentStatus_retime (store : FindingStore) (findingId : String)
    (clock : Nat → UInt64) :
    (store.retime clock).currentStatus findingId = store.currentStatus findingId := by
  have same : ∀ (updates : List FindingStatusUpdate) (clock : Nat → UInt64),
      ((updates.mapIdx fun k update => { update with atMs := clock k }).reverse.find?
        fun update => update.findingId = findingId).map FindingStatusUpdate.«to» =
      (updates.reverse.find? fun update => update.findingId = findingId).map
        FindingStatusUpdate.«to» := by
    intro updates
    induction updates with
    | nil => intro clock; rfl
    | cons update rest ih =>
      intro clock
      rw [mapIdx_cons, reverse_cons, reverse_cons, List.find?_append,
        List.find?_append, Option.map_or, Option.map_or, ih fun k => clock (k + 1)]
      congr 1
      by_cases named : update.findingId = findingId
      · simp [named]
      · simp [named]
  unfold currentStatus
  have times : (store.retime clock).updates =
      store.updates.mapIdx fun k update => { update with atMs := clock k } := rfl
  rw [times, same]
  rfl

theorem checkTransition_retime (store : FindingStore) (findingId : String)
    (expected next : FindingStatus) (actorScope : String) (action : Option ContainmentAction)
    (clock : Nat → UInt64) :
    (store.retime clock).checkTransition findingId expected next actorScope action =
      store.checkTransition findingId expected next actorScope action := by
  have found : (store.retime clock).find findingId = store.find findingId := rfl
  have limit : (store.retime clock).maxUpdates = store.maxUpdates := rfl
  unfold checkTransition
  rw [found, currentStatus_retime, length_retime_updates, limit]

end FindingStore

end Apex.Findings
