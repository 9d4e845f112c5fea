import Apex.Findings.Store
import Apex.Lib.Runs

/-!
What the finding store keeps over whole runs of `append` and `transition`.

The three indexes describe the stored findings and nothing else. The updates of
one finding are a path through the transition table from `open`, and the table
has no path longer than three, so the bound on all updates, three for each
finding the store has room for, refuses nothing that the table allows.
-/

namespace Apex.Findings

open Checked Runs List KeyMap

/-! ### Paths through the transition table -/

/-- How many transitions can follow a status at most. -/
def FindingStatus.height : FindingStatus → Nat
  | .open => 3
  | .acknowledged => 2
  | .contained => 1
  | .resolved | .falsePositive => 0

theorem height_lt_of_allowedTransition {current next}
    (allowed : allowedTransition current next = true) : next.height < current.height := by
  cases current <;> cases next <;> first | exact absurd allowed (by decide) | decide

/-- The updates lead through the transition table, from `status` on. -/
def IsPath : FindingStatus → List FindingStatusUpdate → Prop
  | _, [] => True
  | status, update :: rest =>
      update.from = status ∧ allowedTransition status update.to = true ∧ IsPath update.to rest

/-- The status the updates lead to. -/
def reached (status : FindingStatus) (updates : List FindingStatusUpdate) : FindingStatus :=
  updates.foldl (fun _ update => update.to) status

theorem isPath_concat {status updates update} :
    IsPath status (updates ++ [update]) ↔ IsPath status updates ∧
      update.from = reached status updates ∧
      allowedTransition (reached status updates) update.to = true := by
  induction updates generalizing status with
  | nil => simp [IsPath, reached]
  | cons first rest ih => simp only [cons_append, IsPath, ih, reached, foldl_cons, and_assoc]

theorem IsPath.length_add_height_le {status updates} (path : IsPath status updates) :
    updates.length + (reached status updates).height ≤ status.height := by
  induction updates generalizing status with
  | nil => simp [reached]
  | cons update rest ih =>
    have later := ih path.2.2
    have lower := height_lt_of_allowedTransition path.2.1
    simp only [reached, foldl_cons, length_cons] at later ⊢
    omega

theorem reached_eq_getLast? (status : FindingStatus) (updates : List FindingStatusUpdate) :
    reached status updates =
      (updates.getLast?.map FindingStatusUpdate.«to»).getD status := by
  induction updates using List.reverseRecOn with
  | nil => rfl
  | append_singleton rest update => simp [reached]

/-! ### Queries -/

/-- The finding belongs to the scope. -/
def SecurityFinding.inScope (finding : SecurityFinding) (workspaceId namespaceId : String) : Bool :=
  finding.workspaceId = workspaceId && finding.namespaceId = namespaceId

namespace FindingStore

/-- `findings_for_scope`. -/
def findingsForScope (store : FindingStore) (caller : Caller) (workspaceId namespaceId : String) :
    Except FindingErrorCode (List SecurityFinding) := do
  validateScope workspaceId namespaceId
  ensure (caller.allowsScope (workspaceId ++ "/" ++ namespaceId)) .scopeDenied
  return store.findings.filter (·.inScope workspaceId namespaceId)

/-- `updates_for_scope`. -/
def updatesForScope (store : FindingStore) (caller : Caller) (workspaceId namespaceId : String) :
    Except FindingErrorCode (List FindingStatusUpdate) := do
  validateScope workspaceId namespaceId
  ensure (caller.allowsScope (workspaceId ++ "/" ++ namespaceId)) .scopeDenied
  return store.updates.filter fun update =>
    (store.find update.findingId).any (·.inScope workspaceId namespaceId)

/-- The updates of one finding, in order. -/
def history (store : FindingStore) (findingId : String) : List FindingStatusUpdate :=
  store.updates.filter fun update => update.findingId = findingId

variable {store : FindingStore} {findingId : String} {finding : SecurityFinding}
  {sha256 : List UInt8 → String}

theorem currentStatus_eq_ok {status} :
    store.currentStatus findingId = .ok status ↔
      (store.byId.lookup findingId).isSome = true ∧
        reached .open (store.history findingId) = status := by
  have last : (store.updates.reverse.find? fun update => update.findingId = findingId) =
      (store.history findingId).getLast? := by
    rw [history, List.getLast?_eq_head?_reverse, ← filter_reverse, List.head?_filter]
  unfold currentStatus
  simp only [bind_eq_ok, ensure_eq_ok, pure_eq_ok, last, reached_eq_getLast?, exists_const]

/-! ### What the store keeps -/

/-- The indexes describe the stored findings, and the findings fit. -/
structure Indexed (store : FindingStore) : Prop where
  ids : ∀ findingId index, store.byId.lookup findingId = some index ↔
    ∃ finding, store.findings[index]? = some finding ∧ finding.findingId = findingId
  fingerprints : ∀ workspaceId namespaceId fingerprint findingId,
    store.byScopeFingerprint.lookup (workspaceId, namespaceId, fingerprint) = some findingId ↔
      ∃ finding ∈ store.findings, finding.inScope workspaceId namespaceId = true ∧
        finding.fingerprint = fingerprint ∧ finding.findingId = findingId
  counts : ∀ workspaceId namespaceId count,
    store.scopeCounts.lookup (workspaceId, namespaceId) = some count ↔
      0 < count ∧ count = store.findings.countP (·.inScope workspaceId namespaceId)
  globalRoom : store.findings.length ≤ store.globalCapacity
  scopeRoom : ∀ workspaceId namespaceId,
    store.findings.countP (·.inScope workspaceId namespaceId) ≤ store.scopeCapacity

/-- The histories of the stored findings are all the updates there are, and each
is a path through the table. -/
structure Followed (store : FindingStore) : Prop where
  known : ∀ update ∈ store.updates, ∃ finding ∈ store.findings,
    finding.findingId = update.findingId
  paths : ∀ findingId, IsPath .open (store.history findingId)

/-- A query for a scope answers with the entries of that scope, in order, when
the caller is allowed the scope, and with nothing otherwise. -/
def AnswersScopes (store : FindingStore) : Prop :=
  ∀ (caller : Caller) (workspaceId namespaceId : String),
    if isScopeIdentifier workspaceId && isScopeIdentifier namespaceId &&
        caller.allowsScope (workspaceId ++ "/" ++ namespaceId) then
      store.findingsForScope caller workspaceId namespaceId =
          .ok (store.findings.filter (·.inScope workspaceId namespaceId)) ∧
        store.updatesForScope caller workspaceId namespaceId =
          .ok (store.updates.filter fun update => store.findings.any fun finding =>
            finding.findingId = update.findingId && finding.inScope workspaceId namespaceId)
    else
      (∀ found, store.findingsForScope caller workspaceId namespaceId ≠ .ok found) ∧
        ∀ found, store.updatesForScope caller workspaceId namespaceId ≠ .ok found

theorem find_eq_some :
    store.find findingId = some finding ↔ ∃ index, store.byId.lookup findingId = some index ∧
      store.findings[index]? = some finding := by
  unfold find
  split
  · rename_i missing
    simp [missing]
  · rename_i index found
    simp [found, List.getElem?_eq_getElem (store.indexed findingId index found)]

/-- With the index right, an identifier finds the stored finding that has it. -/
theorem Indexed.find_eq_some_iff (indexed : store.Indexed) :
    store.find findingId = some finding ↔
      finding ∈ store.findings ∧ finding.findingId = findingId := by
  rw [find_eq_some]
  constructor
  · rintro ⟨index, found, here⟩
    obtain ⟨finding', here', named⟩ := (indexed.ids findingId index).mp found
    obtain rfl : finding' = finding := Option.some.inj (here'.symm.trans here)
    exact ⟨mem_of_getElem? here, named⟩
  · rintro ⟨mem, named⟩
    obtain ⟨index, here⟩ := mem_iff_getElem?.mp mem
    exact ⟨index, (indexed.ids findingId index).mpr ⟨finding, here, named⟩, here⟩

theorem Indexed.answersScopes (indexed : store.Indexed) :
    store.AnswersScopes := by
  intro caller workspaceId namespaceId
  unfold findingsForScope updatesForScope validateScope
  split_ifs with allowed
  · have owner : ∀ update : FindingStatusUpdate,
        (store.find update.findingId).any (·.inScope workspaceId namespaceId) =
          store.findings.any fun finding =>
            finding.findingId = update.findingId && finding.inScope workspaceId namespaceId := by
      intro update
      rw [Bool.eq_iff_iff, Option.any_eq_true, any_eq_true]
      simp only [indexed.find_eq_some_iff, Bool.and_eq_true, decide_eq_true_eq, and_assoc]
    obtain ⟨valid, granted⟩ := Bool.and_eq_true_iff.mp allowed
    simp only [valid, granted, ensure_true, ok_bind, owner]
    exact ⟨rfl, rfl⟩
  · simp only [Bool.and_eq_true, not_and] at allowed
    constructor <;>
    · intro found
      simp only [ne_eq, bind_eq_ok, ensure_eq_ok, pure_eq_ok, Bool.and_eq_true, not_exists, not_and]
      intro _ valid _ granted
      exact absurd granted (allowed valid)

/-! ### Storing a finding -/

theorem getElem?_concat_eq_some {α : Type} {list} {last a : α} {index} :
    (list ++ [last])[index]? = some a ↔
      list[index]? = some a ∨ index = list.length ∧ a = last := by
  grind

/-- What `append` asks of the store before it stores a finding. -/
theorem admission_eq_true :
    store.admission finding = .ok true ↔ store.find finding.findingId = none ∧
      store.byScopeFingerprint.lookup
        (finding.workspaceId, finding.namespaceId, finding.fingerprint) = none ∧
      store.findings.length < store.globalCapacity ∧
      (store.scopeCounts.lookup (finding.workspaceId, finding.namespaceId)).getD 0 <
        store.scopeCapacity := by
  unfold admission
  split
  · rename_i existing found
    split_ifs <;> simp [found]
  · rename_i unknown
    split
    · rename_i existingId known
      simp only [known, bind_eq_ok, pure_eq_ok, Bool.false_eq_true, and_false, exists_false,
        reduceCtorEq, false_and]
    · rename_i fresh
      simp only [unknown, fresh, bind_eq_ok, ensure_eq_ok, pure_eq_ok, decide_eq_true_eq,
        exists_const, and_true, true_and]

theorem inScope_iff {workspaceId namespaceId} :
    finding.inScope workspaceId namespaceId = true ↔
      (workspaceId, namespaceId) = (finding.workspaceId, finding.namespaceId) := by
  simp only [SecurityFinding.inScope, Bool.and_eq_true, decide_eq_true_eq, Prod.mk.injEq,
    @eq_comm _ workspaceId, @eq_comm _ namespaceId]

theorem Indexed.getD_count (indexed : store.Indexed) (workspaceId namespaceId : String) :
    (store.scopeCounts.lookup (workspaceId, namespaceId)).getD 0 =
      store.findings.countP (·.inScope workspaceId namespaceId) := by
  have counts := indexed.counts workspaceId namespaceId
  cases found : store.scopeCounts.lookup (workspaceId, namespaceId) with
  | none =>
    have zero := counts (store.findings.countP (·.inScope workspaceId namespaceId))
    simp only [found, reduceCtorEq, and_true, false_iff] at zero
    exact (Nat.eq_zero_of_not_pos zero).symm
  | some count => exact ((counts count).mp found).2

theorem Indexed.push (indexed : store.Indexed) (admitted : store.admission finding = .ok true) :
    (store.push finding).Indexed := by
  obtain ⟨unknown, fresh, room, scopeRoom⟩ := admission_eq_true.mp admitted
  rw [indexed.getD_count] at scopeRoom
  have newId : ∀ stored ∈ store.findings, stored.findingId ≠ finding.findingId := by
    intro stored mem same
    exact absurd (indexed.find_eq_some_iff.mpr ⟨mem, same⟩) (by simp [unknown])
  have count (workspaceId namespaceId : String) :
      (store.findings ++ [finding]).countP (·.inScope workspaceId namespaceId) =
        store.findings.countP (·.inScope workspaceId namespaceId) +
          if (workspaceId, namespaceId) = (finding.workspaceId, finding.namespaceId) then 1
          else 0 := by
    simp only [countP_append, countP_singleton, inScope_iff]
  constructor
  case ids =>
    intro findingId index
    show (AList.insert _ _ _).lookup _ = _ ↔ ∃ stored, (store.findings ++ [finding])[index]? = _ ∧ _
    simp only [lookup_insert_eq, getElem?_concat_eq_some, or_and_right, exists_or,
      ← indexed.ids findingId index]
    split_ifs with same
    · subst same
      have absent : store.byId.lookup finding.findingId ≠ some index := by
        intro found
        obtain ⟨stored, here, named⟩ := (indexed.ids _ _).mp found
        exact newId stored (mem_of_getElem? here) named
      simp [absent, eq_comm]
    · simp [Ne.symm same]
  case fingerprints =>
    intro workspaceId namespaceId fingerprint findingId
    show (AList.insert _ _ _).lookup _ = _ ↔ ∃ stored ∈ store.findings ++ [finding], _
    simp only [lookup_insert_eq, mem_append, mem_singleton, or_and_right,
      exists_or, exists_eq_left,
      ← indexed.fingerprints workspaceId namespaceId fingerprint findingId]
    split_ifs with same
    · cases same
      simp [fresh, SecurityFinding.inScope]
    · have other : ¬ (finding.inScope workspaceId namespaceId = true ∧
          finding.fingerprint = fingerprint ∧ finding.findingId = findingId) := by
        rintro ⟨within, rfl, -⟩
        obtain ⟨rfl, rfl⟩ := Prod.mk.inj (inScope_iff.mp within)
        exact same rfl
      simp [other]
  case counts =>
    intro workspaceId namespaceId total
    show (AList.insert _ _ _).lookup _ = _ ↔ _ ∧ _ = (store.findings ++ [finding]).countP _
    rw [lookup_insert_eq, count, indexed.getD_count]
    split_ifs with same
    · obtain ⟨rfl, rfl⟩ := Prod.mk.inj same
      rw [Option.some_inj]
      omega
    · exact indexed.counts workspaceId namespaceId total
  case globalRoom =>
    show (store.findings ++ [finding]).length ≤ store.globalCapacity
    rw [length_append]
    exact room
  case scopeRoom =>
    intro workspaceId namespaceId
    show (store.findings ++ [finding]).countP _ ≤ store.scopeCapacity
    rw [count]
    split_ifs with same
    · obtain ⟨rfl, rfl⟩ := Prod.mk.inj same
      exact scopeRoom
    · exact indexed.scopeRoom workspaceId namespaceId

/-! ### Changing a status -/

theorem history_pushUpdate (store : FindingStore) (update : FindingStatusUpdate)
    (findingId : String) :
    (store.pushUpdate update).history findingId =
      store.history findingId ++ if update.findingId = findingId then [update] else [] := by
  unfold history pushUpdate
  by_cases same : update.findingId = findingId <;> simp [same]

theorem Followed.push (followed : store.Followed) (finding : SecurityFinding) :
    (store.push finding).Followed := by
  constructor
  · intro update mem
    obtain ⟨owner, stored, named⟩ := followed.known update mem
    exact ⟨owner, mem_append_left _ stored, named⟩
  · exact followed.paths

/-- What a status change needs, room apart. -/
structure Moves (store : FindingStore) (findingId : String) (expected next : FindingStatus)
    (actorScope : String) (action : Option ContainmentAction) : Prop where
  owned : ∃ finding, store.find findingId = some finding ∧
    (isScopeIdentifier finding.workspaceId && isScopeIdentifier finding.namespaceId) = true ∧
    actorScope = finding.workspaceId ++ "/" ++ finding.namespaceId
  current : store.currentStatus findingId = .ok expected
  allowed : allowedTransition expected next = true
  acted : (!(next = .contained || next = .resolved) || action.isSome) = true

section

variable {store : FindingStore} {findingId : String} {expected next : FindingStatus}
  {actorScope : String} {action : Option ContainmentAction}

theorem Moves.checkTransition_eq
    (moves : store.Moves findingId expected next actorScope action) :
    store.checkTransition findingId expected next actorScope action =
      ensure (store.updates.length < store.maxUpdates) .capacity := by
  obtain ⟨finding, found, valid, named⟩ := moves.owned
  simp only [checkTransition, validateScope, found, valid, named, moves.current, moves.allowed,
    moves.acted, require_some, ok_bind, ensure_true, decide_true, Bool.and_self]

/-- The room is looked at last. -/
theorem moves_of_checkTransition
    (checked : store.checkTransition findingId expected next actorScope action = .ok () ∨
      store.checkTransition findingId expected next actorScope action = .error .capacity) :
    store.Moves findingId expected next actorScope action := by
  have known : store.currentStatus findingId ≠ .error .capacity := by
    simp only [currentStatus, ne_eq, bind_eq_error, ensure_eq_error, reduceCtorEq, and_false,
      pure, Except.pure, or_self, exists_false, not_false_eq_true]
  simp only [checkTransition, validateScope, bind_eq_ok, bind_eq_error, ensure_eq_ok,
    ensure_eq_error, require_eq_ok, require_eq_error, reduceCtorEq, and_false, false_or, known,
    exists_const, Bool.and_eq_true (decide _), decide_eq_true_eq] at checked
  rcases checked with ⟨finding, found, valid, named, _, current, ⟨rfl, allowed⟩, acted, -⟩ |
    ⟨finding, found, valid, named, _, current, ⟨rfl, allowed⟩, acted, -⟩
  all_goals exact ⟨⟨finding, found, valid, named⟩, current, allowed, acted⟩

end

theorem Followed.pushUpdate (indexed : store.Indexed) (followed : store.Followed)
    {update : FindingStatusUpdate}
    (moves : store.Moves update.findingId update.from update.to update.actorScope update.action) :
    (store.pushUpdate update).Followed := by
  constructor
  · intro update' mem
    rcases mem_append.mp mem with old | new
    · exact followed.known update' old
    · cases mem_singleton.mp new
      obtain ⟨owner, found, -⟩ := moves.owned
      exact ⟨owner, indexed.find_eq_some_iff.mp found⟩
  · intro findingId
    rw [history_pushUpdate]
    split_ifs with same
    · subst same
      obtain ⟨-, here⟩ := currentStatus_eq_ok.mp moves.current
      rw [isPath_concat, here]
      exact ⟨followed.paths _, rfl, moves.allowed⟩
    · rw [append_nil]
      exact followed.paths findingId

/-- Counting a list by the keys of its elements. -/
theorem length_le_sum_countP {α κ : Type} [DecidableEq κ] (key : α → κ) (keys : List κ)
    (list : List α) (covered : ∀ a ∈ list, key a ∈ keys) :
    list.length ≤ (keys.map fun k => list.countP (key · = k)).sum := by
  induction keys generalizing list with
  | nil =>
    cases list with
    | nil => rfl
    | cons a rest => exact absurd (covered a mem_cons_self) not_mem_nil
  | cons k rest ih =>
    have others := ih (list.filter fun a => ¬ key a = k) (by
      intro a mem
      obtain ⟨listed, other⟩ := mem_filter.mp mem
      exact (mem_cons.mp (covered a listed)).resolve_left (of_decide_eq_true other))
    have fewer : ((rest.map fun k' => (list.filter fun a => ¬ key a = k).countP (key · = k')).sum) ≤
        (rest.map fun k' => list.countP (key · = k')).sum :=
      sum_le_sum fun k' _ => filter_sublist.countP_le
    have split := length_eq_countP_add_countP (fun a => decide (key a = k)) (l := list)
    simp only [map_cons, sum_cons]
    simp only [countP_eq_length_filter] at *
    simp only [decide_not, decide_eq_true_eq] at *
    omega

/-- No allowed status change is refused for room: its finding has had fewer than
three, and the others three at most. -/
theorem room_of_moves (indexed : store.Indexed) (followed : store.Followed)
    (room : store.maxUpdates = store.globalCapacity * maxStatusUpdatesPerFinding)
    {actorScope expected next action}
    (moves : store.Moves findingId expected next actorScope action) :
    store.updates.length < store.maxUpdates := by
  have short (id : String) :
      store.updates.countP (·.findingId = id) ≤ maxStatusUpdatesPerFinding := by
    rw [countP_eq_length_filter]
    exact Nat.le_trans (Nat.le_add_right _ _) (followed.paths id).length_add_height_le
  have shorter : store.updates.countP (·.findingId = findingId) < maxStatusUpdatesPerFinding := by
    obtain ⟨-, here⟩ := currentStatus_eq_ok.mp moves.current
    have bound := (followed.paths findingId).length_add_height_le
    have lower := height_lt_of_allowedTransition moves.allowed
    rw [here] at bound
    rw [countP_eq_length_filter]
    exact Nat.lt_of_lt_of_le (Nat.lt_add_of_pos_right (Nat.zero_lt_of_lt lower)) bound
  have mem : findingId ∈ store.findings.map SecurityFinding.findingId := by
    obtain ⟨finding, found, -⟩ := moves.owned
    obtain ⟨stored, named⟩ := indexed.find_eq_some_iff.mp found
    exact mem_map.mpr ⟨finding, stored, named⟩
  calc store.updates.length
      ≤ ((store.findings.map SecurityFinding.findingId).map fun id =>
          store.updates.countP (·.findingId = id)).sum := by
        apply length_le_sum_countP FindingStatusUpdate.findingId
        intro update logged
        obtain ⟨finding, stored, named⟩ := followed.known update logged
        exact mem_map.mpr ⟨finding, stored, named⟩
    _ < ((store.findings.map SecurityFinding.findingId).map fun _ =>
          maxStatusUpdatesPerFinding).sum :=
        sum_lt_sum _ _ (fun id _ => short id) ⟨findingId, mem, shorter⟩
    _ = store.findings.length * maxStatusUpdatesPerFinding := by
        simp [Function.comp_def, map_const']
    _ ≤ store.maxUpdates := by
        rw [room]
        exact Nat.mul_le_mul_right _ indexed.globalRoom

/-! ### Runs -/

/-- A call of the store. `now` is the reading of the clock, where it has one. -/
inductive StoreOp where
  | append (finding : SecurityFinding)
  | transition (findingId : String) (expected next : FindingStatus) (caller : Caller)
      (actorScope : String) (action : Option ContainmentAction) (now : Option UInt64)

/-- What a call makes of the store. -/
def StoreOp.answer (sha256 : List UInt8 → String) (store : FindingStore) :
    StoreOp → Except FindingErrorCode FindingStore
  | .append finding => (store.append sha256 finding).map Prod.snd
  | .transition findingId expected next caller actorScope action now =>
      store.transition findingId expected next caller actorScope action now

/-- The store after a call: a refused call leaves it as it was. -/
def storeStep (sha256 : List UInt8 → String) (store : FindingStore) (op : StoreOp) : FindingStore :=
  match op.answer sha256 store with
  | .ok next => next
  | .error _ => store

theorem storeStep_append (valid : validateFinding sha256 finding = .ok ())
    (admitted : store.admission finding = .ok true) :
    storeStep sha256 store (.append finding) = store.push finding := by
  simp only [storeStep, StoreOp.answer, append, valid, admitted, ok_bind]
  rfl

/-- Everything a call can make of the store. -/
inductive Grows (sha256 : List UInt8 → String) (store : FindingStore) : FindingStore → Prop
  | same : Grows sha256 store store
  | stored {finding : SecurityFinding} (valid : validateFinding sha256 finding = .ok ())
      (admitted : store.admission finding = .ok true) : Grows sha256 store (store.push finding)
  | moved {update : FindingStatusUpdate}
      (moves : store.Moves update.findingId update.from update.to update.actorScope
        update.action) : Grows sha256 store (store.pushUpdate update)

theorem grows_append {reply} (appended : store.append sha256 finding = .ok reply) :
    Grows sha256 store reply.2 := by
  simp only [append, bind_eq_ok, pure_eq_ok] at appended
  obtain ⟨_, valid, accepted, admitted, rfl⟩ := appended
  cases accepted with
  | false => exact .same
  | true => exact .stored valid admitted

theorem grows_transitionInternal {after actorScope actorSubject expected next action now}
    (changed : store.transitionInternal findingId expected next actorScope actorSubject action now =
      .ok after) : Grows sha256 store after := by
  simp only [transitionInternal, bind_eq_ok, pure_eq_ok] at changed
  obtain ⟨_, checked, atMs, -, rfl⟩ := changed
  exact .moved (moves_of_checkTransition (.inl checked))

theorem grows_storeStep (sha256 : List UInt8 → String) (store : FindingStore) (op : StoreOp) :
    Grows sha256 store (storeStep sha256 store op) := by
  unfold storeStep
  cases answered : op.answer sha256 store with
  | error e => exact .same
  | ok next =>
    cases op with
    | append finding =>
      obtain ⟨reply, appended, rfl⟩ := map_eq_ok.mp answered
      exact grows_append appended
    | transition findingId expected next caller actorScope action now =>
      simp only [StoreOp.answer, transition, bind_eq_ok] at answered
      obtain ⟨_, -, subject, -, _, -, changed⟩ := answered
      exact grows_transitionInternal changed

/-- What runs of the store keep. -/
structure Consistent (sha256 : List UInt8 → String) (store : FindingStore) : Prop where
  indexed : store.Indexed
  followed : store.Followed
  valid : ∀ finding ∈ store.findings, validateFinding sha256 finding = .ok ()
  room : store.maxUpdates = store.globalCapacity * maxStatusUpdatesPerFinding

theorem consistent_withQuotas (sha256 : List UInt8 → String) {scopeCapacity globalCapacity start}
    (made : withQuotas scopeCapacity globalCapacity = .ok start) :
    start.Consistent sha256 := by
  simp only [withQuotas, bind_eq_ok, pure_eq_ok] at made
  obtain ⟨_, -, rfl⟩ := made
  refine ⟨⟨?_, ?_, ?_, Nat.zero_le _, fun _ _ => Nat.zero_le _⟩, ⟨?_, fun _ => trivial⟩, ?_, rfl⟩
  all_goals simp
  omega

theorem Consistent.grows {next} (consistent : store.Consistent sha256)
    (grows : Grows sha256 store next) :
    next.Consistent sha256 := by
  obtain ⟨indexed, followed, valid, room⟩ := consistent
  cases grows with
  | same => exact ⟨indexed, followed, valid, room⟩
  | @stored finding passed admitted =>
    refine ⟨indexed.push admitted, followed.push finding, ?_, room⟩
    intro finding' mem
    rcases mem_append.mp mem with old | new
    · exact valid finding' old
    · rwa [mem_singleton.mp new]
  | moved moves =>
    exact ⟨⟨indexed.ids, indexed.fingerprints, indexed.counts, indexed.globalRoom,
      indexed.scopeRoom⟩, followed.pushUpdate indexed moves, valid, room⟩

theorem Consistent.step (consistent : store.Consistent sha256) (op : StoreOp) :
    (storeStep sha256 store op).Consistent sha256 :=
  consistent.grows (grows_storeStep sha256 store op)

theorem Consistent.run (consistent : store.Consistent sha256) (ops : List StoreOp) :
    Always (storeStep sha256) (Consistent sha256) store ops :=
  always_of_step (fun _ op kept => kept.step op) consistent ops

/-- What a reader of the store relies on. -/
structure Described (store : FindingStore) : Prop where
  indexed : store.Indexed
  paths : ∀ findingId, IsPath .open (store.history findingId) ∧
    (store.history findingId).length ≤ maxStatusUpdatesPerFinding
  answers : store.AnswersScopes

/-- The call is not a status change refused for room. -/
def UpdatesFit (sha256 : List UInt8 → String) (store : FindingStore) : StoreOp → Prop
  | .append _ => True
  | .transition findingId expected next caller actorScope action now =>
      (StoreOp.transition findingId expected next caller actorScope action now).answer sha256
          store ≠
        .error .capacity

theorem Consistent.described (consistent : store.Consistent sha256) : store.Described := by
  refine ⟨consistent.indexed, ?_, consistent.indexed.answersScopes⟩
  intro findingId
  have path := consistent.followed.paths findingId
  exact ⟨path, Nat.le_trans (Nat.le_add_right _ _) path.length_add_height_le⟩

theorem Consistent.updatesFit (consistent : store.Consistent sha256) (op : StoreOp) :
    store.UpdatesFit sha256 op := by
  cases op with
  | append finding => trivial
  | transition findingId expected next caller actorScope action now =>
    intro full
    simp only [StoreOp.answer, transition, transitionInternal, bind_eq_error, ensure_eq_error,
      require_eq_error, pure, Except.pure, reduceCtorEq, and_false, false_or, or_false,
      exists_false] at full
    obtain ⟨_, -, _, -, _, -, checked⟩ := full
    have moves := moves_of_checkTransition (.inr checked)
    rw [moves.checkTransition_eq, ensure_eq_error, decide_eq_false_iff_not] at checked
    exact checked.1 (room_of_moves consistent.indexed consistent.followed consistent.room moves)

/-- Over every run of `append` and `transition`, the indexes describe the stored
findings, the quotas hold, every finding's updates are a path of at most three
transitions from `open`, the queries answer with the entries of the authorised
scope, and no status change is refused for room. -/
theorem findingStore_described (sha256 : List UInt8 → String) (scopeCapacity globalCapacity : Nat)
    {start : FindingStore} (made : withQuotas scopeCapacity globalCapacity = .ok start)
    (ops : List StoreOp) :
    Always (storeStep sha256) Described start ops ∧
      AllSteps (storeStep sha256) (UpdatesFit sha256) start ops := by
  have consistent := consistent_withQuotas sha256 made
  constructor
  · exact (consistent.run ops).mono fun _ kept => kept.described
  · exact allSteps_of_step (fun _ op kept => kept.step op) (fun _ op kept => kept.updatesFit op)
      consistent ops

/-- A finding is stored, acknowledged and resolved. -/
def resolvedSample : List StoreOp :=
  [.append sampleFinding,
   .transition sampleFinding.findingId .open .acknowledged ⟨true, some "s", none, ["w/n"]⟩ "w/n"
     none (some 5),
   .transition sampleFinding.findingId .acknowledged .resolved ⟨true, some "s", none, ["w/n"]⟩ "w/n"
     (some .pause) (some 6)]

theorem findingStore_described_resolvedSample :
    ∃ start, withQuotas 8 8 = .ok start ∧
      Always (storeStep sampleDigest) Described start resolvedSample ∧
      AllSteps (storeStep sampleDigest) (UpdatesFit sampleDigest) start resolvedSample :=
  ⟨_, rfl, findingStore_described sampleDigest 8 8 rfl _⟩

end FindingStore

end Apex.Findings
