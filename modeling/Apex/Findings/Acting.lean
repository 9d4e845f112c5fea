import Apex.Findings.Consistency

/-!
Who can act on a stored finding.

`append` bounds the workspace and the namespace of a finding each on its own;
`transition` bounds the actor scope, which is both with a slash between.
-/

namespace Apex.Findings

open Checked Runs List

namespace FindingStore

/-- A scope identifier is printable ASCII without a slash. -/
theorem printable_of_isScopeIdentifier {value} (valid : isScopeIdentifier value = true) {c}
    (mem : c ∈ value.toList) :
    (c.toNat < 128 && !Text.isControl c) = true ∧ c ≠ '/' := by
  simp only [isScopeIdentifier, Bool.and_eq_true, all_eq_true, Bool.or_eq_true, beq_iff_eq] at valid
  rcases valid.2 c mem with (((letter | rfl) | rfl) | rfl) | rfl
  · simp only [Char.isAlphanum, Char.isAlpha, Char.isUpper, Char.isLower, Char.isDigit,
      Bool.or_eq_true, Bool.and_eq_true, decide_eq_true_eq, ge_iff_le, UInt32.le_iff_toNat_le]
      at letter
    have bounds : 48 ≤ c.toNat ∧ c.toNat ≤ 122 := by
      rcases letter with (⟨low, high⟩ | ⟨low, high⟩) | ⟨low, high⟩ <;>
      exact ⟨Nat.le_trans (by decide) low, Nat.le_trans high (by decide)⟩
    constructor
    · simp [Text.isControl]
      omega
    · rintro rfl
      exact absurd bounds (by decide)
  all_goals decide

theorem toList_scope (workspaceId namespaceId : String) :
    (workspaceId ++ "/" ++ namespaceId).toList =
      workspaceId.toList ++ '/' :: namespaceId.toList := by
  simp

/-- A scope of two identifiers splits into them. -/
theorem splitScope_scope {workspaceId} (valid : isScopeIdentifier workspaceId = true)
    (namespaceId : String) :
    splitScope (workspaceId ++ "/" ++ namespaceId) = some (workspaceId, namespaceId) := by
  have plain : ∀ c ∈ workspaceId.toList, decide (c ≠ '/') = true := by
    intro c mem
    exact decide_eq_true (printable_of_isScopeIdentifier valid mem).2
  unfold splitScope
  rw [toList_scope, span_eq_takeWhile_dropWhile, takeWhile_append_of_pos plain,
    dropWhile_append_of_pos plain]
  simp

theorem validActorScope_scope {workspaceId namespaceId}
    (valid : (isScopeIdentifier workspaceId && isScopeIdentifier namespaceId) = true) :
    validActorScope (workspaceId ++ "/" ++ namespaceId) = true ↔
      workspaceId.utf8ByteSize + 1 + namespaceId.utf8ByteSize ≤ maxActorScopeBytes := by
  obtain ⟨left, right⟩ := Bool.and_eq_true_iff.mp valid
  have size : (workspaceId ++ "/" ++ namespaceId).utf8ByteSize =
      workspaceId.utf8ByteSize + 1 + namespaceId.utf8ByteSize := by
    rw [String.utf8ByteSize_append, String.utf8ByteSize_append]
    rfl
  have nonempty : (workspaceId ++ "/" ++ namespaceId).isEmpty = false := by
    rw [← Bool.not_eq_true, String.isEmpty_iff_utf8ByteSize_eq_zero, size]
    omega
  have printable : (workspaceId ++ "/" ++ namespaceId).toList.all
      (fun c => c.toNat < 128 && !Text.isControl c) = true := by
    rw [toList_scope, all_append, all_cons, Bool.and_eq_true, Bool.and_eq_true,
      all_eq_true, all_eq_true]
    exact ⟨fun c mem => (printable_of_isScopeIdentifier left mem).1, by decide,
      fun c mem => (printable_of_isScopeIdentifier right mem).1⟩
  simp only [validActorScope, nonempty, size, printable, splitScope_scope left, Option.any_some,
    valid, Bool.not_false, Bool.true_and, Bool.and_true, decide_eq_true_eq]

/-- A stored finding's scope is made of two scope identifiers. -/
theorem scope_of_validateFinding {sha256 finding} (valid : validateFinding sha256 finding = .ok ())
    :
    (isScopeIdentifier finding.workspaceId && isScopeIdentifier finding.namespaceId) = true := by
  simp only [validateFinding, validateScope, bind_eq_ok, ensure_eq_ok] at valid
  exact valid.choose_spec.1

/-- A caller who is allowed the scope of a stored finding can take it through
every transition of the table exactly when the scope's two identifiers and the
slash between them fit the bound on actor scopes: each identifier alone may have
as many bytes as that. -/
theorem transition_ok_iff (sha256 : List UInt8 → String) (scopeCapacity globalCapacity : Nat)
    {start : FindingStore} (made : withQuotas scopeCapacity globalCapacity = .ok start)
    (ops : List StoreOp) {finding : SecurityFinding}
    (stored : finding ∈ (run (storeStep sha256) start ops).findings) {caller : Caller}
    (granted : caller.allowsScope (finding.workspaceId ++ "/" ++ finding.namespaceId) = true)
    {current next : FindingStatus}
    (stands : (run (storeStep sha256) start ops).currentStatus finding.findingId = .ok current)
    (allowed : allowedTransition current next = true) {action : Option ContainmentAction}
    (acted : next = .contained ∨ next = .resolved → action.isSome = true) (now : UInt64) :
    (∃ after, (run (storeStep sha256) start ops).transition finding.findingId current next caller
        (finding.workspaceId ++ "/" ++ finding.namespaceId) action (some now) = .ok after) ↔
      finding.workspaceId.utf8ByteSize + 1 + finding.namespaceId.utf8ByteSize ≤
        maxActorScopeBytes := by
  obtain ⟨indexed, followed, valid, room⟩ :=
    ((consistent_withQuotas sha256 made).run ops).last
  have scope := scope_of_validateFinding (valid finding stored)
  have moves : (run (storeStep sha256) start ops).Moves finding.findingId current next
      (finding.workspaceId ++ "/" ++ finding.namespaceId) action :=
    ⟨⟨finding, indexed.find_eq_some_iff.mpr ⟨stored, rfl⟩, scope, rfl⟩, stands, allowed, by
      cases next <;> simp_all⟩
  have fits := room_of_moves indexed followed room moves
  obtain ⟨subject, named⟩ : ∃ subject, caller.subject.filter (!·.isEmpty) = some subject := by
    simp only [Caller.allowsScope, Bool.and_eq_true, Option.any_eq_true] at granted
    obtain ⟨⟨-, subject, found, nonempty⟩, -⟩ := granted
    exact ⟨subject, by simp [found, nonempty]⟩
  rw [← validActorScope_scope scope]
  simp only [transition, transitionInternal, moves.checkTransition_eq, named, granted, fits,
    decide_true, ensure_true, require_some, ok_bind, bind_eq_ok, ensure_eq_ok, pure_eq_ok]
  constructor
  · rintro ⟨after, _, valid, -⟩
    exact valid
  · intro valid
    exact ⟨_, (), valid, rfl⟩

theorem transition_ok_iff_sample :
    ∃ start, withQuotas 8 8 = .ok start ∧ ∃ after,
      (run (storeStep sampleDigest) start [.append sampleFinding]).transition
        sampleFinding.findingId .open .acknowledged ⟨true, some "s", none, ["w/n"]⟩ "w/n" none
          (some 5) = .ok after := by
  refine ⟨_, rfl, ?_⟩
  apply (transition_ok_iff sampleDigest 8 8 rfl [.append sampleFinding] _ _ _ _ _ 5).mpr
  all_goals decide +kernel

/-- An identifier of 128 bytes. -/
def wideIdentifier : String :=
  String.ofList (List.replicate 128 'a')

theorem isScopeIdentifier_wide :
    isScopeIdentifier wideIdentifier = true ∧ wideIdentifier.utf8ByteSize = 128 := by
  have chars : wideIdentifier.toList = List.replicate 128 'a' := String.toList_ofList
  have size : wideIdentifier.utf8ByteSize = 128 := by
    rw [Text.utf8ByteSize_of_ascii, chars, length_replicate]
    simp [chars]
  have dot : '.' ∉ wideIdentifier.toList := by
    rw [chars]
    decide
  have undotted : Text.contains wideIdentifier ".." = false := Text.infixOf_of_notMem dot
  refine ⟨?_, size⟩
  have nonempty : wideIdentifier.isEmpty = false := by
    rw [← Bool.not_eq_true, String.isEmpty_iff_utf8ByteSize_eq_zero, size]
    decide
  simp only [isScopeIdentifier, nonempty, size, undotted, chars]
  decide

theorem allowsScope_single {workspaceId namespaceId} (left : isScopeIdentifier workspaceId = true)
    (right : isScopeIdentifier namespaceId = true) :
    Caller.allowsScope ⟨true, some "s", none, [workspaceId ++ "/" ++ namespaceId]⟩
      (workspaceId ++ "/" ++ namespaceId) = true := by
  have subject : isValidSubject "s" = true := by decide +kernel
  simp [Caller.allowsScope, Caller.isValid, splitScope_scope left, left, right, subject,
    maxAllowedScopes]

/-- The sample finding in a wide scope. -/
def wideFinding : SecurityFinding := .stamped
  { sampleFinding with workspaceId := wideIdentifier, namespaceId := wideIdentifier }

/-- The finding is stored and open and the caller is allowed its scope, and yet
the caller cannot acknowledge it. -/
theorem wideFinding_stuck :
    ∃ start, withQuotas 8 8 = .ok start ∧
      let store := run (storeStep sampleDigest) start [.append wideFinding]
      let scope := wideFinding.workspaceId ++ "/" ++ wideFinding.namespaceId
      let caller : Caller := ⟨true, some "s", none, [scope]⟩
      wideFinding ∈ store.findings ∧ caller.allowsScope scope = true ∧
        store.currentStatus wideFinding.findingId = .ok .open ∧
        allowedTransition .open .acknowledged = true ∧
        store.transition wideFinding.findingId .open .acknowledged caller scope none (some 5) =
          .error .scopeDenied := by
  obtain ⟨identifier, size⟩ := isScopeIdentifier_wide
  have scope : (isScopeIdentifier wideIdentifier && isScopeIdentifier wideIdentifier) = true := by
    rw [identifier]
    rfl
  have wide : validActorScope (wideFinding.workspaceId ++ "/" ++ wideFinding.namespaceId) =
      false := by
    change validActorScope (wideIdentifier ++ "/" ++ wideIdentifier) = false
    rw [← Bool.not_eq_true, validActorScope_scope scope, size]
    decide
  have valid : validateFinding sampleDigest wideFinding = .ok () := by
    have within : validateScope wideFinding.workspaceId wideFinding.namespaceId = .ok () := by
      rw [validateScope]
      exact ensure_eq_ok.mpr scope
    rw [validateFinding, within]
    decide +kernel
  have pushed {start : FindingStore} (made : withQuotas 8 8 = .ok start) :
      run (storeStep sampleDigest) start [.append wideFinding] = start.push wideFinding := by
    simp only [withQuotas, bind_eq_ok, pure_eq_ok] at made
    obtain ⟨_, -, rfl⟩ := made
    rw [run_cons, run_nil]
    apply storeStep_append valid
    exact admission_eq_true.mpr ⟨rfl, rfl, by decide, by decide⟩
  refine ⟨_, rfl, ?_⟩
  simp only [pushed rfl]
  refine ⟨?_, ?_, ?_, rfl, ?_⟩
  · simp [push]
  · exact allowsScope_single identifier identifier
  · exact currentStatus_eq_ok.mpr ⟨by rw [push, AList.lookup_insert]; rfl, rfl⟩
  · rw [transition, wide]
    rfl

end FindingStore

end Apex.Findings
