import Apex.Findings.Consistency

/-!
Fingerprints and the findings they stand for.

What is hashed is a list of texts, each after its length, and every text that
`logicallyEqual` compares is among them. So valid findings with one preimage say
the same, and unless two different preimages have one digest, a finding whose
fingerprint the store has already is the finding the store has: the store never
has to refuse it for a conflict.
-/

namespace Apex.Findings

open Checked Framing Runs List SecurityFinding

/-- The texts of a piece of evidence that are hashed. -/
def EvidenceRef.texts (evidence : EvidenceRef) : List String :=
  [evidence.eventId, evidence.fieldPath, evidence.valueHash]

namespace SecurityFinding

/-- The texts of a finding that are hashed. -/
def texts (finding : SecurityFinding) : List String :=
  [findingTypeTag finding.findingType, severityTag finding.severity,
    confidenceTag finding.confidence, policyDecisionTag finding.policyDecision,
    finding.workspaceId, finding.namespaceId, finding.detector] ++
  finding.evidenceRefs.flatMap EvidenceRef.texts

/-- What `fingerprint_for` feeds to the digest. -/
def preimage (finding : SecurityFinding) : List UInt8 :=
  "apex.security.finding.v3".toByteArray.data.toList ++ finding.texts.flatMap component

end SecurityFinding

theorem fingerprintFor_eq (sha256 : List UInt8 → String) (finding : SecurityFinding) :
    fingerprintFor sha256 finding = sha256 finding.preimage := by
  have refs : finding.evidenceRefs.flatMap (fun evidence =>
      [evidence.eventId, evidence.fieldPath, evidence.valueHash].flatMap component) =
      (finding.evidenceRefs.flatMap EvidenceRef.texts).flatMap component :=
    (flatMap_assoc ..).symm
  unfold fingerprintFor preimage texts
  rw [refs, flatMap_append, append_assoc]

/-! ### Texts -/

theorem findingTypeTag_inj {first second : FindingType}
    (same : findingTypeTag first = findingTypeTag second) : first = second := by
  cases first <;> cases second <;> first | rfl | exact absurd same (by decide)

theorem confidenceTag_inj {first second : FindingConfidence}
    (same : confidenceTag first = confidenceTag second) : first = second := by
  cases first <;> cases second <;> first | rfl | exact absurd same (by decide)

theorem flatMap_texts_inj {first second : List EvidenceRef}
    (same : first.flatMap EvidenceRef.texts = second.flatMap EvidenceRef.texts) :
    first = second := by
  induction first generalizing second with
  | nil =>
    cases second with
    | nil => rfl
    | cons evidence rest => cases same
  | cons evidence rest ih =>
    cases second with
    | nil => cases same
    | cons evidence' rest' =>
      simp only [flatMap_cons, EvidenceRef.texts, cons_append, nil_append, List.cons.injEq] at same
      obtain ⟨event, path, hash, later⟩ := same
      obtain rfl : evidence = evidence' := by
        cases evidence
        cases evidence'
        simp_all
      rw [ih later]

theorem component_texts_inj {first second : List String}
    (fits : ∀ text ∈ first, text.utf8ByteSize < 2 ^ 64)
    (fits' : ∀ text ∈ second, text.utf8ByteSize < 2 ^ 64)
    (same : first.flatMap component = second.flatMap component) : first = second := by
  let bytes (text : String) : List UInt8 := text.toByteArray.data.toList
  have framed (texts : List String) :
      texts.flatMap component = (texts.map bytes).flatMap (framed .big 8) := by
    rw [flatMap_map]
    rfl
  rw [framed, framed] at same
  apply map_injective_iff.mpr (fun _ _ => Text.bytes_inj)
  apply frames_inj (by omega) _ _ same
  · exact forall_mem_map.mpr fits
  · exact forall_mem_map.mpr fits'

/-! ### Valid findings -/

variable {sha256 : List UInt8 → String} {finding first second : SecurityFinding}

theorem utf8ByteSize_of_isLowercaseUuidV7 {value : String}
    (valid : isLowercaseUuidV7 value = true) : value.utf8ByteSize = 36 := by
  rw [Text.utf8ByteSize_of_ascii, length_of_isLowercaseUuidV7 valid]
  intro c mem
  simp only [isLowercaseUuidV7, Bool.and_eq_true] at valid
  rcases mem_of_isHyphenatedLowerHex valid.1.1 mem with rfl | digit
  · decide
  · exact toNat_lt_of_isAlphanum (isAlphanum_of_isLowerHex digit)

theorem texts_fit (valid : validateFinding sha256 finding = .ok ()) :
    ∀ text ∈ finding.texts, text.utf8ByteSize < 2 ^ 64 := by
  simp only [validateFinding, validateScope, bind_eq_ok, ensure_eq_ok, Bool.and_eq_true,
    isScopeIdentifier, validDetector, decide_eq_true_eq] at valid
  obtain ⟨_, ⟨workspaceId, namespaceId⟩, _, ⟨⟨⟨-, detector⟩, -⟩, -⟩, _, refs, -⟩ := valid
  rw [texts, forall_mem_append]
  constructor
  · simp only [forall_mem_cons]
    refine ⟨?_, ?_, ?_, ?_, by omega, by omega, by omega, forall_mem_nil _⟩
    · cases finding.findingType <;> decide
    · cases finding.severity <;> decide
    · cases finding.confidence <;> decide
    · cases finding.policyDecision <;> decide
  · intro text mem
    obtain ⟨evidence, stored, mem⟩ := mem_flatMap.mp mem
    have checked := check_of_distinctEach refs evidence stored
    simp only [validateEvidence, ensure_eq_ok, Bool.and_eq_true, validFieldPath, validHash,
      decide_eq_true_eq] at checked
    obtain ⟨⟨event, path⟩, hash⟩ := checked
    have event := utf8ByteSize_of_isLowercaseUuidV7 event
    simp only [EvidenceRef.texts, mem_cons, not_mem_nil, or_false] at mem
    rcases mem with rfl | rfl | rfl <;> omega

theorem fingerprint_eq (valid : validateFinding sha256 finding = .ok ()) :
    finding.fingerprint = sha256 finding.preimage := by
  simp only [validateFinding, bind_eq_ok, ensure_eq_ok, Bool.and_eq_true,
    decide_eq_true_eq] at valid
  obtain ⟨_, -, _, -, _, -, -, is⟩ := valid
  rw [is, fingerprintFor_eq]

theorem invalidField_of_error {e : FindingErrorCode}
    (failed : validateFinding sha256 finding = .error e) :
    e = .invalidField := by
  simp only [validateFinding, validateScope, bind_eq_error, ensure_eq_error] at failed
  rcases failed with ⟨-, is⟩ | ⟨_, -, ⟨-, is⟩ | ⟨_, -, failed | ⟨_, -, -, is⟩⟩⟩
  · exact is.symm
  · exact is.symm
  · rcases distinctEach_eq_error failed with is | ⟨evidence, -, failed⟩
    · exact is.symm
    · exact (ensure_eq_error.mp failed).2.symm
  · exact is.symm

theorem classified (valid : validateFinding sha256 finding = .ok ()) :
    (finding.severity, finding.policyDecision) = expectedClassification finding.findingType := by
  simp only [validateFinding, bind_eq_ok, ensure_eq_ok, Bool.and_eq_true,
    decide_eq_true_eq] at valid
  obtain ⟨_, -, _, ⟨⟨⟨⟨-, is⟩, -⟩, -⟩, -⟩, -⟩ := valid
  exact is

theorem logicallyEqual_of_preimage (valid : validateFinding sha256 first = .ok ())
    (valid' : validateFinding sha256 second = .ok ()) (same : first.preimage = second.preimage) :
    logicallyEqual first second = true := by
  have texts := component_texts_inj (texts_fit valid) (texts_fit valid') (append_cancel_left same)
  simp only [SecurityFinding.texts, cons_append, nil_append, List.cons.injEq] at texts
  obtain ⟨type, -, confidence, -, workspaceId, namespaceId, detector, refs⟩ := texts
  have type := findingTypeTag_inj type
  -- The severity and the decision follow from the type of a valid finding.
  have classes := (classified valid).trans (type ▸ (classified valid').symm)
  rw [Prod.mk.injEq] at classes
  have digest : first.fingerprint = second.fingerprint := by
    rw [fingerprint_eq valid, fingerprint_eq valid', same]
  simp [logicallyEqual, type, classes, confidenceTag_inj confidence, workspaceId, namespaceId,
    detector, flatMap_texts_inj refs, digest]

/-! ### The store -/

namespace FindingStore

variable {store : FindingStore}

/-- No two findings of a list of calls have different preimages and one digest. -/
def CollisionFree (sha256 : List UInt8 → String) (ops : List StoreOp) : Prop :=
  ∀ first second, .append first ∈ ops → .append second ∈ ops →
    sha256 first.preimage = sha256 second.preimage → first.preimage = second.preimage

/-- A refusal of a finding for a conflict of fingerprints. -/
def Conflicts (sha256 : List UInt8 → String) (store : FindingStore) : StoreOp → Prop
  | .append finding => store.append sha256 finding = .error .fingerprintConflict
  | .transition .. => False

/-- Where everything stored under the fingerprint has the preimage of the
finding, the finding is not refused for a conflict. -/
theorem not_conflicts (consistent : store.Consistent sha256)
    (known : ∀ stored ∈ store.findings,
      sha256 stored.preimage = sha256 finding.preimage → stored.preimage = finding.preimage) :
    ¬ store.Conflicts sha256 (.append finding) := by
  intro conflict
  simp only [Conflicts, append, bind_eq_error, pure, Except.pure, reduceCtorEq, and_false,
    exists_false, or_false] at conflict
  rcases conflict with invalid | ⟨_, valid, refused⟩
  · exact absurd (invalidField_of_error invalid) (by decide)
  simp only [admission] at refused
  split at refused
  · split_ifs at refused
    simp at refused
  split at refused
  case h_1 existingId indexed =>
    obtain ⟨stored, mem, inScope, digest, named⟩ := (consistent.indexed.fingerprints ..).mp indexed
    have found := consistent.indexed.find_eq_some_iff.mpr ⟨mem, named⟩
    have preimages := known stored mem (by
      rw [← fingerprint_eq (consistent.valid stored mem), digest, fingerprint_eq valid])
    have equal := logicallyEqual_of_preimage (consistent.valid stored mem) valid preimages
    simp [found, equal, bind, Except.bind, pure, Except.pure] at refused
  case h_2 =>
    simp only [bind_eq_error, ensure_eq_error, pure, Except.pure, reduceCtorEq, and_false,
      exists_false, or_false] at refused

/-- What a store holds after a call it held before, or the call brought it. -/
theorem mem_findings_storeStep {op : StoreOp}
    (mem : finding ∈ (storeStep sha256 store op).findings) :
    finding ∈ store.findings ∨ op = .append finding := by
  unfold storeStep at mem
  cases answered : op.answer sha256 store with
  | error e =>
    rw [answered] at mem
    exact .inl mem
  | ok after =>
    rw [answered] at mem
    cases op with
    | append brought =>
      obtain ⟨reply, appended, rfl⟩ := map_eq_ok.mp answered
      simp only [append, bind_eq_ok, pure_eq_ok] at appended
      obtain ⟨_, -, accepted, -, rfl⟩ := appended
      cases accepted with
      | false => exact .inl mem
      | true =>
        rcases mem_append.mp mem with held | new
        · exact .inl held
        · exact .inr (congrArg _ (mem_singleton.mp new).symm)
    | transition findingId expected next caller actorScope action now =>
      simp only [StoreOp.answer, transition, transitionInternal, bind_eq_ok, pure_eq_ok] at answered
      obtain ⟨_, -, _, -, _, -, _, -, _, -, rfl⟩ := answered
      exact .inl mem

/-- Valid findings with one preimage say the same; so no run of calls whose
findings do not collide refuses one of them for a conflict of fingerprints. -/
theorem fingerprints_agree (sha256 : List UInt8 → String) :
    (∀ first second, validateFinding sha256 first = .ok () →
      validateFinding sha256 second = .ok () → first.preimage = second.preimage →
        logicallyEqual first second = true) ∧
    ∀ scopeCapacity globalCapacity start ops,
      withQuotas scopeCapacity globalCapacity = .ok start → CollisionFree sha256 ops →
        AllSteps (storeStep sha256) (fun store op => ¬ store.Conflicts sha256 op) start ops := by
  refine ⟨fun first second => logicallyEqual_of_preimage, ?_⟩
  intro scopeCapacity globalCapacity start ops fresh free
  -- Every stored finding is one of the findings of the run.
  have keep : ∀ (store : FindingStore) (op : StoreOp),
      (store.Consistent sha256 ∧ ∀ stored ∈ store.findings, .append stored ∈ ops) → op ∈ ops →
      (storeStep sha256 store op).Consistent sha256 ∧
        ∀ stored ∈ (storeStep sha256 store op).findings, .append stored ∈ ops := by
    rintro store op ⟨consistent, brought⟩ called
    refine ⟨consistent.step op, fun stored mem => ?_⟩
    rcases mem_findings_storeStep mem with held | rfl
    · exact brought stored held
    · exact called
  have start' : start.Consistent sha256 ∧ ∀ stored ∈ start.findings, .append stored ∈ ops := by
    refine ⟨consistent_withQuotas sha256 fresh, ?_⟩
    simp only [withQuotas, bind_eq_ok, pure_eq_ok] at fresh
    obtain ⟨_, -, rfl⟩ := fresh
    exact List.forall_mem_nil _
  refine allSteps_of_allSteps keep ?_ start' (allSteps_of_forall fun op called => called)
  rintro store op ⟨consistent, brought⟩ called
  cases op with
  | append finding =>
    exact not_conflicts consistent fun stored mem => free stored finding (brought stored mem) called
  | transition => exact id

/-- A finding told twice, with two ids. -/
theorem fingerprints_agree_sample :
    let again := { sampleFinding with findingId := "0190a000-0000-7000-8000-000000000003" }
    logicallyEqual sampleFinding again = true ∧
      ∃ start, withQuotas 8 8 = .ok start ∧ AllSteps (storeStep sampleDigest)
        (fun store op => ¬ store.Conflicts sampleDigest op) start
        [.append sampleFinding, .append again] := by
  have agree := fingerprints_agree sampleDigest
  refine ⟨agree.1 _ _ (by decide +kernel) (by decide +kernel) rfl, _, rfl, agree.2 8 8 _ _ rfl ?_⟩
  intro first second called called' _
  simp only [List.mem_cons, StoreOp.append.injEq, List.not_mem_nil, or_false] at called called'
  rcases called with rfl | rfl <;> rcases called' with rfl | rfl <;> rfl

end FindingStore

end Apex.Findings
