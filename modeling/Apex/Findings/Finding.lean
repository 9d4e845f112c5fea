import Apex.Identifiers
import Apex.Lib.Checked
import Apex.Lib.Framing

/-!
Security findings and what the finding store asks of them.

The fingerprint of a finding is the SHA-256 digest, in hexadecimal, of its
classification, scope, detector and evidence; the digest is a parameter.
-/

namespace Apex.Findings

open Checked

inductive FindingType where
  | telemetryIntegrity
  | agentTemplateNoncompliant
  | scopeIdentityDenied
  | untrustedControlBoundary
  | secretExposure
  | toolPolicyDenied
  | authAbuse
  | admissionAbuse
  | backlogDegraded
  deriving DecidableEq, Repr

inductive FindingSeverity where
  | info
  | low
  | medium
  | high
  | critical
  deriving DecidableEq, Repr

inductive FindingConfidence where
  | deterministic
  | corroborated
  | heuristic
  deriving DecidableEq, Repr

inductive FindingStatus where
  | «open»
  | acknowledged
  | contained
  | resolved
  | falsePositive
  deriving DecidableEq, Repr

inductive PolicyDecision where
  | allow
  | deny
  | requireApproval
  | contain
  deriving DecidableEq, Repr

inductive ContainmentAction where
  | pause
  | quarantine
  | disableTool
  deriving DecidableEq, Repr

structure EvidenceRef where
  eventId : String
  fieldPath : String
  valueHash : String
  deriving DecidableEq, Repr

structure SecurityFinding where
  findingId : String
  findingType : FindingType
  severity : FindingSeverity
  confidence : FindingConfidence
  workspaceId : String
  namespaceId : String
  detector : String
  evidenceRefs : List EvidenceRef
  policyDecision : PolicyDecision
  fingerprint : String
  createdAtMs : UInt64
  deriving DecidableEq, Repr

structure FindingStatusUpdate where
  findingId : String
  «from» : FindingStatus
  «to» : FindingStatus
  action : Option ContainmentAction
  actorScope : String
  actorSubject : String
  atMs : UInt64
  deriving DecidableEq, Repr

inductive FindingErrorCode where
  | invalidField
  | capacity
  | duplicateId
  | fingerprintConflict
  | notFound
  | scopeDenied
  | invalidTransition
  | entropyUnavailable
  | clockUnavailable
  deriving DecidableEq, Repr

def maxFindings : Nat := 1000000

def maxEvidenceRefs : Nat := 32

def maxStatusUpdatesPerFinding : Nat := 3

def maxActorScopeBytes : Nat := 256

/-! ### Fingerprints -/

def findingTypeTag : FindingType → String
  | .telemetryIntegrity => "telemetry.integrity"
  | .agentTemplateNoncompliant => "agent.template.noncompliant"
  | .scopeIdentityDenied => "identity.scope.denied"
  | .untrustedControlBoundary => "control.untrusted.boundary"
  | .secretExposure => "data.secret.exposure"
  | .toolPolicyDenied => "tool.policy.denied"
  | .authAbuse => "auth.abuse"
  | .admissionAbuse => "ingest.admission.abuse"
  | .backlogDegraded => "ingest.backlog.degraded"

def severityTag : FindingSeverity → String
  | .info => "info"
  | .low => "low"
  | .medium => "medium"
  | .high => "high"
  | .critical => "critical"

def confidenceTag : FindingConfidence → String
  | .deterministic => "deterministic"
  | .corroborated => "corroborated"
  | .heuristic => "heuristic"

def policyDecisionTag : PolicyDecision → String
  | .allow => "allow"
  | .deny => "deny"
  | .requireApproval => "require_approval"
  | .contain => "contain"

/-- `update_component`: the length in eight bytes, the high byte first, and the
text. -/
def component (value : String) : List UInt8 :=
  let bytes := value.toByteArray.data.toList
  (Framing.littleEndian 8 bytes.length).reverse ++ bytes

/-- `fingerprint_for`. -/
def fingerprintFor (sha256 : List UInt8 → String) (finding : SecurityFinding) : String :=
  sha256 ("apex.security.finding.v3".toByteArray.data.toList ++
    [findingTypeTag finding.findingType, severityTag finding.severity,
      confidenceTag finding.confidence, policyDecisionTag finding.policyDecision,
      finding.workspaceId, finding.namespaceId, finding.detector].flatMap component ++
    finding.evidenceRefs.flatMap fun evidence =>
      [evidence.eventId, evidence.fieldPath, evidence.valueHash].flatMap component)

/-! ### Validation -/

def expectedClassification : FindingType → FindingSeverity × PolicyDecision
  | .secretExposure => (.critical, .deny)
  | .agentTemplateNoncompliant => (.high, .requireApproval)
  | .telemetryIntegrity | .scopeIdentityDenied | .untrustedControlBoundary | .toolPolicyDenied
  | .authAbuse | .admissionAbuse => (.high, .deny)
  | .backlogDegraded => (.high, .contain)

def validDetector (value : String) : Bool :=
  !value.isEmpty && value.utf8ByteSize ≤ 128 &&
    value.toList.all fun c => c.isAlphanum || c ∈ ['.', '_', '-', ':']

def validHash (value : String) : Bool :=
  value.utf8ByteSize = 64 && value.toList.all Text.isLowerHex

def validFieldPath (value : String) : Bool :=
  !value.isEmpty && value.utf8ByteSize ≤ 256 && !Text.contains value ".." &&
    value.toList.all fun c => c.isAlphanum || c ∈ ['.', '_', '/', '-']

def validateScope (workspace «namespace» : String) : Except FindingErrorCode Unit :=
  ensure (isScopeIdentifier workspace && isScopeIdentifier «namespace») .invalidField

/-- `split_once('/')`. -/
def splitScope (value : String) : Option (String × String) :=
  match value.toList.span (· ≠ '/') with
  | (_, []) => none
  | (workspace, _ :: rest) => some (String.ofList workspace, String.ofList rest)

def validActorScope (value : String) : Bool :=
  !value.isEmpty && value.utf8ByteSize ≤ maxActorScopeBytes &&
    value.toList.all (fun c => c.toNat < 128 && !Text.isControl c) &&
    (splitScope value).any fun (workspace, «namespace») =>
      isScopeIdentifier workspace && isScopeIdentifier «namespace»

def validateEvidence (evidence : EvidenceRef) : Except FindingErrorCode Unit :=
  ensure (isLowercaseUuidV7 evidence.eventId && validFieldPath evidence.fieldPath &&
    validHash evidence.valueHash) .invalidField

/-- `validate_finding`. -/
def validateFinding (sha256 : List UInt8 → String) (f : SecurityFinding) :
    Except FindingErrorCode Unit := do
  validateScope f.workspaceId f.namespaceId
  ensure (isLowercaseUuidV7 f.findingId &&
    (f.severity, f.policyDecision) = expectedClassification f.findingType &&
    validDetector f.detector && !f.evidenceRefs.isEmpty &&
    f.evidenceRefs.length ≤ maxEvidenceRefs) .invalidField
  distinctEach (fun evidence => (evidence.eventId, evidence.fieldPath, evidence.valueHash))
    validateEvidence .invalidField [] f.evidenceRefs
  ensure (validHash f.fingerprint && f.fingerprint = fingerprintFor sha256 f) .invalidField

def logicallyEqual (left right : SecurityFinding) : Bool :=
  left.findingType = right.findingType && left.severity = right.severity &&
    left.confidence = right.confidence && left.workspaceId = right.workspaceId &&
    left.namespaceId = right.namespaceId && left.detector = right.detector &&
    left.evidenceRefs = right.evidenceRefs && left.policyDecision = right.policyDecision &&
    left.fingerprint = right.fingerprint

def allowedTransition : FindingStatus → FindingStatus → Bool
  | .open, .acknowledged | .open, .contained | .open, .falsePositive => true
  | .acknowledged, .contained | .acknowledged, .resolved | .acknowledged, .falsePositive => true
  | .contained, .resolved => true
  | _, _ => false

/-! ### A finding -/

def sampleDigest (bytes : List UInt8) : String :=
  Text.checksum (bytes.map UInt8.toNat)

/-- The finding with its fingerprint. -/
def SecurityFinding.stamped (finding : SecurityFinding) : SecurityFinding :=
  { finding with fingerprint := fingerprintFor sampleDigest finding }

def sampleFinding : SecurityFinding := .stamped {
  findingId := "0190a000-0000-7000-8000-000000000001"
  findingType := .secretExposure
  severity := .critical
  confidence := .deterministic
  workspaceId := "w"
  namespaceId := "n"
  detector := "d"
  evidenceRefs := [⟨"0190a000-0000-7000-8000-000000000002", "f", sampleDigest []⟩]
  policyDecision := .deny
  fingerprint := ""
  createdAtMs := 1 }

end Apex.Findings
