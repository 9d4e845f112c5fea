import Apex.Lib.Json
import Apex.Lib.KeyMap
import Apex.Proxy.Lifecycle
import Apex.Proxy.Validation

/-!
The state of the in-memory proxy store, and what its operations share: request
inputs, payload digests, idempotency records and revision construction.

`digest` is the hexadecimal SHA-256 of a text. It is a parameter throughout: the
store only compares digests and checks their shape.
-/

namespace Apex.Proxy

open Checked

/-! ### Requests -/

structure CreateProxy where
  requestId : String
  scope : ExactScope
  proxyId : ProxyId
  displayName : String
  slug : String
  description : Option String
  owner : Option String

structure UpdateProxyDraft where
  requestId : String
  scope : ExactScope
  proxyId : ProxyId
  expectedRevisionId : Option ProxyRevisionId
  actorId : String
  spec : ProxySpec

structure PublishRevision where
  requestId : String
  scope : ExactScope
  proxyId : ProxyId
  draftRevisionId : ProxyRevisionId
  expectedRevisionId : Option ProxyRevisionId
  actorId : String

structure RetireProxy where
  requestId : String
  scope : ExactScope
  proxyId : ProxyId
  expectedRevisionId : Option ProxyRevisionId

structure TransitionProxyLifecycle where
  requestId : String
  scope : ExactScope
  proxyId : ProxyId
  revisionId : ProxyRevisionId
  expectedRevisionId : Option ProxyRevisionId
  actorId : String
  reasonCode : String
  command : LifecycleCommand
  approved : Bool

structure RotateProxyCredentials where
  requestId : String
  scope : ExactScope
  proxyId : ProxyId
  revisionId : ProxyRevisionId
  expectedRevisionId : Option ProxyRevisionId
  actorId : String
  reasonCode : String
  secretRefs : List SecretRef

structure RollbackProxy where
  requestId : String
  scope : ExactScope
  proxyId : ProxyId
  revisionId : ProxyRevisionId
  targetRevisionId : ProxyRevisionId
  expectedRevisionId : Option ProxyRevisionId
  actorId : String
  reasonCode : String

/-! ### Rows -/

/-- A proxy as the store answers with it. -/
structure McpProxy where
  proxyId : ProxyId
  scope : ExactScope
  displayName : String
  slug : String
  description : Option String
  owner : Option String
  lifecycleState : ProxyLifecycleState
  redactionStatus : ProxyRedactionStatus
  activeRevisionId : Option ProxyRevisionId
  draftRevisionId : Option ProxyRevisionId
  spec : Option ProxySpec

structure StoreProxy where
  proxyId : ProxyId
  scope : ExactScope
  displayName : String
  slug : String
  description : Option String
  owner : Option String
  lifecycleState : ProxyLifecycleState
  redactionStatus : ProxyRedactionStatus
  activeRevisionId : Option ProxyRevisionId
  draftRevisionId : Option ProxyRevisionId
  createdAtMicros : Nat

structure StoredRevision where
  revision : McpProxyRevision
  published : Bool

structure IdempotencyRecord where
  requestId : String
  operation : String
  payloadHash : String
  proxyId : String
  revisionId : Option String
  scope : ExactScope

/-- One row of the activity log. -/
structure LifecycleActivity where
  operation : String
  scope : ExactScope
  proxyId : ProxyId
  revisionId : Option ProxyRevisionId
  priorState : Option ProxyLifecycleState
  nextState : ProxyLifecycleState
  actorId : Option String
  reasonCode : String
  status : String
  requestId : String
  occurredAtMicros : Nat

structure StoreState where
  proxies : KeyMap String StoreProxy
  revisions : KeyMap String StoredRevision
  idempotency : KeyMap (String × String) IdempotencyRecord
  transitions : List LifecycleActivity

/-- The store a process starts with. -/
def StoreState.empty : StoreState := ⟨∅, ∅, ∅, []⟩

def createOperation : String := "create"
def updateDraftOperation : String := "update_draft"
def publishOperation : String := "publish_revision"
def retireOperation : String := "retire_proxy"
def rotateOperation : String := "rotate_proxy_credentials"
def rollbackOperation : String := "rollback_proxy"

/-! ### Revision keys -/

/-- `revision_key`: the text a revision is stored under. -/
def revisionKey (proxyId : ProxyId) (revisionId : ProxyRevisionId) : String :=
  proxyId.text ++ ":" ++ revisionId.text

/-- Identifiers have one length, so a key determines both of its parts. -/
theorem revisionKey_inj {p q r t} (same : revisionKey p r = revisionKey q t) : p = q ∧ r = t := by
  have lengths : p.text.toList.length = q.text.toList.length := by
    rw [length_of_isLowercaseUuidV7 p.valid, length_of_isLowercaseUuidV7 q.valid]
  have chars := congrArg String.toList same
  simp only [revisionKey, String.toList_append, List.append_assoc] at chars
  obtain ⟨left, right⟩ := List.append_inj chars lengths
  obtain ⟨-, right⟩ := List.append_inj right rfl
  obtain ⟨ptext, pvalid⟩ := p
  obtain ⟨rtext, rvalid⟩ := r
  have ptexts : ptext = q.text := String.toList_inj.mp left
  have rtexts : rtext = t.text := String.toList_inj.mp right
  subst ptexts rtexts
  exact ⟨rfl, rfl⟩

/-! ### Request checks -/

/-- `validate_request_id`: a lowercase hyphenated UUID of version 7, answered
with the microseconds it carries. Its variant digit is not looked at. -/
def validateRequestId (requestId : String) : Except ProxyError Nat := do
  ensure (isHyphenatedLowerHex requestId.toList && uuidVersionIs7 requestId.toList)
    .invalidRequestId
  return uuidUnixMillis requestId * 1000

def validateScope (scope : ExactScope) : Except ProxyError Unit :=
  ensure (isScopeIdentifier scope.workspaceId && isScopeIdentifier scope.namespaceId)
    .invalidProxyScope

/-- `is_valid_slug`. -/
def isValidSlug (value : String) : Bool :=
  !value.isEmpty && value.utf8ByteSize ≤ maxIdentifierLen &&
    value.toList.all fun c => c.isLower || c.isDigit || c == '-'

/-- `optional_bounded`. -/
def optionalBounded : Option String → Except ProxyError (Option String)
  | none => .ok none
  | some value => do return some (← boundedRequiredString value)

/-- `validate_reason_code`. -/
def validateReasonCode (value : String) : Except ProxyError String := do
  ensure (!value.isEmpty && value.utf8ByteSize ≤ 128 &&
      value.toList.zipIdx.all fun (c, index) =>
        c.isLower || c.isDigit || c == '_' || c == '.' || c == '-' || (0 < index && c == '/'))
    (.invalidProxySpec "Proxy lifecycle reason codes must use bounded lowercase domain values.")
  return value

/-- `validate_create`: the checked display name, description and owner. -/
def validateCreate (input : CreateProxy) :
    Except ProxyError (String × Option String × Option String) := do
  let _ ← validateRequestId input.requestId
  validateScope input.scope
  let displayName ← boundedRequiredString input.displayName
  let description ← optionalBounded input.description
  let owner ← optionalBounded input.owner
  ensure (isValidSlug input.slug)
    (.invalidProxyDraft "Proxy drafts require a non-empty bounded slug.")
  return (displayName, description, owner)

/-! ### Digests -/

def ProxyTransport.toWire : ProxyTransport → Int
  | .streamableHttp => 1
  | .stdio => 2

def ProxyExposure.toWire : ProxyExposure → Int
  | .private => 1
  | .external => 2

def ProxyToolClassification.toWire : ProxyToolClassification → Int
  | .read => 1
  | .businessWrite => 2
  | .highImpact => 3

def ApprovalMode.toWire : ApprovalMode → String
  | .none => "none"
  | .operator => "operator"
  | .dualOperator => "dual-operator"

def DataClassification.toWire : DataClassification → String
  | .public => "public"
  | .internal => "internal"
  | .confidential => "confidential"
  | .restricted => "restricted"

def PrivateDestinationAllowance.toWire : PrivateDestinationAllowance → Int
  | .denied => 1
  | .allowed => 2

def secretRefText (secretRef : Option SecretRef) : String :=
  (secretRef.map SecretRef.reference).getD ""

def secretRefTexts (secretRefs : List SecretRef) : Json :=
  Json.strings (secretRefs.map SecretRef.reference)

/-- `spec_json`: the canonical text of a specification. -/
def specJson (spec : ProxySpec) : String :=
  Json.toText (Json.object [
    ("ingress", Json.object [
      ("transport", .int spec.ingress.transport.toWire),
      ("exposure", .int spec.ingress.exposure.toWire),
      ("host", .str spec.ingress.host),
      ("path", .str spec.ingress.path),
      ("allowed_origins", Json.strings spec.ingress.allowedOrigins),
      ("protocol_revision", .str spec.ingress.protocolRevision),
      ("inbound_authentication_required", .bool spec.ingress.inboundAuthenticationRequired)]),
    ("upstreams", .arr (spec.upstreams.map fun upstream => Json.object [
      ("upstream_id", .str upstream.upstreamId),
      ("display_name", .str upstream.displayName),
      ("transport", .int upstream.transport.toWire),
      ("endpoint_or_command_ref", .str upstream.endpointOrCommandRef),
      ("credential_ref", .str (secretRefText upstream.credentialRef)),
      ("secret_refs", secretRefTexts upstream.secretRefs),
      ("server_identity", .str upstream.serverIdentity),
      ("tool_catalog_hash", .str (upstream.toolCatalogHash.getD ""))])),
    ("exposed_tools", .arr (spec.exposedTools.map fun tool => Json.object [
      ("upstream_id", .str tool.upstreamId),
      ("tool_name", .str tool.toolName),
      ("alias", .str tool.alias),
      ("classification", .int tool.classification.toWire)])),
    ("cli_profiles", .arr (spec.cliProfiles.map fun profile => Json.object [
      ("profile_id", .str profile.profileId),
      ("executable_ref", .str profile.executableRef),
      ("executable_digest", .str profile.executableDigest),
      ("argv_template", Json.strings profile.fixedArgv),
      ("argv_schema", Json.object [("fields", .arr (profile.argvSchema.fields.map fun field =>
        Json.object [("name", .str field.name), ("required", .bool field.required)]))]),
      ("environment_allowlist", Json.strings profile.environmentAllowlist),
      ("secret_refs", secretRefTexts profile.secretRefs),
      ("working_directory", .str profile.workingDirectory),
      ("filesystem_policy", .str profile.filesystemPolicy),
      ("network_policy", .str profile.networkPolicy),
      ("shell", .bool profile.shell),
      ("timeout_ms", .int profile.timeoutMs),
      ("max_output_bytes", .int profile.maxOutputBytes),
      ("allowed_exit_codes", .arr (profile.allowedExitCodes.map .int))])),
    ("auth_bindings", .arr (spec.authBindings.map fun binding => Json.object [
      ("binding_id", .str binding.bindingId),
      ("inbound_subject", .str binding.inboundSubject),
      ("outbound_credential_ref", .str (secretRefText binding.outboundCredentialRef)),
      ("scopes", Json.strings binding.scopes)])),
    ("governance_binding", Json.object [
      ("policy_id", .str spec.governanceBinding.policyId),
      ("approval_mode", .str spec.governanceBinding.approvalMode.toWire),
      ("data_classification", .str spec.governanceBinding.dataClassification.toWire),
      ("rate_limit", .str (toString spec.governanceBinding.rateLimitPerMinute ++ "/m")),
      ("concurrency_limit", .str (toString spec.governanceBinding.concurrencyLimit)),
      ("budget", .str (toString spec.governanceBinding.budgetLimitPerDay ++ "/d")),
      ("retention", .str (toString spec.governanceBinding.retentionDays ++ "d"))]),
    ("runtime_profile", Json.object [
      ("image_digest", .str spec.runtimeProfile.imageDigest),
      ("cpu_limit", .str spec.runtimeProfile.cpuLimit),
      ("memory_limit", .str spec.runtimeProfile.memoryLimit),
      ("network_policy", .str spec.runtimeProfile.networkPolicy),
      ("filesystem_policy", .str spec.runtimeProfile.filesystemPolicy),
      ("rootless", .bool spec.runtimeProfile.rootless),
      ("egress_destinations", .arr (spec.runtimeProfile.network.destinations.map fun destination =>
        Json.object [
          ("host", .str destination.host),
          ("port", .int destination.port),
          ("private_destination_allowance", .int destination.privateAllowance.toWire)]))])])

section Digests

variable (digest : String → String)

/-- The members every payload digest starts with. -/
def requestMembers (requestId : String) (scope : ExactScope) (proxyId : ProxyId) :
    List (String × Json) :=
  [("request_id", .str requestId), ("workspace_id", .str scope.workspaceId),
    ("namespace_id", .str scope.namespaceId), ("proxy_id", .str proxyId.text)]

/-- An optional revision written as its text, or as the empty text. -/
def revisionText (revisionId : Option ProxyRevisionId) : Json :=
  .str ((revisionId.map ProxyRevisionId.text).getD "")

/-- An optional revision written as its text, or as null. -/
def revisionOrNull : Option ProxyRevisionId → Json
  | some revisionId => .str revisionId.text
  | none => .null

def hashJson (members : List (String × Json)) : String :=
  digest (Json.toText (Json.object members))

def createPayloadHash (input : CreateProxy) (displayName : String)
    (description owner : Option String) : String :=
  hashJson digest (requestMembers input.requestId input.scope input.proxyId ++
    [("display_name", .str displayName), ("slug", .str input.slug),
      ("description", .str (description.getD "")), ("owner", .str (owner.getD ""))])

def updatePayloadHash (input : UpdateProxyDraft) (actorId specText : String) : String :=
  hashJson digest (requestMembers input.requestId input.scope input.proxyId ++
    [("expected_revision_id", revisionText input.expectedRevisionId),
      ("actor_id", .str actorId), ("spec", .str specText)])

def publishPayloadHash (input : PublishRevision) (actorId : String) : String :=
  hashJson digest (requestMembers input.requestId input.scope input.proxyId ++
    [("draft_revision_id", .str input.draftRevisionId.text),
      ("expected_revision_id", revisionText input.expectedRevisionId),
      ("actor_id", .str actorId)])

def retirePayloadHash (input : RetireProxy) : String :=
  hashJson digest (requestMembers input.requestId input.scope input.proxyId ++
    [("expected_revision_id", revisionText input.expectedRevisionId)])

def lifecyclePayloadHash (input : TransitionProxyLifecycle) (actorId reasonCode : String) :
    String :=
  hashJson digest (requestMembers input.requestId input.scope input.proxyId ++
    [("revision_id", .str input.revisionId.text),
      ("expected_revision_id", revisionOrNull input.expectedRevisionId),
      ("actor_id", .str actorId), ("reason_code", .str reasonCode),
      ("operation", .str input.command.operation), ("approved", .bool input.approved)])

def rotatePayloadHash (input : RotateProxyCredentials) (actorId : String) : String :=
  hashJson digest (requestMembers input.requestId input.scope input.proxyId ++
    [("revision_id", .str input.revisionId.text),
      ("expected_revision_id", revisionOrNull input.expectedRevisionId),
      ("actor_id", .str actorId), ("reason_code", .str input.reasonCode),
      ("secret_refs", secretRefTexts input.secretRefs)])

def rollbackPayloadHash (input : RollbackProxy) (actorId : String) : String :=
  hashJson digest (requestMembers input.requestId input.scope input.proxyId ++
    [("revision_id", .str input.revisionId.text),
      ("target_revision_id", .str input.targetRevisionId.text),
      ("expected_revision_id", revisionOrNull input.expectedRevisionId),
      ("actor_id", .str actorId), ("reason_code", .str input.reasonCode)])

/-- `civil_from_days`, for days at or after the epoch. -/
def civilFromDays (days : Nat) : Nat × Nat × Nat :=
  let z := days + 719468
  let era := z / 146097
  let doe := z - era * 146097
  let yoe := (doe - doe / 1460 + doe / 36524 - doe / 146096) / 365
  let doy := doe - (365 * yoe + yoe / 4 - yoe / 100)
  let mp := (5 * doy + 2) / 153
  let day := doy - (153 * mp + 2) / 5 + 1
  let month := if mp < 10 then mp + 3 else mp - 9
  (yoe + era * 400 + (if month ≤ 2 then 1 else 0), month, day)

/-- A number in decimal, padded with zeros to `width` digits. -/
def padded (width n : Nat) : String :=
  String.ofList (List.leftpad width '0' (Nat.toDigits 10 n))

/-- `format_rfc3339_micros`. -/
def formatRfc3339Micros (totalMicros : Nat) : String :=
  let secs := totalMicros / 1000000
  let (year, month, day) := civilFromDays (secs / 86400)
  let ofDay := secs % 86400
  padded 4 year ++ "-" ++ padded 2 month ++ "-" ++ padded 2 day ++ "T" ++ padded 2 (ofDay / 3600) ++
    ":" ++ padded 2 (ofDay % 3600 / 60) ++ ":" ++ padded 2 (ofDay % 60) ++ "." ++
    padded 6 (totalMicros % 1000000) ++ "Z"

example : formatRfc3339Micros 1709210096123456 = "2024-02-29T12:34:56.123456Z" := by decide

/-- `build_revision`. -/
def buildRevision (proxyId : ProxyId) (revisionId : ProxyRevisionId) (spec : ProxySpec)
    (createdBy : String) (lifecycleState : ProxyLifecycleState) (createdAtMicros : Nat) :
    Except ProxyError McpProxyRevision := do
  let revision : McpProxyRevision :=
    { proxyId, revisionId, spec, configHash := digest (specJson spec), lifecycleState,
      redactionStatus := .redacted, createdBy, createdAt := formatRfc3339Micros createdAtMicros }
  validateMcpProxyRevision revision
  return revision

/-- A built revision carries the identity and state it was asked for. -/
theorem buildRevision_eq_ok
    {proxyId revisionId spec createdBy lifecycleState createdAtMicros revision}
    (built : buildRevision digest proxyId revisionId spec createdBy lifecycleState createdAtMicros =
      .ok revision) :
    revision.lifecycleState = lifecycleState ∧ revision.revisionId = revisionId := by
  simp only [buildRevision, bind_eq_ok, pure_eq_ok] at built
  obtain ⟨_, _, rfl⟩ := built
  exact ⟨rfl, rfl⟩

end Digests

end Apex.Proxy
