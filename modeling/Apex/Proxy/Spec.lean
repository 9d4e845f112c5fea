import Apex.Identifiers

/-!
Managed proxies: identifiers, lifecycle states, specifications, revisions and
errors.
-/

namespace Apex.Proxy

/-- An error of the proxy service: a stable code and a message. -/
structure ProxyError where
  code : String
  message : String
  deriving DecidableEq, Repr

namespace ProxyError

def invalidProxyDraft (message : String) : ProxyError := ⟨"INVALID_PROXY_DRAFT", message⟩

def invalidProxyScope : ProxyError :=
  ⟨"INVALID_PROXY_SCOPE", "Proxy drafts require an exact workspace and namespace scope."⟩

def invalidProxySpec (message : String) : ProxyError := ⟨"INVALID_PROXY_SPEC", message⟩

def invalidRequestId : ProxyError :=
  ⟨"INVALID_PROXY_REQUEST_ID", "Proxy mutations require a lowercase UUIDv7 request_id."⟩

def idempotencyConflict : ProxyError :=
  ⟨"PROXY_IDEMPOTENCY_CONFLICT",
    "request_id was already used for a different proxy mutation payload."⟩

def identityConflict : ProxyError :=
  ⟨"PROXY_IDENTITY_CONFLICT", "A proxy with this identity already exists in the requested scope."⟩

def revisionConflict : ProxyError :=
  ⟨"PROXY_REVISION_CONFLICT", "The proxy changed since the caller's expected revision."⟩

def proxyNotFound : ProxyError :=
  ⟨"PROXY_NOT_FOUND", "No proxy with that identity exists in the requested scope."⟩

def revisionNotFound : ProxyError :=
  ⟨"PROXY_REVISION_NOT_FOUND",
    "No proxy revision with that identity exists in the requested scope."⟩

def immutableRevision : ProxyError :=
  ⟨"IMMUTABLE_PROXY_REVISION",
    "Published proxy revisions are immutable and cannot be edited in place."⟩

def invalidLifecycleTransition : ProxyError :=
  ⟨"INVALID_PROXY_LIFECYCLE_TRANSITION",
    "The requested proxy lifecycle transition is not allowed."⟩

def approvalRequired : ProxyError :=
  ⟨"PROXY_APPROVAL_REQUIRED", "Proxy deployment requires an approved immutable revision."⟩

def storeUnavailable : ProxyError :=
  ⟨"PROXY_STORE_UNAVAILABLE", "The MCP proxy store failed to process the request."⟩

end ProxyError

/-- A proxy identifier: the text of a lowercase UUIDv7. -/
structure ProxyId where
  text : String
  valid : isLowercaseUuidV7 text = true
  deriving DecidableEq, Repr

/-- A revision identifier: the text of a lowercase UUIDv7. -/
structure ProxyRevisionId where
  text : String
  valid : isLowercaseUuidV7 text = true
  deriving DecidableEq, Repr

/-- `ProxyRevisionId::new`. -/
def ProxyRevisionId.new (value : String) : Except ProxyError ProxyRevisionId :=
  if valid : isLowercaseUuidV7 value = true then .ok ⟨value, valid⟩
  else .error (.invalidProxySpec "Proxy revision identifiers must be lowercase UUIDv7 values.")

/-- The lifecycle of a proxy, and of each of its published revisions. -/
inductive ProxyLifecycleState where
  | draft
  | validating
  | awaitingApproval
  | provisioning
  | ready
  | degraded
  | paused
  | failed
  | retiring
  | retired
  deriving DecidableEq, Repr

inductive ProxyRedactionStatus where
  | redacted
  | partiallyRedacted
  deriving DecidableEq, Repr

inductive ProxyTransport where
  | streamableHttp
  | stdio
  deriving DecidableEq, Repr

inductive ProxyExposure where
  | «private»
  | external
  deriving DecidableEq, Repr

inductive ProxyToolClassification where
  | read
  | businessWrite
  | highImpact
  deriving DecidableEq, Repr

inductive ApprovalMode where
  | none
  | operator
  | dualOperator
  deriving DecidableEq, Repr

inductive DataClassification where
  | «public»
  | internal
  | confidential
  | restricted
  deriving DecidableEq, Repr

inductive PrivateDestinationAllowance where
  | denied
  | allowed
  deriving DecidableEq, Repr

/-- An HTTPS destination the runtime may reach. -/
structure EgressDestination where
  host : String
  port : Nat
  privateAllowance : PrivateDestinationAllowance
  deriving DecidableEq, Repr

structure NetworkPolicy where
  destinations : List EgressDestination
  deriving DecidableEq, Repr

structure Ingress where
  transport : ProxyTransport
  exposure : ProxyExposure
  host : String
  path : String
  allowedOrigins : List String
  protocolRevision : String
  inboundAuthenticationRequired : Bool
  deriving DecidableEq, Repr

structure RuntimeProfile where
  imageDigest : String
  cpuLimit : String
  memoryLimit : String
  networkPolicy : String
  filesystemPolicy : String
  rootless : Bool
  network : NetworkPolicy
  deriving DecidableEq, Repr

/-- A reference to a stored secret. The checks of `SecretRef::new` are made
again by the validator, which is where they are modelled. -/
structure SecretRef where
  reference : String
  deriving DecidableEq, Repr

structure UpstreamBinding where
  upstreamId : String
  displayName : String
  transport : ProxyTransport
  endpointOrCommandRef : String
  credentialRef : Option SecretRef
  secretRefs : List SecretRef
  serverIdentity : String
  toolCatalogHash : Option String
  deriving DecidableEq, Repr

structure ExposedTool where
  upstreamId : String
  toolName : String
  «alias» : String
  classification : ProxyToolClassification
  deriving DecidableEq, Repr

structure ArgSchemaField where
  name : String
  required : Bool
  deriving DecidableEq, Repr

structure ArgSchema where
  fields : List ArgSchemaField
  deriving DecidableEq, Repr

structure CliProfile where
  profileId : String
  executableRef : String
  executableDigest : String
  fixedArgv : List String
  argvSchema : ArgSchema
  workingDirectory : String
  environmentAllowlist : List String
  secretRefs : List SecretRef
  filesystemPolicy : String
  networkPolicy : String
  shell : Bool
  timeoutMs : Nat
  maxOutputBytes : Nat
  allowedExitCodes : List Int
  deriving DecidableEq, Repr

structure AuthBinding where
  bindingId : String
  inboundSubject : String
  outboundCredentialRef : Option SecretRef
  scopes : List String
  deriving DecidableEq, Repr

structure GovernanceBinding where
  policyId : String
  approvalMode : ApprovalMode
  dataClassification : DataClassification
  rateLimitPerMinute : Nat
  concurrencyLimit : Nat
  budgetLimitPerDay : Nat
  retentionDays : Nat
  deriving DecidableEq, Repr

structure ProxySpec where
  ingress : Ingress
  upstreams : List UpstreamBinding
  exposedTools : List ExposedTool
  cliProfiles : List CliProfile
  authBindings : List AuthBinding
  governanceBinding : GovernanceBinding
  runtimeProfile : RuntimeProfile
  deriving DecidableEq, Repr

/-- One revision of a proxy's specification. -/
structure McpProxyRevision where
  proxyId : ProxyId
  revisionId : ProxyRevisionId
  spec : ProxySpec
  configHash : String
  lifecycleState : ProxyLifecycleState
  redactionStatus : ProxyRedactionStatus
  createdBy : String
  createdAt : String
  deriving DecidableEq, Repr

end Apex.Proxy
