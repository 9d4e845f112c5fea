import Apex.Lib.Checked
import Apex.Lib.Net
import Apex.Proxy.Spec

/-!
The control plane's validator of proxy specifications.

Each function is the chain of checks of the source function of the same name,
in its order and with its errors.
-/

namespace Apex.Proxy

open Checked

def maxIdentifierLen : Nat := 128
def maxEndpointLen : Nat := 512
def maxStringLen : Nat := 512
def maxCollectionLimit : Nat := 1000000
def maxUpstreams : Nat := 64
def maxExposedTools : Nat := 256
def maxCliProfiles : Nat := 32
def maxAuthBindings : Nat := 32
def maxDestinations : Nat := 64
def maxAllowedOrigins : Nat := 32
def maxScopes : Nat := 64
def maxSecretRefs : Nat := 32
def maxArgv : Nat := 64
def maxArgSchemaFields : Nat := 64
def maxEnvironmentEntries : Nat := 64
def maxExitCodes : Nat := 32
def maxTimeoutMs : Nat := 300000
def maxOutputBytesLimit : Nat := 16 * 1024 * 1024
def maxConfigHashLen : Nat := 64

/-! ### Strings and hosts -/

/-- A non-empty text of at most `limit` bytes without control characters. -/
def isBoundedText (limit : Nat) (value : String) : Bool :=
  !value.isEmpty && value.utf8ByteSize ≤ limit && !value.toList.any Text.isControl

def fieldError : String :=
  "Proxy configuration contains an empty, invalid, or unbounded string field."

def validateIdentifier (value : String) : Except ProxyError Unit :=
  ensure (isBoundedText maxIdentifierLen value && isScopeIdentifier value)
    (.invalidProxySpec fieldError)

def validateRequiredString (value : String) : Except ProxyError Unit :=
  ensure (isBoundedText maxStringLen value) (.invalidProxySpec fieldError)

def validateEndpoint (value : String) : Except ProxyError Unit :=
  ensure (isBoundedText maxEndpointLen value) (.invalidProxySpec fieldError)

/-- `bounded_required_string`: the same bound as `validateRequiredString`, with
the message of the conversion layer. -/
def boundedRequiredString (value : String) : Except ProxyError String := do
  ensure (isBoundedText maxStringLen value)
    (.invalidProxySpec "Proxy configuration contains an unbounded string field.")
  return value

/-- `is_dns_hostname`. -/
def isDnsHostname (value : List Char) : Bool :=
  (String.ofList value).utf8ByteSize ≤ 253 &&
    (Text.splitAt '.' value).all fun label =>
      !label.isEmpty && (String.ofList label).utf8ByteSize ≤ 63 &&
        label.all (fun c => c.isAlphanum || c == '-') &&
        label.head?.any Char.isAlphanum && label.getLast?.any Char.isAlphanum

/-- The host without surrounding square brackets. -/
def normalizedHost (value : String) : List Char :=
  Text.trimMatches (fun c => c == '[' || c == ']') value.toList

/-- `validate_host`. -/
def validateHost (value : String) : Except ProxyError Unit :=
  let normalized := normalizedHost value
  ensure
    (!normalized.isEmpty && value.utf8ByteSize ≤ maxEndpointLen &&
      !Text.infixOf "://".toList normalized && !normalized.contains '/' &&
      !normalized.any Text.isWhitespace &&
      ((Net.parse normalized).isSome || isDnsHostname normalized))
    (.invalidProxySpec "Proxy hosts require a bounded host reference.")

/-- 64 lowercase hexadecimal digits. -/
def isHexHash (value : List Char) : Bool :=
  value.length == maxConfigHashLen && value.all Text.isLowerHex

def validateHexHash (value message : String) : Except ProxyError Unit :=
  ensure (isHexHash value.toList) (.invalidProxySpec message)

def validateSha256Digest (value message : String) : Except ProxyError Unit :=
  ensure ("sha256:".toList.isPrefixOf value.toList && isHexHash (value.toList.drop 7))
    (.invalidProxySpec message)

/-- `validate_collection`: `message` is the text the source's table gives for the
collection's name. -/
def validateCollection (actual maximum : Nat) (code message : String) : Except ProxyError Unit :=
  ensure (actual ≤ maximum) ⟨code, message⟩

/-- The message of every collection without one of its own. -/
def collectionMessage : String :=
  "Proxy specification collection exceeds its bounded size."

def validateSecretRef (secretRef : SecretRef) : Except ProxyError Unit :=
  ensure (secretRef.reference.utf8ByteSize ≤ maxEndpointLen &&
      Text.startsWith secretRef.reference "secret://" &&
      !secretRef.reference.toList.any Text.isControl)
    (.invalidProxySpec "Proxy credentials must use bounded SecretRef references.")

/-! ### Network destinations -/

def isPrivateIpv4 (bits : Nat) : Bool :=
  -- is_private, is_loopback, is_link_local, is_broadcast, is_documentation
  Net.inBlock 32 0x0a000000 8 bits || Net.inBlock 32 0xac100000 12 bits ||
    Net.inBlock 32 0xc0a80000 16 bits || Net.inBlock 32 0x7f000000 8 bits ||
    Net.inBlock 32 0xa9fe0000 16 bits || bits == 0xffffffff ||
    Net.inBlock 32 0xc0000200 24 bits || Net.inBlock 32 0xc6336400 24 bits ||
    Net.inBlock 32 0xcb007100 24 bits

def isPrivateIpv6 (bits : Nat) : Bool :=
  -- is_loopback, is_unique_local, is_unicast_link_local
  bits == 1 || Net.inBlock 128 (0xfc00 * 2 ^ 112) 7 bits ||
    Net.inBlock 128 (0xfe80 * 2 ^ 112) 10 bits

/-- `is_private_host`. -/
def isPrivateHost (value : String) : Bool :=
  let normalized := normalizedHost value
  let lowercase := Text.toAsciiLower normalized
  lowercase == "localhost".toList || lowercase == "host.docker.internal".toList ||
    ".internal".toList.isSuffixOf lowercase || ".local".toList.isSuffixOf lowercase ||
    match Net.parse normalized with
    | some (.v4 bits) => isPrivateIpv4 bits
    | some (.v6 bits) => isPrivateIpv6 bits
    | none => false

/-- `validate_destination`. -/
def validateDestination (destination : EgressDestination) : Except ProxyError Unit := do
  validateHost destination.host
  ensure (destination.port != 0)
    (.invalidProxySpec "Proxy egress destinations require a valid port.")
  ensure (!isPrivateHost destination.host || destination.privateAllowance == .allowed)
    ⟨"PRIVATE_DESTINATION_REQUIRES_ALLOW_RULE",
      "Private network destinations require an explicit server-side allow rule."⟩

/-! ### The parts of a specification -/

/-- `validate_ingress`. -/
def validateIngress (ingress : Ingress) : Except ProxyError Unit := do
  validateHost ingress.host
  validateRequiredString ingress.path
  validateCollection ingress.allowedOrigins.length maxAllowedOrigins "TOO_MANY_ALLOWED_ORIGINS"
    collectionMessage
  forM ingress.allowedOrigins validateEndpoint
  validateRequiredString ingress.protocolRevision

/-- `validate_upstream`. -/
def validateUpstream (upstream : UpstreamBinding) : Except ProxyError Unit := do
  validateIdentifier upstream.upstreamId
  validateRequiredString upstream.displayName
  validateEndpoint upstream.endpointOrCommandRef
  let credential ← require upstream.credentialRef
    ⟨"MISSING_CREDENTIAL_REFERENCE", "Each upstream binding must reference a stored credential."⟩
  validateSecretRef credential
  validateCollection upstream.secretRefs.length maxSecretRefs "TOO_MANY_SECRET_REFS"
    collectionMessage
  forM upstream.secretRefs validateSecretRef
  validateRequiredString upstream.serverIdentity
  match upstream.toolCatalogHash with
  | some hash => validateHexHash hash "Proxy upstream hashes must be lowercase SHA-256 values."
  | none => return

/-- `validate_exposed_tool`. -/
def validateExposedTool (upstreamIds : List String) (tool : ExposedTool) :
    Except ProxyError Unit := do
  validateIdentifier tool.upstreamId
  validateIdentifier tool.toolName
  validateIdentifier tool.alias
  ensure (upstreamIds.contains tool.upstreamId)
    (.invalidProxySpec "Proxy tool exposure must bind to a declared upstream.")
  ensure (tool.toolName != "portfolio.read" || tool.classification == .read)
    (.invalidProxySpec "The portfolio.read acceptance slice must remain read-only.")

/-- `validate_cli_profile`. -/
def validateCliProfile (profile : CliProfile) : Except ProxyError Unit := do
  validateIdentifier profile.profileId
  validateEndpoint profile.executableRef
  validateSha256Digest profile.executableDigest
    "CLI executable digests must be lowercase SHA-256 values."
  validateCollection profile.fixedArgv.length maxArgv "TOO_MANY_CLI_ARGV_ENTRIES" collectionMessage
  forM profile.fixedArgv validateRequiredString
  validateCollection profile.argvSchema.fields.length maxArgSchemaFields
    "TOO_MANY_CLI_ARG_SCHEMA_FIELDS" collectionMessage
  forM profile.argvSchema.fields fun field => validateIdentifier field.name
  validateEndpoint profile.workingDirectory
  validateCollection profile.environmentAllowlist.length maxEnvironmentEntries
    "TOO_MANY_CLI_ENVIRONMENT_ENTRIES" collectionMessage
  forM profile.environmentAllowlist validateIdentifier
  validateCollection profile.secretRefs.length maxSecretRefs "TOO_MANY_SECRET_REFS"
    collectionMessage
  forM profile.secretRefs validateSecretRef
  validateRequiredString profile.filesystemPolicy
  validateRequiredString profile.networkPolicy
  ensure (!profile.shell)
    ⟨"CLI_SHELL_DISABLED_REQUIRED", "CLI profiles must disable shell interpretation."⟩
  ensure (profile.timeoutMs != 0 && profile.timeoutMs ≤ maxTimeoutMs)
    ⟨"CLI_TIMEOUT_REQUIRED", "CLI profiles require a bounded timeout."⟩
  ensure (profile.maxOutputBytes != 0 && profile.maxOutputBytes ≤ maxOutputBytesLimit)
    ⟨"CLI_MAX_OUTPUT_REQUIRED", "CLI profiles require a bounded output limit."⟩
  validateCollection profile.allowedExitCodes.length maxExitCodes "TOO_MANY_CLI_EXIT_CODES"
    collectionMessage
  forM profile.allowedExitCodes fun code => ensure (-128 ≤ code && code ≤ 255)
    (ProxyError.invalidProxySpec "CLI allowed exit codes must be bounded process exit codes.")

/-- `validate_auth_binding`. -/
def validateAuthBinding (binding : AuthBinding) : Except ProxyError Unit := do
  validateIdentifier binding.bindingId
  validateRequiredString binding.inboundSubject
  let credential ← require binding.outboundCredentialRef
    ⟨"MISSING_CREDENTIAL_REFERENCE", "Auth bindings must reference a stored outbound credential."⟩
  validateSecretRef credential
  validateCollection binding.scopes.length maxScopes "TOO_MANY_AUTH_SCOPES" collectionMessage
  forM binding.scopes validateIdentifier

/-- A governance limit: positive and at most `maximum`. -/
def validateLimit (value maximum : Nat) (message : String) : Except ProxyError Unit :=
  ensure (value != 0 && value ≤ maximum) (.invalidProxySpec message)

/-- `validate_governance`. -/
def validateGovernance (governance : GovernanceBinding) : Except ProxyError Unit := do
  validateIdentifier governance.policyId
  validateLimit governance.rateLimitPerMinute maxCollectionLimit
    "Governance rate limits must be positive and bounded."
  validateLimit governance.concurrencyLimit maxCollectionLimit
    "Governance concurrency limits must be positive and bounded."
  validateLimit governance.budgetLimitPerDay maxCollectionLimit
    "Governance budget limits must be positive and bounded."
  validateLimit governance.retentionDays 3650 "Governance retention must be positive and bounded."

/-- `validate_runtime`. -/
def validateRuntime (runtime : RuntimeProfile) : Except ProxyError Unit := do
  validateSha256Digest runtime.imageDigest "Proxy runtime images require lowercase SHA-256 digests."
  validateRequiredString runtime.cpuLimit
  validateRequiredString runtime.memoryLimit
  validateRequiredString runtime.networkPolicy
  validateRequiredString runtime.filesystemPolicy
  validateCollection runtime.network.destinations.length maxDestinations
    "TOO_MANY_EGRESS_DESTINATIONS" collectionMessage
  ensure (!runtime.network.destinations.isEmpty)
    ⟨"MISSING_EGRESS_DESTINATIONS", "Proxy runtime profiles require explicit egress destinations."⟩
  forM runtime.network.destinations validateDestination

/-- `validate_proxy_spec`. -/
def validateProxySpec (spec : ProxySpec) : Except ProxyError Unit := do
  validateIngress spec.ingress
  validateCollection spec.upstreams.length maxUpstreams "TOO_MANY_UPSTREAMS"
    "Proxy specifications contain too many upstream bindings."
  validateCollection spec.exposedTools.length maxExposedTools "TOO_MANY_EXPOSED_TOOLS"
    "Proxy specifications contain too many exposed tools."
  validateCollection spec.cliProfiles.length maxCliProfiles "TOO_MANY_CLI_PROFILES"
    "Proxy specifications contain too many CLI profiles."
  validateCollection spec.authBindings.length maxAuthBindings "TOO_MANY_AUTH_BINDINGS"
    "Proxy specifications contain too many auth bindings."
  ensure (!spec.upstreams.isEmpty)
    (.invalidProxySpec "Proxy configuration requires at least one upstream binding.")
  ensure (!spec.exposedTools.isEmpty)
    ⟨"EMPTY_TOOL_ALLOWLIST", "Proxy revisions must explicitly expose at least one tool."⟩
  distinctEach UpstreamBinding.upstreamId validateUpstream
    (.invalidProxySpec "Proxy upstream identifiers must be unique.") [] spec.upstreams
  distinctEach ExposedTool.alias
    (validateExposedTool (spec.upstreams.map UpstreamBinding.upstreamId))
    (.invalidProxySpec "Proxy tool aliases must be unique.") [] spec.exposedTools
  forM spec.cliProfiles validateCliProfile
  forM spec.authBindings validateAuthBinding
  validateGovernance spec.governanceBinding
  validateRuntime spec.runtimeProfile

/-- `validate_mcp_proxy_revision`. -/
def validateMcpProxyRevision (revision : McpProxyRevision) : Except ProxyError Unit := do
  validateProxySpec revision.spec
  validateHexHash revision.configHash "Proxy revisions require a lowercase SHA-256 config hash."

/-- `validate_publish_capabilities`: the staged read-only execution path. -/
def validatePublishCapabilities (spec : ProxySpec) : Except ProxyError Unit :=
  let ingress := spec.ingress
  let runtime := spec.runtimeProfile
  ensure
    (ingress.transport == .streamableHttp && ingress.protocolRevision == "2025-11-25" &&
      ingress.inboundAuthenticationRequired &&
      spec.upstreams.all (fun upstream => upstream.transport == .streamableHttp) &&
      spec.cliProfiles.isEmpty &&
      spec.exposedTools.all (fun tool => tool.toolName == "portfolio.read" &&
        tool.alias == "portfolio.read" && tool.classification == .read) &&
      spec.governanceBinding.approvalMode == .none && runtime.rootless &&
      runtime.filesystemPolicy == "read-only-rootfs" && runtime.networkPolicy == "default-deny")
    (.invalidProxySpec ("Publication supports only authenticated Streamable HTTP 2025-11-25, " ++
      "read-only portfolio.read without CLI or approvals, and confined runtime policies."))

end Apex.Proxy
