import Rstream.WebTTY.PayloadCipher

/-!
# Server trust of a client

How `cmd/webtty.go` decides which server keys a client encrypts for: keys given
by the user, the server the control plane resolves, and the known-server store.
Files, the control plane and the keys of workspace devices are parameters.
-/

namespace Rstream.WebTTY

open Rstream.Core Go

section Types

/-- `webTTYKnownServerSource`. -/
structure KnownServerSource where
  recipient : E2ERecipient
  endpointIdentity : Option EndpointIdentity
  name : String
  clientIdentity : String
  deriving DecidableEq, Repr

/-- `KnownServerKeyEntry`, as far as it is read. -/
structure KnownServerKeyEntry where
  name : String
  keyID : String
  publicKey : String
  signingKeyID : String
  signingPublicKey : String
  clientIdentity : String
  deriving DecidableEq, Repr

/-- `webTTYClientSecurityScope`. -/
structure ClientSecurityScope where
  target : String
  hostKeyID : String
  e2eRequired : Bool
  clientProofRequired : Bool
  deriving DecidableEq, Repr

/-- `ServerInfo`, as far as it is read. -/
structure ServerInfo where
  target : String
  hostKeyID : Option String
  e2e : Option String
  clientProof : Option String
  deriving DecidableEq, Repr

/-- `WebTTYEndpointIdentity`; `signing` is the signing half. -/
structure LocalIdentity where
  encryption : E2EIdentity
  signing : Bytes
  deriving DecidableEq, Repr

/-- `webTTYClientCryptoConfig`. -/
structure ClientCryptoConfig where
  payloadCrypto : Option PayloadCipher
  endpointIdentity : Option LocalIdentity
  expectedServerIdentity : Option EndpointIdentity
  clientCredential : Bytes
  clientIdentityName : String
  e2eRequired : Bool
  clientProofRequired : Bool
  deriving DecidableEq, Repr

/-- The zero `webTTYClientCryptoConfig`. -/
def ClientCryptoConfig.plain : ClientCryptoConfig := ⟨none, none, none, [], "", false, false⟩

/-- What the control plane says of a server, as far as it is read. -/
structure ResolvedServer where
  e2eRequired : Bool
  serverEndpointIdentity : Option String
  encryptionPolicy : String
  /-- The key ID of the current device. -/
  currentDevice : Option String
  deriving DecidableEq, Repr

/-- A failed call to the control plane. -/
structure ControlPlaneError where
  isForbidden : Bool
  /-- The error after `mapControlPlaneError`. -/
  mapped : Error
  deriving DecidableEq, Repr

/-- `webTTYClientRuntimeE2EContext`, with the device files that are read along the way. -/
structure RuntimeE2EContext (Proof Device : Type) where
  workspaceID : String
  projectID : String
  serverID : String
  /-- `ResolveWebTTYServerClient`. -/
  resolve : List Proof → Except ControlPlaneError ResolvedServer
  /-- `workspaceDeviceAccessProofsWithDevices`. -/
  accessProofs : String → Except Error (List (Proof × Device))
  deviceKeyID : Device → String
  /-- `loadWorkspaceDeviceWebTTYIdentity`. -/
  deviceIdentity : Device → Except Error E2EIdentity
  /-- `workspaceDeviceWebTTYEndpointIdentity`. -/
  deviceEndpointIdentity : Device → Except Error LocalIdentity
  /-- `webTTYWorkspaceClientCredential`. -/
  clientCredential : Device → ResolvedServer → Except Error Bytes

/-- The build, the files and the libraries of a client. -/
structure ClientEnvironment (Pub Priv R : Type) where
  primitives : E2EPrimitives Pub Priv R
  profile : Profile
  draws : ClientDraws R
  requireFIPSWebTTYRuntime : Except Error Unit
  webTTYSigningKeyID : Bytes → Bytes
  /-- `ParseWebTTYSigningPublicKey`, without the key. -/
  parseWebTTYSigningPublicKey : Bytes → Except Error Unit
  /-- The representative of a character under the folding of `strings.EqualFold`. -/
  fold : Char → Char
  defaultKnownServerKeysPath : Except Error String
  /-- `ReadKnownServerKeysFile`; nothing if the file does not exist. -/
  readKnownServerKeysFile : String → Except Error (Option (List KnownServerKeyEntry))
  /-- `webTTYClientEndpointIdentityByName`. -/
  clientEndpointIdentityByName : String → Except Error LocalIdentity

end Types

section Parsing

variable {Pub Priv R : Type} (env : ClientEnvironment Pub Priv R)

/-- `strings.EqualFold`. -/
def ClientEnvironment.equalFold (s t : String) : Bool :=
  s.toList.map env.fold == t.toList.map env.fold

/-- `DecodeE2EKeyMaterial`; a size of zero is any size. -/
def decodeE2EKeyMaterial (value : String) (expectedSize : Nat) (field : String) :
    Except Error Bytes := do
  let value := trimSpace value
  failIf (value = "") (newError (field ++ " is empty"))
  match rawURLDecode value with
  | none => .error (newError ("decode " ++ field ++ ": illegal base64 data"))
  | some data =>
    failIf (expectedSize > 0 ∧ data.length ≠ expectedSize)
      (newError s!"{field} must decode to {expectedSize} bytes")
    failIf (rawURLEncode data ≠ value)
      (newError (field ++ " must be canonical base64url without padding"))
    return data

def e2eRecipientFromPublicKey (publicKey : Bytes) : Except Error E2ERecipient := do
  let suite ← inferE2EKeyEnvelopeSuite env.profile publicKey
  return ⟨"", "", suite, e2eKeyID env.primitives publicKey, publicKey⟩

/-- `strings.Split` at colons. -/
def splitColon (s : String) : List String := (s.toList.splitOn ':').map String.ofList

def parseKnownServerKey (value : String) : Except Error E2ERecipient := do
  let value := trimSpace value
  failIf (value = "") (newError "known WebTTY server key is empty")
  match splitColon value with
  | [publicKey] =>
    let publicKey ← decodeE2EKeyMaterial publicKey 0 "known WebTTY server public key"
    e2eRecipientFromPublicKey env publicKey
  | [keyID, publicKey] =>
    let keyID ← decodeE2EKeyMaterial keyID 16 "known WebTTY server key id"
    let publicKey ← decodeE2EKeyMaterial publicKey 0 "known WebTTY server public key"
    failIf (keyID ≠ e2eKeyID env.primitives publicKey)
      (newError "known WebTTY server key id does not match public key")
    let recipient ← e2eRecipientFromPublicKey env publicKey
    return { recipient with keyID }
  | _ => .error (newError "known WebTTY server key must be public_key or key_id:public_key")

def parseKnownServerEndpointIdentity (value : String) : Except Error EndpointIdentity := do
  let value := trimSpace value
  failIf (value = "") (newError "known WebTTY server endpoint identity is empty")
  match splitColon value with
  | [keyID, publicKey, signingKeyID, signingPublicKey] =>
    let encryption ← parseKnownServerKey env (keyID ++ ":" ++ publicKey)
    let signingKeyID ← decodeE2EKeyMaterial signingKeyID 32 "known WebTTY server signing key id"
    let signingPublicKey ←
      decodeE2EKeyMaterial signingPublicKey 0 "known WebTTY server signing public key"
    withContext "known WebTTY server signing public key is invalid: "
      (env.parseWebTTYSigningPublicKey signingPublicKey)
    failIf (signingKeyID ≠ env.webTTYSigningKeyID signingPublicKey)
      (newError "known WebTTY server signing key id does not match public key")
    return ⟨encryption.keyEnvelopeSuite, encryption.keyID, encryption.publicKey, signingKeyID,
      signingPublicKey⟩
  | _ => .error (newError ("known WebTTY server endpoint identity must be " ++
    "encryption_key_id:encryption_public_key:signing_key_id:signing_public_key"))

def webTTYKnownServerSourceFromEntry (entry : KnownServerKeyEntry) :
    Except Error KnownServerSource := do
  let sourceName := trimSpace entry.name
  let clientIdentity := trimSpace entry.clientIdentity
  if trimSpace entry.signingKeyID ≠ "" ∨ trimSpace entry.signingPublicKey ≠ "" then
    let identity ← parseKnownServerEndpointIdentity env
      (":".intercalate [entry.keyID, entry.publicKey, entry.signingKeyID, entry.signingPublicKey])
    return ⟨⟨sourceName, "server", identity.keyEnvelopeSuite, identity.encryptionKeyID,
      identity.encryptionPublicKey⟩, some identity, sourceName, clientIdentity⟩
  else
    let recipient ← parseKnownServerKey env (entry.keyID ++ ":" ++ entry.publicKey)
    return ⟨{ recipient with id := sourceName, kind := "server" }, none, sourceName, clientIdentity⟩

/-- The loop of `webTTYDefaultKnownServerSources`, from the given index on. -/
def sourcesFromEntries : Nat → List KnownServerKeyEntry → Except Error (List KnownServerSource)
  | _, [] => .ok []
  | i, entry :: entries => do
    let source ← withContext s!"decode known WebTTY server {i}: "
      (webTTYKnownServerSourceFromEntry env entry)
    let sources ← sourcesFromEntries (i + 1) entries
    return source :: sources

def webTTYDefaultKnownServerSources : Except Error (List KnownServerSource) := do
  let path ← env.defaultKnownServerKeysPath
  match ← env.readKnownServerKeysFile path with
  | none => return []
  | some entries => sourcesFromEntries env 0 entries

def webTTYFilterKnownServerSourcesForScope (sources : List KnownServerSource)
    (scope : ClientSecurityScope) : Except Error (List KnownServerSource) :=
  let target := trimSpace scope.target
  let hostKeyID := trimSpace scope.hostKeyID
  if target = "" ∧ hostKeyID = "" then .ok sources
  else
    let targetMatches := sources.filter fun source =>
      target != "" && env.equalFold (trimSpace source.name) target
    let hasHostKey (source : KnownServerSource) : Bool :=
      rawURLEncode source.recipient.keyID == hostKeyID
    if hostKeyID = "" then .ok targetMatches
    else if targetMatches = [] then .ok (sources.filter hasHostKey)
    else match targetMatches.filter hasHostKey with
      | [] => .error (newError
        s!"known WebTTY server {target} does not match advertised host key {hostKeyID}")
      | filtered => .ok filtered

def webTTYDefaultKnownServerSourcesForScope (scope : ClientSecurityScope) :
    Except Error (List KnownServerSource) := do
  let sources ← webTTYDefaultKnownServerSources env
  webTTYFilterKnownServerSourcesForScope env sources scope

def webTTYEndpointIdentitiesEqual (first second : EndpointIdentity) : Bool :=
  first.encryptionKeyID == second.encryptionKeyID &&
    first.encryptionPublicKey == second.encryptionPublicKey &&
    first.signingKeyID == second.signingKeyID && first.signingPublicKey == second.signingPublicKey

/-- `webTTYKnownServerSourcesForScope`, with an expected identity. -/
def webTTYKnownServerSourcesForScope (scope : ClientSecurityScope) (expected : EndpointIdentity) :
    Except Error (List KnownServerSource) := do
  let sources ← webTTYDefaultKnownServerSources env
  if sources = [] then return []
  else
    let named ← webTTYFilterKnownServerSourcesForScope env sources scope
    if named ≠ [] then return named
    else return sources.filter fun source =>
      source.endpointIdentity.any (webTTYEndpointIdentitiesEqual · expected)

/-- `webTTYClientIdentityNameFromKnownSources`, with the name found so far. -/
def webTTYClientIdentityNameFromKnownSources (value : String) :
    List KnownServerSource → Except Error String
  | [] => .ok value
  | source :: sources =>
    let clientIdentity := trimSpace source.clientIdentity
    if clientIdentity = "" then webTTYClientIdentityNameFromKnownSources value sources
    else if value ≠ "" ∧ value ≠ clientIdentity then
      .error (newError "multiple WebTTY client identities are associated with this known server")
    else webTTYClientIdentityNameFromKnownSources clientIdentity sources

def webTTYRuntimeKnownServerClientIdentity (scope : ClientSecurityScope)
    (serverIdentity : EndpointIdentity) : Except Error String := do
  let found ← webTTYKnownServerSourcesForScope env scope serverIdentity
  webTTYClientIdentityNameFromKnownSources "" found

/-- `webTTYExpectedServerIdentityFromKnownSources`, with the identity found so far. -/
def webTTYExpectedServerIdentityFromKnownSources (expected : Option EndpointIdentity) :
    List KnownServerSource → Except Error (Option EndpointIdentity)
  | [] => .ok expected
  | source :: sources =>
    match source.endpointIdentity with
    | none => webTTYExpectedServerIdentityFromKnownSources expected sources
    | some identity =>
      if expected.isSome then
        .error (newError ("multiple known WebTTY server endpoint identities are configured; pass " ++
          "exactly one endpoint identity for authenticated E2E"))
      else webTTYExpectedServerIdentityFromKnownSources (some identity) sources

def appendWebTTYE2ERecipient (serverKeys : List E2ERecipient) (next : E2ERecipient)
    (label : String) : Except Error (List E2ERecipient) :=
  match serverKeys.find? (·.keyID = next.keyID) with
  | none => .ok (serverKeys ++ [next])
  | some existing =>
    if existing.publicKey ≠ next.publicKey then
      .error (newError
        s!"conflicting {label} public keys for key id {rawURLEncode next.keyID}")
    else .ok serverKeys

/-- Append the recipients of the sources by `appendWebTTYE2EServerKey`. -/
def appendWebTTYE2EServerKeys (serverKeys : List E2ERecipient) :
    List KnownServerSource → Except Error (List E2ERecipient)
  | [] => .ok serverKeys
  | source :: sources => do
    let serverKeys ← appendWebTTYE2ERecipient serverKeys source.recipient "known WebTTY server"
    appendWebTTYE2EServerKeys serverKeys sources

def appendWebTTYE2EClientEndpointRecipient (recipients : List E2ERecipient)
    (identity : LocalIdentity) : Except Error (List E2ERecipient) :=
  appendWebTTYE2ERecipient recipients
    ⟨rawURLEncode identity.encryption.keyID, "public_key", identity.encryption.keyEnvelopeSuite,
      identity.encryption.keyID, identity.encryption.publicKey⟩ "WebTTY client identity"

end Parsing

section Runtime

variable {Pub Priv R Proof Device : Type} (env : ClientEnvironment Pub Priv R)
  (runtimeE2E : RuntimeE2EContext Proof Device)

def workspaceDeviceEnrollmentHint (workspaceID : String) : String :=
  if trimSpace workspaceID = "" then
    "run rstream workspace device enroll from an active project context, approve the " ++
    "verification code from a trusted browser, then run rstream workspace device status"
  else
    s!"run rstream workspace device enroll from an active project context, or run rstream " ++
    s!"workspace device enroll --workspace {trimSpace workspaceID}; approve the verification " ++
    "code from a trusted browser, then run rstream workspace device status"

/-- The error for a machine that the workspace does not trust. -/
def untrustedDeviceError (workspaceID : String) : Error :=
  newError ("workspace-managed WebTTY E2E requires this machine to be a trusted workspace device; " ++
    workspaceDeviceEnrollmentHint workspaceID)

def webTTYCurrentWorkspaceDeviceRecipient (resolved : ResolvedServer) (deviceKeyID : String)
    (devices : List Device) : Except Error (E2ERecipient × LocalIdentity × Bytes) :=
  match devices.find? (runtimeE2E.deviceKeyID · == deviceKeyID) with
  | none => .error (newError s!"trusted workspace device {deviceKeyID} was not found locally")
  | some device => do
    let identity ← runtimeE2E.deviceIdentity device
    let endpointIdentity ← runtimeE2E.deviceEndpointIdentity device
    let credential ← runtimeE2E.clientCredential device resolved
    return (⟨runtimeE2E.deviceKeyID device, "workspace_device", identity.keyEnvelopeSuite,
      identity.keyID, identity.publicKey⟩, endpointIdentity, credential)

/-- What `webTTYClientRuntimeE2EServerSources` returns. -/
structure RuntimeSources where
  sources : List KnownServerSource
  endpointIdentity : Option LocalIdentity
  clientCredential : Bytes
  e2eRequired : Bool

/-- The key of the server that the control plane resolved. -/
def runtimeServerKey (serverIdentity : EndpointIdentity) : E2ERecipient :=
  ⟨runtimeE2E.serverID, "server", serverIdentity.keyEnvelopeSuite, serverIdentity.encryptionKeyID,
    serverIdentity.encryptionPublicKey⟩

/-- The call to the control plane, with the devices whose proofs it was sent. -/
def resolveRuntimeServer : Except Error (ResolvedServer × List Device) := do
  let workspaceID := trimSpace runtimeE2E.workspaceID
  let proofItems ← (if workspaceID ≠ "" then runtimeE2E.accessProofs workspaceID else .ok [])
  match runtimeE2E.resolve (proofItems.map (·.1)) with
  | .ok resolved => return (resolved, proofItems.map (·.2))
  | .error err =>
    if err.isForbidden = true ∧ workspaceID ≠ "" then .error (untrustedDeviceError workspaceID)
    else .error err.mapped

def webTTYClientRuntimeE2EServerSources : Except Error RuntimeSources := do
  let workspaceID := trimSpace runtimeE2E.workspaceID
  let (resolved, localDevices) ← resolveRuntimeServer runtimeE2E
  if resolved.e2eRequired = false then return ⟨[], none, [], false⟩
  else
    let endpointIdentity := resolved.serverEndpointIdentity.getD ""
    failIf (trimSpace endpointIdentity = "") (newError
      (s!"persistent WebTTY server {runtimeE2E.serverID} requires E2E but has no authenticated " ++
        "server identity"))
    let serverIdentity ← withContext "invalid persistent WebTTY server endpoint identity: "
      (parseKnownServerEndpointIdentity env endpointIdentity)
    let server : KnownServerSource :=
      ⟨runtimeServerKey runtimeE2E serverIdentity, some serverIdentity, "", ""⟩
    let deviceKeyID := resolved.currentDevice.getD ""
    failIf (resolved.encryptionPolicy = "workspace_managed" ∧ trimSpace deviceKeyID = "")
      (untrustedDeviceError workspaceID)
    if trimSpace deviceKeyID = "" then return ⟨[server], none, [], true⟩
    else
      let (recipient, identity, credential) ←
        webTTYCurrentWorkspaceDeviceRecipient runtimeE2E resolved deviceKeyID localDevices
      return ⟨[server, ⟨recipient, none, "", ""⟩], some identity, credential, true⟩

end Runtime

section Crypto

variable {Pub Priv R Proof Device : Type} (env : ClientEnvironment Pub Priv R)

def webTTYClientSecurityScopeFromServerInfo (target : String) :
    Option ServerInfo → ClientSecurityScope
  | none => ⟨trimSpace target, "", false, false⟩
  | some serverInfo =>
    let hostKeyID := trimSpace (serverInfo.hostKeyID.getD "")
    let isRequired (value : Option String) : Bool :=
      value.any fun value => env.equalFold (trimSpace value) "required"
    { target := if trimSpace serverInfo.target ≠ "" then trimSpace serverInfo.target
        else trimSpace target
      hostKeyID
      e2eRequired := isRequired serverInfo.e2e || hostKeyID != "" ||
        isRequired serverInfo.clientProof
      clientProofRequired := isRequired serverInfo.clientProof }

/-- The variables of `webTTYClientCryptoFromSources`. -/
structure ServerTrust where
  scope : ClientSecurityScope
  effectiveSources : List KnownServerSource
  serverKeysConfigured : Bool
  endpointIdentity : Option LocalIdentity
  clientCredential : Bytes

/-- The part of `webTTYClientCryptoFromSources` that asks the control plane. -/
def runtimeTrust (runtimeE2E : Option (RuntimeE2EContext Proof Device)) (trust : ServerTrust) :
    Except Error ServerTrust :=
  match runtimeE2E with
  | none => .ok trust
  | some runtimeE2E => do
    let runtime ← webTTYClientRuntimeE2EServerSources env runtimeE2E
    let scope := { trust.scope with e2eRequired := trust.scope.e2eRequired || runtime.e2eRequired }
    match runtime.sources with
    | [] =>
      failIf (runtime.e2eRequired = true) (newError
        (s!"persistent WebTTY server {runtimeE2E.serverID} requires E2E, but no authenticated " ++
          "server identity was resolved"))
      return { trust with scope }
    | server :: devices =>
      let clientIdentity ← (match server.endpointIdentity with
        | some identity => webTTYRuntimeKnownServerClientIdentity env scope identity
        | none => .ok server.clientIdentity)
      return ⟨scope, { server with clientIdentity } :: devices, true, runtime.endpointIdentity,
        runtime.clientCredential⟩

/-- The sources of the store, if there are any. -/
def ServerTrust.default (trust : ServerTrust) (defaultSources : List KnownServerSource) :
    ServerTrust :=
  if defaultSources = [] then trust
  else { trust with effectiveSources := defaultSources, serverKeysConfigured := true }

/-- The part of `webTTYClientCryptoFromSources` that reads the store for a marked server. -/
def scopeTrust (trust : ServerTrust) : Except Error ServerTrust :=
  if trust.serverKeysConfigured = false ∧
      (trust.scope.hostKeyID ≠ "" ∨ trust.scope.e2eRequired = true) then do
    return trust.default (← webTTYDefaultKnownServerSourcesForScope env trust.scope)
  else .ok trust

/-- The part of `webTTYClientCryptoFromSources` that reads the store on request. -/
def flagTrust (e2eRequested : Bool) (trust : ServerTrust) : Except Error ServerTrust :=
  if trust.serverKeysConfigured = false ∧ e2eRequested = true then do
    return trust.default (← webTTYDefaultKnownServerSources env)
  else .ok trust

def webTTYKnownServerAddCommand (target : String) (clientProofRequired : Bool) : String :=
  let target := if trimSpace target = "" then "<server>" else trimSpace target
  "rstream webtty known-server add " ++ target ++ " --key <server-endpoint-identity>" ++
    if clientProofRequired then " --client-identity <identity>" else ""

/-- The error for a marked server without a known identity. -/
def unknownServerError (scope : ClientSecurityScope) : Error :=
  if trimSpace scope.target ≠ "" then
    newError (s!"WebTTY server {scope.target} requires E2E, but no matching known server identity " ++
      "was found; add it with " ++ webTTYKnownServerAddCommand scope.target scope.clientProofRequired)
  else
    newError ("WebTTY server requires E2E, but no known server identity was found; add it with " ++
      webTTYKnownServerAddCommand "<server>" scope.clientProofRequired)

def mustDefaultKnownServerKeysPath : String :=
  match env.defaultKnownServerKeysPath with
  | .ok path => path
  | .error _ => "~/.rstream/webtty/known_servers.json"

/-- The error for E2E without a server key. -/
def noServerKeyError (scope : ClientSecurityScope) : Error :=
  if scope.e2eRequired = true ∧ scope.target ≠ "" then
    newError (s!"WebTTY server {scope.target} requires E2E, but no matching known server identity " ++
      "was found; add it with " ++ webTTYKnownServerAddCommand scope.target scope.clientProofRequired)
  else
    newError ("E2E client mode requires --known-server-key, --known-servers-file, " ++
      "RSTREAM_WEBTTY_KNOWN_SERVER_KEY, RSTREAM_WEBTTY_KNOWN_SERVERS_FILE, or " ++
      mustDefaultKnownServerKeysPath env)

/-- The error for a client proof without a signing identity of the server. -/
def noSigningIdentityError (scope : ClientSecurityScope) : Error :=
  newError ("WebTTY server " ++ (if trimSpace scope.target ≠ "" then scope.target ++ " " else "") ++
    "requires authenticated E2E, but the known server key does not include a signing identity; use " ++
    "a WebTTY endpoint identity from rstream webtty identity show --name <server> --endpoint-identity")

/-- `webTTYMissingClientEndpointIdentityError`, for a name. -/
def webTTYMissingClientEndpointIdentityError (scope : ClientSecurityScope) (name : String) :
    Error :=
  let target := if trimSpace scope.target = "" then "this server" else trimSpace scope.target
  newError (s!"WebTTY server {target} requires client endpoint identity {strconvQuote name}, but it " ++
    s!"could not be loaded; create it with rstream webtty identity create --name {name} or update " ++
    s!"the association with rstream webtty known-server set-identity {target} --identity <identity>")

/-- The identity of the client: that of the device, or the one associated with the server. -/
def clientEndpointIdentity (trust : ServerTrust) (clientIdentityName : String) :
    Except Error (Option LocalIdentity) :=
  if trust.endpointIdentity.isNone = true ∧ clientIdentityName ≠ "" then
    match env.clientEndpointIdentityByName clientIdentityName with
    | .ok identity => .ok (some identity)
    | .error err => .error (.wrap ""
      (webTTYMissingClientEndpointIdentityError trust.scope clientIdentityName)
      (": " ++ err.text Failure.msg))
  else .ok trust.endpointIdentity

def newE2EClientPayloadCrypto (cfg : E2EPayloadCryptoConfig) : Except Error PayloadCipher := do
  env.requireFIPSWebTTYRuntime
  newE2EClientPayloadCipher env.primitives env.profile env.draws cfg

/-- The configuration of the payload cipher. -/
def payloadConfig (runtimeE2E : Option (RuntimeE2EContext Proof Device))
    (recipients : List E2ERecipient) : E2EPayloadCryptoConfig :=
  { workspaceID := (runtimeE2E.map (·.workspaceID)).getD ""
    projectID := (runtimeE2E.map (·.projectID)).getD ""
    serverID := (runtimeE2E.map (·.serverID)).getD ""
    payloadSuite := 0
    payloadKey := []
    payloadKeyID := []
    keyContext := []
    keyEnvelopeSuite := 0
    recipients }

/-- The rest of `webTTYClientCryptoFromSources`, once the sources are known. -/
def trustedCrypto (runtimeE2E : Option (RuntimeE2EContext Proof Device)) (trust : ServerTrust) :
    Except Error ClientCryptoConfig := do
  let serverKeys ← appendWebTTYE2EServerKeys [] trust.effectiveSources
  failIf (serverKeys = []) (noServerKeyError env trust.scope)
  let expectedServerIdentity ←
    webTTYExpectedServerIdentityFromKnownSources none trust.effectiveSources
  failIf (trust.scope.clientProofRequired = true ∧ expectedServerIdentity.isNone = true)
    (noSigningIdentityError trust.scope)
  let clientIdentityName ← webTTYClientIdentityNameFromKnownSources "" trust.effectiveSources
  let endpointIdentity ← clientEndpointIdentity env trust clientIdentityName
  let recipients ← (match endpointIdentity with
    | some identity =>
      if clientIdentityName ≠ "" then appendWebTTYE2EClientEndpointRecipient serverKeys identity
      else .ok serverKeys
    | none => .ok serverKeys)
  let payloadCrypto ← withContext "failed to configure WebTTY E2E payload crypto: "
    (newE2EClientPayloadCrypto env (payloadConfig runtimeE2E recipients))
  return ⟨some payloadCrypto, endpointIdentity, expectedServerIdentity, trust.clientCredential,
    clientIdentityName, trust.scope.e2eRequired, trust.scope.clientProofRequired⟩

def webTTYClientCryptoFromSources (e2eRequested : Bool) (sources : List KnownServerSource)
    (serverKeysConfigured : Bool) (runtimeE2E : Option (RuntimeE2EContext Proof Device))
    (scope : ClientSecurityScope) : Except Error ClientCryptoConfig := do
  let trust ← runtimeTrust env runtimeE2E ⟨scope, sources, serverKeysConfigured, none, []⟩
  let trust ← scopeTrust env trust
  let trust ← flagTrust env e2eRequested trust
  failIf (trust.serverKeysConfigured = false ∧ trust.scope.e2eRequired = true)
    (unknownServerError trust.scope)
  if e2eRequested = false ∧ trust.serverKeysConfigured = false then return .plain
  else trustedCrypto env runtimeE2E trust

end Crypto

end Rstream.WebTTY
