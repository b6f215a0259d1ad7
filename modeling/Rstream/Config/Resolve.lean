import Rstream.Go.Errors
import Rstream.Go.Strings

/-!
# Resolving the configuration

`config.Resolve` selects a context and an environment from the configuration file, flags
and environment variables, and takes the credentials from there. Loading a key pair, the
key chain, token expiry, regions, headers and transports are parameters.
-/

namespace Rstream.Config

open Go

section Types

structure TokenStorage where
  kind : String
  provider : String
  value : String
  service : String
  account : String

structure Token where
  storage : Option TokenStorage

/-- `MTLS`; `S` is the type of `MTLSStorage`. -/
structure MTLS (S : Type) where
  certificate : String
  certificateFile : String
  key : String
  keyFile : String
  storage : Option S

structure Auth (S : Type) where
  token : Option Token
  mtls : Option (MTLS S)

structure Environment (S TransportConfig : Type) where
  apiURL : String
  auth : Option (Auth S)
  headers : List (String × String)
  transport : Option TransportConfig

/-- `Context`, as far as the resolution reads it. -/
structure Context (S TransportConfig : Type) where
  name : String
  apiURL : String
  projectEndpoint : String
  engine : String
  region : String
  auth : Option (Auth S)
  transport : Option TransportConfig

/-- `Config`; `defaults` is the name of the default context. -/
structure ConfigFile (S TransportConfig : Type) where
  defaults : Option String
  environments : List (Environment S TransportConfig)
  contexts : List (Context S TransportConfig)

structure ResolveInput (S TransportConfig : Type) where
  config : ConfigFile S TransportConfig
  flagAPIURL : String
  flagContext : String
  flagEngine : String
  flagToken : String
  flagMTLSCert : String
  flagMTLSKey : String
  flagRegion : String
  envAPIURL : String
  envContext : String
  envEngine : String
  envToken : String
  envMTLSCert : String
  envMTLSKey : String
  envRegion : String
  flagTunnelTransport : String
  envTunnelTransport : String
  envUseQUIC : Option Bool
  envControlPlaneHeaders : String
  ignoreDefaultContext : Bool
  requireToken : Bool
  requireEngine : Bool
  resolveToken : Bool
  tokenOnly : Bool

/-- `tls.Config`: a client identity and how servers are verified. -/
structure TLSConfig (Identity Trust : Type) where
  identity : Option Identity
  trust : Option Trust

structure Resolved (S TransportConfig Dialer Identity Trust : Type) where
  apiURL : String
  contextName : String
  environment : Option (Environment S TransportConfig)
  context : Option (Context S TransportConfig)
  engine : String
  stableDomainEngine : String
  region : String
  token : String
  transport : Dialer
  transportConfig : TransportConfig
  tlsClientConfig : Option (TLSConfig Identity Trust)
  controlPlaneHeaders : List (String × String)
  credentialID : String
  mtlsSource : Option (MTLS S)

/-- The packages the resolution calls. -/
structure ResolveDeps (S TransportConfig Dialer Identity Trust : Type) where
  tokenFromKeychainStorage : TokenStorage → Except String (String × Bool)
  loadMTLSStorageConfig : S → Except String Identity
  /-- `tls.X509KeyPair`. -/
  x509KeyPair : String → String → Except String Identity
  /-- `tls.LoadX509KeyPair`. -/
  loadX509KeyPair : String → String → Except String Identity
  /-- `isTokenExpired`, at the time of the call. -/
  isTokenExpired : String → Except String Bool
  /-- `controlplane.NormalizeRegion`. -/
  normalizeRegion : String → Except String String
  resolveControlPlaneHeaders : Option (Environment S TransportConfig) → String →
    Except String (List (String × String))
  /-- The digest of the authentication source and the loaded certificates. -/
  credentialID : Option (Auth S) → Option Identity → Except String String
  mergeTransport : Option TransportConfig → Option TransportConfig → Option TransportConfig
  /-- The overrides of the transport by a flag or the environment. -/
  overrideTransport : String → Option Bool → Option TransportConfig →
    Except String (Option TransportConfig)
  /-- `FlattenTransportWithError`. -/
  flattenTransport : Option TransportConfig → Except String Dialer
  engineTLSConfig : Option TransportConfig → Except String (Option Trust)
  /-- The transport of mode `auto`. -/
  autoTransport : TransportConfig

end Types

section Find

def firstNonEmpty : List String → String
  | [] => ""
  | v :: values => if v ≠ "" then v else firstNonEmpty values

/-- Drop slashes from the end of a reversed URL, but not those of `://`. -/
def trimSlashes : List Char → List Char
  | '/' :: '/' :: ':' :: rest => '/' :: '/' :: ':' :: rest
  | '/' :: rest => trimSlashes rest
  | cs => cs

def normalizeAPIURL (apiURL : String) : String :=
  String.ofList (trimSlashes (trimSpace apiURL).toList.reverse).reverse

def defaultAPIURL : String := "https://rstream.io"

variable {S TransportConfig : Type}

namespace ConfigFile

variable (cfg : ConfigFile S TransportConfig)

def findEnvironment (apiURL : String) : Option (Environment S TransportConfig) :=
  cfg.environments.find? fun env => normalizeAPIURL env.apiURL == normalizeAPIURL apiURL

def contextMatches (name : String) : List (Context S TransportConfig) :=
  cfg.contexts.filter (·.name == name)

def contextAmbiguousError (name : String) : String :=
  "context " ++ strconvQuote name ++ " is ambiguous; specify --api-url or set RSTREAM_API_URL"

def contextDuplicateError (name apiURL : String) : String :=
  "multiple contexts named " ++ strconvQuote name ++ " exist for API URL " ++ strconvQuote apiURL

/-- `contextNotFoundForAPIURLError`, for a name that has contexts. -/
def contextNotFoundForAPIURLError (name apiURL : String) : String :=
  if apiURL = "" then "context " ++ strconvQuote name ++ " not found"
  else "context " ++ strconvQuote name ++ " not found for API URL " ++ strconvQuote apiURL

def findContextByName (name : String) : Except String (Option (Context S TransportConfig)) :=
  match cfg.contextMatches name with
  | [] => .ok none
  | [ctx] => .ok (some ctx)
  | _ => .error (contextAmbiguousError name)

def findContextByNameAndAPIURL (name apiURL : String) :
    Except String (Option (Context S TransportConfig)) :=
  let apiURL := normalizeAPIURL apiURL
  match cfg.contextMatches name with
  | [] => .ok none
  | contexts =>
    match contexts.filter (normalizeAPIURL ·.apiURL == apiURL) with
    | [ctx] => .ok (some ctx)
    | [] => .error (contextNotFoundForAPIURLError name apiURL)
    | _ => .error (contextDuplicateError name apiURL)

def findContextUnlinked (name : String) : Except String (Option (Context S TransportConfig)) :=
  match cfg.contextMatches name with
  | [] => .ok none
  | contexts =>
    match contexts.filter (·.apiURL == "") with
    | [ctx] => .ok (some ctx)
    | [] => .error (contextNotFoundForAPIURLError name "")
    | _ => .error (contextAmbiguousError name)

end ConfigFile

end Find

section Authentication

variable {S TransportConfig Dialer Identity Trust : Type}

def hasMTLSAlias (mtls : MTLS S) : Bool :=
  !blank mtls.certificate || !blank mtls.key || !blank mtls.certificateFile || !blank mtls.keyFile

variable (deps : ResolveDeps S TransportConfig Dialer Identity Trust)

def tokenFromAuth
    (auth : Option (Auth S)) : Except String (String × Bool) :=
  match auth.bind (·.token) with
  | none => .ok ("", false)
  | some token =>
    match token.storage with
    | none => .error "token storage kind is required"
    | some storage =>
      let kind := trimSpace storage.kind
      if kind = "" then .error "token storage kind is required"
      else if kind = "inline" then .ok (storage.value, storage.value ≠ "")
      else if kind = "keychain" then deps.tokenFromKeychainStorage storage
      else .error ("token storage kind " ++ strconvQuote kind ++ " is not supported")

def loadMTLSConfig
    (certPEM keyPEM certFile keyFile : String) : Except String Identity :=
  let certPEM := trimSpace certPEM
  let keyPEM := trimSpace keyPEM
  let certFile := trimSpace certFile
  let keyFile := trimSpace keyFile
  let hasInline := certPEM ≠ "" ∨ keyPEM ≠ ""
  let hasFiles := certFile ≠ "" ∨ keyFile ≠ ""
  let load (pair : Except String Identity) : Except String Identity :=
    pair.mapError ("load mTLS certificate: " ++ ·)
  if hasInline ∧ hasFiles then
    .error "mTLS certificate and key must be configured either inline or with files, not both"
  else if hasInline then
    if certPEM = "" ∨ keyPEM = "" then .error "mTLS inline certificate and key are both required"
    else load (deps.x509KeyPair certPEM keyPEM)
  else if hasFiles then
    if certFile = "" ∨ keyFile = "" then .error "mTLS certificate and key files are both required"
    else load (deps.loadX509KeyPair certFile keyFile)
  else .error "mTLS certificate and key are required"

/-- `MTLSConfigFromAuth`: the client identity, if one is configured. -/
def mtlsConfigFromAuth
    (auth : Option (Auth S)) : Except String (Option Identity) :=
  match auth.bind (·.mtls) with
  | none => .ok none
  | some mtls =>
    if !hasMTLSAlias mtls && mtls.storage.isNone then .ok none
    else match mtls.storage with
    | some storage =>
      if hasMTLSAlias mtls then .error "mTLS storage cannot be mixed with certificate/key aliases"
      else (deps.loadMTLSStorageConfig storage).map some
    | none => (loadMTLSConfig deps mtls.certificate mtls.key mtls.certificateFile mtls.keyFile).map some

/-- The environment belongs to the context: there is no context, or it is linked to the same API
URL. -/
def environmentApplies (ctx : Option (Context S TransportConfig))
    (env : Environment S TransportConfig) : Bool :=
  match ctx with
  | none => true
  | some ctx => normalizeAPIURL ctx.apiURL == normalizeAPIURL env.apiURL

def selectedAuth (ctx : Option (Context S TransportConfig))
    (env : Option (Environment S TransportConfig)) : Option (Auth S) :=
  match ctx.bind (·.auth) with
  | some auth =>
    if auth.token.isSome || auth.mtls.isSome then some auth else fromEnvironment
  | none => fromEnvironment
where
  fromEnvironment : Option (Auth S) :=
    match env with
    | some env => if environmentApplies ctx env then env.auth else none
    | none => none

/-- `engineOverrideUsesStoredToken`: the stored credentials are not meant for this engine. -/
def engineOverrideUsesStoredToken (engineOverride : String)
    (ctx : Option (Context S TransportConfig)) : Bool :=
  let engineOverride := trimSpace engineOverride
  if engineOverride = "" then false
  else match ctx with
  | none => true
  | some ctx =>
    let ctxEngine := trimSpace ctx.engine
    if ctxEngine = "" then true else ctxEngine != engineOverride

def resolveToken
    (ctx : Option (Context S TransportConfig)) (env : Option (Environment S TransportConfig)) :
    Except String String := do
  let (token, found) ← (match ctx with
    | some ctx => tokenFromAuth deps ctx.auth
    | none => .ok ("", false))
  if found then return token
  else
    let (token, found) ← (match env with
      | some env =>
        if environmentApplies ctx env then tokenFromAuth deps env.auth else .ok ("", false)
      | none => .ok ("", false))
    if found then return token else return ""

/-- The error for a stored token and an engine it was not stored for. -/
def storedTokenError : String :=
  "refusing to use a stored token with an explicit engine override; set " ++
    "RSTREAM_AUTHENTICATION_TOKEN or pass --token for the selected engine"

/-- The error for a stored client identity and an engine it was not stored for. -/
def storedMTLSError : String :=
  "refusing to use stored mTLS credentials with an explicit engine override; select a context for " ++
    "the selected engine or set RSTREAM_MTLS_CERT_FILE and RSTREAM_MTLS_KEY_FILE"

/-- What `resolveAuthentication` returns. -/
structure Credentials (Identity : Type) where
  token : String
  mtls : Option Identity
  credentialID : String

namespace ResolveInput

variable (input : ResolveInput S TransportConfig)

/-- The token given by a flag or the environment. -/
def explicitToken : String := firstNonEmpty [input.flagToken, input.envToken]

/-- A token is wanted. -/
def shouldResolveToken : Bool :=
  input.resolveToken || input.requireToken || input.explicitToken != ""

/-- The certificate file given by a flag or the environment. -/
def certFile : String := firstNonEmpty [input.flagMTLSCert, input.envMTLSCert]

/-- The key file given by a flag or the environment. -/
def keyFile : String := firstNonEmpty [input.flagMTLSKey, input.envMTLSKey]

/-- A flag or the environment names a certificate or a key. -/
def explicitMTLS : Bool := input.certFile != "" || input.keyFile != ""

/-- The credentials of an explicit certificate and key. -/
def explicitAuth : Auth S := ⟨none, some ⟨"", input.certFile, "", input.keyFile, none⟩⟩

/-- The credentials that `resolveAuthentication` works with. -/
def auth (ctx : Option (Context S TransportConfig))
    (env : Option (Environment S TransportConfig)) : Option (Auth S) :=
  if input.explicitMTLS then some input.explicitAuth else selectedAuth ctx env

end ResolveInput

/-- The credentials configure a client identity. -/
def hasMTLS (auth : Option (Auth S)) : Bool :=
  (auth.bind (·.mtls)).any fun mtls => hasMTLSAlias mtls || mtls.storage.isSome

/-- A stored token, unless the engine was overridden. -/
def confineToken (ctx : Option (Context S TransportConfig)) (engineOverride token : String) :
    Except String String := do
  failIf (token ≠ "" ∧ engineOverrideUsesStoredToken engineOverride ctx = true) storedTokenError
  return token

/-- The branch of `resolveAuthentication` for administrative calls. -/
def resolveTokenOnly
    (input : ResolveInput S TransportConfig) (ctx : Option (Context S TransportConfig))
    (env : Option (Environment S TransportConfig)) (engineOverride : String) :
    Except String (Credentials Identity) := do
  if input.explicitToken == "" && input.shouldResolveToken then
    let token ← resolveToken deps ctx env
    let token ← confineToken ctx engineOverride token
    return ⟨token, none, ""⟩
  else return ⟨input.explicitToken, none, ""⟩

/-- The token that `resolveAuthentication` returns along with a client identity. -/
def resolveAuthToken
    (input : ResolveInput S TransportConfig) (auth : Option (Auth S))
    (ctx : Option (Context S TransportConfig)) (engineOverride : String) :
    Except String String := do
  if input.explicitToken == "" && input.shouldResolveToken && !hasMTLS auth then
    let (token, _) ← tokenFromAuth deps auth
    confineToken ctx engineOverride token
  else return input.explicitToken

def resolveAuthentication
    (input : ResolveInput S TransportConfig) (ctx : Option (Context S TransportConfig))
    (env : Option (Environment S TransportConfig)) (engineOverride : String) :
    Except String (Credentials Identity) := do
  if input.tokenOnly then resolveTokenOnly deps input ctx env engineOverride
  else
    let auth := input.auth ctx env
    failIf (hasMTLS auth = true ∧
      (input.explicitToken ≠ "" ∨ (auth.bind (·.token)).isSome = true))
      "token and mTLS authentication cannot be used together"
    failIf (hasMTLS auth = true ∧ input.explicitMTLS = false ∧
      engineOverrideUsesStoredToken engineOverride ctx = true) storedMTLSError
    let token ← resolveAuthToken deps input auth ctx engineOverride
    let mtls ← mtlsConfigFromAuth deps auth
    let credentialID ← deps.credentialID auth mtls
    return ⟨token, mtls, credentialID⟩

end Authentication

section Resolve

variable {S TransportConfig Dialer Identity Trust : Type}

/-- The name of the selected context, if one is selected. -/
def ResolveInput.contextName (input : ResolveInput S TransportConfig) : String :=
  let named := firstNonEmpty [input.flagContext, input.envContext]
  if !input.ignoreDefaultContext && named == "" then input.config.defaults.getD named else named

/-- `engineOverride` of `Resolve`. -/
def ResolveInput.engineOverride (input : ResolveInput S TransportConfig) : String :=
  firstNonEmpty [input.flagEngine, input.envEngine]

/-- The context that `Resolve` selects by name, or by name and API URL. -/
def findContext (cfg : ConfigFile S TransportConfig) (contextName apiURLExplicit : String) :
    Except String (Option (Context S TransportConfig)) :=
  if apiURLExplicit ≠ "" then do
    match ← cfg.findContextByNameAndAPIURL contextName apiURLExplicit with
    | some ctx => return some ctx
    | none => cfg.findContextUnlinked contextName
  else cfg.findContextByName contextName

/-- The context that `Resolve` selects, and the API URL as far as it is known. -/
def selectContext (input : ResolveInput S TransportConfig) :
    Except String (Option (Context S TransportConfig) × String) := do
  let apiURLExplicit := normalizeAPIURL (firstNonEmpty [input.flagAPIURL, input.envAPIURL])
  let contextName := input.contextName
  if contextName = "" then return (none, apiURLExplicit)
  else
    match ← findContext input.config contextName apiURLExplicit with
    | none =>
      if apiURLExplicit ≠ "" then
        throw ("context " ++ strconvQuote contextName ++ " not found for API URL " ++
          strconvQuote apiURLExplicit)
      else throw ("context " ++ strconvQuote contextName ++ " not found")
    | some ctx =>
      let ctxAPIURL := normalizeAPIURL ctx.apiURL
      failIf (apiURLExplicit ≠ "" ∧ ctxAPIURL ≠ "" ∧ ctxAPIURL ≠ apiURLExplicit)
        ("context " ++ strconvQuote contextName ++ " belongs to API URL " ++ strconvQuote ctx.apiURL ++
          " (selected API URL " ++ strconvQuote apiURLExplicit ++ ")")
      return (some ctx, if apiURLExplicit = "" then ctxAPIURL else apiURLExplicit)

def mergeTLSClientConfig (mtls : Option Identity) (trust : Option Trust) :
    Option (TLSConfig Identity Trust) :=
  match mtls, trust with
  | none, none => none
  | none, some trust => some ⟨none, some trust⟩
  | some identity, trust => some ⟨some identity, trust⟩

/-- The transport configuration of the context, merged with that of its environment. -/
def contextTransport (deps : ResolveDeps S TransportConfig Dialer Identity Trust)
    (ctx : Option (Context S TransportConfig)) (env : Option (Environment S TransportConfig)) :
    Option TransportConfig :=
  match ctx with
  | none => none
  | some ctx =>
    match env with
    | some env =>
      if normalizeAPIURL ctx.apiURL ≠ "" ∧ normalizeAPIURL ctx.apiURL = normalizeAPIURL env.apiURL
      then deps.mergeTransport env.transport ctx.transport
      else deps.mergeTransport none ctx.transport
    | none => deps.mergeTransport none ctx.transport

/-- The environment of the selected API URL; a context without one has no environment. -/
def selectEnvironment (cfg : ConfigFile S TransportConfig)
    (ctx : Option (Context S TransportConfig)) (apiURL : String) :
    Option (Environment S TransportConfig) :=
  match ctx with
  | some ctx => if normalizeAPIURL ctx.apiURL = "" then none else cfg.findEnvironment apiURL
  | none => cfg.findEnvironment apiURL

def resolve (deps : ResolveDeps S TransportConfig Dialer Identity Trust)
    (input : ResolveInput S TransportConfig) :
    Except String (Resolved S TransportConfig Dialer Identity Trust) := do
  let (ctx, apiURLExplicit) ← selectContext input
  let apiURL := if apiURLExplicit = "" then defaultAPIURL else apiURLExplicit
  let env := selectEnvironment input.config ctx apiURL
  let controlPlaneHeaders ← deps.resolveControlPlaneHeaders env input.envControlPlaneHeaders
  let engineOverride := input.engineOverride
  let engine := if engineOverride = "" then (ctx.map (·.engine)).getD "" else engineOverride
  let region ← deps.normalizeRegion
    (firstNonEmpty [input.flagRegion, input.envRegion, (ctx.map (·.region)).getD ""])
  failIf (region ≠ "" ∧ engineOverride ≠ "")
    "region selection cannot be combined with an explicit engine override"
  failIf (region ≠ "" ∧ ctx.all (blank ·.projectEndpoint) = true)
    "managed project endpoint is required for region selection"
  let credentials ← resolveAuthentication deps input ctx env engineOverride
  let expired ←
    (if credentials.token ≠ "" then deps.isTokenExpired credentials.token else .ok false)
  failIf (expired = true)
    "token has expired (run rstream login or set RSTREAM_AUTHENTICATION_TOKEN)"
  failIf (input.requireEngine = true ∧ engine = "" ∧ region = "") ("engine is required but not " ++
    "configured (set --engine or RSTREAM_ENGINE, or select a context via --context, " ++
    "RSTREAM_CONTEXT, or \x60rstream context use\x60)")
  failIf (input.requireToken = true ∧ credentials.token = "" ∧ credentials.mtls.isNone = true)
    ("authentication is required but not configured (run rstream login, set " ++
    "RSTREAM_AUTHENTICATION_TOKEN, or set RSTREAM_MTLS_CERT_FILE and RSTREAM_MTLS_KEY_FILE)")
  let transportConfig ← deps.overrideTransport
    (firstNonEmpty [input.flagTunnelTransport, input.envTunnelTransport]) input.envUseQUIC
    (contextTransport deps ctx env)
  let transport ← deps.flattenTransport transportConfig
  let trust ← deps.engineTLSConfig transportConfig
  let mtlsSource :=
    if credentials.mtls.isSome && input.flagMTLSCert == "" && input.flagMTLSKey == "" &&
        input.envMTLSCert == "" && input.envMTLSKey == "" then
      (selectedAuth ctx env).bind (·.mtls)
    else none
  return {
    apiURL := apiURL
    contextName := input.contextName
    environment := env
    context := ctx
    engine := engine
    stableDomainEngine := engine
    region := region
    token := credentials.token
    transport := transport
    transportConfig := (deps.mergeTransport none transportConfig).getD deps.autoTransport
    tlsClientConfig := mergeTLSClientConfig credentials.mtls trust
    controlPlaneHeaders := controlPlaneHeaders
    credentialID := credentials.credentialID
    mtlsSource := mtlsSource }

end Resolve

end Rstream.Config
