import Rstream.Go.TimeFormat
import Rstream.WebTTY.PayloadCipher

/-!
# The handshake

The server hello of `webtty/auth_handshake.go`, its check by the client and the
proof a client attaches to an open request. The private halves of the endpoint
identities are passed beside the public ones.
-/

namespace Rstream.WebTTY

open Rstream.Core Go

section Messages

/-- The message `EndpointIdentity`. -/
structure ServerIdentity where
  signingKeyID : Bytes
  signingPublicKey : Bytes
  signatureSuite : Int32
  encryptionKeyID : Bytes
  encryptionPublicKey : Bytes
  keyEnvelopeSuite : Int32
  deriving DecidableEq, Repr

/-- The message `ServerProof`. -/
structure ServerProof where
  signatureSuite : Int32
  signingKeyID : Bytes
  transcriptHash : Bytes
  signature : Bytes
  deriving DecidableEq, Repr

/-- The message `ServerHello`. -/
structure ServerHello where
  protocolVersion : Int32
  sessionNonce : Bytes
  serverIdentity : Option ServerIdentity
  payloadSuites : List Int32
  keyEnvelopeSuites : List Int32
  signatureSuites : List Int32
  authRequirement : Int32
  workspaceID : Option String
  projectID : Option String
  serverID : Option String
  sessionID : String
  serverProof : Option ServerProof
  deriving DecidableEq, Repr

def webTTYStringValue (value : String) : Option String :=
  if trimSpace value = "" then none else some (trimSpace value)

def webTTYStringValueText (value : Option String) : String := value.getD ""

def webTTYBytesValue (value : Bytes) : Option Bytes := if value = [] then none else some value

def endpointIdentityPublicToProto (profile : Profile) (identity : EndpointIdentity) :
    ServerIdentity where
  signingKeyID := identity.signingKeyID
  signingPublicKey := identity.signingPublicKey
  signatureSuite := signatureSuiteECDSAP256SHA256
  encryptionKeyID := identity.encryptionKeyID
  encryptionPublicKey := identity.encryptionPublicKey
  keyEnvelopeSuite :=
    if identity.keyEnvelopeSuite = 0 then
      match inferE2EKeyEnvelopeSuite profile identity.encryptionPublicKey with
      | .ok suite => suite
      | .error _ => 0
    else identity.keyEnvelopeSuite

def authRequirementNone : Int32 := 1

def webTTYAuthRequirement (cfg : ServerConfig) : Int32 :=
  if cfg.requireClientProof = some true then authRequirementClientProof else authRequirementNone

def webTTYAuthRequirementFromProto (value : Int32) : Int32 :=
  if value = authRequirementClientProof then authRequirementClientProof else authRequirementNone

end Messages

section Transcript

variable {K S R : Type}

structure ServerProofTranscript where
  protocolVersion : Int32
  transport : String
  workspaceID : String
  projectID : String
  serverID : String
  sessionID : String
  serverSigningKeyID : Bytes
  serverEncryptionKeyID : Bytes
  serverNonce : Bytes
  authRequirement : Int32
  payloadSuites : List Int32
  keyEnvelopeSuites : List Int32
  signatureSuites : List Int32
  deriving DecidableEq, Repr

/-- A list of suites: their number, then each one. -/
def suiteFields (suites : List Int32) : List Field :=
  .word (UInt32.ofNat suites.length) :: suites.map numberField

/-- The fields of a server transcript in the order they are appended. -/
def ServerProofTranscript.fields (t : ServerProofTranscript) : List Field :=
  [.bytes (utf8 "rstream-webtty-server-auth-v1"), numberField t.protocolVersion,
    stringField t.transport, stringField t.workspaceID, stringField t.projectID,
    stringField t.serverID, stringField t.sessionID, .bytes t.serverSigningKeyID,
    .bytes t.serverEncryptionKeyID, .bytes t.serverNonce, numberField t.authRequirement] ++
  suiteFields t.payloadSuites ++ suiteFields t.keyEnvelopeSuites ++ suiteFields t.signatureSuites

/-- `ServerProofTranscript.Hash`. -/
def ServerProofTranscript.hash (P : Primitives K) (t : ServerProofTranscript) : Bytes :=
  P.sha256 (Field.encodeAll t.fields)

/-- The signing functions of the package over private keys `S` and randomness `R`. -/
structure Signing (K S R : Type) where
  /-- `ParseWebTTYSigningPrivateKey`. -/
  parsePrivateKey : Bytes → Except String S
  /-- `validateWebTTYSigningPrivateKey`. -/
  validatePrivateKey : S → Except String Unit
  /-- The public half of a key. -/
  publicKey : S → K
  /-- `ecdsa.SignASN1`. -/
  signASN1 : R → S → Bytes → Except String Bytes

/-- An error of the library as it is. -/
def asError {α : Type} : Except String α → Except Error α
  | .ok a => .ok a
  | .error e => .error (newError e)

def signWebTTYProofTranscript (G : Signing K S R) (random : R) (privateKey : S)
    (transcriptHash : Bytes) : Except Error Bytes := do
  asError (G.validatePrivateKey privateKey)
  failIf (transcriptHash.length ≠ 32)
    (newError "WebTTY proof transcript hash must be 32 bytes")
  libraryError "sign WebTTY proof transcript: " (G.signASN1 random privateKey transcriptHash)

def verifyWebTTYProofTranscript (P : Primitives K) (publicKeyDER transcriptHash signature : Bytes) :
    Except Error Unit := do
  failIf (transcriptHash.length ≠ 32)
    (newError "WebTTY proof transcript hash must be 32 bytes")
  let key ← asError (P.parsePublicKey publicKeyDER)
  failIf (P.verifyASN1 key transcriptHash signature = false)
    (newError "invalid WebTTY proof signature")

end Transcript

section Server

variable {K S R : Type}

/-- The transcript of `sendServerHelloIfConfigured`. -/
def serverTranscript (cfg : ServerConfig) (session : SessionIdentity) (identity : EndpointIdentity)
    (payloadSuite keyEnvelopeSuite : Int32) : ServerProofTranscript where
  protocolVersion := protocolVersionWebTTY1
  transport := session.transport
  workspaceID := trimSpace cfg.workspaceID
  projectID := trimSpace cfg.projectID
  serverID := trimSpace cfg.serverID
  sessionID := session.sessionID
  serverSigningKeyID := identity.signingKeyID
  serverEncryptionKeyID := identity.encryptionKeyID
  serverNonce := session.serverNonce
  authRequirement := webTTYAuthRequirement cfg
  payloadSuites := [payloadSuite]
  keyEnvelopeSuites := [keyEnvelopeSuite]
  signatureSuites := [signatureSuiteECDSAP256SHA256]

/-- The hello `sendServerHelloIfConfigured` writes. -/
def serverHello (cfg : ServerConfig) (session : SessionIdentity) (identity : EndpointIdentity)
    (payloadSuite keyEnvelopeSuite : Int32) (transcriptHash signature : Bytes) : ServerHello where
  protocolVersion := protocolVersionWebTTY1
  sessionNonce := session.serverNonce
  serverIdentity := some (endpointIdentityPublicToProto cfg.profile identity)
  payloadSuites := [payloadSuite]
  keyEnvelopeSuites := [keyEnvelopeSuite]
  signatureSuites := [signatureSuiteECDSAP256SHA256]
  authRequirement := webTTYAuthRequirement cfg
  workspaceID := webTTYStringValue (trimSpace cfg.workspaceID)
  projectID := webTTYStringValue (trimSpace cfg.projectID)
  serverID := webTTYStringValue (trimSpace cfg.serverID)
  sessionID := session.sessionID
  serverProof := some ⟨signatureSuiteECDSAP256SHA256, identity.signingKeyID, transcriptHash,
    signature⟩

/-- `sendServerHelloIfConfigured` of a session, given the bytes it draws, the flag its locked
section reads and the outcome of the write: the session with its nonce and the hello sent, or
nothing for a server without an identity. -/
def sendServerHelloIfConfigured (P : Primitives K) (G : Signing K S R) (cfg : ServerConfig)
    (privateKey : Bytes) (sessionID transport : String) (draw : Draw 32) (random : R)
    (closed : Bool) (write : ServerHello → Except Error Unit) :
    Except Error (Option (SessionIdentity × ServerHello)) :=
  match cfg.endpointIdentity with
  | none => .ok none
  | some configured => do
    let nonce ← libraryError "generate WebTTY server nonce: " draw
    let identity := configured.public cfg.profile
    let keyEnvelopeSuite ← webTTYPublicIdentityKeyEnvelopeSuite cfg.profile identity
    let payloadSuite ← e2ePayloadSuiteForKeyEnvelopeSuite cfg.profile keyEnvelopeSuite
    failIf (closed = true) (newError "session is closed")
    let session : SessionIdentity := ⟨sessionID, transport, nonce.1⟩
    let key ← asError (G.parsePrivateKey privateKey)
    let hash := (serverTranscript cfg session identity payloadSuite keyEnvelopeSuite).hash P
    let signature ← signWebTTYProofTranscript G random key hash
    let hello := serverHello cfg session identity payloadSuite keyEnvelopeSuite hash signature
    write hello
    return some (session, hello)

end Server

section Client

variable {K S R : Type}

/-- The fields of a client configuration the handshake reads, with the build profile and the
private signing key of the identity. -/
structure HandshakeClient where
  profile : Profile
  endpointIdentity : Option (EndpointIdentity × Bytes)
  expectedServerIdentity : Option EndpointIdentity
  clientPrincipalID : String
  clientDeviceID : String
  clientBrowserID : String
  clientCredential : Bytes
  deriving DecidableEq, Repr

/-- Replace any error of a check. -/
def orError (message : String) : Except Error Unit → Except Error Unit
  | .ok () => .ok ()
  | .error _ => .error (newError message)

/-- The suites of a hello that `validateWebTTYServerHelloCrypto` requires of its identity. -/
def requireHelloSuites (profile : Profile) (hello : ServerHello) (identity : ServerIdentity) :
    Except Error Unit := do
  orError "WebTTY server identity does not use the required key envelope suite"
    (validateProfileKeyEnvelopeSuite profile identity.keyEnvelopeSuite)
  let payloadSuite ← e2ePayloadSuiteForKeyEnvelopeSuite profile identity.keyEnvelopeSuite
  failIf (hello.payloadSuites ≠ [payloadSuite])
    (newError "WebTTY server does not advertise the required AES-256-GCM payload suite")
  failIf (hello.keyEnvelopeSuites ≠ [identity.keyEnvelopeSuite])
    (newError "WebTTY server does not advertise the required key envelope suite")
  failIf (hello.signatureSuites ≠ [signatureSuiteECDSAP256SHA256])
    (newError "WebTTY server does not advertise the required ECDSA P-256 signature suite")
  failIf (hello.serverProof.map ServerProof.signatureSuite ≠ some signatureSuiteECDSAP256SHA256)
    (newError "WebTTY server proof does not use ECDSA P-256")

def validateWebTTYServerHelloCrypto (profile : Profile) (hello : ServerHello) :
    Except Error Unit := do
  failIf (hello.protocolVersion ≠ protocolVersionWebTTY1)
    (newError s!"unsupported WebTTY protocol version {hello.protocolVersion}")
  match hello.serverIdentity with
  | none => .error (newError "WebTTY server identity is missing")
  | some identity => requireHelloSuites profile hello identity

/-- The transcript `verifyServerHello` rebuilds from a hello. -/
def helloTranscript (hello : ServerHello) (actual : ServerIdentity) (transport : String) :
    ServerProofTranscript where
  protocolVersion := protocolVersionWebTTY1
  transport := transport
  workspaceID := webTTYStringValueText hello.workspaceID
  projectID := webTTYStringValueText hello.projectID
  serverID := webTTYStringValueText hello.serverID
  sessionID := hello.sessionID
  serverSigningKeyID := actual.signingKeyID
  serverEncryptionKeyID := actual.encryptionKeyID
  serverNonce := hello.sessionNonce
  authRequirement := webTTYAuthRequirementFromProto hello.authRequirement
  payloadSuites := hello.payloadSuites
  keyEnvelopeSuites := hello.keyEnvelopeSuites
  signatureSuites := hello.signatureSuites

variable (P : Primitives K)

/-- The checks of `verifyServerHello` on the identity of a hello. -/
def verifyServerIdentity (profile : Profile) (expected : EndpointIdentity)
    (hello : ServerHello) (actual : ServerIdentity) (transport : String) : Except Error Unit := do
  validateWebTTYServerHelloCrypto profile hello
  let expectedSuite ← webTTYPublicIdentityKeyEnvelopeSuite profile expected
  failIf (actual.signingKeyID ≠ expected.signingKeyID ∨
    actual.signingPublicKey ≠ expected.signingPublicKey ∨
    actual.encryptionKeyID ≠ expected.encryptionKeyID ∨
    actual.encryptionPublicKey ≠ expected.encryptionPublicKey)
    (newError "WebTTY server identity does not match the expected identity")
  failIf (actual.keyEnvelopeSuite ≠ expectedSuite)
    (newError "WebTTY server key envelope suite does not match the expected identity")
  match hello.serverProof with
  | none => .error (newError "WebTTY server proof is required")
  | some proof =>
    let hash := (helloTranscript hello actual transport).hash P
    failIf (proof.transcriptHash ≠ hash)
      (newError "WebTTY server proof transcript hash does not match")
    withContext "WebTTY server proof signature is invalid: "
      (verifyWebTTYProofTranscript P actual.signingPublicKey hash proof.signature)

def verifyServerHello (client : HandshakeClient) (hello : Option ServerHello)
    (transport : String) : Except Error Unit :=
  match client.expectedServerIdentity with
  | none => .ok ()
  | some expected =>
    match hello with
    | none => .error (newError "WebTTY server hello is required")
    | some hello =>
      match hello.serverIdentity with
      | none => .error (newError "WebTTY server hello is missing server identity")
      | some actual => verifyServerIdentity P client.profile expected hello actual transport

/-- The transcript of `clientProofForOpen`. -/
def openTranscript (client : HandshakeClient) (identity : EndpointIdentity)
    (hello : ServerHello) (server : ServerIdentity) (transport : String) (suites : Int32 × Int32)
    (grantHash configHash : Bytes) (issuedAt expiresAt : Int) : ClientProofTranscript where
  protocolVersion := protocolVersionWebTTY1
  transport := transport
  workspaceID := webTTYStringValueText hello.workspaceID
  projectID := webTTYStringValueText hello.projectID
  serverID := webTTYStringValueText hello.serverID
  sessionID := hello.sessionID
  serverSigningKeyID := server.signingKeyID
  serverEncryptionKeyID := server.encryptionKeyID
  serverNonce := hello.sessionNonce
  authRequirement := authRequirementClientProof
  payloadSuite := suites.1
  keyEnvelopeSuite := suites.2
  sessionKeyGrantHash := grantHash
  commandConfigHash := configHash
  attachGrantHash := []
  requestedRole := ""
  clientPrincipalID := trimSpace client.clientPrincipalID
  clientSigningKeyID := identity.signingKeyID
  clientCredentialHash := P.sha256 client.clientCredential
  issuedAt := formatRFC3339 issuedAt
  expiresAt := formatRFC3339 expiresAt

/-- The proof of `clientProofForOpen` over a signed transcript. -/
def proofMessage (client : HandshakeClient) (identity : EndpointIdentity)
    (transcript : ClientProofTranscript) (transcriptHash signature : Bytes) : ClientProof where
  principalID := webTTYStringValue (trimSpace client.clientPrincipalID)
  signingKeyID := identity.signingKeyID
  signingPublicKey := identity.signingPublicKey
  signatureSuite := signatureSuiteECDSAP256SHA256
  transcriptHash := transcriptHash
  signature := signature
  issuedAt := transcript.issuedAt
  expiresAt := transcript.expiresAt
  deviceID := webTTYStringValue client.clientDeviceID
  browserID := webTTYStringValue client.clientBrowserID
  credential := webTTYBytesValue client.clientCredential

/-- The steps of `clientProofForOpen` for a server that requires a proof. -/
def signedProof (G : Signing K S R) (client : HandshakeClient)
    (identity : EndpointIdentity) (privateKey : Bytes) (request : Open) (hello : ServerHello)
    (server : ServerIdentity) (transport : String) (now : Int) (random : R) :
    Except Error ClientProof := do
  let suites ← webTTYProofSuites client.profile request.sessionKeyGrant server.keyEnvelopeSuite
  let grantHash ← hashWebTTYSessionKeyGrant P request.sessionKeyGrant
  let configHash ← hashWebTTYConfig P request.config
  let issuedAt := truncateSecond now
  let transcript := openTranscript P client identity hello server transport suites grantHash
    configHash issuedAt (issuedAt + 30 * second)
  let key ← asError (G.parsePrivateKey privateKey)
  let signature ← signWebTTYProofTranscript G random key (transcript.hash P)
  return proofMessage client identity transcript (transcript.hash P) signature

/-- `clientProofForOpen` at a reading of the client's clock. -/
def clientProofForOpen (G : Signing K S R) (client : HandshakeClient)
    (request : Open) (hello : Option ServerHello) (transport : String) (now : Int) (random : R) :
    Except Error (Option ClientProof) :=
  match hello with
  | none => .ok none
  | some hello =>
    if hello.authRequirement ≠ authRequirementClientProof then .ok none
    else
      match client.endpointIdentity, client.expectedServerIdentity, hello.serverIdentity with
      | none, _, _ => .error (newError ("WebTTY server requires a client proof, " ++
          "but no client endpoint identity is configured"))
      | some _, none, _ => .error (newError ("WebTTY server requires a client proof, " ++
          "but no expected server endpoint identity is configured"))
      | some _, some _, none => .error (newError ("WebTTY server requires a client proof, " ++
          "but the server hello is missing server identity"))
      | some (identity, privateKey), some _, some server => do
        let proof ← signedProof P G client identity privateKey request hello server transport now
          random
        return some proof

end Client

end Rstream.WebTTY
