import Rstream.Core.Encoding
import Rstream.Go.Time
import Rstream.WebTTY.Message

/-!
# Client proofs

The server side of `webtty/auth_handshake.go` and the client transcript of
`webtty/auth_proof.go`. Hashing, signatures and protobuf marshalling are
parameters; the build profile selects the accepted key envelope suites.
-/

namespace Rstream.WebTTY

open Rstream.Core Go

/-- The two build profiles of the package. -/
inductive Profile
  | standard
  | fips
  deriving DecidableEq, Repr

def payloadCipherSuiteAES256GCM : Int32 := 1

def payloadCipherSuiteAES256GCMRandomNonce : Int32 := 3

/-- `KeyEnvelopeSuiteHPKEX25519HKDFSHA256AES256GCM`. -/
def keyEnvelopeSuiteHPKEX25519 : Int32 := 1

/-- `KeyEnvelopeSuiteP256HKDFSHA256AES256GCMRandomNonce`. -/
def keyEnvelopeSuiteP256 : Int32 := 3

def signatureSuiteECDSAP256SHA256 : Int32 := 1

def authRequirementClientProof : Int32 := 2

def protocolVersionWebTTY1 : Int32 := 1

def defaultE2EKeyEnvelopeSuite : Profile → Int32
  | .standard => keyEnvelopeSuiteHPKEX25519
  | .fips => keyEnvelopeSuiteP256

def validateProfileKeyEnvelopeSuite (profile : Profile) (suite : Int32) : Except Error Unit :=
  match profile with
  | .standard =>
    if suite = keyEnvelopeSuiteHPKEX25519 ∨ suite = keyEnvelopeSuiteP256 then .ok ()
    else .error (newError s!"unsupported E2E key envelope suite {suite}")
  | .fips =>
    if suite ≠ keyEnvelopeSuiteP256 then
      .error (newError
        s!"WebTTY key envelope suite {suite} is not available in the rstream FIPS profile")
    else .ok ()

def e2ePayloadSuiteForKeyEnvelopeSuite (profile : Profile) (suite : Int32) :
    Except Error Int32 := do
  validateProfileKeyEnvelopeSuite profile suite
  if suite = keyEnvelopeSuiteHPKEX25519 then .ok payloadCipherSuiteAES256GCM
  else if suite = keyEnvelopeSuiteP256 then .ok payloadCipherSuiteAES256GCMRandomNonce
  else .error (newError s!"unsupported E2E key envelope suite {suite}")

/-- `inferE2EKeyEnvelopeSuite`, by the length of the public key. -/
def inferE2EKeyEnvelopeSuite (profile : Profile) (publicKey : Bytes) : Except Error Int32 := do
  let suite ←
    if publicKey.length = 32 then .ok keyEnvelopeSuiteHPKEX25519
    else if publicKey.length = 65 then .ok keyEnvelopeSuiteP256
    else .error (newError s!"unsupported E2E public key length {publicKey.length}")
  validateProfileKeyEnvelopeSuite profile suite
  return suite

def validateE2ESuites (profile : Profile) (payloadSuite keyEnvelopeSuite : Int32) :
    Except Error Unit := do
  validateProfileKeyEnvelopeSuite profile keyEnvelopeSuite
  let expected ← e2ePayloadSuiteForKeyEnvelopeSuite profile keyEnvelopeSuite
  if payloadSuite ≠ expected then
    .error (newError
      s!"E2E payload suite {payloadSuite} does not match key envelope suite {keyEnvelopeSuite}")
  else .ok ()

/-- `webTTYProofSuites`: the suites of the grant, or the ones of the server identity. -/
def webTTYProofSuites (profile : Profile) (grant : Option SessionKeyGrant) (fallback : Int32) :
    Except Error (Int32 × Int32) := do
  let payloadSuite ← e2ePayloadSuiteForKeyEnvelopeSuite profile fallback
  match grant with
  | none => return (payloadSuite, fallback)
  | some grant =>
    validateE2ESuites profile grant.payloadSuite grant.keyEnvelopeSuite
    return (grant.payloadSuite, grant.keyEnvelopeSuite)

/-- The keys of an endpoint, without the private halves. -/
structure EndpointIdentity where
  keyEnvelopeSuite : Int32
  encryptionKeyID : Bytes
  encryptionPublicKey : Bytes
  signingKeyID : Bytes
  signingPublicKey : Bytes
  deriving DecidableEq, Repr

/-- `WebTTYEndpointIdentity.Public`: a missing suite is the default of the profile. -/
def EndpointIdentity.«public» (profile : Profile) (identity : EndpointIdentity) :
    EndpointIdentity :=
  if identity.keyEnvelopeSuite = 0 then
    { identity with keyEnvelopeSuite := defaultE2EKeyEnvelopeSuite profile }
  else identity

def webTTYPublicIdentityKeyEnvelopeSuite (profile : Profile) (identity : EndpointIdentity) :
    Except Error Int32 := do
  let suite ←
    if identity.keyEnvelopeSuite = 0 then
      inferE2EKeyEnvelopeSuite profile identity.encryptionPublicKey
    else .ok identity.keyEnvelopeSuite
  validateProfileKeyEnvelopeSuite profile suite
  return suite

structure ClientProofTranscript where
  protocolVersion : Int32
  transport : String
  workspaceID : String
  projectID : String
  serverID : String
  sessionID : String
  serverSigningKeyID : Bytes
  serverEncryptionKeyID : Bytes
  serverNonce : Bytes
  authRequirement : Int32
  payloadSuite : Int32
  keyEnvelopeSuite : Int32
  sessionKeyGrantHash : Bytes
  commandConfigHash : Bytes
  attachGrantHash : Bytes
  requestedRole : String
  clientPrincipalID : String
  clientSigningKeyID : Bytes
  clientCredentialHash : Bytes
  issuedAt : String
  expiresAt : String
  deriving DecidableEq, Repr

attribute [ext] ClientProofTranscript

/-- A string field of a transcript: trimmed, then length prefixed. -/
def stringField (value : String) : Field := .bytes (utf8 (trimSpace value))

/-- A number field of a transcript. -/
def numberField (value : Int32) : Field := .word value.toUInt32

/-- The fields of a client transcript in the order they are appended. -/
def ClientProofTranscript.fields (t : ClientProofTranscript) : List Field :=
  [.bytes (utf8 "rstream-webtty-client-auth-v1"), numberField t.protocolVersion,
    stringField t.transport, stringField t.workspaceID, stringField t.projectID,
    stringField t.serverID, stringField t.sessionID, .bytes t.serverSigningKeyID,
    .bytes t.serverEncryptionKeyID, .bytes t.serverNonce, numberField t.authRequirement,
    numberField t.payloadSuite, numberField t.keyEnvelopeSuite, .bytes t.sessionKeyGrantHash,
    .bytes t.commandConfigHash, .bytes t.attachGrantHash, stringField t.requestedRole,
    stringField t.clientPrincipalID, .bytes t.clientSigningKeyID, .bytes t.clientCredentialHash,
    stringField t.issuedAt, stringField t.expiresAt]

/-- `ClientProofTranscript.CanonicalBytes`. -/
def ClientProofTranscript.canonicalBytes (t : ClientProofTranscript) : Bytes :=
  Field.encodeAll t.fields

/-- The cryptographic and protobuf functions the package calls. -/
structure Primitives (K : Type) where
  /-- `sha256.Sum256`. -/
  sha256 : Bytes → Bytes
  /-- `ParseWebTTYSigningPublicKey` on a DER encoding. -/
  parsePublicKey : Bytes → Except String K
  /-- `ecdsa.VerifyASN1`. -/
  verifyASN1 : K → Bytes → Bytes → Bool
  /-- Deterministic `proto.Marshal` of a command configuration. -/
  marshalConfig : Config → Except String Bytes
  /-- Deterministic `proto.Marshal` of a session key grant. -/
  marshalGrant : SessionKeyGrant → Except String Bytes

variable {K : Type} (P : Primitives K)

/-- `ClientProofTranscript.Hash`. -/
def ClientProofTranscript.hash (t : ClientProofTranscript) : Bytes :=
  P.sha256 t.canonicalBytes

def webTTYSigningKeyID (publicKeyDER : Bytes) : Bytes :=
  P.sha256 (utf8 "rstream-webtty-signing-key-id-v1" ++ publicKeyDER)

/-- `hashWebTTYProtoMessage`: a missing message hashes like one without fields. -/
def hashWebTTYProtoMessage {M : Type} (P : Primitives K) (marshal : M → Except String Bytes)
    (label : String) (message : Option M) : Except Error Bytes :=
  match message with
  | none => .ok (P.sha256 [])
  | some message =>
    match marshal message with
    | .error e => .error (.wrap s!"marshal {label}: " (newError e) "")
    | .ok data => .ok (P.sha256 data)

def hashWebTTYConfig (config : Option Config) : Except Error Bytes :=
  hashWebTTYProtoMessage P P.marshalConfig "WebTTY config" config

def hashWebTTYSessionKeyGrant (grant : Option SessionKeyGrant) : Except Error Bytes :=
  hashWebTTYProtoMessage P P.marshalGrant "WebTTY session key grant" grant

def verifyWebTTYClientProofTranscript (publicKeyDER : Bytes)
    (t : ClientProofTranscript) (signature : Bytes) : Except Error Unit :=
  if (t.hash P).length ≠ 32 then
    .error (newError "WebTTY proof transcript hash must be 32 bytes")
  else
    match P.parsePublicKey publicKeyDER with
    | .error e => .error (newError e)
    | .ok key =>
      if P.verifyASN1 key (t.hash P) signature then .ok ()
      else .error (newError "invalid WebTTY proof signature")

structure ClientProofVerification where
  proof : ClientProof
  credential : Bytes
  transcript : ClientProofTranscript
  deriving DecidableEq, Repr

/-- The payload hooks of a session, by whether each one is set. -/
structure PayloadCrypto where
  encryptStdin : Bool
  decryptStdin : Bool
  encryptStdout : Bool
  decryptStdout : Bool
  encryptStderr : Bool
  decryptStderr : Bool
  deriving DecidableEq, Repr

/-- `ServerConfig`: the fields a session reads, with the build profile. -/
structure ServerConfig where
  profile : Profile
  sessionCloseDeadline : Option Int
  heartbeatInterval : Option Int
  payloadCrypto : Option PayloadCrypto
  payloadCryptoResolver : Bool
  requireSessionKeyGrant : Option Bool
  endpointIdentity : Option EndpointIdentity
  requireClientProof : Option Bool
  authorizedClientSigningKeys : List (Bytes × Bytes)
  authorizedClientSigningKey : Option (Bytes → Except Error Bytes)
  clientProofVerifier : Option (ClientProofVerification → Except Error Bytes)
  workspaceID : String
  projectID : String
  serverID : String

/-- What identifies a session in a transcript. -/
structure SessionIdentity where
  sessionID : String
  transport : String
  serverNonce : Bytes
  deriving DecidableEq, Repr

/-- The identifiers a verified proof leaves in the session log. -/
structure ClientIdentity where
  keyID : Bytes
  principal : String
  deviceID : String
  browserID : String
  deriving DecidableEq, Repr

/-- A proof error with the sentinel that marks the proof as invalid. -/
def invalidProof (reason : String) : Error :=
  .wrap "" (.leaf .clientProofInvalid) (": " ++ reason)

/-- Report any error of a step as an invalid proof. -/
def asInvalidProof {α : Type} (context : String) : Except Error α → Except Error α
  | .ok a => .ok a
  | .error e => .error (invalidProof (context ++ e.text Failure.msg))

/-- A step reported as an invalid proof succeeds when the step does. -/
@[simp] theorem asInvalidProof_eq_ok {α : Type} {context : String} {x : Except Error α} {a : α} :
    asInvalidProof context x = .ok a ↔ x = .ok a := by
  rcases x with err | b
  · exact ⟨nofun, nofun⟩
  · exact Iff.rfl

/-- `validateClientProofTimeWindow`; the text of a parse error is not modelled. -/
def validateClientProofTimeWindow (proof : ClientProof) (now : Int) : Except Error Unit :=
  match parseRFC3339 proof.issuedAt with
  | none => .error
      (.wrap "WebTTY client proof issued_at is invalid: " (newError "parsing time") "")
  | some issuedAt =>
    match parseRFC3339 proof.expiresAt with
    | none => .error
        (.wrap "WebTTY client proof expires_at is invalid: " (newError "parsing time") "")
    | some expiresAt =>
      if expiresAt < now then .error (newError "WebTTY client proof has expired")
      else if now + 5 * second < issuedAt then
        .error (newError "WebTTY client proof is not valid yet")
      else if 30 * second < timeSub expiresAt issuedAt then
        .error (newError "WebTTY client proof lifetime exceeds 30s")
      else .ok ()

variable (cfg : ServerConfig)

/-- The key the server holds as authorized: verifier, else static map, else resolver. -/
def authorizedPublicKey (v : ClientProofVerification) :
    Except Error Bytes :=
  match cfg.clientProofVerifier with
  | some verify => verify v
  | none =>
    let static := (cfg.authorizedClientSigningKeys.lookup v.proof.signingKeyID).getD []
    match static, cfg.authorizedClientSigningKey with
    | [], some resolve => resolve v.proof.signingKeyID
    | static, _ => .ok static

/-- The transcript the server rebuilds from its own state and the open request. -/
def expectedTranscript (s : SessionIdentity) (identity : EndpointIdentity)
    (proof : ClientProof) (suites : Int32 × Int32) (grantHash configHash credentialHash : Bytes) :
    ClientProofTranscript where
  protocolVersion := protocolVersionWebTTY1
  transport := s.transport
  workspaceID := cfg.workspaceID
  projectID := cfg.projectID
  serverID := cfg.serverID
  sessionID := s.sessionID
  serverSigningKeyID := identity.signingKeyID
  serverEncryptionKeyID := identity.encryptionKeyID
  serverNonce := s.serverNonce
  authRequirement := authRequirementClientProof
  payloadSuite := suites.1
  keyEnvelopeSuite := suites.2
  sessionKeyGrantHash := grantHash
  commandConfigHash := configHash
  attachGrantHash := []
  requestedRole := ""
  clientPrincipalID := proof.principalID.getD ""
  clientSigningKeyID := proof.signingKeyID
  clientCredentialHash := credentialHash
  issuedAt := proof.issuedAt
  expiresAt := proof.expiresAt

/-- The checks of `verifyClientProof` on a proof, up to the final locked section. -/
def checkClientProof (s : SessionIdentity)
    (identity : EndpointIdentity) (request : Open) (proof : ClientProof) (now : Int) :
    Except Error Unit := do
  failIf (proof.signatureSuite ≠ signatureSuiteECDSAP256SHA256)
    (invalidProof "unsupported signature suite")
  let serverIdentity := identity.public cfg.profile
  let serverSuite ← asInvalidProof ""
    (webTTYPublicIdentityKeyEnvelopeSuite cfg.profile serverIdentity)
  let suites ← asInvalidProof "" (webTTYProofSuites cfg.profile request.sessionKeyGrant serverSuite)
  failIf (proof.signingKeyID.length ≠ 32) (invalidProof "invalid signing key id")
  failIf (proof.signingKeyID ≠ webTTYSigningKeyID P proof.signingPublicKey)
    (invalidProof "signing key id does not match signing public key")
  asInvalidProof "" (validateClientProofTimeWindow proof now)
  let grantHash ← asInvalidProof "" (hashWebTTYSessionKeyGrant P request.sessionKeyGrant)
  let configHash ← asInvalidProof "" (hashWebTTYConfig P request.config)
  let credential := proof.credential.getD []
  let transcript := expectedTranscript cfg s serverIdentity proof suites grantHash configHash
    (P.sha256 credential)
  failIf (proof.transcriptHash ≠ transcript.hash P)
    (invalidProof "transcript hash does not match")
  asInvalidProof "signature is invalid: "
    (verifyWebTTYClientProofTranscript P proof.signingPublicKey transcript proof.signature)
  let key ← authorizedPublicKey cfg ⟨proof, credential, transcript⟩
  failIf (key = []) (.leaf .clientProofUnauthorized)
  failIf (key ≠ proof.signingPublicKey)
    (invalidProof "signing key does not match the authorized key")

/-- `verifyClientProof`; `closed` is the flag its final locked section reads. -/
def verifyClientProof (s : SessionIdentity)
    (request : Option Open) (now : Int) (closed : Bool) :
    Except Error (Option ClientIdentity) :=
  if cfg.requireClientProof ≠ some true then .ok none
  else
    match request with
    | none => .error (.leaf .clientProofRequired)
    | some request =>
      match request.clientProof, cfg.endpointIdentity with
      | none, _ => .error (.leaf .clientProofRequired)
      | some _, none => .error (newError
          "WebTTY server endpoint identity is required when client proof is required")
      | some proof, some identity => do
        checkClientProof P cfg s identity request proof now
        failIf (closed = true) (newError "session is closed")
        return some {
          keyID := proof.signingKeyID
          principal := trimSpace (proof.principalID.getD "")
          deviceID := trimSpace (proof.deviceID.getD "")
          browserID := trimSpace (proof.browserID.getD "") }

end Rstream.WebTTY
