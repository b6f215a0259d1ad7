import Rstream.Go.Base64
import Rstream.Go.Json
import Rstream.WebTTY.ClientProof

/-!
# End-to-end payload ciphers

The client draws a payload key, wraps it for every recipient and sends the wrapped
keys as a session key grant; a recipient unwraps its envelope. Both sides then
encrypt terminal payloads with the key, and authenticate with each payload the
stream, the suite, the key, the context, the nonce and the length it belongs to.
-/

namespace Rstream.WebTTY

open Rstream.Core Go

structure E2EIdentity where
  keyEnvelopeSuite : Int32
  keyID : Bytes
  publicKey : Bytes
  privateKey : Bytes
  deriving DecidableEq, Repr

structure E2ERecipient where
  id : String
  kind : String
  keyEnvelopeSuite : Int32
  keyID : Bytes
  publicKey : Bytes
  deriving DecidableEq, Repr

/-- `E2EPayloadCryptoConfig`, without its source of randomness. -/
structure E2EPayloadCryptoConfig where
  workspaceID : String
  projectID : String
  serverID : String
  payloadSuite : Int32
  payloadKey : Bytes
  payloadKeyID : Bytes
  keyContext : Bytes
  keyEnvelopeSuite : Int32
  recipients : List E2ERecipient
  deriving DecidableEq, Repr

/-- `e2ePayloadCipher`, without its source of randomness. -/
structure PayloadCipher where
  payloadSuite : Int32
  payloadKey : Bytes
  payloadKeyID : Bytes
  keyContext : Bytes
  keyEnvelopeSuite : Int32
  keyEnvelopes : List KeyEnvelope
  deriving DecidableEq, Repr

/-- The curves of the key envelopes. -/
inductive Curve
  | x25519
  | p256
  deriving DecidableEq, Repr

/-- The step of an HPKE operation that failed. -/
inductive HpkeStep
  /-- Taking the key over from its curve. -/
  | key
  /-- Setting the sender or the recipient up. -/
  | setup
  /-- Sealing or opening the message. -/
  | message
  deriving DecidableEq, Repr

/-- The cryptographic functions the ciphers call, over the keys of both curves and the randomness
`R` that one call of the library draws. -/
structure E2EPrimitives (Pub Priv R : Type) where
  /-- `sha256.Sum256`. -/
  sha256 : Bytes → Bytes
  /-- `Curve.NewPublicKey`. -/
  newPublicKey : Curve → Bytes → Except String Pub
  /-- `Curve.NewPrivateKey`. -/
  newPrivateKey : Curve → Bytes → Except String Priv
  /-- `PrivateKey.PublicKey`. -/
  publicKey : Priv → Pub
  /-- `PublicKey.Bytes`. -/
  publicKeyBytes : Pub → Bytes
  /-- `ecdh.P256().GenerateKey`. -/
  generateKey : R → Except String Priv
  /-- `PrivateKey.ECDH`. -/
  ecdh : Priv → Pub → Except String Bytes
  /-- `hkdf.Key` of a shared secret and an info string. -/
  hkdf : Bytes → Bytes → Except String Bytes
  /-- `hpke.NewSender` with an info string and `Sender.Seal` of additional data and a plaintext:
  the encapsulated key and the ciphertext. -/
  hpkeSeal : Pub → R → Bytes → Bytes → Bytes → Except (HpkeStep × String) (Bytes × Bytes)
  /-- `hpke.NewRecipient` with an encapsulated key and an info string, and `Recipient.Open` of
  additional data and a ciphertext. -/
  hpkeOpen : Priv → Bytes → Bytes → Bytes → Bytes → Except (HpkeStep × String) Bytes
  /-- `Seal` of AES-GCM with a key, a nonce, a plaintext and additional data. -/
  gcmSeal : Bytes → Bytes → Bytes → Bytes → Bytes
  /-- `Open` of AES-GCM with a key, a nonce, a ciphertext and additional data. -/
  gcmOpen : Bytes → Bytes → Bytes → Bytes → Except String Bytes
  /-- `Seal` of AES-GCM that draws its nonce and puts it into the ciphertext. -/
  randomSeal : Bytes → R → Bytes → Bytes → Bytes
  /-- `Open` of AES-GCM with the nonce in the ciphertext. -/
  randomOpen : Bytes → Bytes → Bytes → Except String Bytes

/-- The result of reading exactly so many random bytes. -/
abbrev Draw (n : Nat) := Except String { data : Bytes // data.length = n }

variable {Pub Priv R : Type} (P : E2EPrimitives Pub Priv R)

section Grant

def e2eKeyID (publicKey : Bytes) : Bytes :=
  (P.sha256 (utf8 "rstream-webtty-e2e-key-id/v1" ++ publicKey)).take 16

/-- The curve of a suite with the sizes of its keys. -/
structure CurveParameters where
  curve : Curve
  publicKeySize : Nat
  privateKeySize : Nat
  deriving DecidableEq, Repr

def e2eCurveParameters (profile : Profile) (suite : Int32) : Except Error CurveParameters := do
  validateProfileKeyEnvelopeSuite profile suite
  if suite = keyEnvelopeSuiteHPKEX25519 then .ok ⟨.x25519, 32, 32⟩
  else if suite = keyEnvelopeSuiteP256 then .ok ⟨.p256, 65, 32⟩
  else .error (newError s!"unsupported E2E key envelope suite {suite}")

/-- The suite of a recipient, inferred from its key if it has none. -/
def recipientSuite (profile : Profile) (recipient : E2ERecipient) : Except Error Int32 :=
  if recipient.keyEnvelopeSuite = 0 then inferE2EKeyEnvelopeSuite profile recipient.publicKey
  else .ok recipient.keyEnvelopeSuite

/-- `inferE2ERecipientSuite`, with the suite selected so far. -/
def inferE2ERecipientSuite (profile : Profile) : Int32 → List E2ERecipient → Except Error Int32
  | selected, [] => .ok selected
  | selected, recipient :: rest => do
    let suite ← recipientSuite profile recipient
    validateProfileKeyEnvelopeSuite profile suite
    if selected = 0 then inferE2ERecipientSuite profile suite rest
    else if selected ≠ suite then
      .error (newError "E2E recipients use multiple key envelope suites")
    else inferE2ERecipientSuite profile selected rest

def e2eHPKEInfo (payloadSuite : Int32) (payloadKeyID keyContext : Bytes) (suite : Int32) : Bytes :=
  Field.encodeAll [.bytes (utf8 "rstream-webtty-e2e-key/v1"), .word payloadSuite.toUInt32,
    .word suite.toUInt32, .bytes payloadKeyID, .bytes keyContext]

def e2eHPKEAAD (recipientKeyID : Bytes) (payloadSuite : Int32) (payloadKeyID keyContext : Bytes)
    (suite : Int32) : Bytes :=
  Field.encodeAll [.bytes (utf8 "key-wrap"), .word payloadSuite.toUInt32, .word suite.toUInt32,
    .bytes recipientKeyID, .bytes payloadKeyID, .bytes keyContext]

/-- An error with a context. -/
def withContext {α : Type} (context : String) : Except Error α → Except Error α
  | .ok a => .ok a
  | .error e => .error (.wrap context e "")

/-- An error of the library with a context. -/
def libraryError {α : Type} (context : String) : Except String α → Except Error α
  | .ok a => .ok a
  | .error e => .error (.wrap context (newError e) "")

/-- An error of an HPKE operation with the context of its step. -/
def hpkeError {α : Type} (context : HpkeStep → String) :
    Except (HpkeStep × String) α → Except Error α
  | .ok a => .ok a
  | .error (step, e) => .error (.wrap (context step) (newError e) "")

/-- `aes.NewCipher`. -/
def newCipher (key : Bytes) : Except String Unit :=
  if key.length = 16 ∨ key.length = 24 ∨ key.length = 32 then .ok ()
  else .error s!"crypto/aes: invalid key size {key.length}"

/-- The context of a failed HPKE step when a key is wrapped. -/
def sealContext : HpkeStep → String
  | .key => "create E2E HPKE public key: "
  | .setup => "create E2E HPKE sender: "
  | .message => "wrap E2E payload key: "

/-- The context of a failed HPKE step when a key is unwrapped. -/
def openContext : HpkeStep → String
  | .key => "create E2E HPKE private key: "
  | .setup => "create E2E HPKE recipient: "
  | .message => ""

/-- `sealE2EKeyEnvelope`; the P-256 suite draws an ephemeral key and a nonce. -/
def sealE2EKeyEnvelope (publicKey : Pub) (suite : Int32)
    (info aad payloadKey : Bytes) (entropy : R × R) : Except Error (Bytes × Bytes) :=
  if suite = keyEnvelopeSuiteHPKEX25519 then
    hpkeError sealContext (P.hpkeSeal publicKey entropy.1 info aad payloadKey)
  else if suite = keyEnvelopeSuiteP256 then do
    let ephemeral ← libraryError "generate E2E P-256 ephemeral key: " (P.generateKey entropy.1)
    let sharedSecret ← libraryError "derive E2E P-256 shared secret: " (P.ecdh ephemeral publicKey)
    let wrappingKey ← libraryError "derive E2E wrapping key: " (P.hkdf sharedSecret info)
    libraryError "create E2E wrapping cipher: " (newCipher wrappingKey)
    return (P.publicKeyBytes (P.publicKey ephemeral),
      P.randomSeal wrappingKey entropy.2 payloadKey aad)
  else .error (newError s!"unsupported E2E key envelope suite {suite}")

def openE2EKeyEnvelope (privateKey : Priv) (suite : Int32)
    (encapsulatedKey wrappedKey info aad : Bytes) : Except Error Bytes :=
  if suite = keyEnvelopeSuiteHPKEX25519 then
    hpkeError openContext (P.hpkeOpen privateKey encapsulatedKey info aad wrappedKey)
  else if suite = keyEnvelopeSuiteP256 then do
    let ephemeral ← libraryError "parse E2E P-256 ephemeral key: "
      (P.newPublicKey .p256 encapsulatedKey)
    let sharedSecret ← libraryError "derive E2E P-256 shared secret: " (P.ecdh privateKey ephemeral)
    let wrappingKey ← libraryError "derive E2E wrapping key: " (P.hkdf sharedSecret info)
    libraryError "create E2E wrapping cipher: " (newCipher wrappingKey)
    libraryError "" (P.randomOpen wrappingKey wrappedKey aad)
  else .error (newError s!"unsupported E2E key envelope suite {suite}")

/-- The key ID of a recipient, computed if it has none. -/
def recipientKeyID (recipient : E2ERecipient) : Bytes :=
  if recipient.keyID = [] then e2eKeyID P recipient.publicKey else recipient.keyID

def wrapE2EPayloadKey (profile : Profile) (payloadKey : Bytes)
    (payloadSuite : Int32) (payloadKeyID keyContext : Bytes) (suite : Int32)
    (recipient : E2ERecipient) (entropy : R × R) : Except Error KeyEnvelope := do
  let parameters ← e2eCurveParameters profile suite
  let own ← recipientSuite profile recipient
  failIf (own ≠ suite)
    (newError s!"E2E recipient suite {own} does not match key envelope suite {suite}")
  failIf (recipient.publicKey.length ≠ parameters.publicKeySize)
    (newError s!"E2E recipient public key must be {parameters.publicKeySize} bytes")
  let keyID := recipientKeyID P recipient
  failIf (keyID.length ≠ 16) (newError "E2E recipient key id must be 16 bytes")
  let publicKey ← libraryError "parse E2E recipient public key: "
    (P.newPublicKey parameters.curve recipient.publicKey)
  let envelope ← withContext "wrap E2E payload key: " (sealE2EKeyEnvelope P publicKey suite
    (e2eHPKEInfo payloadSuite payloadKeyID keyContext suite)
    (e2eHPKEAAD keyID payloadSuite payloadKeyID keyContext suite) payloadKey entropy)
  return ⟨keyID, envelope.1, envelope.2⟩

/-- Wrap the payload key for one recipient after another. -/
def wrapAll (P : E2EPrimitives Pub Priv R) (profile : Profile) (payloadKey : Bytes)
    (payloadSuite : Int32) (payloadKeyID keyContext : Bytes) (suite : Int32) :
    List E2ERecipient → (Nat → R × R) → Except Error (List KeyEnvelope)
  | [], _ => .ok []
  | recipient :: rest, entropy => do
    let envelope ← wrapE2EPayloadKey P profile payloadKey payloadSuite payloadKeyID keyContext suite
      recipient (entropy 0)
    let envelopes ← wrapAll P profile payloadKey payloadSuite payloadKeyID keyContext suite rest
      fun n => entropy (n + 1)
    return envelope :: envelopes

def isKnownE2ERecipientKind (kind : String) : Bool :=
  kind ∈ ["public_key", "user", "workspace_device", "workspace_keyset", "server"]

/-- The entry of a recipient in the key context: its key ID, kind and ID. -/
def keyContextRecipient (recipient : E2ERecipient) :
    Except Error Json := do
  let keyID := recipientKeyID P recipient
  failIf (keyID.length ≠ 16) (newError "E2E recipient key id must be 16 bytes")
  let untyped := blank recipient.kind && blank recipient.id
  let kind := if untyped then "public_key" else trimSpace recipient.kind
  let id := if untyped then rawURLEncode keyID else trimSpace recipient.id
  failIf (kind = "" ∨ id = "") (newError "E2E typed recipients require both kind and id")
  failIf (isKnownE2ERecipientKind kind = false)
    (newError s!"unsupported E2E recipient kind {strconvQuote kind}")
  return .object [("key_id", .string (rawURLEncode keyID)), ("kind", .string kind),
    ("id", .string id)]

/-- A string member that is left out when it is empty. -/
def omitEmpty (name value : String) : List (String × Json) :=
  if value = "" then [] else [(name, .string value)]

def implicitE2EKeyContextFromRecipients
    (cfg : E2EPayloadCryptoConfig) : Except Error Bytes := do
  let recipients ← cfg.recipients.mapM (keyContextRecipient P)
  return utf8 (String.ofList (Json.object (
    [("v", .int 1), ("type", .string "rstream.webtty.session_key_grant")] ++
    omitEmpty "workspace_id" (trimSpace cfg.workspaceID) ++
    omitEmpty "project_id" (trimSpace cfg.projectID) ++
    omitEmpty "server_id" (trimSpace cfg.serverID) ++
    [("recipients", .array recipients)])).render)

/-- The context of a grant: the configured one, or the one of its recipients. -/
def grantKeyContext (cfg : E2EPayloadCryptoConfig) :
    Except Error Bytes :=
  if cfg.keyContext = [] then implicitE2EKeyContextFromRecipients P cfg else .ok cfg.keyContext

/-- The suite of a grant: the configured one, the one of the recipients, or the default. -/
def grantSuite (profile : Profile) (cfg : E2EPayloadCryptoConfig) : Except Error Int32 :=
  if cfg.keyEnvelopeSuite ≠ 0 then .ok cfg.keyEnvelopeSuite
  else do
    let suite ← inferE2ERecipientSuite profile 0 cfg.recipients
    return if suite = 0 then defaultE2EKeyEnvelopeSuite profile else suite

/-- The payload suite of a grant: the configured one, or the one of its envelopes. -/
def grantPayloadSuite (profile : Profile) (cfg : E2EPayloadCryptoConfig) (suite : Int32) :
    Except Error Int32 :=
  if cfg.payloadSuite = 0 then e2ePayloadSuiteForKeyEnvelopeSuite profile suite
  else .ok cfg.payloadSuite

/-- Bytes that are configured, or drawn if they are not. -/
def configuredOr {n : Nat} (configured : Bytes) (draw : Draw n) (what : String) :
    Except Error Bytes :=
  if configured = [] then
    match draw with
    | .ok data => .ok data.1
    | .error e => .error (.wrap s!"generate E2E {what}: " (newError e) "")
  else .ok configured

/-- The randomness one construction of a client cipher draws. -/
structure ClientDraws (R : Type) where
  payloadKey : Draw 32
  payloadKeyID : Draw 16
  /-- What the library draws for each envelope in turn. -/
  envelopes : Nat → R × R

def newE2EClientPayloadCipher (profile : Profile)
    (draws : ClientDraws R) (cfg : E2EPayloadCryptoConfig) : Except Error PayloadCipher := do
  let suite ← grantSuite profile cfg
  let payloadSuite ← grantPayloadSuite profile cfg suite
  validateE2ESuites profile payloadSuite suite
  let payloadKey ← configuredOr cfg.payloadKey draws.payloadKey "payload key"
  failIf (payloadKey.length ≠ 32) (newError "E2E payload key must be 32 bytes")
  let payloadKeyID ← configuredOr cfg.payloadKeyID draws.payloadKeyID "payload key id"
  failIf (payloadKeyID.length ≠ 16) (newError "E2E payload key id must be 16 bytes")
  failIf (cfg.recipients = [])
    (newError "E2E client payload crypto requires at least one recipient")
  let keyContext ← grantKeyContext P cfg
  let keyEnvelopes ← wrapAll P profile payloadKey payloadSuite payloadKeyID keyContext suite
    cfg.recipients draws.envelopes
  return ⟨payloadSuite, payloadKey, payloadKeyID, keyContext, suite, keyEnvelopes⟩

def PayloadCipher.sessionKeyGrant (c : PayloadCipher) : SessionKeyGrant :=
  ⟨c.payloadSuite, c.payloadKeyID, c.keyEnvelopes, c.keyContext, c.keyEnvelopeSuite⟩

def unwrapE2EPayloadKey (envelope : KeyEnvelope)
    (payloadSuite : Int32) (payloadKeyID keyContext : Bytes) (suite : Int32) (privateKey : Priv) :
    Except Error Bytes := do
  let payloadKey ← withContext "unwrap E2E payload key: " (openE2EKeyEnvelope P privateKey suite
    envelope.encapsulatedKey envelope.wrappedKey
    (e2eHPKEInfo payloadSuite payloadKeyID keyContext suite)
    (e2eHPKEAAD envelope.recipientKeyID payloadSuite payloadKeyID keyContext suite))
  failIf (payloadKey.length ≠ 32) (newError "E2E unwrapped payload key must be 32 bytes")
  return payloadKey

/-- The suite of an identity, the default one if it declares none. -/
def identitySuite (profile : Profile) (identity : E2EIdentity) : Int32 :=
  if identity.keyEnvelopeSuite = 0 then defaultE2EKeyEnvelopeSuite profile
  else identity.keyEnvelopeSuite

/-- The key ID of an identity, computed from its public key or else from its private one. -/
def identityKeyID (identity : E2EIdentity) (publicKeySize : Nat)
    (privateKey : Priv) : Except Error Bytes :=
  if identity.keyID ≠ [] then .ok identity.keyID
  else
    let publicKey := if identity.publicKey = [] then P.publicKeyBytes (P.publicKey privateKey)
      else identity.publicKey
    if publicKey.length ≠ publicKeySize then
      .error (newError s!"E2E identity public key must be {publicKeySize} bytes")
    else .ok (e2eKeyID P publicKey)

def e2eIdentityPrivateKey (profile : Profile)
    (identity : E2EIdentity) (suite : Int32) : Except Error (Bytes × Priv) := do
  let own := identitySuite profile identity
  failIf (own ≠ suite)
    (newError s!"E2E identity suite {own} does not match key envelope suite {suite}")
  let parameters ← e2eCurveParameters profile suite
  failIf (identity.privateKey.length ≠ parameters.privateKeySize)
    (newError s!"E2E identity private key must be {parameters.privateKeySize} bytes")
  let privateKey ← libraryError "parse E2E identity private key: "
    (P.newPrivateKey parameters.curve identity.privateKey)
  let keyID ← identityKeyID P identity parameters.publicKeySize privateKey
  failIf (keyID.length ≠ 16) (newError "E2E identity key id must be 16 bytes")
  return (keyID, privateKey)

/-- The first envelope for a key ID. -/
def matchedEnvelope (keyID : Bytes) (envelopes : List KeyEnvelope) : Except Error KeyEnvelope :=
  match envelopes.find? fun envelope => envelope.recipientKeyID = keyID with
  | some envelope => .ok envelope
  | none => .error
    (newError "E2E session key grant does not contain a key envelope for this identity")

def newE2EServerPayloadCipher (profile : Profile)
    (grant : Option SessionKeyGrant) (identity : E2EIdentity) : Except Error PayloadCipher :=
  match grant with
  | none => .error (newError "missing E2E session key grant")
  | some grant => do
    validateE2ESuites profile grant.payloadSuite grant.keyEnvelopeSuite
    failIf (grant.payloadKeyID.length ≠ 16) (newError "E2E payload key id must be 16 bytes")
    let own ← e2eIdentityPrivateKey P profile identity grant.keyEnvelopeSuite
    let matched ← matchedEnvelope own.1 grant.keyEnvelopes
    let payloadKey ← unwrapE2EPayloadKey P matched grant.payloadSuite grant.payloadKeyID
      grant.keyContext grant.keyEnvelopeSuite own.2
    return ⟨grant.payloadSuite, payloadKey, grant.payloadKeyID, grant.keyContext,
      grant.keyEnvelopeSuite, []⟩

end Grant

section Payload

/-- The streams a cipher has functions for. -/
inductive PayloadStream
  | stdin
  | stdout
  | stderr
  deriving DecidableEq, Repr

/-- The name a stream is authenticated under. -/
def PayloadStream.name : PayloadStream → String
  | .stdin => "stdin"
  | .stdout => "stdout"
  | .stderr => "stderr"

/-- The fields `e2ePayloadAAD` writes. -/
def payloadFields (stream : PayloadStream) (metadata : PayloadCryptoMetadata)
    (plaintextLength : UInt32) : List Field :=
  [.bytes (utf8 "rstream-webtty-e2e-payload/v1"), .bytes (utf8 stream.name),
    .word metadata.payloadSuite.toUInt32, .bytes metadata.payloadKeyID, .bytes metadata.aadContext,
    .bytes metadata.nonce, .word plaintextLength]

def e2ePayloadAAD (stream : PayloadStream) (metadata : PayloadCryptoMetadata)
    (plaintextLength : UInt32) : Bytes :=
  Field.encodeAll (payloadFields stream metadata plaintextLength)

end Payload

end Rstream.WebTTY
