import Rstream.Go.Base64
import Rstream.Go.JsonStruct
import Rstream.WebTTY.ClientProof
import Rstream.Workspace.CanonicalJson

/-!
# Workspace client credentials

A client of a workspace-managed server proves that its signing key belongs to a
trusted device: it sends an envelope with a payload that the device signed, and in
it the trust payload with which the workspace keyset trusted the device. The server
checks both signatures and every name in between.
-/

namespace Rstream.Workspace

open Go WebTTY Json

section Envelope

/-- The values of a map after a decoder has written more members into it. -/
def mergeMembers (o : Object) (members : List (String × Json))
    (h : ∀ m ∈ members, Json.Plain m.2) : Object where
  members := lastValues (o.members ++ toAnyMembers members)
  valid := by
    rw [valid, Bool.and_eq_true, decide_eq_true_eq, validMembers_iff]
    refine ⟨lastValues_nodup _, fun m hm => ?_⟩
    rcases List.mem_append.mp ((lastValues_sublist _).subset hm) with hold | hnew
    · have hvalid := o.valid
      rw [valid, Bool.and_eq_true, validMembers_iff] at hvalid
      exact hvalid.2 m hold
    · rw [toAnyMembers_eq] at hnew
      obtain ⟨m', hm', rfl⟩ := List.mem_map.mp hnew
      exact (h m' hm').toAny_valid

/-- A map without members. -/
def emptyObject : Object := ⟨[], rfl⟩

/-- `webTTYWorkspaceClientCredentialEnvelope`. -/
structure Envelope where
  version : Int
  payload : Object
  signature : String

/-- The envelope before it is decoded. -/
def Envelope.zero : Envelope := ⟨0, emptyObject, ""⟩

/-- Decode the version: null changes nothing, and a value of another type is an error. -/
def Envelope.setVersion (e : Envelope) : Json → Option Envelope
  | .null => some e
  | .number text => (parseInt64 text).map fun n => { e with version := n }
  | _ => none

/-- Decode the payload: null clears the map, and an object is written into it. -/
def Envelope.setPayload (e : Envelope) : (v : Json) → v.Plain → Option Envelope
  | .null, _ => some { e with payload := emptyObject }
  | .object members, h => some { e with payload := mergeMembers e.payload members h.members }
  | _, _ => none

/-- Decode the signature. -/
def Envelope.setSignature (e : Envelope) : Json → Option Envelope
  | .null => some e
  | .string s => some { e with signature := s }
  | _ => none

/-- Decode one member into the envelope. -/
def Envelope.setMember (e : Envelope) (m : String × Json) (h : m.2.Plain) : Option Envelope :=
  if findsField "v" m.1 then e.setVersion m.2
  else if findsField "payload" m.1 then e.setPayload m.2 h
  else if findsField "signature" m.1 then e.setSignature m.2
  else some e

/-- Decode the members of an object into the envelope. -/
def Envelope.setMembers (e : Envelope) :
    (members : List (String × Json)) → (∀ m ∈ members, m.2.Plain) → Option Envelope
  | [], _ => some e
  | m :: rest, h =>
    (e.setMember m (h m List.mem_cons_self)).bind fun e =>
      e.setMembers rest fun m hm => h m (List.mem_cons_of_mem _ hm)

/-- Decode a value into a new envelope. -/
def Envelope.decode : (v : Json) → v.Plain → Option Envelope
  | .null, _ => some .zero
  | .object members, h => Envelope.zero.setMembers members h.members
  | _, _ => none

/-- `ensureSingleWorkspaceTrustJSONValue`: nothing but white space follows the decoded value. -/
def ensureSingleWorkspaceTrustJSONValue (rest : List Char) : Except Error Unit :=
  match decodeNext rest with
  | .value _ _ _ =>
    .error (newError "decode workspace-managed WebTTY trust payload: multiple JSON values")
  | .failed =>
    .error (.wrap "decode workspace-managed WebTTY trust payload: " (newError "invalid JSON") "")
  | .eof => .ok ()

/-- The first value of a credential, and what follows. -/
def decodeEnvelope (raw : Bytes) : Except Error (Envelope × List Char) :=
  match decodeNext (decodeText raw) with
  | .value v plain rest =>
    match Envelope.decode v plain with
    | some envelope => .ok (envelope, rest)
    | none =>
      .error (.wrap "decode workspace-managed WebTTY client credential: "
        (newError "cannot unmarshal") "")
  | _ =>
    .error (.wrap "decode workspace-managed WebTTY client credential: "
      (newError "invalid JSON") "")

def decodeWebTTYWorkspaceClientCredential (raw : Bytes) : Except Error Envelope := do
  let (envelope, rest) ← decodeEnvelope raw
  ensureSingleWorkspaceTrustJSONValue rest
  failIf (envelope.version ≠ 1) (newError
    s!"workspace-managed WebTTY client credential has unsupported version {envelope.version}")
  failIf (envelope.payload.members = [])
    (newError "workspace-managed WebTTY client credential payload is required")
  failIf (blank envelope.signature = true)
    (newError "workspace-managed WebTTY client credential signature is required")
  return envelope

end Envelope

section Signatures

/-- The cryptographic functions that check a credential. -/
structure Verifier (K : Type) where
  /-- `sha256.Sum256`. -/
  sha256 : Bytes → Bytes
  /-- `ParseWebTTYSigningPublicKey` on a DER encoding. -/
  parsePublicKey : Bytes → Except String K
  /-- `ecdsa.VerifyASN1`. -/
  verifyASN1 : K → Bytes → Bytes → Bool
  /-- `ecdsa.Verify`. -/
  verify : K → Bytes → Nat → Nat → Bool

variable {K : Type}

/-- `big.Int.SetBytes`. -/
def setBytes (data : Bytes) : Nat := data.foldl (fun n b => 256 * n + b.toNat) 0

variable (P : Verifier K)

/-- `workspaceP256PublicSigningKey`; the position in a base64 error is not modelled. -/
def workspaceP256PublicSigningKey (publicSigningKey : String) :
    Except String K :=
  match rawURLDecode publicSigningKey with
  | none => .error "illegal base64 data"
  | some der => P.parsePublicKey der

/-- The signature is one of the key on the digest, in either of its two forms. -/
def acceptsSignature (key : K) (digest signature : Bytes) : Bool :=
  P.verifyASN1 key digest signature ||
    (signature.length == 64 &&
      P.verify key digest (setBytes (signature.take 32)) (setBytes (signature.drop 32)))

def verifyWorkspaceP256Signature (publicSigningKey : String) (payload : Object)
    (signature label : String) : Except Error Unit :=
  match workspaceP256PublicSigningKey P publicSigningKey with
  | .error e => .error (.wrap (label ++ " public signing key is invalid: ") (newError e) "")
  | .ok key =>
    match workspaceCanonicalJSON (.object payload.members) with
    | .error e => .error (.wrap (label ++ " payload is invalid: ") (newError e) "")
    | .ok canonical =>
      match rawURLDecode signature with
      | none =>
        .error (.wrap (label ++ " signature is not base64url: ") (newError "illegal base64 data") "")
      | some rawSignature =>
        if acceptsSignature P key (P.sha256 (utf8 canonical)) rawSignature then .ok ()
        else .error (newError (label ++ " signature is invalid"))

def workspaceSHA256Base64URL (value : Json) : Except Error String :=
  match workspaceCanonicalJSON value with
  | .error e => .error (newError e)
  | .ok canonical => .ok (rawURLEncode (P.sha256 (utf8 canonical)))

/-- The value a fingerprint is made of. -/
def publicKeysPayload (publicEncryptionKey publicSigningKey : String) : Object where
  members := [("v", .int 1), ("type", .string "workspace.public_keys"),
    ("public_encryption_key", .string publicEncryptionKey),
    ("public_signing_key", .string publicSigningKey)]
  valid := by simp [valid, validMembers]

def workspacePublicKeyFingerprint (publicEncryptionKey publicSigningKey : String) :
    Except Error String :=
  (workspaceSHA256Base64URL P
    (.object (publicKeysPayload publicEncryptionKey publicSigningKey).members)).map
      fun hash => "sha256:" ++ hash

def encodeE2EKeyMaterial (data : Bytes) : String := rawURLEncode data

/-- `DecodeE2EKeyMaterial`; the position in a base64 error is not modelled. -/
def decodeE2EKeyMaterial (value : String) (expectedSize : Nat) (field : String) :
    Except Error Bytes :=
  if trimSpace value = "" then .error (newError (field ++ " is empty"))
  else
    match rawURLDecode (trimSpace value) with
    | none => .error (.wrap ("decode " ++ field ++ ": ") (newError "illegal base64 data") "")
    | some data =>
      if 0 < expectedSize ∧ data.length ≠ expectedSize then
        .error (newError s!"{field} must decode to {expectedSize} bytes")
      else if encodeE2EKeyMaterial data ≠ trimSpace value then
        .error (newError (field ++ " must be canonical base64url without padding"))
      else .ok data

end Signatures

section Verification

variable {K : Type}

/-- `webTTYServerEnrollmentFile`: the fields that a credential is compared with. -/
structure ServerEnrollment where
  serverID : String
  workspaceID : String
  projectID : String
  workspaceTrustKeysetID : String
  workspaceTrustKeysetFingerprint : String
  workspaceTrustPublicSigningKey : String
  encryptionPolicy : String
  deriving DecidableEq, Repr

def workspaceClientCredentialTrustPayloadMatches (enrollment : ServerEnrollment)
    (credential trustPayload : Object) : Bool :=
  let trust := workspaceTrustString trustPayload
  let deviceFingerprint := workspaceTrustString credential "device_fingerprint"
  let deviceKeyID := workspaceTrustString credential "device_key_id"
  if trust "workspace_id" ≠ enrollment.workspaceID then false
  else if trust "type" = "workspace.keyset.setup" then
    trust "keyset_fingerprint" = enrollment.workspaceTrustKeysetFingerprint &&
      trust "keyset_public_signing_key" = enrollment.workspaceTrustPublicSigningKey &&
      trust "device_fingerprint" = deviceFingerprint
  else if trust "type" = "workspace.device.approve" then
    trust "keyset_id" = enrollment.workspaceTrustKeysetID &&
      trust "target_device_key_id" = deviceKeyID &&
      trust "target_fingerprint" = deviceFingerprint
  else if trust "type" = "workspace.recovery_kit.use" then
    trust "keyset_id" = enrollment.workspaceTrustKeysetID &&
      trust "device_fingerprint" = deviceFingerprint
  else false

/-- The payload of a credential names the server and the keyset of an enrollment. -/
structure NamesEnrollment (enrollment : ServerEnrollment) (payload : Object) : Prop where
  workspace : workspaceTrustString payload "workspace_id" = enrollment.workspaceID
  project : workspaceTrustString payload "project_id" = enrollment.projectID
  server : workspaceTrustString payload "server_id" = enrollment.serverID
  keyset : workspaceTrustString payload "trust_keyset_id" = enrollment.workspaceTrustKeysetID

/-- What a trust payload says about a device, by its type. -/
inductive Trusts (enrollment : ServerEnrollment) (trust : Object)
    (fingerprint deviceKeyID : String) : Prop
  | setup (type : workspaceTrustString trust "type" = "workspace.keyset.setup")
      (keyset : workspaceTrustString trust "keyset_fingerprint" =
        enrollment.workspaceTrustKeysetFingerprint)
      (key : workspaceTrustString trust "keyset_public_signing_key" =
        enrollment.workspaceTrustPublicSigningKey)
      (device : workspaceTrustString trust "device_fingerprint" = fingerprint)
  | approve (type : workspaceTrustString trust "type" = "workspace.device.approve")
      (keyset : workspaceTrustString trust "keyset_id" = enrollment.workspaceTrustKeysetID)
      (deviceKey : workspaceTrustString trust "target_device_key_id" = deviceKeyID)
      (device : workspaceTrustString trust "target_fingerprint" = fingerprint)
  | recovery (type : workspaceTrustString trust "type" = "workspace.recovery_kit.use")
      (keyset : workspaceTrustString trust "keyset_id" = enrollment.workspaceTrustKeysetID)
      (device : workspaceTrustString trust "device_fingerprint" = fingerprint)

/-- The payloads have the same string members. -/
def SameStrings (payload payload' : Object) : Prop :=
  ∀ key, workspaceTrustString payload key = workspaceTrustString payload' key

/-- A trust payload with the same strings says the same. -/
theorem Trusts.congr {enrollment : ServerEnrollment} {trust trust' : Object}
    {fingerprint deviceKeyID : String} (h : Trusts enrollment trust fingerprint deviceKeyID)
    (hsame : SameStrings trust' trust) : Trusts enrollment trust' fingerprint deviceKeyID := by
  cases h with
  | setup type keyset key device =>
    exact .setup ((hsame _).trans type) ((hsame _).trans keyset) ((hsame _).trans key)
      ((hsame _).trans device)
  | approve type keyset deviceKey device =>
    exact .approve ((hsame _).trans type) ((hsame _).trans keyset) ((hsame _).trans deviceKey)
      ((hsame _).trans device)
  | recovery type keyset device =>
    exact .recovery ((hsame _).trans type) ((hsame _).trans keyset) ((hsame _).trans device)

/-- The member of a map that is a map itself. -/
def objectMember (payload : Object) (key : String) : Option Object :=
  match h : payload.get? key with
  | some (.object members) => some ⟨members, payload.valid_of_get? h⟩
  | _ => none

/-- The trust payload inside a credential. -/
def trustPayloadOf (payload : Object) : Except Error Object :=
  match objectMember payload "trust_payload" with
  | none =>
    .error (newError "workspace-managed WebTTY client credential trust payload is invalid")
  | some trustPayload => .ok trustPayload

def validateWebTTYWorkspaceClientCredentialPayload (P : Verifier K) (enrollment : ServerEnrollment)
    (verification : ClientProofVerification) (payload : Object) : Except Error Unit := do
  let member := workspaceTrustString payload
  failIf (member "workspace_id" ≠ enrollment.workspaceID ∨
      member "project_id" ≠ enrollment.projectID ∨ member "server_id" ≠ enrollment.serverID)
    (newError "workspace-managed WebTTY client credential does not match this server")
  failIf (member "trust_keyset_id" ≠ enrollment.workspaceTrustKeysetID)
    (newError "workspace-managed WebTTY client credential keyset does not match server enrollment")
  failIf (member "client_signing_key_id" ≠ encodeE2EKeyMaterial verification.proof.signingKeyID)
    (newError "workspace-managed WebTTY client credential signing key id does not match proof")
  let publicSigningKey := member "client_signing_public_key"
  let devicePublicSigningKey := member "device_public_signing_key"
  failIf (publicSigningKey = "" ∨ publicSigningKey ≠ devicePublicSigningKey)
    (newError "workspace-managed WebTTY client credential signing key does not match trusted device")
  let publicSigningKeyBytes ← decodeE2EKeyMaterial publicSigningKey 0
    "workspace-managed WebTTY client signing public key"
  failIf (publicSigningKeyBytes ≠ verification.proof.signingPublicKey)
    (newError "workspace-managed WebTTY client credential signing key does not match proof")
  let fingerprint ← workspacePublicKeyFingerprint P (member "device_public_encryption_key")
    devicePublicSigningKey
  failIf (fingerprint ≠ member "device_fingerprint") (newError
    "workspace-managed WebTTY client credential device fingerprint does not match public keys")
  let trustPayload ← trustPayloadOf payload
  let hash ← workspaceSHA256Base64URL P (.object trustPayload.members)
  failIf (hash ≠ member "trust_payload_hash") (newError
    "workspace-managed WebTTY client credential trust payload hash does not match payload")
  failIf (workspaceClientCredentialTrustPayloadMatches enrollment payload trustPayload = false)
    (newError "workspace-managed WebTTY client credential trust payload does not match device")
  verifyWorkspaceP256Signature P enrollment.workspaceTrustPublicSigningKey trustPayload
    (member "trust_keyset_signature") "workspace-managed WebTTY device trust"

def verifyWebTTYWorkspaceClientCredential (P : Verifier K) (enrollment : Option ServerEnrollment)
    (verification : ClientProofVerification) : Except Error Bytes :=
  match enrollment with
  | none => .error (newError
      "workspace-managed WebTTY client credential requires a registered server enrollment")
  | some enrollment => do
    failIf (verification.credential = [])
      (newError "workspace-managed WebTTY client credential is required")
    let envelope ← decodeWebTTYWorkspaceClientCredential verification.credential
    failIf (workspaceTrustString envelope.payload "type" ≠ "workspace.webtty.client.credential")
      (newError "workspace-managed WebTTY client credential has an unsupported type")
    validateWebTTYWorkspaceClientCredentialPayload P enrollment verification envelope.payload
    verifyWorkspaceP256Signature P
      (workspaceTrustString envelope.payload "client_signing_public_key") envelope.payload
      envelope.signature "workspace-managed WebTTY client credential"
    return verification.proof.signingPublicKey

def webTTYWorkspaceClientProofVerifier (P : Verifier K) (enrollment : Option ServerEnrollment) :
    Option (ClientProofVerification → Except Error Bytes) :=
  match enrollment with
  | none => none
  | some e =>
    if e.encryptionPolicy ≠ "workspace_managed" then none
    else some (verifyWebTTYWorkspaceClientCredential P enrollment)

end Verification

section Issuing

/-- The cryptographic functions that issue a credential. -/
structure Signer (K S R : Type) extends Verifier K where
  /-- `x509.ParsePKCS8PrivateKey`; nothing for a key that is not an ECDSA key. -/
  parsePKCS8PrivateKey : Bytes → Except String (Option S)
  /-- The public part of a private key. -/
  publicKey : S → K
  /-- The key is one of the curve P-256. -/
  isP256 : S → Bool
  /-- `validateWebTTYSigningPublicKey`. -/
  validatePublicKey : K → Except String Unit
  /-- `MarshalWebTTYSigningPublicKey`. -/
  marshalPublicKey : K → Except String Bytes
  /-- `ecdsa.SignASN1` with the random bytes it draws. -/
  signASN1 : R → S → Bytes → Except String Bytes

variable {K S R : Type}

/-- `workspaceDeviceFile`: the fields that go into a credential. -/
structure WorkspaceDevice where
  status : String
  deviceEnvelope : Bool
  deviceKeyID : String
  publicEncryptionKey : String
  publicSigningKey : String
  privateSigningKey : String
  webTTYPublicKey : String
  webTTYKeyID : String
  webTTYKeyAlgorithm : String
  deriving DecidableEq, Repr

/-- `WebTTYCurrentDeviceResolution`. The trust payload was cut out of a decoded response, two
levels deep, so it nests that much less than a text of its own may. -/
structure CurrentDevice where
  deviceKeyID : String
  kind : String
  publicEncryptionKey : String
  publicSigningKey : String
  fingerprint : String
  webTTYPublicKey : String
  webTTYKeyID : String
  webTTYKeyAlgorithm : String
  trustKeysetID : String
  trustSource : String
  trustPayload : Bytes
  trustPayloadHash : String
  trustActorSignature : Option String
  trustKeysetSignature : String
  trustSignedAt : String
  nested : ∀ v plain rest, decodeNext (decodeText trustPayload) = .value v plain rest →
    v.depth + 2 ≤ maxNestingDepth

/-- `ResolveWebTTYServerClientResponse`: the fields that go into a credential. -/
structure ResolvedServer where
  serverID : String
  workspaceID : String
  projectID : String
  currentDevice : Option CurrentDevice

def workspaceDeviceIsActive (device : WorkspaceDevice) : Bool :=
  device.status = "active" && device.deviceEnvelope

/-- A decoded value as a map. -/
def decodeMap : (v : Json) → v.Plain → Except Error Object
  | .null, _ => .ok emptyObject
  | .object members, h => .ok (mergeMembers emptyObject members h.members)
  | _, _ =>
    .error (.wrap "decode workspace-managed WebTTY trust payload: " (newError "cannot unmarshal") "")

def workspaceTrustPayload (raw : Bytes) : Except Error Object :=
  match decodeNext (decodeText raw) with
  | .value v plain rest => do
    let value ← decodeMap v plain
    ensureSingleWorkspaceTrustJSONValue rest
    return value
  | _ =>
    .error (.wrap "decode workspace-managed WebTTY trust payload: " (newError "invalid JSON") "")

def parseWebTTYSigningPrivateKey (P : Signer K S R) (der : Bytes) : Except Error S :=
  match P.parsePKCS8PrivateKey der with
  | .error e => .error (.wrap "parse WebTTY signing private key: " (newError e) "")
  | .ok none => .error (newError "WebTTY signing private key is not ECDSA")
  | .ok (some key) =>
    if P.isP256 key = false then
      .error (newError "WebTTY signing private key is not P-256 ECDSA")
    else
      match P.validatePublicKey (P.publicKey key) with
      | .error e => .error (newError e)
      | .ok () => .ok key

/-- Wrap the error of a step. -/
def withContext {α : Type} (context : String) : Except Error α → Except Error α
  | .ok a => .ok a
  | .error e => .error (.wrap context e "")

/-- Decode a base64 text that an error names by its context. -/
def decodeBase64 (text context : String) : Except Error Bytes :=
  match rawURLDecode text with
  | none => .error (.wrap context (newError "illegal base64 data") "")
  | some data => .ok data

/-- `MarshalWebTTYSigningPublicKey` on the public part of a key. -/
def marshalSigningPublicKey (P : Signer K S R) (key : S) : Except Error Bytes :=
  match P.marshalPublicKey (P.publicKey key) with
  | .error e => .error (.wrap "marshal workspace device signing key for WebTTY: " (newError e) "")
  | .ok der => .ok der

/-- `workspaceDeviceWebTTYEndpointIdentity`, as far as its signing key: the identity file of the
device is loaded first. -/
def workspaceDeviceSigningPublicKey (P : Signer K S R) (device : WorkspaceDevice)
    (identity : Except Error Unit) : Except Error Bytes := do
  identity
  let privateKeyDER ← decodeBase64 device.privateSigningKey "decode workspace device signing key: "
  let privateKey ← withContext "parse workspace device signing key for WebTTY: "
    (parseWebTTYSigningPrivateKey P privateKeyDER)
  let publicKeyDER ← marshalSigningPublicKey P privateKey
  let expected ← decodeBase64 device.publicSigningKey
    "decode workspace device public signing key: "
  failIf (publicKeyDER ≠ expected) (newError
    s!"workspace device {device.deviceKeyID} signing key does not match device metadata")
  return publicKeyDER

def parseWorkspaceDeviceSigningKey (P : Signer K S R) (device : WorkspaceDevice) :
    Except Error S := do
  let der ← decodeBase64 device.privateSigningKey "decode workspace device signing key: "
  match P.parsePKCS8PrivateKey der with
  | .error e => .error (.wrap "parse workspace device signing key: " (newError e) "")
  | .ok none => .error (newError "workspace device signing key is not P-256 ECDSA")
  | .ok (some key) =>
    if P.isP256 key = false then
      .error (newError "workspace device signing key is not P-256 ECDSA")
    else .ok key

def signWorkspacePayload (P : Signer K S R) (random : R) (key : S) (payload : Object) :
    Except Error String :=
  match workspaceCanonicalJSON (.object payload.members) with
  | .error e => .error (newError e)
  | .ok canonical =>
    match P.signASN1 random key (P.sha256 (utf8 canonical)) with
    | .error e => .error (.wrap "sign workspace payload: " (newError e) "")
    | .ok signature => .ok (rawURLEncode signature)

/-- The signature of the actor, if there is one. -/
def actorMember (signature : Option String) : List (String × Json) :=
  match signature with
  | none => []
  | some s =>
    if blank s then [] else [("trust_actor_signature", .string (trimSpace s))]

def credentialPayload (device : WorkspaceDevice) (resolved : ResolvedServer)
    (current : CurrentDevice) (clientSigningKeyID clientSigningPublicKey : String)
    (trustPayload : Object) (signedAt : String) : Object where
  members := [("v", .int 1), ("type", .string "workspace.webtty.client.credential"),
    ("workspace_id", .string resolved.workspaceID), ("project_id", .string resolved.projectID),
    ("server_id", .string resolved.serverID), ("device_key_id", .string current.deviceKeyID),
    ("device_kind", .string current.kind), ("device_fingerprint", .string current.fingerprint),
    ("device_public_encryption_key", .string current.publicEncryptionKey),
    ("device_public_signing_key", .string device.publicSigningKey),
    ("client_signing_key_id", .string clientSigningKeyID),
    ("client_signing_public_key", .string clientSigningPublicKey),
    ("webtty_public_key", .string device.webTTYPublicKey),
    ("webtty_key_id", .string device.webTTYKeyID),
    ("webtty_key_algorithm", .string device.webTTYKeyAlgorithm),
    ("trust_keyset_id", .string current.trustKeysetID),
    ("trust_source", .string current.trustSource),
    ("trust_payload", .object trustPayload.members),
    ("trust_payload_hash", .string current.trustPayloadHash),
    ("trust_keyset_signature", .string current.trustKeysetSignature),
    ("trust_signed_at", .string current.trustSignedAt), ("signed_at", .string signedAt)] ++
    actorMember current.trustActorSignature
  valid := by
    have htrust := trustPayload.valid
    cases hactor : current.trustActorSignature with
    | none => simp [actorMember, valid, validMembers] at htrust ⊢; exact htrust
    | some s =>
      by_cases hs : blank s <;> simp [actorMember, hs, valid, validMembers] at htrust ⊢ <;>
        exact htrust

def credentialEnvelope (payload : Object) (signature : String) : Object where
  members := [("v", .int 1), ("payload", .object payload.members), ("signature", .string signature)]
  valid := by
    have hpayload := payload.valid
    simp [valid, validMembers] at hpayload ⊢
    exact hpayload

/-- The checks of the local device against the resolved one. -/
def checkDevice (device : WorkspaceDevice) (current : CurrentDevice)
    (clientSigningPublicKey : String) : Except Error Unit := do
  failIf (device.publicEncryptionKey ≠ current.publicEncryptionKey ∨
      clientSigningPublicKey ≠ current.publicSigningKey)
    (newError "workspace-managed WebTTY client keys do not match trusted device")
  failIf (device.webTTYPublicKey ≠ current.webTTYPublicKey ∨
      device.webTTYKeyID ≠ current.webTTYKeyID ∨
      device.webTTYKeyAlgorithm ≠ current.webTTYKeyAlgorithm)
    (newError "workspace-managed WebTTY client endpoint identity does not match trusted device")

/-- The rest of `webTTYWorkspaceClientCredential` for the resolved device. -/
def credentialFor (P : Signer K S R) (device : WorkspaceDevice) (identity : Except Error Unit)
    (resolved : ResolvedServer) (current : CurrentDevice) (signedAt : String) (random : R) :
    Except Error Bytes := do
  failIf (device.deviceKeyID ≠ current.deviceKeyID)
    (newError "workspace-managed WebTTY resolved device does not match local trusted device")
  let publicKey ← workspaceDeviceSigningPublicKey P device identity
  let clientSigningKeyID := encodeE2EKeyMaterial
    (P.sha256 (utf8 "rstream-webtty-signing-key-id-v1" ++ publicKey))
  let clientSigningPublicKey := encodeE2EKeyMaterial publicKey
  checkDevice device current clientSigningPublicKey
  let trustPayload ← workspaceTrustPayload current.trustPayload
  let payload := credentialPayload device resolved current clientSigningKeyID
    clientSigningPublicKey trustPayload signedAt
  let signingKey ← parseWorkspaceDeviceSigningKey P device
  let signature ← signWorkspacePayload P random signingKey payload
  match workspaceCanonicalJSON (.object (credentialEnvelope payload signature).members) with
  | .error e => .error (newError e)
  | .ok envelope => .ok (utf8 envelope)

def webTTYWorkspaceClientCredential (P : Signer K S R) (device : WorkspaceDevice)
    (identity : Except Error Unit) (resolved : ResolvedServer) (signedAt : String) (random : R) :
    Except Error Bytes :=
  if workspaceDeviceIsActive device = false then
    .error (newError
      "workspace-managed WebTTY client credential requires an active trusted workspace device")
  else
    match resolved.currentDevice with
    | none => .error (newError
        "workspace-managed WebTTY client credential requires a resolved trusted device")
    | some current => credentialFor P device identity resolved current signedAt random

end Issuing

end Rstream.Workspace
