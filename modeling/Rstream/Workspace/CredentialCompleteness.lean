import Rstream.WebTTY.ClientProofSoundness
import Rstream.Workspace.CredentialDecoding

/-!
# Completeness of workspace client credentials

The payload that a trusted device issues names everything the server compares it
with. So a credential that was issued for a server is accepted by that server, if
the server pins the keyset that trusted the device.
-/

namespace Rstream.Workspace

open Go WebTTY Json

variable {der key : Bytes} {payload : Object} {verification : ClientProofVerification}
  {enrollment : ServerEnrollment} {identity : Except Error Unit}

section Issued

variable {K S R : Type}

/-- What is documented of the cryptographic functions: an encoded public key is parsed again, and a
signature of a private key is one of its public key. -/
structure Correct (P : Signer K S R) : Prop where
  parse_marshal : ∀ {key der}, P.marshalPublicKey key = .ok der → P.parsePublicKey der = .ok key
  marshal_ne_nil : ∀ {key der}, P.marshalPublicKey key = .ok der → der ≠ []
  verify_sign : ∀ {random key digest signature}, P.signASN1 random key digest = .ok signature →
    P.verifyASN1 (P.publicKey key) digest signature = true
  sign_ne_nil : ∀ {random key digest signature}, P.signASN1 random key digest = .ok signature →
    signature ≠ []

/-- The signature text is one of the key on the payload. -/
def SignedWith (P : Verifier K) (publicSigningKey : String) (payload : Object)
    (signature : String) : Prop :=
  ∃ key canonical rawSignature, workspaceP256PublicSigningKey P publicSigningKey = .ok key ∧
    workspaceCanonicalJSON (.object payload.members) = .ok canonical ∧
    rawURLDecode signature = some rawSignature ∧
    acceptsSignature P key (P.sha256 (utf8 canonical)) rawSignature = true

variable {signature : String}

theorem SignedWith.verify {P : Verifier K} {publicSigningKey : String}
    (h : SignedWith P publicSigningKey payload signature) (label : String) :
    verifyWorkspaceP256Signature P publicSigningKey payload signature label = .ok () := by
  obtain ⟨key, canonical, rawSignature, hkey, hcanonical, hsignature, haccepts⟩ := h
  simp [verifyWorkspaceP256Signature, hkey, hcanonical, hsignature, haccepts]

/-- The server was enrolled for the resolved server with the keyset that signed the trust payload of
the resolved device. -/
structure Pins (P : Verifier K) (enrollment : ServerEnrollment) (resolved : ResolvedServer)
    (current : CurrentDevice) (trust : Object) : Prop where
  workspace : enrollment.workspaceID = resolved.workspaceID
  project : enrollment.projectID = resolved.projectID
  server : enrollment.serverID = resolved.serverID
  keysetID : enrollment.workspaceTrustKeysetID = current.trustKeysetID
  signed : SignedWith P enrollment.workspaceTrustPublicSigningKey trust
    current.trustKeysetSignature
  hash : workspaceSHA256Base64URL P (.object trust.members) = .ok current.trustPayloadHash
  trustWorkspace : workspaceTrustString trust "workspace_id" = enrollment.workspaceID
  trusts : Trusts enrollment trust current.fingerprint current.deviceKeyID

/-- The payload that a device with the public key issues. -/
def issuedPayload (P : Signer K S R) (device : WorkspaceDevice) (resolved : ResolvedServer)
    (current : CurrentDevice) (der : Bytes) (trust : Object) (signedAt : String) : Object :=
  credentialPayload device resolved current
    (encodeE2EKeyMaterial (P.sha256 (utf8 "rstream-webtty-signing-key-id-v1" ++ der)))
    (encodeE2EKeyMaterial der) trust signedAt

/-- The steps of issuing a credential that succeeded. -/
structure Issued (P : Signer K S R) (device : WorkspaceDevice) (current : CurrentDevice)
    (payload : Object) (der : Bytes) (trust : Object) (signature text : String) : Prop where
  deviceKeyID : device.deviceKeyID = current.deviceKeyID
  encryptionKey : device.publicEncryptionKey = current.publicEncryptionKey
  trustPayload : workspaceTrustPayload current.trustPayload = .ok trust
  publicKey : rawURLDecode device.publicSigningKey = some der
  signed : ∃ key random, P.marshalPublicKey (P.publicKey key) = .ok der ∧
    signWorkspacePayload P random key payload = .ok signature
  written : workspaceCanonicalJSON (.object (credentialEnvelope payload signature).members) =
    .ok text

variable {text : String}

theorem decodeBase64_ok {context : String} {data : Bytes} (h : decodeBase64 text context = .ok data) :
    rawURLDecode text = some data := by
  unfold decodeBase64 at h
  split at h
  · cases h
  next hdata =>
    cases h
    exact hdata

theorem withContext_ok {α : Type} {context : String} {x : Except Error α} {a : α}
    (h : withContext context x = .ok a) : x = .ok a := by
  cases x with
  | error e => cases h
  | ok b => exact h

variable {P : Signer K S R}

theorem parseWebTTYSigningPrivateKey_ok {key : S}
    (h : parseWebTTYSigningPrivateKey P der = .ok key) :
    P.parsePKCS8PrivateKey der = .ok (some key) := by
  unfold parseWebTTYSigningPrivateKey at h
  split at h
  · cases h
  · cases h
  next hparse =>
    split at h
    · cases h
    · split at h
      · cases h
      · cases h
        exact hparse

variable {device : WorkspaceDevice}

theorem parseWorkspaceDeviceSigningKey_ok {key : S}
    (h : parseWorkspaceDeviceSigningKey P device = .ok key) :
    ∃ der, rawURLDecode device.privateSigningKey = some der ∧
      P.parsePKCS8PrivateKey der = .ok (some key) := by
  obtain ⟨der, hder, h⟩ := bind_eq_ok.mp h
  refine ⟨der, decodeBase64_ok hder, ?_⟩
  split at h
  · cases h
  · cases h
  next hparse =>
    split at h
    · cases h
    · cases h
      exact hparse

/-- The public key of a device is the encoded one of its private key. -/
theorem workspaceDeviceSigningPublicKey_ok
    (h : workspaceDeviceSigningPublicKey P device identity = .ok der) :
    ∃ privateDER key, rawURLDecode device.privateSigningKey = some privateDER ∧
      P.parsePKCS8PrivateKey privateDER = .ok (some key) ∧
      P.marshalPublicKey (P.publicKey key) = .ok der ∧
      rawURLDecode device.publicSigningKey = some der := by
  obtain ⟨_, _, h⟩ := bind_eq_ok.mp h
  obtain ⟨privateDER, hprivate, h⟩ := bind_eq_ok.mp h
  obtain ⟨key, hkey, h⟩ := bind_eq_ok.mp h
  obtain ⟨publicDER, hpublic, h⟩ := bind_eq_ok.mp h
  obtain ⟨expected, hexpected, h⟩ := bind_eq_ok.mp h
  obtain ⟨_, hsame, h⟩ := bind_eq_ok.mp h
  cases h
  rw [failIf_eq_ok, ne_eq, not_not] at hsame
  refine ⟨privateDER, key, decodeBase64_ok hprivate,
    parseWebTTYSigningPrivateKey_ok (withContext_ok hkey), ?_, hsame ▸ decodeBase64_ok hexpected⟩
  unfold marshalSigningPublicKey at hpublic
  split at hpublic
  · cases hpublic
  next hmarshal =>
    cases hpublic
    exact hmarshal

variable {resolved : ResolvedServer} {current : CurrentDevice} {signedAt : String}

/-- A credential is returned after all of these steps. -/
theorem issued_of_credential {random : R} {credential : Bytes}
    (hcurrent : resolved.currentDevice = some current)
    (h : webTTYWorkspaceClientCredential P device identity resolved signedAt random = .ok credential) :
    ∃ der trust signature text, credential = utf8 text ∧
      Issued P device current (issuedPayload P device resolved current der trust signedAt) der
        trust signature text := by
  unfold webTTYWorkspaceClientCredential at h
  rw [hcurrent] at h
  split at h
  · cases h
  obtain ⟨_, hdevice, h⟩ := bind_eq_ok.mp h
  obtain ⟨der, hder, h⟩ := bind_eq_ok.mp h
  obtain ⟨_, hcheck, h⟩ := bind_eq_ok.mp h
  obtain ⟨trust, htrust, h⟩ := bind_eq_ok.mp h
  obtain ⟨key, hkey, h⟩ := bind_eq_ok.mp h
  obtain ⟨signature, hsignature, hwritten⟩ := bind_eq_ok.mp h
  obtain ⟨_, hkeys, _⟩ := bind_eq_ok.mp hcheck
  rw [failIf_eq_ok, ne_eq, not_not] at hdevice
  rw [failIf_eq_ok, not_or, not_not, not_not] at hkeys
  obtain ⟨privateDER, key', hprivate, hparse, hmarshal, hpublic⟩ :=
    workspaceDeviceSigningPublicKey_ok hder
  obtain ⟨privateDER', hprivate', hparse'⟩ := parseWorkspaceDeviceSigningKey_ok hkey
  obtain rfl : key' = key := by
    rw [hprivate, Option.some.injEq] at hprivate'
    rw [← hprivate', hparse] at hparse'
    cases hparse'
    rfl
  split at hwritten
  · cases hwritten
  next text htext =>
    cases hwritten
    exact ⟨der, trust, signature, text, rfl, hdevice, hkeys.1, htrust, hpublic,
      ⟨key', random, hmarshal, hsignature⟩, htext⟩

variable {trust : Object}

/-- A trust payload nests as deep as its text, or is an empty map. -/
theorem workspaceTrustPayload_depth (h : workspaceTrustPayload current.trustPayload = .ok trust) :
    (object trust.members).depth + 2 ≤ maxNestingDepth := by
  unfold workspaceTrustPayload at h
  split at h
  next v plain rest hnext =>
    obtain ⟨value, hvalue, h⟩ := bind_eq_ok.mp h
    obtain ⟨_, _, h⟩ := bind_eq_ok.mp h
    cases h
    have hdepth := current.nested v plain rest hnext
    unfold decodeMap at hvalue
    split at hvalue
    · cases hvalue
      decide
    next members hplain =>
      cases hvalue
      have hle := toAny_depth_le (.object members)
      rw [toAny] at hle
      exact (Nat.add_le_add_right hle 2).trans hdepth
    · cases hvalue
  · cases h

theorem workspaceTrustPayload_canonical {o : Object}
    (h : workspaceCanonicalJSON (.object o.members) = .ok text)
    (hdepth : (object o.members).depth ≤ maxNestingDepth) :
    workspaceTrustPayload (utf8 text) = .ok (normalObject o) := by
  obtain ⟨plain, hnext⟩ := decodeNext_canonical o.valid h hdepth
  have hmap : ∀ v (plain : v.Plain), v = .object (normalObject o).members →
      decodeMap v plain = .ok (normalObject o) := by
    rintro v plain rfl
    exact congrArg Except.ok (mergeMembers_empty plain.members)
  unfold workspaceTrustPayload
  rw [decodeText_utf8, hnext]
  exact bind_ok (hmap _ plain (normal_object _)) rfl

theorem credentialPayload_depth (device : WorkspaceDevice) (resolved : ResolvedServer)
    (current : CurrentDevice) (keyID key : String) (trust : Object) (signedAt : String) :
    (object (credentialPayload device resolved current keyID key trust signedAt).members).depth =
      (object trust.members).depth + 1 := by
  have hactor : depthMembers (actorMember current.trustActorSignature) = 0 := by
    unfold actorMember
    split
    · rfl
    · split <;> rfl
  simp [credentialPayload, depth, depthMembers, hactor]

theorem credentialPayload_string {keyID key : String} {name value : String}
    (h : (name, string value) ∈ (credentialPayload device resolved current keyID key trust signedAt).members) :
    workspaceTrustString (credentialPayload device resolved current keyID key trust signedAt) name =
      value := by
  rw [workspaceTrustString, Object.get?_eq_some _ |>.mpr h]

/-- The proof was made with the signing key that the device file names in canonical form. -/
structure MadeWith (P : Verifier K) (device : WorkspaceDevice) (proof : ClientProof) : Prop where
  key : device.publicSigningKey = encodeE2EKeyMaterial proof.signingPublicKey
  keyID : proof.signingKeyID =
    P.sha256 (utf8 "rstream-webtty-signing-key-id-v1" ++ proof.signingPublicKey)

/-- The device's own signature is accepted. -/
theorem Issued.signedWith (hP : Correct P)
    (h : Issued P device current payload der trust signature text) :
    SignedWith P.toVerifier (encodeE2EKeyMaterial der) payload signature ∧
      blank signature = false := by
  obtain ⟨key, random, hmarshal, hsign⟩ := h.signed
  unfold signWorkspacePayload at hsign
  split at hsign
  · cases hsign
  next canonical hcanonical =>
    split at hsign
    · cases hsign
    next rawSignature hraw =>
      cases hsign
      refine ⟨⟨P.publicKey key, canonical, rawSignature, ?_, hcanonical, rawURLDecode_encode _, ?_⟩,
        ?_⟩
      · rw [workspaceP256PublicSigningKey, encodeE2EKeyMaterial, rawURLDecode_encode]
        exact hP.parse_marshal hmarshal
      · rw [acceptsSignature, hP.verify_sign hraw, Bool.true_or]
      · rw [blank, trimSpace_rawURLEncode, beq_eq_false_iff_ne]
        exact rawURLEncode_ne_empty (hP.sign_ne_nil hraw)

/-- An issued credential nests within the bound and has a type. -/
theorem Issued.written_typed
    (h : Issued P device current (issuedPayload P device resolved current der trust signedAt) der trust signature text) :
    workspaceTrustString (issuedPayload P device resolved current der trust signedAt) "type" =
        "workspace.webtty.client.credential" ∧
      (object (issuedPayload P device resolved current der trust signedAt).members).depth + 1 ≤
        maxNestingDepth := by
  refine ⟨credentialPayload_string (by simp [credentialPayload]), ?_⟩
  rw [issuedPayload, credentialPayload_depth]
  exact workspaceTrustPayload_depth h.trustPayload

section

variable (hP : Correct P)
  (h : Issued P device current (issuedPayload P device resolved current der trust signedAt) der
    trust signature text)
  (hproof : MadeWith P.toVerifier device verification.proof)
  (hfingerprint : workspacePublicKeyFingerprint P.toVerifier device.publicEncryptionKey
    device.publicSigningKey = .ok current.fingerprint)
  (hpins : Pins P.toVerifier enrollment resolved current trust)
include hP h hproof hfingerprint hpins

/-- The payload of an issued credential has everything in place. -/
theorem Issued.valid : der = verification.proof.signingPublicKey ∧
    Valid P.toVerifier enrollment verification
      (issuedPayload P device resolved current der trust signedAt) trust := by
  have hder : der = verification.proof.signingPublicKey := by
    have hpublic := h.publicKey
    rw [hproof.key, encodeE2EKeyMaterial, rawURLDecode_encode, Option.some.injEq] at hpublic
    exact hpublic.symm
  obtain ⟨key, random, hmarshal, _⟩ := h.signed
  have hmember : ∀ {name value : String}, (name, string value) ∈
      (issuedPayload P device resolved current der trust signedAt).members →
      workspaceTrustString (issuedPayload P device resolved current der trust signedAt) name =
        value := credentialPayload_string
  have hinside : objectMember (issuedPayload P device resolved current der trust signedAt)
      "trust_payload" = some trust := by
    rw [objectMember_eq_some, Object.get?_eq_some]
    simp [issuedPayload, credentialPayload]
  have hencryption := h.encryptionKey
  generalize hpayload : issuedPayload P device resolved current der trust signedAt = payload at *
  simp only [issuedPayload, credentialPayload] at hpayload
  have hprint : workspaceTrustString payload "device_fingerprint" = current.fingerprint :=
    hmember (by simp [← hpayload])
  refine ⟨hder, ⟨?_, ?_, ?_, ?_⟩, ?_, ?_, ?_, hder ▸ hP.marshal_ne_nil hmarshal, ?_, hinside, ?_,
    hpins.trustWorkspace, ?_, ?_⟩
  · exact hmember (by simp [← hpayload, hpins.workspace])
  · exact hmember (by simp [← hpayload, hpins.project])
  · exact hmember (by simp [← hpayload, hpins.server])
  · exact hmember (by simp [← hpayload, hpins.keysetID])
  · exact hmember (by simp [← hpayload, hproof.keyID, hder])
  · exact hmember (by simp [← hpayload, hder])
  · exact hmember (by simp [← hpayload, hproof.key])
  · have hkey : workspaceTrustString payload "device_public_encryption_key" =
        device.publicEncryptionKey := hmember (by simp [← hpayload, hencryption])
    have hsigning : workspaceTrustString payload "device_public_signing_key" =
        device.publicSigningKey := hmember (by simp [← hpayload])
    rw [hkey, hsigning, hprint]
    exact hfingerprint
  · have hhash : workspaceTrustString payload "trust_payload_hash" = current.trustPayloadHash :=
      hmember (by simp [← hpayload])
    rw [hhash]
    exact hpins.hash
  · have hdeviceKeyID : workspaceTrustString payload "device_key_id" = current.deviceKeyID :=
      hmember (by simp [← hpayload])
    rw [hprint, hdeviceKeyID]
    exact hpins.trusts
  · have hsignature : workspaceTrustString payload "trust_keyset_signature" =
        current.trustKeysetSignature := hmember (by simp [← hpayload])
    rw [hsignature]
    exact hpins.signed.verify _

theorem Issued.accepted (hcredential : verification.credential = utf8 text) :
    verifyWebTTYWorkspaceClientCredential P.toVerifier (some enrollment) verification =
      .ok verification.proof.signingPublicKey := by
  obtain ⟨hder, hvalid⟩ := h.valid hP hproof hfingerprint hpins
  obtain ⟨hsigned, hsignature⟩ := h.signedWith hP
  obtain ⟨htype, hdepth⟩ := h.written_typed
  have hkey := hvalid.key
  rw [← hder] at hkey
  exact hvalid.accepted htype (hkey ▸ hsigned.verify _) h.written hdepth hsignature hcredential

end

/-- A credential that an active device issued for a server is accepted by that server, and what the
server decodes has the very text that was signed. -/
theorem webTTYWorkspaceClientCredential_complete (P : Signer K S R) (hP : Correct P)
    (device : WorkspaceDevice) (identity : Except Error Unit) (resolved : ResolvedServer)
    (current : CurrentDevice) (signedAt : String) (random : R) (enrollment : ServerEnrollment)
    (verification : ClientProofVerification) {trust : Object}
    (hcurrent : resolved.currentDevice = some current)
    (hproof : MadeWith P.toVerifier device verification.proof)
    (hfingerprint : workspacePublicKeyFingerprint P.toVerifier device.publicEncryptionKey
      device.publicSigningKey = .ok current.fingerprint)
    (htrust : workspaceTrustPayload current.trustPayload = .ok trust)
    (hpins : Pins P.toVerifier enrollment resolved current trust)
    (h : webTTYWorkspaceClientCredential P device identity resolved signedAt random =
      .ok verification.credential) :
    verifyWebTTYWorkspaceClientCredential P.toVerifier (some enrollment) verification =
        .ok verification.proof.signingPublicKey ∧
      ∃ envelope trust', decodeWebTTYWorkspaceClientCredential verification.credential =
          .ok envelope ∧
        (workspaceCanonicalJSON (.object (credentialEnvelope envelope.payload
          envelope.signature).members)).map utf8 = .ok verification.credential ∧
        objectMember envelope.payload "trust_payload" = some trust' ∧
        workspaceCanonicalJSON (.object trust'.members) =
          workspaceCanonicalJSON (.object trust.members) := by
  obtain ⟨der, trust', signature, text, hcredential, hissued⟩ := issued_of_credential hcurrent h
  obtain rfl : trust' = trust := by
    have hsame := hissued.trustPayload
    rw [htrust] at hsame
    cases hsame
    rfl
  obtain ⟨_, hvalid⟩ := hissued.valid hP hproof hfingerprint hpins
  obtain ⟨htype, hdepth⟩ := hissued.written_typed
  obtain ⟨⟨_, payloadText, _, _, hpayloadText, _⟩, hsignature⟩ := hissued.signedWith hP
  refine ⟨hissued.accepted hP hproof hfingerprint hpins hcredential,
    ⟨1, normalObject (issuedPayload P device resolved current der trust' signedAt), signature⟩,
    normalObject trust', ?_, ?_, objectMember_normalObject hvalid.inside,
    canonical_normalObject trust'⟩
  · rw [hcredential]
    exact decode_typed hpayloadText htype hissued.written hdepth hsignature
  · rw [canonical_credentialEnvelope, hissued.written, hcredential]
    rfl

end Issued

section Sample

/-- The canonical text of a payload that has one. -/
@[irreducible]
def sampleText (payload : Object) : String :=
  (workspaceCanonicalJSON (.object payload.members)).toOption.getD ""

theorem sampleText_eq (h : ∃ text, workspaceCanonicalJSON (.object payload.members) = .ok text) :
    workspaceCanonicalJSON (.object payload.members) = .ok (sampleText payload) := by
  obtain ⟨text, htext⟩ := h
  rw [sampleText, htext]
  rfl

/-- A digest without collisions. -/
def sampleDigest (data : Bytes) : Bytes := 0 :: data

/-- Keys that are their own public keys and sign some digests by naming them. -/
def sampleSigner (signs : Bytes → Bytes → Bool) : Signer Bytes Bytes Unit where
  sha256 := sampleDigest
  parsePublicKey der := if der = [] then .error "empty key" else .ok der
  verifyASN1 key digest signature := signature = key ++ digest && signs key digest
  verify _ _ _ _ := false
  parsePKCS8PrivateKey der := if der = [] then .error "empty key" else .ok (some der)
  publicKey := id
  isP256 _ := true
  validatePublicKey _ := .ok ()
  marshalPublicKey key := if key = [] then .error "empty key" else .ok key
  signASN1 _ key digest :=
    if key = [] ∨ signs key digest = false then .error "no signature" else .ok (key ++ digest)

variable (signs : Bytes → Bytes → Bool)

theorem sampleSigner_sign {digest signature : Bytes}
    (h : (sampleSigner signs).signASN1 () key digest = .ok signature) :
    key ≠ [] ∧ signs key digest = true ∧ signature = key ++ digest := by
  by_cases hkey : key = [] ∨ signs key digest = false
  · simp [sampleSigner, hkey] at h
  · simp only [sampleSigner, hkey, if_false, Except.ok.injEq] at h
    simp only [not_or, Bool.not_eq_false] at hkey
    exact ⟨hkey.1, hkey.2, h.symm⟩

theorem sampleSigner_marshal
    (h : (sampleSigner signs).marshalPublicKey key = .ok der) : key ≠ [] ∧ der = key := by
  by_cases hkey : key = []
  · simp [sampleSigner, hkey] at h
  · simp only [sampleSigner, hkey, if_false, Except.ok.injEq] at h
    exact ⟨hkey, h.symm⟩

theorem sampleSigner_correct : Correct (sampleSigner signs) where
  parse_marshal h := by
    obtain ⟨hne, rfl⟩ := sampleSigner_marshal signs h
    simp [sampleSigner, hne]
  marshal_ne_nil h := by
    obtain ⟨hne, rfl⟩ := sampleSigner_marshal signs h
    exact hne
  verify_sign h := by
    obtain ⟨_, hsigns, rfl⟩ := sampleSigner_sign signs h
    simp [sampleSigner, hsigns]
  sign_ne_nil h := by
    obtain ⟨hne, _, rfl⟩ := sampleSigner_sign signs h
    exact List.append_ne_nil_of_left_ne_nil hne _

theorem sampleSigner_accepts {digest : Bytes} (h : signs key digest = true) :
    acceptsSignature (sampleSigner signs).toVerifier key digest (key ++ digest) = true := by
  simp [acceptsSignature, sampleSigner, h]

/-- The fingerprint of the device. -/
def sampleFingerprint : String :=
  "sha256:" ++ rawURLEncode (sampleDigest (utf8 (sampleText (publicKeysPayload "enc" "AQ"))))

theorem sampleFingerprint_eq : workspacePublicKeyFingerprint (sampleSigner signs).toVerifier "enc"
    "AQ" = .ok sampleFingerprint := by
  have htext : workspaceCanonicalJSON (.object (publicKeysPayload "enc" "AQ").members) =
      .ok (sampleText (publicKeysPayload "enc" "AQ")) := by
    refine sampleText_eq (canonical_object ?_)
    simp only [publicKeysPayload, List.forall_mem_cons]
    exact ⟨⟨_, rfl⟩, ⟨_, rfl⟩, ⟨_, rfl⟩, ⟨_, rfl⟩, by simp⟩
  rw [workspacePublicKeyFingerprint, workspaceSHA256Base64URL, htext]
  rfl

/-- The workspace keyset approved the device, with notes that canonical JSON rewrites. -/
def sampleTrust : Object where
  members := [("type", .string "workspace.device.approve"), ("workspace_id", .string "w"),
    ("keyset_id", .string "k"), ("target_device_key_id", .string "d"),
    ("target_fingerprint", .string sampleFingerprint), ("label", .null),
    ("notes", .array [.null, .string "é"])]
  valid := by simp [valid, validMembers, validItems]

theorem sampleTrust_text :
    workspaceCanonicalJSON (.object sampleTrust.members) = .ok (sampleText sampleTrust) := by
  refine sampleText_eq (canonical_object ?_)
  simp only [sampleTrust, List.forall_mem_cons]
  exact ⟨⟨_, rfl⟩, ⟨_, rfl⟩, ⟨_, rfl⟩, ⟨_, rfl⟩, ⟨_, rfl⟩, ⟨_, rfl⟩, ⟨_, rfl⟩, by simp⟩

/-- The resolved device with the trust payload as the control plane sends it. -/
def sampleCurrent : CurrentDevice where
  deviceKeyID := "d"
  kind := "cli"
  publicEncryptionKey := "enc"
  publicSigningKey := "AQ"
  fingerprint := sampleFingerprint
  webTTYPublicKey := "x"
  webTTYKeyID := "y"
  webTTYKeyAlgorithm := "z"
  trustKeysetID := "k"
  trustSource := "approval"
  trustPayload := utf8 (sampleText sampleTrust)
  trustPayloadHash := rawURLEncode (sampleDigest (utf8 (sampleText sampleTrust)))
  trustActorSignature := none
  trustKeysetSignature := rawURLEncode ([2] ++ sampleDigest (utf8 (sampleText sampleTrust)))
  trustSignedAt := "2026-01-01T00:00:00.000Z"
  nested v plain rest h := by
    obtain ⟨plain', hnext⟩ := decodeNext_canonical sampleTrust.valid sampleTrust_text (by decide)
    rw [decodeText_utf8, hnext] at h
    cases h
    exact (Nat.add_le_add_right (normal_depth_le _) 2).trans (by decide)

/-- The resolved server. -/
def sampleResolved : ResolvedServer := ⟨"s", "w", "p", some sampleCurrent⟩

/-- The local device file. -/
def sampleDevice : WorkspaceDevice := ⟨"active", true, "d", "enc", "AQ", "AQ", "x", "y", "z"⟩

/-- The enrollment of the server. -/
def sampleEnrollment : ServerEnrollment := ⟨"s", "w", "p", "k", "f", "Ag", "workspace_managed"⟩

/-- The proof of the device with a credential. -/
def sampleVerification (credential : Bytes) : ClientProofVerification where
  proof := ⟨none, sampleDigest (utf8 "rstream-webtty-signing-key-id-v1" ++ [1]), [1], 1, [], [], "",
    "", none, none, none⟩
  credential := credential
  transcript := sampleTranscript

theorem sampleTrust_decoded :
    workspaceTrustPayload sampleCurrent.trustPayload = .ok (normalObject sampleTrust) :=
  workspaceTrustPayload_canonical sampleTrust_text (by decide)

theorem sampleEnrollment_pins
    (htrust : signs [2] (sampleDigest (utf8 (sampleText sampleTrust))) = true) :
    Pins (sampleSigner signs).toVerifier sampleEnrollment sampleResolved sampleCurrent
      (normalObject sampleTrust) where
  workspace := rfl
  project := rfl
  server := rfl
  keysetID := rfl
  signed := by
    refine ⟨[2], sampleText sampleTrust, [2] ++ sampleDigest (utf8 (sampleText sampleTrust)),
      ?_, (canonical_normalObject _).trans sampleTrust_text, rawURLDecode_encode _, ?_⟩
    · have hkey : rawURLDecode "Ag" = some [2] := by decide
      rw [workspaceP256PublicSigningKey, sampleEnrollment, hkey]
      rfl
    · exact sampleSigner_accepts signs htrust
  hash := by
    rw [workspaceSHA256Base64URL, canonical_normalObject, sampleTrust_text]
    simp only [sampleCurrent, sampleSigner]
  trustWorkspace := workspaceTrustString_normalObject sampleTrust_text _
  trusts := by
    have htrusts : Trusts sampleEnrollment sampleTrust sampleFingerprint "d" :=
      .approve rfl rfl rfl rfl
    exact htrusts.congr (workspaceTrustString_normalObject sampleTrust_text)

/-- The payload of the credential. -/
def samplePayload : Object :=
  issuedPayload (sampleSigner fun _ _ => true) sampleDevice sampleResolved sampleCurrent [1]
    (normalObject sampleTrust) "2026-01-02T00:00:00.000Z"

theorem samplePayload_text :
    ∃ text, workspaceCanonicalJSON (.object samplePayload.members) = .ok text := by
  refine canonical_object ?_
  simp only [samplePayload, issuedPayload, credentialPayload, sampleCurrent, actorMember,
    List.append_nil, List.forall_mem_cons]
  exact ⟨⟨_, rfl⟩, ⟨_, rfl⟩, ⟨_, rfl⟩, ⟨_, rfl⟩, ⟨_, rfl⟩, ⟨_, rfl⟩, ⟨_, rfl⟩, ⟨_, rfl⟩, ⟨_, rfl⟩,
    ⟨_, rfl⟩, ⟨_, rfl⟩, ⟨_, rfl⟩, ⟨_, rfl⟩, ⟨_, rfl⟩, ⟨_, rfl⟩, ⟨_, rfl⟩, ⟨_, rfl⟩,
    ⟨_, (canonical_normalObject _).trans sampleTrust_text⟩, ⟨_, rfl⟩, ⟨_, rfl⟩, ⟨_, rfl⟩,
    ⟨_, rfl⟩, by simp⟩

theorem sampleEnvelope_text (signature : String) : ∃ text, workspaceCanonicalJSON
    (.object (credentialEnvelope samplePayload signature).members) = .ok text := by
  refine canonical_object ?_
  simp only [credentialEnvelope, List.forall_mem_cons]
  exact ⟨⟨_, rfl⟩, samplePayload_text, ⟨_, rfl⟩, by simp⟩

/-- The device issues a credential. -/
theorem sample_issued
    (hpayload : signs [1] (sampleDigest (utf8 (sampleText samplePayload))) = true) :
    ∃ credential, webTTYWorkspaceClientCredential (sampleSigner signs) sampleDevice (.ok ())
      sampleResolved "2026-01-02T00:00:00.000Z" () = .ok credential := by
  obtain ⟨text, htext⟩ := sampleEnvelope_text
    (rawURLEncode ([1] ++ sampleDigest (utf8 (sampleText samplePayload))))
  have hpublic : workspaceDeviceSigningPublicKey (sampleSigner signs) sampleDevice (.ok ()) =
      .ok [1] := by
    have hkey : rawURLDecode "AQ" = some [1] := by decide
    simp only [workspaceDeviceSigningPublicKey, sampleDevice, decodeBase64, hkey]
    rfl
  have hprivate : parseWorkspaceDeviceSigningKey (sampleSigner signs) sampleDevice = .ok [1] := by
    have hkey : rawURLDecode "AQ" = some [1] := by decide
    simp only [parseWorkspaceDeviceSigningKey, sampleDevice, decodeBase64, hkey]
    rfl
  refine ⟨utf8 text, ?_⟩
  change credentialFor (sampleSigner signs) sampleDevice (.ok ()) sampleResolved sampleCurrent _ () =
    _
  refine bind_ok rfl <| bind_ok hpublic ?_
  refine bind_ok (a := ()) (by decide) <| bind_ok sampleTrust_decoded ?_
  refine bind_ok hprivate ?_
  refine bind_ok (a := rawURLEncode ([1] ++ sampleDigest (utf8 (sampleText samplePayload)))) ?_ ?_
  · change signWorkspacePayload (sampleSigner signs) () [1] samplePayload = _
    rw [signWorkspacePayload, sampleText_eq samplePayload_text]
    simp [sampleSigner, hpayload]
  · split
    next herror => cases herror.symm.trans htext
    next hwritten =>
      cases hwritten.symm.trans htext
      rfl

/-- The proof is one of the device. -/
theorem sampleVerification_madeWith (credential : Bytes) :
    MadeWith (sampleSigner signs).toVerifier sampleDevice (sampleVerification credential).proof :=
  ⟨show "AQ" = encodeE2EKeyMaterial [1] by decide, rfl⟩

/-- The issued credential is accepted by the enrolled server. -/
theorem webTTYWorkspaceClientCredential_complete_sample : ∃ credential,
    webTTYWorkspaceClientCredential (sampleSigner fun _ _ => true) sampleDevice (.ok ())
      sampleResolved "2026-01-02T00:00:00.000Z" () = .ok credential ∧
    verifyWebTTYWorkspaceClientCredential (sampleSigner fun _ _ => true).toVerifier
      (some sampleEnrollment) (sampleVerification credential) = .ok [1] := by
  obtain ⟨credential, hcredential⟩ := sample_issued (fun _ _ => true) rfl
  refine ⟨credential, hcredential, ?_⟩
  exact (webTTYWorkspaceClientCredential_complete (sampleSigner fun _ _ => true)
    (sampleSigner_correct _) sampleDevice (.ok ()) sampleResolved sampleCurrent
    "2026-01-02T00:00:00.000Z" () sampleEnrollment (sampleVerification credential) rfl
    (sampleVerification_madeWith _ credential) (sampleFingerprint_eq _) sampleTrust_decoded
    (sampleEnrollment_pins _ rfl) hcredential).1

end Sample

end Rstream.Workspace
