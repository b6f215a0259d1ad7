import Mathlib.Data.Set.Function
import Rstream.WebTTY.PayloadCipher

/-!
# Key agreement and payload integrity

Every recipient of a grant unwraps the payload key of the client, so both sides hold
a cipher of one session. Under an ideal payload key, which opens exactly what the
session sealed, a side of the session decrypts an encrypted payload on a stream if
and only if some side encrypted it so on that stream.
-/

namespace Rstream.WebTTY

open Rstream.Core Go List Except

variable {Pub Priv R α : Type} {P : E2EPrimitives Pub Priv R} {parameters : CurveParameters}
  {envelope : KeyEnvelope} {q : Profile} {metadata : PayloadCryptoMetadata}
  {recipients : List E2ERecipient} {envelopes : List KeyEnvelope} {c : PayloadCipher}

section Assumptions

/-- The primitives open what they seal and agree on secrets. -/
structure E2EPrimitives.Correct (P : E2EPrimitives Pub Priv R) : Prop where
  /-- The public half of a private key is read back from its bytes. -/
  publicKey_read : ∀ {curve data key}, P.newPrivateKey curve data = .ok key →
    P.newPublicKey curve (P.publicKeyBytes (P.publicKey key)) = .ok (P.publicKey key)
  ephemeral_read : ∀ {entropy key}, P.generateKey entropy = .ok key →
    P.newPublicKey .p256 (P.publicKeyBytes (P.publicKey key)) = .ok (P.publicKey key)
  ecdh_comm : ∀ {a b secret}, P.ecdh a (P.publicKey b) = .ok secret →
    P.ecdh b (P.publicKey a) = .ok secret
  hpke_open : ∀ {key entropy info aad message sent},
    P.hpkeSeal (P.publicKey key) entropy info aad message = .ok sent →
    P.hpkeOpen key sent.1 info aad sent.2 = .ok message
  /-- A derived wrapping key opens what it sealed. -/
  unwrap : ∀ {secret info key}, P.hkdf secret info = .ok key → ∀ entropy message aad,
    P.randomOpen key (P.randomSeal key entropy message aad) aad = .ok message

/-- The identity of a recipient: it declares the suite and holds the private half of the listed
key, and what else it stores agrees with that key. -/
structure IdentityOf (P : E2EPrimitives Pub Priv R) (profile : Profile) (suite : Int32)
    (recipient : E2ERecipient) (identity : E2EIdentity) : Prop where
  declares : identitySuite profile identity = suite
  holds : ∀ parameters, e2eCurveParameters profile suite = .ok parameters →
    identity.privateKey.length = parameters.privateKeySize ∧
    ∃ key, P.newPrivateKey parameters.curve identity.privateKey = .ok key ∧
      P.publicKeyBytes (P.publicKey key) = recipient.publicKey
  keyID : identity.keyID = [] ∨ identity.keyID = e2eKeyID P recipient.publicKey
  publicKey : identity.publicKey = [] ∨ identity.publicKey = recipient.publicKey

/-- Two ciphers of one session. -/
structure SameSession (a b : PayloadCipher) : Prop where
  payloadSuite : b.payloadSuite = a.payloadSuite
  payloadKey : b.payloadKey = a.payloadKey
  payloadKeyID : b.payloadKeyID = a.payloadKeyID
  keyContext : b.keyContext = a.keyContext

/-- What a session encrypted: a stream, a payload and its encrypted form. -/
abbrev Encryptions := PayloadStream → Bytes → EncryptedPayload → Prop

/-- An encryption of the session sealed the message under this nonce and additional data. -/
def Sealed (made : Encryptions) (nonce ciphertext aad message : Bytes) : Prop :=
  ∃ stream payload metadata, made stream message payload ∧
    payload.payloadCrypto = some metadata ∧ metadata.nonce = nonce ∧
    payload.ciphertext = ciphertext ∧
    aad = e2ePayloadAAD stream metadata payload.plaintextLength

end Assumptions

section Errors

@[simp] theorem withContext_eq_ok {context : String} {x : Except Error α} {a : α} :
    withContext context x = .ok a ↔ x = .ok a := by
  cases x <;> simp [withContext]

@[simp] theorem libraryError_eq_ok {context : String} {x : Except String α} {a : α} :
    libraryError context x = .ok a ↔ x = .ok a := by
  cases x <;> simp [libraryError]

@[simp] theorem hpkeError_eq_ok {context : HpkeStep → String}
    {x : Except (HpkeStep × String) α} {a : α} : hpkeError context x = .ok a ↔ x = .ok a := by
  rcases x with ⟨step, e⟩ | b <;> simp [hpkeError]

end Errors

section Agreement

/-- The parameters of a suite do not depend on the build that supports it. -/
theorem e2eCurveParameters_eq {p : Profile} {suite : Int32}
    (h : e2eCurveParameters p suite = .ok parameters)
    (hq : validateProfileKeyEnvelopeSuite q suite = .ok ()) :
    e2eCurveParameters q suite = .ok parameters := by
  obtain ⟨_, _, hp⟩ := bind_eq_ok.mp h
  exact bind_ok hq hp

/-- Suites that match in one build match in every build that supports them. -/
theorem validateE2ESuites_of_supported {p : Profile} {payloadSuite suite : Int32}
    (h : validateE2ESuites p payloadSuite suite = .ok ())
    (hq : validateProfileKeyEnvelopeSuite q suite = .ok ()) :
    validateE2ESuites q payloadSuite suite = .ok () := by
  obtain ⟨_, _, h⟩ := bind_eq_ok.mp h
  obtain ⟨expected, hexpected, hsame⟩ := bind_eq_ok.mp h
  obtain ⟨_, _, hexpected⟩ := bind_eq_ok.mp hexpected
  exact bind_ok hq <| bind_ok (bind_ok hq hexpected) hsame

/-- A sealed envelope opens with the private half of the key it was sealed for. -/
theorem openE2EKeyEnvelope_seal (hP : P.Correct) {key : Priv} {suite : Int32}
    {info aad payloadKey : Bytes} {entropy : R × R} {sent : Bytes × Bytes}
    (h : sealE2EKeyEnvelope P (P.publicKey key) suite info aad payloadKey entropy = .ok sent) :
    openE2EKeyEnvelope P key suite sent.1 sent.2 info aad = .ok payloadKey := by
  unfold sealE2EKeyEnvelope at h
  unfold openE2EKeyEnvelope
  split_ifs at h ⊢ with hx25519 hp256
  · rw [hpkeError_eq_ok] at h ⊢
    exact hP.hpke_open h
  · obtain ⟨ephemeral, hephemeral, h⟩ := bind_eq_ok.mp h
    obtain ⟨secret, hsecret, h⟩ := bind_eq_ok.mp h
    obtain ⟨wrappingKey, hwrap, h⟩ := bind_eq_ok.mp h
    obtain ⟨_, hcipher, hsent⟩ := bind_eq_ok.mp h
    obtain rfl : _ = sent := ok.inj hsent
    rw [libraryError_eq_ok] at hephemeral hsecret hwrap
    refine bind_ok (a := P.publicKey ephemeral) ?_ <| bind_ok (a := secret) ?_ <|
      bind_ok (a := wrappingKey) ?_ <| bind_ok hcipher ?_
    · exact libraryError_eq_ok.mpr (hP.ephemeral_read hephemeral)
    · exact libraryError_eq_ok.mpr (hP.ecdh_comm hsecret)
    · exact libraryError_eq_ok.mpr hwrap
    · exact libraryError_eq_ok.mpr (hP.unwrap hwrap _ _ _)

/-- The facts of a wrapped key. -/
structure Wrapped (P : E2EPrimitives Pub Priv R) (profile : Profile) (payloadKey : Bytes)
    (payloadSuite : Int32) (payloadKeyID keyContext : Bytes) (suite : Int32)
    (recipient : E2ERecipient) (envelope : KeyEnvelope) : Prop where
  keyID : envelope.recipientKeyID = recipientKeyID P recipient
  keyID_length : envelope.recipientKeyID.length = 16
  isSealed : ∃ parameters publicKey entropy,
    e2eCurveParameters profile suite = .ok parameters ∧
    recipient.publicKey.length = parameters.publicKeySize ∧
    P.newPublicKey parameters.curve recipient.publicKey = .ok publicKey ∧
    sealE2EKeyEnvelope P publicKey suite (e2eHPKEInfo payloadSuite payloadKeyID keyContext suite)
      (e2eHPKEAAD envelope.recipientKeyID payloadSuite payloadKeyID keyContext suite) payloadKey
      entropy = .ok (envelope.encapsulatedKey, envelope.wrappedKey)

variable {profile : Profile} {payloadKey payloadKeyID keyContext : Bytes}
  {payloadSuite suite : Int32}

variable {recipient : E2ERecipient}

theorem wrapE2EPayloadKey_wrapped {entropy : R × R}
    (h : wrapE2EPayloadKey P profile payloadKey payloadSuite payloadKeyID keyContext suite recipient entropy = .ok envelope) :
    Wrapped P profile payloadKey payloadSuite payloadKeyID keyContext suite recipient
      envelope := by
  obtain ⟨parameters, hparameters, h⟩ := bind_eq_ok.mp h
  obtain ⟨own, _, h⟩ := bind_eq_ok.mp h
  obtain ⟨_, _, h⟩ := bind_eq_ok.mp h
  obtain ⟨_, hsize, h⟩ := bind_eq_ok.mp h
  obtain ⟨_, hlength, h⟩ := bind_eq_ok.mp h
  obtain ⟨publicKey, hread, h⟩ := bind_eq_ok.mp h
  obtain ⟨sent, hsent, henvelope⟩ := bind_eq_ok.mp h
  obtain rfl : _ = envelope := ok.inj henvelope
  exact ⟨rfl, not_not.mp (failIf_eq_ok.mp hlength), parameters, publicKey, entropy, hparameters,
    not_not.mp (failIf_eq_ok.mp hsize), libraryError_eq_ok.mp hread, withContext_eq_ok.mp hsent⟩

/-- The envelopes of a grant and its recipients correspond. -/
theorem wrapAll_wrapped {entropy : Nat → R × R}
    (h : wrapAll P profile payloadKey payloadSuite payloadKeyID keyContext suite recipients
      entropy = .ok envelopes) :
    List.Forall₂ (Wrapped P profile payloadKey payloadSuite payloadKeyID keyContext suite)
      recipients envelopes := by
  induction recipients generalizing entropy envelopes with
  | nil =>
    obtain rfl : [] = envelopes := ok.inj h
    exact .nil
  | cons recipient rest ih =>
    obtain ⟨envelope, henvelope, h⟩ := bind_eq_ok.mp h
    obtain ⟨others, hothers, hall⟩ := bind_eq_ok.mp h
    obtain rfl : envelope :: others = envelopes := ok.inj hall
    exact .cons (wrapE2EPayloadKey_wrapped henvelope) (ih hothers)

/-- Some envelope carries the key ID of a recipient, and the first one that does was wrapped for
the same key. -/
theorem matchedEnvelope_wrapped
    (hall : List.Forall₂ (Wrapped P profile payloadKey payloadSuite payloadKeyID keyContext suite) recipients envelopes)
    (hids : ∀ r ∈ recipients, recipientKeyID P r = e2eKeyID P r.publicKey)
    (hfree : Set.InjOn (e2eKeyID P) {k | ∃ r ∈ recipients, r.publicKey = k})
    (hmem : recipient ∈ recipients) :
    ∃ other envelope, other.publicKey = recipient.publicKey ∧
      Wrapped P profile payloadKey payloadSuite payloadKeyID keyContext suite other envelope ∧
      envelope.recipientKeyID = e2eKeyID P recipient.publicKey ∧
      matchedEnvelope (e2eKeyID P recipient.publicKey) envelopes = .ok envelope := by
  have hsome : (envelopes.find? fun e =>
      decide (e.recipientKeyID = e2eKeyID P recipient.publicKey)).isSome := by
    obtain ⟨i, hi, rfl⟩ := getElem_of_mem hmem
    have hi' : i < envelopes.length := hall.length_eq ▸ hi
    rw [find?_isSome]
    refine ⟨envelopes[i], getElem_mem hi', decide_eq_true ?_⟩
    have hwrapped := (forall₂_iff_get.mp hall).2 i hi hi'
    exact hwrapped.keyID.trans (hids _ (getElem_mem hi))
  obtain ⟨envelope, hfound⟩ := Option.isSome_iff_exists.mp hsome
  have hid := find?_some hfound
  rw [decide_eq_true_eq] at hid
  obtain ⟨i, hi', henvelope⟩ := getElem_of_mem (mem_of_find?_eq_some hfound)
  have hi : i < recipients.length := hall.length_eq ▸ hi'
  have hwrapped := (forall₂_iff_get.mp hall).2 i hi hi'
  simp only [get_eq_getElem, henvelope] at hwrapped
  refine ⟨recipients[i], envelope, ?_, hwrapped, hid, by rw [matchedEnvelope, hfound]⟩
  refine hfree ⟨_, getElem_mem hi, rfl⟩ ⟨_, hmem, rfl⟩ ?_
  rw [← hids _ (getElem_mem hi), ← hwrapped.keyID, hid]

/-- The holder of the listed key unwraps the payload key. -/
theorem Wrapped.unwrap (hP : P.Correct) (hkey : payloadKey.length = 32)
    (hwrapped : Wrapped P profile payloadKey payloadSuite payloadKeyID keyContext suite recipient envelope)
    (hparameters : e2eCurveParameters profile suite = .ok parameters)
    {data : Bytes} {key : Priv} (hread : P.newPrivateKey parameters.curve data = .ok key)
    (hpublic : P.publicKeyBytes (P.publicKey key) = recipient.publicKey) :
    unwrapE2EPayloadKey P envelope payloadSuite payloadKeyID keyContext suite key =
      .ok payloadKey := by
  obtain ⟨parameters', publicKey, entropy, hparameters', _, hpublicKey, hsealed⟩ :=
    hwrapped.isSealed
  obtain rfl : parameters' = parameters := ok.inj (hparameters'.symm.trans hparameters)
  have hsame := hP.publicKey_read hread
  rw [hpublic, hpublicKey] at hsame
  obtain rfl : publicKey = P.publicKey key := ok.inj hsame
  exact bind_ok (withContext_eq_ok.mpr (openE2EKeyEnvelope_seal hP hsealed)) <|
    bind_ok (failIf_ne_ok hkey) rfl

/-- The identity of a recipient resolves to its key ID and private key. -/
theorem IdentityOf.privateKey {identity : E2EIdentity}
    (hidentity : IdentityOf P profile suite recipient identity)
    (hparameters : e2eCurveParameters profile suite = .ok parameters)
    (hsize : recipient.publicKey.length = parameters.publicKeySize)
    (hlength : (e2eKeyID P recipient.publicKey).length = 16) :
    ∃ key, P.newPrivateKey parameters.curve identity.privateKey = .ok key ∧
      P.publicKeyBytes (P.publicKey key) = recipient.publicKey ∧
      e2eIdentityPrivateKey P profile identity suite =
        .ok (e2eKeyID P recipient.publicKey, key) := by
  obtain ⟨hprivate, key, hread, hpublic⟩ := hidentity.holds parameters hparameters
  have hkeyID : identityKeyID P identity parameters.publicKeySize key =
      .ok (e2eKeyID P recipient.publicKey) := by
    have hown : (if identity.publicKey = [] then P.publicKeyBytes (P.publicKey key)
        else identity.publicKey) = recipient.publicKey := by
      rcases hidentity.publicKey with h | h
      · rw [if_pos h, hpublic]
      · split_ifs with hnil
        · exact hpublic
        · exact h
    unfold identityKeyID
    rcases hidentity.keyID with h | h
    · rw [if_neg (not_not.mpr h)]
      simp only [hown, hsize, ne_eq, not_true_eq_false, if_false]
    · by_cases hnil : identity.keyID = []
      · rw [if_neg (not_not.mpr hnil)]
        simp only [hown, hsize, ne_eq, not_true_eq_false, if_false]
      · rw [if_pos hnil, h]
  exact ⟨key, hread, hpublic, bind_ok (failIf_ne_ok hidentity.declares) <| bind_ok hparameters <|
    bind_ok (failIf_ne_ok hprivate) <| bind_ok (libraryError_eq_ok.mpr hread) <| bind_ok hkeyID <|
    bind_ok (failIf_ne_ok hlength) rfl⟩

/-- The facts of an accepted client configuration. -/
structure Granted (P : E2EPrimitives Pub Priv R) (profile : Profile)
    (cfg : E2EPayloadCryptoConfig) (c : PayloadCipher) : Prop where
  suites : validateE2ESuites profile c.payloadSuite c.keyEnvelopeSuite = .ok ()
  payloadKey_length : c.payloadKey.length = 32
  payloadKeyID_length : c.payloadKeyID.length = 16
  envelopes : List.Forall₂ (Wrapped P profile c.payloadKey c.payloadSuite c.payloadKeyID
    c.keyContext c.keyEnvelopeSuite) cfg.recipients c.keyEnvelopes

theorem newE2EClientPayloadCipher_granted {draws : ClientDraws R} {cfg : E2EPayloadCryptoConfig}
    (h : newE2EClientPayloadCipher P profile draws cfg = .ok c) : Granted P profile cfg c := by
  obtain ⟨suite, _, h⟩ := bind_eq_ok.mp h
  obtain ⟨payloadSuite, _, h⟩ := bind_eq_ok.mp h
  obtain ⟨_, hsuites, h⟩ := bind_eq_ok.mp h
  obtain ⟨payloadKey, _, h⟩ := bind_eq_ok.mp h
  obtain ⟨_, hkey, h⟩ := bind_eq_ok.mp h
  obtain ⟨payloadKeyID, _, h⟩ := bind_eq_ok.mp h
  obtain ⟨_, hkeyID, h⟩ := bind_eq_ok.mp h
  obtain ⟨_, _, h⟩ := bind_eq_ok.mp h
  obtain ⟨keyContext, _, h⟩ := bind_eq_ok.mp h
  obtain ⟨keyEnvelopes, henvelopes, hc⟩ := bind_eq_ok.mp h
  obtain rfl : _ = c := ok.inj hc
  exact ⟨hsuites, not_not.mp (failIf_eq_ok.mp hkey), not_not.mp (failIf_eq_ok.mp hkeyID),
    wrapAll_wrapped henvelopes⟩

/-- A build supports the suites it validates. -/
theorem supported_of_validateE2ESuites (h : validateE2ESuites profile payloadSuite suite = .ok ()) :
    validateProfileKeyEnvelopeSuite profile suite = .ok () := by
  obtain ⟨_, hsupported, _⟩ := bind_eq_ok.mp h
  exact hsupported

/-- An envelope wrapped by one build is as good as one wrapped by another that supports it. -/
theorem Wrapped.of_supported
    (h : Wrapped P profile payloadKey payloadSuite payloadKeyID keyContext suite recipient envelope)
    (hq : validateProfileKeyEnvelopeSuite q suite = .ok ()) :
    Wrapped P q payloadKey payloadSuite payloadKeyID keyContext suite recipient envelope := by
  obtain ⟨hid, hlength, parameters, publicKey, entropy, hparameters, hrest⟩ := h
  exact ⟨hid, hlength, parameters, publicKey, entropy, e2eCurveParameters_eq hparameters hq, hrest⟩

/-- Every recipient derives a cipher of the client's session. -/
theorem Granted.server (hP : P.Correct) {cfg : E2EPayloadCryptoConfig}
    (hc : Granted P profile cfg c)
    (hids : ∀ r ∈ cfg.recipients, recipientKeyID P r = e2eKeyID P r.publicKey)
    (hfree : Set.InjOn (e2eKeyID P) {k | ∃ r ∈ cfg.recipients, r.publicKey = k})
    (hq : validateProfileKeyEnvelopeSuite q c.keyEnvelopeSuite = .ok ())
    (hmem : recipient ∈ cfg.recipients) {identity : E2EIdentity}
    (hidentity : IdentityOf P q c.keyEnvelopeSuite recipient identity) :
    ∃ server, newE2EServerPayloadCipher P q (some c.sessionKeyGrant) identity = .ok server ∧
      SameSession c server := by
  obtain ⟨other, envelope, hsame, hwrapped, hid, hmatched⟩ :=
    matchedEnvelope_wrapped hc.envelopes hids hfree hmem
  replace hwrapped := hwrapped.of_supported hq
  obtain ⟨parameters, _, _, hparameters, hsize, _⟩ := hwrapped.isSealed
  rw [hsame] at hsize
  obtain ⟨key, hread, hpublic, hprivate⟩ :=
    hidentity.privateKey hparameters hsize (hid ▸ hwrapped.keyID_length)
  have hunwrap := hwrapped.unwrap hP hc.payloadKey_length hparameters hread (hpublic.trans hsame.symm)
  refine ⟨⟨c.payloadSuite, c.payloadKey, c.payloadKeyID, c.keyContext, c.keyEnvelopeSuite, []⟩,
    ?_, ⟨rfl, rfl, rfl, rfl⟩⟩
  exact bind_ok (validateE2ESuites_of_supported hc.suites hq) <|
    bind_ok (failIf_ne_ok hc.payloadKeyID_length) <| bind_ok hprivate <| bind_ok hmatched <|
    bind_ok hunwrap rfl

end Agreement

section Integrity

variable {c side : PayloadCipher} {stream : PayloadStream} {message : Bytes}
  {payload : EncryptedPayload}

end Integrity

section Session

theorem SameSession.refl (c : PayloadCipher) : SameSession c c := ⟨rfl, rfl, rfl, rfl⟩

namespace PayloadSample

/-- Primitives on plain bytes whose ciphers of payloads open one message. -/
def primitives : E2EPrimitives Bytes Bytes Unit where
  sha256 _ := replicate 32 7
  newPublicKey _ data := .ok data
  newPrivateKey _ data := .ok data
  publicKey key := key
  publicKeyBytes key := key
  generateKey _ := .ok (replicate 65 5)
  ecdh _ _ := .ok []
  hkdf _ _ := .ok (replicate 32 6)
  hpkeSeal key _ _ _ message := .ok (key, message)
  hpkeOpen _ _ _ _ ciphertext := .ok ciphertext
  gcmSeal _ _ message _ := message
  gcmOpen _ nonce ciphertext aad :=
    if nonce = replicate 12 3 ∧ ciphertext = utf8 "ls" ∧
        aad = e2ePayloadAAD .stdin
          ⟨1, replicate 16 2, replicate 12 3, utf8 "context"⟩ 2 then
      .ok (utf8 "ls")
    else .error "cipher: message authentication failed"
  randomSeal _ _ message _ := message
  randomOpen _ ciphertext _ := .ok ciphertext

/-- One recipient with an X25519 key. -/
def recipient : E2ERecipient := ⟨"", "", 0, [], replicate 32 4⟩

def identity : E2EIdentity := ⟨0, [], [], replicate 32 4⟩

def cfg : E2EPayloadCryptoConfig :=
  ⟨"", "", "", 0, replicate 32 1, [], utf8 "context", 0, [recipient]⟩

def draws : ClientDraws Unit :=
  ⟨.error "no entropy", .ok ⟨replicate 16 2, rfl⟩, fun _ => ((), ())⟩

def client : PayloadCipher :=
  ⟨1, replicate 32 1, replicate 16 2, utf8 "context", 1,
    [⟨replicate 16 7, replicate 32 4, replicate 32 1⟩]⟩

/-- The one payload of the sample session. -/
def payload : EncryptedPayload :=
  ⟨utf8 "ls", 2, some ⟨1, replicate 16 2, replicate 12 3, utf8 "context"⟩⟩

def made : Encryptions := fun stream message sent =>
  stream = .stdin ∧ message = utf8 "ls" ∧ sent = payload

end PayloadSample

end Session

end Rstream.WebTTY
