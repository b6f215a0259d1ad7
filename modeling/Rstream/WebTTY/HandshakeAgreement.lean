import Rstream.WebTTY.Handshake
import Rstream.WebTTY.PayloadCipherCorrectness

/-!
# Handshake agreement

Both sides build the same transcripts: an honest client accepts the hello of the
server it expects, and the server accepts the proof the client builds for any open
request, whatever identifiers, grants and credentials are set.
-/

namespace Rstream.WebTTY

open Rstream.Core Go Except List

variable {K S R : Type} {P : Primitives K} {G : Signing K S R}
  {identity expected own : EndpointIdentity} {privateKey signature hash publicKey : Bytes}
  {suite payloadSuite : Int32} {transport : String} {profile q : Profile}
  {grant : Option SessionKeyGrant} {suites : Int32 × Int32}

section Assumptions

/-- A key verifies what its private half signs, and digests have 32 bytes. -/
structure SigningCorrect (P : Primitives K) (G : Signing K S R) : Prop where
  verifies : ∀ {random key hash signature}, G.signASN1 random key hash = .ok signature →
    P.verifyASN1 (G.publicKey key) hash signature = true
  digest_length : ∀ data, (P.sha256 data).length = 32

/-- The two halves of a signing key. -/
def KeyPair (P : Primitives K) (G : Signing K S R) (publicKey privateKey : Bytes) : Prop :=
  ∃ key, G.parsePrivateKey privateKey = .ok key ∧ P.parsePublicKey publicKey = .ok (G.publicKey key)

/-- The client expects the identity of the server: the same keys, resolved to the same suite, with
the signing key the server signs with. -/
structure Expects (P : Primitives K) (G : Signing K S R) (client : HandshakeClient)
    (cfg : ServerConfig) (privateKey : Bytes) (identity expected : EndpointIdentity) : Prop where
  configured : cfg.endpointIdentity = some identity
  pinned : client.expectedServerIdentity = some expected
  signingKeyID : expected.signingKeyID = identity.signingKeyID
  signingPublicKey : expected.signingPublicKey = identity.signingPublicKey
  encryptionKeyID : expected.encryptionKeyID = identity.encryptionKeyID
  encryptionPublicKey : expected.encryptionPublicKey = identity.encryptionPublicKey
  suite : webTTYPublicIdentityKeyEnvelopeSuite client.profile expected =
    .ok (identity.public cfg.profile).keyEnvelopeSuite
  keyPair : KeyPair P G identity.signingPublicKey privateKey

/-- The signing identity of the client, if it has one, is whole. -/
def WholeIdentity (P : Primitives K) (G : Signing K S R) (client : HandshakeClient) : Prop :=
  ∀ identity privateKey, client.endpointIdentity = some (identity, privateKey) →
    identity.signingPublicKey ≠ [] ∧
    identity.signingKeyID = webTTYSigningKeyID P identity.signingPublicKey ∧
    KeyPair P G identity.signingPublicKey privateKey

/-- The server authorizes the key of a proof when it verifies that proof. -/
def AuthorizesProof (P : Primitives K) (cfg : ServerConfig) (proof : ClientProof) : Prop :=
  ∀ v : ClientProofVerification, v.proof = proof → v.credential = proof.credential.getD [] →
    v.transcript.hash P = proof.transcriptHash →
    authorizedPublicKey cfg v = .ok proof.signingPublicKey

/-- The server's clock at the check against the client's clock at the proof: at most five seconds
behind, and less than the lifetime of the proof ahead. -/
def ClocksAgree (clientNow serverNow : Int) : Prop :=
  clientNow ≤ serverNow + 5 * second ∧ serverNow ≤ clientNow + 29 * second

end Assumptions

section Values

theorem webTTYStringValueText_value (value : String) :
    webTTYStringValueText (webTTYStringValue value) = trimSpace value := by
  unfold webTTYStringValue webTTYStringValueText
  split_ifs with h
  · exact h.symm
  · rfl

theorem webTTYBytesValue_getD (value : Bytes) : (webTTYBytesValue value).getD [] = value := by
  unfold webTTYBytesValue
  split_ifs with h
  · exact h.symm
  · rfl

theorem stringField_trimSpace (value : String) :
    stringField (trimSpace value) = stringField value := by
  rw [stringField, stringField, trimSpace_trimSpace]

theorem webTTYAuthRequirement_fromProto (cfg : ServerConfig) :
    webTTYAuthRequirementFromProto (webTTYAuthRequirement cfg) = webTTYAuthRequirement cfg := by
  unfold webTTYAuthRequirement
  split_ifs <;> rfl

@[simp] theorem asError_eq_ok {α : Type} {x : Except String α} {a : α} :
    asError x = .ok a ↔ x = .ok a := by
  cases x <;> simp [asError]

/-- Every profile has a default suite, and it is not the unset one. -/
theorem public_keyEnvelopeSuite_ne_zero (profile : Profile) (identity : EndpointIdentity) :
    (identity.public profile).keyEnvelopeSuite ≠ 0 := by
  unfold EndpointIdentity.public
  split_ifs with h
  · show defaultE2EKeyEnvelopeSuite profile ≠ 0
    cases profile <;> decide
  · exact h

/-- The suite of a completed identity is its own. -/
theorem webTTYPublicIdentityKeyEnvelopeSuite_public
    (h : webTTYPublicIdentityKeyEnvelopeSuite profile (identity.public q) = .ok suite) :
    suite = (identity.public q).keyEnvelopeSuite ∧
      validateProfileKeyEnvelopeSuite profile suite = .ok () := by
  simp only [webTTYPublicIdentityKeyEnvelopeSuite,
    if_neg (public_keyEnvelopeSuite_ne_zero q identity)] at h
  obtain ⟨own, hown, h⟩ := bind_eq_ok.mp h
  obtain ⟨_, hvalid, hsuite⟩ := bind_eq_ok.mp h
  obtain rfl := ok.inj hown
  obtain rfl := ok.inj hsuite
  exact ⟨rfl, hvalid⟩

/-- A resolved suite is one the build supports. -/
theorem supported_of_suite (h : webTTYPublicIdentityKeyEnvelopeSuite profile identity = .ok suite) :
    validateProfileKeyEnvelopeSuite profile suite = .ok () := by
  unfold webTTYPublicIdentityKeyEnvelopeSuite at h
  split_ifs at h
  all_goals
    obtain ⟨own, _, h⟩ := bind_eq_ok.mp h
    obtain ⟨_, hvalid, hsuite⟩ := bind_eq_ok.mp h
    obtain rfl := ok.inj hsuite
    exact hvalid

/-- The payload suite of a key envelope suite is the same in every build that supports it. -/
theorem e2ePayloadSuite_eq {p : Profile}
    (h : e2ePayloadSuiteForKeyEnvelopeSuite p suite = .ok payloadSuite)
    (hq : validateProfileKeyEnvelopeSuite q suite = .ok ()) :
    e2ePayloadSuiteForKeyEnvelopeSuite q suite = .ok payloadSuite := by
  obtain ⟨_, _, h⟩ := bind_eq_ok.mp h
  exact bind_ok hq h

end Values

variable {random : R} {key : S}

section Hello

/-- The facts of a hello that was sent. -/
structure Sent (P : Primitives K) (G : Signing K S R) (cfg : ServerConfig) (privateKey : Bytes)
    (transport : String) (identity : EndpointIdentity) (session : SessionIdentity)
    (hello : ServerHello) : Prop where
  transport : session.transport = transport
  isSigned : ∃ payloadSuite key random signature,
    validateProfileKeyEnvelopeSuite cfg.profile (identity.public cfg.profile).keyEnvelopeSuite =
      .ok () ∧
    e2ePayloadSuiteForKeyEnvelopeSuite cfg.profile
      (identity.public cfg.profile).keyEnvelopeSuite = .ok payloadSuite ∧
    G.parsePrivateKey privateKey = .ok key ∧
    G.signASN1 random key ((serverTranscript cfg session (identity.public cfg.profile)
      payloadSuite (identity.public cfg.profile).keyEnvelopeSuite).hash P) = .ok signature ∧
    hello = serverHello cfg session (identity.public cfg.profile) payloadSuite
      (identity.public cfg.profile).keyEnvelopeSuite
      ((serverTranscript cfg session (identity.public cfg.profile) payloadSuite
        (identity.public cfg.profile).keyEnvelopeSuite).hash P) signature

theorem signWebTTYProofTranscript_signed
    (h : signWebTTYProofTranscript G random key hash = .ok signature) :
    hash.length = 32 ∧ G.signASN1 random key hash = .ok signature := by
  obtain ⟨_, _, h⟩ := bind_eq_ok.mp h
  obtain ⟨_, hlength, hsigned⟩ := bind_eq_ok.mp h
  exact ⟨not_not.mp (failIf_eq_ok.mp hlength), libraryError_eq_ok.mp hsigned⟩

theorem sendServerHelloIfConfigured_sent {cfg : ServerConfig}
    (hidentity : cfg.endpointIdentity = some identity)
    {sessionID : String} {draw : Draw 32} {closed : Bool}
    {write : ServerHello → Except Error Unit} {session : SessionIdentity} {hello : ServerHello}
    (h : sendServerHelloIfConfigured P G cfg privateKey sessionID transport draw random closed
      write = .ok (some (session, hello))) :
    Sent P G cfg privateKey transport identity session hello := by
  simp only [sendServerHelloIfConfigured, hidentity] at h
  obtain ⟨nonce, _, h⟩ := bind_eq_ok.mp h
  obtain ⟨suite, hsuite, h⟩ := bind_eq_ok.mp h
  obtain ⟨payloadSuite, hpayloadSuite, h⟩ := bind_eq_ok.mp h
  obtain ⟨_, _, h⟩ := bind_eq_ok.mp h
  obtain ⟨key, hkey, h⟩ := bind_eq_ok.mp h
  obtain ⟨signature, hsignature, h⟩ := bind_eq_ok.mp h
  obtain ⟨_, _, hsent⟩ := bind_eq_ok.mp h
  obtain ⟨rfl, hvalid⟩ := webTTYPublicIdentityKeyEnvelopeSuite_public hsuite
  have hpair := Option.some.inj (ok.inj hsent)
  obtain rfl := (Prod.mk.inj hpair).1
  obtain rfl := (Prod.mk.inj hpair).2
  exact ⟨rfl, payloadSuite, key, random, signature, hvalid, hpayloadSuite, asError_eq_ok.mp hkey,
    (signWebTTYProofTranscript_signed hsignature).2, rfl⟩

/-- The client rebuilds the transcript the server signed. -/
theorem helloTranscript_serverHello (cfg : ServerConfig) (session : SessionIdentity)
    (identity : EndpointIdentity) (payloadSuite suite : Int32) (hash signature : Bytes) :
    helloTranscript (serverHello cfg session identity payloadSuite suite hash signature)
        (endpointIdentityPublicToProto cfg.profile identity) session.transport =
      serverTranscript cfg session identity payloadSuite suite := by
  simp only [helloTranscript, serverHello, serverTranscript, webTTYStringValueText_value,
    trimSpace_trimSpace, webTTYAuthRequirement_fromProto, endpointIdentityPublicToProto]

/-- The suite of a completed identity goes into the message as it is. -/
theorem endpointIdentityPublicToProto_suite (profile q : Profile) (identity : EndpointIdentity) :
    (endpointIdentityPublicToProto profile (identity.public q)).keyEnvelopeSuite =
      (identity.public q).keyEnvelopeSuite :=
  if_neg (public_keyEnvelopeSuite_ne_zero q identity)

/-- A signature of a key is valid under its public half. -/
theorem verifyWebTTYProofTranscript_signed (hG : SigningCorrect P G)
    (hread : P.parsePublicKey publicKey = .ok (G.publicKey key)) (hlength : hash.length = 32)
    (hsigned : G.signASN1 random key hash = .ok signature) :
    verifyWebTTYProofTranscript P publicKey hash signature = .ok () := by
  refine bind_ok (failIf_ne_ok hlength) <| bind_ok (asError_eq_ok.mpr hread) (failIf_eq_ok.mpr ?_)
  rw [hG.verifies hsigned]
  decide

theorem Expects.same_keys {client : HandshakeClient} {cfg : ServerConfig}
    (h : Expects P G client cfg privateKey identity expected) :
    (identity.public cfg.profile).signingKeyID = expected.signingKeyID ∧
      (identity.public cfg.profile).signingPublicKey = expected.signingPublicKey ∧
      (identity.public cfg.profile).encryptionKeyID = expected.encryptionKeyID ∧
      (identity.public cfg.profile).encryptionPublicKey = expected.encryptionPublicKey := by
  rw [h.signingKeyID, h.signingPublicKey, h.encryptionKeyID, h.encryptionPublicKey]
  unfold EndpointIdentity.public
  split_ifs <;> exact ⟨rfl, rfl, rfl, rfl⟩

/-- A client accepts the hello of the server it expects. -/
theorem Sent.accepted (hG : SigningCorrect P G) {client : HandshakeClient} {cfg : ServerConfig}
    {session : SessionIdentity} {hello : ServerHello}
    (hsent : Sent P G cfg privateKey transport identity session hello)
    (hexpects : Expects P G client cfg privateKey identity expected) :
    verifyServerHello P client (some hello) transport = .ok () := by
  obtain ⟨rfl, payloadSuite, key, random, signature, _, hpayloadSuite, hkey, hsigned, rfl⟩ := hsent
  obtain ⟨key', hkey', hread⟩ := hexpects.keyPair
  obtain rfl := ok.inj (hkey'.symm.trans hkey)
  obtain ⟨hkeyID, hpublic, hencID, hencPublic⟩ := hexpects.same_keys
  have hsupported := supported_of_suite hexpects.suite
  have hsuite := endpointIdentityPublicToProto_suite cfg.profile cfg.profile identity
  simp only [verifyServerHello, hexpects.pinned, serverHello]
  refine bind_ok (a := ()) (bind_ok (failIf_ne_ok rfl) ?_) <| bind_ok hexpects.suite <|
    bind_ok (failIf_ok ?_) <| bind_ok (failIf_ne_ok hsuite) <|
    bind_ok (failIf_ne_ok ?_) (withContext_eq_ok.mpr ?_)
  · refine bind_ok (a := ()) ?_ <| bind_ok (a := payloadSuite) ?_ <| bind_ok (failIf_ne_ok rfl) <|
      bind_ok (failIf_ok ?_) <| bind_ok (failIf_ne_ok rfl) (failIf_ne_ok rfl)
    · rw [hsuite, hsupported]
      rfl
    · rw [hsuite]
      exact e2ePayloadSuite_eq hpayloadSuite hsupported
    · rw [hsuite]
      exact not_not.mpr rfl
  · simp only [endpointIdentityPublicToProto, hkeyID, hpublic, hencID, hencPublic, ne_eq,
      not_true_eq_false, or_self, not_false_eq_true]
  · exact congrArg (ServerProofTranscript.hash P)
      (helloTranscript_serverHello cfg session _ payloadSuite _ _ signature).symm
  · have hreadHello : P.parsePublicKey (endpointIdentityPublicToProto cfg.profile
        (identity.public cfg.profile)).signingPublicKey = .ok (G.publicKey key') := by
      rw [← hread]
      exact congrArg P.parsePublicKey (hpublic.trans hexpects.signingPublicKey)
    rw [← helloTranscript_serverHello cfg session _ payloadSuite _ [] signature] at hsigned
    exact verifyWebTTYProofTranscript_signed hG hreadHello (hG.digest_length _) hsigned

end Hello

section Proof

/-- Suites a client derives for an open request are the ones the server derives. -/
theorem webTTYProofSuites_eq {p : Profile} (h : webTTYProofSuites q grant suite = .ok suites)
    (hsuite : validateProfileKeyEnvelopeSuite p suite = .ok ())
    (hgrant : ∀ g ∈ grant, validateProfileKeyEnvelopeSuite p g.keyEnvelopeSuite = .ok ()) :
    webTTYProofSuites p grant suite = .ok suites := by
  obtain ⟨payloadSuite, hpayload, h⟩ := bind_eq_ok.mp h
  refine bind_ok (e2ePayloadSuite_eq hpayload hsuite) ?_
  cases grant with
  | none => exact h
  | some g =>
    obtain ⟨_, hvalid, hsuites⟩ := bind_eq_ok.mp h
    exact bind_ok (validateE2ESuites_of_supported hvalid (hgrant g rfl)) hsuites

/-- A build supports the suites of a grant it derives suites from. -/
theorem supported_of_webTTYProofSuites (h : webTTYProofSuites profile grant suite = .ok suites) :
    ∀ g ∈ grant, validateProfileKeyEnvelopeSuite profile g.keyEnvelopeSuite = .ok () := by
  rintro g rfl
  obtain ⟨_, _, h⟩ := bind_eq_ok.mp h
  obtain ⟨_, hvalid, _⟩ := bind_eq_ok.mp h
  exact supported_of_validateE2ESuites hvalid

/-- The facts of a proof a client signed. -/
structure SignedProof (P : Primitives K) (G : Signing K S R) (client : HandshakeClient)
    (identity : EndpointIdentity) (privateKey : Bytes) (request : Open) (hello : ServerHello)
    (server : ServerIdentity) (transport : String) (now : Int) (proof : ClientProof) : Prop where
  signed : ∃ suites grantHash configHash key random,
    webTTYProofSuites client.profile request.sessionKeyGrant server.keyEnvelopeSuite = .ok suites ∧
    hashWebTTYSessionKeyGrant P request.sessionKeyGrant = .ok grantHash ∧
    hashWebTTYConfig P request.config = .ok configHash ∧
    G.parsePrivateKey privateKey = .ok key ∧
    proof.transcriptHash = (openTranscript P client identity hello server transport suites
      grantHash configHash (truncateSecond now) (truncateSecond now + 30 * second)).hash P ∧
    G.signASN1 random key proof.transcriptHash = .ok proof.signature
  principalID : proof.principalID = webTTYStringValue (trimSpace client.clientPrincipalID)
  signingKeyID : proof.signingKeyID = identity.signingKeyID
  signingPublicKey : proof.signingPublicKey = identity.signingPublicKey
  signatureSuite : proof.signatureSuite = signatureSuiteECDSAP256SHA256
  issuedAt : proof.issuedAt = formatRFC3339 (truncateSecond now)
  expiresAt : proof.expiresAt = formatRFC3339 (truncateSecond now + 30 * second)
  credential : proof.credential = webTTYBytesValue client.clientCredential

theorem signedProof_signed {client : HandshakeClient}
    {request : Open} {hello : ServerHello} {server : ServerIdentity}
    {now : Int} {proof : ClientProof}
    (h : signedProof P G client identity privateKey request hello server transport now random =
      .ok proof) :
    SignedProof P G client identity privateKey request hello server transport now proof := by
  obtain ⟨suites, hsuites, h⟩ := bind_eq_ok.mp h
  obtain ⟨grantHash, hgrant, h⟩ := bind_eq_ok.mp h
  obtain ⟨configHash, hconfig, h⟩ := bind_eq_ok.mp h
  obtain ⟨key, hkey, h⟩ := bind_eq_ok.mp h
  obtain ⟨signature, hsignature, hproof⟩ := bind_eq_ok.mp h
  obtain rfl := ok.inj hproof
  exact ⟨⟨suites, grantHash, configHash, key, random, hsuites, hgrant, hconfig,
    asError_eq_ok.mp hkey, rfl, (signWebTTYProofTranscript_signed hsignature).2⟩,
    by rw [proofMessage], rfl, rfl, rfl, by rw [proofMessage, openTranscript],
    by rw [proofMessage, openTranscript], by rw [proofMessage]⟩

/-- Truncating a truncated instant changes nothing. -/
theorem truncateSecond_add (t : Int) (n : Int) :
    truncateSecond (truncateSecond t + n * second) = truncateSecond t + n * second := by
  simp only [truncateSecond, second]
  omega

/-- A fresh proof is within its time window as long as the clocks agree. -/
theorem validateClientProofTimeWindow_fresh {proof : ClientProof} {now serverNow : Int}
    (hissued : proof.issuedAt = formatRFC3339 (truncateSecond now))
    (hexpires : proof.expiresAt = formatRFC3339 (truncateSecond now + 30 * second))
    (hnow : InRFC3339Range now) (hlater : InRFC3339Range (now + 30 * second))
    (hclocks : ClocksAgree now serverNow) :
    validateClientProofTimeWindow proof serverNow = .ok () := by
  have hissuedAt : parseRFC3339 proof.issuedAt = some (truncateSecond now) := by
    have hsame := truncateSecond_add now 0
    rw [Int.zero_mul, Int.add_zero] at hsame
    rw [hissued, parseRFC3339_format, hsame]
    simp only [InRFC3339Range, truncateSecond, second] at hnow ⊢
    omega
  have hexpiresAt : parseRFC3339 proof.expiresAt = some (truncateSecond now + 30 * second) := by
    rw [hexpires, parseRFC3339_format, truncateSecond_add]
    simp only [InRFC3339Range, truncateSecond, second] at hnow hlater ⊢
    omega
  obtain ⟨hahead, hbehind⟩ := hclocks
  simp only [validateClientProofTimeWindow, hissuedAt, hexpiresAt]
  have hlifetime : timeSub (truncateSecond now + 30 * second) (truncateSecond now) =
      30 * second := by
    rw [timeSub, add_sub_cancel_left]
    decide
  rw [hlifetime, if_neg, if_neg, if_neg (lt_irrefl _)]
  · simp only [truncateSecond, second] at hahead hbehind ⊢
    omega
  · simp only [truncateSecond, second] at hahead hbehind ⊢
    omega

/-- The server rebuilds the transcript the client signed, up to white space. -/
theorem expectedTranscript_hash (P : Primitives K) {cfg : ServerConfig} {session : SessionIdentity}
    {client : HandshakeClient} {request : Open} {now : Int} {proof : ClientProof}
    (hproof : SignedProof P G client own privateKey request
      (serverHello cfg session identity payloadSuite suite hash signature)
      (endpointIdentityPublicToProto cfg.profile identity) session.transport now proof)
    (suites : Int32 × Int32) (grantHash configHash : Bytes) :
    (expectedTranscript cfg session identity proof suites grantHash configHash
      (P.sha256 (proof.credential.getD []))).hash P =
    (openTranscript P client own (serverHello cfg session identity payloadSuite suite hash signature)
      (endpointIdentityPublicToProto cfg.profile identity) session.transport suites grantHash
      configHash (truncateSecond now) (truncateSecond now + 30 * second)).hash P := by
  have hprincipal : proof.principalID.getD "" = trimSpace client.clientPrincipalID := by
    rw [hproof.principalID]
    exact (webTTYStringValueText_value _).trans (trimSpace_trimSpace _)
  simp only [ClientProofTranscript.hash, ClientProofTranscript.canonicalBytes,
    ClientProofTranscript.fields, expectedTranscript, openTranscript, serverHello,
    webTTYStringValueText_value, stringField_trimSpace, hprincipal, hproof.signingKeyID,
    hproof.issuedAt, hproof.expiresAt, hproof.credential, webTTYBytesValue_getD,
    endpointIdentityPublicToProto]

theorem verifyWebTTYClientProofTranscript_signed (hG : SigningCorrect P G)
    (hread : P.parsePublicKey publicKey = .ok (G.publicKey key)) {t : ClientProofTranscript}
    (hsigned : G.signASN1 random key (t.hash P) = .ok signature) :
    verifyWebTTYClientProofTranscript P publicKey t signature = .ok () := by
  have hlength : (t.hash P).length = 32 := hG.digest_length _
  simp [verifyWebTTYClientProofTranscript, hlength, hread, hG.verifies hsigned]

/-- The server accepts the proof of an authorized client for the request it was built for. -/
theorem SignedProof.accepted (hG : SigningCorrect P G) {cfg : ServerConfig}
    {session : SessionIdentity} {client : HandshakeClient} {request : Open}
    {now serverNow : Int} {proof : ClientProof}
    (hsupported : validateProfileKeyEnvelopeSuite cfg.profile
      (identity.public cfg.profile).keyEnvelopeSuite = .ok ())
    (hproof : SignedProof P G client own privateKey request
      (serverHello cfg session (identity.public cfg.profile) payloadSuite
        (identity.public cfg.profile).keyEnvelopeSuite hash signature)
      (endpointIdentityPublicToProto cfg.profile (identity.public cfg.profile)) session.transport
      now proof) (hgrant : client.profile = cfg.profile ∨ ∀ g ∈ request.sessionKeyGrant,
      validateProfileKeyEnvelopeSuite cfg.profile g.keyEnvelopeSuite = .ok ())
    (hown : own.signingPublicKey ≠ [] ∧
      own.signingKeyID = webTTYSigningKeyID P own.signingPublicKey ∧
      KeyPair P G own.signingPublicKey privateKey)
    (hnow : InRFC3339Range now) (hlater : InRFC3339Range (now + 30 * second))
    (hclocks : ClocksAgree now serverNow) (hauthorized : AuthorizesProof P cfg proof) :
    checkClientProof P cfg session identity { request with clientProof := some proof } proof
      serverNow = .ok () := by
  obtain ⟨suites, grantHash, configHash, key, random, hsuites, hgrantHash, hconfigHash, hkey, hhash,
    hsigned⟩ := hproof.signed
  obtain ⟨hne, hkeyID, key', hkey', hread⟩ := hown
  obtain rfl := ok.inj (hkey'.symm.trans hkey)
  rw [endpointIdentityPublicToProto_suite] at hsuites
  have hserverSuites : webTTYProofSuites cfg.profile request.sessionKeyGrant
      (identity.public cfg.profile).keyEnvelopeSuite = .ok suites := by
    refine webTTYProofSuites_eq hsuites hsupported ?_
    rcases hgrant with hsame | hgrant
    · exact hsame ▸ supported_of_webTTYProofSuites hsuites
    · exact hgrant
  have htranscript := (expectedTranscript_hash P hproof suites grantHash configHash).trans
    hhash.symm
  rw [← htranscript] at hsigned
  have hown : webTTYPublicIdentityKeyEnvelopeSuite cfg.profile (identity.public cfg.profile) =
      .ok (identity.public cfg.profile).keyEnvelopeSuite := by
    simp only [webTTYPublicIdentityKeyEnvelopeSuite,
      if_neg (public_keyEnvelopeSuite_ne_zero cfg.profile identity)]
    exact bind_ok rfl <| bind_ok hsupported rfl
  have htime := validateClientProofTimeWindow_fresh hproof.issuedAt hproof.expiresAt hnow hlater
    hclocks
  have hverified := verifyWebTTYClientProofTranscript_signed hG hread hsigned
  rw [← hproof.signingPublicKey] at hverified
  refine bind_ok (failIf_ne_ok hproof.signatureSuite) <| bind_ok (asInvalidProof_eq_ok.mpr hown) <|
    bind_ok (asInvalidProof_eq_ok.mpr hserverSuites) <| bind_ok (failIf_ne_ok ?_) <|
    bind_ok (failIf_ne_ok ?_) <| bind_ok (asInvalidProof_eq_ok.mpr htime) <|
    bind_ok (asInvalidProof_eq_ok.mpr hgrantHash) <|
    bind_ok (asInvalidProof_eq_ok.mpr hconfigHash) <| bind_ok (failIf_ne_ok htranscript.symm) <|
    bind_ok (asInvalidProof_eq_ok.mpr hverified) <| bind_ok (hauthorized _ rfl rfl htranscript) <|
    bind_ok (failIf_ok ?_) (failIf_ne_ok rfl)
  · rw [hproof.signingKeyID, hkeyID]
    exact hG.digest_length _
  · rw [hproof.signingKeyID, hproof.signingPublicKey, hkeyID]
  · rw [hproof.signingPublicKey]
    exact hne

end Proof

section Agreement

/-- **Handshake agreement.** A client that expects the server accepts its hello, and the server
accepts the open request with the proof that client builds for it, if the client's key is
authorized and the clocks agree. -/
theorem sendServerHello_agreement (hG : SigningCorrect P G) {cfg : ServerConfig}
    {serverKey : Bytes} {sessionID transport : String} {draw : Draw 32} {random : R}
    {closed : Bool} {write : ServerHello → Except Error Unit} {session : SessionIdentity}
    {hello : ServerHello}
    (hsend : sendServerHelloIfConfigured P G cfg serverKey sessionID transport draw random closed
      write = .ok (some (session, hello)))
    {client : HandshakeClient} {identity expected : EndpointIdentity}
    (hexpects : Expects P G client cfg serverKey identity expected) :
    verifyServerHello P client (some hello) transport = .ok () ∧
    ∀ request now random proof,
      clientProofForOpen P G client request (some hello) transport now random = .ok proof →
      WholeIdentity P G client →
      (client.profile = cfg.profile ∨ ∀ g ∈ request.sessionKeyGrant,
        validateProfileKeyEnvelopeSuite cfg.profile g.keyEnvelopeSuite = .ok ()) →
      InRFC3339Range now → InRFC3339Range (now + 30 * second) →
      ∀ serverNow, ClocksAgree now serverNow → (∀ p ∈ proof, AuthorizesProof P cfg p) →
      ∃ identity, verifyClientProof P cfg session (some { request with clientProof := proof })
        serverNow false = .ok identity := by
  have hsent := sendServerHelloIfConfigured_sent hexpects.configured hsend
  refine ⟨hsent.accepted hG hexpects, ?_⟩
  intro request now random' proof hproof hwhole hgrant hnow hlater serverNow hclocks hauthorized
  obtain ⟨rfl, payloadSuite, _, _, signature, hsupported, _, _, _, rfl⟩ := hsent
  unfold verifyClientProof
  split_ifs with hrequired
  · exact ⟨none, rfl⟩
  rw [ne_eq, not_not] at hrequired
  -- A server that requires a proof says so in its hello, so the client built one.
  have hasks : ¬ webTTYAuthRequirement cfg ≠ authRequirementClientProof :=
    not_not.mpr (if_pos hrequired)
  rw [clientProofForOpen, hexpects.pinned] at hproof
  replace hproof := (if_neg hasks).symm.trans hproof
  rcases hclient : client.endpointIdentity with _ | ⟨own, privateKey⟩
  · rw [hclient] at hproof
    cases hproof
  rw [hclient] at hproof
  obtain ⟨signed, hsigned, hproof⟩ := bind_eq_ok.mp hproof
  obtain rfl := ok.inj hproof
  have haccepted := (signedProof_signed hsigned).accepted hG hsupported hgrant
    (hwhole own privateKey hclient) hnow hlater hclocks (hauthorized signed rfl)
  simp only [hexpects.configured]
  exact ⟨_, bind_ok haccepted rfl⟩

namespace HandshakeSample

/-- Signatures that repeat the key before the digest. -/
def primitives : Primitives Bytes where
  sha256 _ := replicate 32 7
  parsePublicKey der := .ok der
  verifyASN1 key hash signature := signature = key ++ hash
  marshalConfig _ := .ok []
  marshalGrant _ := .ok []

def signing : Signing Bytes Bytes Unit where
  parsePrivateKey der := .ok der
  validatePrivateKey _ := .ok ()
  publicKey key := key
  signASN1 _ key hash := .ok (key ++ hash)

theorem signing_correct : SigningCorrect primitives signing where
  verifies h := by
    obtain rfl := ok.inj h
    exact decide_eq_true rfl
  digest_length _ := rfl

def server : EndpointIdentity := ⟨0, [3], replicate 32 4, [5], [1]⟩

def cfg : ServerConfig where
  profile := .standard
  sessionCloseDeadline := none
  heartbeatInterval := none
  payloadCrypto := none
  payloadCryptoResolver := false
  requireSessionKeyGrant := none
  endpointIdentity := some server
  requireClientProof := some true
  authorizedClientSigningKeys := [(replicate 32 7, [2])]
  authorizedClientSigningKey := none
  clientProofVerifier := none
  workspaceID := " team "
  projectID := ""
  serverID := "shell"

/-- A client that leaves the suite of the server to be inferred from its key. -/
def client : HandshakeClient where
  profile := .standard
  endpointIdentity := some (⟨1, [], [], replicate 32 7, [2]⟩, [2])
  expectedServerIdentity := some server
  clientPrincipalID := "alice "
  clientDeviceID := ""
  clientBrowserID := ""
  clientCredential := []

def session : SessionIdentity := ⟨"s1", "websocket", replicate 32 9⟩

def hello : ServerHello :=
  serverHello cfg session (server.public .standard) 1 1 (replicate 32 7)
    (1 :: replicate 32 7)

def request : Open := ⟨none, some ⟨1, replicate 16 8, [], [], 1⟩, none⟩

/-- 2026-03-01T00:00:30.5Z. -/
def now : Int := 1772323230 * second + 500000000

def proof : ClientProof where
  principalID := some "alice"
  signingKeyID := replicate 32 7
  signingPublicKey := [2]
  signatureSuite := 1
  transcriptHash := replicate 32 7
  signature := 2 :: replicate 32 7
  issuedAt := "2026-03-01T00:00:30Z"
  expiresAt := "2026-03-01T00:01:00Z"
  deviceID := none
  browserID := none
  credential := none

theorem proof_authorized : AuthorizesProof primitives cfg proof := by
  rintro v hproof _ _
  rw [authorizedPublicKey, hproof]
  rfl

theorem sendServerHello_agreement_sample :
    verifyServerHello primitives client (some hello) "websocket" = .ok () ∧
      ∃ identity, verifyClientProof primitives cfg session
        (some { request with clientProof := some proof }) (now + 10 * second) false =
          .ok identity := by
  have hagreement := sendServerHello_agreement signing_correct
    (show sendServerHelloIfConfigured primitives signing cfg [1] "s1" "websocket"
      (.ok ⟨replicate 32 9, rfl⟩) () false (fun _ => .ok ()) = .ok (some (session, hello)) by
        decide +kernel)
    (show Expects primitives signing client cfg [1] server server from
      ⟨rfl, rfl, rfl, rfl, rfl, rfl, by decide +kernel, [1], rfl, rfl⟩)
  refine ⟨hagreement.1, hagreement.2 request now () (some proof) (by decide +kernel) ?_ (.inl rfl)
    (by simp only [InRFC3339Range]; decide) (by simp only [InRFC3339Range]; decide) _
    (by simp only [ClocksAgree]; decide) ?_⟩
  · intro identity privateKey h
    obtain ⟨rfl, rfl⟩ := Prod.mk.inj (Option.some.inj h)
    exact ⟨by decide, rfl, [2], rfl, rfl⟩
  · intro p hp
    obtain rfl := Option.some.inj hp
    exact proof_authorized

end HandshakeSample

end Agreement

end Rstream.WebTTY
