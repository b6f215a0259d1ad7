import Rstream.WebTTY.ClientTrustSoundness

/-!
# Texts of keys

The keys of servers and clients are given as texts: base64url parts between colons, a key
after the ID that is derived from it. What is written is read back, and a text that is
accepted says nothing but its keys: another text with as many parts and the same keys differs
from it in white space around the parts only.
-/

namespace Rstream.WebTTY

open Rstream.Core Go List

variable {Pub Priv R : Type} (env : ClientEnvironment Pub Priv R)

section Formats

def knownServerEndpointIdentityString (identity : EndpointIdentity) : String :=
  ":".intercalate [rawURLEncode identity.encryptionKeyID,
    rawURLEncode identity.encryptionPublicKey, rawURLEncode identity.signingKeyID,
    rawURLEncode identity.signingPublicKey]

/-- The end of `ParseAuthorizedClientSigningKey`, with the parts of the text. -/
def authorizedClientSigningKey (encodedKeyID encodedPublicKey : String) :
    Except Error (Bytes × Bytes) := do
  let publicKey ←
    decodeE2EKeyMaterial encodedPublicKey 0 "authorized WebTTY client signing public key"
  withContext "authorized WebTTY client signing public key is invalid: "
    (env.parseWebTTYSigningPublicKey publicKey)
  let keyID := env.webTTYSigningKeyID publicKey
  if encodedKeyID = "" then return (keyID, publicKey)
  else
    let decodedKeyID ←
      decodeE2EKeyMaterial encodedKeyID 32 "authorized WebTTY client signing key id"
    failIf (decodedKeyID ≠ keyID)
      (newError "authorized WebTTY client signing key id does not match public key")
    return (decodedKeyID, publicKey)

def parseAuthorizedClientSigningKey (value : String) : Except Error (Bytes × Bytes) := do
  let value := trimSpace value
  failIf (value = "") (newError "authorized WebTTY client signing key is empty")
  if value.toList.count ':' = 3 then
    let identity ← parseKnownServerEndpointIdentity env value
    return (identity.signingKeyID, identity.signingPublicKey)
  else match splitColon value with
  | [publicKey] => authorizedClientSigningKey env "" (trimSpace publicKey)
  | [keyID, publicKey] =>
    authorizedClientSigningKey env (trimSpace keyID) (trimSpace publicKey)
  | _ => .error (newError ("authorized WebTTY client signing key must be signing_public_key, " ++
    "signing_key_id:signing_public_key, or a WebTTY endpoint identity"))

/-- The parts of a text between colons, without the white space around them. -/
def keyParts (value : String) : List String := (splitColon (trimSpace value)).map trimSpace

end Formats

section Texts

/-- Base64url digits are no white space and no colons. -/
theorem rawURLEncode_chars (data : Bytes) :
    ∀ c ∈ (rawURLEncode data).toList, isSpace c = false ∧ c ≠ ':' := by
  intro c hc
  rw [rawURLEncode, String.toList_ofList] at hc
  obtain ⟨n, hn, rfl⟩ := mem_map.mp hc
  have hvalue := base64Value_base64Digit (toSextets_lt data n hn)
  have hcolon : base64Value ':' = none := by decide
  refine ⟨isSpace_of_printable (base64Value_printable hvalue), fun heq => ?_⟩
  rw [heq, hcolon] at hvalue
  cases hvalue

theorem trimSpace_of_no_space {s : String} (h : ∀ c ∈ s.toList, isSpace c = false) :
    trimSpace s = s := by
  rw [trimSpace, dropWhile_of_head h, dropWhile_of_head fun c hc => h c (mem_reverse.mp hc),
    reverse_reverse, String.ofList_toList]

/-- Parts without colons are read back. -/
theorem splitColon_join {parts : List String} (hne : parts ≠ [])
    (hparts : ∀ part ∈ parts, ':' ∉ part.toList) :
    splitColon (":".intercalate parts) = parts := by
  have hsplit := splitOn_intercalate ':'
    (fun l hl => by obtain ⟨part, hpart, rfl⟩ := mem_map.mp hl; exact hparts part hpart)
    (mt map_eq_nil_iff.mp hne : parts.map String.toList ≠ [])
  rw [splitColon, String.toList_intercalate]
  change (splitOn ':' ([':'].intercalate _)).map _ = _
  rw [hsplit, map_map]
  simp

/-- Encoded parts between colons are read back, and there is nothing to trim. -/
theorem splitColon_encoded {datas : List Bytes} (hne : datas ≠ []) :
    splitColon (trimSpace (":".intercalate (datas.map rawURLEncode))) =
      datas.map rawURLEncode := by
  rw [trimSpace_of_no_space, splitColon_join (mt map_eq_nil_iff.mp hne)]
  · intro part hpart
    obtain ⟨data, -, rfl⟩ := mem_map.mp hpart
    exact fun hcolon => (rawURLEncode_chars data _ hcolon).2 rfl
  · intro c hc
    rw [String.toList_intercalate] at hc
    obtain hsep | ⟨part, hpart, hc⟩ := mem_intercalate hc
    · obtain rfl : c = ':' := by simpa using hsep
      decide
    · simp only [map_map, mem_map, Function.comp_apply] at hpart
      obtain ⟨data, -, rfl⟩ := hpart
      exact (rawURLEncode_chars data c hc).1

theorem join_pair (a b : String) : a ++ ":" ++ b = ":".intercalate [a, b] := by
  simp

theorem ne_empty_of_splitColon {s : String} {parts : List String} (h : splitColon s = parts)
    (hlength : parts.length ≠ 1) : s ≠ "" := by
  rintro rfl
  exact hlength (h ▸ by decide)

/-- Trimming stops at a colon. -/
theorem dropWhile_colon (front back : List Char) :
    (front ++ ':' :: back).dropWhile isSpace = front.dropWhile isSpace ++ ':' :: back := by
  have hcolon : isSpace ':' = false := by decide
  rw [dropWhile_append, dropWhile_cons_of_neg (by simp [hcolon])]
  split_ifs with hempty
  · rw [isEmpty_iff.mp hempty, nil_append]
  · rfl

/-- The parts of two texts without colons, joined by one. -/
theorem keyParts_pair {a b : String} (ha : ':' ∉ a.toList) (hb : ':' ∉ b.toList) :
    keyParts (a ++ ":" ++ b) = [trimSpace a, trimSpace b] := by
  have htrim : trimSpace (a ++ ":" ++ b) = ":".intercalate [String.ofList
      (a.toList.dropWhile isSpace), String.ofList (b.toList.rdropWhile isSpace)] := by
    apply String.toList_inj.mp
    simp [trimSpace, dropWhile_colon, rdropWhile]
  have hfront : trimSpace (String.ofList (a.toList.dropWhile isSpace)) = trimSpace a := by
    simp only [trimSpace, String.toList_ofList, dropWhile_idempotent]
  have hback : trimSpace (String.ofList (b.toList.rdropWhile isSpace)) = trimSpace b := by
    simp only [trimSpace, String.toList_ofList, dropWhile_rdropWhile]
    exact congrArg String.ofList (rdropWhile_idempotent _ _)
  rw [keyParts, htrim, splitColon_join (cons_ne_nil _ _), map_cons, map_singleton, hfront, hback]
  intro part hpart
  simp only [mem_cons, not_mem_nil, or_false] at hpart
  obtain rfl | rfl := hpart <;> rw [String.toList_ofList]
  · exact fun hc => ha ((dropWhile_sublist _).subset hc)
  · exact fun hc => hb (( rdropWhile_prefix isSpace _).subset hc)

theorem colon_notMem_of_mem_splitColon {s part : String} (h : part ∈ splitColon s) :
    ':' ∉ part.toList := by
  obtain ⟨chars, hchars, rfl⟩ := mem_map.mp h
  rw [String.toList_ofList]
  intro hcolon
  have := (mem_of_mem_splitOnP hchars hcolon).2
  simp at this

end Texts

section Material

theorem decodeE2EKeyMaterial_rawURLEncode {data : Bytes} {size : Nat} (hne : data ≠ [])
    (hsize : size = 0 ∨ data.length = size) (field : String) :
    decodeE2EKeyMaterial (rawURLEncode data) size field = .ok data := by
  unfold decodeE2EKeyMaterial
  rw [trimSpace_rawURLEncode]
  refine bind_ok (failIf_ok (rawURLEncode_ne_empty hne)) ?_
  rw [rawURLDecode_encode]
  refine bind_ok (failIf_ok ?_) (bind_ok (failIf_ok (not_not.mpr rfl)) rfl)
  omega

/-- Accepted key material is the encoding of what is returned. -/
theorem trimSpace_of_decodeE2EKeyMaterial {value field : String} {size : Nat} {data : Bytes}
    (h : decodeE2EKeyMaterial value size field = .ok data) :
    trimSpace value = rawURLEncode data := by
  unfold decodeE2EKeyMaterial at h
  obtain ⟨_, _, h⟩ := bind_eq_ok.mp h
  split at h
  · cases h
  · obtain ⟨_, _, h⟩ := bind_eq_ok.mp h
    obtain ⟨_, hcanonical, h⟩ := bind_eq_ok.mp h
    cases h
    exact (not_not.mp (failIf_eq_ok.mp hcanonical)).symm

/-- There is no suite for an empty key. -/
theorem ne_nil_of_inferE2EKeyEnvelopeSuite {profile : Profile} {publicKey : Bytes} {suite : Int32}
    (h : inferE2EKeyEnvelopeSuite profile publicKey = .ok suite) : publicKey ≠ [] := by
  rintro rfl
  cases h

end Material

section Parsers

variable {env}

/-- A text of one or two parts that is accepted: its key, after the ID of the key. -/
theorem keyParts_of_parseKnownServerKey {value : String} {recipient : E2ERecipient}
    (h : parseKnownServerKey env value = .ok recipient) :
    recipient.keyID = e2eKeyID env.primitives recipient.publicKey ∧
      (keyParts value = [rawURLEncode recipient.publicKey] ∨
        keyParts value = [rawURLEncode recipient.keyID, rawURLEncode recipient.publicKey]) := by
  unfold parseKnownServerKey at h
  obtain ⟨_, _, h⟩ := bind_eq_ok.mp h
  split at h
  · next hparts =>
    obtain ⟨publicKey, hkey, h⟩ := bind_eq_ok.mp h
    obtain ⟨suite, -, h⟩ := bind_eq_ok.mp h
    cases h
    exact ⟨rfl, .inl (by
      rw [keyParts, hparts, map_singleton, trimSpace_of_decodeE2EKeyMaterial hkey])⟩
  · next hparts =>
    obtain ⟨keyID, hid, h⟩ := bind_eq_ok.mp h
    obtain ⟨publicKey, hkey, h⟩ := bind_eq_ok.mp h
    obtain ⟨_, hmatch, h⟩ := bind_eq_ok.mp h
    obtain ⟨_, hrecipient, h⟩ := bind_eq_ok.mp h
    obtain ⟨suite, -, hrecipient⟩ := bind_eq_ok.mp hrecipient
    cases hrecipient
    cases h
    exact ⟨not_not.mp (failIf_eq_ok.mp hmatch), .inr (by
      rw [keyParts, hparts, map_cons, map_singleton, trimSpace_of_decodeE2EKeyMaterial hid,
        trimSpace_of_decodeE2EKeyMaterial hkey])⟩
  · cases h

/-- A text of four parts that is accepted: two keys, each after its ID. -/
theorem keyParts_of_parseKnownServerEndpointIdentity {value : String} {identity : EndpointIdentity}
    (h : parseKnownServerEndpointIdentity env value = .ok identity) :
    identity.encryptionKeyID = e2eKeyID env.primitives identity.encryptionPublicKey ∧
      identity.signingKeyID = env.webTTYSigningKeyID identity.signingPublicKey ∧
      keyParts value = [rawURLEncode identity.encryptionKeyID,
        rawURLEncode identity.encryptionPublicKey, rawURLEncode identity.signingKeyID,
        rawURLEncode identity.signingPublicKey] := by
  unfold parseKnownServerEndpointIdentity at h
  obtain ⟨_, _, h⟩ := bind_eq_ok.mp h
  split at h
  · next keyID publicKey signingKeyID signingPublicKey hparts =>
    obtain ⟨encryption, hencryption, h⟩ := bind_eq_ok.mp h
    obtain ⟨sid, hsid, h⟩ := bind_eq_ok.mp h
    obtain ⟨skey, hskey, h⟩ := bind_eq_ok.mp h
    obtain ⟨_, -, h⟩ := bind_eq_ok.mp h
    obtain ⟨_, hmatch, h⟩ := bind_eq_ok.mp h
    cases h
    have hcolons : ∀ part ∈ [keyID, publicKey, signingKeyID, signingPublicKey],
        ':' ∉ part.toList :=
      fun part hpart => colon_notMem_of_mem_splitColon (hparts ▸ hpart)
    obtain ⟨hid, hpair⟩ := keyParts_of_parseKnownServerKey hencryption
    rw [keyParts_pair (hcolons _ (by simp)) (hcolons _ (by simp))] at hpair
    simp only [cons.injEq, reduceCtorEq, and_false, and_true, false_or] at hpair
    refine ⟨hid, not_not.mp (failIf_eq_ok.mp hmatch), ?_⟩
    simp only [keyParts, hparts, map_cons, map_nil, hpair.1, hpair.2,
      trimSpace_of_decodeE2EKeyMaterial hsid, trimSpace_of_decodeE2EKeyMaterial hskey]
  · cases h

/-- The ID of an accepted client key is derived from it. -/
theorem keyID_of_parseAuthorizedClientSigningKey {value : String} {keyID publicKey : Bytes}
    (h : parseAuthorizedClientSigningKey env value = .ok (keyID, publicKey)) :
    keyID = env.webTTYSigningKeyID publicKey := by
  have hend : ∀ {encodedKeyID encodedPublicKey : String},
      authorizedClientSigningKey env encodedKeyID encodedPublicKey = .ok (keyID, publicKey) →
        keyID = env.webTTYSigningKeyID publicKey := by
    intro encodedKeyID encodedPublicKey h
    unfold authorizedClientSigningKey at h
    obtain ⟨_, -, h⟩ := bind_eq_ok.mp h
    obtain ⟨_, -, h⟩ := bind_eq_ok.mp h
    dsimp only at h
    split_ifs at h
    · cases h
      rfl
    · obtain ⟨_, -, h⟩ := bind_eq_ok.mp h
      obtain ⟨_, hmatch, h⟩ := bind_eq_ok.mp h
      cases h
      exact not_not.mp (failIf_eq_ok.mp hmatch)
  unfold parseAuthorizedClientSigningKey at h
  obtain ⟨_, -, h⟩ := bind_eq_ok.mp h
  split_ifs at h
  · obtain ⟨identity, hidentity, h⟩ := bind_eq_ok.mp h
    cases h
    exact (keyParts_of_parseKnownServerEndpointIdentity hidentity).2.1
  · split at h
    · exact hend h
    · exact hend h
    · cases h

end Parsers

section RoundTrip

/-- What the libraries promise: digests have their size, and no key is empty. -/
structure ClientEnvironment.Sized : Prop where
  sha256 (data : Bytes) : (env.primitives.sha256 data).length = 32
  signingKeyID (publicKey : Bytes) : (env.webTTYSigningKeyID publicKey).length = 32
  signingPublicKey {publicKey : Bytes} :
    env.parseWebTTYSigningPublicKey publicKey = .ok () → publicKey ≠ []

/-- An identity whose keys are accepted and whose IDs are those of its keys. -/
structure ClientEnvironment.Genuine (identity : EndpointIdentity) : Prop where
  suite : inferE2EKeyEnvelopeSuite env.profile identity.encryptionPublicKey =
    .ok identity.keyEnvelopeSuite
  encryptionKeyID : identity.encryptionKeyID = e2eKeyID env.primitives identity.encryptionPublicKey
  signingPublicKey : env.parseWebTTYSigningPublicKey identity.signingPublicKey = .ok ()
  signingKeyID : identity.signingKeyID = env.webTTYSigningKeyID identity.signingPublicKey

variable {env}

/-- A key after its ID. -/
theorem parseKnownServerKey_pair (henv : env.Sized) {publicKey : Bytes} {suite : Int32}
    (hsuite : inferE2EKeyEnvelopeSuite env.profile publicKey = .ok suite) :
    parseKnownServerKey env
        (rawURLEncode (e2eKeyID env.primitives publicKey) ++ ":" ++ rawURLEncode publicKey) =
      .ok ⟨"", "", suite, e2eKeyID env.primitives publicKey, publicKey⟩ := by
  have hlength : (e2eKeyID env.primitives publicKey).length = 16 := by
    rw [e2eKeyID, length_take, henv.sha256]
    rfl
  have hparts := splitColon_encoded (cons_ne_nil (e2eKeyID env.primitives publicKey) [publicKey])
  rw [map_cons, map_singleton, ← join_pair] at hparts
  unfold parseKnownServerKey
  refine bind_ok (failIf_ok (ne_empty_of_splitColon hparts (by simp))) ?_
  rw [hparts]
  refine bind_ok (decodeE2EKeyMaterial_rawURLEncode (ne_nil_of_length_pos (by omega))
    (.inr hlength) _) ?_
  refine bind_ok (decodeE2EKeyMaterial_rawURLEncode
    (ne_nil_of_inferE2EKeyEnvelopeSuite hsuite) (.inl rfl) _) ?_
  exact bind_ok (failIf_ok (not_not.mpr rfl)) (bind_ok (bind_ok hsuite rfl) rfl)

theorem parseKnownServerEndpointIdentity_string (henv : env.Sized) {identity : EndpointIdentity}
    (hidentity : env.Genuine identity) :
    parseKnownServerEndpointIdentity env (knownServerEndpointIdentityString identity) =
      .ok identity := by
  have hparts := splitColon_encoded (cons_ne_nil identity.encryptionKeyID
    [identity.encryptionPublicKey, identity.signingKeyID, identity.signingPublicKey])
  have hlength : identity.signingKeyID.length = 32 := by
    rw [hidentity.signingKeyID, henv.signingKeyID]
  have hencryption := parseKnownServerKey_pair henv hidentity.suite
  rw [← hidentity.encryptionKeyID] at hencryption
  simp only [map_cons, map_nil] at hparts
  unfold parseKnownServerEndpointIdentity knownServerEndpointIdentityString
  refine bind_ok (failIf_ok (ne_empty_of_splitColon hparts (by simp))) ?_
  rw [hparts]
  refine bind_ok hencryption ?_
  refine bind_ok (decodeE2EKeyMaterial_rawURLEncode (ne_nil_of_length_pos (by omega))
    (.inr hlength) _) ?_
  refine bind_ok (decodeE2EKeyMaterial_rawURLEncode
    (henv.signingPublicKey hidentity.signingPublicKey) (.inl rfl) _) ?_
  refine bind_ok (withContext_eq_ok.mpr hidentity.signingPublicKey) ?_
  exact bind_ok (failIf_ok (not_not.mpr hidentity.signingKeyID)) rfl

end RoundTrip

section Main

/-- The texts of keys: what is written is read back, an ID that is returned is the one of its
key, and texts with as many parts and the same keys have the same parts. -/
structure ClientEnvironment.TextsSound : Prop where
  material {data : Bytes} {size : Nat} (field : String) : data ≠ [] →
    size = 0 ∨ data.length = size → decodeE2EKeyMaterial (rawURLEncode data) size field = .ok data
  keyPair {publicKey : Bytes} {suite : Int32} :
    inferE2EKeyEnvelopeSuite env.profile publicKey = .ok suite →
      parseKnownServerKey env
          (rawURLEncode (e2eKeyID env.primitives publicKey) ++ ":" ++ rawURLEncode publicKey) =
        .ok ⟨"", "", suite, e2eKeyID env.primitives publicKey, publicKey⟩
  identity {identity : EndpointIdentity} : env.Genuine identity →
    parseKnownServerEndpointIdentity env (knownServerEndpointIdentityString identity) =
      .ok identity
  serverKeyID {value : String} {recipient : E2ERecipient} :
    parseKnownServerKey env value = .ok recipient →
      recipient.keyID = e2eKeyID env.primitives recipient.publicKey
  identityKeyIDs {value : String} {identity : EndpointIdentity} :
    parseKnownServerEndpointIdentity env value = .ok identity →
      identity.encryptionKeyID = e2eKeyID env.primitives identity.encryptionPublicKey ∧
        identity.signingKeyID = env.webTTYSigningKeyID identity.signingPublicKey
  clientKeyID {value : String} {keyID publicKey : Bytes} :
    parseAuthorizedClientSigningKey env value = .ok (keyID, publicKey) →
      keyID = env.webTTYSigningKeyID publicKey
  serverKeyText {value value' : String} {recipient recipient' : E2ERecipient} :
    parseKnownServerKey env value = .ok recipient →
      parseKnownServerKey env value' = .ok recipient' →
      (keyParts value).length = (keyParts value').length →
      recipient.publicKey = recipient'.publicKey → keyParts value = keyParts value'
  identityText {value value' : String} {identity identity' : EndpointIdentity} :
    parseKnownServerEndpointIdentity env value = .ok identity →
      parseKnownServerEndpointIdentity env value' = .ok identity' →
      identity.encryptionPublicKey = identity'.encryptionPublicKey →
      identity.signingPublicKey = identity'.signingPublicKey → keyParts value = keyParts value'

theorem keyTexts_sound (henv : env.Sized) : env.TextsSound where
  material field hne hsize := decodeE2EKeyMaterial_rawURLEncode hne hsize field
  keyPair := parseKnownServerKey_pair henv
  identity := parseKnownServerEndpointIdentity_string henv
  serverKeyID h := (keyParts_of_parseKnownServerKey h).1
  identityKeyIDs h :=
    ⟨(keyParts_of_parseKnownServerEndpointIdentity h).1,
      (keyParts_of_parseKnownServerEndpointIdentity h).2.1⟩
  clientKeyID := keyID_of_parseAuthorizedClientSigningKey
  serverKeyText h h' hlength hkey := by
    obtain ⟨hid, hparts⟩ := keyParts_of_parseKnownServerKey h
    obtain ⟨hid', hparts'⟩ := keyParts_of_parseKnownServerKey h'
    rw [hid, hkey] at hparts
    rw [hid'] at hparts'
    obtain hparts | hparts := hparts <;> obtain hparts' | hparts' := hparts' <;>
      simp [hparts, hparts'] at hlength ⊢
  identityText h h' hkey hsigning := by
    obtain ⟨hid, hsid, hparts⟩ := keyParts_of_parseKnownServerEndpointIdentity h
    obtain ⟨hid', hsid', hparts'⟩ := keyParts_of_parseKnownServerEndpointIdentity h'
    rw [hparts, hparts', hid, hid', hsid, hsid', hkey, hsigning]

/-- Libraries that keep their promises. -/
def TrustSample.sized : ClientEnvironment Bytes Bytes Unit :=
  { TrustSample.client with
    webTTYSigningKeyID := fun _ => replicate 32 9
    parseWebTTYSigningPublicKey := fun publicKey =>
      failIf (publicKey = []) (newError "no public key") }

theorem keyTexts_sound_sample : TrustSample.sized.Sized ∧ TrustSample.sized.TextsSound :=
  have hsized : TrustSample.sized.Sized :=
    ⟨fun _ => length_replicate, fun _ => length_replicate, fun h => failIf_eq_ok.mp h⟩
  ⟨hsized, keyTexts_sound TrustSample.sized hsized⟩

/-- The encoding of no bytes is not read back. -/
theorem decodeE2EKeyMaterial_empty :
    decodeE2EKeyMaterial (rawURLEncode []) 0 "private key" =
      .error (newError "private key is empty") := by
  decide +kernel

end Main

end Rstream.WebTTY
