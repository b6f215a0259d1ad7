import Rstream.Workspace.Credential

/-!
# Decoding workspace client credentials

A credential travels as canonical JSON. The server decodes it to the normal form of
what the client signed, which has the same string members and the same canonical
text, so every check that holds of the payload holds of what the server sees.
-/

namespace Rstream.Workspace

open Go WebTTY Json

variable {signature text key : String} {trust o : Object}

section NormalForm

theorem canonical_normalObject (o : Object) :
    workspaceCanonicalJSON (.object (normalObject o).members) =
      workspaceCanonicalJSON (.object o.members) := by
  rw [normalObject, ← normal_object, workspaceCanonicalJSON, canonicalChars_normal,
    workspaceCanonicalJSON]

/-- A normal form has the same string members. -/
theorem workspaceTrustString_normalObject
    (h : workspaceCanonicalJSON (.object o.members) = .ok text) (key : String) :
    workspaceTrustString (normalObject o) key = workspaceTrustString o key :=
  workspaceTrustString_of_canonical ((canonical_normalObject o).trans h) h key

theorem get?_normalObject {v : Json} (h : o.get? key = some v)
    (hv : isNull v = false) : (normalObject o).get? key = some (normal v) := by
  rw [Object.get?_eq_some] at h ⊢
  exact List.mem_map.mpr ⟨(key, v), mem_ordered.mpr ⟨h, hv⟩, rfl⟩

theorem objectMember_eq_some :
    objectMember o key = some trust ↔ o.get? key = some (.object trust.members) := by
  unfold objectMember
  split
  next members heq =>
    constructor
    · rintro h
      cases h
      exact heq
    · intro h
      rw [heq] at h
      cases h
      rfl
  next hno =>
    constructor
    · intro h
      cases h
    · intro h
      exact absurd h (hno trust.members)

/-- The map inside a normal form is the normal form of the map. -/
theorem objectMember_normalObject (h : objectMember o key = some trust) :
    objectMember (normalObject o) key = some (normalObject trust) := by
  rw [objectMember_eq_some] at h ⊢
  rw [get?_normalObject h rfl, normal_object]
  rfl

theorem mergeMembers_empty (h : ∀ m ∈ o.members, Json.Plain m.2) :
    mergeMembers emptyObject o.members h = o := by
  have hany : lastValues (toAnyMembers o.members) = o.members := by
    have hsame := toAny_of_valid o.valid
    rwa [toAny, object.injEq] at hsame
  cases o with
  | mk members valid =>
    simp only [mergeMembers, emptyObject, List.nil_append, Object.mk.injEq]
    exact hany

end NormalForm

section Decoding

/-- An envelope around a normal form has the same text. -/
theorem canonical_credentialEnvelope (payload : Object) (signature : String) :
    workspaceCanonicalJSON (.object (credentialEnvelope (normalObject payload) signature).members) =
      workspaceCanonicalJSON (.object (credentialEnvelope payload signature).members) := by
  have hpayload : canonicalChars (.object (normalObject payload).members) =
      canonicalChars (.object payload.members) := by
    rw [normalObject, ← normal_object, canonicalChars_normal]
  have hmembers : canonicalMembers (credentialEnvelope (normalObject payload) signature).members =
      canonicalMembers (credentialEnvelope payload signature).members := by
    simp [credentialEnvelope, canonicalMembers, isNull, hpayload]
  rw [workspaceCanonicalJSON, workspaceCanonicalJSON, canonicalChars, canonicalChars, hmembers]

/-- The members of an envelope in the order they are written. -/
theorem ordered_credentialEnvelope (payload : Object) (signature : String) :
    ordered (credentialEnvelope payload signature).members =
      [("payload", .object payload.members), ("signature", .string signature), ("v", .int 1)] := by
  have hpayload : ¬ ("v" : String) ≤ "payload" := by decide
  have hsignature : ¬ ("v" : String) ≤ "signature" := by decide
  have hlast : ("payload" : String) ≤ "signature" := by decide
  simp [ordered, present, isNull, credentialEnvelope, List.orderedInsert, hpayload, hsignature,
    hlast]

/-- The written members are decoded into the fields of the envelope. -/
theorem Envelope.decode_written {v : Json} (plain : v.Plain) {payload : Object}
    (hv : v = .object [("payload", .object payload.members), ("signature", .string signature),
      ("v", .number "1")]) : Envelope.decode v plain = some ⟨1, payload, signature⟩ := by
  subst hv
  have hpayload : ∀ h, Envelope.zero.setMember ("payload", .object payload.members) h =
      some ⟨0, payload, ""⟩ := by
    intro h
    simp only [Envelope.setMember, show findsField "v" "payload" = false by decide,
      show findsField "payload" "payload" = true by decide, Bool.false_eq_true, if_false, if_true]
    exact congrArg (fun o => some (Envelope.mk 0 o "")) (mergeMembers_empty h.members)
  have hsignature : ∀ (e : Envelope) h, e.setMember ("signature", .string signature) h =
      some { e with signature := signature } := by
    intro e h
    simp only [Envelope.setMember, show findsField "v" "signature" = false by decide,
      show findsField "payload" "signature" = false by decide,
      show findsField "signature" "signature" = true by decide, Bool.false_eq_true, if_false,
      if_true, Envelope.setSignature]
  have hversion : ∀ (e : Envelope) h, e.setMember ("v", .number "1") h =
      some { e with version := 1 } := by
    intro e h
    simp only [Envelope.setMember, show findsField "v" "v" = true by decide, if_true,
      Envelope.setVersion, show parseInt64 "1" = some 1 by decide, Option.map_some]
  simp only [Envelope.decode, Envelope.setMembers, hpayload, hsignature, hversion,
    Option.bind_some]

/-- The canonical text of an envelope is decoded to the normal form of its payload. -/
theorem decode_credentialEnvelope {payload : Object}
    (htext : workspaceCanonicalJSON (.object (credentialEnvelope payload signature).members) =
      .ok text) (hdepth : (object payload.members).depth + 1 ≤ maxNestingDepth)
    (hpayload : (normalObject payload).members ≠ []) (hsignature : blank signature = false) :
    decodeWebTTYWorkspaceClientCredential (utf8 text) =
      .ok ⟨1, normalObject payload, signature⟩ := by
  have hdepth' : (object (credentialEnvelope payload signature).members).depth ≤
      maxNestingDepth := by
    simpa [credentialEnvelope, depth, depthMembers] using hdepth
  obtain ⟨plain, hnext⟩ := decodeNext_canonical (credentialEnvelope payload signature).valid htext
    hdepth'
  have hnormal : normal (.object (credentialEnvelope payload signature).members) =
      .object [("payload", .object (normalObject payload).members),
        ("signature", .string signature), ("v", .number "1")] := by
    rw [normal_object, ordered_credentialEnvelope]
    simp only [List.map_cons, List.map_nil, normal_object, normalObject]
    rfl
  have henvelope := Envelope.decode_written plain hnormal
  have hdecode : decodeEnvelope (utf8 text) = .ok (⟨1, normalObject payload, signature⟩, []) := by
    unfold decodeEnvelope
    rw [decodeText_utf8, hnext]
    simp only [henvelope]
  refine bind_ok hdecode <| bind_ok rfl ?_
  refine bind_ok (failIf_ok (by simp)) ?_
  refine bind_ok (failIf_ok hpayload) ?_
  exact bind_ok (failIf_ok (by simp [hsignature])) rfl

end Decoding

section Validation

variable {K : Type}

/-- What the server checks of a payload and the trust payload inside. -/
structure Valid (P : Verifier K) (enrollment : ServerEnrollment)
    (verification : ClientProofVerification) (payload trust : Object) : Prop where
  names : NamesEnrollment enrollment payload
  keyID : workspaceTrustString payload "client_signing_key_id" =
    encodeE2EKeyMaterial verification.proof.signingKeyID
  key : workspaceTrustString payload "client_signing_public_key" =
    encodeE2EKeyMaterial verification.proof.signingPublicKey
  deviceKey : workspaceTrustString payload "device_public_signing_key" =
    encodeE2EKeyMaterial verification.proof.signingPublicKey
  keyNonempty : verification.proof.signingPublicKey ≠ []
  fingerprint : workspacePublicKeyFingerprint P
    (workspaceTrustString payload "device_public_encryption_key")
    (workspaceTrustString payload "device_public_signing_key") =
      .ok (workspaceTrustString payload "device_fingerprint")
  inside : objectMember payload "trust_payload" = some trust
  hash : workspaceSHA256Base64URL P (.object trust.members) =
    .ok (workspaceTrustString payload "trust_payload_hash")
  workspace : workspaceTrustString trust "workspace_id" = enrollment.workspaceID
  trusts : Trusts enrollment trust (workspaceTrustString payload "device_fingerprint")
    (workspaceTrustString payload "device_key_id")
  trustSigned : verifyWorkspaceP256Signature P enrollment.workspaceTrustPublicSigningKey trust
    (workspaceTrustString payload "trust_keyset_signature")
    "workspace-managed WebTTY device trust" = .ok ()

variable {enrollment : ServerEnrollment} {payload : Object}

theorem matches_of_trusts
    (hworkspace : workspaceTrustString trust "workspace_id" = enrollment.workspaceID)
    (h : Trusts enrollment trust (workspaceTrustString payload "device_fingerprint") (workspaceTrustString payload "device_key_id")) :
    workspaceClientCredentialTrustPayloadMatches enrollment payload trust = true := by
  unfold workspaceClientCredentialTrustPayloadMatches
  simp only [hworkspace, ne_eq, not_true_eq_false, if_false]
  cases h with
  | setup type keyset key device => simp [type, keyset, key, device]
  | approve type keyset deviceKey device => simp [type, keyset, deviceKey, device]
  | recovery type keyset device => simp [type, keyset, device]

theorem decodeE2EKeyMaterial_encode {data : Bytes} (h : data ≠ []) (field : String) :
    decodeE2EKeyMaterial (encodeE2EKeyMaterial data) 0 field = .ok data := by
  have htrim : trimSpace (encodeE2EKeyMaterial data) = encodeE2EKeyMaterial data :=
    trimSpace_rawURLEncode data
  have hne : encodeE2EKeyMaterial data ≠ "" := rawURLEncode_ne_empty h
  have hdecode : rawURLDecode (encodeE2EKeyMaterial data) = some data := rawURLDecode_encode data
  simp [decodeE2EKeyMaterial, htrim, hne, hdecode]

variable {verification : ClientProofVerification} {P : Verifier K}

/-- A payload with everything in place passes validation. -/
theorem Valid.validate (h : Valid P enrollment verification payload trust) :
    validateWebTTYWorkspaceClientCredentialPayload P enrollment verification payload = .ok () := by
  have hne : encodeE2EKeyMaterial verification.proof.signingPublicKey ≠ "" :=
    rawURLEncode_ne_empty h.keyNonempty
  have hfingerprint := h.fingerprint
  rw [h.deviceKey] at hfingerprint
  have hpass : ∀ {p : Prop} [Decidable p] {e : Error}, ¬ p → failIf p e = .ok () :=
    fun hp => failIf_eq_ok.mpr hp
  unfold validateWebTTYWorkspaceClientCredentialPayload
  simp only [h.names.workspace, h.names.project, h.names.server, h.names.keyset, h.keyID, h.key,
    h.deviceKey, ne_eq, not_true_eq_false, or_false, hne, decodeE2EKeyMaterial_encode h.keyNonempty,
    hfingerprint, trustPayloadOf, h.inside, h.hash, matches_of_trusts h.workspace h.trusts,
    h.trustSigned, hpass, not_false_eq_true, bind, Except.bind, Bool.true_eq_false]

theorem verify_normalObject (P : Verifier K) (key : String) (o : Object) (signature label : String) :
    verifyWorkspaceP256Signature P key (normalObject o) signature label =
      verifyWorkspaceP256Signature P key o signature label := by
  unfold verifyWorkspaceP256Signature
  rw [canonical_normalObject]

/-- Everything stays in place in the normal form. -/
theorem Valid.normalObject {trustText : String} (h : Valid P enrollment verification payload trust)
    (htext : workspaceCanonicalJSON (.object payload.members) = .ok text)
    (htrust : workspaceCanonicalJSON (.object trust.members) = .ok trustText) :
    Valid P enrollment verification (normalObject payload) (normalObject trust) := by
  have hsame := workspaceTrustString_normalObject htext
  have htrustSame := workspaceTrustString_normalObject htrust
  refine ⟨⟨?_, ?_, ?_, ?_⟩, ?_, ?_, ?_, h.keyNonempty, ?_, objectMember_normalObject h.inside, ?_,
    ?_, ?_, ?_⟩
  all_goals simp only [hsame, htrustSame]
  · exact h.names.workspace
  · exact h.names.project
  · exact h.names.server
  · exact h.names.keyset
  · exact h.keyID
  · exact h.key
  · exact h.deviceKey
  · exact h.fingerprint
  · have hhash := h.hash
    unfold workspaceSHA256Base64URL at hhash ⊢
    rw [canonical_normalObject]
    exact hhash
  · exact h.workspace
  · exact h.trusts.congr htrustSame
  · rw [verify_normalObject]
    exact h.trustSigned

theorem canonical_of_hash {v : Json} {hash : String}
    (h : workspaceSHA256Base64URL P v = .ok hash) : ∃ text, workspaceCanonicalJSON v = .ok text := by
  unfold workspaceSHA256Base64URL at h
  split at h
  · cases h
  next text htext => exact ⟨text, htext⟩

theorem canonical_of_signed {label : String}
    (h : verifyWorkspaceP256Signature P key payload signature label = .ok ()) :
    ∃ text, workspaceCanonicalJSON (.object payload.members) = .ok text := by
  unfold verifyWorkspaceP256Signature at h
  split at h
  · cases h
  · split at h
    · cases h
    next text htext => exact ⟨text, htext⟩

/-- A payload with a type is decoded from the canonical text of its envelope. -/
theorem decode_typed {payloadText : String}
    (hpayload : workspaceCanonicalJSON (.object payload.members) = .ok payloadText)
    (htype : workspaceTrustString payload "type" = "workspace.webtty.client.credential")
    (htext : workspaceCanonicalJSON (.object (credentialEnvelope payload signature).members) = .ok text)
    (hdepth : (object payload.members).depth + 1 ≤ maxNestingDepth)
    (hsignature : blank signature = false) :
    decodeWebTTYWorkspaceClientCredential (utf8 text) =
      .ok ⟨1, normalObject payload, signature⟩ := by
  refine decode_credentialEnvelope htext hdepth (fun hempty => ?_) hsignature
  have hnone : workspaceTrustString (normalObject payload) "type" = "" := by
    simp [workspaceTrustString, Object.get?, hempty]
  rw [workspaceTrustString_normalObject hpayload, htype] at hnone
  exact absurd hnone (by decide)

/-- A signed payload with everything in place is accepted from the canonical text of its
envelope. -/
theorem Valid.accepted (h : Valid P enrollment verification payload trust)
    (htype : workspaceTrustString payload "type" = "workspace.webtty.client.credential")
    (hsigned : verifyWorkspaceP256Signature P (workspaceTrustString payload "client_signing_public_key") payload signature "workspace-managed WebTTY client credential" = .ok ())
    (htext : workspaceCanonicalJSON (.object (credentialEnvelope payload signature).members) = .ok text)
    (hdepth : (object payload.members).depth + 1 ≤ maxNestingDepth)
    (hsignature : blank signature = false) (hcredential : verification.credential = utf8 text) :
    verifyWebTTYWorkspaceClientCredential P (some enrollment) verification =
      .ok verification.proof.signingPublicKey := by
  obtain ⟨payloadText, hpayloadText⟩ := canonical_of_signed hsigned
  obtain ⟨trustText, htrustText⟩ := canonical_of_hash h.hash
  have hnormal := h.normalObject hpayloadText htrustText
  have hdecode := decode_typed hpayloadText htype htext hdepth hsignature
  have hcredentialNonempty : verification.credential ≠ [] := by
    intro hempty
    rw [← hcredential, hempty] at hdecode
    cases hdecode
  rw [← hcredential] at hdecode
  refine bind_ok (failIf_ok hcredentialNonempty) ?_
  refine bind_ok hdecode ?_
  refine bind_ok (failIf_ne_ok ?_) ?_
  · exact (workspaceTrustString_normalObject hpayloadText _).trans htype
  · refine bind_ok hnormal.validate <| bind_ok (a := ()) ?_ rfl
    rw [workspaceTrustString_normalObject hpayloadText, verify_normalObject]
    exact hsigned

end Validation

end Rstream.Workspace
