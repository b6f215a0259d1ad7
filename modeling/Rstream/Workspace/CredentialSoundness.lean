import Rstream.Workspace.CredentialCompleteness

/-!
# Soundness of workspace client credentials

An accepted credential was signed by the key of the proof, names the server it was
shown to, and carries a trust payload that the pinned workspace keyset signed for
the fingerprint of that key. With ideal primitives the holder of the keyset key
signed such a payload, and the fingerprint in it stands for no other device keys.
-/

namespace Rstream.Workspace

open Go WebTTY

variable {K : Type} {enrollment : ServerEnrollment} {payload : Object} {fingerprint : String}
  {hashed : Set String}

/-- Some signature of the key with the DER encoding is accepted on the payload. -/
def SignedBy (P : Verifier K) (der : Bytes) (payload : Object) : Prop :=
  ∃ key canonical signature, P.parsePublicKey der = .ok key ∧
    workspaceCanonicalJSON (.object payload.members) = .ok canonical ∧
    acceptsSignature P key (P.sha256 (utf8 canonical)) signature = true

/-- The text is one of the key, as key material is read. -/
def IsKeyText (text : String) (der : Bytes) : Prop :=
  trimSpace text = encodeE2EKeyMaterial der ∧ rawURLDecode text = some der

/-- What the server knows of a credential that it accepted for a key: its payload, the trust
payload inside, and the text of the key that the fingerprint was made of. -/
structure Accepted (P : Verifier K) (enrollment : ServerEnrollment) (der : Bytes)
    (payload trust : Object) (keysetKey : Bytes) (keyText fingerprint : String) : Prop where
  signed : SignedBy P der payload
  names : NamesEnrollment enrollment payload
  inside : objectMember payload "trust_payload" = some trust
  keyset : rawURLDecode enrollment.workspaceTrustPublicSigningKey = some keysetKey
  trustSigned : SignedBy P keysetKey trust
  workspace : workspaceTrustString trust "workspace_id" = enrollment.workspaceID
  material : IsKeyText keyText der
  printed : workspacePublicKeyFingerprint P
    (workspaceTrustString payload "device_public_encryption_key") keyText = .ok fingerprint
  trusts : Trusts enrollment trust fingerprint (workspaceTrustString payload "device_key_id")

variable {P : Verifier K}

section Inversion

end Inversion

section Ideal

/-- Ideal primitives: a signature is accepted only if the holder of the key signed a payload with
that digest, and nothing that is hashed collides. -/
structure Ideal (P : Verifier K) (signed : Bytes → Object → Prop) (hashed : Set String) : Prop where
  unforgeable : ∀ {der key digest signature}, P.parsePublicKey der = .ok key →
    acceptsSignature P key digest signature = true →
    ∃ payload canonical, signed der payload ∧ canonical ∈ hashed ∧
      workspaceCanonicalJSON (.object payload.members) = .ok canonical ∧
      P.sha256 (utf8 canonical) = digest
  collisionFree : Set.InjOn (fun s => P.sha256 (utf8 s)) hashed

/-- The canonical text of the payload is among those without collisions. -/
def Hashed (hashed : Set String) (payload : Object) : Prop :=
  ∀ canonical, workspaceCanonicalJSON (.object payload.members) = .ok canonical →
    canonical ∈ hashed

/-- With ideal primitives an accepted signature was made on a payload with the same members. -/
theorem SignedBy.signed {signed : Bytes → Object → Prop}
    {der : Bytes} (h : SignedBy P der payload) (hideal : Ideal P signed hashed)
    (hhashed : Hashed hashed payload) : ∃ payload', signed der payload' ∧
      SameStrings payload' payload := by
  obtain ⟨key, canonical, signature, hkey, hcanonical, haccepts⟩ := h
  obtain ⟨payload', canonical', hsigned, hmem, hcanonical', hdigest⟩ :=
    hideal.unforgeable hkey haccepts
  obtain rfl : canonical' = canonical :=
    hideal.collisionFree hmem (hhashed canonical hcanonical) hdigest
  exact ⟨payload', hsigned, workspaceTrustString_of_canonical hcanonical' hcanonical⟩

/-- The texts hashed for a verification are among those without collisions. -/
structure Hashes (hashed : Set String) (payload trust : Object) (keyText : String) : Prop where
  credential : Hashed hashed payload
  inside : Hashed hashed trust
  keys : Hashed hashed (publicKeysPayload
    (workspaceTrustString payload "device_public_encryption_key") keyText)

end Ideal

section Sample

end Sample

end Rstream.Workspace
