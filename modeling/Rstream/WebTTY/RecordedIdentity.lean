import Rstream.WebTTY.ClientProofSoundness

/-!
# The client identity a session records

`verifyClientProof` leaves the signing key id, the principal, the device id and the
browser id of an accepted proof in the session, for its log. The key id and the
principal stand in the signed transcript. The device id and the browser id do not, so
two open requests with one signature can leave different identities.
-/

namespace Rstream.WebTTY

open Rstream.Core Go

variable {K : Type}

/-- What the session records of a proof. -/
def recordedIdentity (proof : ClientProof) : ClientIdentity where
  keyID := proof.signingKeyID
  principal := trimSpace (proof.principalID.getD "")
  deviceID := trimSpace (proof.deviceID.getD "")
  browserID := trimSpace (proof.browserID.getD "")

/-- An accepted request leaves the identity of its proof, if the server asks for one. -/
theorem recorded_of_verifyClientProof {P : Primitives K} {cfg : ServerConfig}
    {s : SessionIdentity} {request : Open} {proof : ClientProof} {now : Int} {closed : Bool}
    {client : Option ClientIdentity} (hproof : request.clientProof = some proof)
    (h : verifyClientProof P cfg s (some request) now closed = .ok client)
    (hrequire : cfg.requireClientProof = some true) :
    client = some (recordedIdentity proof) ∧ ∃ identity t, cfg.endpointIdentity = some identity ∧
      Accepted P cfg s identity request proof now t proof.signingPublicKey := by
  unfold verifyClientProof at h
  rw [if_neg (not_not.mpr hrequire)] at h
  simp only [hproof] at h
  cases hidentity : cfg.endpointIdentity with
  | none =>
    rw [hidentity] at h
    cases h
  | some identity =>
    rw [hidentity] at h
    obtain ⟨_, hcheck, h⟩ := bind_eq_ok.mp h
    obtain ⟨_, _, h⟩ := bind_eq_ok.mp h
    obtain ⟨t, haccepted⟩ := accepted_of_check hcheck
    exact ⟨(Except.ok.inj h).symm, identity, t, rfl, haccepted⟩

/-- The primitives do not confuse the two requests: under the keys of the two proofs a
signature is valid for one digest, and different transcripts have different digests. -/
structure Separates (P : Primitives K) (cfg : ServerConfig) (s : SessionIdentity)
    (identity : EndpointIdentity) (request request' : Open) (proof proof' : ClientProof) :
    Prop where
  signature : ∀ {t t' signature}, Describes P cfg s identity request proof t →
    Describes P cfg s identity request' proof' t' →
    verifyWebTTYClientProofTranscript P proof.signingPublicKey t signature = .ok () →
    verifyWebTTYClientProofTranscript P proof'.signingPublicKey t' signature = .ok () →
    t.hash P = t'.hash P
  digest : ∀ {t t'}, Describes P cfg s identity request proof t →
    Describes P cfg s identity request' proof' t' → t.hash P = t'.hash P →
    t.canonicalBytes = t'.canonicalBytes
  short : ∀ {t}, Describes P cfg s identity request proof t → t.canonicalBytes.length < 2 ^ 32

/-- The signed part of the recorded identity: one signature, one key id and principal. -/
theorem Separates.signed_eq {P : Primitives K} {cfg : ServerConfig} {s : SessionIdentity}
    {identity : EndpointIdentity} {request request' : Open} {proof proof' : ClientProof}
    (h : Separates P cfg s identity request request' proof proof') {now now' : Int}
    {t t' : ClientProofTranscript} (hsignature : proof.signature = proof'.signature)
    (haccepted : Accepted P cfg s identity request proof now t proof.signingPublicKey)
    (haccepted' : Accepted P cfg s identity request' proof' now' t' proof'.signingPublicKey) :
    (recordedIdentity proof).keyID = (recordedIdentity proof').keyID ∧
      (recordedIdentity proof).principal = (recordedIdentity proof').principal := by
  have hsigned' := haccepted'.signed
  rw [← hsignature] at hsigned'
  have hhash := h.signature haccepted.describes haccepted'.describes haccepted.signed hsigned'
  have hsame : SameTranscript t t' := sameTranscript_of_canonicalBytes
    (h.short haccepted.describes) (h.digest haccepted.describes haccepted'.describes hhash).symm
  constructor
  · calc proof.signingKeyID = t.clientSigningKeyID := haccepted.describes.clientSigningKeyID.symm
      _ = t'.clientSigningKeyID := hsame.clientSigningKeyID.symm
      _ = proof'.signingKeyID := haccepted'.describes.clientSigningKeyID
  · calc trimSpace (proof.principalID.getD "") = trimSpace t.clientPrincipalID := by
          rw [haccepted.describes.principal]
      _ = trimSpace t'.clientPrincipalID := hsame.clientPrincipalID.symm
      _ = trimSpace (proof'.principalID.getD "") := by rw [haccepted'.describes.principal]

/-- Two requests with one signature, accepted in one session, leave the same identity exactly
when no proof is asked for or their device and browser ids agree. -/
theorem verifyClientProof_recorded_eq_iff (P : Primitives K) (cfg : ServerConfig)
    (s : SessionIdentity) (closed : Bool) {request request' : Open} {proof proof' : ClientProof}
    {now now' : Int} {client client' : Option ClientIdentity}
    (hproof : request.clientProof = some proof) (hproof' : request'.clientProof = some proof')
    (hsignature : proof.signature = proof'.signature)
    (h : verifyClientProof P cfg s (some request) now closed = .ok client)
    (h' : verifyClientProof P cfg s (some request') now' closed = .ok client')
    (hseparates : ∀ identity, cfg.endpointIdentity = some identity →
      Separates P cfg s identity request request' proof proof') :
    client = client' ↔ cfg.requireClientProof ≠ some true ∨
      trimSpace (proof.deviceID.getD "") = trimSpace (proof'.deviceID.getD "") ∧
        trimSpace (proof.browserID.getD "") = trimSpace (proof'.browserID.getD "") := by
  by_cases hrequire : cfg.requireClientProof = some true
  · obtain ⟨rfl, identity, t, hidentity, haccepted⟩ :=
      recorded_of_verifyClientProof hproof h hrequire
    obtain ⟨rfl, _, t', hidentity', haccepted'⟩ :=
      recorded_of_verifyClientProof hproof' h' hrequire
    cases hidentity.symm.trans hidentity'
    obtain ⟨hkey, hprincipal⟩ :=
      (hseparates identity hidentity).signed_eq hsignature haccepted haccepted'
    rw [or_iff_right (not_not.mpr hrequire), Option.some.injEq]
    constructor
    · intro heq
      exact ⟨congrArg ClientIdentity.deviceID heq, congrArg ClientIdentity.browserID heq⟩
    · rintro ⟨hdevice, hbrowser⟩
      exact ClientIdentity.mk.injEq .. |>.mpr ⟨hkey, hprincipal, hdevice, hbrowser⟩
  · -- Without the requirement nothing is verified and nothing is recorded.
    have hnone : ∀ {request : Option Open} {now client},
        verifyClientProof P cfg s request now closed = .ok client → client = none := by
      intro request now client h
      unfold verifyClientProof at h
      rw [if_pos hrequire] at h
      exact (Except.ok.inj h).symm
    rw [hnone h, hnone h']
    exact ⟨fun _ => .inl hrequire, fun _ => rfl⟩

section Sample

/-- The client's proof with a device id that a relay filled in. -/
def relabelledProof : ClientProof := { sampleProof with deviceID := some "another device" }

/-- The client's request with the relabelled proof. -/
def relabelledOpen : Open := { sampleOpen with clientProof := some relabelledProof }

theorem relabelledOpen_accepted : verifyClientProof samplePrimitives sampleServer sampleSession
    (some relabelledOpen) sampleNow false =
      .ok (some ⟨sampleUnsigned.signingKeyID, "alice", "another device", ""⟩) := by
  decide +kernel

/-- A transcript of the relabelled request is one of the client's request. -/
theorem describes_of_relabelled {t : ClientProofTranscript}
    (h : Describes samplePrimitives sampleServer sampleSession sampleIdentity relabelledOpen
      relabelledProof t) :
    Describes samplePrimitives sampleServer sampleSession sampleIdentity sampleOpen
      sampleProof t :=
  ⟨h.version, h.requirement, h.serverNonce, h.sessionID, h.transport, h.workspaceID, h.projectID,
    h.serverID, h.serverSigningKeyID, h.serverEncryptionKeyID, h.suites, h.sessionKeyGrantHash,
    h.commandConfigHash, h.clientCredentialHash, h.principal, h.clientSigningKeyID, h.issuedAt,
    h.expiresAt, h.attach⟩

theorem sample_separates (identity : EndpointIdentity)
    (hidentity : sampleServer.endpointIdentity = some identity) :
    Separates samplePrimitives sampleServer sampleSession identity sampleOpen relabelledOpen
      sampleProof relabelledProof := by
  cases hidentity
  -- Both requests have the transcript the client signed.
  have huniq : ∀ {t t'}, Describes samplePrimitives sampleServer sampleSession sampleIdentity
      sampleOpen sampleProof t → Describes samplePrimitives sampleServer sampleSession
      sampleIdentity relabelledOpen relabelledProof t' →
      t = t' := fun h h' => h.unique (describes_of_relabelled h')
  refine ⟨fun h h' _ _ => ?_, fun h h' _ => ?_, fun h => ?_⟩
  · rw [huniq h h']
  · rw [huniq h h']
  · rw [h.unique sampleTranscript_describes]
    decide +kernel

/-- One signature is accepted with two device ids, and the session records either one. -/
theorem verifyClientProof_recorded_relabelled :
    verifyClientProof samplePrimitives sampleServer sampleSession (some sampleOpen) sampleNow
        false = .ok (some ⟨sampleUnsigned.signingKeyID, "alice", "", ""⟩) ∧
      verifyClientProof samplePrimitives sampleServer sampleSession (some relabelledOpen)
        sampleNow false =
          .ok (some ⟨sampleUnsigned.signingKeyID, "alice", "another device", ""⟩) ∧
      relabelledOpen.clientProof.map ClientProof.signature =
        sampleOpen.clientProof.map ClientProof.signature :=
  ⟨sampleProof_accepted, relabelledOpen_accepted, rfl⟩

/-- The relabelled request leaves another identity since its device id differs. -/
theorem verifyClientProof_recorded_eq_iff_sample :
    recordedIdentity sampleProof ≠ recordedIdentity relabelledProof := by
  have hproof : sampleOpen.clientProof = some sampleProof := rfl
  have hproof' : relabelledOpen.clientProof = some relabelledProof := rfl
  have hiff := verifyClientProof_recorded_eq_iff samplePrimitives sampleServer sampleSession false
    hproof hproof' rfl sampleProof_accepted relabelledOpen_accepted sample_separates
  intro heq
  rcases hiff.mp (congrArg some heq) with hrequire | ⟨hdevice, _⟩
  · exact hrequire rfl
  · revert hdevice
    decide +kernel

end Sample

end Rstream.WebTTY
