import Mathlib.Data.Set.Function
import Rstream.WebTTY.ClientProof

/-!
# Soundness of client proofs

A proof that `verifyClientProof` accepts is signed, under the key the server holds as
authorized, over a transcript of this very session and open request. The transcript
encoding is injective, so with ideal signatures and hashing the signer made a proof
for the same session, server, command and key grant.
-/

namespace Rstream.WebTTY

open Rstream.Core Go Field

variable {K : Type} {t t' : ClientProofTranscript} {identity : EndpointIdentity}
  {proof : ClientProof} {cfg : ServerConfig} {s : SessionIdentity} {request : Open} {now : Int}

/-- Where the server takes the authorized key of a proof from. -/
inductive Authorizes (cfg : ServerConfig) (v : ClientProofVerification) (key : Bytes) : Prop
  /-- The verifier overrides the other sources. -/
  | verifier {verify} (hcfg : cfg.clientProofVerifier = some verify) (hkey : verify v = .ok key)
  /-- The static map has a key for the key id. -/
  | static (hcfg : cfg.clientProofVerifier = none)
      (hkey : cfg.authorizedClientSigningKeys.lookup v.proof.signingKeyID = some key)
  /-- The resolver is asked for the key id when the map has no key for it. -/
  | resolver {resolve} (hcfg : cfg.clientProofVerifier = none)
      (hstatic : (cfg.authorizedClientSigningKeys.lookup v.proof.signingKeyID).getD [] = [])
      (hresolve : cfg.authorizedClientSigningKey = some resolve)
      (hkey : resolve v.proof.signingKeyID = .ok key)

/-- A key that is not empty comes from one of the three sources. -/
theorem authorizes_of_authorizedPublicKey {v : ClientProofVerification}
    {key : Bytes} (h : authorizedPublicKey cfg v = .ok key) (hkey : key ≠ []) :
    Authorizes cfg v key := by
  unfold authorizedPublicKey at h
  cases hverifier : cfg.clientProofVerifier with
  | some verify =>
    rw [hverifier] at h
    exact .verifier hverifier h
  | none =>
    rw [hverifier] at h
    simp only at h
    split at h
    case h_1 resolve hstatic hresolve => exact .resolver hverifier hstatic hresolve h
    case h_2 =>
      cases h
      cases hlookup : cfg.authorizedClientSigningKeys.lookup v.proof.signingKeyID with
      | none =>
        rw [hlookup] at hkey
        exact absurd rfl hkey
      | some key => exact .static hverifier hlookup

/-- The protobuf bytes of a message; a missing message has none. -/
def marshalled {M : Type} (marshal : M → Except String Bytes) : Option M → Except String Bytes
  | none => .ok []
  | some message => marshal message

variable {P : Primitives K}

/-- A proto message hash is the hash of the protobuf bytes. -/
theorem hashWebTTYProtoMessage_ok {M : Type}
    {marshal : M → Except String Bytes} {label : String} {message : Option M} {hash : Bytes}
    (h : hashWebTTYProtoMessage P marshal label message = .ok hash) :
    ∃ data, marshalled marshal message = .ok data ∧ hash = P.sha256 data := by
  unfold hashWebTTYProtoMessage at h
  cases message with
  | none =>
    cases h
    exact ⟨[], rfl, rfl⟩
  | some message =>
    simp only at h
    split at h
    · cases h
    case h_2 data hdata =>
      cases h
      exact ⟨data, hdata, rfl⟩

/-- The verification time lies in the window of the proof. -/
structure InWindow (proof : ClientProof) (now : Int) : Prop where
  window : ∃ issuedAt expiresAt, parseRFC3339 proof.issuedAt = some issuedAt ∧
    parseRFC3339 proof.expiresAt = some expiresAt ∧ now ≤ expiresAt ∧
    issuedAt ≤ now + 5 * second ∧ expiresAt - issuedAt ≤ 30 * second

theorem inWindow_of_validate
    (h : validateClientProofTimeWindow proof now = .ok ()) : InWindow proof now := by
  unfold validateClientProofTimeWindow at h
  split at h
  · cases h
  case h_2 issuedAt hissued =>
    split at h
    · cases h
    case h_2 expiresAt hexpires =>
      split at h
      · cases h
      · split at h
        · cases h
        · split at h
          · cases h
          case isFalse hexpired hearly hlong =>
            have hlife : expiresAt - issuedAt ≤ 30 * second := by
              refine (timeSub_le_iff ?_ ?_).mp (not_lt.mp hlong) <;> decide
            exact ⟨issuedAt, expiresAt, hissued, hexpires, not_lt.mp hexpired,
              not_lt.mp hearly, hlife⟩

/-- The transcript is the one of this session and this open request. -/
structure Describes (P : Primitives K) (cfg : ServerConfig) (s : SessionIdentity)
    (identity : EndpointIdentity) (request : Open) (proof : ClientProof)
    (t : ClientProofTranscript) : Prop where
  version : t.protocolVersion = protocolVersionWebTTY1
  requirement : t.authRequirement = authRequirementClientProof
  serverNonce : t.serverNonce = s.serverNonce
  sessionID : t.sessionID = s.sessionID
  transport : t.transport = s.transport
  workspaceID : t.workspaceID = cfg.workspaceID
  projectID : t.projectID = cfg.projectID
  serverID : t.serverID = cfg.serverID
  serverSigningKeyID : t.serverSigningKeyID = identity.signingKeyID
  serverEncryptionKeyID : t.serverEncryptionKeyID = identity.encryptionKeyID
  /-- The suites are those of the key grant, or those of the server's key without one. -/
  suites : ∃ suite,
    webTTYPublicIdentityKeyEnvelopeSuite cfg.profile (identity.public cfg.profile) = .ok suite ∧
    webTTYProofSuites cfg.profile request.sessionKeyGrant suite =
      .ok (t.payloadSuite, t.keyEnvelopeSuite)
  sessionKeyGrantHash :
    hashWebTTYSessionKeyGrant P request.sessionKeyGrant = .ok t.sessionKeyGrantHash
  commandConfigHash : hashWebTTYConfig P request.config = .ok t.commandConfigHash
  clientCredentialHash : t.clientCredentialHash = P.sha256 (proof.credential.getD [])
  principal : t.clientPrincipalID = proof.principalID.getD ""
  clientSigningKeyID : t.clientSigningKeyID = proof.signingKeyID
  issuedAt : t.issuedAt = proof.issuedAt
  expiresAt : t.expiresAt = proof.expiresAt
  /-- The fields of an attach request stay empty. -/
  attach : t.attachGrantHash = [] ∧ t.requestedRole = ""

/-- The session and the request determine the transcript. -/
theorem Describes.unique (h : Describes P cfg s identity request proof t)
    (h' : Describes P cfg s identity request proof t') : t = t' := by
  obtain ⟨suite, hsuite, hsuites⟩ := h.suites
  obtain ⟨suite', hsuite', hsuites'⟩ := h'.suites
  cases hsuite.symm.trans hsuite'
  have hpair := Except.ok.inj (hsuites.symm.trans hsuites')
  ext1
  · rw [h.version, h'.version]
  · rw [h.transport, h'.transport]
  · rw [h.workspaceID, h'.workspaceID]
  · rw [h.projectID, h'.projectID]
  · rw [h.serverID, h'.serverID]
  · rw [h.sessionID, h'.sessionID]
  · rw [h.serverSigningKeyID, h'.serverSigningKeyID]
  · rw [h.serverEncryptionKeyID, h'.serverEncryptionKeyID]
  · rw [h.serverNonce, h'.serverNonce]
  · rw [h.requirement, h'.requirement]
  · exact congrArg Prod.fst hpair
  · exact congrArg Prod.snd hpair
  · exact Except.ok.inj (h.sessionKeyGrantHash.symm.trans h'.sessionKeyGrantHash)
  · exact Except.ok.inj (h.commandConfigHash.symm.trans h'.commandConfigHash)
  · rw [h.attach.1, h'.attach.1]
  · rw [h.attach.2, h'.attach.2]
  · rw [h.principal, h'.principal]
  · rw [h.clientSigningKeyID, h'.clientSigningKeyID]
  · rw [h.clientCredentialHash, h'.clientCredentialHash]
  · rw [h.issuedAt, h'.issuedAt]
  · rw [h.expiresAt, h'.expiresAt]

/-- The authorized key verifies the signature over a transcript of this session. -/
structure Accepted (P : Primitives K) (cfg : ServerConfig) (s : SessionIdentity)
    (identity : EndpointIdentity) (request : Open) (proof : ClientProof) (now : Int)
    (t : ClientProofTranscript) (key : Bytes) : Prop where
  describes : Describes P cfg s identity request proof t
  authorizes : Authorizes cfg ⟨proof, proof.credential.getD [], t⟩ key
  signed : verifyWebTTYClientProofTranscript P key t proof.signature = .ok ()
  inWindow : InWindow proof now

/-- What the checks on a proof establish; the authorized key is the one in the proof. -/
theorem accepted_of_check (h : checkClientProof P cfg s identity request proof now = .ok ()) :
    ∃ t, Accepted P cfg s identity request proof now t proof.signingPublicKey := by
  unfold checkClientProof at h
  obtain ⟨_, _, h⟩ := bind_eq_ok.mp h
  obtain ⟨suite, hsuite, h⟩ := bind_eq_ok.mp h
  obtain ⟨suites, hsuites, h⟩ := bind_eq_ok.mp h
  obtain ⟨_, _, h⟩ := bind_eq_ok.mp h
  obtain ⟨_, _, h⟩ := bind_eq_ok.mp h
  obtain ⟨_, htime, h⟩ := bind_eq_ok.mp h
  obtain ⟨grantHash, hgrant, h⟩ := bind_eq_ok.mp h
  obtain ⟨configHash, hconfig, h⟩ := bind_eq_ok.mp h
  obtain ⟨_, _, h⟩ := bind_eq_ok.mp h
  obtain ⟨_, hsigned, h⟩ := bind_eq_ok.mp h
  obtain ⟨key, hkey, h⟩ := bind_eq_ok.mp h
  obtain ⟨_, hempty, h⟩ := bind_eq_ok.mp h
  have hne : key ≠ [] := failIf_eq_ok.mp hempty
  obtain rfl : key = proof.signingPublicKey := not_not.mp (failIf_eq_ok.mp h)
  refine ⟨_, ?_, authorizes_of_authorizedPublicKey hkey hne, asInvalidProof_eq_ok.mp hsigned,
    inWindow_of_validate (asInvalidProof_eq_ok.mp htime)⟩
  exact {
    version := rfl
    requirement := rfl
    serverNonce := rfl
    sessionID := rfl
    transport := rfl
    workspaceID := rfl
    projectID := rfl
    serverID := rfl
    serverSigningKeyID := by
      simp only [expectedTranscript, EndpointIdentity.public]
      split <;> rfl
    serverEncryptionKeyID := by
      simp only [expectedTranscript, EndpointIdentity.public]
      split <;> rfl
    suites := ⟨suite, asInvalidProof_eq_ok.mp hsuite, asInvalidProof_eq_ok.mp hsuites⟩
    sessionKeyGrantHash := asInvalidProof_eq_ok.mp hgrant
    commandConfigHash := asInvalidProof_eq_ok.mp hconfig
    clientCredentialHash := rfl
    principal := rfl
    clientSigningKeyID := rfl
    issuedAt := rfl
    expiresAt := rfl
    attach := ⟨rfl, rfl⟩ }

/-- Two transcripts agree, with the strings compared as they are encoded. -/
structure SameTranscript (t t' : ClientProofTranscript) : Prop where
  protocolVersion : t'.protocolVersion = t.protocolVersion
  transport : trimSpace t'.transport = trimSpace t.transport
  workspaceID : trimSpace t'.workspaceID = trimSpace t.workspaceID
  projectID : trimSpace t'.projectID = trimSpace t.projectID
  serverID : trimSpace t'.serverID = trimSpace t.serverID
  sessionID : trimSpace t'.sessionID = trimSpace t.sessionID
  serverSigningKeyID : t'.serverSigningKeyID = t.serverSigningKeyID
  serverEncryptionKeyID : t'.serverEncryptionKeyID = t.serverEncryptionKeyID
  serverNonce : t'.serverNonce = t.serverNonce
  authRequirement : t'.authRequirement = t.authRequirement
  payloadSuite : t'.payloadSuite = t.payloadSuite
  keyEnvelopeSuite : t'.keyEnvelopeSuite = t.keyEnvelopeSuite
  sessionKeyGrantHash : t'.sessionKeyGrantHash = t.sessionKeyGrantHash
  commandConfigHash : t'.commandConfigHash = t.commandConfigHash
  attachGrantHash : t'.attachGrantHash = t.attachGrantHash
  requestedRole : trimSpace t'.requestedRole = trimSpace t.requestedRole
  clientPrincipalID : trimSpace t'.clientPrincipalID = trimSpace t.clientPrincipalID
  clientSigningKeyID : t'.clientSigningKeyID = t.clientSigningKeyID
  clientCredentialHash : t'.clientCredentialHash = t.clientCredentialHash
  issuedAt : trimSpace t'.issuedAt = trimSpace t.issuedAt
  expiresAt : trimSpace t'.expiresAt = trimSpace t.expiresAt

theorem stringField_eq_iff {a b : String} : stringField a = stringField b ↔
    trimSpace a = trimSpace b := by
  simp only [stringField, bytes.injEq, utf8_injective.eq_iff]

theorem numberField_eq_iff {a b : Int32} : numberField a = numberField b ↔ a = b := by
  simp only [numberField, word.injEq]
  refine ⟨fun h => ?_, congrArg _⟩
  exact Int32.toBitVec_inj.mp (congrArg UInt32.toBitVec h)

theorem clientFields_sameKind (t t' : ClientProofTranscript) :
    List.Forall₂ Field.SameKind t.fields t'.fields := by
  simp [ClientProofTranscript.fields, stringField, numberField]

/-- The fields determine the transcript. -/
theorem sameTranscript_of_fields (hfields : t.fields = t'.fields) : SameTranscript t t' := by
  simp only [ClientProofTranscript.fields, List.cons.injEq, stringField_eq_iff,
    numberField_eq_iff, bytes.injEq, true_and, and_true] at hfields
  obtain ⟨h₁, h₂, h₃, h₄, h₅, h₆, h₇, h₈, h₉, h₁₀, h₁₁, h₁₂, h₁₃, h₁₄, h₁₅, h₁₆, h₁₇, h₁₈, h₁₉,
    h₂₀, h₂₁⟩ := hfields
  exact ⟨h₁.symm, h₂.symm, h₃.symm, h₄.symm, h₅.symm, h₆.symm, h₇.symm, h₈.symm, h₉.symm,
    h₁₀.symm, h₁₁.symm, h₁₂.symm, h₁₃.symm, h₁₄.symm, h₁₅.symm, h₁₆.symm, h₁₇.symm, h₁₈.symm,
    h₁₉.symm, h₂₀.symm, h₂₁.symm⟩

/-- The canonical bytes of a transcript shorter than 4 GiB determine the transcript. -/
theorem sameTranscript_of_canonicalBytes
    (hshort : t.canonicalBytes.length < 2 ^ 32) (h : t'.canonicalBytes = t.canonicalBytes) :
    SameTranscript t t' :=
  sameTranscript_of_fields (encodeAll_inj_of_short (clientFields_sameKind t t') hshort h.symm)

/-- The command configuration without any field. -/
def emptyConfig : Config := ⟨none, [], [], none, none⟩

/-- The key grant without any field. -/
def emptyGrant : SessionKeyGrant := ⟨0, [], [], [], 0⟩

/-- Marshalling tells messages apart; the message without fields has no bytes. -/
structure Marshals {M : Type} (marshal : M → Except String Bytes) (empty : M) : Prop where
  injective : ∀ {m m' data}, marshal m = .ok data → marshal m' = .ok data → m = m'
  empty : marshal empty = .ok []

/-- A missing message reads as the one without fields. -/
theorem Marshals.getD_eq {M : Type} {marshal : M → Except String Bytes} {empty : M}
    (h : Marshals marshal empty) {m m' : Option M} {data : Bytes}
    (hm : marshalled marshal m = .ok data) (hm' : marshalled marshal m' = .ok data) :
    m.getD empty = m'.getD empty := by
  have hget : ∀ {m : Option M}, marshalled marshal m = .ok data →
      marshal (m.getD empty) = .ok data := by
    intro m hm
    cases m with
    | none =>
      cases hm
      exact h.empty
    | some m => exact hm
  exact h.injective (hget hm) (hget hm')

/-- Ideal primitives: a signature verifies only if the holder of the key made a proof with
that transcript hash, and the strings of `hashed` do not collide. -/
structure Ideal (P : Primitives K) (made : Bytes → ClientProofTranscript → Prop)
    (hashed : Set Bytes) : Prop where
  unforgeable : ∀ {key t signature}, verifyWebTTYClientProofTranscript P key t signature = .ok () →
    ∃ t', made key t' ∧ t'.hash P = t.hash P
  collisionFree : Set.InjOn P.sha256 hashed
  made_hashed : ∀ {key t}, made key t → t.canonicalBytes ∈ hashed
  config : Marshals P.marshalConfig emptyConfig
  grant : Marshals P.marshalGrant emptyGrant

/-- The strings hashed for a verification are among those without collisions. -/
structure Hashes (P : Primitives K) (hashed : Set Bytes) (request : Open) (proof : ClientProof)
    (t : ClientProofTranscript) : Prop where
  transcript : t.canonicalBytes ∈ hashed
  config : ∀ {data}, marshalled P.marshalConfig request.config = .ok data → data ∈ hashed
  grant : ∀ {data}, marshalled P.marshalGrant request.sessionKeyGrant = .ok data → data ∈ hashed
  credential : proof.credential.getD [] ∈ hashed

/-- A proof was made for the command, the key grant and the credential of the request. -/
structure MadeFor (P : Primitives K) (hashed : Set Bytes) (request : Open) (proof : ClientProof)
    (t : ClientProofTranscript) : Prop where
  config : ∀ {config data}, marshalled P.marshalConfig config = .ok data → data ∈ hashed →
    P.sha256 data = t.commandConfigHash →
    config.getD emptyConfig = request.config.getD emptyConfig
  grant : ∀ {grant data}, marshalled P.marshalGrant grant = .ok data → data ∈ hashed →
    P.sha256 data = t.sessionKeyGrantHash →
    grant.getD emptyGrant = request.sessionKeyGrant.getD emptyGrant
  credential : ∀ {credential}, credential ∈ hashed →
    P.sha256 credential = t.clientCredentialHash → credential = proof.credential.getD []

/-- With ideal primitives the authorized signer made a proof for this very request. -/
theorem Accepted.made {key : Bytes} {made : Bytes → ClientProofTranscript → Prop}
    {hashed : Set Bytes} (h : Accepted P cfg s identity request proof now t key)
    (hideal : Ideal P made hashed) (hhashes : Hashes P hashed request proof t)
    (hshort : t.canonicalBytes.length < 2 ^ 32) :
    ∃ t', made key t' ∧ SameTranscript t t' ∧ MadeFor P hashed request proof t' := by
  obtain ⟨t', hmade, hhash⟩ := hideal.unforgeable h.signed
  have hsame : SameTranscript t t' := sameTranscript_of_canonicalBytes hshort
    (hideal.collisionFree (hideal.made_hashed hmade) hhashes.transcript hhash)
  refine ⟨t', hmade, hsame, ?_, ?_, ?_⟩
  · intro config data hdata hmem heq
    obtain ⟨data', hdata', hhash'⟩ := hashWebTTYProtoMessage_ok h.describes.commandConfigHash
    have hbytes : data = data' := by
      refine hideal.collisionFree hmem (hhashes.config hdata') ?_
      rw [heq, hsame.commandConfigHash, hhash']
    subst hbytes
    exact hideal.config.getD_eq hdata hdata'
  · intro grant data hdata hmem heq
    obtain ⟨data', hdata', hhash'⟩ := hashWebTTYProtoMessage_ok h.describes.sessionKeyGrantHash
    have hbytes : data = data' := by
      refine hideal.collisionFree hmem (hhashes.grant hdata') ?_
      rw [heq, hsame.sessionKeyGrantHash, hhash']
    subst hbytes
    exact hideal.grant.getD_eq hdata hdata'
  · intro credential hmem heq
    refine hideal.collisionFree hmem hhashes.credential ?_
    rw [heq, hsame.clientCredentialHash, h.describes.clientCredentialHash]

/-- An accepted client proof is bound to the session, and with ideal primitives a proof made
for another session, server, command or key grant is not accepted. -/
theorem verifyClientProof_sound (P : Primitives K) (cfg : ServerConfig) (s : SessionIdentity)
    (request : Option Open) (now : Int) (closed : Bool) {client : Option ClientIdentity}
    (hrequire : cfg.requireClientProof = some true)
    (h : verifyClientProof P cfg s request now closed = .ok client) :
    ∃ open' proof identity t key, request = some open' ∧ open'.clientProof = some proof ∧
      cfg.endpointIdentity = some identity ∧
      Accepted P cfg s identity open' proof now t key ∧
      ∀ made hashed, Ideal P made hashed → Hashes P hashed open' proof t →
        t.canonicalBytes.length < 2 ^ 32 →
        ∃ t', made key t' ∧ SameTranscript t t' ∧ MadeFor P hashed open' proof t' := by
  unfold verifyClientProof at h
  rw [if_neg (not_not.mpr hrequire)] at h
  split at h
  · cases h
  case h_2 open' =>
    split at h
    · cases h
    · cases h
    case h_3 proof identity hproof hidentity =>
      obtain ⟨_, hcheck, _⟩ := bind_eq_ok.mp h
      obtain ⟨t, haccepted⟩ := accepted_of_check hcheck
      exact ⟨open', proof, identity, t, _, rfl, hproof, hidentity, haccepted,
        fun made hashed hideal hhashes hshort => haccepted.made hideal hhashes hshort⟩

section Sample

/-- A digest that tells strings of different lengths apart. -/
def lengthDigest (data : Bytes) : Bytes :=
  List.replicate 28 0 ++ bigEndian (UInt32.ofNat data.length)

/-- The arguments of a command as fields. -/
def commandFields (c : Config) : List Field := c.cmdArgs.map fun arg => .bytes (utf8 arg)

/-- Marshalling of the configurations that only name a command. -/
def marshalCommand (c : Config) : Except String Bytes :=
  if c = { emptyConfig with cmdArgs := c.cmdArgs } ∧ ∀ f ∈ commandFields c, f.Fits then
    .ok (encodeAll (commandFields c))
  else .error "unsupported field"

/-- Marshalling of the key grants that only name a payload key. -/
def marshalKeyID (g : SessionKeyGrant) : Except String Bytes :=
  if g = emptyGrant then .ok []
  else if g = ⟨1, g.payloadKeyID, [], [], 1⟩ then .ok (1 :: g.payloadKeyID)
  else .error "unsupported field"

theorem marshalCommand_ok {c : Config} {data : Bytes} (h : marshalCommand c = .ok data) :
    c = { emptyConfig with cmdArgs := c.cmdArgs } ∧ (∀ f ∈ commandFields c, f.Fits) ∧
      data = encodeAll (commandFields c) := by
  unfold marshalCommand at h
  split at h
  case isTrue hc =>
    cases h
    exact ⟨hc.1, hc.2, rfl⟩
  case isFalse => cases h

/-- No argument of a command is lost, wherever the encoding starts. -/
theorem commandFields_inj {args args' : List String}
    (hfits : ∀ f ∈ args.map fun arg => bytes (utf8 arg), f.Fits)
    (hfits' : ∀ f ∈ args'.map fun arg => bytes (utf8 arg), f.Fits)
    (h : encodeAll (args.map fun arg => .bytes (utf8 arg)) =
      encodeAll (args'.map fun arg => .bytes (utf8 arg))) : args = args' := by
  induction args generalizing args' with
  | nil =>
    cases args' with
    | nil => rfl
    | cons arg' rest' =>
      have hlen := congrArg List.length h
      simp [encodeAll, encode, lengthPrefixed] at hlen
      omega
  | cons arg rest ih =>
    cases args' with
    | nil =>
      have hlen := congrArg List.length h
      simp [encodeAll, encode, lengthPrefixed] at hlen
    | cons arg' rest' =>
      simp only [List.map_cons, List.forall_mem_cons] at hfits hfits'
      obtain ⟨hhead, htail⟩ := lengthPrefixed_append_inj hfits.1 hfits'.1 h
      rw [utf8_injective hhead, ih hfits.2 hfits'.2 htail]

theorem marshalCommand_marshals : Marshals marshalCommand emptyConfig where
  injective := by
    intro c c' data h h'
    obtain ⟨hc, hfits, hdata⟩ := marshalCommand_ok h
    obtain ⟨hc', hfits', hdata'⟩ := marshalCommand_ok h'
    rw [hc, hc', commandFields_inj hfits hfits' (hdata.symm.trans hdata')]
  empty := rfl

theorem marshalKeyID_marshals : Marshals marshalKeyID emptyGrant where
  injective := by
    have hinv : ∀ {g data}, marshalKeyID g = .ok data →
        g = emptyGrant ∧ data = [] ∨ g = ⟨1, g.payloadKeyID, [], [], 1⟩ ∧
          data = 1 :: g.payloadKeyID := by
      intro g data h
      unfold marshalKeyID at h
      split at h
      case isTrue hg =>
        cases h
        exact .inl ⟨hg, rfl⟩
      case isFalse =>
        split at h
        case isTrue hg =>
          cases h
          exact .inr ⟨hg, rfl⟩
        case isFalse => cases h
    intro g g' data h h'
    rcases hinv h with ⟨hg, hdata⟩ | ⟨hg, hdata⟩ <;> rcases hinv h' with ⟨hg', hdata'⟩ | ⟨hg', hdata'⟩
    · rw [hg, hg']
    · cases hdata.symm.trans hdata'
    · cases hdata.symm.trans hdata'
    · rw [hg, hg', (List.cons.inj (hdata.symm.trans hdata')).2]
  empty := rfl

/-- The endpoint identity of a server. -/
def sampleIdentity : EndpointIdentity := ⟨1, [1], [2], [3], [4]⟩

/-- The signing key of a client. -/
def sampleKey : Bytes := [4, 2]

/-- A proof before it is signed. -/
def sampleUnsigned : ClientProof where
  principalID := some "alice"
  signingKeyID := lengthDigest (utf8 "rstream-webtty-signing-key-id-v1" ++ sampleKey)
  signingPublicKey := sampleKey
  signatureSuite := signatureSuiteECDSAP256SHA256
  transcriptHash := []
  signature := [1]
  issuedAt := "2026-01-01T00:00:00Z"
  expiresAt := "2026-01-01T00:00:20Z"
  deviceID := none
  browserID := none
  credential := none

/-- A server with end-to-end encryption that knows the client's key. -/
def sampleServer : ServerConfig where
  profile := .standard
  sessionCloseDeadline := none
  heartbeatInterval := none
  payloadCrypto := none
  payloadCryptoResolver := true
  requireSessionKeyGrant := none
  endpointIdentity := some sampleIdentity
  requireClientProof := some true
  authorizedClientSigningKeys := [(sampleUnsigned.signingKeyID, sampleKey)]
  authorizedClientSigningKey := none
  clientProofVerifier := none
  workspaceID := "workspace"
  projectID := "project"
  serverID := "server"

/-- A session of the server. -/
def sampleSession : SessionIdentity := ⟨"session", "websocket", [7]⟩

/-- The transcript the client signs. -/
def sampleTranscript : ClientProofTranscript :=
  expectedTranscript sampleServer sampleSession sampleIdentity sampleUnsigned (1, 1)
    (lengthDigest [1, 9]) (lengthDigest (encodeAll [.bytes (utf8 "sh")])) (lengthDigest [])

/-- Primitives under which the only signature is the one of the client. -/
def samplePrimitives : Primitives Unit where
  sha256 := lengthDigest
  parsePublicKey key := if key = sampleKey then .ok () else .error "unknown key"
  verifyASN1 _ digest signature :=
    digest = lengthDigest sampleTranscript.canonicalBytes ∧ signature = [1]
  marshalConfig := marshalCommand
  marshalGrant := marshalKeyID

/-- The proof of the client. -/
def sampleProof : ClientProof :=
  { sampleUnsigned with transcriptHash := sampleTranscript.hash samplePrimitives }

/-- A request to run a shell with end-to-end encryption. -/
def sampleOpen : Open :=
  ⟨some { emptyConfig with cmdArgs := ["sh"] }, some ⟨1, [9], [], [], 1⟩, some sampleProof⟩

/-- The time of the verification, in nanoseconds. -/
def sampleNow : Int := 1767225610 * second

/-- The strings the client and the server hash. -/
def sampleHashed : Set Bytes :=
  fun data => data ∈ [[], [1, 9], encodeAll [.bytes (utf8 "sh")],
    sampleTranscript.canonicalBytes]

theorem samplePrimitives_ideal : Ideal samplePrimitives
    (fun key t => key = sampleKey ∧ t = sampleTranscript) sampleHashed where
  unforgeable := by
    intro key t signature h
    unfold verifyWebTTYClientProofTranscript at h
    split at h
    · cases h
    · split at h
      · cases h
      case h_2 hkey =>
        split at h
        case isTrue hverify =>
          have hparsed : key = sampleKey := by
            by_contra hne
            simp [samplePrimitives, hne] at hkey
          have hdigest := (of_decide_eq_true hverify).1
          exact ⟨sampleTranscript, ⟨hparsed, rfl⟩, hdigest.symm⟩
        case isFalse => cases h
  collisionFree := by
    have hall : ∀ a ∈ [[], [1, 9], encodeAll [.bytes (utf8 "sh")],
        sampleTranscript.canonicalBytes], ∀ b ∈ [[], [1, 9], encodeAll [.bytes (utf8 "sh")],
        sampleTranscript.canonicalBytes], lengthDigest a = lengthDigest b → a = b := by
      decide +kernel
    exact fun a ha b hb h => hall a ha b hb h
  made_hashed := by
    rintro key t ⟨_, rfl⟩
    change _ ∈ [_, _, _, _]
    simp
  config := marshalCommand_marshals
  grant := marshalKeyID_marshals

/-- The client's proof is accepted. -/
theorem sampleProof_accepted : verifyClientProof samplePrimitives sampleServer sampleSession
    (some sampleOpen) sampleNow false =
      .ok (some ⟨sampleUnsigned.signingKeyID, "alice", "", ""⟩) := by
  decide +kernel

theorem sampleTranscript_describes : Describes samplePrimitives sampleServer sampleSession
    sampleIdentity sampleOpen sampleProof sampleTranscript where
  version := rfl
  requirement := rfl
  serverNonce := rfl
  sessionID := rfl
  transport := rfl
  workspaceID := rfl
  projectID := rfl
  serverID := rfl
  serverSigningKeyID := rfl
  serverEncryptionKeyID := rfl
  suites := ⟨1, by decide +kernel, by decide +kernel⟩
  sessionKeyGrantHash := by decide +kernel
  commandConfigHash := by decide +kernel
  clientCredentialHash := rfl
  principal := rfl
  clientSigningKeyID := rfl
  issuedAt := rfl
  expiresAt := rfl
  attach := ⟨rfl, rfl⟩

/-- The client's proof was made for the session it is accepted in. -/
theorem verifyClientProof_sound_sample : sampleServer.requireClientProof = some true ∧
    (verifyClientProof samplePrimitives sampleServer sampleSession (some sampleOpen) sampleNow
      false).toBool = true ∧
    MadeFor samplePrimitives sampleHashed sampleOpen sampleProof sampleTranscript := by
  obtain ⟨open', proof, identity, t, key, hopen, hproof, hidentity, haccepted, hhence⟩ :=
    verifyClientProof_sound samplePrimitives sampleServer sampleSession (some sampleOpen)
      sampleNow false rfl sampleProof_accepted
  cases hopen
  cases hproof
  cases hidentity
  obtain rfl : t = sampleTranscript := haccepted.describes.unique sampleTranscript_describes
  have hmem : ∀ data, data ∈ [[], [1, 9], encodeAll [.bytes (utf8 "sh")],
      sampleTranscript.canonicalBytes] → data ∈ sampleHashed := fun _ h => h
  have hhashes : Hashes samplePrimitives sampleHashed sampleOpen sampleProof sampleTranscript := by
    refine ⟨hmem _ (by simp), fun {data} h => ?_, fun {data} h => ?_, hmem _ (by decide +kernel)⟩
    · have hdata : marshalled samplePrimitives.marshalConfig sampleOpen.config =
          .ok (encodeAll [.bytes (utf8 "sh")]) := by decide +kernel
      cases h.symm.trans hdata
      exact hmem _ (by simp)
    · have hdata : marshalled samplePrimitives.marshalGrant sampleOpen.sessionKeyGrant =
          .ok [1, 9] := by decide +kernel
      cases h.symm.trans hdata
      exact hmem _ (by simp)
  obtain ⟨t', ⟨_, rfl⟩, _, hmade⟩ :=
    hhence _ _ samplePrimitives_ideal hhashes (by decide +kernel)
  exact ⟨rfl, congrArg Except.toBool sampleProof_accepted, hmade⟩

end Sample

end Rstream.WebTTY
