import Rstream.WebTTY.ClientProofSoundness
import Rstream.WebTTY.Handshake

/-!
# Signed transcripts

The transcripts a client proof, a server proof and a server admission are signed over.
Each is determined by its bytes, up to the white space around the strings of the proofs
and up to the bits of the admission's version beyond the word it is encoded in, and the
bytes tell the three kinds apart.
-/

namespace Rstream.WebTTY

open Rstream.Core Go List Field

/-- `ServerProofTranscript.CanonicalBytes`. -/
def ServerProofTranscript.canonicalBytes (t : ServerProofTranscript) : Bytes :=
  encodeAll t.fields

/-- `WebTTYServerAdmissionProof`, without the signature over the rest. -/
structure WebTTYServerAdmissionProof where
  version : Int64
  suite : String
  workspaceID : String
  projectID : String
  serverID : String
  tunnelProtocol : String
  tunnelType : String
  labelsSHA256 : String
  signingKeyID : String
  issuedAt : String
  expiresAt : String
  nonce : String
  deriving DecidableEq, Repr

/-- The fields of an admission in the order they are appended; the strings are not trimmed. -/
def WebTTYServerAdmissionProof.fields (p : WebTTYServerAdmissionProof) : List Field :=
  .word p.version.toUInt64.toUInt32 :: [p.suite, p.workspaceID, p.projectID, p.serverID,
    p.tunnelProtocol, p.tunnelType, p.labelsSHA256, p.signingKeyID, p.issuedAt, p.expiresAt,
    p.nonce].map fun value => .bytes (utf8 value)

/-- `WebTTYServerAdmissionTranscript`; the domain has no length prefix. -/
def webTTYServerAdmissionTranscript : Option WebTTYServerAdmissionProof → Bytes
  | none => []
  | some p => utf8 "rstream-webtty-server-admission-v1" ++ encodeAll p.fields

/-- Every field, and the number of suites in every list, fits its length word. -/
structure ServerProofTranscript.Fits (t : ServerProofTranscript) : Prop where
  fields : ∀ f ∈ t.fields, f.Fits
  payloadSuites : t.payloadSuites.length < 2 ^ 32
  keyEnvelopeSuites : t.keyEnvelopeSuites.length < 2 ^ 32
  signatureSuites : t.signatureSuites.length < 2 ^ 32

/-- The transcript with its strings trimmed. -/
def ServerProofTranscript.trimmed (t : ServerProofTranscript) : ServerProofTranscript :=
  { t with
    transport := trimSpace t.transport
    workspaceID := trimSpace t.workspaceID
    projectID := trimSpace t.projectID
    serverID := trimSpace t.serverID
    sessionID := trimSpace t.sessionID }

/-- A list of suites followed by anything determines both parts. -/
theorem suiteFields_append_inj {a b : List Int32} (ha : a.length < 2 ^ 32)
    (hb : b.length < 2 ^ 32) {x y : Bytes}
    (h : encodeAll (suiteFields a) ++ x = encodeAll (suiteFields b) ++ y) : a = b ∧ x = y := by
  simp only [suiteFields, encodeAll_cons, append_assoc, encode] at h
  obtain ⟨hcount, hrest⟩ := bigEndian_append_inj h
  have hlength : a.length = b.length := by
    have hnat := congrArg UInt32.toNat hcount
    rwa [UInt32.toNat_ofNat_of_lt' ha, UInt32.toNat_ofNat_of_lt' hb] at hnat
  have hkind : List.Forall₂ Field.Comparable (a.map numberField) (b.map numberField) := by
    rw [forall₂_map_left_iff, forall₂_map_right_iff]
    exact forall₂_iff_get.mpr ⟨hlength, fun _ _ _ => .inr ⟨.word .., trivial, trivial⟩⟩
  obtain ⟨hsuites, hxy⟩ := encodeAll_append_inj hkind hrest
  refine ⟨map_injective_iff.mpr (fun _ _ => numberField_eq_iff.mp) hsuites, hxy⟩

/-- The bytes of a server transcript determine it up to white space around its strings. -/
theorem trimmed_eq_of_canonicalBytes {t t' : ServerProofTranscript} (ht : t.Fits) (ht' : t'.Fits)
    (h : t.canonicalBytes = t'.canonicalBytes) : t.trimmed = t'.trimmed := by
  simp only [ServerProofTranscript.canonicalBytes, ServerProofTranscript.fields,
    encodeAll_append, append_assoc] at h
  have hfits := ht.fields
  have hfits' := ht'.fields
  simp only [ServerProofTranscript.fields, append_assoc, forall_mem_append] at hfits hfits'
  obtain ⟨hhead, h⟩ := encodeAll_append_inj
    (comparable_of_fits (by simp [stringField, numberField]) hfits.1 hfits'.1) h
  obtain ⟨hpayload, h⟩ := suiteFields_append_inj ht.payloadSuites ht'.payloadSuites h
  obtain ⟨henvelope, h⟩ := suiteFields_append_inj ht.keyEnvelopeSuites ht'.keyEnvelopeSuites h
  obtain ⟨hsignature, -⟩ := suiteFields_append_inj ht.signatureSuites ht'.signatureSuites
    (x := []) (y := []) (by simpa using h)
  simp only [cons.injEq, stringField_eq_iff, numberField_eq_iff, bytes.injEq,
    true_and, and_true] at hhead
  simp [ServerProofTranscript.trimmed, hhead, hpayload, henvelope, hsignature]

/-- The bytes of an admission determine it up to the version beyond its word. -/
theorem admission_eq_of_transcript {p p' : WebTTYServerAdmissionProof}
    (hp : ∀ f ∈ p.fields, f.Fits) (hp' : ∀ f ∈ p'.fields, f.Fits)
    (h : webTTYServerAdmissionTranscript (some p) = webTTYServerAdmissionTranscript (some p')) :
    p.version.toUInt64.toUInt32 = p'.version.toUInt64.toUInt32 ∧
      p = { p' with version := p.version } := by
  have hkind : List.Forall₂ Field.SameKind p.fields p'.fields := by
    simp [WebTTYServerAdmissionProof.fields]
  have hfields := encodeAll_inj hkind hp hp' (append_cancel_left h)
  simp only [WebTTYServerAdmissionProof.fields, map_cons, map_nil, cons.injEq,
    word.injEq, bytes.injEq, utf8_injective.eq_iff, and_true] at hfields
  refine ⟨hfields.1, ?_⟩
  rw [WebTTYServerAdmissionProof.mk.injEq]
  exact ⟨rfl, hfields.2⟩

/-- The domain at the front tells the kinds apart. -/
theorem transcript_kinds_ne (t : ClientProofTranscript) (u : ServerProofTranscript)
    (p : Option WebTTYServerAdmissionProof) :
    t.canonicalBytes ≠ u.canonicalBytes ∧ t.canonicalBytes ≠ webTTYServerAdmissionTranscript p ∧
      u.canonicalBytes ≠ webTTYServerAdmissionTranscript p := by
  have hclient : t.canonicalBytes.take 33 =
      lengthPrefixed (utf8 "rstream-webtty-client-auth-v1") := by
    exact take_left' rfl
  have hserver : u.canonicalBytes.take 33 =
      lengthPrefixed (utf8 "rstream-webtty-server-auth-v1") := by
    exact take_left' rfl
  have hadmission : (webTTYServerAdmissionTranscript p).take 33 = [] ∨
      (webTTYServerAdmissionTranscript p).take 33 =
        (utf8 "rstream-webtty-server-admission-v1").take 33 := by
    cases p with
    | none => exact .inl rfl
    | some p => exact .inr (take_append_of_le_length (by decide))
  refine ⟨fun h => ?_, fun h => ?_, fun h => ?_⟩
  · rw [h, hserver] at hclient
    revert hclient
    decide
  · rw [h] at hclient
    rcases hadmission with hp | hp <;> rw [hp] at hclient <;> revert hclient <;> decide
  · rw [h] at hserver
    rcases hadmission with hp | hp <;> rw [hp] at hserver <;> revert hserver <;> decide

/-- Transcripts with fields that fit their length words are determined by their bytes, and the
bytes determine the kind of a transcript. -/
theorem transcripts_unambiguous :
    (∀ t t' : ClientProofTranscript, (∀ f ∈ t.fields, f.Fits) → (∀ f ∈ t'.fields, f.Fits) →
      t.canonicalBytes = t'.canonicalBytes → SameTranscript t t') ∧
    (∀ t t' : ServerProofTranscript, t.Fits → t'.Fits →
      t.canonicalBytes = t'.canonicalBytes → t.trimmed = t'.trimmed) ∧
    (∀ p p' : WebTTYServerAdmissionProof, (∀ f ∈ p.fields, f.Fits) → (∀ f ∈ p'.fields, f.Fits) →
      webTTYServerAdmissionTranscript (some p) = webTTYServerAdmissionTranscript (some p') →
      p.version.toUInt64.toUInt32 = p'.version.toUInt64.toUInt32 ∧
        p = { p' with version := p.version }) ∧
    ∀ (t : ClientProofTranscript) (u : ServerProofTranscript)
      (p : Option WebTTYServerAdmissionProof), t.canonicalBytes ≠ u.canonicalBytes ∧
        t.canonicalBytes ≠ webTTYServerAdmissionTranscript p ∧
        u.canonicalBytes ≠ webTTYServerAdmissionTranscript p := by
  refine ⟨fun t t' ht ht' h => ?_, fun _ _ => trimmed_eq_of_canonicalBytes,
    fun _ _ => admission_eq_of_transcript, transcript_kinds_ne⟩
  exact sameTranscript_of_fields (encodeAll_inj (clientFields_sameKind t t') ht ht' h)

/-- An admission of the first version; the other fields are empty. -/
def sampleAdmission : WebTTYServerAdmissionProof := ⟨1, "", "", "", "", "", "", "", "", "", "", ""⟩

/-- Versions that agree in 32 bits have one transcript. -/
theorem webTTYServerAdmissionTranscript_version :
    webTTYServerAdmissionTranscript (some sampleAdmission) =
        webTTYServerAdmissionTranscript (some { sampleAdmission with version := 4294967297 }) ∧
      sampleAdmission ≠ { sampleAdmission with version := 4294967297 } := by
  decide +kernel

end Rstream.WebTTY
