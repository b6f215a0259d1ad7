import Rstream.Core.History
import Rstream.Core.RelyGuarantee
import Rstream.WebTTY.Client

/-!
# Authenticity of a client's output

With both decrypt hooks configured, the output a client hands to its caller should
come out of them. `decodeStreamPayload` returns a plaintext payload as it is, so
this holds along the runs in which no such payload with bytes in it is received
for a stream that has not ended.
-/

namespace Rstream.WebTTY

open Rstream.Core

variable {bytes : Bytes} {t : DataType}

/-- Bytes are handed over only as the plaintext of the decryption just before. -/
def Decrypted (before : List OutputEvent) (e : OutputEvent) : Prop :=
  ∀ t bytes, e = .delivered t bytes → bytes ≠ [] →
    ∃ earlier payload, before = earlier ++ [.decrypted t payload bytes]

namespace Client

/-- Both decrypt hooks are configured. -/
def EndToEnd (s : Client) : Prop :=
  s.payloadCrypto.any PayloadCrypto.decryptStdout = true ∧
    s.payloadCrypto.any PayloadCrypto.decryptStderr = true

/-- All output of an end-to-end encrypted client was decrypted. -/
def OutputAuthentic (s : Client) : Prop := s.EndToEnd → EachAfter Decrypted s.output

end Client

/-- A data message that would hand over plaintext finds no encryption to bypass. -/
def Harmless (m : Message) (s : Client) : Prop :=
  ∀ t bytes, m = .data (some ⟨t, .data bytes⟩) → ClientProg.isOutput t = true →
    t ∉ s.streamEOS → s.EndToEnd → bytes = []

/-- The step receives no plaintext output in an end-to-end encrypted client. -/
def NoPlaintextOutput (s s' : Client) : Prop :=
  ∀ m, s'.received = s.received ++ [m] → Harmless m s

/-- The part of a client that concerns its output. -/
structure OutputView where
  payloadCrypto : Option PayloadCrypto
  streamEOS : Finset DataType
  output : List OutputEvent

/-- What a client knows about its output. -/
def Client.outputView (s : Client) : OutputView where
  payloadCrypto := s.payloadCrypto
  streamEOS := s.streamEOS
  output := s.output

/-- The contract of a client whose output only the thread `main` handles. -/
def outputContract {Tid : Type} (main : Tid) : Contract Tid Client where
  allow := NoPlaintextOutput
  inv := Client.OutputAuthentic
  rely t s s' := t = main → s'.outputView = s.outputView
  rely_refl _ _ _ := rfl
  rely_trans h h' ht := (h' ht).trans (h ht)

variable {A : Client → Prop}

section Rules

variable {Tid : Type} {main : Tid} {s s' : Client}

section

variable (h : s'.outputView = s.outputView)
include h

theorem Client.endToEnd_of_view (hs : s'.EndToEnd) : s.EndToEnd := by
  have hcrypto : s'.payloadCrypto = s.payloadCrypto := congrArg OutputView.payloadCrypto h
  unfold Client.EndToEnd at hs
  rwa [hcrypto] at hs

theorem Client.output_of_view : s'.output = s.output :=
  congrArg OutputView.output h

theorem Client.authentic_of_view (hs : s.OutputAuthentic) : s'.OutputAuthentic := by
  intro hend
  rw [Client.output_of_view h]
  exact hs (Client.endToEnd_of_view h hend)

theorem Harmless.of_view {m : Message} (hs : Harmless m s) : Harmless m s' := by
  intro t bytes hm ht heos hend
  rw [show s'.streamEOS = s.streamEOS from congrArg OutputView.streamEOS h] at heos
  exact hs t bytes hm ht heos (Client.endToEnd_of_view h hend)

end

/-- What `main` does concerns no one else. -/
theorem main_keeps (hinv : s'.OutputAuthentic) : (outputContract main).Keeps main s s' :=
  ⟨hinv, fun _ hu h => absurd h hu⟩

theorem view_keeps {t : Tid} (hinv : s.OutputAuthentic) (h : s'.outputView = s.outputView) :
    (outputContract main).Keeps t s s' :=
  ⟨Client.authentic_of_view h hinv, fun _ _ _ => h⟩

/-- A program that leaves the output alone may be run at any point. -/
theorem view_triple {α : Type} {t : Tid} {p : ClientProg α}
    (hp : p.Respects fun s s' => s'.outputView = s.outputView) :
    (outputContract main).Triple t A p fun _ _ => True := by
  refine Contract.Triple.strengthen (P := fun _ => True) ?_ fun _ _ => trivial
  exact .of_respects hp Contract.stable_const fun s s' hinv _ h => ⟨view_keeps hinv h, trivial⟩

/-- The bytes may be handed over: they were just decrypted. -/
def Deliverable (t : DataType) (bytes : Bytes) (s : Client) : Prop :=
  s.EndToEnd → Decrypted s.output (.delivered t bytes)

theorem deliverable_stable : (outputContract main).Stable main (Deliverable t bytes) := by
  intro s s' hrely _ h hend
  rw [Client.output_of_view (hrely rfl)]
  exact h (Client.endToEnd_of_view (hrely rfl) hend)

theorem Client.OutputAuthentic.deliver (hinv : s.OutputAuthentic) (hs : Deliverable t bytes s) :
    ({ s with output := s.output ++ [.delivered t bytes] } : Client).OutputAuthentic :=
  fun hend => eachAfter_snoc.mpr ⟨hinv hend, hs hend⟩

theorem Client.OutputAuthentic.decrypt {payload : Option EncryptedPayload}
    (hinv : s.OutputAuthentic) :
    ({ s with output := s.output ++ [.decrypted t payload bytes] } : Client).OutputAuthentic :=
  fun hend => eachAfter_snoc.mpr ⟨hinv hend, nofun⟩

end Rules

namespace ClientProg

open Program

variable {Tid : Type} {main : Tid}

/-- Bytes that decoding returns may be handed over. -/
theorem decodeOutput_output (data : Data) : (outputContract main).Triple main
      (fun s => ∀ bytes, data.payload = .data bytes → s.EndToEnd → bytes = [])
      (decodeOutput data) fun r s => ∀ bytes, r = .ok (some bytes) →
        Deliverable data.type bytes s := by
  have hstable : (outputContract main).Stable main
      fun s => ∀ bytes, data.payload = .data bytes → s.EndToEnd → bytes = [] :=
    fun _ _ hrely _ h bytes hbytes hend =>
      h bytes hbytes (Client.endToEnd_of_view (hrely rfl) hend)
  refine .bind (.inspect (Q := fun _ s =>
    ∀ bytes, data.payload = .data bytes → s.EndToEnd → bytes = []) hstable fun _ _ h => h)
    fun decrypt => ?_
  rcases data with ⟨t, payload⟩
  cases payload with
  | none | eos => exact .pure fun _ _ _ h => by cases h
  | data bytes =>
    refine .pure fun s hs bytes' h hend => ?_
    cases h
    exact fun _ _ h hne => by
      cases h
      exact absurd (hs bytes rfl hend) hne
  | encryptedData payload =>
    cases decrypt
    · exact .pure fun _ _ _ h => by cases h
    · refine .bind (Q := fun r s => ∀ bytes, r = .ok bytes → Deliverable t bytes s)
        (.choose hstable fun s i r s' hinv hs h _ => ?_) fun r => ?_
      · rcases i with err | bytes <;> cases h
        · exact ⟨.refl hinv, fun bytes h => by cases h⟩
        · refine ⟨main_keeps hinv.decrypt, fun bytes' h _ t' bytes'' h' _ => ?_⟩
          cases h
          cases h'
          exact ⟨s.output, payload, rfl⟩
      · rcases r with err | bytes
        · exact .pure fun _ _ _ h => by cases h
        · refine .pure fun s hs bytes' h => ?_
          cases h
          exact hs bytes rfl

/-- What holds of data when the client starts to decode it. -/
theorem decodeEvent_output (data : Option Data) :
    (outputContract main).Triple main (Harmless (.data data)) (decodeEvent data)
      fun r s => ∀ t bytes, r = .ok (some (t, bytes)) → Deliverable t bytes s := by
  rcases data with _ | data
  · exact .pure fun _ _ _ _ h => by cases h
  · unfold decodeEvent
    simp only
    split
    case isFalse => exact .pure fun _ _ _ _ h => by cases h
    case isTrue hout =>
      refine .bind (Q := fun r s => r = .ok true →
        ∀ bytes, data.payload = .data bytes → s.EndToEnd → bytes = [])
        (.atomic (fun _ _ hrely _ h => h.of_view (hrely rfl)) fun s hinv hs _ => ?_) fun r => ?_
      · unfold trackEOS
        split
        case isTrue =>
          split
          · exact ⟨.refl hinv, nofun⟩
          · exact ⟨main_keeps hinv, nofun⟩
        case isFalse =>
          split
          case isTrue => exact ⟨.refl hinv, nofun⟩
          case isFalse heos =>
            refine ⟨.refl hinv, fun _ bytes hbytes hend => ?_⟩
            refine hs data.type bytes ?_ hout heos hend
            rw [← hbytes]
      · rcases r with err | _ | _
        · exact .pure fun _ _ _ _ h => by cases h
        · exact .pure fun _ _ _ _ h => by cases h
        · refine .bind ((decodeOutput_output data).strengthen fun s h => h rfl) fun r => ?_
          rcases r with err | _ | bytes
          · exact .pure fun _ _ _ _ h => by cases h
          · exact .pure fun _ _ _ _ h => by cases h
          · refine .pure fun s hs t bytes' h => ?_
            cases h
            exact hs bytes rfl

theorem failSession_output (err : Error) :
    (outputContract main).Triple main A (failSession err) fun _ _ => True :=
  view_triple (.bind (.atomic fun _ => rfl) fun _ => .pure _)

theorem onMessage_output (m : Message) :
    (outputContract main).Triple main (Harmless m) (onMessage m) fun _ _ => True := by
  cases m with
  | data data =>
    refine .bind (decodeEvent_output data) fun r => ?_
    rcases r with err | _ | ⟨t, bytes⟩
    · exact failSession_output err
    · exact .pure fun _ _ => trivial
    · refine .bind (Q := fun _ _ => True) ?_ fun outcome => ?_
      · refine Contract.Triple.strengthen (P := Deliverable t bytes) ?_ fun s h => h t bytes rfl
        refine .choose deliverable_stable fun s i r s' hinv hs h _ => ?_
        rcases i with _ | err <;> cases h
        · exact ⟨main_keeps (hinv.deliver hs), trivial⟩
        · exact ⟨.refl hinv, trivial⟩
      · rcases outcome with _ | err
        · exact .pure fun _ _ => trivial
        · exact failSession_output err
  | close code => exact view_triple (.bind (.atomic fun _ => rfl) fun _ => .pure _)
  | heartbeat => exact .pure fun _ _ => trivial
  | error msg =>
    rcases msg with _ | msg
    · exact failSession_output _
    · simp only [onMessage]
      split <;> exact failSession_output _
  | _ => exact failSession_output _

theorem run_output : (outputContract main).Triple main (fun _ => True) run fun _ _ => True := by
  refine .bind (Q := fun event s => ∀ m, event = .message m → Harmless m s)
    (.choose Contract.stable_const fun s i event s' hinv _ h hallow => ?_) fun event => ?_
  · cases i with
    | message m =>
      cases h
      refine ⟨view_keeps hinv rfl, fun m' hm => ?_⟩
      cases hm
      exact hallow m rfl
    | _ =>
      cases h
      exact ⟨.refl hinv, fun m hm => by cases hm⟩
  · cases event with
    | message m => exact (onMessage_output m).strengthen fun s h => h m rfl
    | loop err =>
      cases err
      · exact .pure fun _ _ => trivial
      · exact failSession_output _
    | _ => exact failSession_output _

theorem handleData_output (data : Option Data) : (outputContract main).Triple main
      (fun s => s.streamEOS = ∅ ∧ Harmless (.data data) s) (handleData data)
      fun _ _ => True := by
  rcases data with _ | data
  · exact .pure fun _ _ => trivial
  · unfold handleData
    simp only
    split
    case isFalse => exact .pure fun _ _ => trivial
    case isTrue hout =>
      refine .bind ((decodeOutput_output data).strengthen fun s hs bytes hbytes hend => ?_)
        fun r => ?_
      · refine hs.2 data.type bytes ?_ hout ?_ hend
        · rw [← hbytes]
        · rw [hs.1]
          exact Finset.notMem_empty _
      · rcases r with err | _ | bytes
        · exact .pure fun _ _ => trivial
        · exact .pure fun _ _ => trivial
        · refine .bind (Q := fun _ _ => True) ?_ fun outcome => ?_
          · unfold writeAll
            split
            · exact .pure fun _ _ => trivial
            · refine Contract.Triple.strengthen (P := Deliverable data.type bytes) ?_
                fun s h => h bytes rfl
              refine .choose deliverable_stable fun s i r s' hinv hs h _ => ?_
              cases h
              exact ⟨main_keeps (hinv.deliver hs), trivial⟩
          · rcases outcome with err | _ <;> exact .pure fun _ _ => trivial

theorem handleSessionMessage_output (m : Message) :
    (outputContract main).Triple main (fun s => s.streamEOS = ∅ ∧ Harmless m s)
      (handleSessionMessage m) fun _ _ => True := by
  cases m with
  | data data =>
    refine .bind (handleData_output data) fun r => ?_
    rcases r with err | _ <;> exact .pure fun _ _ => trivial
  | error msg =>
    rcases msg with _ | msg
    · exact .pure fun _ _ => trivial
    · simp only [handleSessionMessage]
      split <;> exact .pure fun _ _ => trivial
  | _ => exact .pure fun _ _ => trivial

/-- The ends of streams are the business of a `ClientSession` only. -/
theorem handleSessionMessage_streamEOS (m : Message) :
    (handleSessionMessage m).Respects fun s s' => s'.streamEOS = s.streamEOS := by
  have hdecode : ∀ data : Data,
      (decodeOutput data).Respects fun s s' => s'.streamEOS = s.streamEOS := by
    intro data
    refine .bind (.inspect (fun s => (rfl : s.streamEOS = s.streamEOS)) _) fun decrypt => ?_
    unfold decodeStreamPayload
    split
    · exact .pure _
    · exact .pure _
    · split
      · refine .bind (.choose fun s i r s' h => ?_) fun r => ?_
        · rcases i with err | bytes <;> cases h <;> rfl
        · rcases r with err | bytes <;> exact .pure _
      · exact .pure _
    · exact .pure _
  have hwrite : ∀ t bytes,
      (writeAll t bytes).Respects fun s s' => s'.streamEOS = s.streamEOS := by
    intro t bytes
    unfold writeAll
    split
    · exact .pure _
    · exact .choose fun s i r s' h => by cases h; rfl
  cases m with
  | data data =>
    refine .bind ?_ fun r => by rcases r with err | _ <;> exact .pure _
    rcases data with _ | data
    · exact .pure _
    · unfold handleData
      simp only
      split
      · refine .bind (hdecode data) fun r => ?_
        rcases r with err | _ | bytes
        · exact .pure _
        · exact .pure _
        · refine .bind (hwrite _ bytes) fun r => ?_
          rcases r with err | _ <;> exact .pure _
      · exact .pure _
  | error msg =>
    rcases msg with _ | msg
    · exact .pure _
    · simp only [handleSessionMessage]
      split <;> exact .pure _
  | _ => exact .pure _

theorem handleMessages_output :
    (outputContract main).Triple main (fun s => s.streamEOS = ∅) handleMessages
      fun _ s => s.streamEOS = ∅ := by
  have heos : (outputContract main).Stable main fun s => s.streamEOS = ∅ :=
    fun _ _ hrely _ h => (congrArg OutputView.streamEOS (hrely rfl)).trans h
  refine .bind (Q := fun m s => (s.streamEOS = ∅ ∧ Harmless m s) ∧ s.streamEOS = ∅)
    (.choose heos fun s i m s' hinv hs h hallow => ?_) fun m => ?_
  · cases h
    exact ⟨view_keeps hinv rfl, ⟨hs, hallow i rfl⟩, hs⟩
  · refine .bind ((handleSessionMessage_output m).frame (handleSessionMessage_streamEOS m) heos
      fun s s' h hs => h.trans hs) fun r => ?_
    rcases r with _ | result
    · exact .pure fun s h => h.2
    · refine .bind (Q := fun _ s => s.streamEOS = ∅) ?_ fun _ => .pure fun s h => h
      refine Contract.Triple.strengthen (P := fun s => s.streamEOS = ∅) ?_ fun s h => h.2
      exact .atomic heos fun s hinv hs _ => ⟨view_keeps hinv rfl, hs⟩

end ClientProg

theorem clientSession_output_sound (crypto : Option PayloadCrypto) :
    (outputContract ClientThread.run).Sound clientSessionSystem (fun _ _ => True)
      (newClient crypto) where
  inv_start _ := eachAfter_nil
  loop_start _ := trivial
  loop_stable _ := Contract.stable_const
  body
    | .run => ClientProg.run_output.weaken fun _ _ _ _ => trivial
    | .caller => by
      refine (view_triple ?_).weaken fun _ _ _ _ => trivial
      refine .bind (.receive (fun s => (rfl : s.outputView = s.outputView)) _) fun _ => ?_
      exact .bind (.atomic fun _ => rfl) fun _ => .pure _
  abort _ h := by cases h

theorem clientRuntime_output_sound (crypto : Option PayloadCrypto) :
    (outputContract ()).Sound clientRuntimeSystem (fun _ s => s.streamEOS = ∅)
      (newClient crypto) where
  inv_start _ := eachAfter_nil
  loop_start _ := rfl
  loop_stable _ := fun _ _ hrely _ h => (congrArg OutputView.streamEOS (hrely rfl)).trans h
  body _ := ClientProg.handleMessages_output.weaken fun _ _ h _ => h
  abort _ h := by cases h

end Rstream.WebTTY
