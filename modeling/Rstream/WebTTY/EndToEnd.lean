import Rstream.WebTTY.InputAuthenticity
import Rstream.WebTTY.OutputAuthenticity
import Rstream.WebTTY.SessionRuns

/-!
# End-to-end authenticity of terminal payloads

Both ends together: the child's input on the server and the caller's output on the
client. Neither end refuses a plaintext payload of an end-to-end encrypted session,
so both statements are about the runs in which none arrives.
-/

namespace Rstream.WebTTY

open Rstream.Core Program

/-- As long as no plaintext payload arrives, everything handed over on either end of an
end-to-end encrypted session was decrypted. -/
theorem payloads_authentic {K : Type} (P : Primitives K) (cfg : ServerConfig)
    (platform : Prog.Platform) (sessionID transport : String) (crypto : Option PayloadCrypto) :
    (∀ c, (sessionSystem P cfg platform).Reach NoPlaintextInput
      (newSession cfg sessionID transport) c → c.state.InputAuthentic) ∧
    (∀ c, clientSessionSystem.Reach NoPlaintextOutput (newClient crypto) c →
      c.state.OutputAuthentic) ∧
    (∀ c, clientRuntimeSystem.Reach NoPlaintextOutput (newClient crypto) c →
      c.state.OutputAuthentic) := by
  refine ⟨fun c hreach => ?_, fun c hreach => ?_, fun c hreach => ?_⟩
  · exact session_input_authentic P cfg platform sessionID transport hreach
  · exact (clientSession_output_sound crypto).inv_of_reach hreach
  · exact (clientRuntime_output_sound crypto).inv_of_reach hreach

/-- All payload hooks. -/
def allHooks : PayloadCrypto := ⟨true, true, true, true, true, true⟩

theorem deliveryLimit_noPlaintextInput : DeliveryLimit NoPlaintextInput := by
  intro s s' h m hm
  rw [h] at hm
  exact absurd hm (by simp)

/-- A relay that slips a plaintext payload into an end-to-end encrypted session reaches the
child on the server and the caller on the client. -/
theorem plaintext_payload_accepted :
    (¬ ∀ c, (sessionSystem samplePrimitives sampleServer .linux).Reach (fun _ _ => True)
      (newSession sampleServer "session" "websocket") c → c.state.InputAuthentic) ∧
    (¬ ∀ c, clientSessionSystem.Reach (fun _ _ => True) (newClient (some allHooks)) c →
      c.state.OutputAuthentic) ∧
    (¬ ∀ c, clientRuntimeSystem.Reach (fun _ _ => True) (newClient (some allHooks)) c →
      c.state.OutputAuthentic) := by
  refine ⟨fun hall => ?_, fun hall => ?_, fun hall => ?_⟩
  · have hwritten := Prog.openedSession_reach (fun _ _ _ => trivial) allHooks .linux
        (fun _ _ => trivial)
      |>.act .readLoop () rfl rfl trivial
      |>.act .readLoop (Prog.Delivery.message (.data (some ⟨.stdin, .data [108]⟩))) rfl rfl trivial
      |>.act .readLoop () rfl rfl trivial
      |>.act .readLoop () rfl rfl trivial
      |>.act .readLoop () rfl rfl trivial
      |>.act .readLoop Prog.PipeOutcome.written rfl rfl trivial
    have hbacked := hall _ hwritten ⟨rfl, rfl⟩ [] (.written [108]) [] rfl [108] rfl
    obtain ⟨earlier, payload, h⟩ := hbacked
    exact absurd h (by simp)
  · have hstart : clientSessionSystem.Reach (fun _ _ => True) (newClient (some allHooks)) _ :=
      .start
    have hreceive := hstart.act .run (.message (.data (some ⟨.stdout, .data [108]⟩))) rfl rfl
      trivial
    have hdecode := (hreceive.act .run () rfl rfl trivial).act .run () rfl rfl trivial
    have hsend := hdecode.act .run none rfl rfl trivial
    obtain ⟨earlier, payload, h⟩ := hall _ hsend ⟨rfl, rfl⟩ [] (.delivered .stdout [108]) [] rfl
      .stdout [108] rfl (by simp)
    exact absurd h (by simp)
  · have hstart : clientRuntimeSystem.Reach (fun _ _ => True) (newClient (some allHooks)) _ :=
      .start
    have hreceive := hstart.act () (.data (some ⟨.stdout, .data [108]⟩)) rfl rfl trivial
    have hwrite := (hreceive.act () () rfl rfl trivial).act () (.ok ()) rfl rfl trivial
    obtain ⟨earlier, payload, h⟩ := hall _ hwrite ⟨rfl, rfl⟩ [] (.delivered .stdout [108]) [] rfl
      .stdout [108] rfl (by simp)
    exact absurd h (by simp)

/-- An encrypted exchange on both ends, which ends with the decrypted bytes handed over. -/
theorem payloads_authentic_sample :
    (∃ c, (sessionSystem samplePrimitives sampleServer .linux).Reach NoPlaintextInput
      (newSession sampleServer "session" "websocket") c ∧ c.state.EndToEnd ∧
      c.state.input = [.decrypted none [108], .written [108]] ∧ c.state.InputAuthentic) ∧
    (∃ c, clientSessionSystem.Reach NoPlaintextOutput (newClient (some allHooks)) c ∧
      c.state.EndToEnd ∧
      c.state.output = [.decrypted .stdout none [108], .delivered .stdout [108]] ∧
      c.state.OutputAuthentic) ∧
    (∃ c, clientRuntimeSystem.Reach NoPlaintextOutput (newClient (some allHooks)) c ∧
      c.state.EndToEnd ∧
      c.state.output = [.decrypted .stdout none [108], .delivered .stdout [108]] ∧
      c.state.OutputAuthentic) := by
  obtain ⟨hserver, hclient, hruntime⟩ := payloads_authentic samplePrimitives sampleServer .linux
    "session" "websocket" (some allHooks)
  have hquiet : ∀ s s' : Client, s'.received = s.received → NoPlaintextOutput s s' := by
    intro s s' h m hm
    rw [h] at hm
    exact absurd hm (by simp)
  have hharmless : ∀ s s' : Client,
      s'.received = s.received ++ [.data (some ⟨.stdout, .encryptedData none⟩)] →
      NoPlaintextOutput s s' := by
    intro s s' h m hm t bytes hdata
    rw [h, List.append_right_inj, List.singleton_inj] at hm
    cases hm.trans hdata
  refine ⟨?_, ?_, ?_⟩
  · have hopened := Prog.openedSession_reach deliveryLimit_noPlaintextInput allHooks .linux
      fun s hgrant m _ hend => by simp [Session.EndToEnd, hgrant] at hend
    have hdelivered := (hopened.act .readLoop () rfl rfl
      (deliveryLimit_noPlaintextInput _ _ rfl)).act .readLoop
        (Prog.Delivery.message (.data (some ⟨.stdin, .encryptedData none⟩))) rfl rfl ?_
    · have hwritten := hdelivered
        |>.act .readLoop () rfl rfl (deliveryLimit_noPlaintextInput _ _ rfl)
        |>.act .readLoop () rfl rfl (deliveryLimit_noPlaintextInput _ _ rfl)
        |>.act .readLoop () rfl rfl (deliveryLimit_noPlaintextInput _ _ rfl)
        |>.act .readLoop (.ok [108] : Except Error Bytes) rfl rfl
          (deliveryLimit_noPlaintextInput _ _ rfl)
        |>.act .readLoop Prog.PipeOutcome.written rfl rfl (deliveryLimit_noPlaintextInput _ _ rfl)
      exact ⟨_, hwritten, ⟨rfl, rfl⟩, rfl, hserver _ hwritten⟩
    · intro m hm _ _
      obtain rfl := List.singleton_inj.mp (List.append_cancel_left hm)
      rfl
  · have hstart : clientSessionSystem.Reach NoPlaintextOutput (newClient (some allHooks)) _ :=
      .start
    have hreceive := hstart.act .run (.message (.data (some ⟨.stdout, .encryptedData none⟩)))
      rfl rfl (hharmless _ _ rfl)
    have hsend := hreceive
      |>.act .run () rfl rfl (hquiet _ _ rfl)
      |>.act .run () rfl rfl (hquiet _ _ rfl)
      |>.act .run (.ok [108] : Except Error Bytes) rfl rfl (hquiet _ _ rfl)
      |>.act .run (none : Option Error) rfl rfl (hquiet _ _ rfl)
    exact ⟨_, hsend, ⟨rfl, rfl⟩, rfl, hclient _ hsend⟩
  · have hstart : clientRuntimeSystem.Reach NoPlaintextOutput (newClient (some allHooks)) _ :=
      .start
    have hreceive := hstart.act () (.data (some ⟨.stdout, .encryptedData none⟩)) rfl rfl
      (hharmless _ _ rfl)
    have hwrite := hreceive
      |>.act () () rfl rfl (hquiet _ _ rfl)
      |>.act () (.ok [108] : Except Error Bytes) rfl rfl (hquiet _ _ rfl)
      |>.act () (.ok () : Result) rfl rfl (hquiet _ _ rfl)
    exact ⟨_, hwrite, ⟨rfl, rfl⟩, rfl, hruntime _ hwrite⟩

end Rstream.WebTTY
