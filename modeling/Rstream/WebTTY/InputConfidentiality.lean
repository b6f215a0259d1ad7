import Rstream.WebTTY.ClientInput
import Rstream.WebTTY.OutputConfidentiality

/-!
# Confidentiality of the input stream

A client with an encrypt hook for stdin writes only what the hook returned, in the order
of the calls, whatever its callers do at the same time: `stdinMu` is held from the
encryption of a payload until it was written. Together with the output streams of the
server this is the confidentiality of everything a terminal session sends.
-/

namespace Rstream.WebTTY

open Rstream.Core

/-- The client encrypts its input. -/
def ClientRuntime.Encrypts (s : ClientRuntime) : Prop :=
  s.payloadCrypto.any PayloadCrypto.encryptStdin = true

/-- The invariant of a client's writes. -/
structure ClientRuntime.InputSealed (s : ClientRuntime) : Prop where
  stdin : s.Encrypts → Enciphered .stdin s.wire s.encrypted
  /-- A client sends no other stream. -/
  others : ∀ t, t ≠ .stdin → payloads t s.wire = []

/-- What a goroutine relies on about the others. -/
structure StdinRely (g : ClientWriter) (s s' : ClientRuntime) : Prop where
  payloadCrypto : s'.payloadCrypto = s.payloadCrypto
  /-- No one else touches stdin while the lock is held. -/
  held : s.stdinMu = some g → s'.stdinMu = some g ∧
    payloads .stdin s'.wire = payloads .stdin s.wire ∧ s'.encrypted = s.encrypted

/-- The contract of the writers of a client session. -/
def stdinContract : Contract ClientWriter ClientRuntime where
  allow _ _ := True
  inv := ClientRuntime.InputSealed
  rely := StdinRely
  rely_refl _ _ := ⟨rfl, fun h => ⟨h, rfl, rfl⟩⟩
  rely_trans h h' := by
    refine ⟨h'.payloadCrypto.trans h.payloadCrypto, fun hs => ?_⟩
    obtain ⟨hheld, hwire, hcalls⟩ := h.held hs
    obtain ⟨hheld', hwire', hcalls'⟩ := h'.held hheld
    exact ⟨hheld', hwire'.trans hwire, hcalls'.trans hcalls⟩

/-- The step writes no payload and leaves `stdinMu` alone. -/
structure StdinNeutral (s s' : ClientRuntime) : Prop where
  payloadCrypto : s'.payloadCrypto = s.payloadCrypto
  stdinMu : s'.stdinMu = s.stdinMu
  payloads : ∀ t, payloads t s'.wire = payloads t s.wire
  encrypted : s'.encrypted = s.encrypted

namespace StdinNeutral

variable {s s' : ClientRuntime} {g : ClientWriter}

theorem refl (s : ClientRuntime) : StdinNeutral s s := ⟨rfl, rfl, fun _ => rfl, rfl⟩

theorem keeps (hinv : stdinContract.inv s) (h : StdinNeutral s s') :
    stdinContract.Keeps g s s' := by
  refine ⟨⟨fun henc => ?_, fun t ht => (h.payloads t).trans (hinv.others t ht)⟩, fun u _ => ?_⟩
  · rw [ClientRuntime.Encrypts, h.payloadCrypto] at henc
    have hsealed := hinv.stdin henc
    rwa [Enciphered, h.payloads, h.encrypted]
  · exact ⟨h.payloadCrypto, fun hs => ⟨h.stdinMu.trans hs, h.payloads _, h.encrypted⟩⟩

end StdinNeutral

namespace RuntimeProg

open Program

variable {g : ClientWriter} {m : Message}

/-- The message carries no payload of a stream. -/
def NoPayload (m : Message) : Prop := ∀ t, m.payloadOf t = none

theorem external_neutral (α : Type) : (external α).Respects StdinNeutral :=
  .receive StdinNeutral.refl _

theorem inspect_neutral {α : Type} (f : ClientRuntime → α) : (inspect f).Respects StdinNeutral :=
  .inspect StdinNeutral.refl f

theorem lockWriteMu_neutral : (lockWriteMu g).Respects StdinNeutral := by
  refine .choose fun s i b s' h => ?_
  split at h
  · cases h
    exact ⟨rfl, rfl, fun _ => rfl, rfl⟩
  · cases h

theorem tryLockWriteMu_neutral : (tryLockWriteMu g).Respects StdinNeutral := by
  refine .atomic fun s => ?_
  split
  · exact ⟨rfl, rfl, fun _ => rfl, rfl⟩
  · exact .refl s

theorem unlockWriteMu_neutral : unlockWriteMu.Respects StdinNeutral :=
  .atomic fun _ => ⟨rfl, rfl, fun _ => rfl, rfl⟩

theorem closeConn_neutral : closeConn.Respects StdinNeutral :=
  .atomic fun _ => ⟨rfl, rfl, fun _ => rfl, rfl⟩

theorem connWrite_neutral (hm : NoPayload m) : (choose (connWrite m)).Respects StdinNeutral := by
  have hpush : ∀ s : ClientRuntime, StdinNeutral s { s with wire := s.wire ++ [m] } :=
    fun s => ⟨rfl, rfl, fun t => payloads_of_none s.wire (hm t), rfl⟩
  refine .choose fun s i r s' h => ?_
  rcases i with _ | ⟨_ | _, err⟩ <;> cases h
  · exact hpush s
  · exact .refl s
  · exact hpush s

theorem writeMessage_neutral (hm : NoPayload m) : (writeMessage g m).Respects StdinNeutral := by
  refine .bind (external_neutral Unit) fun r => ?_
  rcases r with err | ⟨⟩
  · exact .pure _
  · refine .bind lockWriteMu_neutral fun _ => .bind (.bind (inspect_neutral _) fun closing => ?_)
      fun r => .bind unlockWriteMu_neutral fun _ => .pure _
    cases closing
    · exact connWrite_neutral hm
    · exact .pure _

theorem writeStdinMessage_neutral (hm : NoPayload m) :
    (writeStdinMessage g m).Respects StdinNeutral := by
  refine .bind (writeMessage_neutral hm) fun r => ?_
  rcases r with err | ⟨⟩
  · refine .bind (.receive StdinNeutral.refl _) fun closed => ?_
    cases closed <;> exact .pure _
  · exact .pure _

theorem requestTermination_neutral : (requestTermination g).Respects StdinNeutral := by
  have hlocked : writeTerminationLocked.Respects StdinNeutral := by
    refine .bind (inspect_neutral _) fun closing => ?_
    cases closing
    · refine .bind (external_neutral Unit) fun r => ?_
      rcases r with err | ⟨⟩
      · exact .pure _
      · refine .bind (external_neutral Unit) fun r => ?_
        rcases r with err | ⟨⟩
        · exact .pure _
        · refine .bind (connWrite_neutral fun t => payloadOf_of_not_data rfl t) fun r => ?_
          rcases r with err | ⟨⟩
          · exact .bind (.receive StdinNeutral.refl _) fun _ => .pure _
          · exact .pure _
    · exact .pure _
  refine .bind (inspect_neutral _) fun able => ?_
  cases able
  · exact .pure _
  · refine .bind (inspect_neutral _) fun done => ?_
    cases done
    · refine .bind (external_neutral Unit) fun r => ?_
      rcases r with err | ⟨⟩
      · exact .pure _
      · refine .bind tryLockWriteMu_neutral fun locked => ?_
        cases locked
        · exact .pure _
        · exact .bind hlocked fun r => .bind unlockWriteMu_neutral fun _ => .pure _
    · exact external_neutral Unit

theorem requestClose_neutral (err : Option Error) (sendError : Bool) :
    (requestClose g err sendError).Respects StdinNeutral := by
  have hsend : ∀ err, (sendClientError g err).Respects StdinNeutral := by
    intro err
    refine .bind (external_neutral Unit) fun r => ?_
    rcases r with err | ⟨⟩
    · exact .pure _
    · refine .bind tryLockWriteMu_neutral fun locked => ?_
      cases locked
      · exact .pure _
      · refine .bind (.bind (external_neutral Unit) fun r => ?_) fun r =>
          .bind unlockWriteMu_neutral fun _ => .pure _
        rcases r with err | ⟨⟩
        · exact .pure _
        · exact connWrite_neutral fun t => payloadOf_of_not_data rfl t
  refine .bind (.atomic fun _ => ⟨rfl, rfl, fun _ => rfl, rfl⟩) fun again => ?_
  cases again
  · cases sendError
    · exact closeConn_neutral
    · exact .bind (hsend _) fun _ => closeConn_neutral
  · exact .pure _

theorem disconnect_neutral : (disconnect g).Respects StdinNeutral := by
  refine .bind (external_neutral Unit) fun r => ?_
  rcases r with err | ⟨⟩
  · exact .pure _
  · refine .bind (external_neutral Unit) fun r => ?_
    rcases r with err | ⟨⟩
    · exact requestClose_neutral _ _
    · refine .bind tryLockWriteMu_neutral fun locked => ?_
      cases locked
      · exact requestClose_neutral _ _
      · exact .bind closeConn_neutral fun _ => .bind unlockWriteMu_neutral fun _ =>
          requestClose_neutral _ _

theorem heartbeatLoop_neutral : heartbeatLoop.Respects StdinNeutral := by
  refine .bind (.receive StdinNeutral.refl _) fun done => ?_
  cases done
  · refine .bind (inspect_neutral _) fun closing => ?_
    cases closing
    · refine .bind (writeMessage_neutral fun t => payloadOf_of_not_data rfl t) fun r => ?_
      rcases r with err | ⟨⟩ <;> exact .pure _
    · exact .pure _
  · exact .pure _

theorem finalize_neutral : finalize.Respects StdinNeutral :=
  .bind closeConn_neutral fun _ =>
    .bind (.atomic fun _ => ⟨rfl, rfl, fun _ => rfl, rfl⟩) fun _ => .pure _

theorem neutral_triple {α : Type} {p : RuntimeProg α} (hp : p.Respects StdinNeutral) :
    stdinContract.Triple g (fun _ => True) p fun _ _ => True :=
  .of_respects hp Contract.stable_const fun _ _ hinv _ h => ⟨h.keeps hinv, trivial⟩

theorem held_stable : stdinContract.Stable g fun s => s.stdinMu = some g :=
  fun _ _ hrely _ hs => (hrely.held hs).1

theorem held_triple {α : Type} {p : RuntimeProg α} (hp : p.Respects StdinNeutral) :
    stdinContract.Triple g (fun s => s.stdinMu = some g) p fun _ s => s.stdinMu = some g :=
  .of_respects hp held_stable fun _ _ hinv hs h => ⟨h.keeps hinv, h.stdinMu.trans hs⟩

/-- What runs under `stdinMu` holds it to the end. -/
theorem withStdinMu_triple {p : RuntimeProg Result}
    (hp : stdinContract.Triple g (fun s => s.stdinMu = some g) p fun _ s => s.stdinMu = some g) :
    stdinContract.Triple g (fun _ => True)
      (do
        lockStdinMu g
        let result ← p
        unlockStdinMu
        return result) fun _ _ => True := by
  have hlock : stdinContract.Triple g (fun _ => True) (lockStdinMu g)
      fun _ s => s.stdinMu = some g := by
    refine .choose Contract.stable_const fun s i b s' hinv _ h _ => ?_
    split at h
    case isTrue hfree =>
      cases h
      refine ⟨⟨⟨hinv.stdin, hinv.others⟩, fun u _ => ⟨rfl, fun hs => ?_⟩⟩, rfl⟩
      cases hfree.symm.trans hs
    case isFalse => cases h
  have hunlock : stdinContract.Triple g (fun s => s.stdinMu = some g) unlockStdinMu
      fun _ _ => True := by
    refine .atomic held_stable fun s hinv hs _ => ⟨⟨⟨hinv.stdin, hinv.others⟩, ?_⟩, trivial⟩
    intro u hu
    refine ⟨rfl, fun hs' => absurd ?_ hu⟩
    exact (Option.some.inj (hs.symm.trans hs')).symm
  refine .bind hlock fun _ => .bind hp fun r => .bind hunlock fun _ => ?_
  exact .pure fun _ _ => trivial

/-- What the holder of `stdinMu` knows of the message it is about to write. -/
structure Writable (g : ClientWriter) (m : Message) (s : ClientRuntime) : Prop where
  held : s.stdinMu = some g
  stream : ∀ u, u ≠ .stdin → m.payloadOf u = none
  outstanding : s.Encrypts → ∃ payload,
    m = .data (some ⟨.stdin, .encryptedData payload⟩) ∧
      Outstanding .stdin payload s.wire s.encrypted

theorem writable_stable : stdinContract.Stable g (Writable g m) := by
  intro s s' hrely _ hs
  obtain ⟨hheld, hwire, hcalls⟩ := hrely.held hs.held
  refine ⟨hheld, hs.stream, fun henc => ?_⟩
  rw [ClientRuntime.Encrypts, hrely.payloadCrypto] at henc
  obtain ⟨payload, hm, hout⟩ := hs.outstanding henc
  exact ⟨payload, hm, by rwa [Outstanding, hwire, hcalls]⟩

theorem Writable.of_neutral {s s' : ClientRuntime} (h : StdinNeutral s s')
    (hs : Writable g m s) : Writable g m s' := by
  refine ⟨h.stdinMu.trans hs.held, hs.stream, fun henc => ?_⟩
  rw [ClientRuntime.Encrypts, h.payloadCrypto] at henc
  obtain ⟨payload, hm, hout⟩ := hs.outstanding henc
  exact ⟨payload, hm, by rwa [Outstanding, h.payloads, h.encrypted]⟩

theorem Writable.push {s : ClientRuntime} (hinv : stdinContract.inv s) (hs : Writable g m s) :
    stdinContract.Keeps g s { s with wire := s.wire ++ [m] } := by
  refine ⟨⟨fun henc => ?_, fun t ht => ?_⟩, fun u hu => ⟨rfl, fun hu' => absurd ?_ hu⟩⟩
  · obtain ⟨payload, rfl, hout⟩ := hs.outstanding henc
    exact hout.write
  · exact (payloads_of_none s.wire (hs.stream t ht)).trans (hinv.others t ht)
  · exact (Option.some.inj (hs.held.symm.trans hu')).symm

theorem writeStdinMessage_seal :
    stdinContract.Triple g (Writable g m) (writeStdinMessage g m)
      fun _ s => s.stdinMu = some g := by
  have hquiet : ∀ {α : Type} {p : RuntimeProg α}, p.Respects StdinNeutral →
      stdinContract.Triple g (Writable g m) p fun _ => Writable g m :=
    fun hp => .of_respects hp writable_stable fun _ _ hinv hs h =>
      ⟨h.keeps hinv, hs.of_neutral h⟩
  have hconn : stdinContract.Triple g (Writable g m) (choose (connWrite m))
      fun _ s => s.stdinMu = some g := by
    refine .choose writable_stable fun s i r s' hinv hs hstep _ => ?_
    rcases i with _ | ⟨_ | _, err⟩ <;> cases hstep
    · exact ⟨hs.push hinv, hs.held⟩
    · exact ⟨.refl hinv, hs.held⟩
    · exact ⟨hs.push hinv, hs.held⟩
  have hwrite : stdinContract.Triple g (Writable g m) (writeMessage g m)
      fun _ s => s.stdinMu = some g := by
    refine .bind (hquiet (external_neutral Unit)) fun r => ?_
    rcases r with err | ⟨⟩
    · exact .pure fun _ hs => hs.held
    · refine .bind (hquiet lockWriteMu_neutral) fun _ => ?_
      refine .bind (.bind (hquiet (inspect_neutral _)) fun closing => ?_) fun r =>
        .bind (held_triple unlockWriteMu_neutral) fun _ => .pure fun _ hs => hs
      cases closing
      · exact hconn
      · exact .pure fun _ hs => hs.held
  refine .bind hwrite fun r => ?_
  rcases r with err | ⟨⟩
  · refine .bind (held_triple (.receive StdinNeutral.refl _)) fun closed => ?_
    cases closed <;> exact .pure fun _ hs => hs
  · exact .pure fun _ hs => hs

/-- Input becomes a message that may be written. -/
theorem stdinDataMessage_seal (data : Bytes) :
    stdinContract.Triple g (fun s => s.stdinMu = some g) (stdinDataMessage data)
      fun r s => s.stdinMu = some g ∧ ∀ m, r = .ok m → Writable g m s := by
  have hcrypto : stdinContract.Triple g (fun s => s.stdinMu = some g) (inspect (·.payloadCrypto))
      fun crypto s => s.stdinMu = some g ∧ s.payloadCrypto = crypto :=
    .inspect held_stable fun _ _ hs => ⟨hs, rfl⟩
  refine .bind hcrypto fun crypto => ?_
  have hstable : stdinContract.Stable g
      fun s => s.stdinMu = some g ∧ s.payloadCrypto = crypto :=
    fun _ _ hrely _ hs => ⟨(hrely.held hs.1).1, hrely.payloadCrypto.trans hs.2⟩
  have hstream : ∀ payload u, u ≠ .stdin →
      Message.payloadOf u (.data (some ⟨.stdin, payload⟩)) = none :=
    fun payload u hu => payloadOf_other (Ne.symm hu) payload
  split
  case isTrue hhook =>
    have hencrypt : stdinContract.Triple g
        (fun s => s.stdinMu = some g ∧ s.payloadCrypto = crypto) (choose (encryptStdin data))
        fun r s => s.stdinMu = some g ∧ ∀ payload, r = .ok payload →
          Writable g (.data (some ⟨.stdin, .encryptedData payload⟩)) s := by
      refine .choose hstable fun s i r s' hinv hs hstep _ => ?_
      rcases i with err | payload <;> cases hstep
      · exact ⟨.refl hinv, hs.1, nofun⟩
      · have henc : s.Encrypts := by rw [ClientRuntime.Encrypts, hs.2, hhook]
        have hout := (hinv.stdin henc).encrypt data payload
        refine ⟨⟨⟨fun _ => hout.sealed, hinv.others⟩, fun u hu => ?_⟩, hs.1, ?_⟩
        · refine ⟨rfl, fun hu' => absurd ?_ hu⟩
          exact (Option.some.inj (hs.1.symm.trans hu')).symm
        · intro payload' hok
          cases hok
          exact ⟨hs.1, hstream _, fun _ => ⟨payload, rfl, hout⟩⟩
    refine .bind hencrypt fun r => ?_
    rcases r with err | payload
    · exact .pure fun _ hs => ⟨hs.1, fun m hm => by cases hm⟩
    · refine .pure fun _ hs => ⟨hs.1, fun m hm => ?_⟩
      cases hm
      exact hs.2 payload rfl
  case isFalse hhook =>
    refine .pure fun s hs => ⟨hs.1, fun m hm => ?_⟩
    cases hm
    refine ⟨hs.1, hstream _, fun henc => absurd ?_ hhook⟩
    rwa [ClientRuntime.Encrypts, hs.2] at henc

theorem sendInput_seal (data : Bytes) :
    stdinContract.Triple g (fun _ => True) (sendInput g data) fun _ _ => True := by
  have hlocked : stdinContract.Triple g (fun s => s.stdinMu = some g) (sendInputLocked g data)
      fun _ s => s.stdinMu = some g := by
    refine .bind (held_triple (inspect_neutral _)) fun closed => ?_
    cases closed
    · refine .bind (stdinDataMessage_seal data) fun r => ?_
      rcases r with err | m
      · exact .pure fun _ hs => hs.1
      · exact writeStdinMessage_seal.strengthen fun s hs => hs.2 m rfl
    · exact .pure fun _ hs => hs
  unfold sendInput
  split
  · exact .pure fun _ _ => trivial
  · exact withStdinMu_triple hlocked

theorem sendEOF_seal : stdinContract.Triple g (fun _ => True) (sendEOF g) fun _ _ => True := by
  refine withStdinMu_triple ?_
  refine .bind (held_triple (.atomic fun _ => ⟨rfl, rfl, fun _ => rfl, rfl⟩)) fun closed => ?_
  cases closed
  · exact held_triple (writeStdinMessage_neutral fun t => payloadOf_eos t .stdin)
  · exact .pure fun _ hs => hs

theorem perform_seal (call : Call) :
    stdinContract.Triple g (fun _ => True) (perform g call) fun _ _ => True := by
  cases call with
  | sendInput data => exact .bind (sendInput_seal data) fun _ => .pure fun _ _ => trivial
  | sendText text =>
    refine .bind (?_ : stdinContract.Triple g (fun _ => True) (sendText g text) fun _ _ => True)
      fun _ => .pure fun _ _ => trivial
    unfold sendText
    split
    · exact .pure fun _ _ => trivial
    · exact sendInput_seal _
  | sendEOF => exact .bind sendEOF_seal fun _ => .pure fun _ _ => trivial
  | resize rows cols =>
    refine .bind (neutral_triple ?_) fun _ => .pure fun _ _ => trivial
    unfold resize
    split
    · exact .pure _
    · exact writeMessage_neutral fun t => payloadOf_of_not_data rfl t
  | requestTermination =>
    exact .bind (neutral_triple requestTermination_neutral) fun _ => .pure fun _ _ => trivial
  | close | closeWithError => exact neutral_triple (requestClose_neutral _ _)
  | disconnect => exact neutral_triple disconnect_neutral

theorem body_seal (g : ClientWriter) :
    stdinContract.Triple g (fun _ => True) (body g) fun _ _ => True := by
  cases g with
  | caller n =>
    refine .bind (neutral_triple (.receive StdinNeutral.refl _)) fun call => ?_
    exact .bind (perform_seal call) fun _ => .pure fun _ _ => trivial
  | heartbeatLoop => exact neutral_triple heartbeatLoop_neutral
  | run => exact neutral_triple finalize_neutral

end RuntimeProg

theorem client_stdin_sound (crypto : Option PayloadCrypto) (canTerminate : Bool) :
    stdinContract.Sound clientInputSystem (fun _ _ => True)
      (newClientRuntime crypto canTerminate) where
  inv_start := ⟨fun _ => List.nil_sublist _, fun _ _ => rfl⟩
  loop_start _ := trivial
  loop_stable _ := Contract.stable_const
  body g := (RuntimeProg.body_seal g).weaken fun _ _ _ _ => trivial
  abort _ h := by cases h

/-- The output of a server session and the input of a client session leave encrypted wherever
there is a hook: each payload on the connection was returned by a successful encryption, and
the hooks of a server session are in place before its output readers start. -/
theorem outbound_confidential {K : Type} (P : Primitives K) (cfg : ServerConfig)
    (platform : Prog.Platform) (sessionID transport : String) (crypto : Option PayloadCrypto)
    (canTerminate : Bool) : (∀ c, (sessionSystem P cfg platform).Reach (fun _ _ => True)
        (newSession cfg sessionID transport) c → c.state.OutputSealed ∧
          (∀ t, .reader t ∈ c.state.started → c.state.cmd = true) ∧
          (c.state.cmd = false → ∀ t, payloads t c.state.wire = []) ∧
          ∀ c', (sessionSystem P cfg platform).Runs (fun _ _ => True) c c' →
            c.state.cmd = true → c'.state.payloadCrypto = c.state.payloadCrypto) ∧
      ∀ c, clientInputSystem.Reach (fun _ _ => True) (newClientRuntime crypto canTerminate) c →
        c.state.InputSealed := by
  refine ⟨fun c hreach => ?_, fun c hreach => ?_⟩
  · have hsound := session_seal_sound P cfg platform sessionID transport
    have hinv : SealInv c.state := hsound.inv_of_reach hreach
    refine ⟨hinv.sealed, fun t ht => hinv.started _ ht, hinv.unopened, fun c' hrun hcmd => ?_⟩
    have hbystander : ∀ g : Goroutine, ∃ u, u ≠ g ∧ ∀ s s', sealContract.rely u s s' →
        (s.cmd = true ∧ s.payloadCrypto = c.state.payloadCrypto) →
        s'.cmd = true ∧ s'.payloadCrypto = c.state.payloadCrypto := by
      intro g
      have hkept : ∀ u s s', sealContract.rely u s s' →
          (s.cmd = true ∧ s.payloadCrypto = c.state.payloadCrypto) →
          s'.cmd = true ∧ s'.payloadCrypto = c.state.payloadCrypto :=
        fun u s s' h hs => ⟨(h.installed hs.1).1, (h.installed hs.1).2.trans hs.2⟩
      by_cases hg : g = .readLoop
      · exact ⟨.shutdown, by simp [hg], hkept _⟩
      · exact ⟨.readLoop, fun h => hg h.symm, hkept _⟩
    exact (hsound.runs hbystander (fun _ _ _ h => by cases h) hreach hrun ⟨hcmd, rfl⟩).2.2
  · exact (client_stdin_sound crypto canTerminate).inv_of_reach hreach

/-- What an encrypt hook returned. -/
def sampleCiphertext : EncryptedPayload := ⟨[9], 1, none⟩

/-- A shell prints a byte and the caller types one; both leave encrypted. -/
theorem outbound_confidential_shell :
    (∃ c, (sessionSystem samplePrimitives sampleServer .linux).Reach (fun _ _ => True)
      (newSession sampleServer "session" "websocket") c ∧
      payloads .stdout c.state.wire = [.encryptedData (some sampleCiphertext)] ∧ c.state.OutputSealed) ∧
    ∃ c, clientInputSystem.Reach (fun _ _ => True)
      (newClientRuntime (some ⟨true, true, true, true, true, true⟩) false) c ∧
      payloads .stdin c.state.wire = [.encryptedData (some sampleCiphertext)] ∧ c.state.InputSealed := by
  have hclaim := outbound_confidential samplePrimitives sampleServer .linux "session" "websocket"
    (some ⟨true, true, true, true, true, true⟩) false
  have hserver := Prog.openedSession_reach (fun _ _ _ => trivial)
      ⟨true, true, true, true, true, true⟩ .linux (fun _ _ => trivial)
    |>.act .waitLoop () rfl rfl trivial
    |>.act .waitLoop () rfl rfl trivial
    |>.act .waitLoop () rfl rfl trivial
    |>.act .stdoutLoop () rfl rfl trivial
    |>.act .stdoutLoop ([104], (none : Option Prog.ReadError)) rfl rfl trivial
    |>.act .stdoutLoop () rfl rfl trivial
    |>.act .stdoutLoop () rfl rfl trivial
    |>.act .stdoutLoop (Except.ok (some sampleCiphertext) : Except Error _) rfl rfl trivial
    |>.act .stdoutLoop (Except.ok () : Result) rfl rfl trivial
    |>.act .stdoutLoop () rfl rfl trivial
    |>.act .stdoutLoop () rfl rfl trivial
    |>.act .stdoutLoop Prog.WriteOutcome.written rfl rfl trivial
  have hclient := (System.Reach.start : clientInputSystem.Reach (fun _ _ => True)
      (newClientRuntime (some ⟨true, true, true, true, true, true⟩) false) _)
    |>.act (.caller 0) (RuntimeProg.Call.sendInput [104]) rfl rfl trivial
    |>.act (.caller 0) () rfl rfl trivial
    |>.act (.caller 0) () rfl rfl trivial
    |>.act (.caller 0) () rfl rfl trivial
    |>.act (.caller 0) (Except.ok (some sampleCiphertext) : Except Error _) rfl rfl trivial
    |>.act (.caller 0) (Except.ok () : Result) rfl rfl trivial
    |>.act (.caller 0) () rfl rfl trivial
    |>.act (.caller 0) () rfl rfl trivial
    |>.act (.caller 0) Prog.WriteOutcome.written rfl rfl trivial
  exact ⟨⟨_, hserver, rfl, (hclaim.1 _ hserver).1⟩, ⟨_, hclient, rfl, hclaim.2 _ hclient⟩⟩

end Rstream.WebTTY
