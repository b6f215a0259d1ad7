import Rstream.WebTTY.RequestRules
import Rstream.WebTTY.SessionRuns

/-!
# Confidentiality of the output streams

Where a session has an encrypt hook for an output stream, every payload of the stream on
the connection was returned by the hook, in the order of the calls. One goroutine reads
and sends a stream. The hooks are installed together with the process, before its readers
start, and do not change afterwards.
-/

namespace Rstream.WebTTY

open Rstream.Core Contract

variable {calls : List EncryptCall} {t : DataType}

/-- The payload a message carries for a stream, unless it is the end of the stream. -/
def Message.payloadOf (t : DataType) : Message → Option DataPayload
  | .data (some d) => if d.type = t ∧ d.payload ≠ .eos then some d.payload else Option.none
  | _ => Option.none

/-- The payloads of a stream that were written, in order. -/
def payloads (t : DataType) (wire : List Message) : List DataPayload :=
  wire.filterMap (Message.payloadOf t)

/-- The payloads the encrypt hook of a stream returned, in order. -/
def ciphertexts (t : DataType) (calls : List EncryptCall) : List DataPayload :=
  (calls.filter fun call => call.type = t).map fun call => .encryptedData call.payload

/-- What was written of a stream was returned by its encrypt hook. -/
def Enciphered (t : DataType) (wire : List Message) (calls : List EncryptCall) : Prop :=
  (payloads t wire).Sublist (ciphertexts t calls)

theorem payloads_snoc (t : DataType) (wire : List Message) (m : Message) :
    payloads t (wire ++ [m]) = payloads t wire ++ (m.payloadOf t).toList := by
  rw [payloads, List.filterMap_append]
  cases h : m.payloadOf t <;> simp [payloads, h]

variable {m : Message}

theorem payloads_of_none (wire : List Message)
    (h : m.payloadOf t = none) : payloads t (wire ++ [m]) = payloads t wire := by
  simp [payloads_snoc, h]

theorem payloadOf_of_not_data (h : m.isData = false) (t : DataType) : m.payloadOf t = none := by
  cases m <;> first | rfl | cases h

theorem payloadOf_eos (t u : DataType) : Message.payloadOf t (.data (some ⟨u, .eos⟩)) = none := by
  simp [Message.payloadOf]

/-- A payload belongs to one stream. -/
theorem payloadOf_other {u : DataType} (h : u ≠ t) (payload : DataPayload) :
    Message.payloadOf t (.data (some ⟨u, payload⟩)) = none := by
  simp [Message.payloadOf, h]

theorem payloadOf_encrypted (t : DataType) (payload : Option EncryptedPayload) :
    Message.payloadOf t (.data (some ⟨t, .encryptedData payload⟩)) =
      some (.encryptedData payload) := by
  simp [Message.payloadOf]

theorem ciphertexts_snoc (t : DataType) (calls : List EncryptCall) (chunk : Bytes)
    (payload : Option EncryptedPayload) :
    ciphertexts t (calls ++ [⟨t, chunk, payload⟩]) =
      ciphertexts t calls ++ [.encryptedData payload] := by
  simp [ciphertexts]

theorem ciphertexts_other {u : DataType} (h : u ≠ t) (calls : List EncryptCall)
    (chunk : Bytes) (payload : Option EncryptedPayload) :
    ciphertexts t (calls ++ [⟨u, chunk, payload⟩]) = ciphertexts t calls := by
  simp [ciphertexts, h]

/-- The last encryption of a stream has not been written yet. -/
def Outstanding (t : DataType) (payload : Option EncryptedPayload) (wire : List Message)
    (calls : List EncryptCall) : Prop :=
  (payloads t wire ++ [DataPayload.encryptedData payload]).Sublist (ciphertexts t calls)

variable {wire : List Message}

/-- An encryption makes its payload outstanding. -/
theorem Enciphered.encrypt
    (h : Enciphered t wire calls) (chunk : Bytes) (payload : Option EncryptedPayload) :
    Outstanding t payload wire (calls ++ [⟨t, chunk, payload⟩]) := by
  rw [Outstanding, ciphertexts_snoc]
  exact h.append (List.Sublist.refl _)

theorem Outstanding.sealed {payload : Option EncryptedPayload}
    (h : Outstanding t payload wire calls) : Enciphered t wire calls :=
  (List.sublist_append_left _ _).trans h

theorem Outstanding.write {payload : Option EncryptedPayload}
    (h : Outstanding t payload wire calls) :
    Enciphered t (wire ++ [.data (some ⟨t, .encryptedData payload⟩)]) calls := by
  rw [Enciphered, payloads_snoc, payloadOf_encrypted]
  exact h

/-- Where a session encrypts a stream, what it wrote of the stream is sealed. -/
def Session.OutputSealed (s : Session) : Prop :=
  ∀ t, Prog.encryptHook s.payloadCrypto t = true → Enciphered t s.wire s.encrypted

/-- The invariant of the output streams. -/
structure SealInv (s : Session) : Prop where
  /-- The goroutines of a process run only when there is one. -/
  started : ∀ g ∈ s.started, s.cmd = true
  /-- Nothing is sent before the process and its hooks are installed. -/
  unopened : s.cmd = false → ∀ t, payloads t s.wire = []
  sealed : s.OutputSealed

/-- What a goroutine relies on about the others. -/
structure SealRely (g : Goroutine) (s s' : Session) : Prop where
  installed : s.cmd = true → s'.cmd = true ∧ s'.payloadCrypto = s.payloadCrypto
  /-- Only the read loop installs a process. -/
  opener : g = .readLoop → s'.cmd = s.cmd
  /-- Only its reader encrypts and sends a stream. -/
  reader : ∀ t, g.stream = some t → payloads t s'.wire = payloads t s.wire ∧
    ciphertexts t s'.encrypted = ciphertexts t s.encrypted

/-- The contract of a session on its output streams. -/
def sealContract : Contract Goroutine Session where
  allow _ _ := True
  inv := SealInv
  rely := SealRely
  rely_refl _ _ := ⟨fun h => ⟨h, rfl⟩, fun _ => rfl, fun _ _ => ⟨rfl, rfl⟩⟩
  rely_trans h h' := by
    refine ⟨fun hs => ?_, fun hg => (h'.opener hg).trans (h.opener hg), fun t ht => ?_⟩
    · obtain ⟨hcmd, hcrypto⟩ := h.installed hs
      exact ⟨(h'.installed hcmd).1, (h'.installed hcmd).2.trans hcrypto⟩
    · exact ⟨(h'.reader t ht).1.trans (h.reader t ht).1, (h'.reader t ht).2.trans (h.reader t ht).2⟩

/-- The step sends no output and does not touch the hooks. -/
structure OutputStep (s s' : Session) : Prop where
  cmd : s'.cmd = s.cmd
  payloadCrypto : s'.payloadCrypto = s.payloadCrypto
  payloads : ∀ t, payloads t s'.wire = payloads t s.wire
  encrypted : s'.encrypted = s.encrypted

/-- The step also starts goroutines only for a process. -/
structure OutputNeutral (s s' : Session) : Prop extends OutputStep s s' where
  started : ∀ g ∈ s'.started, g ∈ s.started ∨ s.cmd = true

namespace OutputStep

variable {s s' : Session} {g : Goroutine}

theorem refl (s : Session) : OutputStep s s := ⟨rfl, rfl, fun _ => rfl, rfl⟩

theorem rely (h : OutputStep s s') (g : Goroutine) : SealRely g s s' where
  installed hs := ⟨h.cmd.trans hs, h.payloadCrypto⟩
  opener _ := h.cmd
  reader t _ := ⟨h.payloads t, by rw [h.encrypted]⟩

theorem inv (h : OutputStep s s') (hinv : SealInv s)
    (hstarted : ∀ u ∈ s'.started, s'.cmd = true) : SealInv s' where
  started := hstarted
  unopened hcmd t := (h.payloads t).trans (hinv.unopened (h.cmd.symm.trans hcmd) t)
  sealed t ht := by
    rw [h.payloadCrypto] at ht
    have hsealed := hinv.sealed t ht
    rwa [Enciphered, h.payloads t, h.encrypted]

/-- While a process is open its goroutines may be started. -/
theorem keeps_of_cmd (h : OutputStep s s') (hinv : sealContract.inv s) (hcmd : s.cmd = true) :
    sealContract.Keeps g s s' :=
  ⟨h.inv hinv fun _ _ => h.cmd.trans hcmd, fun u _ => h.rely u⟩

end OutputStep

namespace OutputNeutral

variable {s s' : Session} {g : Goroutine}

theorem refl (s : Session) : OutputNeutral s s := ⟨.refl s, fun _ h => .inl h⟩

theorem keeps (hinv : sealContract.inv s) (h : OutputNeutral s s') : sealContract.Keeps g s s' := by
  refine ⟨h.inv hinv fun u hu => ?_, fun u _ => h.rely u⟩
  rw [h.cmd]
  exact (h.started u hu).elim (hinv.started u) id

/-- A goroutine may be started for a process. -/
theorem startLoop (h : OutputNeutral s s') (u : Goroutine) (hcmd : s.cmd = true) :
    OutputNeutral s (s'.startLoopLocked u) :=
  ⟨⟨h.cmd, h.payloadCrypto, h.payloads, h.encrypted⟩, fun _ _ => .inr hcmd⟩

end OutputNeutral

/-- A message that is no data leaves the streams alone. -/
theorem OutputNeutral.push (s : Session) (h : m.isData = false) : OutputNeutral s (s.push m) := by
  refine ⟨⟨rfl, rfl, fun t => ?_, rfl⟩, fun _ hu => .inl hu⟩
  exact payloads_of_none s.wire (payloadOf_of_not_data h t)

/-- Everything but an open request leaves the output alone. -/
theorem sealServing : Serving OutputNeutral where
  refl := .refl
  close _ := ⟨⟨rfl, rfl, fun _ => rfl, rfl⟩, fun _ h => .inl h⟩
  writeMu _ _ := ⟨⟨rfl, rfl, fun _ => rfl, rfl⟩, fun _ h => .inl h⟩
  client _ _ := ⟨⟨rfl, rfl, fun _ => rfl, rfl⟩, fun _ h => .inl h⟩
  deliver _ _ := ⟨⟨rfl, rfl, fun _ => rfl, rfl⟩, fun _ h => .inl h⟩
  identity _ _ := ⟨⟨rfl, rfl, fun _ => rfl, rfl⟩, fun _ h => .inl h⟩
  reading _ _ := ⟨⟨rfl, rfl, fun _ => rfl, rfl⟩, fun _ h => .inl h⟩
  push s _ hdata _ := .push s hdata
  takeInput s payload := by
    unfold Session.takeInput
    split
    · exact .refl s
    · simp only
      split
      · exact ⟨⟨rfl, rfl, fun _ => rfl, rfl⟩, fun _ h => .inl h⟩
      · exact .refl s
  input _ _ := ⟨⟨rfl, rfl, fun _ => rfl, rfl⟩, fun _ h => .inl h⟩
  dropStdin _ := ⟨⟨rfl, rfl, fun _ => rfl, rfl⟩, fun _ h => .inl h⟩
  handleTerminate s := by
    unfold Session.handleTerminate
    split
    case isTrue => exact .refl s
    case isFalse hopen =>
      have hcmd : s.cmd = true := by simp_all
      repeat' split
      · exact .refl s
      · exact .refl s
      · exact ⟨⟨rfl, rfl, fun _ => rfl, rfl⟩, fun _ _ => .inr hcmd⟩

theorem sealQuiet : Quiet OutputNeutral := (sealServing).toQuiet

/-- The waiter and the heartbeat leave the output alone. -/
theorem sealWaiting : Waiting OutputStep where
  refl := .refl
  close _ := ⟨rfl, rfl, fun _ => rfl, rfl⟩
  writeMu _ _ := ⟨rfl, rfl, fun _ => rfl, rfl⟩
  client _ _ := ⟨rfl, rfl, fun _ => rfl, rfl⟩
  disconnecting _ := ⟨rfl, rfl, fun _ => rfl, rfl⟩
  push s _ hdata := (OutputNeutral.push s hdata).toOutputStep
  childExit s code := by
    unfold Session.childExit
    split
    · exact .refl s
    · simp only
      split <;> exact ⟨rfl, rfl, fun _ => rfl, rfl⟩
  startPipeReaders _ := ⟨rfl, rfl, fun _ => rfl, rfl⟩

theorem OutputStep.beginStream (s : Session) (t : DataType) (eos : Bool) :
    OutputStep s (s.beginStream t eos).2 := by
  unfold Session.beginStream
  repeat' split
  all_goals exact ⟨rfl, rfl, fun _ => rfl, rfl⟩

theorem OutputStep.endStream (s : Session) (t : DataType) : OutputStep s (s.endStream t).2 := by
  unfold Session.endStream
  cases s.streamsOpen <;> simp only <;> split <;> exact ⟨rfl, rfl, fun _ => rfl, rfl⟩

/-- What the read loop knows: nothing beyond the invariant. -/
theorem sealSpec : ReadLoopSpec sealContract OutputNeutral (fun _ => True)
    fun _ _ => True where
  receiving := (sealServing).toReceiving
  keeps := OutputNeutral.keeps
  idle_kept _ _ := trivial
  idle_stable := stable_const
  asked_kept _ _ := trivial
  asked_stable _ := stable_const
  asked_idle _ := trivial
  deliver _ _ _ := trivial

namespace Prog

open Program

variable {K : Type} {P : Primitives K} {cfg : ServerConfig} {platform : Platform}
  {g : Goroutine} {t : DataType}

/-- Whether a process is installed is left to the read loop. -/
theorem cmd_stable (b : Bool) : sealContract.Stable .readLoop fun s => s.cmd = b :=
  fun _ _ hrely _ hs => (hrely.opener rfl).trans hs

theorem installed_stable : sealContract.Stable g fun s => s.cmd = true :=
  fun _ _ hrely _ hs => (hrely.installed hs).1

theorem cmd_triple {α : Type} {p : Prog α} (b : Bool) (hp : p.Respects OutputNeutral) :
    sealContract.Triple .readLoop (fun s => s.cmd = b) p fun _ s => s.cmd = b :=
  .of_respects hp (cmd_stable b) fun _ _ hinv hs h => ⟨h.keeps hinv, h.cmd.trans hs⟩

/-- A program that leaves the output alone, run for an installed process. -/
theorem installed_triple {α : Type} {p : Prog α} (hp : p.Respects OutputStep) :
    sealContract.Triple g (fun s => s.cmd = true) p fun _ s => s.cmd = true :=
  .of_respects hp installed_stable fun _ _ hinv hs h =>
    ⟨h.keeps_of_cmd hinv hs, h.cmd.trans hs⟩

theorem beginOpen_seal :
    sealContract.Triple .readLoop (fun _ => True) (atomic Session.beginOpen)
      fun r s => r = .ok () → s.cmd = false := by
  refine .atomic stable_const fun s hinv _ _ => ?_
  unfold Session.beginOpen
  split
  · exact ⟨.refl hinv, nofun⟩
  · split
    case isTrue => exact ⟨.refl hinv, nofun⟩
    case isFalse hfree =>
      refine ⟨OutputNeutral.keeps hinv ?_, fun _ => by simp_all⟩
      exact ⟨⟨rfl, rfl, fun _ => rfl, rfl⟩, fun _ h => .inl h⟩

/-- The hooks are installed before anything was sent. -/
theorem installOpen_seal (r : OpenResources) :
    sealContract.Triple .readLoop (fun s => s.cmd = false) (atomic (Session.installOpen r))
      fun result s => result = .ok () → s.cmd = true := by
  refine .atomic (cmd_stable false) fun s hinv hs _ => ?_
  unfold Session.installOpen
  split
  · refine ⟨OutputNeutral.keeps hinv ?_, nofun⟩
    exact ⟨⟨rfl, rfl, fun _ => rfl, rfl⟩, fun _ h => .inl h⟩
  · refine ⟨⟨⟨fun _ _ => rfl, nofun, fun t _ => ?_⟩, fun u hu => ?_⟩, fun _ => rfl⟩
    · rw [Enciphered, show payloads t s.wire = [] from hinv.unopened hs t]
      exact List.nil_sublist _
    · refine ⟨fun h => ?_, fun h => absurd h hu, fun _ _ => ⟨rfl, rfl⟩⟩
      rw [hs] at h
      cases h

theorem startLoops_seal (r : OpenResources) :
    sealContract.Triple .readLoop (fun s => s.cmd = true) (atomic (Session.startLoops cfg r))
      fun _ _ => True := by
  refine .atomic (cmd_stable true) fun s hinv hs _ => ⟨OutputNeutral.keeps hinv ?_, trivial⟩
  have hwait : OutputNeutral s (s.startLoopLocked .waitLoop) :=
    (OutputNeutral.refl s).startLoop _ hs
  unfold Session.startLoops
  split
  · exact .refl s
  · simp only
    split <;> split
    · exact (hwait.startLoop _ hs).startLoop _ hs
    · exact hwait.startLoop _ hs
    · exact hwait.startLoop _ hs
    · exact hwait

theorem handleOpen_seal (request : Option Open) :
    sealContract.Triple .readLoop (fun _ => True) (handleOpen P cfg request)
      fun _ _ => True := by
  refine andThen_triple beginOpen_seal (fun _ _ _ => trivial) fun _ => ?_
  refine .bind ((cmd_triple false (prepareOpen_respects sealQuiet request)).strengthen
    fun s h => h rfl) fun r => ?_
  rcases r with err | resources
  · have hreject : (do
        if ← atomic Session.failOpen then return .error err
        andThen (sendError cfg .readLoop err) fun _ => do
          startCloseHandshake
          return .ok () : Prog Result).Respects OutputNeutral := by
      refine .bind (.atomic fun _ => ⟨⟨rfl, rfl, fun _ => rfl, rfl⟩, fun _ h => .inl h⟩)
        fun closed => ?_
      cases closed
      · refine andThen_respects (sendError_respects sealQuiet (sealServing).push err)
          fun _ => ?_
        refine .bind (startCloseHandshake_respects sealQuiet fun _ => ?_) fun _ => .pure _
        exact ⟨⟨rfl, rfl, fun _ => rfl, rfl⟩, fun _ h => .inl h⟩
      · exact .pure _
    exact ((sealSpec).idle_triple hreject).strengthen fun _ _ => trivial
  · refine andThen_triple (installOpen_seal resources) (fun _ _ _ => trivial) fun _ => ?_
    refine andThen_triple ((cmd_triple true (sendAck_respects sealQuiet
      (sealServing).push)).strengthen fun s h => h rfl) (fun _ _ _ => trivial) fun _ => ?_
    exact startLoops_seal resources

/-- What a reader knows of the message it is about to send: it belongs to the stream, and
where the stream is encrypted it carries the outstanding ciphertext. -/
structure Sendable (t : DataType) (m : Message) (s : Session) : Prop where
  installed : s.cmd = true
  stream : ∀ u, u ≠ t → m.payloadOf u = none
  outstanding : encryptHook s.payloadCrypto t = true → ∃ payload,
    m = .data (some ⟨t, .encryptedData payload⟩) ∧ Outstanding t payload s.wire s.encrypted

theorem sendable_stable (ht : g.stream = some t) (m : Message) :
    sealContract.Stable g (Sendable t m) := by
  intro s s' hrely _ hs
  obtain ⟨hcmd, hcrypto⟩ := hrely.installed hs.installed
  obtain ⟨hwire, hcalls⟩ := hrely.reader t ht
  refine ⟨hcmd, hs.stream, fun hhook => ?_⟩
  rw [hcrypto] at hhook
  obtain ⟨payload, hm, hout⟩ := hs.outstanding hhook
  exact ⟨payload, hm, by rwa [Outstanding, hwire, hcalls]⟩

/-- Bookkeeping leaves the outstanding message alone. -/
theorem Sendable.of_step {s s' : Session} (h : OutputStep s s')
    (hs : Sendable t m s) : Sendable t m s' := by
  refine ⟨h.cmd.trans hs.installed, hs.stream, fun hhook => ?_⟩
  rw [h.payloadCrypto] at hhook
  obtain ⟨payload, hm, hout⟩ := hs.outstanding hhook
  exact ⟨payload, hm, by rwa [Outstanding, h.payloads, h.encrypted]⟩

/-- A reader disturbs no other reader by sending its message. -/
theorem Sendable.push {s : Session} (ht : g.stream = some t)
    (hinv : sealContract.inv s) (hs : Sendable t m s) : sealContract.Keeps g s (s.push m) := by
  have hother : ∀ u, u ≠ t → payloads u (s.push m).wire = payloads u s.wire :=
    fun u hu => payloads_of_none s.wire (hs.stream u hu)
  refine ⟨⟨hinv.started, fun hcmd => ?_, fun u hhook => ?_⟩, fun u hu => ?_⟩
  · cases hs.installed.symm.trans hcmd
  · by_cases hut : u = t
    · subst hut
      obtain ⟨payload, rfl, hout⟩ := hs.outstanding hhook
      exact hout.write
    · rw [Enciphered, hother u hut]
      exact hinv.sealed u hhook
  · refine ⟨fun h => ⟨h, rfl⟩, fun _ => rfl, fun v hv => ⟨hother v fun hvt => hu ?_, rfl⟩⟩
    subst hvt
    exact Goroutine.stream_injective hv ht

/-- A chunk becomes a message that may be sent. -/
theorem dataMessage_seal (ht : g.stream = some t) (chunk : Bytes) :
    sealContract.Triple g (fun s => s.cmd = true) (dataMessage t chunk)
      fun r s => s.cmd = true ∧ ∀ m, r = .ok m → Sendable t m s := by
  have hcrypto : sealContract.Triple g (fun s => s.cmd = true) (inspect (·.payloadCrypto))
      fun crypto s => s.cmd = true ∧ s.payloadCrypto = crypto :=
    .inspect installed_stable fun _ _ hs => ⟨hs, rfl⟩
  have hstable : ∀ crypto, sealContract.Stable g
      fun s => s.cmd = true ∧ s.payloadCrypto = crypto := by
    intro crypto s s' hrely _ hs
    obtain ⟨hcmd, hsame⟩ := hrely.installed hs.1
    exact ⟨hcmd, hsame.trans hs.2⟩
  refine .bind hcrypto fun crypto => ?_
  split
  case isTrue hhook =>
    have hencrypt : sealContract.Triple g (fun s => s.cmd = true ∧ s.payloadCrypto = crypto)
        (choose (encryptChunk t chunk)) fun r s => s.cmd = true ∧ ∀ payload, r = .ok payload →
          Sendable t (.data (some ⟨t, .encryptedData payload⟩)) s := by
      refine .choose (hstable crypto) fun s i r s' hinv hs hstep _ => ?_
      rcases i with err | payload <;> cases hstep
      · exact ⟨.refl hinv, hs.1, nofun⟩
      · have hout : Outstanding t payload s.wire (s.encrypted ++ [⟨t, chunk, payload⟩]) :=
          (hinv.sealed t (by rw [hs.2, hhook])).encrypt chunk payload
        refine ⟨⟨⟨hinv.started, hinv.unopened, fun u hu => ?_⟩, fun u hu => ?_⟩, hs.1, ?_⟩
        · by_cases hut : u = t
          · subst hut
            exact hout.sealed
          · rw [Enciphered, ciphertexts_other (Ne.symm hut)]
            exact hinv.sealed u hu
        · refine ⟨fun h => ⟨h, rfl⟩, fun _ => rfl, fun v hv => ⟨rfl, ?_⟩⟩
          refine ciphertexts_other (fun htv => hu ?_) _ _ _
          subst htv
          exact Goroutine.stream_injective hv ht
        · intro payload' hok
          cases hok
          exact ⟨hs.1, fun u hu => payloadOf_other (Ne.symm hu) _, fun _ => ⟨payload, rfl, hout⟩⟩
    refine .bind hencrypt fun r => ?_
    rcases r with err | payload
    · exact .pure fun _ hs => ⟨hs.1, fun m hm => by cases hm⟩
    · refine .pure fun _ hs => ⟨hs.1, fun m hm => ?_⟩
      cases hm
      exact hs.2 payload rfl
  case isFalse hhook =>
    refine .pure fun s hs => ⟨hs.1, fun m hm => ?_⟩
    cases hm
    refine ⟨hs.1, fun u hu => payloadOf_other (Ne.symm hu) _, fun h => absurd h ?_⟩
    rwa [hs.2]

/-- Sending a chunk puts at most its ciphertext on the wire where the stream is encrypted. -/
theorem sendData_seal (ht : (Goroutine.reader t).stream = some t) (chunk : Bytes) :
    sealContract.Triple (.reader t) (fun s => s.cmd = true) (sendData cfg t chunk)
      fun _ s => s.cmd = true := by
  refine .bind (dataMessage_seal ht chunk) fun r => ?_
  rcases r with err | m
  · exact .pure fun _ hs => hs.1
  · refine (writeMessage_triple sealQuiet OutputNeutral.keeps (sendable_stable ht m)
      (fun _ h hs => hs.of_step h.toOutputStep) (fun _ => installed_stable)
      (fun _ h hs => h.cmd.trans hs) (fun s err hs => hs.installed) fun s hinv hs => ?_).strengthen
        fun s hs => hs.2 m rfl
    exact ⟨hs.push ht hinv, fun _ => hs.installed⟩

theorem sendChunk_seal (ht : (Goroutine.reader t).stream = some t) (chunk : Bytes) :
    sealContract.Triple (.reader t) (fun s => s.cmd = true) (sendChunk cfg t chunk)
      fun _ s => s.cmd = true := by
  have hsend : sealContract.Triple (.reader t) (fun s => s.cmd = true)
      (sendData cfg t chunk >>= fun r => reportFailure r) fun _ s => s.cmd = true :=
    .bind (sendData_seal ht chunk) fun r =>
      installed_triple (reportFailure_respects (sealWaiting).toQuiet r)
  unfold sendChunk
  split
  · exact .pure fun _ hs => hs
  · refine .bind (installed_triple (.atomic fun s => .beginStream s t false)) fun turn => ?_
    cases turn
    · exact .pure fun _ hs => hs
    · exact hsend
    · exact hsend

/-- The end of a stream is no output. -/
theorem onReadError_seal (err : ReadError) :
    (onReadError cfg platform t err).Respects OutputStep := by
  have hquiet := (sealWaiting).toQuiet
  have hfinish : (finishStream cfg t).Respects OutputStep := by
    refine .bind (writeMessage_respects hquiet fun s => ?_) fun r => ?_
    · exact ⟨rfl, rfl, fun u => payloads_of_none s.wire (payloadOf_eos u t), rfl⟩
    · rcases r with err | ⟨⟩
      · exact .pure _
      · refine .bind (.atomic fun s => .endStream s t) fun last => ?_
        cases last
        · exact .pure _
        · exact doClose_respects sealWaiting
  refine .bind (.atomic fun s => .beginStream s t _) fun turn => ?_
  cases turn
  · exact .pure _
  · exact .bind hfinish fun r => .bind (reportFailure_respects hquiet r) fun _ => .pure _
  · exact reportFailure_respects hquiet (.error err.toError)

theorem copyStream_seal (ht : (Goroutine.reader t).stream = some t) :
    sealContract.Triple (.reader t) (fun s => s.cmd = true) (copyStream cfg platform t)
      fun _ s => s.cmd = true := by
  refine .bind (installed_triple (.receive (sealWaiting).refl _)) fun read => ?_
  refine .bind (sendChunk_seal ht read.1) fun again => ?_
  cases again
  · exact .pure fun _ hs => hs
  · rcases read with ⟨chunk, _ | err⟩
    · exact .pure fun _ hs => hs
    · exact installed_triple (onReadError_seal err)

/-- A goroutine that waits for its start finds a process with its hooks. -/
theorem awaitStart_seal : sealContract.Triple g (fun _ => True) (awaitStart g)
    fun _ s => s.cmd = true := by
  refine .choose stable_const fun s i b s' hinv _ h _ => ?_
  split at h
  case isTrue hg =>
    cases h
    exact ⟨.refl hinv, hinv.started g hg⟩
  case isFalse => cases h

theorem streamLoop_seal (ht : (Goroutine.reader t).stream = some t) :
    sealContract.Triple (.reader t) (fun _ => True) (streamLoop cfg platform t)
      fun _ _ => True := by
  refine .bind awaitStart_seal fun _ => .bind (copyStream_seal ht) fun again => ?_
  cases again
  · refine .bind (installed_triple (.atomic fun s => ?_)) fun _ => .pure fun _ _ => trivial
    split
    · exact .refl s
    · exact ⟨rfl, rfl, fun _ => rfl, rfl⟩
  · exact .pure fun _ _ => trivial

/-- A goroutine without a stream, once it is started. -/
theorem started_seal {rest : Unit → Prog Bool} (hp : (awaitStart g >>= rest).Respects OutputStep) :
    sealContract.Triple g (fun _ => True) (awaitStart g >>= rest) fun _ _ => True :=
  .bind awaitStart_seal fun _ => (installed_triple (hp.2 ())).weaken fun _ _ _ => trivial

theorem body_seal (P : Primitives K) (cfg : ServerConfig) (platform : Platform) (g : Goroutine) :
    sealContract.Triple g (fun _ => True) (body P cfg platform g) fun _ _ => True := by
  have hneutral : ∀ {u : Goroutine} {p : Prog Bool}, p.Respects OutputNeutral →
      sealContract.Triple u (fun _ => True) p fun _ _ => True :=
    fun hp => .of_respects hp stable_const fun _ _ hinv _ h => ⟨h.keeps hinv, trivial⟩
  cases g with
  | readLoop =>
    exact (sealSpec).readLoop_triple
      ((sealSpec).handleMessage_triple sealServing handleOpen_seal)
  | stdoutLoop => exact streamLoop_seal (t := .stdout) rfl
  | stderrLoop => exact streamLoop_seal (t := .stderr) rfl
  | waitLoop => exact started_seal (waitLoop_respects sealWaiting)
  | heartbeatLoop => exact started_seal (heartbeatLoop_respects sealWaiting)
  | terminateProcess => exact started_seal (terminateProcess_respects (sealWaiting).toQuiet)
  | openTimer => exact hneutral (onOpenTimeout_respects sealQuiet)
  | closeTimer => exact hneutral (onCloseTimeout_respects sealQuiet)
  | shutdown =>
    refine hneutral (shutdown_respects sealQuiet fun _ => ?_)
    exact ⟨⟨rfl, rfl, fun _ => rfl, rfl⟩, fun _ h => .inl h⟩

end Prog

theorem session_seal_sound {K : Type} (P : Primitives K) (cfg : ServerConfig)
    (platform : Prog.Platform) (sessionID transport : String) :
    sealContract.Sound (sessionSystem P cfg platform) (fun _ _ => True)
      (newSession cfg sessionID transport) where
  inv_start := ⟨fun g hg => by simp [newSession] at hg, fun _ _ => rfl,
    fun _ _ => List.nil_sublist _⟩
  loop_start _ := trivial
  loop_stable _ := stable_const
  body g := (Prog.body_seal P cfg platform g).weaken fun _ _ _ _ => trivial
  abort _ h := by cases h

end Rstream.WebTTY
