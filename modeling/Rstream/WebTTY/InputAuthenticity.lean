import Rstream.Core.History
import Rstream.WebTTY.RequestRules

/-!
# Authenticity of the child's input

In an end-to-end encrypted session the bytes a child process reads should all come
out of the decrypt hook. `handleData` writes a plaintext payload without looking at
the hooks, so this holds along the runs in which no plaintext input is delivered
while the child's input is open. Only the read loop touches the input.
-/

namespace Rstream.WebTTY

open Rstream.Core Contract Session

/-- Bytes reach the child only as the plaintext of the decryption just before. -/
def Backed (before : List InputEvent) (e : InputEvent) : Prop :=
  ∀ bytes, e = .written bytes → ∃ earlier payload, before = earlier ++ [.decrypted payload bytes]

namespace Session

/-- The open request carried a key grant and the resolved hooks decrypt stdin. -/
def EndToEnd (s : Session) : Prop :=
  s.sessionKeyGrant.isSome = true ∧ s.payloadCrypto.any PayloadCrypto.decryptStdin = true

/-- The child still takes input from the session. -/
def InputOpen (s : Session) : Prop :=
  s.closed = false ∧ s.stdinClosed = false ∧ (s.ptyFile || s.stdinPipe) = true

/-- All input of an end-to-end encrypted session was decrypted. -/
def InputAuthentic (s : Session) : Prop := s.EndToEnd → EachAfter Backed s.input

end Session

/-- The message carries plaintext for the child. -/
def Message.isPlaintextInput : Message → Bool
  | .data (some ⟨.stdin, .data _⟩) => true
  | _ => false

/-- The step delivers no plaintext to the open input of an end-to-end encrypted session. -/
def NoPlaintextInput (s s' : Session) : Prop :=
  ∀ m, s'.delivered = s.delivered ++ [m] → s.EndToEnd → s.InputOpen → m.isPlaintextInput = false

/-- The part of a session that concerns the child's input. -/
structure InputView where
  cmd : Bool
  opened : Bool
  ptyFile : Bool
  stdinPipe : Bool
  stdinClosed : Bool
  payloadCrypto : Option PayloadCrypto
  sessionKeyGrant : Option SessionKeyGrant
  input : List InputEvent

/-- What a session knows about the child's input. -/
def Session.inputView (s : Session) : InputView where
  cmd := s.cmd
  opened := s.opened
  ptyFile := s.ptyFile
  stdinPipe := s.stdinPipe
  stdinClosed := s.stdinClosed
  payloadCrypto := s.payloadCrypto
  sessionKeyGrant := s.sessionKeyGrant
  input := s.input

/-- The invariant of the child's input. -/
structure InputInv (v : InputView) : Prop where
  cmd : v.cmd = v.opened
  /-- Before a process is published there is nothing to write to. -/
  unopened : v.opened = false → v.ptyFile = false ∧ v.stdinPipe = false ∧
    ∀ e ∈ v.input, ∀ bytes, e ≠ .written bytes
  authentic : v.sessionKeyGrant.isSome = true →
    v.payloadCrypto.any PayloadCrypto.decryptStdin = true → EachAfter Backed v.input

/-- The other goroutines leave the input alone and at most close the session. -/
def InputRely (s s' : Session) : Prop :=
  s'.inputView = s.inputView ∧ (s.closed = true → s'.closed = true)

/-- The contract of a session on the child's input. -/
def inputContract : Contract Goroutine Session where
  allow := NoPlaintextInput
  inv s := InputInv s.inputView
  rely g s s' := g = .readLoop → InputRely s s'
  rely_refl _ _ _ := ⟨rfl, id⟩
  rely_trans h h' hg := ⟨(h' hg).1.trans (h hg).1, (h' hg).2 ∘ (h hg).2⟩

variable {s s' : Session}

theorem InputRely.startLoop (h : InputRely s s') (g : Goroutine) :
    InputRely s (s'.startLoopLocked g) := by
  refine ⟨?_, h.2⟩
  rw [← h.1]
  simp only [startLoopLocked, inputView]

/-- The goroutines other than the read loop leave the input alone. -/
theorem inputBystander : Bystander InputRely where
  refl _ := ⟨rfl, id⟩
  close _ := ⟨rfl, fun _ => rfl⟩
  writeMu _ _ := ⟨rfl, id⟩
  disconnecting _ := ⟨rfl, id⟩
  client _ _ := ⟨rfl, id⟩
  push _ _ _ := ⟨rfl, id⟩
  pushData _ _ := ⟨rfl, id⟩
  encrypted _ _ := ⟨rfl, id⟩
  shutdownReq _ := ⟨rfl, id⟩
  beginStream s t eos := by
    unfold beginStream
    repeat' split
    all_goals exact ⟨rfl, id⟩
  endStream s t := by
    unfold endStream
    cases s.streamsOpen <;> simp only <;> split <;> exact ⟨rfl, id⟩
  childExit s code := by
    unfold childExit
    split
    · exact ⟨rfl, id⟩
    · simp only
      split <;> exact ⟨rfl, id⟩
  startPipeReaders s := by
    have hloops : InputRely s ((s.startLoopLocked .stdoutLoop).startLoopLocked .stderrLoop) :=
      (InputRely.startLoop ⟨rfl, id⟩ _).startLoop _
    exact ⟨hloops.1, hloops.2⟩
  pipeReaders _ _ := ⟨rfl, id⟩

theorem inputQuiet : Quiet InputRely := (inputBystander).toQuiet

theorem inputPush (s : Session) (m : Message) (_ : m.isData = false) (_ : m.isClose = false) :
    InputRely s (s.push m) :=
  ⟨rfl, id⟩

theorem InputRely.keeps {g : Goroutine} (hinv : inputContract.inv s)
    (h : InputRely s s') : inputContract.Keeps g s s' := by
  refine ⟨?_, fun _ _ _ => h⟩
  change InputInv s'.inputView
  rw [h.1]
  exact hinv

/-- An action of the read loop concerns no one else. -/
theorem readLoop_keeps (hinv : InputInv s'.inputView) : inputContract.Keeps .readLoop s s' :=
  ⟨hinv, fun _ hu h => absurd h hu⟩

/-- What the read loop knows survives whatever leaves the input alone. -/
theorem input_triple {α : Type} {p : Prog α} {A : Session → Prop}
    (hp : p.Respects InputRely) (hA : ∀ s s', InputRely s s' → A s → A s') :
    inputContract.Triple .readLoop A p fun _ => A :=
  .of_respects hp (fun _ _ hrely _ h => hA _ _ (hrely rfl) h)
    fun _ _ hinv hs h => ⟨h.keeps hinv, hA _ _ h hs⟩

/-- Whatever leaves the input alone may be run at any point. -/
theorem quiet_triple {α : Type} {p : Prog α} {A : Session → Prop} (hp : p.Respects InputRely) :
    inputContract.Triple .readLoop A p fun _ _ => True :=
  (input_triple hp fun _ _ _ _ => trivial).strengthen fun _ _ => trivial

namespace InputRely

variable {s s' : Session}

theorem opened (h : InputRely s s') : s'.opened = s.opened := congrArg InputView.opened h.1

theorem input (h : InputRely s s') : s'.input = s.input := congrArg InputView.input h.1

theorem endToEnd (h : InputRely s s') (hs : s'.EndToEnd) : s.EndToEnd := by
  obtain ⟨hgrant, hcrypto⟩ := hs
  rw [show s'.sessionKeyGrant = s.sessionKeyGrant from congrArg InputView.sessionKeyGrant h.1]
    at hgrant
  rw [show s'.payloadCrypto = s.payloadCrypto from congrArg InputView.payloadCrypto h.1]
    at hcrypto
  exact ⟨hgrant, hcrypto⟩

/-- An input that is open was open before. -/
theorem inputOpen (h : InputRely s s') (hs : s'.InputOpen) : s.InputOpen := by
  obtain ⟨hclosed, hstdin, hhandles⟩ := hs
  rw [show s'.stdinClosed = s.stdinClosed from congrArg InputView.stdinClosed h.1] at hstdin
  rw [show s'.ptyFile = s.ptyFile from congrArg InputView.ptyFile h.1,
    show s'.stdinPipe = s.stdinPipe from congrArg InputView.stdinPipe h.1] at hhandles
  refine ⟨?_, hstdin, hhandles⟩
  by_contra hc
  rw [h.2 (by simpa using hc)] at hclosed
  cases hclosed

end InputRely

/-- A plaintext message for the child finds its input shut, or no encryption to bypass. -/
def Guarded (m : Message) (s : Session) : Prop :=
  m.isPlaintextInput = true → s.EndToEnd → ¬ s.InputOpen

theorem Guarded.of_rely {m : Message} (h : InputRely s s') (hs : Guarded m s) : Guarded m s' :=
  fun hm hend hopen => hs hm (h.endToEnd hend) (h.inputOpen hopen)

/-- The payload may be written through the handles. -/
def Writable (handles : Session.InputHandles) (payload : Bytes) (s : Session) : Prop :=
  (handles.ptyFile || handles.stdinPipe) = true →
    s.opened = true ∧ (s.EndToEnd → Backed s.input (.written payload))

theorem Writable.of_rely {handles : Session.InputHandles} {payload : Bytes}
    (h : InputRely s s') (hs : Writable handles payload s) : Writable handles payload s' := by
  intro hhandles
  obtain ⟨hopened, hbacked⟩ := hs hhandles
  rw [h.opened, h.input]
  exact ⟨hopened, fun hend => hbacked (h.endToEnd hend)⟩

section

variable (hinv : InputInv s.inputView)
include hinv

theorem InputInv.write {payload : Bytes}
    (hopened : s.opened = true) (hbacked : s.EndToEnd → Backed s.input (.written payload)) :
    InputInv ({ s with input := s.input ++ [.written payload] } : Session).inputView where
  cmd := hinv.cmd
  unopened h := absurd (hopened.symm.trans h) (by simp)
  authentic hgrant hcrypto := by
    refine eachAfter_snoc.mpr ⟨hinv.authentic hgrant hcrypto, ?_⟩
    exact hbacked ⟨hgrant, hcrypto⟩

/-- A decrypted payload keeps the invariant and may then be written. -/
theorem InputInv.decrypt {payload : Option EncryptedPayload} {plaintext : Bytes} :
    InputInv ({ s with input := s.input ++ [.decrypted payload plaintext] } : Session).inputView
    where
  cmd := hinv.cmd
  unopened h := by
    obtain ⟨hpty, hpipe, hinput⟩ := hinv.unopened h
    refine ⟨hpty, hpipe, fun e he bytes => ?_⟩
    rcases List.mem_append.mp he with he | he
    · exact hinput e he bytes
    · rw [List.mem_singleton.mp he]
      exact nofun
  authentic hgrant hcrypto := by
    refine eachAfter_snoc.mpr ⟨hinv.authentic hgrant hcrypto, ?_⟩
    exact nofun

theorem InputInv.dropStdin :
    InputInv s.dropStdin.inputView where
  cmd := hinv.cmd
  unopened h := ⟨(hinv.unopened h).1, rfl, (hinv.unopened h).2.2⟩
  authentic := hinv.authentic

/-- Publishing the first process keeps the invariant: nothing was written before. -/
theorem InputInv.install {r : OpenResources}
    (hopened : s.opened = false) : InputInv (s.installOpen r).2.inputView := by
  unfold installOpen
  split
  · exact hinv
  · refine ⟨rfl, nofun, fun _ _ before e after hsplit => ?_⟩
    intro bytes he
    have hmem : e ∈ s.input := by
      rw [show s.input = before ++ e :: after from hsplit]
      simp
    exact absurd he ((hinv.unopened hopened).2.2 e hmem bytes)

end

namespace Prog

open Program

variable {K : Type} {P : Primitives K} {cfg : ServerConfig}

theorem writeStdinPayload_input (handles : Session.InputHandles) (payload : Bytes) :
    inputContract.Triple .readLoop (Writable handles payload) (writeStdinPayload handles payload)
      fun _ _ => True := by
  have hstable : inputContract.Stable .readLoop (Writable handles payload) :=
    fun _ _ hrely _ h => h.of_rely (hrely rfl)
  unfold writeStdinPayload
  split
  case isTrue hpty =>
    refine .choose hstable fun s i r s' hinv hs h _ => ?_
    cases h
    obtain ⟨hopened, hbacked⟩ := hs (by simp [hpty])
    exact ⟨readLoop_keeps (hinv.write hopened hbacked), trivial⟩
  case isFalse =>
    split
    case isTrue hpipe =>
      refine .bind (Q := fun _ _ => True) (.choose hstable fun s i r s' hinv hs h _ => ?_)
        fun outcome => ?_
      · cases h
        obtain ⟨hopened, hbacked⟩ := hs (by simp [hpipe])
        exact ⟨readLoop_keeps (hinv.write hopened hbacked), trivial⟩
      · cases outcome with
        | written | failed => exact .pure fun _ _ => trivial
        | closedPipe =>
          refine .bind (Q := fun _ _ => True)
            (.atomic stable_const fun s hinv _ _ => ?_) fun _ => ?_
          · exact ⟨readLoop_keeps hinv.dropStdin, trivial⟩
          · exact quiet_triple (external_respects inputQuiet Unit)
    case isFalse => exact .pure fun _ _ => trivial

/-- What `handleData` knows of the handles it took. -/
def Taken (payload : DataPayload) : Except Error Session.InputHandles → Session → Prop
  | .error _, _ => True
  | .ok handles, s => (handles.ptyFile || handles.stdinPipe) = true → s.opened = true ∧
      ∀ bytes, payload = .data bytes → handles.stdinClosed = false → ¬ s.EndToEnd

theorem takeInput_input (payload : DataPayload) :
    inputContract.Triple .readLoop (Guarded (.data (some ⟨.stdin, payload⟩)))
      (atomic (takeInput payload)) (Taken payload) := by
  refine .atomic (fun _ _ hrely _ h => h.of_rely (hrely rfl)) fun s hinv hs _ => ?_
  unfold takeInput
  split
  case isTrue => exact ⟨.refl hinv, trivial⟩
  case isFalse hclosed =>
    have hopened : (s.ptyFile || s.stdinPipe) = true → s.opened = true := by
      intro hhandles
      by_contra hopened
      obtain ⟨hpty, hpipe, _⟩ := hinv.unopened (Bool.eq_false_of_not_eq_true hopened)
      rw [show s.ptyFile = false from hpty, show s.stdinPipe = false from hpipe] at hhandles
      cases hhandles
    simp only
    split
    case isTrue heos =>
      refine ⟨readLoop_keeps hinv.dropStdin, fun hhandles => ⟨hopened hhandles, ?_⟩⟩
      intro bytes hbytes
      rw [heos.1] at hbytes
      cases hbytes
    case isFalse =>
      refine ⟨.refl hinv, fun hhandles => ⟨hopened hhandles, ?_⟩⟩
      intro bytes hbytes hstdin hend
      subst hbytes
      exact hs rfl hend ⟨by simpa using hclosed, hstdin, hhandles⟩

theorem handleData_input (data : Option Data) :
    inputContract.Triple .readLoop (Guarded (.data data)) (handleData data) fun _ _ => True := by
  rcases data with _ | ⟨type, payload⟩
  · exact .pure fun _ _ => trivial
  · unfold handleData
    simp only
    split
    case isTrue => exact .pure fun _ _ => trivial
    case isFalse htype =>
      obtain rfl : type = .stdin := by simpa using htype
      refine andThen_triple (takeInput_input payload) (fun _ _ _ => trivial) fun handles => ?_
      cases payload with
      | none => exact .pure fun _ _ => trivial
      | eos =>
        simp only
        split
        · exact .pure fun _ _ => trivial
        · split
          · exact quiet_triple (external_respects inputQuiet Unit)
          · exact .pure fun _ _ => trivial
      | data bytes =>
        simp only
        split
        case isTrue => exact .pure fun _ _ => trivial
        case isFalse hstdin =>
          refine (writeStdinPayload_input handles bytes).strengthen fun s hs hhandles => ?_
          obtain ⟨hopened, hplain⟩ := hs hhandles
          exact ⟨hopened, fun hend => absurd hend (hplain bytes rfl (by simpa using hstdin))⟩
      | encryptedData payload =>
        simp only
        split
        · exact .pure fun _ _ => trivial
        · split
          · have hdecrypt : inputContract.Triple .readLoop (Taken (.encryptedData payload) (.ok handles))
                (choose (decryptStdin payload)) fun r s =>
                  ∀ plaintext, r = .ok plaintext → Writable handles plaintext s := by
              refine .choose ?_ fun s i r s' hinv hs h _ => ?_
              · intro s s' hrely _ h hhandles
                rw [(hrely rfl).opened]
                exact ⟨(h hhandles).1, nofun⟩
              · rcases i with err | plaintext <;> cases h
                · exact ⟨.refl hinv, nofun⟩
                · refine ⟨readLoop_keeps hinv.decrypt, fun plaintext' h hhandles => ?_⟩
                  cases h
                  refine ⟨(hs hhandles).1, fun _ bytes hbytes => ?_⟩
                  cases hbytes
                  exact ⟨s.input, payload, rfl⟩
            refine andThen_triple hdecrypt (fun _ _ _ => trivial) fun plaintext => ?_
            exact (writeStdinPayload_input handles plaintext).strengthen fun s hs => hs _ rfl
          · exact .pure fun _ _ => trivial

theorem handleOpen_input (request : Option Open) :
    inputContract.Triple .readLoop (fun _ => True) (handleOpen P cfg request)
      fun _ _ => True := by
  have hunopened : ∀ s s', InputRely s s' → s.opened = false → s'.opened = false :=
    fun s s' h hs => h.opened.trans hs
  have hbegin : inputContract.Triple .readLoop (fun _ => True) (atomic beginOpen)
      fun r s => r = .ok () → s.opened = false := by
    refine .atomic stable_const fun s hinv _ _ => ?_
    unfold beginOpen
    split
    · exact ⟨.refl hinv, nofun⟩
    · split
      case isTrue => exact ⟨.refl hinv, nofun⟩
      case isFalse hcmd =>
        refine ⟨InputRely.keeps hinv ⟨rfl, id⟩, fun _ => ?_⟩
        have hcmd' : s.cmd = false := by simp_all
        exact (show s.cmd = s.opened from hinv.cmd).symm.trans hcmd'
  refine andThen_triple hbegin (fun _ _ _ => trivial) fun _ => ?_
  refine .bind ((input_triple (prepareOpen_respects inputQuiet request) hunopened).strengthen
    fun s h => h rfl) fun r => ?_
  rcases r with err | resources
  · refine .bind (quiet_triple (.atomic fun _ => ⟨rfl, id⟩)) fun closed => ?_
    cases closed
    · refine quiet_triple (andThen_respects ?_ fun _ => ?_)
      · exact sendError_respects inputQuiet inputPush err
      · exact .bind (startCloseHandshake_respects inputQuiet (inputBystander).disconnecting)
          fun _ => .pure _
    · exact .pure fun _ _ => trivial
  · have hinstall : inputContract.Triple .readLoop (fun s => s.opened = false)
        (atomic (installOpen resources)) fun _ _ => True := by
      refine .atomic (fun s s' hrely _ h => hunopened s s' (hrely rfl) h) fun s hinv hs _ => ?_
      exact ⟨readLoop_keeps (hinv.install hs), trivial⟩
    refine andThen_triple hinstall (fun _ _ _ => trivial) fun _ => ?_
    refine quiet_triple (andThen_respects ?_ fun _ => .atomic fun s => ?_)
    · exact sendAck_respects inputQuiet inputPush
    · unfold startLoops
      split
      · exact ⟨rfl, id⟩
      · have hwait : InputRely s (s.startLoopLocked .waitLoop) := .startLoop ⟨rfl, id⟩ _
        simp only
        split <;> split
        · exact (hwait.startLoop _).startLoop _
        · exact hwait.startLoop _
        · exact hwait.startLoop _
        · exact hwait

theorem handleMessage_input (m : Message) :
    inputContract.Triple .readLoop (Guarded m) (handleMessage P cfg m) fun _ _ => True := by
  have hguarded : ∀ s s', InputRely s s' → Guarded m s → Guarded m s' :=
    fun _ _ h hs => hs.of_rely h
  refine .bind (input_triple (inspect_respects inputQuiet _) hguarded)
    fun closed => ?_
  cases closed
  · simp only [Bool.false_eq_true, if_false]
    cases m with
    | «open» request => exact (handleOpen_input request).strengthen fun _ _ => trivial
    | data data => exact handleData_input data
    | attach =>
      refine .bind (quiet_triple ?_) fun _ => .pure fun _ _ => trivial
      exact sendError_respects inputQuiet inputPush _
    | terminate =>
      refine quiet_triple (.atomic fun s => ?_)
      unfold handleTerminate
      repeat' split
      · exact ⟨rfl, id⟩
      · exact ⟨rfl, id⟩
      · exact ⟨rfl, id⟩
      · exact InputRely.startLoop ⟨rfl, id⟩ _
    | error msg =>
      cases msg
      · exact .pure fun _ _ => trivial
      · simp only
        split <;> exact .pure fun _ _ => trivial
    | parameter parameter =>
      rcases parameter with _ | _ | size
      · exact .pure fun _ _ => trivial
      · exact .pure fun _ _ => trivial
      · exact quiet_triple (doResize_respects inputQuiet _)
    | _ => exact .pure fun _ _ => trivial
  · exact .pure fun _ _ => trivial

/-- A message that was read is guarded, by the limit on the runs. -/
theorem inputSpec : ReadLoopSpec inputContract InputRely (fun _ => True) Guarded where
  receiving := {
    toQuiet := inputQuiet
    deliver := fun _ _ => ⟨rfl, id⟩
    identity := fun _ _ => ⟨rfl, id⟩
    reading := fun _ _ => ⟨rfl, id⟩
    push := inputPush }
  keeps := InputRely.keeps
  idle_kept _ _ := trivial
  idle_stable := stable_const
  asked_kept := Guarded.of_rely
  asked_stable _ _ _ hrely _ h := h.of_rely (hrely rfl)
  asked_idle _ := trivial
  deliver {s m} hinv _ hallow hplain hend hopen := by
    have hfine : m.isPlaintextInput = false := hallow m rfl hend hopen
    exact absurd (hplain.symm.trans hfine) (by simp)

theorem body_input (P : Primitives K) (cfg : ServerConfig) (platform : Platform) (g : Goroutine) :
    inputContract.Triple g (fun _ => True) (body P cfg platform g) fun _ _ => True := by
  by_cases hg : g = .readLoop
  · subst hg
    exact (inputSpec).readLoop_triple handleMessage_input
  · exact .of_respects (body_respects inputBystander P cfg platform hg) stable_const
      fun _ _ hinv _ h => ⟨h.keeps hinv, trivial⟩

end Prog

theorem session_input_sound {K : Type} (P : Primitives K) (cfg : ServerConfig)
    (platform : Prog.Platform) (sessionID transport : String) :
    inputContract.Sound (sessionSystem P cfg platform) (fun _ _ => True)
      (newSession cfg sessionID transport) where
  inv_start := ⟨rfl, fun _ => ⟨rfl, rfl, nofun⟩, fun _ _ => eachAfter_nil⟩
  loop_start _ := trivial
  loop_stable _ := stable_const
  body g := (Prog.body_input P cfg platform g).weaken fun _ _ _ _ => trivial
  abort _ h := by cases h

/-- Without plaintext input, a child of an end-to-end encrypted session reads decrypted bytes. -/
theorem session_input_authentic {K : Type} (P : Primitives K) (cfg : ServerConfig)
    (platform : Prog.Platform) (sessionID transport : String) {c : Core.Config Goroutine Session}
    (hreach : (sessionSystem P cfg platform).Reach NoPlaintextInput
      (newSession cfg sessionID transport) c) : c.state.InputAuthentic := by
  have hinv : inputContract.inv c.state :=
    (session_input_sound P cfg platform sessionID transport).inv_of_reach hreach
  exact fun hend => hinv.authentic hend.1 hend.2

end Rstream.WebTTY
