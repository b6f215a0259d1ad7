import Rstream.WebTTY.RequestRules
import Rstream.WebTTY.SessionRuns

/-!
# Rejected open requests

`handleOpen` answers an open request it cannot serve with an error and begins the close
handshake, but it leaves the session as it was before the request. Nothing in the read
loop looks at `disconnecting`, so a peer that keeps talking can open a process after
all. A rejection is final along the runs in which no further open request is delivered.
-/

namespace Rstream.WebTTY

open Rstream.Core Session

/-- The close handshake has begun and no process was ever published: the session has
rejected an open request. -/
def Session.Rejected (s : Session) : Prop := s.disconnecting = true ∧ s.cmd = false

/-- The step delivers no open request to an open session that rejected one. -/
def NoOpenAfterRejection (s s' : Session) : Prop :=
  ∀ request, s'.delivered = s.delivered ++ [.open request] → s.closed = true ∨ ¬ s.Rejected

/-- The invariant behind the finality of a rejection. -/
structure RejectInv (s : Session) : Prop where
  /-- The goroutines of a process run only when there is one. -/
  started : ∀ g ∈ s.started, s.cmd = true
  opening : s.Rejected → s.opening = false

/-- What a goroutine relies on about the others. -/
structure RejectRely (g : Goroutine) (s s' : Session) : Prop where
  cmd : s.cmd = true → s'.cmd = true
  final : s.Rejected → s'.Rejected
  /-- Only the read loop opens processes and rejects requests. -/
  reader : g = .readLoop → s'.cmd = s.cmd ∧ s'.opening = s.opening ∧
    (s.closed = true → s'.closed = true) ∧ (s'.Rejected → s.Rejected)

/-- The contract of a session on rejected requests. -/
def rejectContract : Contract Goroutine Session where
  allow := NoOpenAfterRejection
  inv := RejectInv
  rely := RejectRely
  rely_refl _ _ := ⟨id, id, fun _ => ⟨rfl, rfl, id, id⟩⟩
  rely_trans h h' := by
    refine ⟨h'.cmd ∘ h.cmd, h'.final ∘ h.final, fun hg => ?_⟩
    obtain ⟨hcmd, hopening, hclosed, hrejected⟩ := h.reader hg
    obtain ⟨hcmd', hopening', hclosed', hrejected'⟩ := h'.reader hg
    exact ⟨hcmd'.trans hcmd, hopening'.trans hopening, hclosed' ∘ hclosed,
      hrejected ∘ hrejected'⟩

/-- The step opens no process and takes nothing back. -/
structure Progress (s s' : Session) : Prop where
  cmd : s'.cmd = s.cmd
  opening : s'.opening = s.opening
  closed : s.closed = true → s'.closed = true
  disconnecting : s.disconnecting = true → s'.disconnecting = true

/-- The step also begins no close handshake, and starts goroutines only for a process. -/
structure Neutral (s s' : Session) : Prop extends Progress s s' where
  undisturbed : s'.disconnecting = s.disconnecting
  started : ∀ g ∈ s'.started, g ∈ s.started ∨ s.cmd = true

namespace Progress

variable {s s' : Session}

theorem rejected (h : Progress s s') (hs : s.Rejected) : s'.Rejected :=
  ⟨h.disconnecting hs.1, h.cmd.trans hs.2⟩

theorem keeps_of_cmd {g : Goroutine} (h : Progress s s') (hcmd : s.cmd = true) :
    rejectContract.Keeps g s s' := by
  have hcmd' : s'.cmd = true := h.cmd.trans hcmd
  have hnot : ¬ s'.Rejected := fun hr => by simp [hr.2] at hcmd'
  refine ⟨⟨fun _ _ => hcmd', fun hr => absurd hr hnot⟩, fun u _ => ?_⟩
  exact ⟨fun _ => hcmd', h.rejected, fun _ => ⟨h.cmd, h.opening, h.closed, fun hr => absurd hr hnot⟩⟩

end Progress

namespace Neutral

variable {s s' : Session}

theorem keeps {g : Goroutine} (hinv : rejectContract.inv s) (h : Neutral s s') :
    rejectContract.Keeps g s s' := by
  have hback : s'.Rejected → s.Rejected := fun hr =>
    ⟨h.undisturbed.symm.trans hr.1, h.cmd.symm.trans hr.2⟩
  refine ⟨⟨fun u hu => ?_, fun hr => ?_⟩, fun u _ => ?_⟩
  · rw [h.cmd]
    exact (h.started u hu).elim (hinv.started u) id
  · rw [h.opening]
    exact hinv.opening (hback hr)
  · refine ⟨fun hcmd => h.cmd.trans hcmd, h.toProgress.rejected, fun _ => ?_⟩
    exact ⟨h.cmd, h.opening, h.closed, hback⟩

theorem refl (s : Session) : Neutral s s := ⟨⟨rfl, rfl, id, id⟩, rfl, fun _ h => .inl h⟩

theorem startLoop (h : Neutral s s') (g : Goroutine) (hcmd : s.cmd = true) :
    Neutral s (s'.startLoopLocked g) :=
  ⟨⟨h.cmd, h.opening, h.closed, h.disconnecting⟩, h.undisturbed, fun _ _ => .inr hcmd⟩

end Neutral

/-- Everything but an open request is neutral. -/
theorem neutralServing : Serving Neutral where
  refl := .refl
  close _ := ⟨⟨rfl, rfl, fun _ => rfl, id⟩, rfl, fun _ h => .inl h⟩
  writeMu _ _ := ⟨⟨rfl, rfl, id, id⟩, rfl, fun _ h => .inl h⟩
  client _ _ := ⟨⟨rfl, rfl, id, id⟩, rfl, fun _ h => .inl h⟩
  deliver _ _ := ⟨⟨rfl, rfl, id, id⟩, rfl, fun _ h => .inl h⟩
  identity _ _ := ⟨⟨rfl, rfl, id, id⟩, rfl, fun _ h => .inl h⟩
  reading _ _ := ⟨⟨rfl, rfl, id, id⟩, rfl, fun _ h => .inl h⟩
  push _ _ _ _ := ⟨⟨rfl, rfl, id, id⟩, rfl, fun _ h => .inl h⟩
  takeInput s payload := by
    unfold takeInput
    split
    · exact .refl s
    · simp only
      split
      · exact ⟨⟨rfl, rfl, id, id⟩, rfl, fun _ h => .inl h⟩
      · exact .refl s
  input _ _ := ⟨⟨rfl, rfl, id, id⟩, rfl, fun _ h => .inl h⟩
  dropStdin _ := ⟨⟨rfl, rfl, id, id⟩, rfl, fun _ h => .inl h⟩
  handleTerminate s := by
    unfold handleTerminate
    split
    case isTrue => exact .refl s
    case isFalse hopen =>
      have hcmd : s.cmd = true := by simp_all
      repeat' split
      · exact .refl s
      · exact .refl s
      · exact ⟨⟨rfl, rfl, id, id⟩, rfl, fun _ _ => .inr hcmd⟩

theorem neutralQuiet : Quiet Neutral := (neutralServing).toQuiet

/-- The goroutines other than the read loop open no process. -/
theorem progressBystander : Bystander Progress where
  refl _ := ⟨rfl, rfl, id, id⟩
  close _ := ⟨rfl, rfl, fun _ => rfl, id⟩
  writeMu _ _ := ⟨rfl, rfl, id, id⟩
  client _ _ := ⟨rfl, rfl, id, id⟩
  disconnecting _ := ⟨rfl, rfl, id, fun _ => rfl⟩
  push _ _ _ := ⟨rfl, rfl, id, id⟩
  pushData _ _ := ⟨rfl, rfl, id, id⟩
  encrypted _ _ := ⟨rfl, rfl, id, id⟩
  shutdownReq _ := ⟨rfl, rfl, id, id⟩
  beginStream s t eos := by
    unfold beginStream
    repeat' split
    all_goals exact ⟨rfl, rfl, id, id⟩
  endStream s t := by
    unfold endStream
    cases s.streamsOpen <;> simp only <;> split <;> exact ⟨rfl, rfl, id, id⟩
  childExit s code := by
    unfold childExit
    split
    · exact ⟨rfl, rfl, id, id⟩
    · simp only
      split <;> exact ⟨rfl, rfl, id, id⟩
  startPipeReaders _ := ⟨rfl, rfl, id, id⟩
  pipeReaders _ _ := ⟨rfl, rfl, id, id⟩

/-- No open request is being handled. -/
def Unasked (s : Session) : Prop := s.opening = false

/-- A message the read loop has read; an open request finds no earlier rejection. -/
def Permitted (m : Message) (s : Session) : Prop :=
  s.opening = false ∧ ∀ request, m = .open request → s.closed = true ∨ ¬ s.Rejected

/-- What the read loop knows between messages and of a message it has read. -/
theorem rejectSpec : ReadLoopSpec rejectContract Neutral Unasked Permitted where
  receiving := (neutralServing).toReceiving
  keeps := Neutral.keeps
  idle_kept h hs := h.opening.trans hs
  idle_stable _ _ hrely _ hs := (hrely.reader rfl).2.1.trans hs
  asked_kept {m s s'} h hs := by
    refine ⟨h.opening.trans hs.1, fun request hm => (hs.2 request hm).imp h.closed fun hn hr => hn ?_⟩
    exact ⟨h.undisturbed.symm.trans hr.1, h.cmd.symm.trans hr.2⟩
  asked_stable m s s' hrely _ hs := by
    obtain ⟨_, hopening, hclosed, hback⟩ := hrely.reader rfl
    exact ⟨hopening.trans hs.1, fun request hm => (hs.2 request hm).imp hclosed (mt hback)⟩
  asked_idle hs := hs.1
  deliver {s m} _ hs hallow := by
    refine ⟨hs, fun request hm => ?_⟩
    subst hm
    exact hallow request rfl

namespace Prog

open Program

variable {K : Type} {P : Primitives K} {cfg : ServerConfig} {g : Goroutine}

/-- The process flags are left to the read loop. -/
theorem flags_stable (opening cmd : Bool) :
    rejectContract.Stable .readLoop fun s => s.opening = opening ∧ s.cmd = cmd := by
  intro s s' hrely _ hs
  obtain ⟨hcmd, hopening, _, _⟩ := hrely.reader rfl
  exact ⟨hopening.trans hs.1, hcmd.trans hs.2⟩

/-- A neutral program keeps the process flags. -/
theorem flags_triple {α : Type} {p : Prog α} (opening cmd : Bool) (hp : p.Respects Neutral) :
    rejectContract.Triple .readLoop (fun s => s.opening = opening ∧ s.cmd = cmd) p
      fun _ s => s.opening = opening ∧ s.cmd = cmd :=
  .of_respects hp (flags_stable opening cmd) fun _ _ hinv hs h =>
    ⟨h.keeps hinv, h.opening.trans hs.1, h.cmd.trans hs.2⟩

/-- A request is taken on only if none was rejected before. -/
theorem beginOpen_reject (request : Option Open) :
    rejectContract.Triple .readLoop (Permitted (.open request)) (atomic beginOpen)
      fun r s => match r with
        | .ok _ => s.opening = true ∧ s.cmd = false
        | .error _ => Unasked s := by
  refine .atomic ((rejectSpec).asked_stable _) fun s hinv hs _ => ?_
  unfold beginOpen
  split
  case isTrue => exact ⟨.refl hinv, hs.1⟩
  case isFalse hclosed =>
    split
    case isTrue => exact ⟨.refl hinv, hs.1⟩
    case isFalse hfree =>
      have hcmd : s.cmd = false := by simp_all
      have hnot : ¬ s.Rejected := (hs.2 request rfl).resolve_left hclosed
      refine ⟨⟨⟨hinv.started, fun hr => absurd hr hnot⟩, fun u hu => ?_⟩, rfl, hcmd⟩
      exact ⟨id, id, fun h => absurd h hu⟩

/-- The close handshake begins after the request is done with. -/
theorem startCloseHandshake_reject :
    rejectContract.Triple .readLoop Unasked startCloseHandshake fun _ => Unasked := by
  have hbegin : rejectContract.Triple .readLoop Unasked
      (atomic fun s : Session =>
        if s.closed || s.disconnecting then (false, s) else (true, { s with disconnecting := true }))
      fun _ => Unasked := by
    refine .atomic (rejectSpec).idle_stable fun s hinv hs _ => ?_
    split
    · exact ⟨.refl hinv, hs⟩
    · refine ⟨⟨⟨hinv.started, fun _ => hs⟩, fun u hu => ?_⟩, hs⟩
      exact ⟨id, fun hr => ⟨rfl, hr.2⟩, fun h => absurd h hu⟩
  refine .bind hbegin fun started => ?_
  cases started
  · exact .pure fun _ hs => hs
  · refine .bind ((rejectSpec).idle_triple (external_respects neutralQuiet Unit)) fun r => ?_
    rcases r with err | ⟨⟩
    · exact (rejectSpec).idle_triple (close_respects neutralQuiet)
    · exact .pure fun _ hs => hs

/-- A request that is not served is answered and the close handshake begins. -/
theorem rejectOpen_reject (err : Error) :
    rejectContract.Triple .readLoop (fun s => s.opening = true ∧ s.cmd = false)
      (do
        if ← atomic failOpen then return .error err
        andThen (sendError cfg .readLoop err) fun _ => do
          startCloseHandshake
          return .ok ())
      fun (_ : Result) => Unasked := by
  have hfail : rejectContract.Triple .readLoop (fun s => s.opening = true ∧ s.cmd = false)
      (atomic failOpen) fun _ => Unasked := by
    refine .atomic (flags_stable true false) fun s hinv hs _ => ?_
    refine ⟨⟨⟨hinv.started, fun _ => rfl⟩, fun u hu => ?_⟩, rfl⟩
    exact ⟨id, id, fun h => absurd h hu⟩
  refine .bind hfail fun closed => ?_
  cases closed
  · refine andThen_triple ((rejectSpec).idle_triple (sendError_respects neutralQuiet
      (neutralServing).push err)) (fun _ _ hs => hs) fun _ => ?_
    exact .bind startCloseHandshake_reject fun _ => .pure fun _ hs => hs
  · exact .pure fun _ hs => hs

/-- A process is published only for a request that was taken on, so after no rejection. -/
theorem installOpen_reject (r : OpenResources) :
    rejectContract.Triple .readLoop (fun s => s.opening = true ∧ s.cmd = false)
      (atomic (installOpen r)) fun result s => match result with
        | .ok _ => s.opening = false ∧ s.cmd = true
        | .error _ => Unasked s := by
  refine .atomic (flags_stable true false) fun s hinv hs _ => ?_
  have hnot : ¬ s.Rejected := fun hr => by simp [hinv.opening hr] at hs
  unfold installOpen
  split
  case isTrue =>
    refine ⟨⟨⟨hinv.started, fun _ => rfl⟩, fun u hu => ?_⟩, rfl⟩
    exact ⟨id, id, fun h => absurd h hu⟩
  case isFalse =>
    refine ⟨⟨⟨fun _ _ => rfl, fun _ => rfl⟩, fun u hu => ?_⟩, rfl, rfl⟩
    exact ⟨fun _ => rfl, fun hr => absurd hr hnot, fun h => absurd h hu⟩

theorem startLoops_reject (r : OpenResources) :
    rejectContract.Triple .readLoop (fun s => s.opening = false ∧ s.cmd = true)
      (atomic (startLoops cfg r)) fun _ => Unasked := by
  refine .atomic (flags_stable false true) fun s hinv hs _ => ?_
  have hneutral : Neutral s (startLoops cfg r s).2 := by
    have hwait : Neutral s (s.startLoopLocked .waitLoop) := (Neutral.refl s).startLoop _ hs.2
    unfold startLoops
    split
    · exact .refl s
    · simp only
      split <;> split
      · exact (hwait.startLoop _ hs.2).startLoop _ hs.2
      · exact hwait.startLoop _ hs.2
      · exact hwait.startLoop _ hs.2
      · exact hwait
  exact ⟨hneutral.keeps hinv, hneutral.opening.trans hs.1⟩

theorem handleOpen_reject (request : Option Open) :
    rejectContract.Triple .readLoop (Permitted (.open request)) (handleOpen P cfg request)
      fun _ => Unasked := by
  refine andThen_triple (beginOpen_reject request) (fun _ _ hs => hs) fun _ => ?_
  refine .bind (flags_triple true false (prepareOpen_respects neutralQuiet request)) fun r => ?_
  rcases r with err | resources
  · exact rejectOpen_reject err
  · refine andThen_triple (installOpen_reject resources) (fun _ _ hs => hs) fun _ => ?_
    refine andThen_triple (flags_triple false true
      (sendAck_respects neutralQuiet (neutralServing).push)) (fun _ _ hs => hs.1) fun _ => ?_
    exact startLoops_reject resources

/-- A goroutine that waits for its start finds a process. -/
theorem started_reject {rest : Unit → Prog Bool} (hp : (awaitStart g >>= rest).Respects Progress) :
    rejectContract.Triple g (fun _ => True) (awaitStart g >>= rest) fun _ _ => True := by
  have hstart : rejectContract.Triple g (fun _ => True) (awaitStart g)
      fun _ s => s.cmd = true := by
    refine .choose Contract.stable_const fun s i b s' hinv _ h _ => ?_
    split at h
    case isTrue hg =>
      cases h
      exact ⟨.refl hinv, hinv.started g hg⟩
    case isFalse => cases h
  have hstable : rejectContract.Stable g fun s => s.cmd = true :=
    fun _ _ hrely _ hs => hrely.cmd hs
  refine .bind hstart fun _ => ?_
  refine (Contract.Triple.of_respects (hp.2 ()) hstable fun _ _ _ hs h => ?_).weaken
    fun _ _ _ => trivial
  exact ⟨h.keeps_of_cmd hs, h.cmd.trans hs⟩

/-- What holds whenever a goroutine starts a round. -/
def rejectLoop : Goroutine → Session → Prop
  | .readLoop => Unasked
  | _ => fun _ => True

theorem body_reject (P : Primitives K) (cfg : ServerConfig) (platform : Platform) (g : Goroutine) :
    rejectContract.Triple g (rejectLoop g) (body P cfg platform g)
      fun again s => again = true → rejectLoop g s := by
  have htrue : ∀ {u : Goroutine} {p : Prog Bool},
      rejectContract.Triple u (fun _ => True) p (fun _ _ => True) →
      rejectContract.Triple u (fun _ => True) p fun again _ => again = true → True :=
    fun h => h.weaken fun _ _ _ _ => trivial
  have hneutral : ∀ {u : Goroutine} {p : Prog Bool}, p.Respects Neutral →
      rejectContract.Triple u (fun _ => True) p fun _ _ => True :=
    fun hp => .of_respects hp Contract.stable_const fun _ _ hinv _ h => ⟨h.keeps hinv, trivial⟩
  have hstream : ∀ t, rejectContract.Triple (.reader t) (fun _ => True)
      (streamLoop cfg platform t) fun _ _ => True :=
    fun t => started_reject (streamLoop_respects progressBystander)
  cases g with
  | readLoop =>
    refine ((rejectSpec).readLoop_triple ?_).weaken fun _ _ hs _ => hs
    exact (rejectSpec).handleMessage_triple neutralServing handleOpen_reject
  | stdoutLoop => exact htrue (hstream .stdout)
  | stderrLoop => exact htrue (hstream .stderr)
  | waitLoop => exact htrue (started_reject (waitLoop_respects (progressBystander).toWaiting))
  | heartbeatLoop =>
    exact htrue (started_reject (heartbeatLoop_respects (progressBystander).toWaiting))
  | terminateProcess =>
    exact htrue (started_reject (terminateProcess_respects (progressBystander).toQuiet))
  | openTimer => exact htrue (hneutral (onOpenTimeout_respects neutralQuiet))
  | closeTimer => exact htrue (hneutral (onCloseTimeout_respects neutralQuiet))
  | shutdown =>
    refine htrue (hneutral (shutdown_respects neutralQuiet fun _ => ?_))
    exact ⟨⟨rfl, rfl, id, id⟩, rfl, fun _ h => .inl h⟩

end Prog

theorem session_reject_sound {K : Type} (P : Primitives K) (cfg : ServerConfig)
    (platform : Prog.Platform) (sessionID transport : String) :
    rejectContract.Sound (sessionSystem P cfg platform) Prog.rejectLoop
      (newSession cfg sessionID transport) where
  inv_start := ⟨fun g hg => by simp [newSession] at hg, fun _ => rfl⟩
  loop_start g := by cases g <;> first | rfl | trivial
  loop_stable g := by
    cases g
    case readLoop => exact (rejectSpec).idle_stable
    all_goals exact Contract.stable_const
  body := Prog.body_reject P cfg platform
  abort _ h := by cases h

/-- Without another open request, no process is started after a rejection: none is being
prepared and none is published in the rest of the run. -/
theorem rejected_open_final {K : Type} (P : Primitives K) (cfg : ServerConfig)
    (platform : Prog.Platform) (sessionID transport : String) {c c' : Core.Config Goroutine Session}
    (hreach : (sessionSystem P cfg platform).Reach NoOpenAfterRejection
      (newSession cfg sessionID transport) c) (hrejected : c.state.Rejected)
    (hrun : (sessionSystem P cfg platform).Runs NoOpenAfterRejection c c') :
    c'.state.opening = false ∧ c'.state.cmd = false := by
  have hsound := session_reject_sound P cfg platform sessionID transport
  have hbystander : ∀ t : Goroutine, ∃ u, u ≠ t ∧
      ∀ s s', rejectContract.rely u s s' → s.Rejected → s'.Rejected := by
    intro t
    by_cases ht : t = .readLoop
    · exact ⟨.shutdown, by simp [ht], fun _ _ h => h.final⟩
    · exact ⟨.readLoop, fun h => ht h.symm, fun _ _ h => h.final⟩
  obtain ⟨hreach', hlate⟩ := hsound.runs hbystander (fun _ _ _ h => by cases h) hreach hrun
    hrejected
  have hinv : RejectInv c'.state := hsound.inv_of_reach hreach'
  exact ⟨hinv.opening hlate, hlate.2⟩

section Sample

/-- A server without encryption on a plain connection. -/
def plainServer : ServerConfig :=
  { sampleServer with
    endpointIdentity := none, requireClientProof := none, payloadCryptoResolver := false }

/-- The session of the plain server that received an open request without a command. -/
def rejectedSession : Session where
  identity := ⟨"session", "plain", []⟩
  payloadCrypto := none
  reading := true
  disconnecting := true
  delivered := [.open none]
  wire := [.error (some "missing open config")]

/-- A request to run a shell. -/
def shellOpen : Open := ⟨some { emptyConfig with cmdArgs := ["sh"] }, none, none⟩

/-- The session once it received a second open request, for a shell. -/
def reopenedSession : Session where
  identity := ⟨"session", "plain", []⟩
  payloadCrypto := none
  reading := true
  disconnecting := true
  cmd := true
  stdinPipe := true
  streamsActive := 2
  streamsOpen := some {.stdout, .stderr}
  opened := true
  started := {.waitLoop}
  delivered := [.open none, .open (some shellOpen)]
  wire := [.error (some "missing open config"), .ack false]

theorem rejectedSession_reach {allow : Session → Session → Prop} (hallow : DeliveryLimit allow)
    (hopen : ∀ s : Session, s.disconnecting = false →
      allow s { s with delivered := s.delivered ++ [.open none] }) :
    (sessionSystem samplePrimitives plainServer .linux).Reach allow
      (newSession plainServer "session" "plain")
      ((sessionSystem samplePrimitives plainServer .linux).start rejectedSession) := by
  have hgreeted : Program.Solo allow (Prog.readLoop samplePrimitives plainServer)
      (newSession plainServer "session" "plain") true
      { newSession plainServer "session" "plain" with reading := true } := by
    refine .act () rfl (hallow _ _ rfl) ?_
    refine .act (Except.ok () : Result) rfl (hallow _ _ rfl) ?_
    refine .act () rfl (hallow _ _ rfl) ?_
    refine .act () rfl (hallow _ _ rfl) ?_
    exact .done _ _
  have hrejected : Program.Solo allow (Prog.readLoop samplePrimitives plainServer)
      { newSession plainServer "session" "plain" with reading := true } true rejectedSession := by
    refine .act () rfl (hallow _ _ rfl) ?_
    refine .act (Prog.Delivery.message (.open none)) rfl (hopen _ rfl) ?_
    refine .act () rfl (hallow _ _ rfl) ?_
    refine .act () rfl (hallow _ _ rfl) ?_
    refine .act () rfl (hallow _ _ rfl) ?_
    refine .act () rfl (hallow _ _ rfl) ?_
    refine .act (Except.ok () : Result) rfl (hallow _ _ rfl) ?_
    refine .act () rfl (hallow _ _ rfl) ?_
    refine .act () rfl (hallow _ _ rfl) ?_
    refine .act Prog.WriteOutcome.written rfl (hallow _ _ rfl) ?_
    refine .act () rfl (hallow _ _ rfl) ?_
    refine .act () rfl (hallow _ _ rfl) ?_
    refine .act (Except.ok () : Result) rfl (hallow _ _ rfl) ?_
    exact .done _ _
  have hstart : (sessionSystem samplePrimitives plainServer .linux).Reach allow
      (newSession plainServer "session" "plain") _ := .start
  exact (hstart.round .readLoop hgreeted (hallow _ _ rfl)).round .readLoop hrejected
    (hallow _ _ rfl)

/-- The rejected session opens a process when the peer asks once more. -/
theorem rejected_open_reopened :
    (sessionSystem samplePrimitives plainServer .linux).Reach (fun _ _ => True)
        (newSession plainServer "session" "plain")
        ((sessionSystem samplePrimitives plainServer .linux).start rejectedSession) ∧
      rejectedSession.Rejected ∧
      (sessionSystem samplePrimitives plainServer .linux).Reach (fun _ _ => True) rejectedSession
        ((sessionSystem samplePrimitives plainServer .linux).start reopenedSession) ∧
      reopenedSession.cmd = true := by
  refine ⟨rejectedSession_reach (fun _ _ _ => trivial) fun _ _ => trivial, ⟨rfl, rfl⟩, ?_, rfl⟩
  have hreopened : Program.Solo (fun _ _ => True) (Prog.readLoop samplePrimitives plainServer)
      rejectedSession true reopenedSession := by
    refine .act () rfl trivial ?_
    refine .act (Prog.Delivery.message (.open (some shellOpen))) rfl trivial ?_
    refine .act () rfl trivial ?_
    refine .act () rfl trivial ?_
    refine .act () rfl trivial ?_
    refine .act (0 : Int) rfl trivial ?_
    refine .act () rfl trivial ?_
    refine .act (Except.ok () : Result) rfl trivial ?_
    refine .act (Except.ok false : Except Error Bool) rfl trivial ?_
    refine .act () rfl trivial ?_
    refine .act () rfl trivial ?_
    refine .act (Except.ok () : Result) rfl trivial ?_
    refine .act () rfl trivial ?_
    refine .act () rfl trivial ?_
    refine .act Prog.WriteOutcome.written rfl trivial ?_
    refine .act () rfl trivial ?_
    refine .act () rfl trivial ?_
    exact .done _ _
  have hstart : (sessionSystem samplePrimitives plainServer .linux).Reach (fun _ _ => True)
      rejectedSession _ := .start
  exact hstart.round .readLoop hreopened trivial

/-- A session that rejected an open request and gets no other one has no process. -/
theorem rejected_open_final_sample : rejectedSession.Rejected ∧
    rejectedSession.opening = false ∧ rejectedSession.cmd = false := by
  have hlimit : DeliveryLimit NoOpenAfterRejection := by
    intro s s' h request hnext
    rw [h] at hnext
    simp at hnext
  have hopen : ∀ s : Session, s.disconnecting = false →
      NoOpenAfterRejection s { s with delivered := s.delivered ++ [.open none] } := by
    intro s hs request _
    refine .inr fun hr => ?_
    simp [hr.1] at hs
  exact ⟨⟨rfl, rfl⟩, rejected_open_final samplePrimitives plainServer .linux "session" "plain"
    (rejectedSession_reach hlimit hopen) ⟨rfl, rfl⟩ .refl⟩

end Sample

end Rstream.WebTTY
