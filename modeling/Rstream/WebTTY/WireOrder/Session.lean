import Rstream.WebTTY.RequestRules
import Rstream.WebTTY.SessionRuns
import Rstream.WebTTY.WireOrder.Streams

/-!
# Requests and the order of a session

The read loop publishes a process, acknowledges it and only then starts the
goroutines that send data. Together with the readers and the waiter this gives
the order of all messages of a session.
-/

namespace Rstream.WebTTY

open Rstream.Core Contract Session

namespace Prog

open Program

variable {cfg : ServerConfig} {g : Goroutine}

variable {K : Type} {P : Primitives K}

/-- The resources of a started process agree on its streams. -/
def Consistent (r : OpenResources) : Prop :=
  r.ptyFile = r.allocateTTY ∧ r.streamsActive = (openStreams r.allocateTTY).card

theorem prepareOpen_order {A : Session → Prop} (hA : orderContract.Stable g A)
    (request : Option Open) :
    orderContract.Triple g A (prepareOpen P cfg request)
      fun r s => A s ∧ ∀ resources, r = .ok resources → Consistent resources := by
  unfold prepareOpen
  split
  · refine andThen_triple (.of_eq (checkProof_respects orderQuiet _) hA)
      (fun s err h => ⟨h, fun _ h => by cases h⟩) fun _ => ?_
    refine andThen_triple (.of_eq (external_respects orderQuiet _) hA)
      (fun s err h => ⟨h, fun _ h => by cases h⟩) fun _ => ?_
    refine andThen_triple (.of_eq (resolveCrypto_respects orderQuiet _) hA)
      (fun s err h => ⟨h, fun _ h => by cases h⟩) fun crypto => ?_
    refine andThen_triple (.of_eq (external_respects orderQuiet _) hA)
      (fun s err h => ⟨h, fun _ h => by cases h⟩) fun group => ?_
    split
    · exact .pure fun s h => ⟨h, fun r hr => by cases hr; exact ⟨rfl, rfl⟩⟩
    · exact .pure fun s h => ⟨h, fun r hr => by cases hr; exact ⟨rfl, rfl⟩⟩
  · exact .pure fun s h => ⟨h, fun _ h => by cases h⟩

theorem opened_stable : orderContract.Stable g fun s => s.opened = true :=
  fun _ _ hrely _ h => (hrely.opened h).1

theorem unopened_stable : orderContract.Stable .readLoop fun s => s.opened = false :=
  fun _ _ hrely _ h => (hrely.openedBy rfl).trans h

/-- Only a session without a process begins to open one. -/
theorem beginOpen_order :
    orderContract.Triple .readLoop (fun _ => True) (atomic beginOpen)
      fun r s => r = .ok () → s.opened = false := by
  refine .atomic stable_const fun s hinv _ _ => ?_
  unfold beginOpen
  split
  · exact ⟨.refl hinv, fun h => by cases h⟩
  · split
    · exact ⟨.refl hinv, fun h => by cases h⟩
    · rename_i hcmd
      simp only [Bool.or_eq_true, not_or, Bool.not_eq_true] at hcmd
      exact ⟨.of_eq rfl hinv, fun _ => hinv.cmd.symm.trans hcmd.1⟩

/-- Publishing a process opens its streams in a session that had none. -/
theorem installOpen_order {r : OpenResources} (hr : Consistent r) :
    orderContract.Triple .readLoop (fun s => s.opened = false) (atomic (installOpen r))
      fun result s => result = .ok () → s.opened = true := by
  refine .atomic unopened_stable fun s hinv hs _ => ?_
  unfold installOpen
  split
  · exact ⟨.of_eq rfl hinv, fun h => by cases h⟩
  · have hstreams : s.streamsOpen = none := hinv.unopened hs
    have hcloser : s.closer = none := by
      by_contra hne
      have hsome := (hinv.closer hne).2
      rw [show s.orderView.streamsOpen = none from hstreams] at hsome
      cases hsome
    have hidle : ∀ u ∈ s.orderView.started, False := by
      intro u hu
      have hopened := (hinv.started u hu).1
      rw [show s.orderView.opened = false from hs] at hopened
      cases hopened
    refine ⟨⟨⟨?_, fun u hu => (hidle u hu).elim, rfl, (fun h => by cases h), fun _ => ?_,
      fun h => absurd hcloser h, hinv.close⟩, fun u hu => ?_⟩, fun _ => rfl⟩
    · refine hinv.legal.imp fun before m hm hlegal => ⟨hlegal.ack, hlegal.eos, fun hclose => ?_⟩
      exact absurd hcloser (hinv.close ⟨m, hm, hclose⟩)
    · refine ⟨_, rfl, hr.2, fun t ht hnot => absurd ?_ hnot⟩
      simpa only [orderView, hr.1] using ht
    · refine ⟨fun _ h => h, fun _ h => h, fun h => ?_, fun h => absurd h hu, fun t _ => ⟨?_, id⟩,
        fun _ => rfl, fun h => ⟨h, id⟩⟩
      · rw [show s.orderView.opened = false from hs] at h
        cases h
      · rintro ⟨streams, hsome, _⟩
        rw [show s.orderView.streamsOpen = none from hstreams] at hsome
        cases hsome

/-- The acknowledgement is on the wire once it was sent. -/
theorem sendAck_order :
    orderContract.Triple g (fun s => s.opened = true) (sendAck cfg g)
      fun r s => r = .ok () → s.opened = true ∧ ∃ a ∈ s.wire, a.isAck := by
  have hacked : orderContract.Stable g fun s => s.opened = true ∧ ∃ a ∈ s.wire, a.isAck :=
    (opened_stable).and fun _ _ hrely _ ⟨a, ha, hack⟩ => ⟨a, hrely.wire ha, hack⟩
  refine .bind (.of_eq (inspect_respects orderQuiet _) opened_stable) fun terminate => ?_
  refine writeMessage_order opened_stable (fun _ => hacked.imp) (fun s err _ h => by cases h) ?_
  intro s hinv hs
  refine ⟨⟨OrderView.Inv.push hinv ?_ (by simp [Message.isClose]), fun u _ => ?_⟩,
    fun r _ => ⟨hs, _, List.mem_append_right _ (List.mem_singleton_self _), rfl⟩⟩
  · exact ⟨by simp [Message.isData], by simp [Message.ofStream], by simp [Message.isClose]⟩
  · exact OrderView.Rely.push (fun t _ => by simp [eosMessage]) (by simp [Message.isClose])

/-- The loops are started after the acknowledgement. -/
theorem startLoops_order (r : OpenResources) :
    orderContract.Triple g (fun s => s.opened = true ∧ ∃ a ∈ s.wire, a.isAck)
      (atomic (startLoops cfg r)) fun _ _ => True := by
  refine .atomic ((opened_stable).and fun _ _ hrely _ ⟨a, ha, hack⟩ => ⟨a, hrely.wire ha, hack⟩) ?_
  intro s hinv hs _
  refine ⟨?_, trivial⟩
  unfold startLoops
  split
  · exact .refl hinv
  · have hwait := started_subset_startLoopLocked .waitLoop s
    have hmore := fun u s' => started_subset_startLoopLocked u s'
    cases r.allocateTTY <;> by_cases hbeat : 0 < cfg.heartbeatInterval.getD 0 <;>
      simp only [hbeat, if_true, if_false, Bool.false_eq_true]
    · exact keeps_started hinv hs (fun u hu => hmore _ _ (hwait hu)) rfl
    · exact keeps_started hinv hs hwait rfl
    · exact keeps_started hinv hs (fun u hu => hmore _ _ (hmore _ _ (hwait hu))) rfl
    · exact keeps_started hinv hs (fun u hu => hmore _ _ (hwait hu)) rfl

theorem sendError_order (err : Error) {A : Session → Prop} (hA : orderContract.Stable g A) :
    orderContract.Triple g A (sendError cfg g err) fun _ => A := by
  unfold sendError protocolErrorForError
  simp only
  split
  · exact writeMessage_plain hA rfl rfl
  · split
    · exact writeMessage_plain hA rfl rfl
    · split
      · exact writeMessage_plain hA rfl rfl
      · exact writeMessage_plain hA rfl rfl

theorem handleOpen_order (request : Option Open) :
    orderContract.Triple .readLoop (fun _ => True) (handleOpen P cfg request)
      fun _ _ => True := by
  refine andThen_triple beginOpen_order (fun _ _ _ => trivial) fun _ => ?_
  refine .bind ((prepareOpen_order unopened_stable request).strengthen fun s h => h rfl)
    fun r => ?_
  rcases r with err | resources
  · refine .bind (Q := fun _ _ => True) ?_ fun closed => ?_
    · refine Contract.Triple.strengthen (P := fun _ => True) ?_ fun _ _ => trivial
      exact .of_eq (.atomic fun _ => rfl) stable_const
    · cases closed
      · refine andThen_triple (sendError_order err stable_const)
          (fun _ _ _ => trivial) fun _ => ?_
        refine .bind (.of_eq (startCloseHandshake_respects orderQuiet fun _ => rfl)
          stable_const) fun _ => ?_
        exact .pure fun _ _ => trivial
      · exact .pure fun _ _ => trivial
  · intro s hs
    refine andThen_triple (installOpen_order (hs.2 resources rfl)) (fun _ _ _ => trivial)
      (fun _ => ?_) s hs.1
    refine andThen_triple ((sendAck_order).strengthen fun s h => h rfl) (fun _ _ _ => trivial)
      fun _ => ?_
    exact (startLoops_order resources).strengthen fun s h => h rfl

/-- Bookkeeping of the read loop: at most a message that is no data and no close. -/
def OrderStep (s s' : Session) : Prop :=
  s'.orderView = s.orderView ∨
    ∃ m : Message, m.isData = false ∧ m.isClose = false ∧ s'.orderView = s.orderView.push m

theorem OrderStep.keeps {s s' : Session} (hinv : orderContract.inv s) (h : OrderStep s s') :
    orderContract.Keeps .readLoop s s' := by
  rcases h with h | ⟨m, hdata, hclose, h⟩
  · exact .of_eq h hinv
  · obtain ⟨hinv', hrely⟩ := OrderView.push_plain hinv hdata hclose
    refine ⟨?_, fun u _ => ?_⟩
    · change OrderView.Inv s'.orderView
      rwa [h]
    · change OrderView.Rely u s.orderView s'.orderView
      rw [h]
      exact hrely u

/-- Everything but an open request is bookkeeping for the order of the messages. -/
theorem orderServing : Serving OrderStep where
  refl _ := .inl rfl
  close _ := .inl rfl
  writeMu _ _ := .inl rfl
  client _ _ := .inl rfl
  deliver _ _ := .inl rfl
  identity _ _ := .inl rfl
  reading _ _ := .inl rfl
  push s m hdata hclose := .inr ⟨m, hdata, hclose, rfl⟩
  takeInput s payload := by
    unfold takeInput
    split
    · exact .inl rfl
    · simp only
      split <;> exact .inl rfl
  input _ _ := .inl rfl
  dropStdin _ := .inl rfl
  handleTerminate s := by
    have hplain : Goroutine.afterAck .terminateProcess = false := rfl
    unfold handleTerminate
    repeat' split
    · exact .inl rfl
    · exact .inl rfl
    · exact .inl rfl
    · refine .inl ?_
      simp [orderView, startLoopLocked, Finset.filter_insert, hplain]

theorem orderSpec : ReadLoopSpec orderContract OrderStep (fun _ => True) fun _ _ => True where
  receiving := (orderServing).toReceiving
  keeps := OrderStep.keeps
  idle_kept _ _ := trivial
  idle_stable := stable_const
  asked_kept _ _ := trivial
  asked_stable _ := stable_const
  asked_idle _ := trivial
  deliver _ _ _ := trivial

theorem readLoop_order :
    orderContract.Triple .readLoop (fun _ => True) (readLoop P cfg) fun _ _ => True :=
  (orderSpec).readLoop_triple ((orderSpec).handleMessage_triple orderServing handleOpen_order)

theorem reportFailure_order (r : Result) :
    orderContract.Triple g (fun _ => True) (reportFailure r) fun _ _ => True :=
  .of_eq (reportFailure_respects orderQuiet r) stable_const

theorem heartbeatLoop_order :
    orderContract.Triple .heartbeatLoop (fun _ => True) (heartbeatLoop cfg)
      fun _ _ => True := by
  refine .bind (.of_eq (awaitStart_respects orderQuiet) stable_const) fun _ => ?_
  refine .bind (.of_eq (.choose fun s i b s' h => ?_) stable_const) fun done => ?_
  · split at h
    · cases h
    · cases h
      rfl
  · cases done
    · refine .bind (.of_eq (inspect_respects orderQuiet _) stable_const) fun closed => ?_
      cases closed
      · exact .bind (writeMessage_plain stable_const rfl rfl) fun r =>
          reportFailure_order r
      · exact .pure fun _ _ => trivial
    · exact .pure fun _ _ => trivial

/-- What holds whenever a goroutine starts a round. -/
def orderLoop : Goroutine → Session → Prop
  | .stdoutLoop => Unended .stdout
  | .stderrLoop => Unended .stderr
  | .waitLoop => fun s => s.childDone = false
  | _ => fun _ => True

theorem orderLoop_stable (g : Goroutine) : orderContract.Stable g (orderLoop g) := by
  cases g
  case stdoutLoop => exact unended_stable rfl
  case stderrLoop => exact unended_stable rfl
  case waitLoop => exact fun _ _ hrely _ h => (hrely.waiter rfl).trans h
  all_goals exact stable_const

theorem body_order (P : Primitives K) (cfg : ServerConfig) (platform : Platform) (g : Goroutine) :
    orderContract.Triple g (orderLoop g) (body P cfg platform g)
      fun again s => again = true → orderLoop g s := by
  have htrue : ∀ {u : Goroutine} {p : Prog Bool},
      orderContract.Triple u (fun _ => True) p (fun _ _ => True) →
      orderContract.Triple u (fun _ => True) p fun again _ => again = true → True :=
    fun h => h.weaken fun _ _ _ _ => trivial
  cases g with
  | readLoop => exact htrue readLoop_order
  | stdoutLoop => exact streamLoop_order (t := .stdout) rfl rfl
  | stderrLoop => exact streamLoop_order (t := .stderr) rfl rfl
  | waitLoop => exact waitLoop_order
  | heartbeatLoop => exact htrue heartbeatLoop_order
  | terminateProcess =>
    exact htrue (.of_eq (terminateProcess_respects orderQuiet) stable_const)
  | openTimer => exact htrue (.of_eq (onOpenTimeout_respects orderQuiet) stable_const)
  | closeTimer => exact htrue (.of_eq (onCloseTimeout_respects orderQuiet) stable_const)
  | shutdown =>
    exact htrue (.of_eq (shutdown_respects orderQuiet fun _ => rfl) stable_const)

end Prog

theorem newSession_order (cfg : ServerConfig) (sessionID transport : String) :
    orderContract.inv (newSession cfg sessionID transport) where
  legal := eachAfter_nil
  started g hg := by simp [newSession, orderView] at hg
  cmd := rfl
  unopened _ := rfl
  streams h := by cases h
  closer h := absurd rfl h
  close h := by
    obtain ⟨a, ha, _⟩ := h
    simp [newSession, orderView] at ha

theorem session_order_sound {K : Type} (P : Primitives K) (cfg : ServerConfig)
    (platform : Prog.Platform) (sessionID transport : String) :
    orderContract.Sound (sessionSystem P cfg platform) Prog.orderLoop
      (newSession cfg sessionID transport) where
  inv_start := newSession_order cfg sessionID transport
  loop_start g := by cases g <;> simp [Prog.orderLoop, Prog.Unended, newSession]
  loop_stable := Prog.orderLoop_stable
  body := Prog.body_order P cfg platform
  abort _ h := by cases h

/-- Whatever the schedule, the messages a session wrote are in order. -/
theorem session_wire_order {K : Type} (P : Primitives K) (cfg : ServerConfig)
    (platform : Prog.Platform) (sessionID transport : String) {c : Core.Config Goroutine Session}
    (hreach : (sessionSystem P cfg platform).Reach (fun _ _ => True)
      (newSession cfg sessionID transport) c) : WireOrder c.state := by
  have hinv : orderContract.inv c.state :=
    (session_order_sound P cfg platform sessionID transport).inv_of_reach hreach
  exact ⟨hinv.legal, fun hclose => (hinv.closer (hinv.close hclose)).1⟩

/-- A shell that prints one chunk and exits, from the greeting to the `Close`. -/
theorem session_wire_order_shell :
    ∃ c, (sessionSystem samplePrimitives sampleServer .linux).Reach (fun _ _ => True)
      (newSession sampleServer "session" "websocket") c ∧
      c.state.wire = [.serverHello, .ack false, .data (some ⟨.stdout, .data [104]⟩),
        .data (some ⟨.stdout, .eos⟩), .data (some ⟨.stderr, .eos⟩), .close 0] ∧
      WireOrder c.state := by
  have hopened := Prog.openedSession_reach (fun _ _ _ => trivial)
    ⟨true, true, false, true, false, true⟩ .linux fun _ _ => trivial
  have hwaiting := hopened
    |>.act .waitLoop () rfl rfl trivial
    |>.act .waitLoop () rfl rfl trivial
    |>.act .waitLoop () rfl rfl trivial
    |>.act .waitLoop () rfl rfl trivial
  have hdata := hwaiting
    |>.act .stdoutLoop () rfl rfl trivial
    |>.act .stdoutLoop ([104], (none : Option Prog.ReadError)) rfl rfl trivial
    |>.act .stdoutLoop () rfl rfl trivial
    |>.act .stdoutLoop () rfl rfl trivial
    |>.act .stdoutLoop (Except.ok () : Result) rfl rfl trivial
    |>.act .stdoutLoop () rfl rfl trivial
    |>.act .stdoutLoop () rfl rfl trivial
    |>.act .stdoutLoop Prog.WriteOutcome.written rfl rfl trivial
    |>.act .stdoutLoop () rfl rfl trivial
    |>.again .stdoutLoop rfl trivial
  have hstdout := hdata
    |>.act .stdoutLoop () rfl rfl trivial
    |>.act .stdoutLoop ([], some Prog.ReadError.eof) rfl rfl trivial
    |>.act .stdoutLoop () rfl rfl trivial
    |>.act .stdoutLoop (Except.ok () : Result) rfl rfl trivial
    |>.act .stdoutLoop () rfl rfl trivial
    |>.act .stdoutLoop () rfl rfl trivial
    |>.act .stdoutLoop Prog.WriteOutcome.written rfl rfl trivial
    |>.act .stdoutLoop () rfl rfl trivial
    |>.act .stdoutLoop () rfl rfl trivial
    |>.act .stdoutLoop () rfl rfl trivial
  have hstderr := hstdout
    |>.act .stderrLoop () rfl rfl trivial
    |>.act .stderrLoop ([], some Prog.ReadError.eof) rfl rfl trivial
    |>.act .stderrLoop () rfl rfl trivial
    |>.act .stderrLoop (Except.ok () : Result) rfl rfl trivial
    |>.act .stderrLoop () rfl rfl trivial
    |>.act .stderrLoop () rfl rfl trivial
    |>.act .stderrLoop Prog.WriteOutcome.written rfl rfl trivial
    |>.act .stderrLoop () rfl rfl trivial
    |>.act .stderrLoop () rfl rfl trivial
    |>.act .stderrLoop () rfl rfl trivial
  have hclose := hstderr
    |>.act .waitLoop () rfl rfl trivial
    |>.act .waitLoop (Except.ok 0 : Except Error Int) rfl rfl trivial
    |>.act .waitLoop () rfl rfl trivial
    |>.act .waitLoop () rfl rfl trivial
    |>.act .waitLoop (Except.ok () : Result) rfl rfl trivial
    |>.act .waitLoop () rfl rfl trivial
    |>.act .waitLoop () rfl rfl trivial
    |>.act .waitLoop Prog.WriteOutcome.written rfl rfl trivial
  exact ⟨_, hclose, rfl, session_wire_order samplePrimitives sampleServer .linux "session"
    "websocket" hclose⟩

end Rstream.WebTTY
