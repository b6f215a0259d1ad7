import Rstream.Core.Points
import Rstream.Channel.TunnelOpening

/-!
# The control channel as a flat machine

The points of the threads of a control channel, one before each of their atomic actions, and
what a thread can do at each of them.
-/

namespace Rstream.Channel

open Rstream.Core Program Function ControlProg Control

/-- Where a thread stands. -/
inductive ControlPoint
  | validating
  | registering
  | locking
  | sending
  | writing
  | awaiting
  | cancelling
  | taking
  /-- The request was not written, or not completely: it is given up. -/
  | givingUp (err : String) (failed : Bool)
  /-- The call returns this error. -/
  | refusing (err : String)
  /-- The call returns this error after it has closed the channel. -/
  | failing (err : String)
  | unmarking
  | reading
  | handling (read : ReadResult)
  /-- Before the locked section of `onError`. -/
  | erroring (err : Option String)
  | cleaning (err : Option String) (pending : List Nat)
  | closing
  | requesting (sendClose : Bool)
  | waiting
  | observing
  | releasing
  | released
  | receiving
  | attaching (ch : Nat × String)
  | attached (ch : Nat × String)
  | detaching (ch : Nat × String)
  | finishing
  | closingDone
  | closingClosed
  | ended (again : Bool)

namespace ControlPoint

/-- Where a thread starts. -/
def entry : ControlThread → ControlPoint
  | .create _ => validating
  | .read => reading
  | .close _ => closing
  | .fail _ => observing
  | .release _ => releasing
  | .worker _ => receiving
  | .finish => finishing

/-- Where a thread goes on after `onError`. -/
def after : ControlThread → Option String → ControlPoint
  | .create _, err => failing (err.getD "")
  | .read, _ | .close _, _ => unmarking
  | .fail _, _ => ended true
  | _, _ => ended false

end ControlPoint

namespace ControlProg

/-- What `onError` leaves to do. -/
def endCode : ControlThread → ControlPoint → ControlProg Bool
  | .create n, .failing err => do
    atomic fun s => ((), s.finish n (.error err))
    atomic fun s => ((), s.setCloser (.create n) false)
    return false
  | .create n, .unmarking => do
    atomic fun s => ((), s.setCloser (.create n) false)
    return false
  | .close k, .unmarking => do
    atomic fun s => ((), s.setCloser (.close k) false)
    return true
  | .read, .unmarking => do
    atomic fun s => ((), { s.setCloser .read false with lifecycleWG := s.lifecycleWG - 1 })
    return false
  | _, .ended again => return again
  | _, _ => return false

def errorCode (t : ControlThread) : ControlPoint → ControlProg Bool
  | .erroring err => do
    onError t err
    endCode t (.after t err)
  | .cleaning err pending => do
    cleanup err pending
    endCode t (.after t err)
  | p => endCode t p

/-- What a call of `CreateTunnel` does after the write of its request. -/
def writtenCode (n : Nat) : Option WriteError → ControlProg Unit
  | none => awaitOpenTunnelResult n
  | some (.refused err) => do
    atomic fun s => ((), s.giveUp n)
    atomic fun s => ((), s.finish n (.error ("failed to send OpenTunnelReq: " ++ err)))
  | some (.failed err) => do
    atomic fun s => ((), s.giveUp n)
    onError (.create n) (some ("failed to send OpenTunnelReq: " ++ err))
    atomic fun s => ((), s.finish n (.error ("failed to send OpenTunnelReq: " ++ err)))
    atomic fun s => ((), s.setCloser (.create n) false)

/-- What a call of `CreateTunnel` still has to do. -/
def createCode (n : Nat) : ControlPoint → ControlProg Unit
  | .validating => createTunnel n
  | .registering => do
    match ← choose (register n) with
    | some err => atomic fun s => ((), s.finish n (.error err))
    | none =>
      let written ← writeOpenTunnelReq n
      writtenCode n written
  | .refusing err => atomic fun s => ((), s.finish n (.error err))
  | .locking => do
    let written ← writeOpenTunnelReq n
    writtenCode n written
  | .sending => do
    atomic fun s => ((), { s with sent := update s.sent n true })
    let written ← choose (writeDone n)
    writtenCode n written
  | .writing => do
    let written ← choose (writeDone n)
    writtenCode n written
  | .givingUp err failed => writtenCode n (some (if failed then .failed err else .refused err))
  | .awaiting => awaitOpenTunnelResult n
  | .cancelling => do
    if ← atomic (cancelPending n) then return ()
    else choose fun s (_ : Unit) => (receiveResult n s).map ((), ·)
  | .taking => choose fun s (_ : Unit) => (receiveResult n s).map ((), ·)
  | _ => return ()

/-- The last wait of `Close`. -/
def awaitCode (k : Nat) : ControlProg Unit := do
  match ← choose awaitClosed with
  | .closed => return ()
  | .timeout => onError (.close k) (some "timed out waiting for control channel to close")

/-- What the owner of a tunnel does after it has sent its request. -/
def releasedCode (n : Nat) : ControlProg Unit := do
  match ← receive (Option String) with
  | none => return ()
  | some err => onError (.release n) (some err)

/-- What a thread at a point still has to do. -/
def code : ControlThread → ControlPoint → ControlProg Bool
  | .read, .reading => readLoop
  | .read, .handling read => do
    match ← atomic (readRound read) with
    | none => return true
    | some err => errorCode .read (.erroring err)
  | .close k, .closing => do
    close k
    return true
  | .close k, .requesting sendClose => do
    closeEnd k sendClose
    errorCode (.close k) .unmarking
  | .close k, .waiting => awaitCode k >>= fun _ => errorCode (.close k) .unmarking
  | .fail k, .observing => do
    let err ← receive String
    onError (.fail k) (some err)
    return true
  | .release n, .releasing => do
    releaseTunnel n
    return false
  | .release n, .released => releasedCode n >>= fun _ => return false
  | .worker _, .receiving => do
    let ch ← receive (Nat × String)
    handleDatagramProxyConnReq ch
    return true
  | .worker _, .attaching ch => do
    handleDatagramProxyConnReq ch
    return true
  | .worker _, .attached ch => do
    receive Unit
    atomic fun s => ((), unregisterDatagramChannel ch s)
    return true
  | .worker _, .detaching ch => do
    atomic fun s => ((), unregisterDatagramChannel ch s)
    return true
  | .finish, .finishing => do
    finish
    return false
  | .finish, .closingDone => do
    atomic fun s => ((), { s with doneCh := s.doneCh.close })
    atomic fun s => ((), { s with closedCh := s.closedCh.close })
    return false
  | .finish, .closingClosed => do
    atomic fun s => ((), { s with closedCh := s.closedCh.close })
    return false
  | .create n, .validating => createCode n .validating >>= fun _ => return false
  | .create n, .registering => createCode n .registering >>= fun _ => return false
  | .create n, .refusing err => createCode n (.refusing err) >>= fun _ => return false
  | .create n, .locking => createCode n .locking >>= fun _ => return false
  | .create n, .sending => createCode n .sending >>= fun _ => return false
  | .create n, .writing => createCode n .writing >>= fun _ => return false
  | .create n, .givingUp err failed => createCode n (.givingUp err failed) >>= fun _ => return false
  | .create n, .awaiting => createCode n .awaiting >>= fun _ => return false
  | .create n, .cancelling => createCode n .cancelling >>= fun _ => return false
  | .create n, .taking => createCode n .taking >>= fun _ => return false
  | t, p => errorCode t p

end ControlProg

/-- What the handling of a message may do to the requests. -/
inductive Handles (msg : Except String ServerMessage) (s : Control) : Control → Prop
  | same : Handles msg s s
  | tables (tunnels datagramTunnels : List String) (datagramChannels : List (Nat × String))
      (proxyTransports : List String) (hopen : s.closed = false) :
      Handles msg s { s with tunnels, datagramTunnels, datagramChannels, proxyTransports }
  | answer {n : Nat} {result : OpenTunnelResult} (tunnels datagramTunnels : List String)
      (hn : n ∈ s.pendingTunnels)
      (hok : ∀ tunnel, result = .ok tunnel → ∃ props,
        msg.toOption.bind reported = some (n, props) ∧ props.id = some tunnel.tunnelID) :
      Handles msg s ({ s.deletePending n with tunnels, datagramTunnels }.respond n result)

/-- The answer finds its request pending and carries an ID the channel takes. -/
def Control.Deliverable (s : Control) (n : Nat) (props : OpenedProperties) : Prop :=
  n ∈ s.pendingTunnels ∧ s.sent n = true ∧
    ∃ tunnelID, props.id = some tunnelID ∧ Go.trimSpace tunnelID ≠ "" ∧ tunnelID ∉ s.tunnels

/-- An answer that can be delivered goes into the channel of its request. -/
def Takes (msg : Except String ServerMessage) (s s' : Control) : Prop :=
  ∀ n props, msg.toOption.bind reported = some (n, props) → s.Deliverable n props →
    s.closing = false → s.lifecycleCtx = true →
    ∃ tunnel, props.id = some tunnel.tunnelID ∧ s'.respCh n = (s.respCh n).send (.ok tunnel)

/-- Where a thread can go on its own. -/
inductive ControlPass (s : Control) : ControlThread → ControlPoint → ControlPoint → Prop
  | invalid (n : Nat) (err : String) : ControlPass s (.create n) .validating (.refusing err)
  | validate (n : Nat) : ControlPass s (.create n) .validating .registering
  | refuse (n : Nat) (err : String) : ControlPass s (.create n) .registering (.refusing err)
  | unlocked (n : Nat) (err : String) : ControlPass s (.create n) .locking (.givingUp err false)
  | lock (n : Nat) : ControlPass s (.create n) .locking .sending
  | written (n : Nat) : ControlPass s (.create n) .writing .awaiting
  | done (n : Nat) : ControlPass s (.create n) .awaiting .cancelling
  | late (n : Nat) : ControlPass s (.create n) .cancelling .taking
  | read (read : ReadResult) : ControlPass s .read .reading (.handling read)
  | shut (k : Nat) : ControlPass s (.close k) .closing (.ended true)
  | unrequested (k : Nat) (sendClose : Bool) (err : Option String) :
      ControlPass s (.close k) (.requesting sendClose) (.erroring err)
  | request (k : Nat) (sendClose : Bool) : ControlPass s (.close k) (.requesting sendClose) .waiting
  | closed (k : Nat) (h : s.closedCh.closed = true) : ControlPass s (.close k) .waiting .unmarking
  | timeout (k : Nat) (err : Option String) : ControlPass s (.close k) .waiting (.erroring err)
  | observe (k : Nat) (err : Option String) : ControlPass s (.fail k) .observing (.erroring err)
  | released (n : Nat) : ControlPass s (.release n) .released (.ended false)
  | unreleased (n : Nat) (err : Option String) :
      ControlPass s (.release n) .released (.erroring err)
  | receive (k : Nat) (ch : Nat × String) : ControlPass s (.worker k) .receiving (.attaching ch)
  | unattached (k : Nat) (ch : Nat × String) :
      ControlPass s (.worker k) (.attaching ch) (.ended true)
  | closeChannel (k : Nat) (ch : Nat × String) :
      ControlPass s (.worker k) (.attached ch) (.detaching ch)
  | again (t : ControlThread) : ControlPass s t (.ended true) (.entry t)

/-- What a thread can do next. -/
inductive ControlMove (s : Control) : ControlThread → ControlPoint → ControlPoint → Control → Prop
  | pass {t : ControlThread} {q p : ControlPoint} (h : ControlPass s t q p) : ControlMove s t q p s
  | register (n : Nat) (hopen : s.closed = false) :
      ControlMove s (.create n) .registering .locking { s with
        pendingTunnels := n :: s.pendingTunnels
        respCh := update s.respCh n .make
        waits := update s.waits n true }
  | refuse (n : Nat) (err : String) :
      ControlMove s (.create n) (.refusing err) (.ended false) (s.finish n (.error err))
  | send (n : Nat) :
      ControlMove s (.create n) .sending .writing { s with sent := update s.sent n true }
  | writeFail (n : Nat) (err : String) :
      ControlMove s (.create n) .writing (.givingUp err true) (s.setCloser (.create n) true)
  | giveUp (n : Nat) (err err' : String) :
      ControlMove s (.create n) (.givingUp err false) (.refusing err') (s.giveUp n)
  | giveUpFailed (n : Nat) (err : String) (err' : Option String) :
      ControlMove s (.create n) (.givingUp err true) (.erroring err') (s.giveUp n)
  | take (n : Nat) {q : ControlPoint} {result : OpenTunnelResult}
      (hq : q = .awaiting ∨ q = .taking) (hbuffer : (s.respCh n).buffer = some result) :
      ControlMove s (.create n) q (.ended false) { s.finish n result with
        respCh := update s.respCh n { s.respCh n with buffer := none } }
  | takeClosed (n : Nat) {q : ControlPoint} (err : String) (hq : q = .awaiting ∨ q = .taking)
      (hbuffer : (s.respCh n).buffer = none) (hclosed : (s.respCh n).closed = true) :
      ControlMove s (.create n) q (.ended false) (s.finish n (.error err))
  | cancel (n : Nat) (err : String) (hn : n ∈ s.pendingTunnels) :
      ControlMove s (.create n) .cancelling (.ended false)
        ((s.deletePending n).finish n (.error err))
  | fail (n : Nat) (err : String) :
      ControlMove s (.create n) (.failing err) .unmarking (s.finish n (.error err))
  | unmarkCreate (n : Nat) :
      ControlMove s (.create n) .unmarking (.ended false) (s.setCloser (.create n) false)
  | unmarkClose (k : Nat) :
      ControlMove s (.close k) .unmarking (.ended true) (s.setCloser (.close k) false)
  | unmarkRead : ControlMove s .read .unmarking (.ended false)
      { s.setCloser .read false with lifecycleWG := s.lifecycleWG - 1 }
  | go {read : ReadResult} {s₁ : Control} (hopen : s.closed = false)
      (h : Handles read.msg s s₁) (htakes : Takes read.msg s s₁) :
      ControlMove s .read (.handling read) (.ended true) (s₁.report read.msg)
  | stop {read : ReadResult} {s₁ : Control} (err : Option String) (h : Handles read.msg s s₁) :
      ControlMove s .read (.handling read) (.erroring err)
        ((s₁.setCloser .read true).report read.msg)
  | failAgain (t : ControlThread) (err : Option String) (hclosed : s.closed = true) :
      ControlMove s t (.erroring err) (.after t err) { s with failures := s.failures ++ [err] }
  | detach (t : ControlThread) (err : Option String) (hopen : s.closed = false) :
      ControlMove s t (.erroring err) (.cleaning err s.pendingTunnels) { s with
        closed := true
        err := err
        pendingTunnels := []
        tunnels := []
        datagramTunnels := []
        datagramChannels := []
        proxyTransports := []
        failures := s.failures ++ [err]
        shutdowns := s.shutdowns + 1
        cleaner := some t
        cleaning := s.pendingTunnels }
  | closeRespCh (t : ControlThread) (err : Option String) (n : Nat) (rest : List Nat) :
      ControlMove s t (.cleaning err (n :: rest)) (.cleaning err rest) (s.closeRespCh n)
  | cleaned (t : ControlThread) (err : Option String) :
      ControlMove s t (.cleaning err []) (.after t err)
        { s with finishing := some err, cleaner := none }
  | beginClose (k : Nat) (sendClose : Bool) :
      ControlMove s (.close k) .closing (.requesting sendClose)
        { s.setCloser (.close k) true with closing := true }
  | release (n : Nat) (tunnelID : String) :
      ControlMove s (.release n) .releasing .released
        { s with closeTunnelReqs := tunnelID :: s.closeTunnelReqs }
  | attach (k : Nat) (ch : Nat × String) (hopen : s.closed = false) :
      ControlMove s (.worker k) (.attaching ch) (.attached ch)
        { s with datagramChannels := ch :: s.datagramChannels }
  | detachChannel (k : Nat) (ch : Nat × String) :
      ControlMove s (.worker k) (.detaching ch) (.ended true) (unregisterDatagramChannel ch s)
  | sendDone (err : Option String) (h : s.finishing = some err) :
      ControlMove s .finish .finishing .closingDone { s with doneCh := s.doneCh.send err }
  | closeDone : ControlMove s .finish .closingDone .closingClosed
      { s with doneCh := s.doneCh.close }
  | closeClosed : ControlMove s .finish .closingClosed (.ended false)
      { s with closedCh := s.closedCh.close }

section Messages

variable {s s' : Control} {n : Nat} {props : OpenedProperties}

/-- Opening a tunnel changes only the tables of tunnels. -/
theorem Control.openTunnelResultLocked_frame (rsp : OpenTunnelRsp) (s : Control) :
    ∃ tunnels datagramTunnels, (s.openTunnelResultLocked rsp).2 =
      { s with tunnels := tunnels, datagramTunnels := datagramTunnels } := by
  unfold openTunnelResultLocked openTunnelFromPropertiesLocked
  split
  · exact ⟨_, _, rfl⟩
  · split
    · exact ⟨_, _, rfl⟩
    · split_ifs <;> exact ⟨_, _, rfl⟩
  · exact ⟨_, _, rfl⟩

/-- A result with a tunnel answers the properties the engine reported. -/
theorem Control.openTunnelResultLocked_ok {rsp : OpenTunnelRsp} {tunnel : OpenedTunnel}
    (h : (s.openTunnelResultLocked rsp).1 = .ok tunnel) :
    ∃ props, rsp.payload = some (.inr props) ∧ props.id = some tunnel.tunnelID := by
  unfold openTunnelResultLocked at h
  split at h
  · cases h
  · next props hpayload =>
    refine ⟨props, hpayload, ?_⟩
    unfold openTunnelFromPropertiesLocked at h
    split at h
    · cases h
    · next tunnelID hid =>
      rw [hid]
      split_ifs at h <;> cases h <;> rfl
  · cases h

theorem Control.handleMessage_handles (msg : ServerMessage) (s : Control) :
    Handles (.ok msg) s (s.handleMessage msg).2 := by
  unfold handleMessage
  split_ifs with hclosed
  · exact .same
  · have hopen : s.closed = false := by simpa using hclosed
    cases msg with
    | openTunnelRsp rsp =>
      simp only [handleOpenTunnelRsp]
      split
      · exact .same
      · next rsp =>
        split_ifs with hn
        · obtain ⟨tunnels, datagramTunnels, hframe⟩ :=
            (s.deletePending rsp.requestID).openTunnelResultLocked_frame rsp
          simp only [hframe]
          refine .answer tunnels datagramTunnels hn fun tunnel hok => ?_
          obtain ⟨props, hpayload, hid⟩ := openTunnelResultLocked_ok hok
          obtain ⟨requestID, payload⟩ := rsp
          cases hpayload
          exact ⟨props, rfl, hid⟩
        · exact .same
    | closeTunnelRsp tunnelID =>
      simp only [handleCloseTunnelRsp]
      split_ifs
      · exact .tables _ _ _ _ hopen
      · exact .same
    | closeControlChannelRsp | other => exact .same
    | proxyConnReq endpoint err =>
      simp only [proxyTransportLocked]
      split
      · exact .same
      · split_ifs
        · exact .same
        · exact .tables _ _ _ _ hopen

/-- A message that reports a tunnel answers a request. -/
theorem Control.reported_eq_some {msg : ServerMessage} (h : reported msg = some (n, props)) :
    msg = .openTunnelRsp (some ⟨n, some (.inr props)⟩) := by
  unfold reported at h
  split at h
  · cases h
    rfl
  · cases h

theorem Control.handleMessage_takes (msg : ServerMessage) (hopen : s.closed = false) :
    Takes (.ok msg) s (s.handleMessage msg).2 := by
  rintro n props hreported ⟨hn, _, tunnelID, hid, hblank, hnew⟩ hclosing hlifecycle
  obtain rfl := reported_eq_some hreported
  obtain ⟨tunnels, datagramTunnels, hframe⟩ :=
    (s.deletePending n).openTunnelResultLocked_frame ⟨n, some (.inr props)⟩
  obtain ⟨tunnel, rfl, hresult⟩ : ∃ tunnel, tunnel.tunnelID = tunnelID ∧
      ((s.deletePending n).openTunnelResultLocked ⟨n, some (.inr props)⟩).1 = .ok tunnel := by
    simp only [openTunnelResultLocked, openTunnelFromPropertiesLocked, deletePending, hid, hblank,
      hnew, hopen, hclosing, hlifecycle, if_false, Bool.or_self, Bool.not_true, Bool.false_eq_true]
    split_ifs <;> exact ⟨_, rfl, rfl⟩
  refine ⟨tunnel, hid, ?_⟩
  simp only [handleMessage, hopen, Bool.false_eq_true, if_false, handleOpenTunnelRsp, hn,
    not_true_eq_false, hresult, hframe, respond, update_self]
  rfl

/-- What one round of the read loop leads to. -/
theorem ControlMove.readRound (read : ReadResult) (s : Control) :
    ControlMove s .read (.handling read) ((readRound read s).1.elim (.ended true) .erroring)
      (readRound read s).2 := by
  obtain ⟨msg, deadlineErr⟩ := read
  unfold ControlProg.readRound handleRead
  cases msg with
  | error cause => exact .stop _ .same
  | ok msg =>
    have hhandles := s.handleMessage_handles msg
    simp only
    split_ifs with hclosed hdeadline
    · exact .stop _ .same
    · exact .stop _ .same
    · have hopen : s.closed = false := by simpa using hclosed
      have htakes := handleMessage_takes msg hopen
      split <;> next s₁ hs =>
        rw [hs] at hhandles htakes
        first | exact .stop _ hhandles | exact .go hopen hhandles htakes

theorem ControlMove.receiveResult {q : ControlPoint} (hq : q = .awaiting ∨ q = .taking)
    (h : receiveResult n s = some s') : ControlMove s (.create n) q (.ended false) s' := by
  unfold ControlProg.receiveResult at h
  split at h
  · cases h
    exact .take n hq ‹_›
  · split_ifs at h with hclosed
    cases h
    exact .takeClosed n _ hq ‹_› hclosed

end Messages

/-- The points describe the threads. -/
def controlPoints : Points controlSystem ControlPoint where
  code := ControlProg.code
  entry := ControlPoint.entry
  move t q s p s' := ControlMove s t q p s'
  body t := by cases t <;> rfl
  act := by
    intro t p s ι β s' step k i b hcode hstep
    cases p with
    | erroring err =>
      cases t <;> cases hcode <;> simp only [detachCleanupLocked, Option.some.injEq] at hstep <;>
        split at hstep <;> cases hstep
      all_goals first
        | exact ⟨_, rfl, .failAgain _ err ‹_›⟩
        | exact ⟨_, rfl, .detach _ err (Bool.eq_false_iff.mpr ‹_›)⟩
    | cleaning err pending =>
      rcases pending with - | ⟨n, rest⟩ <;> cases t <;> cases hcode <;> cases hstep
      all_goals first
        | exact ⟨_, rfl, .cleaned _ err⟩
        | exact ⟨_, rfl, .closeRespCh _ err n rest⟩
    | validating =>
      cases t <;> cases hcode
      cases hstep
      cases i with
      | none => exact ⟨_, rfl, .pass (.validate _)⟩
      | some err => exact ⟨_, rfl, .pass (.invalid _ err)⟩
    | registering =>
      cases t <;> cases hcode
      simp only [register] at hstep
      split_ifs at hstep with hclosed
      · cases hstep
        exact ⟨_, rfl, .pass (.refuse _ _)⟩
      · cases hstep
        exact ⟨_, rfl, .pass (.refuse _ _)⟩
      · split at hstep <;> cases hstep
        · exact ⟨_, rfl, .pass (.refuse _ _)⟩
        · exact ⟨_, rfl, .register _ (Bool.eq_false_iff.mpr hclosed)⟩
    | refusing err =>
      cases t <;> cases hcode
      cases hstep
      exact ⟨_, rfl, .refuse _ err⟩
    | locking =>
      cases t <;> cases hcode
      cases hstep
      cases i with
      | none => exact ⟨_, rfl, .pass (.lock _)⟩
      | some err => exact ⟨.givingUp err false, rfl, .pass (.unlocked _ err)⟩
    | sending =>
      cases t <;> cases hcode
      cases hstep
      exact ⟨_, rfl, .send _⟩
    | writing =>
      cases t <;> cases hcode
      cases i <;> cases hstep
      · exact ⟨_, rfl, .pass (.written _)⟩
      · exact ⟨.givingUp _ true, rfl, .writeFail _ _⟩
    | givingUp err failed =>
      cases failed <;> cases t <;> cases hcode <;> cases hstep
      · exact ⟨.refusing _, rfl, .giveUp _ err _⟩
      · exact ⟨.erroring (some ("failed to send OpenTunnelReq: " ++ err)),
          (onError _ _).bind_assoc _ _, .giveUpFailed _ err _⟩
    | awaiting =>
      cases t <;> cases hcode
      simp only [awaitSelect] at hstep
      split_ifs at hstep
      · cases hstep
        exact ⟨_, rfl, .pass (.done _)⟩
      · obtain ⟨s₁, hreceive, heq⟩ := Option.map_eq_some_iff.mp hstep
        cases heq
        exact ⟨_, rfl, .receiveResult (.inl rfl) hreceive⟩
    | cancelling =>
      cases t <;> cases hcode
      simp only [cancelPending, Option.some.injEq] at hstep
      split_ifs at hstep with hn <;> cases hstep
      · exact ⟨_, rfl, .cancel _ _ hn⟩
      · exact ⟨_, rfl, .pass (.late _)⟩
    | taking =>
      cases t <;> cases hcode
      obtain ⟨s₁, hreceive, heq⟩ := Option.map_eq_some_iff.mp hstep
      cases heq
      exact ⟨_, rfl, .receiveResult (.inr rfl) hreceive⟩
    | failing err =>
      cases t <;> cases hcode
      cases hstep
      exact ⟨_, rfl, .fail _ err⟩
    | unmarking =>
      cases t <;> cases hcode <;> cases hstep
      · exact ⟨_, rfl, .unmarkCreate _⟩
      · exact ⟨_, rfl, .unmarkRead⟩
      · exact ⟨_, rfl, .unmarkClose _⟩
    | reading =>
      cases t <;> cases hcode
      cases hstep
      exact ⟨_, rfl, .pass (.read _)⟩
    | handling read =>
      cases t <;> cases hcode
      cases hstep
      refine ⟨_, ?_, .readRound read s⟩
      change (match (readRound read s).1 with
        | none => pure true
        | some err => errorCode .read (.erroring err)) = _
      cases (readRound read s).1 <;> rfl
    | closing =>
      cases t <;> cases hcode
      simp only [closeBegin, Option.some.injEq] at hstep
      split_ifs at hstep <;> cases hstep
      · exact ⟨_, rfl, .pass (.shut _)⟩
      · exact ⟨.requesting (!s.closing), (closeEnd _ _).bind_assoc _ _, .beginClose _ _⟩
    | requesting sendClose =>
      cases t <;> cases hcode
      cases hstep
      rcases sendClose with - | - <;> rcases i with - | err
      all_goals first
        | exact ⟨.waiting, rfl, .pass (.request _ _)⟩
        | exact ⟨.erroring _, rfl, .pass (.unrequested _ _ _)⟩
    | waiting =>
      cases t <;> cases hcode
      cases i <;> simp only [awaitClosed] at hstep
      · split_ifs at hstep with hclosed
        cases hstep
        exact ⟨_, rfl, .pass (.closed _ hclosed)⟩
      · cases hstep
        exact ⟨_, rfl, .pass (.timeout _ _)⟩
    | observing =>
      cases t <;> cases hcode
      cases hstep
      exact ⟨_, rfl, .pass (.observe _ _)⟩
    | releasing =>
      cases t <;> cases hcode
      simp only [closeTunnelReq] at hstep
      split at hstep <;> cases hstep
      exact ⟨_, rfl, .release _ _⟩
    | released =>
      cases t <;> cases hcode
      cases hstep
      cases i with
      | none => exact ⟨_, rfl, .pass (.released _)⟩
      | some err => exact ⟨_, rfl, .pass (.unreleased _ _)⟩
    | receiving =>
      cases t <;> cases hcode
      cases hstep
      exact ⟨_, rfl, .pass (.receive _ _)⟩
    | attaching ch =>
      cases t <;> cases hcode
      simp only [registerDatagramChannel, Option.some.injEq] at hstep
      split_ifs at hstep with hrefused <;> cases hstep
      · exact ⟨_, rfl, .pass (.unattached _ ch)⟩
      · exact ⟨_, rfl, .attach _ ch (by simp_all)⟩
    | attached ch =>
      cases t <;> cases hcode
      cases hstep
      exact ⟨_, rfl, .pass (.closeChannel _ ch)⟩
    | detaching ch =>
      cases t <;> cases hcode
      cases hstep
      exact ⟨_, rfl, .detachChannel _ ch⟩
    | finishing =>
      cases t <;> cases hcode
      simp only [sendDone] at hstep
      split at hstep
      · split_ifs at hstep
        cases hstep
        exact ⟨_, rfl, .sendDone _ ‹_›⟩
      · cases hstep
    | closingDone =>
      cases t <;> cases hcode
      cases hstep
      exact ⟨_, rfl, .closeDone⟩
    | closingClosed =>
      cases t <;> cases hcode
      cases hstep
      exact ⟨_, rfl, .closeClosed⟩
    | ended again => cases t <;> cases hcode
  again := by
    intro t p s hcode
    cases p with
    | ended again => cases t <;> cases hcode <;> exact .pass (.again _)
    | cleaning err pending => rcases pending with - | ⟨n, rest⟩ <;> cases t <;> cases hcode
    | givingUp err failed => cases failed <;> cases t <;> cases hcode
    | _ => cases t <;> cases hcode
  abort _ _ := rfl

end Rstream.Channel
