import Rstream.Core.RelyGuarantee
import Rstream.Go.Channel
import Rstream.Go.Strings

/-!
# Opening tunnels over the control channel

`CreateTunnel` registers a pending request, writes it to the engine and waits for
the result or for the end of its context. The read loop hands the engine's answers
to the pending requests. The channel is closed by its owner, by the engine or by a
failure. A request is known by the number of its `CreateTunnel` call, as its UUID is
fresh.
-/

namespace Rstream.Channel

open Rstream.Core Function

/-- The properties of a tunnel the engine answers with, as far as the read loop looks at them. -/
structure OpenedProperties where
  id : Option String
  /-- The type is `TunnelTypeDatagram`. -/
  datagram : Bool
  /-- `tunnelAllowsQUICDatagrams`. -/
  quicDatagrams : Bool
  deriving DecidableEq

/-- How a tunnel hands out its connections. -/
inductive TunnelKind
  | bytestream
  /-- `datagramTunnelImpl` over the datagrams of the QUIC connection. -/
  | quicDatagram
  /-- `datagramTunnelImpl` over a packet listener of the byte stream tunnel. -/
  | framedDatagram
  deriving DecidableEq

/-- A tunnel as `CreateTunnel` returns it. -/
structure OpenedTunnel where
  tunnelID : String
  kind : TunnelKind
  deriving DecidableEq

abbrev OpenTunnelResult := Except String OpenedTunnel

/-- `pendingOpenTunnelReq.respCh`: a channel with room for one result. -/
abbrev RespCh := Go.Chan OpenTunnelResult

structure OpenTunnelRsp where
  requestID : Nat
  /-- The error, the properties, or no known payload. -/
  payload : Option (String ⊕ OpenedProperties)

/-- `pb.Message` as the read loop receives it. -/
inductive ServerMessage
  | openTunnelRsp (rsp : Option OpenTunnelRsp)
  | closeTunnelRsp (tunnelID : String)
  | closeControlChannelRsp
  /-- A proxy request; it may need a transport to a redirected endpoint. -/
  | proxyConnReq (endpoint : Option String) (err : Option String)
  /-- Heartbeats and datagram channels: their handlers may fail. -/
  | other (err : Option String)

/-- The calls that can have decided to close the channel. -/
inductive Closer
  | create (n : Nat)
  | read
  | close (k : Nat)
  deriving DecidableEq

/-- The threads of a control channel. -/
inductive ControlThread
  /-- The caller of `CreateTunnel` number `n`. -/
  | create (n : Nat)
  | read
  /-- A caller of `Close`. -/
  | close (k : Nat)
  /-- Heartbeats, proxy workers and tunnels whose errors close the channel. -/
  | fail (k : Nat)
  /-- The owner of the tunnel that `CreateTunnel` number `n` returned. -/
  | release (n : Nat)
  /-- A proxy worker that sets up datagram channels. -/
  | worker (k : Nat)
  /-- `controlChannelCleanup.finish`. -/
  | finish
  deriving DecidableEq

/-- `controlChannelImpl`: the fields that opening a tunnel works with, the outcome of each
`CreateTunnel` and what went over the wire. -/
structure Control where
  closing : Bool
  closed : Bool
  err : Option String
  /-- The lifecycle context is initialized. -/
  lifecycleCtx : Bool
  /-- The channel runs over QUIC and has a provider of datagrams. -/
  datagramProvider : Bool
  pendingTunnels : List Nat
  tunnels : List String
  datagramTunnels : List String
  /-- The datagram channels, with the tunnels they belong to. -/
  datagramChannels : List (Nat × String)
  /-- The endpoints that have a transport of their own. -/
  proxyTransports : List String
  /-- The loops of the channel that have not returned: the read loop. -/
  lifecycleWG : Nat
  doneCh : Go.Chan (Option String)
  closedCh : Go.Chan Unit
  respCh : Nat → RespCh
  /-- What a call of `CreateTunnel` returned. -/
  outcome : Nat → Option (Except String OpenedTunnel)
  /-- The `OpenTunnelReq` may have reached the engine. -/
  sent : Nat → Bool
  /-- The tunnels the engine reported as opened, and the requests they answer. -/
  reports : List (Nat × OpenedProperties)
  /-- The tunnels a `CloseTunnelReq` was sent for. -/
  closeTunnelReqs : List String
  /-- The call has decided to close the channel and has not returned. -/
  closers : Closer → Bool
  /-- The request is registered and its caller waits for the result. -/
  waits : Nat → Bool
  /-- The errors `onError` was called with. -/
  failures : List (Option String)
  /-- How often a cleanup was started. -/
  shutdowns : Nat
  /-- The thread that runs the cleanup. -/
  cleaner : Option ControlThread
  /-- The requests whose channels the cleanup still has to close. -/
  cleaning : List Nat
  /-- The error that `controlChannelCleanup.finish` was started with. -/
  finishing : Option (Option String)

namespace Control

/-- The channel after `Connect`. -/
def connected (datagramProvider : Bool) : Control where
  closing := false
  closed := false
  err := none
  lifecycleCtx := true
  datagramProvider := datagramProvider
  pendingTunnels := []
  tunnels := []
  datagramTunnels := []
  datagramChannels := []
  proxyTransports := []
  lifecycleWG := 1
  doneCh := .make
  closedCh := .make
  respCh _ := .make
  outcome _ := none
  sent _ := false
  reports := []
  closeTunnelReqs := []
  closers _ := false
  waits _ := false
  failures := []
  shutdowns := 0
  cleaner := none
  cleaning := []
  finishing := none

/-- A call decides to close the channel, or is done with it. -/
def setCloser (w : Closer) (b : Bool) (s : Control) : Control :=
  { s with closers := update s.closers w b }

/-- Remove a request from `pendingTunnels`. -/
def deletePending (n : Nat) (s : Control) : Control :=
  { s with pendingTunnels := s.pendingTunnels.filter (· ≠ n) }

/-- A call of `CreateTunnel` no longer waits. -/
def giveUp (n : Nat) (s : Control) : Control :=
  { s.deletePending n with waits := update s.waits n false }

/-- A call of `CreateTunnel` returns. -/
def finish (n : Nat) (result : Except String OpenedTunnel) (s : Control) : Control :=
  { s with
    outcome := update s.outcome n (some result)
    waits := update s.waits n false }

/-- Send a result to a pending request. -/
def respond (n : Nat) (result : OpenTunnelResult) (s : Control) : Control :=
  { s with respCh := update s.respCh n ((s.respCh n).send result) }

section Responses

def openTunnelFromPropertiesLocked (props : OpenedProperties) (s : Control) :
    OpenTunnelResult × Control :=
  match props.id with
  | none => (.error "engine did not return a tunnel ID", s)
  | some tunnelID =>
    if Go.trimSpace tunnelID = "" then (.error "engine did not return a tunnel ID", s)
    else if s.closed || s.closing then
      (.error "control channel closed while opening tunnel", s)
    else if !s.lifecycleCtx then
      (.error "control channel lifecycle context is not initialized", s)
    else if tunnelID ∈ s.tunnels then
      (.error ("engine returned duplicate tunnel ID " ++ Go.strconvQuote tunnelID), s)
    else if props.datagram && s.datagramProvider && props.quicDatagrams then
      (.ok ⟨tunnelID, .quicDatagram⟩, { s with
        tunnels := tunnelID :: s.tunnels
        datagramTunnels := tunnelID :: s.datagramTunnels })
    else if props.datagram then
      (.ok ⟨tunnelID, .framedDatagram⟩, { s with tunnels := tunnelID :: s.tunnels })
    else (.ok ⟨tunnelID, .bytestream⟩, { s with tunnels := tunnelID :: s.tunnels })

def openTunnelResultLocked (rsp : OpenTunnelRsp) (s : Control) : OpenTunnelResult × Control :=
  match rsp.payload with
  | some (.inl err) => (.error err, s)
  | some (.inr props) => s.openTunnelFromPropertiesLocked props
  | none => (.error "unexpected OpenTunnelRsp payload", s)

/-- `handleOpenTunnelRsp`: the error, or nothing. -/
def handleOpenTunnelRsp (rsp : Option OpenTunnelRsp) (s : Control) : Option String × Control :=
  match rsp with
  | none => (some "received empty OpenTunnelRsp", s)
  | some rsp =>
    -- An answer nobody waits for is only logged.
    if rsp.requestID ∉ s.pendingTunnels then (none, s)
    else
      let (result, s) := (s.deletePending rsp.requestID).openTunnelResultLocked rsp
      (none, s.respond rsp.requestID result)

def handleCloseTunnelRsp (tunnelID : String) (s : Control) : Control :=
  if tunnelID ∈ s.tunnels then
    { s with
      tunnels := s.tunnels.filter (· ≠ tunnelID)
      datagramTunnels := s.datagramTunnels.filter (· ≠ tunnelID)
      datagramChannels := s.datagramChannels.filter (·.2 ≠ tunnelID) }
  else s

/-- `proxyTransportLocked`, for a channel over QUIC: an endpoint gets a transport of its own. -/
def proxyTransportLocked (endpoint : Option String) (s : Control) : Control :=
  match endpoint with
  | none => s
  | some endpoint =>
    if !s.datagramProvider || Go.trimSpace endpoint ∈ s.proxyTransports then s
    else { s with proxyTransports := Go.trimSpace endpoint :: s.proxyTransports }

/-- `handleMessage`: whether the channel is to be closed, and the error. -/
def handleMessage (msg : ServerMessage) (s : Control) : (Bool × Option String) × Control :=
  if s.closed then ((true, none), s)
  else match msg with
  | .openTunnelRsp rsp =>
    let (err, s) := s.handleOpenTunnelRsp rsp
    ((false, err), s)
  | .closeTunnelRsp tunnelID => ((false, none), s.handleCloseTunnelRsp tunnelID)
  | .closeControlChannelRsp => ((true, none), s)
  | .proxyConnReq endpoint err => ((false, err), s.proxyTransportLocked endpoint)
  | .other err => ((false, err), s)

/-- The tunnel a message reports as opened. -/
def reported : ServerMessage → Option (Nat × OpenedProperties)
  | .openTunnelRsp (some ⟨requestID, some (.inr props)⟩) => some (requestID, props)
  | _ => none

/-- Note what a message reports. -/
def report (msg : Except String ServerMessage) (s : Control) : Control :=
  { s with reports := s.reports ++ (msg.toOption.bind reported).toList }

end Responses

/-- `detachCleanupLocked`: mark the channel closed, the pending requests are left to the cleanup. -/
def detachCleanupLocked (t : ControlThread) (err : Option String) (s : Control) :
    Option (List Nat) × Control :=
  if s.closed then (none, { s with failures := s.failures ++ [err] })
  else (some s.pendingTunnels, { s with
    closed := true
    err := err
    pendingTunnels := []
    tunnels := []
    datagramTunnels := []
    datagramChannels := []
    proxyTransports := []
    failures := s.failures ++ [err]
    shutdowns := s.shutdowns + 1
    cleaner := some t
    cleaning := s.pendingTunnels })

/-- The cleanup closes the channel of a request. -/
def closeRespCh (n : Nat) (s : Control) : Control :=
  { s with
    respCh := update s.respCh n (s.respCh n).close
    cleaning := s.cleaning.tail }

end Control

/-- A program over the control channel. -/
abbrev ControlProg := Program Control

namespace ControlProg

open Program

section Shutdown

/-- `controlChannelCleanup.run`: close the channels of the pending requests and start `finish`.
The tunnels, listeners and transports that are closed in between are not part of the state. -/
def cleanup (err : Option String) : List Nat → ControlProg Unit
  | [] => atomic fun s => ((), { s with finishing := some err, cleaner := none })
  | n :: rest => do
    atomic fun s => ((), s.closeRespCh n)
    cleanup err rest

def onError (t : ControlThread) (err : Option String) : ControlProg Unit := do
  match ← atomic (Control.detachCleanupLocked t err) with
  | none => return ()
  | some pending => cleanup err pending

/-- The wait of `controlChannelCleanup.finish` for the loops of the channel, and the error it
sends. -/
def sendDone (s : Control) (_ : Unit) : Option (Unit × Control) :=
  match s.finishing with
  | some err =>
    if s.lifecycleWG = 0 then some ((), { s with doneCh := s.doneCh.send err }) else none
  | none => none

/-- `controlChannelCleanup.finish`. -/
def finish : ControlProg Unit := do
  choose sendDone
  atomic fun s => ((), { s with doneCh := s.doneCh.close })
  atomic fun s => ((), { s with closedCh := s.closedCh.close })

/-- How the wait in `Close` ends. -/
inductive CloseWait
  | closed
  | timeout

/-- The waits of `Close`: `closedCh` is closed, or the context of the close ends. -/
def awaitClosed (s : Control) : CloseWait → Option (CloseWait × Control)
  | .closed => if s.closedCh.closed then some (.closed, s) else none
  | .timeout => some (.timeout, s)

/-- The first section of `Close`: the channel is closed already, or the request is to be sent. -/
def closeBegin (k : Nat) (s : Control) : Option Bool × Control :=
  if s.closed then (none, s)
  else (some (!s.closing), { s.setCloser (.close k) true with closing := true })

/-- The rest of `Close`: send the request, if it is the first one, and wait. -/
def closeEnd (k : Nat) (sendClose : Bool) : ControlProg Unit := do
  let writeErr ← receive (Option String)
  if sendClose && writeErr.isSome then
    onError (.close k) (some ("failed to send CloseControlChannelReq: " ++ writeErr.getD ""))
  else
    match ← choose awaitClosed with
    | .closed => return ()
    | .timeout => onError (.close k) (some "timed out waiting for control channel to close")

/-- `controlChannelImpl.Close`. -/
def close (k : Nat) : ControlProg Unit := do
  match ← atomic (closeBegin k) with
  | none => return ()
  | some sendClose =>
    closeEnd k sendClose
    atomic fun s => ((), s.setCloser (.close k) false)

end Shutdown

section Create

/-- Why a message was not written. -/
inductive WriteError
  /-- Nothing was written: no lock, a cancelled context or no writer. -/
  | refused (err : String)
  /-- `controlChannelWriteError`: the message may be on the wire. -/
  | failed (err : String)

/-- The end of a write: a failure decides that the channel is closed. -/
def writeDone (n : Nat) (s : Control) : Option String → Option (Option WriteError × Control)
  | none => some (none, s)
  | some err => some (some (.failed err), s.setCloser (.create n) true)

/-- `writePbMessageContext` for an `OpenTunnelReq`. -/
def writeOpenTunnelReq (n : Nat) : ControlProg (Option WriteError) := do
  match ← receive (Option String) with
  | some err => return some (.refused err)
  | none =>
    atomic fun s => ((), { s with sent := update s.sent n true })
    choose (writeDone n)

/-- The locked section of `CreateTunnel`; `normalized` is the outcome of
`normalizeCreateTunnelProperties`. -/
def register (n : Nat) (s : Control) (normalized : Option String) :
    Option (Option String × Control) :=
  if s.closed then some (some "control channel is closed", s)
  else if s.closing then some (some "control channel is closing", s)
  else match normalized with
  | some err => some (some err, s)
  | none => some (none, { s with
      pendingTunnels := n :: s.pendingTunnels
      respCh := update s.respCh n .make
      waits := update s.waits n true })

def tunnelFromOpenResult : Option OpenTunnelResult → Except String OpenedTunnel
  | none => .error "control channel closed unexpectedly"
  | some result => result

/-- Receive from the channel of a request and return what it says. -/
def receiveResult (n : Nat) (s : Control) : Option Control :=
  match (s.respCh n).buffer with
  | some result => some
      { s.finish n (tunnelFromOpenResult (some result)) with
        respCh := update s.respCh n { s.respCh n with buffer := none } }
  | none =>
    if (s.respCh n).closed then some (s.finish n (tunnelFromOpenResult none)) else none

/-- The `select` of `awaitOpenTunnelResult`: a result, or the end of the context. -/
def awaitSelect (n : Nat) (s : Control) (ctxDone : Bool) : Option (Bool × Control) :=
  if ctxDone then some (true, s) else (receiveResult n s).map (false, ·)

/-- The locked section after the end of the context: give the request up if it is pending. -/
def cancelPending (n : Nat) (s : Control) : Bool × Control :=
  if n ∈ s.pendingTunnels then
    (true, (s.deletePending n).finish n (.error "context canceled"))
  else (false, s)

def awaitOpenTunnelResult (n : Nat) : ControlProg Unit := do
  if ← choose (awaitSelect n) then
    if ← atomic (cancelPending n) then return ()
    else choose fun s (_ : Unit) => (receiveResult n s).map ((), ·)
  else return ()

/-- `CreateTunnel`; the outcome is noted in the state. -/
def createTunnel (n : Nat) : ControlProg Unit := do
  -- validateFIPSTunnelProperties
  match ← receive (Option String) with
  | some err => atomic fun s => ((), s.finish n (.error err))
  | none =>
    match ← choose (register n) with
    | some err => atomic fun s => ((), s.finish n (.error err))
    | none =>
      match ← writeOpenTunnelReq n with
      | none => awaitOpenTunnelResult n
      | some (.refused err) =>
        atomic fun s => ((), s.giveUp n)
        atomic fun s => ((), s.finish n (.error ("failed to send OpenTunnelReq: " ++ err)))
      | some (.failed err) =>
        atomic fun s => ((), s.giveUp n)
        onError (.create n) (some ("failed to send OpenTunnelReq: " ++ err))
        atomic fun s => ((), s.finish n (.error ("failed to send OpenTunnelReq: " ++ err)))
        atomic fun s => ((), s.setCloser (.create n) false)

end Create

section Read

/-- What `readPbMessage` and the refresh of the read deadline give. -/
structure ReadResult where
  msg : Except String ServerMessage
  deadlineErr : Option String

/-- The loop ends with an error or without. -/
def stop (err : Option String) (s : Control) : Option (Option String) × Control :=
  (some err, s.setCloser .read true)

/-- Whether a failed refresh of the deadline matters. -/
def deadlineFailed (msg : ServerMessage) (deadlineErr : Option String) : Bool :=
  match msg with
  | .closeControlChannelRsp => false
  | _ => deadlineErr.isSome

/-- The locked section of one round of `readLoop`: go on, or stop with an error or without. -/
def handleRead (read : ReadResult) (s : Control) : Option (Option String) × Control :=
  match read.msg with
  | .error cause => stop (some ("failed to read message: " ++ cause)) s
  | .ok msg =>
    if s.closed then stop none s
    else if deadlineFailed msg read.deadlineErr then
      stop (some ("failed to refresh control channel liveness deadline: " ++
        read.deadlineErr.getD "")) s
    else
      match s.handleMessage msg with
      | ((true, _), s) => stop none s
      | ((false, some cause), s) => stop (some ("failed to handle message: " ++ cause)) s
      | ((false, none), s) => (none, s)

/-- The locked section, and a note of what the message reported. -/
def readRound (read : ReadResult) (s : Control) : Option (Option String) × Control :=
  ((handleRead read s).1, (handleRead read s).2.report read.msg)

/-- One round of `readLoop`: whether there is another one. -/
def readLoop : ControlProg Bool := do
  let read ← receive ReadResult
  match ← atomic (readRound read) with
  | none => return true
  | some err =>
    onError .read err
    atomic fun s => ((), { s.setCloser .read false with lifecycleWG := s.lifecycleWG - 1 })
    return false

end Read

section Release

/-- The owner of a tunnel closes it: `bytestreamTunnelImpl.Close` sends one request. -/
def closeTunnelReq (n : Nat) (s : Control) (_ : Unit) : Option (Unit × Control) :=
  match s.outcome n with
  | some (.ok tunnel) => some ((), { s with
      closeTunnelReqs := tunnel.tunnelID :: s.closeTunnelReqs })
  | _ => none

/-- `bytestreamTunnelImpl.Close`: a write that fails or an answer that does not come closes the
channel. -/
def releaseTunnel (n : Nat) : ControlProg Unit := do
  choose (closeTunnelReq n)
  match ← receive (Option String) with
  | none => return ()
  | some err => onError (.release n) (some err)

end Release

section Datagrams

/-- The locked section of `handleDatagramProxyConnReq`: register a datagram channel. -/
def registerDatagramChannel (ch : Nat × String) (s : Control) : Bool × Control :=
  if s.closed || s.datagramChannels.any (·.1 == ch.1) then (false, s)
  else (true, { s with datagramChannels := ch :: s.datagramChannels })

def unregisterDatagramChannel (ch : Nat × String) (s : Control) : Control :=
  { s with datagramChannels := s.datagramChannels.filter (· ≠ ch) }

/-- `handleDatagramProxyConnReq`: a channel that the listener does not take, and later every
channel that is closed, is unregistered. -/
def handleDatagramProxyConnReq (ch : Nat × String) : ControlProg Unit := do
  if ← atomic (registerDatagramChannel ch) then
    receive Unit
    atomic fun s => ((), unregisterDatagramChannel ch s)

end Datagrams

end ControlProg

/-- The threads of a control channel over its state. -/
def controlSystem : System ControlThread Control where
  body
    | .create n => do
      ControlProg.createTunnel n
      return false
    | .read => ControlProg.readLoop
    | .close k => do
      ControlProg.close k
      return true
    | .fail k => do
      let err ← Program.receive String
      ControlProg.onError (.fail k) (some err)
      return true
    | .release n => do
      ControlProg.releaseTunnel n
      return false
    | .worker _ => do
      let ch ← Program.receive (Nat × String)
      ControlProg.handleDatagramProxyConnReq ch
      return true
    | .finish => do
      ControlProg.finish
      return false
  abort _ _ := none

end Rstream.Channel
