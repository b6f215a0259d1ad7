import Rstream.Go.Strings

/-!
# Proxy requests of a control channel

The read loop of `client.go` admits `ProxyConnReq` messages into a bounded queue or
rejects them into the bounded queue of responses; a pool of workers takes the
requests, and one loop writes the responses. What a worker does for a request is an
input of the model. Requests carry the number of their admission.
-/

namespace Rstream.Channel

open Go Function

section State

/-- A request that was admitted: its number, stream ID and tunnel object, if it has one. -/
structure ProxyRequest where
  number : Nat
  streamID : String
  tunnel : Option Nat
  deriving DecidableEq, Repr

/-- `pb.ProxyConnReq`, as far as it is read. -/
structure ProxyConnReq where
  streamID : String
  tunnelID : String
  proxyEndpoint : Option String
  secret : Option String
  deriving DecidableEq, Repr

/-- `proxyConnectionRequest`. -/
structure ProxyTask where
  request : ProxyRequest
  endpoint : Option String
  secret : Option String
  deriving DecidableEq, Repr

/-- `proxyConnectionResponse`. -/
structure ProxyResponse where
  request : ProxyRequest
  err : Option String
  datagramChannel : Option Nat
  deriving DecidableEq, Repr

/-- A `bytestreamTunnelImpl`, as far as proxy requests use it; signals are numbered. -/
structure ProxyTunnel where
  hasContext : Bool
  proxyPending : Nat
  proxyDrained : Option Nat
  deriving DecidableEq, Repr

/-- Where the response loop stands. -/
inductive ResponseLoop
  /-- Waiting for a response. -/
  | idle
  /-- The response was received and is being written. -/
  | writing (response : ProxyResponse)
  /-- The response was written, and its tunnel is not yet told. -/
  | completing (response : ProxyResponse)
  | stopped
  deriving DecidableEq, Repr

/-- The limits of the queues and of the pool. -/
structure ProxyLimits where
  workers : Nat
  requests : Nat
  responses : Nat

/-- The proxy runtime of a control channel. -/
structure ProxyRuntime where
  /-- The lifecycle of the channel goes on. -/
  live : Bool
  /-- `proxyRequests`. -/
  requests : List ProxyTask
  /-- The tasks that workers process. -/
  processing : List ProxyTask
  /-- The responses that workers wait to queue. -/
  queueing : List ProxyResponse
  /-- `proxyResponses`. -/
  responses : List ProxyResponse
  loop : ResponseLoop
  /-- The objects of `tunnels`, by tunnel ID. -/
  tunnels : List (String × Nat)
  objects : Nat → ProxyTunnel
  /-- The number of objects that exist. -/
  created : Nat
  /-- The drained signals that were made, and those that were closed. -/
  signals : Nat
  closedSignals : List Nat
  /-- The locked section of the read loop is about to count a request of this object. -/
  adding : Option Nat
  /-- The requests that were admitted, in order. -/
  admitted : List ProxyRequest
  /-- The responses that were written. -/
  written : List ProxyResponse
  /-- The requests whose tunnel was told. -/
  completed : List ProxyRequest

/-- A channel without requests. -/
def ProxyRuntime.initial : ProxyRuntime where
  live := true
  requests := []
  processing := []
  queueing := []
  responses := []
  loop := .idle
  tunnels := []
  objects _ := ⟨false, 0, none⟩
  created := 0
  signals := 0
  closedSignals := []
  adding := none
  admitted := []
  written := []
  completed := []

end State

section Steps

namespace ProxyRuntime

variable (limits : ProxyLimits) (s : ProxyRuntime)

def addProxyResponseLocked (t : Nat) : ProxyRuntime :=
  let tunnel := s.objects t
  let (signals, proxyDrained) :=
    if tunnel.proxyPending = 0 then (s.signals + 1, some s.signals)
    else (s.signals, tunnel.proxyDrained)
  { s with
    signals
    objects := update s.objects t
      { tunnel with proxyPending := tunnel.proxyPending + 1, proxyDrained } }

def completeProxyResponseLocked (t : Nat) : ProxyRuntime :=
  let tunnel := s.objects t
  if tunnel.proxyPending = 0 then s
  else if tunnel.proxyPending = 1 then
    { s with
      closedSignals := s.closedSignals ++ tunnel.proxyDrained.toList
      objects := update s.objects t
        { tunnel with proxyPending := 0, proxyDrained := none } }
  else
    { s with
      objects := update s.objects t
        { tunnel with proxyPending := tunnel.proxyPending - 1 } }

/-- `onError`, as far as the runtime is concerned. -/
def onError : ProxyRuntime := { s with live := false }

/-- The next request to be admitted. -/
def next (streamID : String) (tunnel : Option Nat) : ProxyRequest :=
  ⟨s.admitted.length, streamID, tunnel⟩

/-- `rejectProxyConnReqLocked`, up to the count of the response; a full queue is an error of the
channel. -/
def rejectProxyConnReqLocked (streamID : String) (tunnel : Option Nat) (err : String) :
    ProxyRuntime :=
  if s.responses.length < limits.responses then
    let request := s.next streamID tunnel
    { s with
      responses := s.responses ++ [⟨request, some err, none⟩]
      admitted := s.admitted ++ [request]
      adding := tunnel }
  else s.onError

/-- The select of `handleProxyConnReq`, up to the count of the request. -/
def queueProxyConnReq (req : ProxyConnReq) (t : Nat) : ProxyRuntime :=
  if s.requests.length < limits.requests then
    let request := s.next req.streamID (some t)
    { s with
      requests := s.requests ++ [⟨request, req.proxyEndpoint, req.secret⟩]
      admitted := s.admitted ++ [request]
      adding := some t }
  else
    s.rejectProxyConnReqLocked limits req.streamID (some t) "proxy connection request queue is full"

/-- A redirected request without an endpoint or a credential. -/
def invalidRedirect (req : ProxyConnReq) : Bool :=
  req.proxyEndpoint.any fun endpoint => blank endpoint || req.secret.all blank

/-- `handleProxyConnReq`, up to the count of the request. -/
def handleProxyConnReq (req : ProxyConnReq) : ProxyRuntime :=
  if blank req.streamID then s.onError
  else match s.tunnels.lookup req.tunnelID with
  | none => s.rejectProxyConnReqLocked limits req.streamID none
    "proxy connection references an unknown tunnel"
  | some t =>
    if (s.objects t).hasContext = false then
      s.rejectProxyConnReqLocked limits req.streamID (some t)
        "tunnel lifecycle context is not initialized"
    else if invalidRedirect req then
      s.rejectProxyConnReqLocked limits req.streamID (some t)
        "redirected proxy connection requires a non-empty endpoint and stream credential"
    else s.queueProxyConnReq limits req t

/-- A worker receives a task, and drops it if the lifecycle has ended. -/
def takeTask : Option ProxyRuntime :=
  match s.requests with
  | [] => none
  | task :: rest =>
    if s.processing.length + s.queueing.length < limits.workers then
      if s.live then some { s with requests := rest, processing := s.processing ++ [task] }
      else some { s with requests := rest }
    else none

/-- `processProxyConnectionRequest` returns an error or a datagram channel. -/
def processTask (i : Nat) (result : Except String (Option Nat)) : Option ProxyRuntime :=
  match s.processing[i]? with
  | none => none
  | some task =>
    let response : ProxyResponse := match result with
      | .ok channel => ⟨task.request, none, channel⟩
      | .error err => ⟨task.request, some err, none⟩
    some { s with
      processing := s.processing.eraseIdx i
      queueing := s.queueing ++ [response] }

/-- `queueProxyConnRsp`; it gives up when the lifecycle has ended. -/
def queueProxyConnRsp (i : Nat) (giveUp : Bool) : Option ProxyRuntime :=
  match s.queueing[i]? with
  | none => none
  | some response =>
    if giveUp then
      if s.live then none else some { s with queueing := s.queueing.eraseIdx i }
    else if s.responses.length < limits.responses then
      some { s with queueing := s.queueing.eraseIdx i, responses := s.responses ++ [response] }
    else none

/-- The response loop receives a response, and drops it if the lifecycle has ended. -/
def takeResponse : Option ProxyRuntime :=
  match s.loop, s.responses with
  | .idle, response :: rest =>
    if s.live then some { s with responses := rest, loop := .writing response }
    else some { s with responses := rest, loop := .stopped }
  | _, _ => none

/-- `writeProxyConnRsp`; a failed write ends the channel. -/
def writeProxyConnRsp (fails : Bool) : Option ProxyRuntime :=
  match s.loop with
  | .writing response =>
    if fails then some { s.onError with loop := .stopped }
    else some { s with loop := .completing response, written := s.written ++ [response] }
  | _ => none

/-- The locked section at the end of a round of the response loop. -/
def completeResponse : Option ProxyRuntime :=
  match s.loop with
  | .completing response =>
    let s' := match response.request.tunnel with
      | some t => s.completeProxyResponseLocked t
      | none => s
    some { s' with loop := .idle, completed := s.completed ++ [response.request] }
  | _ => none

end ProxyRuntime

/-- One action of one of the goroutines. -/
inductive ProxyEvent
  /-- A tunnel was opened. -/
  | opened (tunnelID : String) (hasContext : Bool)
  /-- A tunnel was closed. -/
  | closed (tunnelID : String)
  /-- The read loop handles a request. -/
  | request (req : ProxyConnReq)
  /-- The end of the locked section of the read loop. -/
  | count
  | takeTask
  | processTask (i : Nat) (result : Except String (Option Nat))
  | queueResponse (i : Nat) (giveUp : Bool)
  | takeResponse
  | writeResponse (fails : Bool)
  | completeResponse
  /-- The channel is closed or fails elsewhere. -/
  | shutdown

namespace ProxyRuntime

/-- One action; nothing if it is not possible. The mutex is held while a request is to be
counted. -/
def step (limits : ProxyLimits) (s : ProxyRuntime) : ProxyEvent → Option ProxyRuntime
  | .opened tunnelID hasContext =>
    if s.adding.isSome then none
    else some { s with
      tunnels := (tunnelID, s.created) :: s.tunnels.filter (·.1 != tunnelID)
      objects := update s.objects s.created ⟨hasContext, 0, none⟩
      created := s.created + 1 }
  | .closed tunnelID =>
    if s.adding.isSome then none
    else some { s with tunnels := s.tunnels.filter (·.1 != tunnelID) }
  | .request req =>
    if s.adding.isSome || !s.live then none else some (s.handleProxyConnReq limits req)
  | .count => s.adding.map fun t => { s.addProxyResponseLocked t with adding := none }
  | .takeTask => s.takeTask limits
  | .processTask i result => s.processTask i result
  | .queueResponse i giveUp => s.queueProxyConnRsp limits i giveUp
  | .takeResponse => s.takeResponse
  | .writeResponse fails => s.writeProxyConnRsp fails
  | .completeResponse => if s.adding.isSome then none else s.completeResponse
  | .shutdown => some s.onError

/-- A run of the channel. -/
def run (limits : ProxyLimits) (s : ProxyRuntime) : List ProxyEvent → Option ProxyRuntime
  | [] => some s
  | event :: events => do
    let s ← s.step limits event
    run limits s events

end ProxyRuntime

end Steps

end Rstream.Channel
