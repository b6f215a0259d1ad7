import Rstream.Core.RelyGuarantee

/-!
# The QUIC transport

A `QUICTransport` keeps one QUIC connection for all its streams. `Dial` waits for
the connection or establishes it, then opens a stream; `Close` detaches the
connection from the transport and closes it. Every section under the mutex of the
transport and every call of a foreign function is one atomic action. The datagram
channels of a connection are left out: they only delay the return of `Close`.
-/

namespace Rstream.Transport

open Rstream.Core Function

/-- A connection is known by the `Dial` call that established it and its attempt. -/
abbrev ConnId := Nat × Nat

/-- What belongs to a connection, as long as it is open. -/
structure Bundle where
  conn : Bool
  qtransport : Bool
  pconn : Bool
  proxyCloser : Bool
  deriving DecidableEq, Repr

/-- Nothing is open. -/
def Bundle.closed : Bundle := ⟨false, false, false, false⟩

/-- The calls on a transport. -/
inductive QuicThread
  /-- A call of `Dial`. -/
  | dial (n : Nat)
  /-- A call of `Close`. -/
  | close (k : Nat)
  /-- A stream or a datagram reader that sees its connection fail. -/
  | user (j : Nat)
  deriving DecidableEq

/-- Who has to see to a connection. -/
inductive Holder
  /-- It does not exist yet. -/
  | unborn
  /-- The `Dial` that established it. -/
  | dial
  /-- The transport. -/
  | transport
  /-- A call that detached it and is closing it. -/
  | closer (t : QuicThread)
  /-- It is closed. -/
  | closed
  deriving DecidableEq

/-- What the calls on a transport do, in the order of their locked sections and returns. -/
inductive QuicEvent
  /-- The first locked check of an attempt of a `Dial`. -/
  | checked (n attempt : Nat)
  /-- A `Dial` begins to connect. -/
  | connects (n : Nat)
  /-- A `Dial` hands its connection to the transport. -/
  | publishes (n : Nat)
  | returnsStream (n : Nat)
  | returnsError (n : Nat) (err : String)
  /-- The locked section of a `Close`. -/
  | closeLocked (k : Nat)
  | closeReturned (k : Nat)
  deriving DecidableEq

/-- The local variables of a call of `Dial`. -/
structure Dialing where
  validated : Bool
  attempt : Nat
  /-- The generation `connection` started with. -/
  generation : Option Nat
  conn : Option ConnId
  /-- A stream was opened and is about to be returned. -/
  stream : Bool

/-- A `Dial` that was just called. -/
def Dialing.start : Dialing := ⟨false, 0, none, none, false⟩

/-- `QUICTransport`: the fields under its mutex, the channels and contexts of connects, the
connections, the local variables of the calls and their events. -/
structure Quic where
  connecting : Bool
  connectDone : ConnId
  connectCancel : Option ConnId
  connectWaiters : Nat
  quicConn : Option ConnId
  origin : String
  closeGeneration : Nat
  /-- The channel that a connect closes at its end. -/
  doneClosed : ConnId → Bool
  /-- The context of a connect is cancelled. -/
  cancelled : ConnId → Bool
  bundle : ConnId → Bundle
  holder : ConnId → Holder
  dials : Nat → Dialing
  log : List QuicEvent

namespace Quic

/-- A new transport. -/
def new : Quic where
  connecting := false
  connectDone := (0, 0)
  connectCancel := none
  connectWaiters := 0
  quicConn := none
  origin := ""
  closeGeneration := 0
  doneClosed _ := false
  cancelled _ := false
  bundle _ := .closed
  holder _ := .unborn
  dials _ := .start
  log := []

/-- Note an event. -/
def note (e : QuicEvent) (s : Quic) : Quic := { s with log := s.log ++ [e] }

/-- Change the local variables of a `Dial`. -/
def setDial (n : Nat) (f : Dialing → Dialing) (s : Quic) : Quic :=
  { s with dials := update s.dials n (f (s.dials n)) }

@[simp] theorem setDial_self (n : Nat) (f : Dialing → Dialing) (s : Quic) :
    (s.setDial n f).dials n = f (s.dials n) :=
  update_self ..

@[simp] theorem setDial_log (n : Nat) (f : Dialing → Dialing) (s : Quic) :
    (s.setDial n f).log = s.log := rfl

@[simp] theorem setDial_holder (n : Nat) (f : Dialing → Dialing) (s : Quic) :
    (s.setDial n f).holder = s.holder := rfl

/-- Change what is open of a connection. -/
def setBundle (c : ConnId) (f : Bundle → Bundle) (s : Quic) : Quic :=
  { s with bundle := update s.bundle c (f (s.bundle c)) }

/-- Someone takes a connection over. -/
def setHolder (c : ConnId) (h : Holder) (s : Quic) : Quic :=
  { s with holder := update s.holder c h }

@[simp] theorem setHolder_dials (c : ConnId) (h : Holder) (s : Quic) :
    (s.setHolder c h).dials = s.dials := rfl

/-- Take the connection out of the transport and increment the generation. -/
def detach (s : Quic) : Quic :=
  { s with closeGeneration := s.closeGeneration + 1, quicConn := none, origin := "" }

end Quic

/-- A program over a transport. -/
abbrev QuicProg := Program Quic

namespace QuicProg

open Program

section Resources

/-- `conn.CloseWithError` and `closeQUICTransportResources`. -/
def closeBundle (c : ConnId) : QuicProg Unit := do
  atomic fun s => ((), s.setBundle c fun b => { b with conn := false })
  atomic fun s => ((), s.setBundle c fun b => { b with qtransport := false })
  atomic fun s => ((), s.setBundle c fun b => { b with pconn := false })
  atomic fun s => ((), (s.setBundle c fun b => { b with proxyCloser := false }).setHolder c .closed)

/-- The locked section of `invalidateConnection`. -/
def invalidateLocked (t : QuicThread) (c : ConnId) (s : Quic) : Bool × Quic :=
  if s.quicConn ≠ some c then (false, s)
  else (true, s.detach.setHolder c (.closer t))

def invalidateConnection (t : QuicThread) (c : ConnId) : QuicProg Unit := do
  if ← atomic (invalidateLocked t c) then closeBundle c
  else return ()

end Resources

section Connection

/-- What the locked section of `connection` decides. -/
inductive Verdict
  | refused (err : String)
  | reuse (c : ConnId)
  | wait (doneCh : ConnId)
  | connect (connectGeneration : Nat)

/-- The locked section of `connection` after the check of the generation. -/
def connectionState (n : Nat) (origin : String) (s : Quic) : Verdict × Quic :=
  match s.quicConn with
  | some c =>
    if s.origin ≠ origin then (.refused ("QUIC transport already connected to " ++ s.origin), s)
    else (.reuse c, s.setDial n fun d => { d with conn := some c })
  | none =>
    if s.connecting then
      (.wait s.connectDone, { s with connectWaiters := s.connectWaiters + 1 })
    else
      let id := (n, (s.dials n).attempt)
      (.connect s.closeGeneration, { s with
        connecting := true
        connectDone := id
        connectCancel := some id }.note (.connects n))

/-- The first locked section of an iteration of `connection`. -/
def connectionLocked (n : Nat) (origin : String) (s : Quic) : Verdict × Quic :=
  match (s.dials n).generation with
  | none =>
    connectionState n origin
      ((s.setDial n fun d => { d with generation := some s.closeGeneration }).note
        (.checked n (s.dials n).attempt))
  | some generation =>
    if s.closeGeneration ≠ generation then (.refused "use of closed network connection", s)
    else connectionState n origin s

/-- How the wait for another connect ends. -/
inductive Wait
  | ctxDone
  | connectDone

/-- The `select` for the end of another connect, or of the context. -/
def waitSelect (doneCh : ConnId) (s : Quic) : Wait → Option (Wait × Quic)
  | .ctxDone => some (.ctxDone, s)
  | .connectDone => if s.doneClosed doneCh then some (.connectDone, s) else none

/-- What `connectFn` returns. -/
inductive Connected
  | ok (proxy : Bool)
  | failed (err : String)

/-- `connectFn`: a new connection with its resources, or an error and nothing. Whether it notices
that its context is cancelled is left open. -/
def connectFn (id : ConnId) (s : Quic) : Connected → Option (Option String × Quic)
  | .ok proxy => some (none, (s.setBundle id fun _ => ⟨true, true, true, proxy⟩).setHolder id .dial)
  | .failed err => some (some err, s)

/-- The second locked section of `connection`: whether the connect is stale. -/
def connectedLocked (id : ConnId) (origin : String) (connectGeneration : Nat)
    (err : Option String) (s : Quic) : Bool × Quic :=
  let s := { s with
    connecting := false
    connectCancel := none
    doneClosed := update s.doneClosed id true }
  if s.closeGeneration ≠ connectGeneration then
    (true, if err = none then s.setHolder id (.closer (.dial id.1)) else s)
  else if err = none then
    (false, (({ s with quicConn := some id, origin := origin }.setHolder id .transport).setDial
      id.1 fun d => { d with conn := some id }).note (.publishes id.1))
  else (false, s)

end Connection

section Dial

/-- `Dial` returns an error. -/
def fail (n : Nat) (err : String) : QuicProg Bool := do
  atomic fun s => ((), (s.setDial n fun d => { d with conn := none }).note (.returnsError n err))
  return false

/-- What `OpenStreamSync` returns. -/
inductive Opened
  | ok
  | ctxDone (err : String)
  | lost (err : String)

/-- `conn.OpenStreamSync`: it fails when its context ends or the connection is gone. -/
def openStreamSync (n : Nat) (c : ConnId) (s : Quic) : Opened → Option (Opened × Quic)
  | .ok =>
    if (s.bundle c).conn then some (.ok, s.setDial n fun d => { d with stream := true }) else none
  | .ctxDone err => some (.ctxDone err, s)
  | .lost err => if (s.bundle c).conn then none else some (.lost err, s)

/-- The end of an attempt that found its connection gone: whether there is another one. -/
def nextAttempt (n : Nat) (err : String) (s : Quic) : Bool × Quic :=
  if (s.dials n).attempt + 1 < 2 then
    (true, s.setDial n fun d =>
      { d with attempt := d.attempt + 1, generation := none, conn := none })
  else (false, (s.setDial n fun d => { d with conn := none }).note
    (.returnsError n ("failed to open QUIC stream: " ++ err)))

/-- The part of an attempt of `Dial` after `connection`. -/
def openStream (n : Nat) (c : ConnId) : QuicProg Bool := do
  match ← choose (openStreamSync n c) with
  | .ok =>
    atomic fun s => ((), (s.setDial n fun d =>
      { d with conn := none, stream := false }).note (.returnsStream n))
    return false
  | .ctxDone err => fail n ("failed to open QUIC stream: " ++ err)
  | .lost err =>
    invalidateConnection (.dial n) c
    atomic (nextAttempt n err)

/-- The part of `connection` that connects, and what follows in `Dial`. -/
def connect (n attempt : Nat) (origin : String) (connectGeneration : Nat) : QuicProg Bool := do
  let err ← choose (connectFn (n, attempt))
  atomic fun s => ((), { s with cancelled := update s.cancelled (n, attempt) true })
  if ← atomic (connectedLocked (n, attempt) origin connectGeneration err) then
    match err with
    | none =>
      closeBundle (n, attempt)
      fail n "use of closed network connection"
    | some _ => fail n "use of closed network connection"
  else
    match err with
    | none => openStream n (n, attempt)
    | some err => fail n err

/-- The checks of `Dial` before its first attempt. -/
def validate (n : Nat) (s : Quic) (err : Option String) : Option (Option String × Quic) :=
  if (s.dials n).validated then some (none, s)
  else some (err, s.setDial n fun d => { d with validated := true })

/-- One iteration of the loop in `connection`, with what follows in `Dial` once it ends: whether
the call goes on. -/
def dial (n : Nat) (origin : String) : QuicProg Bool := do
  match ← choose (validate n) with
  | some err => fail n err
  | none =>
    let attempt ← inspect fun s => (s.dials n).attempt
    match ← atomic (connectionLocked n origin) with
    | .refused err => fail n err
    | .reuse c => openStream n c
    | .wait doneCh =>
      let wait ← choose (waitSelect doneCh)
      atomic fun s => ((), { s with connectWaiters := s.connectWaiters - 1 })
      match wait with
      | .ctxDone => fail n "context canceled"
      | .connectDone => return true
    | .connect connectGeneration => connect n attempt origin connectGeneration

end Dial

section Close

/-- The locked section of `Close`: the connect to cancel and the connection to close. -/
def closeLocked (k : Nat) (s : Quic) : (Option ConnId × Option ConnId) × Quic :=
  ((s.connectCancel, s.quicConn),
    match s.quicConn with
    | some c => (s.detach.setHolder c (.closer (.close k))).note (.closeLocked k)
    | none => s.detach.note (.closeLocked k))

def close (k : Nat) : QuicProg Unit := do
  let (connectCancel, conn) ← atomic (closeLocked k)
  atomic fun s => ((), { s with
    cancelled := fun id => s.cancelled id || connectCancel == some id })
  match conn with
  | some c =>
    closeBundle c
    atomic fun s => ((), s.note (.closeReturned k))
  | none => atomic fun s => ((), s.note (.closeReturned k))

end Close

/-- A connection that exists fails. -/
def loseConnection (s : Quic) (c : ConnId) : Option (ConnId × Quic) :=
  if s.holder c = .unborn then none
  else some (c, s.setBundle c fun b => { b with conn := false })

/-- A connection fails and the reader or writer of a stream that sees it invalidates it. -/
def connectionLost (j : Nat) : QuicProg Unit := do
  let c ← choose loseConnection
  invalidateConnection (.user j) c

end QuicProg

/-- The calls on one transport; `origin` is the origin a `Dial` asks for. -/
def quicSystem (origin : Nat → String) : System QuicThread Quic where
  body
    | .dial n => QuicProg.dial n (origin n)
    | .close k => do
      QuicProg.close k
      return false
    | .user j => do
      QuicProg.connectionLost j
      return true
  abort _ _ := none

end Rstream.Transport
