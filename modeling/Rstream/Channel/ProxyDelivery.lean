import Rstream.Core.RelyGuarantee

/-!
# Delivery of proxy connections

A tunnel hands the connections the engine opens towards it to its listener through
a bounded queue. Workers put connections into the queue, `Accept` takes them out,
and the tunnel can be closed at any moment by its owner, by the engine or by the
loss of the control channel. Every section under the mutex of the control channel
and every queue operation is one atomic action.
-/

namespace Rstream.Channel

open Rstream.Core Function

variable {Conn : Type} [DecidableEq Conn]

/-- Where the delivery of a connection stands. -/
inductive Delivery
  /-- Not in the queue yet. -/
  | fresh
  /-- In the queue, the closed flag is still to be read again. -/
  | pending
  /-- `deliverProxyConnection` returned nil. -/
  | delivered
  /-- The tunnel was found closed, the connection is about to be closed. -/
  | rejected
  /-- `deliverProxyConnection` returned an error and its caller closed the connection. -/
  | failed
  deriving DecidableEq, Repr

/-- `bytestreamTunnelImpl`: the fields its listener works with, the local variables of its
threads that hold connections, and what became of each connection. -/
structure Tunnel (Conn : Type) where
  closing : Bool
  closed : Bool
  err : Option String
  conns : List Conn
  delivery : Conn → Delivery
  /-- The connection a call of `Accept` has taken from the queue. -/
  accepting : Nat → Option Conn
  /-- The connections a cleanup has still to close. -/
  cleaning : Nat → List Conn
  /-- How many calls of `Accept` returned the connection. -/
  returned : Conn → Nat
  /-- The SDK has closed the connection. -/
  sdkClosed : Conn → Bool

namespace Tunnel

/-- A tunnel that was just opened. -/
def opened : Tunnel Conn where
  closing := false
  closed := false
  err := none
  conns := []
  delivery _ := .fresh
  accepting _ := none
  cleaning _ := []
  returned _ := 0
  sdkClosed _ := false

/-- `conn.Close`. -/
def closeConn (c : Conn) (s : Tunnel Conn) : Tunnel Conn :=
  { s with sdkClosed := update s.sdkClosed c true }

def acceptErrorLocked (s : Tunnel Conn) : String :=
  s.err.getD "use of closed network connection"

/-- `onErrorLocked`: mark the tunnel closed and empty its queue. -/
def onErrorLocked (k : Nat) (err : Option String) (s : Tunnel Conn) : List Conn × Tunnel Conn :=
  if s.closed then ([], s)
  else (s.conns, { s with
    closed := true
    err := err
    conns := []
    cleaning := update s.cleaning k s.conns })

end Tunnel

/-- A program over the tunnel. -/
abbrev Prog (Conn : Type) := Program (Tunnel Conn)

namespace Prog

open Program

section Deliver

/-- The error of a delivery to a closed tunnel. -/
def closedError : String := "tunnel is closing or closed"

/-- The cases of the `select` in `deliverProxyConnection`. -/
inductive DeliverCase
  | send
  | ctxDone
  | tunnelClosed
  | timeout

/-- The `select` of `deliverProxyConnection`: the queue has room for ten connections. -/
def deliverSelect (c : Conn) (s : Tunnel Conn) : DeliverCase →
    Option (Option String × Tunnel Conn)
  | .send =>
    if s.conns.length < 10 then
      some (none, { s with
        conns := s.conns ++ [c]
        delivery := update s.delivery c .pending })
    else none
  | .ctxDone => some (some closedError, s)
  | .tunnelClosed => if s.closed then some (some closedError, s) else none
  | .timeout => some (some "tunnel connection queue remained full", s)

/-- The second look at the closed flag. -/
def deliverRecheck (c : Conn) (s : Tunnel Conn) : Bool × Tunnel Conn :=
  (s.closed, { s with
    delivery := update s.delivery c (if s.closed then .rejected else .delivered) })

/-- `deliverProxyConnection`: nothing, or the error. -/
def deliverProxyConnection (c : Conn) : Prog Conn (Option String) := do
  if ← inspect fun s => s.closing || s.closed then
    return some closedError
  else
    match ← choose (deliverSelect c) with
    | some err => return some err
    | none =>
      if ← atomic (deliverRecheck c) then
        atomic fun s => ((), s.closeConn c)
        return some closedError
      else return none

/-- The part of `processProxyConnectionRequest` after the dial. -/
def processProxyConnectionRequest (c : Conn) : Prog Conn Unit := do
  match ← deliverProxyConnection c with
  | none => return ()
  | some _ =>
    atomic fun s => ((), { s.closeConn c with
      delivery := update s.delivery c .failed })

end Deliver

section Accept

/-- The `select` of `Accept`: a connection from the queue, or the closed signal. -/
def acceptSelect (n : Nat) (s : Tunnel Conn) (receive : Bool) :
    Option (Option Conn × Tunnel Conn) :=
  if receive then
    match s.conns with
    | [] => none
    | c :: rest => some (some c, { s with
        conns := rest
        accepting := update s.accepting n (some c) })
  else if s.closed then some (none, s)
  else none

/-- The second look at the closed flag: the connection is returned if the tunnel is open. -/
def acceptRecheck (n : Nat) (c : Conn) (s : Tunnel Conn) : Option String × Tunnel Conn :=
  if s.closed then (some s.acceptErrorLocked, s)
  else (none, { s with
    accepting := update s.accepting n none
    returned := update s.returned c (s.returned c + 1) })

def accept (n : Nat) : Prog Conn (Except String Conn) := do
  match ← inspect fun s => if s.closed then some s.acceptErrorLocked else none with
  | some err => return .error err
  | none =>
    match ← choose (acceptSelect n) with
    | none =>
      let err ← inspect Tunnel.acceptErrorLocked
      return .error err
    | some c =>
      match ← atomic (acceptRecheck n c) with
      | none => return .ok c
      | some err =>
        atomic fun s => ((), { s.closeConn c with
          accepting := update s.accepting n none })
        return .error err

end Accept

section Close

/-- What closes a tunnel: its owner announces it, or the engine's answer, an error or the shutdown
of the channel completes it. -/
inductive CloseCause
  | request
  | complete (err : Option String)

/-- `tunnelCleanup.run`. -/
def cleanup (k : Nat) : List Conn → Prog Conn Unit
  | [] => return ()
  | c :: rest => do
    atomic fun s => ((), { s.closeConn c with
      cleaning := update s.cleaning k rest })
    cleanup k rest

/-- The part of `Close` that announces it, or `onError`. -/
def closeTunnel (k : Nat) : Prog Conn Unit := do
  match ← receive CloseCause with
  | .request => atomic fun s => ((), if s.closed then s else { s with closing := true })
  | .complete err =>
    let conns ← atomic (Tunnel.onErrorLocked k err)
    cleanup k conns

end Close

end Prog

/-- The threads of a tunnel. -/
inductive Thread (Conn : Type)
  /-- The worker that delivers a connection. -/
  | deliver (c : Conn)
  /-- A caller of `Accept`, again and again. -/
  | accept (n : Nat)
  /-- Whatever closes the tunnel. -/
  | close (k : Nat)
  deriving DecidableEq

/-- The threads of a tunnel over its state. -/
def tunnelSystem (Conn : Type) [DecidableEq Conn] : System (Thread Conn) (Tunnel Conn) where
  body
    | .deliver c => do
      Prog.processProxyConnectionRequest c
      return false
    | .accept n => do
      let _ ← Prog.accept n
      return true
    | .close k => do
      Prog.closeTunnel k
      return true
  abort _ _ := none

end Rstream.Channel
