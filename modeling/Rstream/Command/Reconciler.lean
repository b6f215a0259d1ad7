import Mathlib.Data.List.AList
import Rstream.Go.Errors
import Rstream.Go.Strings

/-!
# Reconciling tunnels

The reconciler of `rstream run` owns the handles of the running tunnels. Each call of
`Reconcile` stops what is no longer desired, restarts what has changed and starts what is
missing. Calls are handled one after the other. A handle is known by its number, and the
log says what was done to it; the order in which Go ranges over a map is a parameter of
each call, as are the answers of the starter and of the handles.
-/

namespace Rstream.Command

open Go

section Model

/-- `runmodel.ForwardTarget`. -/
structure ForwardTarget where
  host : String
  port : String
  deriving DecidableEq

/-- `runmodel.ResolvedContext`. -/
structure ResolvedContext (Dialer TLSConfig TransportConfig : Type) where
  name : String
  engine : String
  stableDomainEngine : String
  token : String
  transport : Option Dialer
  transportConfig : Option TransportConfig
  tlsClientConfig : Option TLSConfig
  credentialID : String

/-- `runmodel.DesiredTunnel`. -/
structure DesiredTunnel (Dialer TLSConfig TransportConfig Props : Type) where
  name : String
  forward : ForwardTarget
  context : ResolvedContext Dialer TLSConfig TransportConfig
  props : Props
  source : String

variable {Dialer TLSConfig TransportConfig Props : Type}

/-- `EqualDesired`: everything but the transport and the TLS configuration counts. -/
def equalDesired [DecidableEq TransportConfig] [DecidableEq Props]
    (a b : DesiredTunnel Dialer TLSConfig TransportConfig Props) : Bool :=
  a.name == b.name && a.forward == b.forward && a.context.name == b.context.name &&
    a.context.engine == b.context.engine &&
    a.context.stableDomainEngine == b.context.stableDomainEngine &&
    a.context.token == b.context.token && a.context.transportConfig == b.context.transportConfig &&
    a.context.credentialID == b.context.credentialID && a.props == b.props && a.source == b.source

structure ActiveTunnel (D : Type) where
  desired : D
  handle : Nat

/-- What happened to a handle. -/
inductive HandleOp (D : Type)
  | started (handle : Nat) (desired : D)
  | stopped (handle : Nat)
  | stopFailed (handle : Nat)
  | startFailed (name : String)
  /-- The worker behind the handle has returned. -/
  | exited (handle : Nat)

/-- The order in which the keys of a map are visited. -/
structure MapOrder where
  order : List String → List String
  perm : ∀ keys, (order keys).Perm keys

/-- What `Starter.Start` returns: an error, a handle or `nil`. -/
inductive StartResult
  | failed (err : String)
  | handle
  | nilHandle

/-- The world of one call. -/
structure ReconcileEnv where
  removeOrder : MapOrder
  startOrder : MapOrder
  /-- The error of `handle.Stop`, for the tunnel of that name. -/
  stop : String → Option String
  start : String → StartResult

/-- The map of `Reconciler.run`, and the log of the handles. -/
structure Reconciler (D : Type) where
  active : AList fun _ : String => ActiveTunnel D
  /-- The number of the next handle. -/
  next : Nat
  ops : List (HandleOp D)

/-- A pass of `reconcile`: the reconciler and the errors joined so far. -/
structure Pass (D : Type) extends Reconciler D where
  reconcileErr : List (Err String)

namespace Pass

variable {D : Type}

/-- `handle.Stop()` on the handle of a tunnel: it is deleted, or the error is joined. -/
def stop (env : ReconcileEnv) (kind name : String) (current : ActiveTunnel D) (p : Pass D) :
    Bool × Pass D :=
  match env.stop name with
  | some err => (false, { p with
      ops := p.ops ++ [.stopFailed current.handle]
      reconcileErr := p.reconcileErr ++
        [.wrap ("stop " ++ kind ++ " tunnel " ++ strconvQuote name ++ ": ") (.leaf err) ""] })
  | none => (true, { p with
      active := p.active.erase name
      ops := p.ops ++ [.stopped current.handle] })

/-- `starter.Start` for a tunnel that is not active. -/
def start (env : ReconcileEnv) (name : String) (d : D) (p : Pass D) : Pass D :=
  match env.start name with
  | .failed err => { p with
      ops := p.ops ++ [.startFailed name]
      reconcileErr := p.reconcileErr ++
        [.wrap ("start tunnel " ++ strconvQuote name ++ ": ") (.leaf err) ""] }
  | .nilHandle => { p with
      ops := p.ops ++ [.startFailed name]
      reconcileErr := p.reconcileErr ++
        [.leaf ("start tunnel " ++ strconvQuote name ++ ": starter returned a nil handle")] }
  | .handle => { p with
      active := p.active.insert name ⟨d, p.next⟩
      next := p.next + 1
      ops := p.ops ++ [.started p.next d] }

end Pass

namespace Reconciler

variable {D : Type}

def desiredMap (name : D → String) (desired : List D) : AList fun _ : String => D :=
  desired.foldl (fun m d => m.insert (name d) d) ∅

/-- The body of the loop over the active tunnels. -/
def remove (env : ReconcileEnv) (desired : AList fun _ : String => D) (p : Pass D) (name : String) :
    Pass D :=
  match p.active.lookup name with
  | none => p
  | some current => if name ∈ desired then p else (p.stop env "removed" name current).2

/-- The body of the loop over the desired tunnels. -/
def update (equal : D → D → Bool) (env : ReconcileEnv) (desired : AList fun _ : String => D)
    (p : Pass D) (name : String) : Pass D :=
  match desired.lookup name with
  | none => p
  | some d =>
    match p.active.lookup name with
    | none => p.start env name d
    | some current =>
      if equal current.desired d then p
      else match p.stop env "updated" name current with
      | (false, p) => p
      | (true, p) => p.start env name d

/-- `Reconciler.reconcile`. -/
def reconcile (name : D → String) (equal : D → D → Bool) (env : ReconcileEnv) (desired : List D)
    (s : Reconciler D) : Pass D :=
  let desired := desiredMap name desired
  let p := (env.removeOrder.order s.active.keys).foldl (remove env desired) ⟨s, []⟩
  (env.startOrder.order desired.keys).foldl (update equal env desired) p

end Reconciler

/-- Why `Reconcile` fails. -/
inductive ReconcileError
  /-- `errInvalidTunnelName`. -/
  | invalidTunnelName
  /-- `errDuplicateTunnelName`. -/
  | duplicateTunnelName
  | joined (errs : List (Err String))

/-- The checks of `Reconcile`: no name is empty, and none appears twice. -/
def checkNames (names : List String) : Option ReconcileError :=
  let rec go : List String → List String → Option ReconcileError
    | _, [] => none
    | seen, name :: rest =>
      if name = "" then some .invalidTunnelName
      else if name ∈ seen then some .duplicateTunnelName
      else go (name :: seen) rest
  go [] names

variable [DecidableEq TransportConfig] [DecidableEq Props]

/-- `Reconciler.Reconcile` on a reconciler that runs: the error, or nothing. -/
def Reconciler.reconcileCall (env : ReconcileEnv)
    (desired : List (DesiredTunnel Dialer TLSConfig TransportConfig Props))
    (s : Reconciler (DesiredTunnel Dialer TLSConfig TransportConfig Props)) :
    Option ReconcileError × Reconciler (DesiredTunnel Dialer TLSConfig TransportConfig Props) :=
  match checkNames (desired.map (·.name)) with
  | some err => (some err, s)
  | none =>
    let p := s.reconcile (·.name) equalDesired env desired
    (if p.reconcileErr = [] then none else some (.joined p.reconcileErr), p.toReconciler)

/-- A call of `Reconcile`, or the end of a worker. -/
inductive ReconcilerEvent (D : Type)
  | reconcile (env : ReconcileEnv) (desired : List D)
  | exit (handle : Nat)

def Reconciler.new {D : Type} : Reconciler D := ⟨∅, 0, []⟩

/-- One event. -/
def Reconciler.step (s : Reconciler (DesiredTunnel Dialer TLSConfig TransportConfig Props)) :
    ReconcilerEvent (DesiredTunnel Dialer TLSConfig TransportConfig Props) →
      Reconciler (DesiredTunnel Dialer TLSConfig TransportConfig Props)
  | .reconcile env desired => (s.reconcileCall env desired).2
  | .exit handle => { s with ops := s.ops ++ [.exited handle] }

/-- A sequence of events. -/
def Reconciler.run
    (events : List (ReconcilerEvent (DesiredTunnel Dialer TLSConfig TransportConfig Props))) :
    Reconciler (DesiredTunnel Dialer TLSConfig TransportConfig Props) :=
  events.foldl Reconciler.step .new

end Model

end Rstream.Command
