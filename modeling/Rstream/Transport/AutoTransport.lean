import Rstream.Transport.AutoRace

/-!
# The automatic transport

An `AutoTransport` pins the transport that won the race of its first `Dial`. `Close`
forgets the pin, cancels a running selection and waits for it and its cleanup. Every
section under the mutex, every wait and every call of a foreign function is one action;
contexts can end at any time. Selections are numbered in the order in which they begin.
-/

namespace Rstream.Transport

open Function

section State

/-- The transports of an `AutoTransport`. -/
structure AutoConfig where
  /-- The transport of a mode is given; otherwise every selection makes its own. -/
  configured : TunnelTransportMode → Bool
  /-- The transport of a mode has a `Close`. -/
  closer : TunnelTransportMode → Bool

/-- The transport that a selection uses for a mode. -/
structure TransportRef where
  selection : Nat
  mode : TunnelTransportMode
  deriving DecidableEq, Repr

/-- Two references are to the same transport. -/
def AutoConfig.same (cfg : AutoConfig) (a b : TransportRef) : Bool :=
  a.mode = b.mode && (cfg.configured a.mode || a.selection = b.selection)

/-- A connection, known by where it was dialed. -/
inductive AutoConn
  /-- By an attempt of a selection. -/
  | attempt (ref : TransportRef)
  /-- By a call of `Dial` on the pinned transport. -/
  | dialed (n : Nat) (ref : TransportRef)
  deriving DecidableEq, Repr

def AutoConn.transport : AutoConn → TransportRef
  | attempt ref => ref
  | dialed _ ref => ref

/-- Who closes connections. -/
inductive AutoCloser
  | cleanup (m : Nat)
  | dial (n : Nat)
  | close (k : Nat)
  deriving DecidableEq, Repr

inductive ConnState
  | unborn
  | usable
  | closed (closer : AutoCloser)
  deriving DecidableEq, Repr

/-- Where a call of `Dial` stands. -/
inductive DialPhase
  /-- Before the locked section at the head of its loop. -/
  | checking
  /-- Waiting for the end of a selection. -/
  | waiting (m : Nat)
  /-- Waiting for the end of a cleanup. -/
  | draining (m : Nat)
  /-- The cleanup has ended. -/
  | clearing (m : Nat)
  /-- Dialing the pinned transport. -/
  | dialing (ref : TransportRef)
  /-- In `selectTransport`. -/
  | selecting (m : Nat)
  /-- The selection is stale; its connection is to be closed. -/
  | discarding (m : Nat)
  /-- Its transport is to be closed. -/
  | closing (m : Nat)
  /-- Waiting for its cleanup. -/
  | joining (m : Nat)
  /-- Before the last locked section. -/
  | ending (m : Nat)
  | returning (result : Except String AutoConn)
  | returned (result : Except String AutoConn)

/-- A call of `Dial`. -/
structure AutoDial where
  generation : Option Nat
  phase : DialPhase

/-- Where a call of `Close` stands, with its local variables. -/
inductive ClosePhase
  | idle
  | cancelling (cancel : Option Nat) (selected : Option TransportRef) (selection cleanup : Option Nat)
  | closing (selected : Option TransportRef) (selection cleanup : Option Nat)
  /-- Waiting for the running selection, if there is one. -/
  | waiting (selection cleanup : Option Nat)
  /-- Reading `cleanupDone` again. -/
  | rereading
  /-- Waiting for the cleanup, if there is one. -/
  | draining (cleanup : Option Nat)
  | clearing (m : Nat)
  | returning
  | returned

/-- A call of `Close`; the generation it ended and the number of selections that had begun. -/
structure AutoClose where
  generation : Nat
  begun : Nat
  phase : ClosePhase

/-- `AutoTransport`: the fields under its mutex, the selections, the connections, and the calls. -/
structure AutoTransport where
  selected : Option TransportRef
  selecting : Bool
  selectionDone : Nat
  selectionCancel : Option Nat
  cleanupDone : Option Nat
  generation : Nat
  races : Nat → AutoRace
  /-- The number of selections that have begun. -/
  selections : Nat
  /-- The channel of a selection is closed. -/
  doneClosed : Nat → Bool
  /-- The context of a selection is cancelled. -/
  cancelled : Nat → Bool
  conns : AutoConn → ConnState
  dials : Nat → AutoDial
  closes : Nat → AutoClose
  /-- The transport that was pinned in a generation. -/
  pins : Nat → Option TransportRef

end State

section Steps

namespace AutoTransport

/-- A new transport. -/
def new : AutoTransport where
  selected := none
  selecting := false
  selectionDone := 0
  selectionCancel := none
  cleanupDone := none
  generation := 0
  races _ := .begin 0 0
  selections := 0
  doneClosed _ := false
  cancelled _ := false
  conns _ := .unborn
  dials _ := ⟨none, .checking⟩
  closes _ := ⟨0, 0, .idle⟩
  pins _ := none

variable (cfg : AutoConfig) (s : AutoTransport)

def setDial (n : Nat) (d : AutoDial) : AutoTransport :=
  { s with dials := update s.dials n d }

/-- A call of `Dial` goes on. -/
def goDial (n : Nat) (phase : DialPhase) : AutoTransport :=
  s.setDial n { s.dials n with phase }

/-- A call of `Close` goes on. -/
def goClose (k : Nat) (phase : ClosePhase) : AutoTransport :=
  { s with closes := update s.closes k { s.closes k with phase } }

/-- `conn.Close`. -/
def closeConn (closer : AutoCloser) (c : AutoConn) : AutoTransport :=
  if s.conns c = .usable then { s with conns := update s.conns c (.closed closer) } else s

/-- `closeAutoTransport`: the connections of the transport are closed with it. -/
def closeAutoTransport (closer : AutoCloser) (ref : TransportRef) : AutoTransport :=
  if cfg.closer ref.mode then
    { s with conns := fun c =>
        if s.conns c = .usable ∧ cfg.same c.transport ref then .closed closer else s.conns c }
  else s

/-- The part of the loop of `Dial` that begins a selection. -/
def beginSelection (n : Nat) : AutoTransport :=
  { s with
    selecting := true
    selectionDone := s.selections
    selectionCancel := some s.selections
    races := update s.races s.selections (.begin n s.generation)
    selections := s.selections + 1 }.goDial n (.selecting s.selections)

/-- The locked section at the head of the loop of `Dial`, after the check of the generation. -/
def dialState (n : Nat) : AutoTransport :=
  match s.selected with
  | some ref => s.goDial n (.dialing ref)
  | none =>
    if s.selecting then s.goDial n (.waiting s.selectionDone)
    else match s.cleanupDone with
    | some m => s.goDial n (.draining m)
    | none => s.beginSelection n

/-- `net.ErrClosed`. -/
def errClosed : String := "use of closed network connection"

/-- The locked section at the head of the loop of `Dial`. -/
def dialCheck (n : Nat) : Option AutoTransport :=
  match s.dials n with
  | ⟨none, .checking⟩ => some ((s.setDial n ⟨some s.generation, .checking⟩).dialState n)
  | ⟨some generation, .checking⟩ =>
    if s.generation ≠ generation then some (s.goDial n (.returning (.error errClosed)))
    else some (s.dialState n)
  | _ => none

/-- The two waits of `Dial`. -/
def dialWait (n : Nat) (ctxErr : Option String) : Option AutoTransport :=
  match (s.dials n).phase, ctxErr with
  | .waiting _, some err | .draining _, some err => some (s.goDial n (.returning (.error err)))
  | .waiting m, none => if s.doneClosed m then some (s.goDial n .checking) else none
  | .draining m, none =>
    if (s.races m).cleanup = .finished then some (s.goDial n (.clearing m)) else none
  | _, _ => none

/-- Forget a cleanup that has ended. -/
def clearCleanup (m : Nat) : AutoTransport :=
  if s.cleanupDone = some m then { s with cleanupDone := none } else s

/-- The locked section after the wait for a cleanup. -/
def dialClear (n : Nat) : Option AutoTransport :=
  match (s.dials n).phase with
  | .clearing m => some ((s.clearCleanup m).goDial n .checking)
  | _ => none

/-- `Dial` of the pinned transport returns. -/
def dialPinned (n : Nat) (result : DialResult) : Option AutoTransport :=
  match (s.dials n).phase with
  | .dialing ref =>
    match result with
    | .ok _ =>
      some ({ s with conns := update s.conns (.dialed n ref) .usable }.goDial n
        (.returning (.ok (.dialed n ref))))
    | .error err => some (s.goDial n (.returning (.error err)))
  | _ => none

/-- What an action of a race does to the connections. -/
def raceConns (m : Nat) : RaceAction → AutoTransport
  | .dial mode (.ok _) =>
    { s with conns := update s.conns (.attempt ⟨m, mode⟩) .usable }
  | .cleanupConn =>
    match (s.races m).cleanup with
    | .closingConn mode _ => s.closeConn (.cleanup m) (.attempt ⟨m, mode⟩)
    | _ => s
  | .cleanupTransport =>
    match (s.races m).cleanup with
    | .closingTransport mode _ =>
      if (s.races m).closesTransport mode then s.closeAutoTransport cfg (.cleanup m) ⟨m, mode⟩ else s
    | _ => s
  | _ => s

/-- An action of a selection that has begun. -/
def race (m : Nat) (action : RaceAction) : Option AutoTransport :=
  if m < s.selections then
    match (s.races m).act action with
    | some r => some { s.raceConns cfg m action with races := update s.races m r }
    | none => none
  else none

/-- The error of a selection without a transport. -/
def selectionError (r : AutoRace) : String :=
  "QUIC tunnel transport failed: " ++ r.quicErr ++ "\n" ++ "TLS tunnel transport failed: " ++ r.tlsErr

/-- The end of a selection, under the mutex. -/
def endSelection (m : Nat) : AutoTransport :=
  { s with
    selecting := false
    selectionCancel := none
    doneClosed := update s.doneClosed m true }

/-- The pin and the result of a selection that is not stale. -/
def pinSelection (n m : Nat) : AutoOutcome → AutoTransport
  | .won mode =>
    { s with
      selected := some ⟨m, mode⟩
      pins := update s.pins s.generation (some ⟨m, mode⟩) }.goDial n
        (.returning (.ok (.attempt ⟨m, mode⟩)))
  | .cancelled err => s.goDial n (.returning (.error err))
  | .failed => s.goDial n (.returning (.error (selectionError (s.races m))))

/-- The locked section after `selectTransport`. -/
def dialSelected (n : Nat) : Option AutoTransport :=
  match (s.dials n).phase with
  | .selecting m =>
    match (s.races m).outcome with
    | none => none
    | some outcome =>
      if s.generation ≠ (s.races m).generation then some (s.goDial n (.discarding m))
      else
        let s := s.pinSelection n m outcome
        let s := if (s.races m).cleanup = .absent then s else { s with cleanupDone := some m }
        some (s.endSelection m)
  | _ => none

/-- A stale `Dial` goes on. -/
def dialStale (n : Nat) : Option AutoTransport :=
  match (s.dials n).phase with
  | .discarding m =>
    match (s.races m).winner with
    | some mode => some ((s.closeConn (.dial n) (.attempt ⟨m, mode⟩)).goDial n (.closing m))
    | none => some (s.goDial n (.closing m))
  | .closing m =>
    match (s.races m).winner with
    | some mode => some ((s.closeAutoTransport cfg (.dial n) ⟨m, mode⟩).goDial n (.joining m))
    | none => some (s.goDial n (.joining m))
  | .joining m => if (s.races m).cleanup.settled then some (s.goDial n (.ending m)) else none
  | .ending m => some ((s.endSelection m).goDial n (.returning (.error errClosed)))
  | _ => none

/-- A call of `Dial` returns. -/
def dialReturn (n : Nat) : Option AutoTransport :=
  match (s.dials n).phase with
  | .returning result => some (s.goDial n (.returned result))
  | _ => none

/-- The locked section of `Close`. -/
def closeLocked (k : Nat) : Option AutoTransport :=
  match (s.closes k).phase with
  | .idle =>
    some { s with
      generation := s.generation + 1
      selected := none
      closes := update s.closes k ⟨s.generation, s.selections,
        .cancelling s.selectionCancel s.selected
          (if s.selecting then some s.selectionDone else none) s.cleanupDone⟩ }
  | _ => none

/-- A call of `Close` goes on after its locked section. -/
def closeStep (k : Nat) : Option AutoTransport :=
  match (s.closes k).phase with
  | .cancelling cancel selected selection cleanup =>
    some ({ s with cancelled := fun m => s.cancelled m || cancel == some m }.goClose k
      (.closing selected selection cleanup))
  | .closing selected selection cleanup =>
    match selected with
    | some ref =>
      some ((s.closeAutoTransport cfg (.close k) ref).goClose k (.waiting selection cleanup))
    | none => some (s.goClose k (.waiting selection cleanup))
  | .waiting selection cleanup =>
    match selection with
    | some m => if s.doneClosed m then some (s.goClose k .rereading) else none
    | none => some (s.goClose k (.draining cleanup))
  | .rereading => some (s.goClose k (.draining s.cleanupDone))
  | .draining cleanup =>
    match cleanup with
    | some m => if (s.races m).cleanup = .finished then some (s.goClose k (.clearing m)) else none
    | none => some (s.goClose k .returning)
  | .clearing m => some ((s.clearCleanup m).goClose k .returning)
  | .returning => some (s.goClose k .returned)
  | _ => none

end AutoTransport

/-- One action of one of the goroutines. -/
inductive AutoEvent
  | dialCheck (n : Nat)
  | dialWait (n : Nat) (ctxErr : Option String)
  | dialClear (n : Nat)
  | dialPinned (n : Nat) (result : DialResult)
  | race (m : Nat) (action : RaceAction)
  | dialSelected (n : Nat)
  | dialStale (n : Nat)
  | dialReturn (n : Nat)
  | closeLocked (k : Nat)
  | closeStep (k : Nat)

namespace AutoTransport

/-- The state after an action; nothing if it is not possible. -/
def step (cfg : AutoConfig) (s : AutoTransport) : AutoEvent → Option AutoTransport
  | .dialCheck n => s.dialCheck n
  | .dialWait n ctxErr => s.dialWait n ctxErr
  | .dialClear n => s.dialClear n
  | .dialPinned n result => s.dialPinned n result
  | .race m action => s.race cfg m action
  | .dialSelected n => s.dialSelected n
  | .dialStale n => s.dialStale cfg n
  | .dialReturn n => s.dialReturn n
  | .closeLocked k => s.closeLocked k
  | .closeStep k => s.closeStep cfg k

/-- A run of the calls on a transport. -/
def run (cfg : AutoConfig) (s : AutoTransport) : List AutoEvent → Option AutoTransport
  | [] => some s
  | event :: events =>
    match s.step cfg event with
    | some s' => s'.run cfg events
    | none => none

end AutoTransport

end Steps

end Rstream.Transport
