import Mathlib.Data.List.Range
import Mathlib.Data.Set.Function
import Mathlib.Order.Interval.Set.Defs

/-!
# Racing dial routes

`dial_routes.go`: every pair of a target and a proxy is a route. `raceDialRoutes` runs
at most two routes at a time, takes the first connection that is established, and
cancels, joins and closes the rest. The state carries the variables of the call and what
became of each attempt; an event is one step of the call, of an attempt or of the
environment.
-/

namespace Rstream.Transport

open Function

structure DialRoute where
  target : String
  proxy : String
  deriving DecidableEq

structure DialRoutes where
  targets : List String
  proxies : List String

namespace DialRoutes

/-- `dialRoutes.count`. -/
def count (r : DialRoutes) : Nat := r.targets.length * r.proxies.length

/-- The positions of the target and of the proxy that `dialRoutes.at` picks. -/
def position (r : DialRoutes) (index : Nat) : Nat × Nat :=
  let proxy := index % r.proxies.length
  ((index / r.proxies.length + proxy) % r.targets.length, proxy)

/-- `dialRoutes.at`; an empty list of targets or proxies panics. -/
def routeAt (r : DialRoutes) (index : Nat) : Option DialRoute := do
  let (target, proxy) := r.position index
  return ⟨← r.targets[target]?, ← r.proxies[proxy]?⟩

end DialRoutes

/-- `defaultDialTimeout`, in nanoseconds. -/
def defaultDialTimeout : Int := 30000000000

/-- The time of one attempt, from the time that remains before the deadline; nothing when the
division panics. -/
def attemptBudget (count index : Nat) (remaining : Option Int) : Option Int :=
  match remaining with
  | none => some defaultDialTimeout
  | some remaining =>
    let share := ((count : Int) - index + 1).tdiv 2
    if share = 0 then none else some (min (max 2000000000 (remaining.tdiv share)) remaining)

/-- What an attempt does. -/
inductive Attempt (T E : Type)
  | idle
  /-- `dial` runs on a route with a budget. -/
  | running (route : DialRoute) (budget : Int)
  /-- `dial` has returned, and the result is to be sent. -/
  | sending (result : Except E T)
  | sent (result : Except E T)

/-- The attempt has been started and has not finished. -/
def Attempt.inFlight {T E : Type} : Attempt T E → Bool
  | .running .. | .sending _ => true
  | .idle | .sent _ => false

/-- The timer of the next fallback. -/
inductive FallbackTimer
  | armed
  /-- The time is up and `timer.C` holds a value. -/
  | fired
  | stopped

/-- What the call does after it has joined the attempts. -/
inductive AfterDrain (T E : Type)
  /-- The context of the call ended. -/
  | failed (err : E)
  /-- The attempt with this index was the first to succeed. -/
  | won (index : Nat) (value : T)

/-- Where the call stands. -/
inductive RacePhase (T E : Type)
  | entry
  /-- At the head of the loop. -/
  | select
  | drain (after : AfterDrain T E)
  /-- The value, with the index of its attempt; a `nil` error may come with the zero value. -/
  | returned (result : Except E (Option (Nat × T)))
  | panicked

/-- The variables of `raceDialRoutes` and the attempts it started. -/
structure Race (T E : Type) where
  phase : RacePhase T E
  /-- `parent.Err()`. -/
  parentErr : Option E
  timer : FallbackTimer
  next : Nat
  active : Nat
  firstErr : Option E
  /-- The channel of the results, with the indices of the attempts that sent them. -/
  results : List (Nat × Except E T)
  attempts : Nat → Attempt T E
  /-- The indices that were started, in order. -/
  started : List Nat
  /-- How often the value of an attempt was closed. -/
  closes : Nat → Nat

/-- A step of the call, of an attempt or of the environment. -/
inductive RaceEvent (T E : Type)
  /-- The context of the caller ends. -/
  | endParent (err : E)
  /-- The timer expires. -/
  | fire
  /-- `dial` returns. -/
  | dialed (index : Nat) (result : Except E T)
  /-- An attempt sends its result. -/
  | send (index : Nat)
  /-- The call starts; `remaining` is the time until the deadline, if there is one. -/
  | enter (remaining : Option Int)
  /-- The three cases of the `select`. -/
  | ctxDone
  | timerC (remaining : Option Int)
  | receive (remaining : Option Int)
  /-- The loop is left. -/
  | exit
  /-- One round of the loop of `drain`. -/
  | drain

namespace Race

variable {T E : Type}

/-- The call before it starts. -/
def init : Race T E where
  phase := .entry
  parentErr := none
  timer := .stopped
  next := 0
  active := 0
  firstErr := none
  results := []
  attempts _ := .idle
  started := []
  closes _ := 0

def start (routes : DialRoutes) (remaining : Option Int) (s : Race T E) : Race T E :=
  match attemptBudget routes.count s.next remaining, routes.routeAt s.next with
  | some budget, some route => { s with
      next := s.next + 1
      active := s.active + 1
      attempts := update s.attempts s.next (.running route budget)
      started := s.started ++ [s.next] }
  | _, _ => { s with phase := .panicked }

def closeValue (index : Nat) (s : Race T E) : Race T E :=
  { s with closes := update s.closes index (s.closes index + 1) }

/-- `timer.Reset`. -/
def resetTimer (s : Race T E) : Race T E :=
  if s.active < 2 then { s with timer := .armed } else s

/-- The case of a received result. -/
def receive (routes : DialRoutes) (remaining : Option Int) (index : Nat) (result : Except E T)
    (s : Race T E) : Race T E :=
  match result with
  | .ok value => { s with phase := .drain (.won index value) }
  | .error err =>
    let s := { s with firstErr := s.firstErr.or (some err) }
    if s.next < routes.count then (s.start routes remaining).resetTimer else s

/-- The return after the attempts have been joined. -/
def afterDrain (s : Race T E) : AfterDrain T E → Race T E
  | .failed err => { s with phase := .returned (.error err) }
  | .won index value =>
    match s.parentErr with
    | some err => { s.closeValue index with phase := .returned (.error err) }
    | none => { s with phase := .returned (.ok (some (index, value))) }

/-- One round of `drain`: receive a result and close its value. -/
def drain (after : AfterDrain T E) (s : Race T E) : Option (Race T E) :=
  if s.active = 0 then some (s.afterDrain after)
  else match s.results with
  | [] => none
  | (index, result) :: results =>
    let s := { s with active := s.active - 1, results := results }
    match result with
    | .ok _ => some (s.closeValue index)
    | .error _ => some s

/-- The return after the loop. -/
def exit (s : Race T E) : Race T E :=
  match s.parentErr, s.firstErr with
  | some err, _ => { s with phase := .returned (.error err) }
  | none, some err => { s with phase := .returned (.error err) }
  | none, none => { s with phase := .returned (.ok none) }

/-- A step of the call in the `select`. -/
def select (routes : DialRoutes) (s : Race T E) : RaceEvent T E → Option (Race T E)
  | .ctxDone => s.parentErr.map fun err => { s with phase := .drain (.failed err) }
  | .timerC remaining =>
    match s.timer with
    | .fired =>
      let s := { s with timer := .stopped }
      some (if s.next < routes.count ∧ s.active < 2 then s.start routes remaining else s)
    | _ => none
  | .receive remaining =>
    match s.results with
    | [] => none
    | (index, result) :: results =>
      some ({ s with active := s.active - 1, results := results }.receive routes remaining index
        result)
  | _ => none

def callStep (routes : DialRoutes) (s : Race T E) (e : RaceEvent T E) : Option (Race T E) :=
  match s.phase, e with
  | .entry, .enter remaining =>
    match s.parentErr with
    | some err => some { s with phase := .returned (.error err) }
    | none => some ({ s with phase := .select, timer := .armed }.start routes remaining)
  | .select, .exit => if s.active = 0 then some s.exit else none
  | .select, e => if s.active = 0 then none else s.select routes e
  | .drain after, .drain => s.drain after
  | _, _ => none

/-- An attempt sends its result, if the channel has room. -/
def send (index : Nat) (s : Race T E) : Option (Race T E) :=
  match s.attempts index with
  | .sending result =>
    if s.results.length < 2 then some { s with
      results := s.results ++ [(index, result)]
      attempts := update s.attempts index (.sent result) }
    else none
  | _ => none

/-- One step; nothing when the event is not possible. -/
def step (routes : DialRoutes) (s : Race T E) : RaceEvent T E → Option (Race T E)
  | .endParent err => if s.parentErr.isNone then some { s with parentErr := some err } else none
  | .fire =>
    match s.timer with
    | .armed => some { s with timer := .fired }
    | _ => none
  | .dialed index result =>
    match s.attempts index with
    | .running .. => some { s with
        attempts := update s.attempts index (.sending result) }
    | _ => none
  | .send index => s.send index
  | e => s.callStep routes e

/-- A run of the call. -/
def run (routes : DialRoutes) : Race T E → List (RaceEvent T E) → Option (Race T E)
  | s, [] => some s
  | s, e :: events => (s.step routes e).bind fun s => run routes s events

end Race

end Rstream.Transport
