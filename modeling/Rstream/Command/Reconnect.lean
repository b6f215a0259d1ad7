import Rstream.Go.Errors
import Rstream.Go.Strings
import Rstream.Transport.DialRoutes

/-!
# Reconnect loops

`Runner.run` of `rstream run` and `forwardCtx.run` of `rstream forward` repeat one
attempt to serve a tunnel until it is closed, their context ends or an error is
permanent. Whether it is, is decided on the error tree of the attempt.
-/

namespace Rstream.Command

open Go

section Errors

inductive EngineErrorCode
  | unspecified
  | unauthorized
  | invalidRequest
  | protocolVersionMissing
  | protocolVersionInvalid
  | protocolVersionIncompatible
  | tunnelNotFound
  | invalidStream
  | featureNotAvailable
  | serviceUnavailable
  | capacityExhausted
  | resourceConflict
  | internal
  /-- A code the client does not know. -/
  | other (code : Int)
  deriving DecidableEq

structure EngineError where
  code : EngineErrorCode
  message : String
  deriving DecidableEq

/-- `EngineError.Retryable`. -/
def EngineError.retryable (e : EngineError) : Bool :=
  e.code == .serviceUnavailable || e.code == .capacityExhausted || e.code == .resourceConflict ||
    e.code == .internal

/-- The errors the loops tell apart. -/
inductive Failure
  /-- `context.Canceled`. -/
  | canceled
  /-- `context.DeadlineExceeded`. -/
  | deadlineExceeded
  | engine (e : EngineError)
  | other (text : String)
  deriving DecidableEq

abbrev AttemptError := Err Failure

/-- The target `*rstream.EngineError` of `errors.As`. -/
def asEngineError : Failure → Option EngineError
  | .engine e => some e
  | _ => none

/-- `errors.Is(err, context.Canceled) || errors.Is(err, context.DeadlineExceeded)`. -/
def isContextError (err : AttemptError) : Bool :=
  err.is (· == .canceled) || err.is (· == .deadlineExceeded)

def legacyResourceConflictMessage (message : String) : Bool :=
  trimSpace message ∈ ["Hostname is already in use.", "TCP port is already in use.",
    "Registered WebTTY server is already online."]

def retryableTunnelError : Option AttemptError → Bool
  | none => false
  | some err =>
    if isContextError err then false
    else match err.as asEngineError with
    | some e => if e.retryable then true
        else e.code == .invalidRequest && legacyResourceConflictMessage e.message
    | none => true

def forwardRetryableError : Option AttemptError → Bool
  | none => false
  | some err =>
    if isContextError err then false
    else match err.as asEngineError with
    | some e => e.retryable
    | none => true

end Errors

section Loops

/-- One round of a loop: the context at its head, what the attempt returned, and whether the wait
before the next round was not interrupted. -/
structure Round where
  ctxErr : Option AttemptError
  outcome : Option AttemptError
  waited : Bool

/-- How a loop ends. -/
inductive LoopEnd
  /-- The transport of the tunnel could not be set up. -/
  | transport (err : AttemptError)
  /-- The context of the loop ended. -/
  | stopped
  /-- The tunnel was closed. -/
  | closed
  /-- An attempt failed. -/
  | failed (err : AttemptError)
  deriving DecidableEq

/-- The loop, as far as the rounds go; `verdict` decides on the outcome of an attempt. Nothing
means that another attempt follows. -/
def reconnectLoop (verdict : Option AttemptError → Option LoopEnd) : List Round → Option LoopEnd
  | [] => none
  | round :: rounds =>
    if round.ctxErr.isSome then some .stopped
    else match verdict round.outcome with
    | some ending => some ending
    | none => if round.waited then reconnectLoop verdict rounds else some .stopped

/-- The body of the loop of `Runner.run` after the attempt. -/
def Runner.verdict (outcome : Option AttemptError) : Option LoopEnd :=
  match outcome with
  | none => some .closed
  | some err =>
    if err.is (· == .canceled) then some (.failed err)
    else if !retryableTunnelError outcome then some (.failed err)
    else none

/-- `Runner.run`; `transport` is the outcome of `newTransport`, if the tunnel has no transport. -/
def Runner.run (transport : Option AttemptError) (rounds : List Round) : Option LoopEnd :=
  match transport with
  | some err => some (.transport err)
  | none => reconnectLoop verdict rounds

/-- The body of the loop of `forwardCtx.run` after the attempt. -/
def ForwardCtx.verdict (autoReconnect : Option Bool) (outcome : Option AttemptError) : Option LoopEnd :=
  match outcome with
  | none => some .closed
  | some err =>
    if !forwardRetryableError outcome then some (.failed err)
    else match autoReconnect with
    | some true => none
    | _ => some (.failed err)

/-- `forwardCtx.run`. -/
def ForwardCtx.run (autoReconnect : Option Bool) (rounds : List Round) : Option LoopEnd :=
  reconnectLoop (verdict autoReconnect) rounds

end Loops

variable {outcome : Option AttemptError}

section Survival

variable {verdict : Option AttemptError → Option LoopEnd} {rounds : List Round} {ending : LoopEnd}

/-- The context of the loop stays live. -/
def LiveRounds (rounds : List Round) : Prop := ∀ r ∈ rounds, r.ctxErr = none ∧ r.waited = true

/-- The loop makes an attempt with this outcome: every attempt before it was to be retried. -/
def Reaches (verdict : Option AttemptError → Option LoopEnd) (rounds : List Round)
    (outcome : Option AttemptError) : Prop :=
  ∃ before r after, rounds = before ++ r :: after ∧ (∀ q ∈ before, verdict q.outcome = none) ∧
    r.outcome = outcome

theorem reaches_cons {round : Round} :
    Reaches verdict (round :: rounds) outcome ↔
      round.outcome = outcome ∨ verdict round.outcome = none ∧ Reaches verdict rounds outcome := by
  constructor
  · rintro ⟨before, r, after, hsplit, hbefore, houtcome⟩
    cases before with
    | nil =>
      cases hsplit
      exact .inl houtcome
    | cons q before =>
      cases hsplit
      exact .inr ⟨hbefore _ (List.mem_cons_self ..), before, r, after, rfl,
        fun q hq => hbefore q (List.mem_cons_of_mem _ hq), houtcome⟩
  · rintro (houtcome | ⟨hretry, before, r, after, rfl, hbefore, houtcome⟩)
    · exact ⟨[], round, rounds, rfl, nofun, houtcome⟩
    · exact ⟨round :: before, r, after, rfl, List.forall_mem_cons.mpr ⟨hretry, hbefore⟩, houtcome⟩

/-- A live loop ends with the verdict on an attempt it makes. -/
theorem reconnectLoop_eq_some (hlive : LiveRounds rounds) :
    reconnectLoop verdict rounds = some ending ↔
      ∃ outcome, Reaches verdict rounds outcome ∧ verdict outcome = some ending := by
  induction rounds with
  | nil =>
    refine ⟨nofun, ?_⟩
    rintro ⟨_, ⟨before, _, _, hsplit, _⟩, _⟩
    exact absurd hsplit (List.append_ne_nil_of_right_ne_nil before (List.cons_ne_nil _ _)).symm
  | cons round rounds ih =>
    obtain ⟨hround, hrest⟩ := List.forall_mem_cons.mp hlive
    simp only [reconnectLoop, hround.1, Option.isSome_none, Bool.false_eq_true, if_false, hround.2,
      if_true, reaches_cons]
    cases hverdict : verdict round.outcome with
    | some ended =>
      constructor
      · intro h
        exact ⟨_, .inl rfl, hverdict.trans h⟩
      · rintro ⟨outcome, rfl | ⟨hretry, _⟩, hend⟩
        · exact hverdict.symm.trans hend
        · exact absurd hretry nofun
    | none =>
      rw [ih hrest]
      constructor
      · rintro ⟨outcome, hreach, hend⟩
        exact ⟨outcome, .inr ⟨rfl, hreach⟩, hend⟩
      · rintro ⟨outcome, rfl | ⟨_, hreach⟩, hend⟩
        · exact absurd (hverdict.symm.trans hend) nofun
        · exact ⟨outcome, hreach, hend⟩

/-- An engine error that `Runner.run` takes as permanent. -/
def PermanentForRun (err : AttemptError) : Prop :=
  ∃ e, err.as asEngineError = some e ∧ e.retryable = false ∧
    ¬ (e.code = .invalidRequest ∧ legacyResourceConflictMessage e.message = true)

/-- An engine error that `forwardCtx.run` takes as permanent. -/
def PermanentForForward (err : AttemptError) : Prop :=
  ∃ e, err.as asEngineError = some e ∧ e.retryable = false

/-- The ends a reconnect loop may come to. -/
def LoopEnd.Justified (permanent : AttemptError → Prop) : LoopEnd → Prop
  | .transport _ | .closed => True
  | .stopped => False
  | .failed err => permanent err

/-- `Runner.run` ends for an error of the context, or for a permanent one. -/
theorem Runner.verdict_failed {err : AttemptError} (h : Runner.verdict (some err) = some ending) :
    ending = .failed err ∧ (isContextError err = false → PermanentForRun err) := by
  refine ⟨?_, fun hcontext => ?_⟩
  · simp only [Runner.verdict] at h
    split_ifs at h <;> exact (Option.some.inj h).symm
  · have hcanceled : err.is (· == .canceled) = false := by
      simp only [isContextError, Bool.or_eq_false_iff] at hcontext
      exact hcontext.1
    simp only [Runner.verdict, hcanceled, Bool.false_eq_true, if_false, retryableTunnelError,
      hcontext] at h
    cases hengine : err.as asEngineError with
    | none => simp [hengine] at h
    | some e =>
      refine ⟨e, hengine, ?_⟩
      simp only [hengine] at h
      cases hretry : e.retryable with
      | true => simp [hretry] at h
      | false =>
        refine ⟨rfl, fun ⟨hcode, hlegacy⟩ => ?_⟩
        simp [hretry, hcode, hlegacy] at h

/-- The same for `forwardCtx.run` with reconnects. -/
theorem ForwardCtx.verdict_failed {err : AttemptError}
    (h : ForwardCtx.verdict (some true) (some err) = some ending) :
    ending = .failed err ∧ (isContextError err = false → PermanentForForward err) := by
  refine ⟨?_, fun hcontext => ?_⟩
  · simp only [ForwardCtx.verdict] at h
    split_ifs at h
    exact (Option.some.inj h).symm
  · simp only [ForwardCtx.verdict, forwardRetryableError, hcontext, Bool.false_eq_true,
      if_false] at h
    cases hengine : err.as asEngineError with
    | none => simp [hengine] at h
    | some e =>
      refine ⟨e, hengine, ?_⟩
      cases hretry : e.retryable with
      | true => simp [hengine, hretry] at h
      | false => rfl

/-- No attempt that the loop makes fails with a context error of its own. -/
def NoInnerTimeout (verdict : Option AttemptError → Option LoopEnd)
    (permanent : AttemptError → Prop) (rounds : List Round) : Prop :=
  ∀ err, Reaches verdict rounds (some err) → isContextError err = true → permanent err

/-- A live loop whose verdicts are justified but for context errors comes to a justified end
exactly when it makes no attempt with such an error. -/
theorem reconnectLoop_justified {permanent : AttemptError → Prop} (hlive : LiveRounds rounds)
    (hclosed : verdict none = some .closed)
    (hfailed : ∀ {ending err}, verdict (some err) = some ending →
      ending = .failed err ∧ (isContextError err = false → permanent err))
    (hcontext : ∀ err, isContextError err = true → verdict (some err) = some (.failed err)) :
    (∀ ending, reconnectLoop verdict rounds = some ending → ending.Justified permanent) ↔
      NoInnerTimeout verdict permanent rounds := by
  constructor
  · intro h err hreach herr
    exact h _ ((reconnectLoop_eq_some hlive).mpr ⟨_, hreach, hcontext err herr⟩)
  · intro h ending hend
    obtain ⟨_ | err, hreach, hend⟩ := (reconnectLoop_eq_some hlive).mp hend
    · cases hclosed.symm.trans hend
      trivial
    · obtain ⟨rfl, hpermanent⟩ := hfailed hend
      cases herr : isContextError err with
      | true => exact h err hreach herr
      | false => exact hpermanent herr

/-- **Reconnect loops.** With a live context, `Runner.run` and `forwardCtx.run` come to a justified
end exactly when no attempt they make fails with a timeout or a cancellation of its own. -/
theorem reconnect_survives (transport : Option AttemptError) {rounds : List Round}
    (hlive : LiveRounds rounds) :
    ((∀ ending, Runner.run transport rounds = some ending → ending.Justified PermanentForRun) ↔
        (transport = none → NoInnerTimeout Runner.verdict PermanentForRun rounds)) ∧
      ((∀ ending, ForwardCtx.run (some true) rounds = some ending →
          ending.Justified PermanentForForward) ↔
        NoInnerTimeout (ForwardCtx.verdict (some true)) PermanentForForward rounds) := by
  have hrun := reconnectLoop_justified hlive rfl Runner.verdict_failed fun err herr => by
    simp only [Runner.verdict, retryableTunnelError, herr, if_true, Bool.not_false, ite_self]
  have hforward := reconnectLoop_justified hlive rfl ForwardCtx.verdict_failed fun err herr => by
    simp only [ForwardCtx.verdict, forwardRetryableError, herr, if_true, Bool.not_false]
  refine ⟨?_, hforward⟩
  cases transport with
  | none => exact hrun.trans ⟨fun h _ => h, fun h => h rfl⟩
  | some err =>
    refine ⟨fun _ => nofun, fun _ ending h => ?_⟩
    cases h
    exact trivial

/-- The engine is unavailable at first, and the tunnel is closed later. -/
def recoveredRounds : List Round :=
  [⟨none, some (.wrap "failed to connect: " (.leaf (.engine ⟨.serviceUnavailable, "busy"⟩)) ""), true⟩,
    ⟨none, none, true⟩]

theorem reconnect_survives_sample :
    Runner.run none recoveredRounds = some .closed ∧
      NoInnerTimeout Runner.verdict PermanentForRun recoveredRounds := by
  have hlive : LiveRounds recoveredRounds := by simp [LiveRounds, recoveredRounds]
  refine ⟨rfl, (reconnect_survives none hlive).1.mp (fun ending h => ?_) rfl⟩
  cases h
  exact trivial

/-- The one route of a dial runs into its own deadline. -/
def routeTimesOut : List (Transport.RaceEvent String AttemptError) :=
  [.enter (some Transport.defaultDialTimeout), .dialed 0 (.error (.leaf .deadlineExceeded)), .send 0,
    .receive none, .exit]

/-- The error of an attempt whose dial timed out. -/
def connectTimedOut : AttemptError :=
  .wrap "failed to connect: " (.wrap "failed to dial engine: " (.leaf .deadlineExceeded) "") ""

/-- A dial returns the timeout of its only route while the context of the call is live, and the
loops end on it. -/
theorem dialTimeout_ends_loops : (∃ s : Transport.Race String AttemptError,
      Transport.Race.init.run ⟨["engine.example:443"], [""]⟩ routeTimesOut = some s ∧
        s.parentErr = none ∧ s.phase = .returned (.error (.leaf .deadlineExceeded))) ∧
      LiveRounds [⟨none, some connectTimedOut, true⟩] ∧
      Runner.run none [⟨none, some connectTimedOut, true⟩] = some (.failed connectTimedOut) ∧
      ¬ (LoopEnd.failed connectTimedOut).Justified PermanentForRun ∧
      ForwardCtx.run (some true) [⟨none, some connectTimedOut, true⟩] =
        some (.failed connectTimedOut) ∧
      ¬ (LoopEnd.failed connectTimedOut).Justified PermanentForForward := by
  refine ⟨⟨_, rfl, rfl, rfl⟩, by simp [LiveRounds], rfl, ?_, rfl, ?_⟩
  · rintro ⟨e, hengine, _⟩
    cases hengine
  · rintro ⟨e, hengine, _⟩
    cases hengine

end Survival

end Rstream.Command
