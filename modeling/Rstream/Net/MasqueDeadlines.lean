import Rstream.Core.Machine
import Rstream.Go.Time

/-!
# Read deadlines of a MASQUE connection

`SetReadDeadline` of an open `masqueUDPPacketConn` cancels the context of the reads at
once or sets a timer that does it, and replaces a cancelled context when the deadline
is moved. A callback of the timer that has been started cannot be stopped any more; it
looks at the deadline again when it gets the mutex.
-/

namespace Rstream.Net

open Rstream.Core

/-- The clock and what `masqueUDPPacketConn` keeps about its read deadline. -/
structure ReadDeadline where
  now : Int
  /-- `readDeadline`, unless it is the zero time. -/
  readDeadline : Option Int := none
  /-- `readDeadlineTimer`, unless it is `nil`, and when it fires if it is set. -/
  readDeadlineTimer : Option (Option Int) := none
  /-- The callbacks of the timer that wait for the mutex. -/
  callbacks : Nat := 0
  /-- `readCtx` is cancelled. -/
  readContextDone : Bool := false
  deriving DecidableEq

/-- What happens to a connection. -/
inductive DeadlineEvent
  /-- The clock goes on. -/
  | advance (now : Int)
  | setReadDeadline (t : Option Int)
  /-- The timer starts its callback. -/
  | fire
  /-- A callback gets the mutex. -/
  | callback

namespace ReadDeadline

/-- `readDeadlineTimer.Stop`, if there is a timer. -/
def stopTimer (c : ReadDeadline) : ReadDeadline :=
  { c with readDeadlineTimer := c.readDeadlineTimer.map fun _ => none }

/-- `resetReadContextLocked`, if the context is cancelled. -/
def renewReadContext (c : ReadDeadline) : ReadDeadline :=
  if c.readContextDone then { c with readContextDone := false } else c

def setReadDeadline (c : ReadDeadline) : Option Int → ReadDeadline
  | none => { c with readDeadline := none }.stopTimer.renewReadContext
  | some t =>
    let c := { c with readDeadline := some t }
    if t ≤ c.now then { c.stopTimer with readContextDone := true }
    else
      let due := c.now + Go.timeSub t c.now
      match c.readDeadlineTimer with
      | some _ => { c.renewReadContext with readDeadlineTimer := some (some due) }
      -- The context is not renewed here.
      | none => { c with readDeadlineTimer := some (some due) }

/-- The callback of the timer: the deadline has to be before the current time. -/
def callback (c : ReadDeadline) : ReadDeadline :=
  if c.readDeadline.any (· < c.now) then { c with readContextDone := true } else c

/-- What an event leads to, if it can happen. -/
def step (c : ReadDeadline) : DeadlineEvent → Option ReadDeadline
  | .advance now => if c.now ≤ now then some { c with now } else none
  | .setReadDeadline t => some (c.setReadDeadline t)
  | .fire =>
    match c.readDeadlineTimer with
    | some (some due) =>
      if due ≤ c.now then
        some { c with readDeadlineTimer := some none, callbacks := c.callbacks + 1 }
      else none
    | _ => none
  | .callback =>
    match c.callbacks with
    | n + 1 => some { c.callback with callbacks := n }
    | 0 => none

/-- The first timer is not set while the context is cancelled, and no callback runs at the very
time of the deadline. -/
def Regular (c : ReadDeadline) : DeadlineEvent → Prop
  | .setReadDeadline (some t) =>
    c.now < t → c.readDeadlineTimer = none → c.readContextDone = false
  | .callback => c.readDeadline ≠ some c.now
  | _ => True

/-- The context is cancelled only for a deadline that has been reached. -/
def Timely (c : ReadDeadline) : Prop :=
  c.readContextDone = true → ∃ t, c.readDeadline = some t ∧ t ≤ c.now

variable {c c' : ReadDeadline}

theorem renewReadContext_done (c : ReadDeadline) : c.renewReadContext.readContextDone = false := by
  unfold renewReadContext
  split_ifs with hdone
  · rfl
  · simpa using hdone

theorem setReadDeadline_timely {t : Option Int} (hregular : c.Regular (.setReadDeadline t)) :
    (c.setReadDeadline t).Timely := by
  intro hdone
  cases t with
  | none => exact absurd hdone (by simp [setReadDeadline, renewReadContext_done])
  | some t =>
    simp only [setReadDeadline] at hdone ⊢
    split_ifs at hdone ⊢ with hpast
    · exact ⟨t, rfl, hpast⟩
    · cases htimer : c.readDeadlineTimer with
      | some due => simp [htimer, renewReadContext_done] at hdone
      | none => simp [htimer, hregular (by omega) htimer] at hdone

/-- A callback after the deadline cancels the context, and no other callback does. -/
theorem callback_done (c : ReadDeadline) : c.callback.readContextDone = true ↔
    c.readContextDone = true ∨ ∃ t, c.readDeadline = some t ∧ t < c.now := by
  unfold callback
  cases hdeadline : c.readDeadline with
  | none => simp
  | some t => by_cases hpast : t < c.now <;> simp [hpast]

theorem callback_frame (c : ReadDeadline) :
    c.callback.readDeadline = c.readDeadline ∧ c.callback.now = c.now := by
  unfold callback
  split_ifs <;> exact ⟨rfl, rfl⟩

theorem Timely.callback (h : c.Timely) : c.callback.Timely := by
  intro hdone
  rw [(callback_frame c).1, (callback_frame c).2]
  rcases (callback_done c).mp hdone with hdone | ⟨t, ht, hpast⟩
  · exact h hdone
  · exact ⟨t, ht, hpast.le⟩

theorem Timely.step {e : DeadlineEvent} (h : c.Timely) (hregular : c.Regular e)
    (hstep : c.step e = some c') : c'.Timely := by
  cases e with
  | advance now =>
    simp only [ReadDeadline.step, Option.ite_none_right_eq_some, Option.some.injEq] at hstep
    obtain ⟨hnow, rfl⟩ := hstep
    intro hdone
    obtain ⟨t, ht, hreached⟩ := h hdone
    exact ⟨t, ht, hreached.trans hnow⟩
  | setReadDeadline t =>
    cases hstep
    exact setReadDeadline_timely hregular
  | fire =>
    simp only [ReadDeadline.step] at hstep
    split at hstep
    · split_ifs at hstep
      cases hstep
      exact h
    · cases hstep
  | callback =>
    simp only [ReadDeadline.step] at hstep
    split at hstep
    · cases hstep
      exact h.callback
    · cases hstep

/-- **Read deadlines.** In every regular run the context is cancelled only when the deadline of
the last call has been reached, and a callback that runs from then on cancels it. -/
theorem readDeadlines_kept {start : Int} (h : Steps step Regular { now := start } c) :
    c.Timely ∧ ∀ c', c.Regular .callback → c.step .callback = some c' →
      ∀ t, c.readDeadline = some t → t ≤ c.now → c'.readContextDone = true := by
  refine ⟨h.invariant nofun Timely.step, fun c' hregular hstep t ht hreached => ?_⟩
  simp only [step] at hstep
  split at hstep
  · cases hstep
    have hpast : t < c.now := lt_of_le_of_ne hreached fun heq => hregular (ht.trans (by rw [heq]))
    exact (callback_done c).mpr (.inr ⟨t, ht, hpast⟩)
  · cases hstep

/-- A deadline in the future whose timer fires late. -/
theorem readDeadlines_kept_sample : ∃ c c' : ReadDeadline, Steps step Regular { now := 0 } c ∧
    c.Timely ∧ c.step .callback = some c' ∧ c'.readContextDone = true := by
  have hrun := (Steps.start : Steps step Regular { now := 0 } _)
    |>.next (.setReadDeadline (some 10)) (fun _ _ => rfl) rfl
    |>.next (.advance 12) trivial rfl
    |>.next .fire trivial rfl
  obtain ⟨htimely, hcallback⟩ := readDeadlines_kept hrun
  exact ⟨_, _, hrun, htimely, rfl,
    hcallback _ (show some (10 : Int) ≠ some 12 by decide) rfl 10 rfl (by decide)⟩

/-- A deadline that is moved from the past to the future leaves the context cancelled, and a
callback at the time of the deadline does nothing. -/
theorem readDeadlines_missed :
    (∃ c, Steps step (fun _ _ => True) { now := 0 } c ∧ c.readContextDone = true ∧
      c.readDeadline = some 10 ∧ c.now < 10) ∧
    ∃ c c', Steps step (fun _ _ => True) { now := 0 } c ∧ c.step .callback = some c' ∧
      c.readDeadline = some 10 ∧ c.now = 10 ∧ c'.readContextDone = false := by
  refine ⟨⟨_, (Steps.start : Steps step (fun _ _ => True) { now := 0 } _)
    |>.next (.setReadDeadline (some (-1))) trivial rfl
    |>.next (.setReadDeadline (some 10)) trivial rfl, rfl, rfl, by decide⟩, ?_⟩
  exact ⟨_, _, (Steps.start : Steps step (fun _ _ => True) { now := 0 } _)
    |>.next (.setReadDeadline (some 10)) trivial rfl
    |>.next (.advance 10) trivial rfl
    |>.next .fire trivial rfl, rfl, rfl, rfl, rfl⟩

end ReadDeadline

end Rstream.Net
