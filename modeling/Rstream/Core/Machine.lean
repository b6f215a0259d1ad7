import Mathlib.Logic.Function.Basic

/-!
# Runs of an event machine

A machine is a function that says for every state and event what the event leads to, if it
can happen. A run takes event after event, each of which keeps to a condition.
-/

namespace Rstream.Core

variable {σ ε : Type}

/-- The states a machine reaches from `s` by events that keep to `allow`. -/
inductive Steps (step : σ → ε → Option σ) (allow : σ → ε → Prop) (s : σ) : σ → Prop
  | start : Steps step allow s s
  | next {s₁ s₂ : σ} (h : Steps step allow s s₁) (e : ε) (hallow : allow s₁ e)
      (hstep : step s₁ e = some s₂) : Steps step allow s s₂

/-- What holds at first and is kept by every event holds throughout a run. -/
@[elab_as_elim]
theorem Steps.invariant {step : σ → ε → Option σ} {allow : σ → ε → Prop} {s s' : σ}
    {inv : σ → Prop} (h : Steps step allow s s') (hstart : inv s)
    (hkeep : ∀ {s₁ s₂ e}, inv s₁ → allow s₁ e → step s₁ e = some s₂ → inv s₂) : inv s' := by
  induction h with
  | start => exact hstart
  | next _ e hallow hstep ih => exact hkeep ih hallow hstep

end Rstream.Core
