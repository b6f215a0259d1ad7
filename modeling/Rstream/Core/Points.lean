import Rstream.Core.Program

/-!
# Named points of programs

The rest of a program that a thread still has to run is a tree. Where every such rest has a
name, a system is a flat machine: a state, and the point at which each thread stands. What
holds of the machine holds of the programs.
-/

namespace Rstream.Core

theorem Program.bind_assoc {σ α β γ : Type} (p : Program σ α) (f : α → Program σ β)
    (g : β → Program σ γ) : (p >>= f) >>= g = p >>= fun a => f a >>= g := by
  induction p with
  | done a => rfl
  | act step k ih => exact congrArg (Program.act step) (funext ih)

variable {Tid σ Point : Type} [DecidableEq Tid]

/-- The points of the programs of a system, and what a thread at a point can do next. -/
structure Points (sys : System Tid σ) (Point : Type) where
  code : Tid → Point → Program σ Bool
  entry : Tid → Point
  move : Tid → Point → σ → Point → σ → Prop
  body : ∀ t, sys.body t = code t (entry t)
  act : ∀ {t p s ι β s'} {step : σ → ι → Option (β × σ)} {k : β → Program σ Bool} {i b},
    code t p = .act step k → step s i = some (b, s') → ∃ p', k b = code t p' ∧ move t p s p' s'
  again : ∀ {t p s}, code t p = .done true → move t p s (entry t) s
  abort : ∀ who s, sys.abort who s = none

namespace Points

variable {sys : System Tid σ} (P : Points sys Point)

/-- Runs of the flat machine by moves that keep to `allow`. -/
inductive Run (allow : Tid → (Tid → Point) → σ → Point → σ → Prop) (at₀ : Tid → Point) (s₀ : σ) :
    (Tid → Point) → σ → Prop
  | start : Run allow at₀ s₀ at₀ s₀
  | next {at₁ : Tid → Point} {s s' : σ} {p : Point} (h : Run allow at₀ s₀ at₁ s) (t : Tid)
      (hmove : P.move t (at₁ t) s p s') (hallow : allow t at₁ s p s') :
      Run allow at₀ s₀ (Function.update at₁ t p) s'

/-- The configuration stands at these points. -/
def Describes (at₁ : Tid → Point) (c : Config Tid σ) : Prop := ∀ t, c.pool t = P.code t (at₁ t)

variable {P} {allow : σ → σ → Prop} {at₀ at₁ : Tid → Point} {s₀ : σ} {c c' : Config Tid σ}

theorem Describes.step (h : P.Describes at₁ c) (hstep : sys.Step c c') :
    ∃ t p, P.Describes (Function.update at₁ t p) c' ∧ P.move t (at₁ t) c.state p c'.state := by
  have hset : ∀ {t p prog}, prog = P.code t p → ∀ u,
      Function.update c.pool t prog u = P.code u (Function.update at₁ t p u) := by
    intro t p prog hprog u
    by_cases hu : u = t
    · subst hu
      simpa using hprog
    · simpa [hu] using h u
  cases hstep with
  | act t hpool hact =>
    obtain ⟨p, hp, hmove⟩ := P.act ((h t).symm.trans hpool) hact
    exact ⟨t, p, hset hp, hmove⟩
  | again t hpool => exact ⟨t, P.entry t, hset (P.body t), P.again ((h t).symm.trans hpool)⟩
  | abort who habort => cases (P.abort who c.state).symm.trans habort

/-- A run of the programs is a run of the flat machine. -/
theorem Describes.runs (h : P.Describes at₁ c) (hruns : sys.Runs allow c c') :
    ∃ at₂, P.Describes at₂ c' ∧ P.Run (fun _ _ s _ s' => allow s s') at₁ c.state at₂ c'.state := by
  induction hruns with
  | refl => exact ⟨at₁, h, .start⟩
  | tail _ hstep ih =>
    obtain ⟨at₂, hat₂, hrun⟩ := ih
    obtain ⟨t, p, hp, hmove⟩ := hat₂.step hstep.1
    exact ⟨_, hp, hrun.next t hmove hstep.2⟩

theorem describes_of_reach (hreach : sys.Reach allow s₀ c) :
    ∃ at₂, P.Describes at₂ c ∧
      P.Run (fun _ _ s _ s' => allow s s') P.entry s₀ at₂ c.state := by
  induction hreach with
  | start => exact ⟨P.entry, P.body, .start⟩
  | step _ hstep hallow ih =>
    obtain ⟨at₂, hat₂, hrun⟩ := ih
    obtain ⟨t, p, hp, hmove⟩ := hat₂.step hstep
    exact ⟨_, hp, hrun.next t hmove hallow⟩

/-- What every move keeps holds throughout a run. -/
@[elab_as_elim]
theorem Run.invariant {may : Tid → (Tid → Point) → σ → Point → σ → Prop}
    {inv : (Tid → Point) → σ → Prop} {s : σ} (h : P.Run may at₀ s₀ at₁ s) (hstart : inv at₀ s₀)
    (hkeep : ∀ {at₁ s t p s'}, inv at₁ s → P.move t (at₁ t) s p s' → may t at₁ s p s' →
      inv (Function.update at₁ t p) s') : inv at₁ s := by
  induction h with
  | start => exact hstart
  | next _ t hmove hallow ih => exact hkeep ih hmove hallow

end Points

end Rstream.Core
