import Mathlib.Data.Option.Basic

/-!
# Error values

A Go error is a tree: a leaf is an error value of its own, a wrapped error adds
text around the one it unwraps to, and a joined error unwraps to several. The
functions of the `errors` package walk the tree depth first, left to right.
-/

namespace Rstream.Go

/-- An error tree over the leaf errors `κ`. -/
inductive Err (κ : Type)
  /-- An error that unwraps to nothing. -/
  | leaf (k : κ)
  /-- The result of `fmt.Errorf` with one wrapping verb, split at that verb. -/
  | wrap (before : String) (inner : Err κ) (after : String)
  /-- The result of `errors.Join` on two errors. -/
  | join (left right : Err κ)
  deriving DecidableEq, Repr

namespace Err

variable {κ α : Type}

/-- `errors.Is`: some leaf of the tree matches the target. -/
def is (target : κ → Bool) : Err κ → Bool
  | .leaf k => target k
  | .wrap _ inner _ => inner.is target
  | .join left right => left.is target || right.is target

/-- `errors.As`: the first leaf of the requested kind, depth first. -/
def as (target : κ → Option α) : Err κ → Option α
  | .leaf k => target k
  | .wrap _ inner _ => inner.as target
  | .join left right => (left.as target).or (right.as target)

/-- `err.Error()`. -/
def text (leafText : κ → String) : Err κ → String
  | .leaf k => leafText k
  | .wrap before inner after => before ++ inner.text leafText ++ after
  | .join left right => left.text leafText ++ "\n" ++ right.text leafText

end Err

/-- A function of a result succeeds when the result is there. -/
theorem map_eq_ok {ε α β : Type} {x : Except ε α} {f : α → β} {b : β} :
    x.map f = .ok b ↔ ∃ a, x = .ok a ∧ f a = b := by
  cases x <;> simp [Except.map]

/-- A sequence of fallible steps succeeds when every step does. -/
theorem bind_eq_ok {ε α β : Type} {x : Except ε α} {f : α → Except ε β} {b : β} :
    (x >>= f) = .ok b ↔ ∃ a, x = .ok a ∧ f a = .ok b := by
  rcases x with err | a
  · constructor
    · intro h
      cases h
    · rintro ⟨a, h, _⟩
      cases h
  · constructor
    · exact fun h => ⟨a, rfl, h⟩
    · rintro ⟨_, h, hf⟩
      cases h
      exact hf

theorem bind_ok {ε α β : Type} {x : Except ε α} {f : α → Except ε β} {a : α} {b : β}
    (hx : x = .ok a) (hf : f a = .ok b) : (x >>= f) = .ok b :=
  bind_eq_ok.mpr ⟨a, hx, hf⟩

/-- Return an error when a condition holds. -/
def failIf {ε : Type} (p : Prop) [Decidable p] (err : ε) : Except ε Unit :=
  if p then .error err else .ok ()

/-- The check is passed when its condition is false. -/
theorem failIf_eq_ok {ε : Type} {p : Prop} [Decidable p] {err : ε} {u : Unit} :
    failIf p err = .ok u ↔ ¬ p := by
  unfold failIf
  split <;> simp [*]

theorem failIf_ok {ε : Type} {p : Prop} [Decidable p] {err : ε} (h : ¬ p) : failIf p err = .ok () :=
  failIf_eq_ok.mpr h

theorem failIf_ne_ok {ε α : Type} {a b : α} [Decidable (a ≠ b)] {err : ε} (h : a = b) :
    failIf (a ≠ b) err = .ok () :=
  failIf_ok (not_not.mpr h)

end Rstream.Go
