import Mathlib.Logic.Function.Basic
import Mathlib.Logic.Relation

/-!
# Programs over atomic actions

A program is a finite tree of atomic actions on a shared state. An action asks
the environment for one choice (the outcome of an external call, a received
message, nothing at all) and either answers with a result and a new state or is
not possible with that choice. A loop is not part of the tree: a thread whose
program returns `true` starts its body again.
-/

namespace Rstream.Core

open Function

/-- A finite program whose atomic actions read and change a shared state. -/
inductive Program (σ : Type) (α : Type) : Type 1
  /-- The program has returned. -/
  | done (a : α) : Program σ α
  /-- One atomic action, given by its answer to every choice of the environment. -/
  | act {ι β : Type} (step : σ → ι → Option (β × σ)) (k : β → Program σ α) : Program σ α

namespace Program

variable {σ α β γ ι : Type}

/-- Run a second program on the result of the first. -/
def bind : Program σ α → (α → Program σ β) → Program σ β
  | .done a, f => f a
  | .act step k, f => .act step fun b => (k b).bind f

instance : Monad (Program σ) where
  pure := .done
  bind := bind

@[simp] theorem pure_eq (a : α) : (pure a : Program σ α) = .done a := rfl

@[simp] theorem done_bind (a : α) (f : α → Program σ β) : (Program.done a >>= f) = f a := rfl

@[simp] theorem act_bind (step : σ → ι → Option (γ × σ)) (k : γ → Program σ α)
    (f : α → Program σ β) : (Program.act step k >>= f) = .act step fun b => k b >>= f := rfl

/-- An action whose outcome the environment chooses. -/
def choose (step : σ → ι → Option (β × σ)) : Program σ β := .act step .done

/-- A deterministic action, such as a section executed under a lock. -/
def atomic (f : σ → β × σ) : Program σ β := .act (fun s (_ : Unit) => some (f s)) .done

/-- An action that only inspects the state. -/
def inspect (f : σ → β) : Program σ β := atomic fun s => (f s, s)

/-- A value supplied by the environment, such as the outcome of a foreign call. -/
def receive (ι : Type) : Program σ ι := .act (fun s (i : ι) => some (i, s)) .done

/-- Every action of the program changes the state along a relation. -/
def Respects (R : σ → σ → Prop) : Program σ α → Prop
  | .done _ => True
  | .act step k => (∀ s i b s', step s i = some (b, s') → R s s') ∧ ∀ b, (k b).Respects R

variable {step : σ → ι → Option (β × σ)} {f : α → Program σ β} {p : Program σ α}

namespace Respects

variable {R : σ → σ → Prop}

theorem pure (a : α) : (Pure.pure a : Program σ α).Respects R := trivial

theorem bind (hp : p.Respects R) (hf : ∀ a, (f a).Respects R) : (p >>= f).Respects R := by
  induction p with
  | done a => exact hf a
  | act step k ih => exact ⟨hp.1, fun b => ih b (hp.2 b)⟩

theorem choose (h : ∀ s i b s', step s i = some (b, s') → R s s') : (choose step).Respects R :=
  ⟨h, fun _ => trivial⟩

theorem atomic {f : σ → β × σ} (h : ∀ s, R s (f s).2) : (atomic f).Respects R := by
  refine ⟨?_, fun _ => trivial⟩
  intro s i b s' hstep
  simp only [Option.some.injEq] at hstep
  rw [show s' = (f s).2 from (congrArg Prod.snd hstep).symm]
  exact h s

theorem inspect (hR : ∀ s, R s s) (f : σ → β) : (inspect f).Respects R := atomic hR

theorem receive (hR : ∀ s, R s s) (ι : Type) : (receive ι : Program σ ι).Respects R := by
  refine ⟨?_, fun _ => trivial⟩
  intro s i b s' hstep
  cases hstep
  exact hR s

end Respects

/-- Alone and with suitable choices, the program goes from one state to another and returns
a result, by steps that keep to `allow`. -/
inductive Solo (allow : σ → σ → Prop) : Program σ α → σ → α → σ → Prop
  | done (a : α) (s : σ) : Solo allow (.done a) s a s
  | act {ι β : Type} {step : σ → ι → Option (β × σ)} {k : β → Program σ α} {s s₁ s' : σ} {b : β}
      {a : α} (i : ι) (hstep : step s i = some (b, s₁)) (hallow : allow s s₁)
      (hrest : Solo allow (k b) s₁ a s') : Solo allow (.act step k) s a s'

variable {b : β}

namespace Solo

variable {allow : σ → σ → Prop} {s s' s'' : σ}

theorem bind {a : α} (hp : Solo allow p s a s') (hf : Solo allow (f a) s' b s'') :
    Solo allow (p >>= f) s b s'' := by
  induction hp with
  | done a s => exact hf
  | act i hstep hallow _ ih => exact .act i hstep hallow (ih hf)

theorem atomic {f : σ → β × σ} (hf : f s = (b, s')) (hallow : allow s s') :
    Solo allow (atomic f) s b s' :=
  .act () (congrArg some hf) hallow (.done b s')

theorem receive (i : ι) (hallow : allow s s) : Solo allow (receive ι) s i s :=
  .act i rfl hallow (.done i s)

end Solo

end Program

/-- Threads that each repeat a body over one shared state. -/
structure System (Tid σ : Type) where
  /-- The program a thread runs; it starts again whenever it returns `true`. -/
  body : Tid → Program σ Bool
  /-- The state left when the selected threads are stopped wherever they stand. -/
  abort : (Tid → Bool) → σ → Option σ

/-- The shared state together with what every thread has left to do. -/
structure Config (Tid σ : Type) : Type 1 where
  /-- The shared state. -/
  state : σ
  /-- The rest of the current round of each thread. -/
  pool : Tid → Program σ Bool

namespace System

variable {Tid σ : Type} [DecidableEq Tid]

/-- All threads stand at the start of their body. -/
def start (sys : System Tid σ) (s : σ) : Config Tid σ := ⟨s, sys.body⟩

/-- One step of one thread, or the stop and restart of some threads. -/
inductive Step (sys : System Tid σ) : Config Tid σ → Config Tid σ → Prop
  /-- A thread performs its next atomic action. -/
  | act {c : Config Tid σ} {ι β : Type} {step : σ → ι → Option (β × σ)}
      {k : β → Program σ Bool} {i : ι} {b : β} {s' : σ} (t : Tid)
      (hpool : c.pool t = .act step k) (hstep : step c.state i = some (b, s')) :
      Step sys c ⟨s', update c.pool t (k b)⟩
  /-- A thread whose body returned `true` starts it again. -/
  | again {c : Config Tid σ} (t : Tid) (hpool : c.pool t = .done true) :
      Step sys c ⟨c.state, update c.pool t (sys.body t)⟩
  /-- Some threads are stopped and stand at the start of their body again. -/
  | abort {c : Config Tid σ} {s' : σ} (who : Tid → Bool)
      (habort : sys.abort who c.state = some s') :
      Step sys c ⟨s', fun t => if who t then sys.body t else c.pool t⟩

/-- Configurations reached from a state by steps that keep to `allow`. -/
inductive Reach (sys : System Tid σ) (allow : σ → σ → Prop) (s : σ) : Config Tid σ → Prop
  | start : Reach sys allow s (sys.start s)
  | step {c c' : Config Tid σ} (hreach : Reach sys allow s c) (hstep : sys.Step c c')
      (hallow : allow c.state c'.state) : Reach sys allow s c'

/-- Runs that go on from a configuration by steps that keep to `allow`. -/
def Runs (sys : System Tid σ) (allow : σ → σ → Prop) : Config Tid σ → Config Tid σ → Prop :=
  Relation.ReflTransGen fun c c' => sys.Step c c' ∧ allow c.state c'.state

variable {s' : σ}

namespace Reach

variable {sys : System Tid σ} {allow : σ → σ → Prop} {s : σ} {c : Config Tid σ}

/-- A run goes on with the next action of a thread. -/
theorem act (h : sys.Reach allow s c) (t : Tid) {ι β : Type} {step : σ → ι → Option (β × σ)}
    {k : β → Program σ Bool} (i : ι) {b : β} (hpool : c.pool t = .act step k)
    (hstep : step c.state i = some (b, s')) (hallow : allow c.state s') :
    sys.Reach allow s ⟨s', update c.pool t (k b)⟩ :=
  .step h (.act t hpool hstep) hallow

/-- A run goes on with the next round of a thread. -/
theorem again (h : sys.Reach allow s c) (t : Tid) (hpool : c.pool t = .done true)
    (hallow : allow c.state c.state) : sys.Reach allow s ⟨c.state, update c.pool t (sys.body t)⟩ :=
  .step h (.again t hpool) hallow

/-- A run goes on with a thread that is left alone until it returns. -/
theorem solo {p : Program σ Bool} {again : Bool} (h : sys.Reach allow s c) (t : Tid)
    (hpool : c.pool t = p) (hp : p.Solo allow c.state again s') :
    sys.Reach allow s ⟨s', update c.pool t (.done again)⟩ := by
  rcases c with ⟨state, pool⟩
  change p.Solo allow state again s' at hp
  induction hp generalizing pool with
  | done a s₁ =>
    rw [← hpool, update_eq_self]
    exact h
  | act i hstep hallow _ ih =>
    have hnext := ih _ (h.act t i hpool hstep hallow) (update_self ..)
    rwa [update_idem] at hnext

/-- A run goes on with a whole round of a thread while no other thread moves. -/
theorem round {s₁ : σ} (h : sys.Reach allow s ⟨s₁, sys.body⟩) (t : Tid)
    (hp : (sys.body t).Solo allow s₁ true s') (hallow : allow s' s') :
    sys.Reach allow s ⟨s', sys.body⟩ := by
  have hnext := (h.solo t rfl hp).again t (update_self ..) hallow
  rwa [update_idem, update_eq_self] at hnext

end Reach

end System

end Rstream.Core
