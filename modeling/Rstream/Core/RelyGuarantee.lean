import Rstream.Core.Program

/-!
# Rely-guarantee reasoning

A contract fixes an invariant of the shared state and, for every thread, what it
relies on about the actions of the others. `Contract.Safe` is the weakest
condition under which a program keeps the contract from the current point on,
whatever the others do in between. The soundness theorem turns one obligation
per thread body into an invariant of every reachable configuration, stops and
restarts included.
-/

namespace Rstream.Core

/-- What the threads of a system promise and rely on. -/
structure Contract (Tid σ : Type) where
  /-- The state changes the runs under consideration are limited to. -/
  allow : σ → σ → Prop
  /-- The invariant every action keeps. -/
  inv : σ → Prop
  /-- What a thread may assume about the actions of all the others. -/
  rely : Tid → σ → σ → Prop
  /-- Doing nothing is always acceptable. -/
  rely_refl : ∀ t s, rely t s s
  /-- Actions of the others accumulate. -/
  rely_trans : ∀ {t s₁ s₂ s₃}, rely t s₁ s₂ → rely t s₂ s₃ → rely t s₁ s₃

namespace Contract

variable {Tid σ α β γ ι : Type} {C : Contract Tid σ} {t : Tid}

/-- An action of `t` keeps the invariant and what every other thread relies on. -/
def Keeps (C : Contract Tid σ) (t : Tid) (s s' : σ) : Prop :=
  C.inv s' ∧ ∀ u, u ≠ t → C.rely u s s'

variable {s : σ}

theorem Keeps.refl (hinv : C.inv s) : C.Keeps t s s :=
  ⟨hinv, fun u _ => C.rely_refl u s⟩

/-- Every action of the program keeps the contract, and its result satisfies `Q`. -/
def Safe (C : Contract Tid σ) (t : Tid) : Program σ α → (α → σ → Prop) → σ → Prop
  | .done a, Q, s => Q a s
  | .act step k, Q, s => ∀ s₁, C.rely t s s₁ → C.inv s₁ → ∀ i b s₂, step s₁ i = some (b, s₂) →
      C.allow s₁ s₂ → C.Keeps t s₁ s₂ ∧ C.Safe t (k b) Q s₂

variable {Q : α → σ → Prop} {a : α}

variable {p : Program σ α} {f : α → Program σ β}

/-- A sequence is safe when its first part is safe into the safety of the second. -/
theorem Safe.bind {Q : β → σ → Prop}
    (h : C.Safe t p (fun a s' => C.Safe t (f a) Q s') s) : C.Safe t (p >>= f) Q s := by
  induction p generalizing s with
  | done a => exact h
  | act step k ih =>
    intro s₁ hrely hinv i b s₂ hstep hallow
    obtain ⟨hkeeps, hrest⟩ := h s₁ hrely hinv i b s₂ hstep hallow
    exact ⟨hkeeps, ih b hrest⟩

theorem Safe.mono {Q' : α → σ → Prop} (h : C.Safe t p Q s) (hQ : ∀ a s', Q a s' → Q' a s') :
    C.Safe t p Q' s := by
  induction p generalizing s with
  | done a => exact hQ a s h
  | act step k ih =>
    intro s₁ hrely hinv i b s₂ hstep hallow
    obtain ⟨hkeeps, hrest⟩ := h s₁ hrely hinv i b s₂ hstep hallow
    exact ⟨hkeeps, ih b hrest⟩

/-- Actions of the other threads do not disturb safety. -/
theorem Safe.stable {s' : σ} (h : C.Safe t p Q s) (hQ : ∀ a, Q a s → Q a s')
    (hrely : C.rely t s s') : C.Safe t p Q s' := by
  cases p with
  | done a => exact hQ a h
  | act step k =>
    intro s₁ hrely₁ hinv i b s₂ hstep hallow
    exact h s₁ (C.rely_trans hrely hrely₁) hinv i b s₂ hstep hallow

/-- An assertion the other threads do not disturb. -/
def Stable (C : Contract Tid σ) (t : Tid) (P : σ → Prop) : Prop :=
  ∀ ⦃s s'⦄, C.rely t s s' → C.inv s' → P s → P s'

theorem stable_const {p : Prop} : C.Stable t fun _ => p := fun _ _ _ _ h => h

variable {P : σ → Prop}

theorem Stable.and {Q : σ → Prop} (hP : C.Stable t P) (hQ : C.Stable t Q) :
    C.Stable t fun s => P s ∧ Q s :=
  fun _ _ hrely hinv h => ⟨hP hrely hinv h.1, hQ hrely hinv h.2⟩

/-- A stable assertion may depend on a fixed condition. -/
theorem Stable.imp {p : Prop} (hP : C.Stable t P) : C.Stable t fun s => p → P s :=
  fun _ _ hrely hinv h hp => hP hrely hinv (h hp)

/-- The program is safe from every state that satisfies the precondition. -/
def Triple (C : Contract Tid σ) (t : Tid) (P : σ → Prop) (p : Program σ α) (Q : α → σ → Prop) :
    Prop :=
  ∀ s, P s → C.Safe t p Q s

namespace Triple

variable {P P' : σ → Prop} {p : Program σ α} {Q Q' : α → σ → Prop}

/-- Returning a value establishes what already holds of it. -/
theorem pure (h : ∀ s, P s → Q a s) : C.Triple t P (Pure.pure a) Q := h

/-- Sequencing through an intermediate assertion. -/
theorem bind {R : β → σ → Prop} (hp : C.Triple t P p Q)
    (hf : ∀ a, C.Triple t (Q a) (f a) R) : C.Triple t P (p >>= f) R :=
  fun s hs => ((hp s hs).mono fun a s' hQ => hf a s' hQ).bind

theorem strengthen (h : C.Triple t P p Q) (hP : ∀ s, P' s → P s) : C.Triple t P' p Q :=
  fun s hs => h s (hP s hs)

theorem weaken (h : C.Triple t P p Q) (hQ : ∀ a s, Q a s → Q' a s) : C.Triple t P p Q' :=
  fun s hs => (h s hs).mono hQ

/-- An action whose outcome the environment chooses. -/
theorem choose {step : σ → ι → Option (α × σ)} (hstable : C.Stable t P)
    (h : ∀ s i a s', C.inv s → P s → step s i = some (a, s') → C.allow s s' →
      C.Keeps t s s' ∧ Q a s') : C.Triple t P (Program.choose step) Q := by
  intro s hs s₁ hrely hinv i a s₂ hstep hallow
  exact h s₁ i a s₂ hinv (hstable hrely hinv hs) hstep hallow

/-- A locked section. -/
theorem atomic {f : σ → α × σ} (hstable : C.Stable t P)
    (h : ∀ s, C.inv s → P s → C.allow s (f s).2 → C.Keeps t s (f s).2 ∧ Q (f s).1 (f s).2) :
    C.Triple t P (Program.atomic f) Q := by
  intro s hs s₁ hrely hinv i a s₂ hstep hallow
  simp only [Option.some.injEq] at hstep
  obtain rfl : (f s₁).1 = a := congrArg Prod.fst hstep
  obtain rfl : (f s₁).2 = s₂ := congrArg Prod.snd hstep
  exact h s₁ hinv (hstable hrely hinv hs) hallow

/-- A look at the state. -/
theorem inspect {f : σ → α} (hstable : C.Stable t P) (h : ∀ s, C.inv s → P s → Q (f s) s) :
    C.Triple t P (Program.inspect f) Q :=
  atomic hstable fun s hinv hs _ => ⟨Keeps.refl hinv, h s hinv hs⟩

/-- A value from the environment. -/
theorem receive {R : ι → σ → Prop} (hstable : C.Stable t P)
    (h : ∀ s i, C.inv s → P s → R i s) : C.Triple t P (Program.receive ι) R := by
  intro s hs s₁ hrely hinv i a s₂ hstep _
  cases hstep
  exact ⟨Keeps.refl hinv, h s₁ i hinv (hstable hrely hinv hs)⟩

end Triple

/-- The contract on a state that only speaks of one aspect of it. -/
def comap {γ : Type} (v : σ → γ) (C : Contract Tid γ) : Contract Tid σ where
  allow s s' := C.allow (v s) (v s')
  inv s := C.inv (v s)
  rely t s s' := C.rely t (v s) (v s')
  rely_refl t s := C.rely_refl t (v s)
  rely_trans := C.rely_trans

variable {R : σ → σ → Prop}

/-- A program whose actions all keep the contract and an assertion. -/
theorem Triple.of_respects (hp : p.Respects R) (hP : C.Stable t P)
    (hR : ∀ s s', C.inv s → P s → R s s' → C.Keeps t s s' ∧ P s') : C.Triple t P p fun _ => P := by
  induction p with
  | done a => exact fun s hs => hs
  | act step k ih =>
    intro s hs s₁ hrely hinv i b s₂ hstep _
    obtain ⟨hkeeps, hs₂⟩ := hR s₁ s₂ hinv (hP hrely hinv hs) (hp.1 s₁ i b s₂ hstep)
    exact ⟨hkeeps, ih b (hp.2 b) s₂ hs₂⟩

/-- The frame rule: an assertion that every action of the program keeps comes along. -/
theorem Triple.frame {F : σ → Prop} (h : C.Triple t P p Q) (hp : p.Respects R)
    (hF : C.Stable t F) (hR : ∀ s s', R s s' → F s → F s') :
    C.Triple t (fun s => P s ∧ F s) p fun a s => Q a s ∧ F s := by
  have hsafe : ∀ s, C.Safe t p Q s → F s → C.Safe t p (fun a s => Q a s ∧ F s) s := by
    clear h
    induction p with
    | done a => exact fun s hs hFs => ⟨hs, hFs⟩
    | act step k ih =>
      intro s hs hFs s₁ hrely hinv i b s₂ hstep hallow
      obtain ⟨hkeeps, hrest⟩ := hs s₁ hrely hinv i b s₂ hstep hallow
      have hF₂ : F s₂ := hR s₁ s₂ (hp.1 s₁ i b s₂ hstep) (hF hrely hinv hFs)
      exact ⟨hkeeps, ih b (hp.2 b) s₂ hrest hF₂⟩
  exact fun s hs => hsafe s (h s hs.1) hs.2

section Comap

variable {γ : Type} {v : σ → γ} {D : Contract Tid γ} {P : σ → Prop} {s s' : σ}

theorem Keeps.of_eq (h : v s' = v s) (hinv : (D.comap v).inv s) : (D.comap v).Keeps t s s' := by
  refine ⟨?_, fun u _ => ?_⟩
  · change D.inv (v s')
    rwa [h]
  · change D.rely u (v s) (v s')
    rw [h]
    exact D.rely_refl u (v s)

/-- A stable assertion is not disturbed by an action that leaves the aspect alone. -/
theorem Stable.of_eq (hP : (D.comap v).Stable t P) (h : v s' = v s)
    (hinv : (D.comap v).inv s) (hs : P s) : P s' := by
  have hkeeps := Keeps.of_eq (t := t) h hinv
  refine hP ?_ hkeeps.1 hs
  change D.rely t (v s) (v s')
  rw [h]
  exact D.rely_refl t (v s)

theorem Triple.of_eq {p : Program σ α} (hp : p.Respects fun s s' => v s' = v s)
    (hP : (D.comap v).Stable t P) : (D.comap v).Triple t P p fun _ => P :=
  .of_respects hp hP fun _ _ hinv hs h => ⟨.of_eq h hinv, hP.of_eq h hinv hs⟩

end Comap

/-- The obligations of a system: one per thread body, one for stopping threads. -/
structure Sound (C : Contract Tid σ) (sys : System Tid σ) (loop : Tid → σ → Prop) (s₀ : σ) :
    Prop where
  /-- The invariant holds at the start. -/
  inv_start : C.inv s₀
  /-- Every body may be entered at the start. -/
  loop_start : ∀ t, loop t s₀
  /-- The other threads do not disturb the entry condition of a body. -/
  loop_stable : ∀ t, C.Stable t (loop t)
  /-- A round of a body is safe and allows the next one. -/
  body : ∀ t, C.Triple t (loop t) (sys.body t) fun again s' => again = true → loop t s'
  /-- Stopping threads keeps the invariant, and they may be restarted. -/
  abort : ∀ {who s s'}, C.inv s → sys.abort who s = some s' →
    C.inv s' ∧ (∀ t, who t = false → C.rely t s s') ∧ ∀ t, who t = true → loop t s'

variable [DecidableEq Tid] {sys : System Tid σ} {loop : Tid → σ → Prop} {s₀ : σ} {c : Config Tid σ}

/-- Every reachable configuration satisfies the invariant and is safe to continue. -/
theorem Sound.reach (h : C.Sound sys loop s₀) (hreach : sys.Reach C.allow s₀ c) :
    C.inv c.state ∧
      ∀ t, C.Safe t (c.pool t) (fun again s' => again = true → loop t s') c.state := by
  induction hreach with
  | start => exact ⟨h.inv_start, fun t => h.body t s₀ (h.loop_start t)⟩
  | step _ hstep hallow ih =>
    obtain ⟨hinv, hsafe⟩ := ih
    cases hstep with
    | @act _ _ step k i b s' t hpool hact =>
      have ht := hsafe t
      rw [hpool] at ht
      obtain ⟨⟨hinv', hothers⟩, hrest⟩ := ht _ (C.rely_refl t _) hinv i b s' hact hallow
      refine ⟨hinv', fun u => ?_⟩
      by_cases hu : u = t
      · subst hu
        simpa using hrest
      · simp only [Function.update_of_ne hu]
        exact (hsafe u).stable (fun a hQ ha => h.loop_stable u (hothers u hu) hinv' (hQ ha))
          (hothers u hu)
    | again t hpool =>
      refine ⟨hinv, fun u => ?_⟩
      by_cases hu : u = t
      · subst hu
        have hentry := hsafe u
        rw [hpool] at hentry
        simpa using h.body u _ (hentry rfl)
      · simpa only [Function.update_of_ne hu] using hsafe u
    | abort who habort =>
      obtain ⟨hinv', hothers, hrestart⟩ := h.abort hinv habort
      refine ⟨hinv', fun u => ?_⟩
      cases hwho : who u with
      | false =>
        simp only [hwho, Bool.false_eq_true, if_false]
        exact (hsafe u).stable
          (fun a hQ ha => h.loop_stable u (hothers u hwho) hinv' (hQ ha)) (hothers u hwho)
      | true =>
        simp only [hwho, if_true]
        exact h.body u _ (hrestart u hwho)

variable {c' : Config Tid σ}

/-- A step of a reachable configuration is one that some bystander relies on, if there is
always one. -/
theorem Sound.step (h : C.Sound sys loop s₀) {G : σ → σ → Prop}
    (hrely : ∀ t, ∃ u, u ≠ t ∧ ∀ s s', C.rely u s s' → G s s')
    (habort : ∀ who s s', sys.abort who s = some s' → G s s') (hrefl : ∀ s, G s s)
    (hreach : sys.Reach C.allow s₀ c) (hstep : sys.Step c c')
    (hallow : C.allow c.state c'.state) : G c.state c'.state := by
  obtain ⟨hinv, hsafe⟩ := h.reach hreach
  cases hstep with
  | @act _ _ step k i b s' t hpool hact =>
    have ht := hsafe t
    rw [hpool] at ht
    obtain ⟨⟨_, hothers⟩, _⟩ := ht _ (C.rely_refl t _) hinv i b s' hact hallow
    obtain ⟨u, hu, hG⟩ := hrely t
    exact hG _ _ (hothers u hu)
  | again t hpool => exact hrefl _
  | abort who hstop => exact habort who _ _ hstop

/-- An assertion that some bystander of every step relies on outlasts the rest of a run. -/
theorem Sound.runs (h : C.Sound sys loop s₀) {Q : σ → Prop}
    (hrely : ∀ t, ∃ u, u ≠ t ∧ ∀ s s', C.rely u s s' → Q s → Q s')
    (habort : ∀ who s s', sys.abort who s = some s' → Q s → Q s')
    (hreach : sys.Reach C.allow s₀ c) (hrun : sys.Runs C.allow c c') (hc : Q c.state) :
    sys.Reach C.allow s₀ c' ∧ Q c'.state := by
  induction hrun with
  | refl => exact ⟨hreach, hc⟩
  | tail _ hstep ih =>
    have hnext := h.step hrely habort (fun _ => id) ih.1 hstep.1 hstep.2
    exact ⟨ih.1.step hstep.1 hstep.2, hnext ih.2⟩

theorem Sound.inv_of_reach (h : C.Sound sys loop s₀)
    (hreach : sys.Reach C.allow s₀ c) : C.inv c.state :=
  (h.reach hreach).1

end Contract

end Rstream.Core
