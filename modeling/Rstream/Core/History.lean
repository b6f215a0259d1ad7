import Mathlib.Data.List.Basic

/-!
# Histories

A history is a list that grows at its end. `EachAfter P l` says that every entry
stands in the relation `P` to everything recorded before it.
-/

namespace Rstream.Core

variable {α : Type} {P Q : List α → α → Prop} {l : List α} {a : α}

/-- Every entry of the history is related to what came before it. -/
def EachAfter (P : List α → α → Prop) (l : List α) : Prop :=
  ∀ before a after, l = before ++ a :: after → P before a

theorem eachAfter_nil : EachAfter P [] := by
  intro before a after h
  simp at h

/-- A decomposition of a history that has grown is one at its last entry or one of what was
there before. -/
theorem snoc_eq_append_cons {before after : List α} {b : α} :
    l ++ [a] = before ++ b :: after ↔
      (l = before ∧ a = b ∧ after = []) ∨ ∃ rest, l = before ++ b :: rest ∧ after = rest ++ [a] := by
  constructor
  · intro heq
    rcases List.eq_nil_or_concat after with rfl | ⟨rest, c, rfl⟩
    · obtain ⟨hl, ha⟩ := List.append_inj' heq rfl
      exact .inl ⟨hl, List.singleton_inj.mp ha, rfl⟩
    · rw [List.concat_eq_append, ← List.cons_append, ← List.append_assoc] at heq
      obtain ⟨hl, ha⟩ := List.append_inj' heq rfl
      exact .inr ⟨rest, hl, by rw [List.concat_eq_append, ha]⟩
  · rintro (⟨rfl, rfl, rfl⟩ | ⟨rest, rfl, rfl⟩)
    · rfl
    · simp

/-- A history grows by an entry that is related to all the earlier ones. -/
theorem eachAfter_snoc : EachAfter P (l ++ [a]) ↔ EachAfter P l ∧ P l a := by
  constructor
  · intro h
    refine ⟨?_, h l a [] rfl⟩
    intro before b after heq
    exact h before b (after ++ [a]) (by simp [heq])
  · rintro ⟨h, ha⟩ before b after heq
    rcases snoc_eq_append_cons.mp heq with ⟨rfl, rfl, _⟩ | ⟨rest, hl, _⟩
    · exact ha
    · exact h before b rest hl

/-- A relation may be weakened at the entries that occur. -/
theorem EachAfter.imp (h : EachAfter P l) (hPQ : ∀ before, ∀ a ∈ l, P before a → Q before a) :
    EachAfter Q l := by
  intro before a after heq
  exact hPQ before a (by simp [heq]) (h before a after heq)

end Rstream.Core
