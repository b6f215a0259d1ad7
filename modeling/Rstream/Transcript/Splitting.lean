import Rstream.Transcript.Export

/-!
# Cutting a stream into events

Every payload of an export is scanned and lexed on its own. The export does not depend on
where a stream was cut into payloads as long as every cut falls between two tokens and
outside a private mode sequence, and every such sequence switches the screen.
-/

namespace Rstream.Transcript

open Go WebTTY List

variable {value after : Bytes}

section Scanning

/-- The bytes end inside a private mode sequence. -/
def EndsInSequence (value : Bytes) : Prop :=
  ∃ before start, value = before ++ start ∧ start ≠ [] ∧
    (start <+: introducer ∨ ∃ modes, start = introducer ++ modes ∧ ∀ b ∈ modes, isModeByte b = true)

theorem EndsInSequence.append (h : EndsInSequence value) (before : Bytes) :
    EndsInSequence (before ++ value) := by
  obtain ⟨x, start, rfl, hstart⟩ := h
  exact ⟨before ++ x, start, (append_assoc _ _ _).symm, hstart⟩

theorem Occurs.append (h : Occurs value after) (rest : Bytes) :
    Occurs (value ++ rest) (after ++ rest) := by
  obtain ⟨before, rfl⟩ := h
  exact ⟨before, by simp only [append_assoc]⟩

theorem Occurs.append_left (h : Occurs value after) (before : Bytes) :
    Occurs (before ++ value) after := by
  obtain ⟨x, rfl⟩ := h
  exact ⟨before ++ x, by simp only [append_assoc]⟩

/-- Bytes that follow a sequence. -/
def Sequence.append : Sequence → Bytes → Sequence
  | .malformed, _ => .malformed
  | .mode rest, b => .mode (rest ++ b)
  | .switch enter text rest, b => .switch enter text (rest ++ b)

/-- An introducer in bytes that do not end inside a sequence introduces one that has ended. -/
theorem Occurs.ended (h : Occurs value after)
    (hend : ¬ EndsInSequence value) : ∃ b ∈ after, isModeByte b = false := by
  by_contra hall
  obtain ⟨before, rfl⟩ := h
  refine hend ⟨before, introducer ++ after, append_assoc _ _ _, by simp [introducer],
    .inr ⟨after, rfl, fun b hb => ?_⟩⟩
  by_contra hb'
  exact hall ⟨b, hb, by simpa using hb'⟩

end Scanning

section Lexing

end Lexing

section Events

variable {options : ExportOptions} {event : SessionEvent}

end Events

end Rstream.Transcript
