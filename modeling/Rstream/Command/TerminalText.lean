import Rstream.Command.TableSafety

/-!
# Text for the terminal

What `terminalSafe` makes of a string of any bytes. Escape sequences are removed from the
bytes, control characters from the runes the remaining bytes form. What is left is a sequence
of words between single spaces, in which there is nothing more to remove.
-/

namespace Rstream.Command

open Go WebTTY Transcript List

section Words

/-- No white space at the start, none at the end and never two in a row. -/
structure Tidy (text : List Char) : Prop where
  head : ∀ c ∈ text.head?, isSpace c = false
  last : ∀ c ∈ text.getLast?, isSpace c = false
  single : text.IsChain fun a b => ¬ (isSpace a = true ∧ isSpace b = true)

/-- A word: not empty and without white space. -/
def Word (word : List Char) : Prop := word ≠ [] ∧ ∀ c ∈ word, isSpace c = false

variable {words : List (List Char)} {text : List Char}

theorem word_of_mem_fieldsOf {word : List Char} (h : word ∈ fieldsOf text) : Word word := by
  obtain ⟨hpart, hne⟩ := mem_filter.mp h
  exact ⟨by simpa using hne, fun c hc => (mem_of_mem_splitOnP hpart hc).2⟩

/-- The fields of words between spaces are the words. -/
theorem fieldsOf_intercalate (h : ∀ word ∈ words, Word word) :
    fieldsOf (intercalate [' '] words) = words := by
  induction words with
  | nil => rfl
  | cons word words ih =>
    rw [forall_mem_cons] at h
    obtain ⟨⟨hne, hspace⟩, hwords⟩ := h
    cases words with
    | nil =>
      rw [intercalate_singleton, fieldsOf, splitOnP_eq_singleton hspace]
      simp [hne]
    | cons next words =>
      have hrest := ih hwords
      rw [fieldsOf] at hrest ⊢
      rw [intercalate_cons_cons, append_assoc, singleton_append,
        splitOnP_append_cons_of_forall_mem hspace _ (by decide), filter_cons_of_pos (by simpa using hne),
        hrest]

theorem Word.tidy {word : List Char} (h : Word word) : Tidy word where
  head c hc := h.2 c (mem_of_head? hc)
  last c hc := h.2 c (mem_of_getLast? hc)
  single := by
    refine (pairwise_of_forall_mem_list fun a ha b _ hab => ?_).isChain
    rw [h.2 a ha] at hab
    exact absurd hab.1 nofun

/-- A word and a space before a tidy text. -/
theorem Word.tidy_append {word : List Char} (h : Word word) (hne : text ≠ []) (htext : Tidy text) :
    Tidy (word ++ ' ' :: text) where
  head c hc := by
    rw [head?_append_of_ne_nil _ h.1] at hc
    exact h.tidy.head c hc
  last c hc := by
    rw [getLast?_append_of_ne_nil _ (cons_ne_nil _ _), getLast?_cons_of_ne_nil hne] at hc
    exact htext.last c hc
  single := by
    refine isChain_append.mpr ⟨h.tidy.single, ?_, fun a ha _ _ hspaces => ?_⟩
    · refine isChain_cons.mpr ⟨fun c hc hspaces => ?_, htext.single⟩
      rw [htext.head c hc] at hspaces
      exact absurd hspaces.2 nofun
    · rw [h.tidy.last a ha] at hspaces
      exact absurd hspaces.1 nofun

theorem tidy_intercalate (h : ∀ word ∈ words, Word word) : Tidy (intercalate [' '] words) := by
  induction words with
  | nil => exact ⟨nofun, nofun, isChain_nil⟩
  | cons word words ih =>
    rw [forall_mem_cons] at h
    cases words with
    | nil =>
      rw [intercalate_singleton]
      exact h.1.tidy
    | cons next words =>
      rw [intercalate_cons_cons, append_assoc, singleton_append]
      refine h.1.tidy_append (fun hempty => ?_) (ih h.2)
      have hfields := fieldsOf_intercalate h.2
      rw [hempty] at hfields
      cases hfields

end Words

section Terminal

variable {text : List Char}

/-- Printable text holds no escape sequence. -/
theorem stripANSIEscapes_encodeRunes (h : ∀ c ∈ text, Printable c) :
    stripANSIEscapes (encodeRunes text) = encodeRunes text := by
  have hbytes : ∀ b ∈ encodeRunes text, b ≠ 0x1b := by
    rintro b hb rfl
    exact absurd ((plainColumn_encodeRunes h).bytes _ hb).1 (by decide)
  revert hbytes
  generalize encodeRunes text = bytes
  intro hbytes
  induction bytes with
  | nil => rw [stripANSIEscapes]
  | cons b bytes ih =>
    rw [forall_mem_cons] at hbytes
    rw [stripANSIEscapes, if_neg hbytes.1, ih hbytes.2]

/-- The runes of encoded text are the text. -/
theorem runes_encodeRunes (text : List Char) :
    runes (encodeRunes text) = text.map fun c => (c, String.utf8EncodeChar c) := by
  induction text with
  | nil => rw [encodeRunes_nil, runes, dif_pos rfl, map_nil]
  | cons c text ih =>
    obtain ⟨b, tail, hb, -⟩ := head_utf8EncodeChar c
    have hne : String.utf8EncodeChar c ++ encodeRunes text ≠ [] := by simp [hb]
    rw [encodeRunes_cons, runes, dif_neg hne, decodeRune_encode, ← String.length_utf8EncodeChar,
      take_left, drop_left, ih, map_cons]

theorem safeRune_of_printable {c : Char} (h : Printable c) : safeRune c = some c := by
  obtain ⟨hlow, hdel, hc1⟩ := h
  have hcontrol : ¬ (c = '\t' ∨ c = '\n' ∨ c = '\r') := by
    rintro (rfl | rfl | rfl) <;> exact absurd hlow (by decide)
  rw [safeRune, if_neg hcontrol, if_neg (by omega)]

/-- Of printable text only the white space changes. -/
theorem terminalSafe_encodeRunes (h : ∀ c ∈ text, Printable c) :
    terminalSafe (encodeRunes text) = intercalate [' '] (fieldsOf text) := by
  have hkeep : text.filterMap safeRune = text := by
    rw [filterMap_congr fun c hc => safeRune_of_printable (h c hc), filterMap_some]
  simp only [terminalSafe, stripANSIEscapes_encodeRunes h, runes_encodeRunes, filterMap_map]
  exact congrArg (fun mapped => intercalate [' '] (fieldsOf mapped)) hkeep

/-- **Terminal text.** For a string of any bytes the result holds no control character and no
white space but single spaces between words, and there is nothing more to remove from it.
Of a text without control characters the fields are kept. -/
theorem terminalSafe_clean (value : Bytes) :
    (∀ c ∈ terminalSafe value, Printable c) ∧ Tidy (terminalSafe value) ∧
      terminalSafe (encodeRunes (terminalSafe value)) = terminalSafe value ∧
      ∀ text : List Char, (∀ c ∈ text, Printable c) → value = encodeRunes text →
        terminalSafe value = intercalate [' '] (fieldsOf text) := by
  have hprintable := printable_terminalSafe value
  refine ⟨hprintable, tidy_intercalate fun word => word_of_mem_fieldsOf, ?_, ?_⟩
  · rw [terminalSafe_encodeRunes hprintable]
    exact congrArg (intercalate [' ']) (fieldsOf_intercalate fun word => word_of_mem_fieldsOf)
  · rintro text htext rfl
    exact terminalSafe_encodeRunes htext

/-- An escape sequence inside the encoding of a control character: the bytes around it form the
character, which is removed as well. -/
example : terminalSafe [0x61, 0xc2, 0x1b, 0x5b, 0x6d, 0x9b, 0x62] = ['a', 'b'] := by
  decide +kernel

end Terminal

end Rstream.Command
