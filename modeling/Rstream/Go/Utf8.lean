import Mathlib.Data.List.Basic

/-!
# Invalid UTF-8

A Go string may hold any bytes. Encoding it as JSON replaces every byte that is
not part of a valid rune by the replacement character, so a name does not always
survive a round trip through a JSON file. ASCII does.
-/

namespace Rstream.Go

/-- A continuation byte of a longer rune. -/
def isContinuation (b : UInt8) : Bool := 0x80 ≤ b && b ≤ 0xbf

/-- The width of the rune at the head of a string; 0 for an invalid byte. -/
def runeWidth : List UInt8 → Nat
  | [] => 0
  | b :: rest =>
    if b < 0x80 then 1
    else
      match rest with
      | c :: rest =>
        if 0xc2 ≤ b ∧ b ≤ 0xdf then if isContinuation c then 2 else 0
        else
          match rest with
          | d :: rest =>
            if b = 0xe0 then if 0xa0 ≤ c ∧ c ≤ 0xbf ∧ isContinuation d then 3 else 0
            else if b = 0xed then if 0x80 ≤ c ∧ c ≤ 0x9f ∧ isContinuation d then 3 else 0
            else if 0xe1 ≤ b ∧ b ≤ 0xef then if isContinuation c ∧ isContinuation d then 3 else 0
            else
              match rest with
              | e :: _ =>
                if ¬ (isContinuation d ∧ isContinuation e) then 0
                else if b = 0xf0 then if 0x90 ≤ c ∧ c ≤ 0xbf then 4 else 0
                else if b = 0xf4 then if 0x80 ≤ c ∧ c ≤ 0x8f then 4 else 0
                else if 0xf1 ≤ b ∧ b ≤ 0xf3 then if isContinuation c then 4 else 0
                else 0
              | [] => 0
          | [] => 0
      | [] => 0

/-- Replace invalid bytes; `keep` bytes at the head are known to be valid. -/
def coerceFrom : Nat → List UInt8 → List UInt8
  | _, [] => []
  | keep + 1, b :: rest => b :: coerceFrom keep rest
  | 0, b :: rest =>
    match runeWidth (b :: rest) with
    | 0 => 0xef :: 0xbf :: 0xbd :: coerceFrom 0 rest
    | width + 1 => b :: coerceFrom width rest

/-- The bytes of a string after a round trip through JSON. -/
def coerceUTF8 (s : List UInt8) : List UInt8 := coerceFrom 0 s

/-- The string of the coerced bytes. -/
def lossyString (s : List UInt8) : String := (String.fromUTF8? ⟨(coerceUTF8 s).toArray⟩).getD ""

@[simp] theorem coerceUTF8_nil : coerceUTF8 [] = [] := rfl

/-- An ASCII byte stays in its place. -/
theorem coerceUTF8_ascii {b : UInt8} (hb : b < 0x80) (rest : List UInt8) :
    coerceUTF8 (b :: rest) = b :: coerceUTF8 rest := by
  simp [coerceUTF8, coerceFrom, runeWidth, hb]

/-- Any other byte is replaced by something that does not start with ASCII. -/
theorem coerceUTF8_head {b : UInt8} (hb : ¬ b < 0x80) (rest : List UInt8) :
    ∃ c tail, coerceUTF8 (b :: rest) = c :: tail ∧ ¬ c < 0x80 := by
  simp only [coerceUTF8, coerceFrom]
  split
  · exact ⟨0xef, _, rfl, by decide⟩
  · exact ⟨b, _, rfl, hb⟩

theorem coerceUTF8_of_ascii {s : List UInt8} (hs : ∀ b ∈ s, b < 0x80) : coerceUTF8 s = s := by
  induction s with
  | nil => rfl
  | cons b rest ih =>
    simp only [List.forall_mem_cons] at hs
    rw [coerceUTF8_ascii hs.1, ih hs.2]

/-- The round trip does not make up an ASCII prefix. -/
theorem isPrefix_of_coerceUTF8 {p s : List UInt8} (hp : ∀ b ∈ p, b < 0x80)
    (h : p <+: coerceUTF8 s) : p <+: s := by
  induction p generalizing s with
  | nil => exact List.nil_prefix
  | cons a p ih =>
    simp only [List.forall_mem_cons] at hp
    cases s with
    | nil => exact absurd h (by simp)
    | cons b rest =>
      by_cases hb : b < 0x80
      · rw [coerceUTF8_ascii hb, List.cons_prefix_cons] at h
        exact List.cons_prefix_cons.mpr ⟨h.1, ih hp.2 h.2⟩
      · obtain ⟨c, tail, hc, hbig⟩ := coerceUTF8_head hb rest
        rw [hc, List.cons_prefix_cons] at h
        exact absurd (h.1 ▸ hp.1) hbig

end Rstream.Go
