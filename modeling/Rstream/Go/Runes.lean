import Mathlib.Data.List.Infix
import Rstream.Go.Strings

/-!
# Runes of byte strings

A Go string may hold any bytes. Reading it rune by rune takes every byte that does
not start a valid encoding for a replacement character of width one. Reading what was
encoded gives it back, and the first rune does not depend on what follows unless the
string breaks off inside an encoding.
-/

namespace Rstream.Go

open List

section Decoding

/-- `utf8.RuneError`. -/
def runeError : Char := '�'

/-- `utf8.DecodeRuneInString`: the first rune and its width. -/
def decodeRune (s : List UInt8) : Char × Nat :=
  match s.toByteArray.utf8DecodeChar? 0 with
  | some c => (c, c.utf8Size)
  | none => (runeError, if s = [] then 0 else 1)

/-- `utf8.AppendRune` over a list of runes. -/
def encodeRunes (runes : List Char) : List UInt8 := runes.flatMap String.utf8EncodeChar

@[simp] theorem encodeRunes_nil : encodeRunes [] = [] := rfl

@[simp] theorem encodeRunes_cons (c : Char) (runes : List Char) :
    encodeRunes (c :: runes) = String.utf8EncodeChar c ++ encodeRunes runes := rfl

/-- The bytes of a string are the encodings of its characters. -/
theorem utf8_eq_encodeRunes (s : String) : utf8 s = encodeRunes s.toList := by
  have h : s.toUTF8 = (s.toList.flatMap String.utf8EncodeChar).toByteArray := by
    conv_lhs => rw [← String.ofList_toList (s := s)]
    rfl
  rw [utf8, h, data_toByteArray]
  rfl

theorem decodeRune_encode (c : Char) (rest : List UInt8) :
    decodeRune (String.utf8EncodeChar c ++ rest) = (c, c.utf8Size) := by
  simp only [decodeRune, toByteArray_append, ByteArray.utf8DecodeChar?_utf8EncodeChar_append]

/-- A string starts with the encoding of a rune, or with a byte that is replaced. -/
theorem decodeRune_cases (s : List UInt8) :
    (∃ c rest, s = String.utf8EncodeChar c ++ rest ∧ decodeRune s = (c, c.utf8Size)) ∨
      ((∀ c, ¬ String.utf8EncodeChar c <+: s) ∧
        decodeRune s = (runeError, if s = [] then 0 else 1)) := by
  cases hdecode : s.toByteArray.utf8DecodeChar? 0 with
  | some c =>
    left
    obtain ⟨tail, htail⟩ := ByteArray.exists_of_utf8DecodeChar?_eq_some hdecode
    have hs : s = String.utf8EncodeChar c ++ tail.data.toList := by
      rw [← toByteArray_inj, htail, toByteArray_append]
      congr 1
      ext1
      simp [data_toByteArray]
    refine ⟨c, tail.data.toList, hs, ?_⟩
    rw [hs, decodeRune_encode]
  | none =>
    right
    refine ⟨?_, by simp only [decodeRune, hdecode]⟩
    rintro c ⟨tail, rfl⟩
    rw [toByteArray_append, ByteArray.utf8DecodeChar?_utf8EncodeChar_append] at hdecode
    cases hdecode

/-- Reading a rune makes progress. -/
theorem decodeRune_width {s : List UInt8} (h : s ≠ []) :
    0 < (decodeRune s).2 ∧ (decodeRune s).2 ≤ s.length := by
  obtain ⟨c, rest, hs, hd⟩ | ⟨-, hd⟩ := decodeRune_cases s
  · have hlength := String.length_utf8EncodeChar c
    rw [hd]
    refine ⟨c.utf8Size_pos, ?_⟩
    rw [hs, length_append]
    omega
  · rw [hd, if_neg h]
    exact ⟨Nat.one_pos, length_pos_iff.mpr h⟩

/-- The shapes of an encoding: one byte, two bytes, or a high byte and continuation bytes. -/
inductive EncodingShape (c : Char) : List UInt8 → Prop
  | one (b : UInt8) (hc : c.toNat < 0x80) (hb : b.toNat = c.toNat) : EncodingShape c [b]
  | two (a b : UInt8) (hc : 0x80 ≤ c.toNat ∧ c.toNat < 0x800)
      (ha : a.toNat = c.toNat / 64 + 192) (hb : b.toNat = c.toNat % 64 + 128) :
      EncodingShape c [a, b]
  | many (a : UInt8) (tail : List UInt8) (hne : tail ≠ []) (hc : 0x800 ≤ c.toNat)
      (ha : 0xe0 ≤ a.toNat ∧ a.toNat < 0xf8)
      (htail : ∀ b ∈ tail, 0x80 ≤ b.toNat ∧ b.toNat < 0xc0) : EncodingShape c (a :: tail)

theorem encodingShape (c : Char) : EncodingShape c (String.utf8EncodeChar c) := by
  unfold String.utf8EncodeChar
  dsimp only
  rw [show c.val.toNat = c.toNat from rfl]
  split_ifs with h1 h2 h3
  · refine .one _ (by omega) ?_
    simp only [UInt8.toNat_ofNat']
    omega
  · refine .two _ _ (by omega) ?_ ?_ <;> simp only [UInt8.toNat_ofNat'] <;> omega
  all_goals
    refine .many _ _ (by simp) (by omega) ?_ ?_
    · simp only [UInt8.toNat_ofNat']
      omega
    · simp only [forall_mem_cons, UInt8.toNat_ofNat']
      simp
      omega

/-- The first byte of an encoding that is ASCII is the rune. -/
theorem head_utf8EncodeChar (c : Char) :
    ∃ b tail, String.utf8EncodeChar c = b :: tail ∧ (b < 0x80 → b.toNat = c.toNat) := by
  have hshape := encodingShape c
  generalize String.utf8EncodeChar c = s at hshape ⊢
  cases hshape with
  | one b hc hb => exact ⟨b, [], rfl, fun _ => hb⟩
  | two a b hc ha hb =>
    refine ⟨a, [b], rfl, fun hlt => ?_⟩
    rw [UInt8.lt_iff_toNat_lt] at hlt
    exact absurd hlt (by simp; omega)
  | many a tail hne hc ha htail =>
    refine ⟨a, tail, rfl, fun hlt => ?_⟩
    rw [UInt8.lt_iff_toNat_lt] at hlt
    exact absurd hlt (by simp; omega)

/-- An encoding starts with an ASCII byte only if it is that of the byte. -/
theorem eq_of_utf8EncodeChar {c d : Char} {b : UInt8} {tail : List UInt8}
    (h : String.utf8EncodeChar c = b :: tail) (hb : b < 0x80) (hd : d.toNat = b.toNat) : c = d := by
  obtain ⟨b', tail', hc, hascii⟩ := head_utf8EncodeChar c
  rw [hc] at h
  cases h
  exact Char.toNat_inj.mp (by rw [hd, hascii hb])

end Decoding

section Strings

/-- The runes of a string, each with its bytes. -/
def runes (s : List UInt8) : List (Char × List UInt8) :=
  if h : s = [] then []
  else
    ((decodeRune s).1, s.take (decodeRune s).2) :: runes (s.drop (decodeRune s).2)
termination_by s.length
decreasing_by
  have hwidth := decodeRune_width h
  rw [length_drop]
  omega

/-- `strings.TrimSpace` on a string of any bytes. -/
def trimSpaceBytes (s : List UInt8) : List UInt8 :=
  let space := fun r : Char × List UInt8 => isSpace r.1
  ((((runes s).dropWhile space).reverse.dropWhile space).reverse).flatMap Prod.snd

/-- The value of a sequence of decimal digits, at least one. -/
def digitsValue (s : List UInt8) : Option Nat :=
  if s = [] then none
  else s.foldl (fun n b =>
    if 0x30 ≤ b ∧ b ≤ 0x39 then n.map fun n => 10 * n + (b.toNat - 0x30) else none) (some 0)

/-- `strconv.Atoi` with 64-bit integers. -/
def atoi (s : List UInt8) : Option Int :=
  let n : Option Int :=
    match s with
    | [] => none
    | b :: rest =>
      if b = 0x2d then (digitsValue rest).map fun n => -(n : Int)
      else if b = 0x2b then (digitsValue rest).map fun n => (n : Int)
      else (digitsValue s).map fun n => (n : Int)
  n.filter fun n => decide (-2 ^ 63 ≤ n ∧ n < 2 ^ 63)

/-- `int` arithmetic: the value modulo 2⁶⁴ that an `int` holds. -/
def wrap64 (n : Int) : Int := n.bmod (2 ^ 64)

theorem wrap64_of_range {n : Int} (hlow : -2 ^ 63 ≤ n) (hhigh : n < 2 ^ 63) : wrap64 n = n :=
  Int.bmod_eq_of_le (by omega) (by omega)

end Strings

end Rstream.Go
