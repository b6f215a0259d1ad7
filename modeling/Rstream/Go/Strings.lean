import Mathlib.Algebra.Group.Int.Defs
import Mathlib.Algebra.GroupWithZero.Nat
import Mathlib.Data.List.DropRight

/-!
# Strings

The part of package `strings` the models use. A Go string is a Lean string; its
bytes are its UTF-8 encoding.
-/

namespace Rstream.Go

/-- The UTF-8 bytes of a string. -/
def utf8 (s : String) : List UInt8 := s.toUTF8.data.toList

theorem utf8_injective : Function.Injective utf8 := by
  intro s t h
  apply String.toByteArray_inj.mp
  apply ByteArray.ext
  exact Array.toList_inj.mp h

/-- `unicode.IsSpace`: the white space property. -/
def isSpace (c : Char) : Bool :=
  c = '\t' || c = '\n' || c = '\x0b' || c = '\x0c' || c = '\r' || c = ' ' ||
    c.toNat = 0x85 || c.toNat = 0xa0 || c.toNat = 0x1680 ||
    (0x2000 ≤ c.toNat && c.toNat ≤ 0x200a) || c.toNat = 0x2028 || c.toNat = 0x2029 ||
    c.toNat = 0x202f || c.toNat = 0x205f || c.toNat = 0x3000

/-- `strings.TrimSpace`. -/
def trimSpace (s : String) : String :=
  String.ofList (((s.toList.dropWhile isSpace).reverse.dropWhile isSpace).reverse)

/-- It does not matter on which side the elements are dropped first. -/
theorem dropWhile_rdropWhile {α : Type} (p : α → Bool) (l : List α) :
    (l.rdropWhile p).dropWhile p = (l.dropWhile p).rdropWhile p := by
  induction l with
  | nil => rfl
  | cons a l ih =>
    have hcons : (a :: l).rdropWhile p =
        if (l.rdropWhile p).isEmpty then [a].rdropWhile p else a :: l.rdropWhile p := by
      simp only [List.rdropWhile, List.reverse_cons, List.dropWhile_append,
        List.isEmpty_reverse]
      split_ifs <;> simp_all
    cases ha : p a with
    | false =>
      rw [List.dropWhile_cons_of_neg (by simp [ha]), hcons]
      split_ifs <;> simp [List.rdropWhile, ha]
    | true =>
      rw [List.dropWhile_cons_of_pos ha, ← ih, hcons]
      split_ifs with hempty
      · rw [List.isEmpty_iff.mp hempty]
        simp [List.rdropWhile, ha]
      · exact List.dropWhile_cons_of_pos ha

theorem trimSpace_trimSpace (s : String) : trimSpace (trimSpace s) = trimSpace s := by
  have htwice := dropWhile_rdropWhile isSpace (s.toList.dropWhile isSpace)
  rw [List.dropWhile_idempotent] at htwice
  simp only [trimSpace, String.toList_ofList]
  change String.ofList (List.rdropWhile isSpace (List.dropWhile isSpace
    (List.rdropWhile isSpace _))) = String.ofList (List.rdropWhile isSpace _)
  rw [htwice, List.rdropWhile_idempotent]

/-- A part of a split list holds elements of the list that are no separators. -/
theorem mem_of_mem_splitOnP {α : Type} {p : α → Bool} {xs part : List α} {a : α}
    (hpart : part ∈ xs.splitOnP p) (ha : a ∈ part) : a ∈ xs ∧ p a = false := by
  induction xs generalizing part with
  | nil =>
    rw [List.splitOnP_nil, List.mem_singleton] at hpart
    rw [hpart] at ha
    cases ha
  | cons x xs ih =>
    rw [List.splitOnP_cons_eq_if_modifyHead] at hpart
    split_ifs at hpart with hx
    · obtain rfl | hpart := List.mem_cons.mp hpart
      · cases ha
      · exact (ih hpart ha).imp_left (List.mem_cons_of_mem _)
    · obtain ⟨first, rest, hsplit⟩ := List.exists_cons_of_ne_nil (List.splitOnP_ne_nil p xs)
      rw [hsplit, List.modifyHead_cons] at hpart
      obtain rfl | hpart := List.mem_cons.mp hpart
      · obtain rfl | ha := List.mem_cons.mp ha
        · exact ⟨List.mem_cons_self, by simpa using hx⟩
        · exact (ih (hsplit ▸ List.mem_cons_self) ha).imp_left (List.mem_cons_of_mem _)
      · exact (ih (hsplit ▸ List.mem_cons_of_mem _ hpart) ha).imp_left (List.mem_cons_of_mem _)

theorem mem_intercalate {α : Type} {sep : List α} {xs : List (List α)} {a : α}
    (h : a ∈ List.intercalate sep xs) : a ∈ sep ∨ ∃ x ∈ xs, a ∈ x := by
  induction xs with
  | nil => cases h
  | cons x xs ih =>
    cases xs with
    | nil => exact .inr ⟨x, List.mem_singleton_self x, by simpa [List.intercalate] using h⟩
    | cons y xs =>
      rw [List.intercalate_cons_cons] at h
      simp only [List.mem_append] at h
      obtain (h | h) | h := h
      · exact .inr ⟨x, List.mem_cons_self, h⟩
      · exact .inl h
      · exact (ih h).imp id fun ⟨z, hz, ha⟩ => ⟨z, List.mem_cons_of_mem _ hz, ha⟩

/-- `len(s) == 0` after trimming. -/
def blank (s : String) : Bool := trimSpace s == ""

/-- `strings.HasPrefix`. -/
def hasPrefix (s start : String) : Bool := start.toList.isPrefixOf s.toList

/-- `strings.HasSuffix`. -/
def hasSuffix (s ending : String) : Bool := ending.toList.isSuffixOf s.toList

/-- The value of a sequence of decimal digits. -/
def decimal? (s : String) : Option Nat :=
  s.toList.foldl
    (fun n c => if c.isDigit then n.map fun n => 10 * n + (c.toNat - '0'.toNat) else none) (some 0)

/-- A hexadecimal digit. -/
def hexDigit (n : Nat) : Char := Nat.digitChar n

/-- `hex.EncodeToString`. -/
def hex (data : List UInt8) : String :=
  String.ofList (data.flatMap fun b => [hexDigit (b.toNat / 16), hexDigit (b.toNat % 16)])

/-- A character inside a quoted Go string. -/
def strconvQuoteChar (c : Char) : List Char :=
  if c = '"' then ['\\', '"']
  else if c = '\\' then ['\\', '\\']
  else if c.toNat = 7 then ['\\', 'a']
  else if c.toNat = 8 then ['\\', 'b']
  else if c.toNat = 12 then ['\\', 'f']
  else if c = '\n' then ['\\', 'n']
  else if c = '\r' then ['\\', 'r']
  else if c = '\t' then ['\\', 't']
  else if c.toNat = 11 then ['\\', 'v']
  else if c.toNat < 32 ∨ c.toNat = 127 then
    ['\\', 'x', hexDigit (c.toNat / 16), hexDigit (c.toNat % 16)]
  else [c]

/-- `strconv.Quote`; characters beyond ASCII are taken as printable. -/
def strconvQuote (s : String) : String :=
  String.ofList ('"' :: s.toList.flatMap strconvQuoteChar ++ ['"'])

end Rstream.Go
