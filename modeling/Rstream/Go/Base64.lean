import Rstream.Go.Strings

/-!
# Base64

`base64.RawURLEncoding`: the URL alphabet without padding, and `base64.StdEncoding`:
the standard alphabet with padding. Decoding skips line breaks and accepts unused bits
at the end, so several texts can stand for the same bytes, but decoding an encoded text
gives the bytes back.
-/

namespace Rstream.Go

open List

/-- The digit of a value below 64. -/
def base64Digit (n : Nat) : Char :=
  if n < 26 then Char.ofNat ('A'.toNat + n)
  else if n < 52 then Char.ofNat ('a'.toNat + (n - 26))
  else if n < 62 then Char.ofNat ('0'.toNat + (n - 52))
  else if n = 62 then '-'
  else '_'

/-- The value of a digit. -/
def base64Value (c : Char) : Option Nat :=
  if 'A' ≤ c ∧ c ≤ 'Z' then some (c.toNat - 'A'.toNat)
  else if 'a' ≤ c ∧ c ≤ 'z' then some (c.toNat - 'a'.toNat + 26)
  else if '0' ≤ c ∧ c ≤ '9' then some (c.toNat - '0'.toNat + 52)
  else if c = '-' then some 62
  else if c = '_' then some 63
  else none

/-- The digits of a byte string. -/
def toSextets : List UInt8 → List Nat
  | [] => []
  | [a] => [a.toNat / 4, a.toNat % 4 * 16]
  | [a, b] => [a.toNat / 4, a.toNat % 4 * 16 + b.toNat / 16, b.toNat % 16 * 4]
  | a :: b :: c :: rest =>
    a.toNat / 4 :: (a.toNat % 4 * 16 + b.toNat / 16) :: (b.toNat % 16 * 4 + c.toNat / 64) ::
      c.toNat % 64 :: toSextets rest

/-- The bytes of a sequence of digits. -/
def ofSextets : List Nat → Option (List UInt8)
  | [] => some []
  | [_] => none
  | [a, b] => some [UInt8.ofNat (a * 4 + b / 16)]
  | [a, b, c] => some [UInt8.ofNat (a * 4 + b / 16), UInt8.ofNat (b % 16 * 16 + c / 4)]
  | a :: b :: c :: d :: rest =>
    (ofSextets rest).map fun data =>
      UInt8.ofNat (a * 4 + b / 16) :: UInt8.ofNat (b % 16 * 16 + c / 4) ::
        UInt8.ofNat (c % 4 * 64 + d) :: data

/-- `RawURLEncoding.EncodeToString`. -/
def rawURLEncode (data : List UInt8) : String := String.ofList ((toSextets data).map base64Digit)

/-- A line break, which decoding skips. -/
def isLineBreak (c : Char) : Bool := c = '\r' || c = '\n'

/-- `RawURLEncoding.DecodeString`. -/
def rawURLDecode (s : String) : Option (List UInt8) :=
  ((s.toList.filter fun c => !isLineBreak c).mapM base64Value).bind ofSextets

/-- The digit of a value in the standard alphabet. -/
def stdDigit (n : Nat) : Char :=
  if n = 62 then '+' else if n = 63 then '/' else base64Digit n

/-- The value of a digit of the standard alphabet. -/
def stdValue (c : Char) : Option Nat :=
  if c = '+' then some 62
  else if c = '/' then some 63
  else if c = '-' ∨ c = '_' then none
  else base64Value c

/-- `StdEncoding.EncodeToString`. -/
def stdEncode (data : List UInt8) : String :=
  let digits := (toSextets data).map stdDigit
  String.ofList (digits ++ replicate ((4 - digits.length % 4) % 4) '=')

/-- The values of digits in groups of four, the last of which may be padded. -/
def stdSextets : List Char → Option (List Nat)
  | [] => some []
  | a :: b :: c :: d :: rest =>
    if d = '=' then
      if rest ≠ [] then none
      else if c = '=' then [a, b].mapM stdValue
      else [a, b, c].mapM stdValue
    else ([a, b, c, d].mapM stdValue).bind fun group => (stdSextets rest).map (group ++ ·)
  | _ => none

/-- `StdEncoding.DecodeString`. -/
def stdDecode (s : String) : Option (List UInt8) :=
  (stdSextets (s.toList.filter fun c => !isLineBreak c)).bind ofSextets

theorem base64Value_base64Digit {n : Nat} (hn : n < 64) : base64Value (base64Digit n) = some n := by
  revert n
  decide

theorem isLineBreak_base64Digit {n : Nat} (hn : n < 64) : isLineBreak (base64Digit n) = false := by
  revert n
  decide

theorem toSextets_lt (data : List UInt8) : ∀ n ∈ toSextets data, n < 64 := by
  fun_induction toSextets data with
  | case1 => simp
  | case2 a =>
    have := a.toNat_lt
    simp only [mem_cons, not_mem_nil, or_false, forall_eq_or_imp, forall_eq]
    omega
  | case3 a b =>
    have := a.toNat_lt
    have := b.toNat_lt
    simp only [mem_cons, not_mem_nil, or_false, forall_eq_or_imp, forall_eq]
    omega
  | case4 a b c rest ih =>
    have := a.toNat_lt
    have := b.toNat_lt
    have := c.toNat_lt
    simp only [forall_mem_cons]
    exact ⟨by omega, by omega, by omega, by omega, ih⟩

theorem uint8_ofNat {n : Nat} {a : UInt8} (h : n = a.toNat) : UInt8.ofNat n = a := by
  rw [h, UInt8.ofNat_toNat]

theorem ofSextets_toSextets (data : List UInt8) : ofSextets (toSextets data) = some data := by
  fun_induction toSextets data with
  | case1 => rfl
  | case2 a =>
    have ha := a.toNat_lt
    rw [ofSextets, uint8_ofNat (a := a) (by omega)]
  | case3 a b =>
    have ha := a.toNat_lt
    have hb := b.toNat_lt
    rw [ofSextets, uint8_ofNat (a := a) (by omega), uint8_ofNat (a := b) (by omega)]
  | case4 a b c rest ih =>
    have ha := a.toNat_lt
    have hb := b.toNat_lt
    have hc := c.toNat_lt
    rw [ofSextets, ih, Option.map_some, uint8_ofNat (a := a) (by omega),
      uint8_ofNat (a := b) (by omega), uint8_ofNat (a := c) (by omega)]

theorem mapM_base64Value {sextets : List Nat} (h : ∀ n ∈ sextets, n < 64) :
    (sextets.map base64Digit).mapM base64Value = some sextets := by
  induction sextets with
  | nil => rfl
  | cons n rest ih =>
    simp only [forall_mem_cons] at h
    simp [mapM_cons, base64Value_base64Digit h.1, ih h.2]

theorem rawURLDecode_encode (data : List UInt8) : rawURLDecode (rawURLEncode data) = some data := by
  have hkeep : ((toSextets data).map base64Digit).filter (fun c => !isLineBreak c) =
      (toSextets data).map base64Digit := by
    refine filter_eq_self.mpr fun c hc => ?_
    obtain ⟨n, hn, rfl⟩ := mem_map.mp hc
    rw [isLineBreak_base64Digit (toSextets_lt data n hn)]
    rfl
  rw [rawURLDecode, rawURLEncode, String.toList_ofList, hkeep,
    mapM_base64Value (toSextets_lt data), Option.bind_some, ofSextets_toSextets]

theorem rawURLEncode_injective : Function.Injective rawURLEncode := by
  intro a b h
  have hdecode := congrArg rawURLDecode h
  rwa [rawURLDecode_encode, rawURLDecode_encode, Option.some.injEq] at hdecode

section Trimming

theorem base64Value_printable {c : Char} {n : Nat} (h : base64Value c = some n) :
    32 < c.toNat ∧ c.toNat < 127 := by
  have hbetween : ∀ {a b : Char}, 32 < a.toNat → b.toNat < 127 → a ≤ c ∧ c ≤ b →
      32 < c.toNat ∧ c.toNat < 127 := by
    intro a b ha hb hc
    have hle : a.toNat ≤ c.toNat := hc.1
    have hge : c.toNat ≤ b.toNat := hc.2
    omega
  unfold base64Value at h
  split_ifs at h with h1 h2 h3 h4 h5
  · exact hbetween (by decide) (by decide) h1
  · exact hbetween (by decide) (by decide) h2
  · exact hbetween (by decide) (by decide) h3
  · exact h4 ▸ by decide
  · exact h5 ▸ by decide

theorem isSpace_of_printable {c : Char} (h : 32 < c.toNat ∧ c.toNat < 127) : isSpace c = false := by
  have hne : ∀ d : Char, d.toNat ≤ 32 → c ≠ d := by
    rintro d hd rfl
    omega
  simp only [isSpace, Bool.or_eq_false_iff, Bool.and_eq_false_iff, decide_eq_false_iff_not]
  refine ⟨⟨⟨⟨⟨⟨⟨⟨⟨⟨⟨⟨⟨⟨?_, ?_⟩, ?_⟩, ?_⟩, ?_⟩, ?_⟩, ?_⟩, ?_⟩, ?_⟩, ?_⟩, ?_⟩, ?_⟩, ?_⟩, ?_⟩, ?_⟩
  all_goals first | exact hne _ (by decide) | omega

theorem dropWhile_of_head {l : List Char} (h : ∀ c ∈ l, isSpace c = false) :
    l.dropWhile isSpace = l := by
  cases l with
  | nil => rfl
  | cons c l => rw [dropWhile_cons_of_neg (by simp [h c mem_cons_self])]

/-- There is no space around an encoded text. -/
theorem trimSpace_rawURLEncode (data : List UInt8) :
    trimSpace (rawURLEncode data) = rawURLEncode data := by
  have hdigits : ∀ c ∈ (toSextets data).map base64Digit, isSpace c = false := by
    intro c hc
    obtain ⟨n, hn, rfl⟩ := mem_map.mp hc
    exact isSpace_of_printable
      (base64Value_printable (base64Value_base64Digit (toSextets_lt data n hn)))
  rw [trimSpace, rawURLEncode, String.toList_ofList, dropWhile_of_head hdigits, dropWhile_of_head,
    reverse_reverse]
  exact fun c hc => hdigits c (mem_reverse.mp hc)

theorem rawURLEncode_ne_empty {data : List UInt8} (h : data ≠ []) : rawURLEncode data ≠ "" := by
  intro hempty
  exact h (rawURLEncode_injective hempty)

end Trimming

end Rstream.Go
