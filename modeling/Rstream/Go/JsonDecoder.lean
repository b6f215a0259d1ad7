import Mathlib.Order.Lattice
import Rstream.Go.Json
import Rstream.Go.Utf8

/-!
# JSON decoder

The decoder of `encoding/json` with `UseNumber`: it reads one value after another
from a text, with white space between tokens, escapes and surrogate pairs in
strings, and a bound on how deep values nest. Positions and texts of syntax errors
are not modelled. Every number it reads would be read again from its own text, so
what it leaves in memory is valid.
-/

namespace Rstream.Go.Json

open List Option

variable {r s : List Char} {items : List Json} {v : Json}
  {next : List Char → Option (List Char × List Char)} {stop' : Char → Bool} {fuel : Nat}

section Strings

/-- The value of a hexadecimal digit. -/
def hexValue (c : Char) : Option Nat :=
  if '0' ≤ c ∧ c ≤ '9' then some (c.toNat - '0'.toNat)
  else if 'a' ≤ c ∧ c ≤ 'f' then some (c.toNat - 'a'.toNat + 10)
  else if 'A' ≤ c ∧ c ≤ 'F' then some (c.toNat - 'A'.toNat + 10)
  else none

/-- The code unit of four hexadecimal digits. -/
def codeUnit (a b c d : Char) : Option Nat :=
  match hexValue a, hexValue b, hexValue c, hexValue d with
  | some a, some b, some c, some d => some (4096 * a + 256 * b + 16 * c + d)
  | _, _, _, _ => none

/-- The character a single letter stands for after a backslash. -/
def unescape (c : Char) : Option Char :=
  if c = '"' ∨ c = '\\' ∨ c = '/' then some c
  else if c = 'n' then some '\n'
  else if c = 'r' then some '\r'
  else if c = 't' then some '\t'
  else if c = 'b' then some (Char.ofNat 8)
  else if c = 'f' then some (Char.ofNat 12)
  else none

/-- The rest of a string up to its closing quote, and what follows: its characters, and the code
units given by their numbers. -/
def parseUnits : List Char → Option (List (Char ⊕ Nat) × List Char)
  | '\\' :: 'u' :: a :: b :: c :: d :: rest =>
    (codeUnit a b c d).bind fun n => (parseUnits rest).map fun p => (.inr n :: p.1, p.2)
  | '\\' :: c :: rest =>
    (unescape c).bind fun c => (parseUnits rest).map fun p => (.inl c :: p.1, p.2)
  | c :: rest =>
    if c = '"' then some ([], rest)
    else if c = '\\' ∨ c.toNat < 32 then none
    else (parseUnits rest).map fun p => (.inl c :: p.1, p.2)
  | [] => none

/-- `utf16.IsSurrogate`. -/
def isSurrogate (n : Nat) : Bool := 0xd800 ≤ n && n < 0xe000

/-- `utf16.DecodeRune`. -/
def decodeSurrogates (high low : Nat) : Option Char :=
  if 0xd800 ≤ high ∧ high < 0xdc00 ∧ 0xdc00 ≤ low ∧ low < 0xe000 then
    some (Char.ofNat ((high - 0xd800) * 1024 + (low - 0xdc00) + 0x10000))
  else none

/-- The characters of a string, with surrogate pairs combined and single surrogates replaced. -/
def decodeUnits : List (Char ⊕ Nat) → List Char
  | [] => []
  | .inl c :: rest => c :: decodeUnits rest
  | .inr high :: .inr low :: rest =>
    if isSurrogate high then
      match decodeSurrogates high low with
      | some c => c :: decodeUnits rest
      | none => Char.ofNat 0xfffd :: decodeUnits (.inr low :: rest)
    else Char.ofNat high :: decodeUnits (.inr low :: rest)
  | .inr n :: rest =>
    (if isSurrogate n then Char.ofNat 0xfffd else Char.ofNat n) :: decodeUnits rest

/-- Read a string after its opening quote. -/
def parseString (s : List Char) : Option (String × List Char) :=
  (parseUnits s).map fun p => (String.ofList (decodeUnits p.1), p.2)

end Strings

section Values

/-- White space between tokens. -/
def isJsonSpace (c : Char) : Bool := c = ' ' || c = '\t' || c = '\n' || c = '\r'

/-- What comes after white space. -/
def skipSpace (s : List Char) : List Char := s.dropWhile isJsonSpace

/-- Read a fixed text. -/
def expect (text s : List Char) : Option (List Char) :=
  if text.isPrefixOf s then some (s.drop text.length) else none

/-- Read a number. -/
def parseNumber (s : List Char) : Option (Json × List Char) :=
  (scanNumber s).map fun p => (.number (String.ofList p.1), p.2)

/-- Read the key of a member and its colon. -/
def parseKey (s : List Char) : Option (String × List Char) :=
  ((expect ['"'] (skipSpace s)).bind parseString).bind fun p =>
    (expect [':'] (skipSpace p.2)).map fun rest => (p.1, rest)

mutual

/-- Read a value that nests at most `depth` levels deep; `fuel` bounds the recursion. -/
def parseValue (fuel depth : Nat) (s : List Char) : Option (Json × List Char) :=
  match fuel with
  | 0 => none
  | fuel + 1 =>
    match skipSpace s with
    | [] => none
    | c :: rest =>
      if c = 'n' then (expect ['u', 'l', 'l'] rest).map fun r => (.null, r)
      else if c = 't' then (expect ['r', 'u', 'e'] rest).map fun r => (.bool true, r)
      else if c = 'f' then (expect ['a', 'l', 's', 'e'] rest).map fun r => (.bool false, r)
      else if c = '"' then (parseString rest).map fun p => (.string p.1, p.2)
      else if c = '[' then
        if depth = 0 then none
        else if (skipSpace rest).head? = some ']' then some (.array [], (skipSpace rest).tail)
        else (parseItems fuel (depth - 1) rest).map fun p => (.array p.1, p.2)
      else if c = '{' then
        if depth = 0 then none
        else if (skipSpace rest).head? = some '}' then some (.object [], (skipSpace rest).tail)
        else (parseMembers fuel (depth - 1) rest).map fun p => (.object p.1, p.2)
      else parseNumber (c :: rest)

/-- Read the items of an array up to its end. -/
def parseItems (fuel depth : Nat) (s : List Char) : Option (List Json × List Char) :=
  match fuel with
  | 0 => none
  | fuel + 1 =>
    (parseValue fuel depth s).bind fun p =>
      match skipSpace p.2 with
      | ',' :: rest => (parseItems fuel depth rest).map fun q => (p.1 :: q.1, q.2)
      | ']' :: rest => some ([p.1], rest)
      | _ => none

/-- Read the members of an object up to its end; a key may come twice. -/
def parseMembers (fuel depth : Nat) (s : List Char) : Option (List (String × Json) × List Char) :=
  match fuel with
  | 0 => none
  | fuel + 1 =>
    (parseKey s).bind fun k =>
      (parseValue fuel depth k.2).bind fun p =>
        match skipSpace p.2 with
        | ',' :: rest => (parseMembers fuel depth rest).map fun q => ((k.1, p.1) :: q.1, q.2)
        | '}' :: rest => some ([(k.1, p.1)], rest)
        | _ => none

end

/-- The members of a map: the last value of each key. -/
def lastValues : List (String × Json) → List (String × Json)
  | [] => []
  | m :: rest => if m.1 ∈ rest.map Prod.fst then lastValues rest else m :: lastValues rest

mutual

/-- The value in memory, where a map has each key once. -/
def toAny : Json → Json
  | .array items => .array (toAnyItems items)
  | .object members => .object (lastValues (toAnyMembers members))
  | v => v

/-- The items of an array in memory. -/
def toAnyItems : List Json → List Json
  | [] => []
  | v :: rest => v.toAny :: toAnyItems rest

/-- The members of an object in memory. -/
def toAnyMembers : List (String × Json) → List (String × Json)
  | [] => []
  | (key, v) :: rest => (key, v.toAny) :: toAnyMembers rest

end

/-- The characters of a text in bytes, with invalid bytes replaced. -/
def decodeText (raw : List UInt8) : List Char :=
  match String.fromUTF8? ⟨raw.toArray⟩ with
  | some s => s.toList
  | none => (lossyString raw).toList

end Values

section Numbers

/-- What follows does not start with a character of a kind. -/
def Ends (stop : Char → Bool) (r : List Char) : Prop := ∀ c ∈ r.head?, stop c = false

variable {stop : Char → Bool}

theorem ends_cons {c : Char} : Ends stop (c :: r) ↔ stop c = false := by
  simp [Ends]

/-- A scanner that splits its input, and would do so again before anything that cannot go on. -/
structure Reads (scan : List Char → Option (List Char × List Char)) (stop : Char → Bool) :
    Prop where
  split : ∀ {s t r}, scan s = some (t, r) → s = t ++ r
  again : ∀ {s t r}, scan s = some (t, r) → ∀ r', Ends stop r' → scan (t ++ r') = some (t, r')

/-- A scanner that reads at least one character. -/
def Consumes (scan : List Char → Option (List Char × List Char)) : Prop :=
  ∀ s t r, scan s = some (t, r) → t ≠ []

theorem takeWhile_append_ends {text : List Char} (hall : ∀ c ∈ text, stop c = true)
    (hr : Ends stop r) : (text ++ r).takeWhile stop = text ∧ (text ++ r).dropWhile stop = r := by
  induction text with
  | nil =>
    cases r with
    | nil => simp
    | cons c r => simp [hr c rfl]
  | cons c text ih =>
    obtain ⟨htake, hdrop⟩ := ih fun d hd => hall d (mem_cons_of_mem _ hd)
    simp [hall c mem_cons_self, htake, hdrop]

theorem scanDigits1_eq_some {t : List Char} (h : scanDigits1 s = some (t, r)) :
    t ≠ [] ∧ t = s.takeWhile Char.isDigit ∧ r = s.dropWhile Char.isDigit := by
  unfold scanDigits1 at h
  split at h
  · cases h
  next hne =>
    cases h
    exact ⟨hne, rfl, rfl⟩

theorem consumes_digits1 : Consumes scanDigits1 := fun _ _ _ h => (scanDigits1_eq_some h).1

theorem reads_digits1 : Reads scanDigits1 Char.isDigit where
  split := by
    intro s t r h
    obtain ⟨_, rfl, rfl⟩ := scanDigits1_eq_some h
    exact (takeWhile_append_dropWhile).symm
  again := by
    intro s t r h r' hr'
    obtain ⟨hne, ht, _⟩ := scanDigits1_eq_some h
    have hall : ∀ c ∈ t, c.isDigit = true := fun c hc =>
      all_eq_true.mp (all_takeWhile (l := s)) c (ht ▸ hc)
    obtain ⟨htake, hdrop⟩ := takeWhile_append_ends hall hr'
    unfold scanDigits1 scanDigits
    rw [htake, hdrop, if_neg hne]

theorem scanIntegral_cons {c : Char} (hc : c ≠ '0') (s : List Char) :
    scanIntegral (c :: s) = scanDigits1 (c :: s) := by
  unfold scanIntegral
  split
  next heq => exact absurd (cons.inj heq).1 hc
  · rfl

theorem consumes_integral : Consumes scanIntegral := by
  intro s t r h
  unfold scanIntegral at h
  split at h
  · cases h
    simp
  · exact consumes_digits1 _ _ _ h

theorem reads_integral : Reads scanIntegral Char.isDigit where
  split := by
    intro s t r h
    unfold scanIntegral at h
    split at h
    · cases h
      rfl
    · exact reads_digits1.split h
  again := by
    intro s t r h r' hr'
    unfold scanIntegral at h
    split at h
    · cases h
      rfl
    next hzero =>
      have hagain := reads_digits1.again h r' hr'
      have hsplit := reads_digits1.split h
      cases t with
      | nil => exact absurd rfl (consumes_digits1 _ _ _ h)
      | cons c t =>
        have hc : c ≠ '0' := by
          rintro rfl
          exact hzero _ hsplit
        rw [cons_append, scanIntegral_cons hc, ← cons_append, hagain]

variable {scan : List Char → Option (List Char × List Char)}

theorem Consumes.signed (h : Consumes scan) (signs : List Char) :
    Consumes (scanSigned signs scan) := by
  intro s t r hs
  cases s with
  | nil => cases hs
  | cons c rest =>
    rw [scanSigned] at hs
    split at hs
    · obtain ⟨p, _, hp⟩ := map_eq_some_iff.mp hs
      cases hp
      simp
    · exact h _ _ _ hs

theorem Reads.signed (h : Reads scan stop) (hne : Consumes scan) (signs : List Char) :
    Reads (scanSigned signs scan) stop where
  split := by
    intro s t r hs
    cases s with
    | nil => cases hs
    | cons c rest =>
      rw [scanSigned] at hs
      split at hs
      · obtain ⟨p, hp, heq⟩ := map_eq_some_iff.mp hs
        cases heq
        rw [h.split hp, cons_append]
      · exact h.split hs
  again := by
    intro s t r hs r' hr'
    cases s with
    | nil => cases hs
    | cons c rest =>
      rw [scanSigned] at hs
      split at hs
      next hc =>
        obtain ⟨p, hp, heq⟩ := map_eq_some_iff.mp hs
        cases heq
        rw [cons_append, scanSigned, if_pos hc, h.again hp r' hr']
        rfl
      next hc =>
        have hsplit := h.split hs
        cases t with
        | nil => exact absurd rfl (hne _ _ _ hs)
        | cons d t =>
          cases hsplit
          rw [cons_append, scanSigned, if_neg hc, ← cons_append, h.again hs r' hr']

/-- An optional part ends before anything that neither starts it nor goes on with it. -/
theorem Reads.optional (h : Reads scan stop) (starts : List Char) :
    Reads (scanOptional starts scan) (fun c => stop c || starts.contains c) where
  split := by
    intro s t r hs
    cases s with
    | nil =>
      cases hs
      rfl
    | cons c rest =>
      rw [scanOptional] at hs
      split at hs
      · obtain ⟨p, hp, heq⟩ := map_eq_some_iff.mp hs
        cases heq
        rw [h.split hp, cons_append]
      · cases hs
        rfl
  again := by
    intro s t r hs r' hr'
    have hnone : scanOptional starts scan r' = some ([], r') := by
      cases r' with
      | nil => rfl
      | cons d r' =>
        have hd := ends_cons.mp hr'
        simp only [Bool.or_eq_false_iff, contains_eq_mem, decide_eq_false_iff_not] at hd
        rw [scanOptional, if_neg hd.2]
    cases s with
    | nil =>
      cases hs
      exact hnone
    | cons c rest =>
      rw [scanOptional] at hs
      split at hs
      next hc =>
        obtain ⟨p, hp, heq⟩ := map_eq_some_iff.mp hs
        cases heq
        have hstop : Ends stop r' := fun d hd => (Bool.or_eq_false_iff.mp (hr' d hd)).1
        rw [cons_append, scanOptional, if_pos hc, h.again hp r' hstop]
        rfl
      · cases hs
        exact hnone

/-- An optional part starts with one of its letters. -/
theorem scanOptional_ends {starts t r' : List Char}
    (h : scanOptional starts scan s = some (t, r)) (hstarts : ∀ c ∈ starts, stop c = false)
    (hr' : Ends stop r') : Ends stop (t ++ r') := by
  cases s with
  | nil =>
    cases h
    exact hr'
  | cons c rest =>
    rw [scanOptional] at h
    split at h
    next hc =>
      obtain ⟨p, hp, heq⟩ := map_eq_some_iff.mp h
      cases heq
      exact ends_cons.mpr (hstarts c hc)
    · cases h
      exact hr'

theorem Reads.andThen {stop₁ stop₂ : Char → Bool} (h₁ : Reads scan stop₁) (h₂ : Reads next stop₂)
    (hnext : ∀ {s t r r'}, next s = some (t, r) → Ends stop₂ r' → Ends stop₁ (t ++ r')) :
    Reads (scanThen scan next) stop₂ where
  split := by
    intro s t r hs
    obtain ⟨p, hp, hs⟩ := bind_eq_some_iff.mp hs
    obtain ⟨q, hq, heq⟩ := map_eq_some_iff.mp hs
    cases heq
    rw [h₁.split hp, h₂.split hq, append_assoc]
  again := by
    intro s t r hs r' hr'
    obtain ⟨p, hp, hs⟩ := bind_eq_some_iff.mp hs
    obtain ⟨q, hq, heq⟩ := map_eq_some_iff.mp hs
    cases heq
    have hscan := h₁.again hp (q.1 ++ r') (hnext hq hr')
    rw [scanThen, append_assoc, hscan, bind_some, h₂.again hq r' hr']
    rfl

theorem Consumes.andThen (h : Consumes scan) : Consumes (scanThen scan next) := by
  intro s t r hs
  obtain ⟨p, hp, hs⟩ := bind_eq_some_iff.mp hs
  obtain ⟨q, _, heq⟩ := map_eq_some_iff.mp hs
  cases heq
  exact fun hnil => h _ _ _ hp (append_eq_nil_iff.mp hnil).1

/-- A character with which a number may go on. -/
def isNumeral (c : Char) : Bool := c.isDigit || c = '.' || c = 'e' || c = 'E'

theorem Reads.mono (h : Reads scan stop)
    (hstop : ∀ c, stop' c = false → stop c = false) : Reads scan stop' where
  split := h.split
  again hs r' hr' := h.again hs r' fun c hc => hstop c (hr' c hc)

theorem ends_mono (hstop : ∀ c, stop' c = false → stop c = false)
    (h : Ends stop' r) : Ends stop r :=
  fun c hc => hstop c (h c hc)

theorem consumes_number : Consumes scanNumber :=
  ((consumes_integral.signed _).andThen).andThen

theorem reads_number : Reads scanNumber isNumeral := by
  have hdecimal := (reads_integral.signed consumes_integral ['-']).andThen
    (reads_digits1.optional ['.'])
    fun h hr' => scanOptional_ends h (forall_mem_singleton.mpr (by decide))
      (ends_mono (fun c hc => (Bool.or_eq_false_iff.mp hc).1) hr')
  have hexponent : Reads (scanOptional ['e', 'E'] (scanSigned ['+', '-'] scanDigits1)) isNumeral :=
    ((reads_digits1.signed consumes_digits1 _).optional _).mono fun c hc => by
      simp_all [isNumeral]
  refine hdecimal.andThen hexponent fun h hr' =>
    scanOptional_ends h (forall_mem_cons.mpr ⟨by decide, forall_mem_singleton.mpr
      (by decide)⟩) ?_
  exact ends_mono (fun c hc => by simp_all [isNumeral]) hr'

end Numbers

section Depth

mutual

/-- How deep a value nests. -/
def depth : Json → Nat
  | .array items => depthItems items + 1
  | .object members => depthMembers members + 1
  | _ => 0

/-- How deep the items of an array nest. -/
def depthItems : List Json → Nat
  | [] => 0
  | v :: rest => max v.depth (depthItems rest)

/-- How deep the members of an object nest. -/
def depthMembers : List (String × Json) → Nat
  | [] => 0
  | (_, v) :: rest => max v.depth (depthMembers rest)

end

theorem depthItems_le {n : Nat} : depthItems items ≤ n ↔ ∀ v ∈ items, v.depth ≤ n := by
  induction items with
  | nil => simp [depthItems]
  | cons v rest ih => simp [depthItems, ih]

theorem depthMembers_le {members : List (String × Json)} {n : Nat} :
    depthMembers members ≤ n ↔ ∀ m ∈ members, m.2.depth ≤ n := by
  induction members with
  | nil => simp [depthMembers]
  | cons m rest ih => simp [depthMembers, ih]

/-- The value has no integers and every number is the text of one: what a decoder reads. -/
inductive Plain : Json → Prop
  | null : Plain .null
  | bool (b : Bool) : Plain (.bool b)
  | number {text : String} (h : isNumberText text = true) : Plain (.number text)
  | string (s : String) : Plain (.string s)
  | array {items : List Json} (h : ∀ v ∈ items, Plain v) : Plain (.array items)
  | object {members : List (String × Json)} (h : ∀ m ∈ members, Plain m.2) :
      Plain (.object members)

theorem Plain.members {members : List (String × Json)} (h : Plain (.object members)) :
    ∀ m ∈ members, Plain m.2 := by
  cases h with
  | object h => exact h

end Depth

section Memory

theorem parseNumber_plain (h : parseNumber s = some (v, r)) : Plain v ∧ v.depth = 0 := by
  obtain ⟨p, hp, heq⟩ := map_eq_some_iff.mp h
  cases heq
  have hagain := reads_number.again hp [] nofun
  refine ⟨.number (decide_eq_true ?_), rfl⟩
  rw [String.toList_ofList]
  simpa using hagain

/-- What is read at one amount of fuel is plain and nests within the bound. -/
structure ParsesPlain (fuel : Nat) : Prop where
  value : ∀ {depth s v r}, parseValue fuel depth s = some (v, r) → Plain v ∧ v.depth ≤ depth
  items : ∀ {depth s items r}, parseItems fuel depth s = some (items, r) →
    ∀ v ∈ items, Plain v ∧ v.depth ≤ depth
  members : ∀ {depth s members r}, parseMembers fuel depth s = some (members, r) →
    ∀ m ∈ members, Plain m.2 ∧ m.2.depth ≤ depth

theorem parsesPlain_zero : ParsesPlain 0 where
  value h := by simp [parseValue] at h
  items h := by simp [parseItems] at h
  members h := by simp [parseMembers] at h

theorem ParsesPlain.items_succ {depth : Nat} (ih : ParsesPlain fuel)
    (h : parseItems (fuel + 1) depth s = some (items, r)) :
    ∀ v ∈ items, Plain v ∧ v.depth ≤ depth := by
  rw [parseItems] at h
  obtain ⟨p, hp, h⟩ := bind_eq_some_iff.mp h
  split at h
  · obtain ⟨q, hq, heq⟩ := map_eq_some_iff.mp h
    cases heq
    exact forall_mem_cons.mpr ⟨ih.value hp, ih.items hq⟩
  · cases h
    exact forall_mem_singleton.mpr (ih.value hp)
  · cases h

theorem ParsesPlain.members_succ {depth : Nat} (ih : ParsesPlain fuel)
    {members : List (String × Json)} (h : parseMembers (fuel + 1) depth s = some (members, r)) :
    ∀ m ∈ members, Plain m.2 ∧ m.2.depth ≤ depth := by
  rw [parseMembers] at h
  obtain ⟨k, _, h⟩ := bind_eq_some_iff.mp h
  obtain ⟨p, hp, h⟩ := bind_eq_some_iff.mp h
  split at h
  · obtain ⟨q, hq, heq⟩ := map_eq_some_iff.mp h
    cases heq
    exact forall_mem_cons.mpr ⟨ih.value hp, ih.members hq⟩
  · cases h
    exact forall_mem_singleton.mpr (ih.value hp)
  · cases h

theorem plain_array {depth : Nat} (hdepth : depth ≠ 0)
    (h : ∀ v ∈ items, Plain v ∧ v.depth ≤ depth - 1) :
    Plain (.array items) ∧ (Json.array items).depth ≤ depth := by
  have hitems := depthItems_le.mpr fun v hv => (h v hv).2
  refine ⟨.array fun v hv => (h v hv).1, ?_⟩
  rw [Json.depth]
  omega

theorem plain_object {members : List (String × Json)} {depth : Nat} (hdepth : depth ≠ 0)
    (h : ∀ m ∈ members, Plain m.2 ∧ m.2.depth ≤ depth - 1) :
    Plain (.object members) ∧ (Json.object members).depth ≤ depth := by
  have hmembers := depthMembers_le.mpr fun m hm => (h m hm).2
  refine ⟨.object fun m hm => (h m hm).1, ?_⟩
  rw [Json.depth]
  omega

theorem ParsesPlain.value_succ {depth : Nat} (ih : ParsesPlain fuel)
    (h : parseValue (fuel + 1) depth s = some (v, r)) : Plain v ∧ v.depth ≤ depth := by
  rw [parseValue] at h
  split at h
  · cases h
  · split_ifs at h with _ _ _ _ _ hdepth _ _ hdepth
    · obtain ⟨_, _, heq⟩ := map_eq_some_iff.mp h
      cases heq
      exact ⟨.null, Nat.zero_le _⟩
    · obtain ⟨_, _, heq⟩ := map_eq_some_iff.mp h
      cases heq
      exact ⟨.bool true, Nat.zero_le _⟩
    · obtain ⟨_, _, heq⟩ := map_eq_some_iff.mp h
      cases heq
      exact ⟨.bool false, Nat.zero_le _⟩
    · obtain ⟨p, _, heq⟩ := map_eq_some_iff.mp h
      cases heq
      exact ⟨.string p.1, Nat.zero_le _⟩
    · cases h
      exact plain_array hdepth fun v hv => absurd hv not_mem_nil
    · obtain ⟨p, hp, heq⟩ := map_eq_some_iff.mp h
      cases heq
      exact plain_array hdepth (ih.items hp)
    · cases h
      exact plain_object hdepth fun m hm => absurd hm not_mem_nil
    · obtain ⟨p, hp, heq⟩ := map_eq_some_iff.mp h
      cases heq
      exact plain_object hdepth (ih.members hp)
    · obtain ⟨hplain, hzero⟩ := parseNumber_plain h
      exact ⟨hplain, hzero ▸ Nat.zero_le _⟩

theorem parsesPlain (fuel : Nat) : ParsesPlain fuel := by
  induction fuel with
  | zero => exact parsesPlain_zero
  | succ fuel ih => exact ⟨ih.value_succ, ih.items_succ, ih.members_succ⟩

theorem toAnyItems_eq (items : List Json) : toAnyItems items = items.map toAny := by
  induction items with
  | nil => rfl
  | cons v rest ih => rw [toAnyItems, ih, map_cons]

theorem toAnyMembers_eq (members : List (String × Json)) :
    toAnyMembers members = members.map fun m => (m.1, m.2.toAny) := by
  induction members with
  | nil => rfl
  | cons m rest ih => rw [toAnyMembers, ih, map_cons]

theorem lastValues_sublist (members : List (String × Json)) :
    (lastValues members).Sublist members := by
  induction members with
  | nil => exact .slnil
  | cons m rest ih =>
    rw [lastValues]
    split
    · exact ih.cons m
    · exact ih.cons_cons m

theorem lastValues_nodup (members : List (String × Json)) :
    ((lastValues members).map Prod.fst).Nodup := by
  induction members with
  | nil => exact .nil
  | cons m rest ih =>
    rw [lastValues]
    split
    · exact ih
    next hm =>
      rw [map_cons, nodup_cons]
      exact ⟨fun h => hm (((lastValues_sublist rest).map Prod.fst).subset h), ih⟩

theorem lastValues_of_nodup {members : List (String × Json)}
    (h : (members.map Prod.fst).Nodup) : lastValues members = members := by
  induction members with
  | nil => rfl
  | cons m rest ih =>
    rw [map_cons, nodup_cons] at h
    rw [lastValues, if_neg h.1, ih h.2]

/-- A plain value is valid in memory. -/
theorem Plain.toAny_valid (h : Plain v) : v.toAny.valid = true := by
  induction h with
  | null | bool | string => rfl
  | number h => exact h
  | array _ ih =>
    rw [toAny, toAnyItems_eq, valid, validItems_iff]
    intro v hv
    obtain ⟨w, hw, rfl⟩ := mem_map.mp hv
    exact ih w hw
  | @object members _ ih =>
    rw [toAny, toAnyMembers_eq, valid, Bool.and_eq_true, decide_eq_true_eq, validMembers_iff]
    refine ⟨lastValues_nodup _, fun m hm => ?_⟩
    obtain ⟨m', hm', rfl⟩ := mem_map.mp ((lastValues_sublist _).subset hm)
    exact ih m' hm'

/-- A valid value stays as it is. -/
theorem toAny_of_valid (h : v.valid = true) : v.toAny = v := by
  induction v with
  | null | bool | number | int | string => rfl
  | array items ih =>
    have hitems := validItems_iff.mp h
    rw [toAny, toAnyItems_eq]
    have hsame := map_congr_left fun v hv => ih v hv (hitems v hv)
    exact congrArg Json.array (hsame.trans (map_id items))
  | object members ih =>
    rw [valid, Bool.and_eq_true, decide_eq_true_eq, validMembers_iff] at h
    have hsame : (members.map fun m => (m.1, m.2.toAny)) = members.map id :=
      map_congr_left fun m hm => by rw [ih m hm (h.2 m hm), id]
    rw [toAny, toAnyMembers_eq, hsame, List.map_id, lastValues_of_nodup h.1]

/-- A value nests no deeper in memory. -/
theorem toAny_depth_le (v : Json) : v.toAny.depth ≤ v.depth := by
  induction v with
  | null | bool | number | int | string => exact le_rfl
  | array items ih =>
    rw [toAny, toAnyItems_eq, depth, depth, Nat.add_le_add_iff_right, depthItems_le]
    intro v hv
    obtain ⟨w, hw, rfl⟩ := mem_map.mp hv
    exact (ih w hw).trans (depthItems_le.mp le_rfl w hw)
  | object members ih =>
    rw [toAny, toAnyMembers_eq, depth, depth, Nat.add_le_add_iff_right, depthMembers_le]
    intro m hm
    obtain ⟨m', hm', rfl⟩ := mem_map.mp ((lastValues_sublist _).subset hm)
    exact (ih m' hm').trans (depthMembers_le.mp le_rfl m' hm')

/-- How deep values may nest. -/
def maxNestingDepth : Nat := 10000

/-- What the next call of `Decode` finds. -/
inductive Next
  /-- A value, and what follows it. -/
  | value (v : Json) (plain : v.Plain) (rest : List Char)
  /-- `io.EOF`. -/
  | eof
  /-- A syntax error. -/
  | failed

/-- The next value of a decoder that has the text left. -/
def decodeNext (s : List Char) : Next :=
  if skipSpace s = [] then .eof
  else
    match h : parseValue (2 * s.length + 1) maxNestingDepth s with
    | some (v, rest) => .value v ((parsesPlain _).value h).1 rest
    | none => .failed

theorem decodeNext_eq (hs : skipSpace s ≠ [])
    (h : parseValue (2 * s.length + 1) maxNestingDepth s = some (v, r)) :
    decodeNext s = .value v ((parsesPlain _).value h).1 r := by
  unfold decodeNext
  rw [if_neg hs]
  split
  next heq =>
    rw [h] at heq
    cases heq
    rfl
  next heq =>
    rw [h] at heq
    cases heq

end Memory

end Rstream.Go.Json
