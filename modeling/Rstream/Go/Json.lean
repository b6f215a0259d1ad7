import Rstream.Go.Strings

/-!
# JSON

The dynamically typed values of `encoding/json` and their texts without white
space. Strings are written with the escapes that keep a text safe to embed in HTML,
and a number is kept as its text.
-/

namespace Rstream.Go

/-- A value of type `any` as JSON knows it: `number` is a `json.Number`, `int` an integer, and
the members of an object stand for a map. -/
inductive Json
  | null
  | bool (b : Bool)
  | number (text : String)
  | int (n : Int)
  | string (s : String)
  | array (items : List Json)
  | object (members : List (String × Json))

section Strings

/-- The escape of a character given by its code. -/
def unicodeEscape (c : Char) : List Char :=
  let digit := fun n => hexDigit (c.toNat / n % 16)
  ['\\', 'u', digit 4096, digit 256, digit 16, digit 1]

/-- A character inside a JSON string. -/
def quoteChar (c : Char) : List Char :=
  if c = '"' then ['\\', '"']
  else if c = '\\' then ['\\', '\\']
  else if c = '\n' then ['\\', 'n']
  else if c = '\r' then ['\\', 'r']
  else if c = '\t' then ['\\', 't']
  else if c.toNat = 8 then ['\\', 'b']
  else if c.toNat = 12 then ['\\', 'f']
  else if c.toNat < 32 ∨ c = '<' ∨ c = '>' ∨ c = '&' ∨ c.toNat = 0x2028 ∨ c.toNat = 0x2029 then
    unicodeEscape c
  else [c]

/-- The text of a JSON string. -/
def quoteChars (s : String) : List Char := '"' :: s.toList.flatMap quoteChar ++ ['"']

/-- `json.Marshal` of a string. -/
def quote (s : String) : String := String.ofList (quoteChars s)

/-- `json.Marshal` of a slice of strings. -/
def marshalStrings (strings : List String) : String :=
  "[" ++ String.intercalate "," (strings.map quote) ++ "]"

end Strings

section Numbers

/-- Read digits, as many as there are. -/
def scanDigits (s : List Char) : List Char × List Char :=
  (s.takeWhile Char.isDigit, s.dropWhile Char.isDigit)

/-- Read a non-empty sequence of digits. -/
def scanDigits1 (s : List Char) : Option (List Char × List Char) :=
  if (scanDigits s).1 = [] then none else some (scanDigits s)

/-- Read the integral part of a number, which has no leading zero. -/
def scanIntegral : List Char → Option (List Char × List Char)
  | '0' :: rest => some (['0'], rest)
  | s => scanDigits1 s

/-- Read an optional sign in front of a part of a number. -/
def scanSigned (signs : List Char) (scan : List Char → Option (List Char × List Char)) :
    List Char → Option (List Char × List Char)
  | [] => none
  | c :: rest =>
    if c ∈ signs then (scan rest).map fun p => (c :: p.1, p.2) else scan (c :: rest)

/-- Read an optional part of a number that starts with one of some letters. -/
def scanOptional (starts : List Char) (scan : List Char → Option (List Char × List Char)) :
    List Char → Option (List Char × List Char)
  | [] => some ([], [])
  | c :: rest =>
    if c ∈ starts then (scan rest).map fun p => (c :: p.1, p.2) else some ([], c :: rest)

/-- Read one part of a number after another. -/
def scanThen (scan next : List Char → Option (List Char × List Char)) (s : List Char) :
    Option (List Char × List Char) :=
  (scan s).bind fun p => (next p.2).map fun q => (p.1 ++ q.1, q.2)

/-- Read a number. -/
def scanNumber : List Char → Option (List Char × List Char) :=
  scanThen (scanThen (scanSigned ['-'] scanIntegral) (scanOptional ['.'] scanDigits1))
    (scanOptional ['e', 'E'] (scanSigned ['+', '-'] scanDigits1))

end Numbers

namespace Json

/-- Induction over the values inside a value. -/
@[induction_eliminator]
theorem induction {motive : Json → Prop} (null : motive .null) (bool : ∀ b, motive (.bool b))
    (number : ∀ text, motive (.number text)) (int : ∀ n, motive (.int n))
    (string : ∀ s, motive (.string s))
    (array : ∀ items, (∀ v ∈ items, motive v) → motive (.array items))
    (object : ∀ members, (∀ m ∈ members, motive m.2) → motive (.object members)) : ∀ v, motive v :=
  @Json.rec motive (fun items => ∀ v ∈ items, motive v)
    (fun members => ∀ m ∈ members, motive m.2) (fun m => motive m.2)
    null bool number int string array object
    (fun _ hv => absurd hv List.not_mem_nil)
    (fun _ _ hhead htail => List.forall_mem_cons.mpr ⟨hhead, htail⟩)
    (fun _ hm => absurd hm List.not_mem_nil)
    (fun _ _ hhead htail => List.forall_mem_cons.mpr ⟨hhead, htail⟩)
    (fun _ _ hv => hv)

section Maps

def isNumberText (text : String) : Bool := scanNumber text.toList = some (text.toList, [])

mutual

/-- What every value in memory keeps to: a map has each key once, and a number its text. -/
def valid : Json → Bool
  | .number text => isNumberText text
  | .array items => validItems items
  | .object members => decide (members.map Prod.fst).Nodup && validMembers members
  | _ => true

/-- The items of an array are valid. -/
def validItems : List Json → Bool
  | [] => true
  | v :: rest => v.valid && validItems rest

/-- The values of a map are valid. -/
def validMembers : List (String × Json) → Bool
  | [] => true
  | (_, v) :: rest => v.valid && validMembers rest

end

theorem validItems_iff {items : List Json} :
    validItems items = true ↔ ∀ v ∈ items, v.valid = true := by
  induction items with
  | nil => simp [validItems]
  | cons v rest ih => simp [validItems, ih]

theorem validMembers_iff {members : List (String × Json)} :
    validMembers members = true ↔ ∀ m ∈ members, m.2.valid = true := by
  induction members with
  | nil => simp [validMembers]
  | cons m rest ih => simp [validMembers, ih]

end Maps

section Text

mutual

/-- The text of a value, without white space. -/
def render : Json → List Char
  | .null => ['n', 'u', 'l', 'l']
  | .bool true => ['t', 'r', 'u', 'e']
  | .bool false => ['f', 'a', 'l', 's', 'e']
  | .number text => text.toList
  | .int n => (toString n).toList
  | .string s => quoteChars s
  | .array items => '[' :: (renderItems items ++ [']'])
  | .object members => '{' :: (renderMembers members ++ ['}'])

/-- The items of an array. -/
def renderItems : List Json → List Char
  | [] => []
  | [v] => v.render
  | v :: w :: rest => v.render ++ ',' :: renderItems (w :: rest)

/-- The members of an object. -/
def renderMembers : List (String × Json) → List Char
  | [] => []
  | [(key, v)] => quoteChars key ++ ':' :: v.render
  | (key, v) :: m :: rest => quoteChars key ++ ':' :: v.render ++ ',' :: renderMembers (m :: rest)

end

end Text

end Json

/-- A `map[string]any`. -/
structure Object where
  members : List (String × Json)
  valid : (Json.object members).valid = true

namespace Object

variable (o : Object)

theorem nodup : (o.members.map Prod.fst).Nodup := by
  have h := o.valid
  simp only [Json.valid, Bool.and_eq_true, decide_eq_true_eq] at h
  exact h.1

/-- The value of a key. -/
def get? (key : String) : Option Json := o.members.lookup key

theorem get?_eq_some {key : String} {v : Json} : o.get? key = some v ↔ (key, v) ∈ o.members := by
  have hnodup := o.nodup
  unfold get?
  generalize o.members = members at hnodup ⊢
  induction members with
  | nil => simp
  | cons m rest ih =>
    obtain ⟨k, w⟩ := m
    simp only [List.map_cons, List.nodup_cons] at hnodup
    by_cases hk : key = k
    · subst hk
      simp only [List.lookup_cons_self, Option.some.injEq, List.mem_cons, Prod.mk.injEq, true_and]
      refine ⟨fun h => .inl h.symm, fun h => ?_⟩
      rcases h with rfl | h
      · rfl
      · exact absurd (List.mem_map_of_mem h) hnodup.1
    · rw [List.lookup_cons, beq_false_of_ne hk]
      simp [ih hnodup.2, hk]

/-- The members of a map are valid. -/
theorem valid_of_get? {key : String} {v : Json} (h : o.get? key = some v) : v.valid = true := by
  have hvalid := o.valid
  rw [Json.valid, Bool.and_eq_true, Json.validMembers_iff] at hvalid
  exact hvalid.2 _ (o.get?_eq_some.mp h)

end Object

end Rstream.Go
