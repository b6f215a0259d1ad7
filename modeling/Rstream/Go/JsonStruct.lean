import Rstream.Go.JsonDecoder

/-!
# Decoding JSON into structures

What `encoding/json` does below a structure: it looks for the field of a key without
regard to case, reads a number as an integer, and writes the items of an array into
the memory of a slice, where items of an earlier value may still stand.
-/

namespace Rstream.Go

/-- `strconv.ParseInt` in base 10 on the text of a number. -/
def parseInt64 (text : String) : Option Int :=
  let n : Option Int :=
    match text.toList with
    | '-' :: digits => (decimal? (String.ofList digits)).map fun n => -(n : Int)
    | _ => (decimal? text).map fun n => (n : Int)
  n.filter fun n => decide (-2 ^ 63 ≤ n ∧ n < 2 ^ 63)

/-- The case folding by which a key finds a field, as far as ASCII names can tell. -/
def foldRune (c : Char) : Char :=
  if c.toNat = 0x17f then 'S' else if c.toNat = 0x212a then 'K' else c.toUpper

/-- The key of a member finds the field of a name. -/
def findsField (name key : String) : Bool :=
  key.toList.map foldRune = name.toList.map foldRune

namespace Json

/-- A slice: its memory, and how much of it is in use. Beyond the memory there are zero values. -/
structure Slice (α : Type) where
  memory : List α
  len : Nat

namespace Slice

variable {α : Type}

/-- A slice without items. -/
def empty : Slice α := ⟨[], 0⟩

/-- A slice of new memory. -/
def ofList (items : List α) : Slice α := ⟨items, items.length⟩

/-- The items of a slice. -/
def items (s : Slice α) : List α := s.memory.take s.len

/-- Decode items one after another over the values that stand in the memory. -/
def decodeItems (zero : α) (decode : α → Json → Option α) : List α → List Json → Option (List α)
  | memory, [] => some memory
  | [], v :: rest =>
    (decode zero v).bind fun a => (decodeItems zero decode [] rest).map (a :: ·)
  | old :: memory, v :: rest =>
    (decode old v).bind fun a => (decodeItems zero decode memory rest).map (a :: ·)

/-- Decode a value into a slice: null and the empty array drop its memory. -/
def decode (zero : α) (decodeItem : α → Json → Option α) (s : Slice α) : Json → Option (Slice α)
  | .null => some empty
  | .array [] => some empty
  | .array values =>
    (decodeItems zero decodeItem s.memory values).map fun memory => ⟨memory, values.length⟩
  | _ => none

end Slice

/-- Decode a string; null changes nothing. -/
def decodeString (old : String) : Json → Option String
  | .null => some old
  | .string s => some s
  | _ => none

/-- Decode an integer; null changes nothing. -/
def decodeInt (old : Int) : Json → Option Int
  | .null => some old
  | .number text => parseInt64 text
  | _ => none

/-- Decode a byte; null changes nothing. -/
def decodeByte (old : UInt8) : Json → Option UInt8
  | .null => some old
  | .number text => ((decimal? text).filter (· < 256)).map UInt8.ofNat
  | _ => none

/-- Decode a 32-bit unsigned integer; null changes nothing. -/
def decodeUint32 (old : Nat) : Json → Option Nat
  | .null => some old
  | .number text => (decimal? text).filter (· < 2 ^ 32)
  | _ => none

/-- The value `json.Unmarshal` reads: one value and white space. -/
def unmarshal (raw : List UInt8) : Option Json :=
  let s := decodeText raw
  match parseValue (2 * s.length + 1) maxNestingDepth s with
  | some (v, rest) => if skipSpace rest = [] then some v else none
  | none => none

end Json

end Rstream.Go
