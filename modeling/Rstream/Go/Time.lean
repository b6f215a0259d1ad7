import Mathlib.Data.Int.Order.Basic
import Rstream.Go.Strings

/-!
# Instants and durations

An instant is a number of nanoseconds since 1970-01-01T00:00:00Z and a duration
a number of nanoseconds; only the duration between two instants has the bounded
range of the Go type.
-/

namespace Rstream.Go

/-- `time.Second`. -/
def second : Int := 1000000000

/-- The greatest Go duration. -/
def maxDuration : Int := 2 ^ 63 - 1

/-- The least Go duration. -/
def minDuration : Int := -2 ^ 63

/-- `t.Sub(u)`: the difference, clamped to the range of a duration. -/
def timeSub (t u : Int) : Int := max minDuration (min maxDuration (t - u))

/-- A clamped difference stays below a representable bound exactly when the difference does. -/
theorem timeSub_le_iff {t u d : Int} (hlow : minDuration ≤ d) (hhigh : d < maxDuration) :
    timeSub t u ≤ d ↔ t - u ≤ d := by
  unfold timeSub
  omega

/-- The value of a decimal digit. -/
def digit? (c : Char) : Option Nat := if c.isDigit then some (c.toNat - '0'.toNat) else none

/-- Exactly `n` decimal digits from the front of a text. -/
def digits? : Nat → List Char → Option (Nat × List Char)
  | 0, rest => some (0, rest)
  | n + 1, c :: rest => do
    let d ← digit? c
    let (value, rest) ← digits? n rest
    return (d * 10 ^ n + value, rest)
  | _ + 1, [] => none

/-- One given character from the front of a text. -/
def char? (c : Char) : List Char → Option (List Char)
  | d :: rest => if d = c then some rest else none
  | [] => none

/-- Leap years of the Gregorian calendar. -/
def isLeap (year : Nat) : Bool := year % 4 == 0 && (year % 100 != 0 || year % 400 == 0)

/-- The days of a month. -/
def daysIn (year month : Nat) : Nat :=
  match month with
  | 2 => if isLeap year then 29 else 28
  | 4 | 6 | 9 | 11 => 30
  | _ => 31

/-- Days from 1970-01-01 to a calendar date. -/
def daysSinceEpoch (year month day : Nat) : Int :=
  let before : Int := (year : Int) - 1
  let months := (List.range (month - 1)).map fun i => daysIn year (i + 1)
  365 * before + before / 4 - before / 100 + before / 400 + months.sum + (day - 1 : Int) - 719162

/-- Nanoseconds from a maximal series of fraction digits, truncated. -/
def fraction (digits : List Char) : Nat :=
  let nine := (digits ++ List.replicate 9 '0').take 9
  nine.foldl (fun acc c => 10 * acc + (digit? c).getD 0) 0

/-- The optional fraction after the seconds field. -/
def fraction? : List Char → Nat × List Char
  | sep :: c :: rest =>
    if (sep = '.' || sep = ',') && c.isDigit then
      let all := c :: rest
      (fraction (all.takeWhile Char.isDigit), all.dropWhile Char.isDigit)
    else (0, sep :: c :: rest)
  | rest => (0, rest)

/-- The hour field, of one or two digits. -/
def hour? (text : List Char) : Option (Nat × List Char) :=
  (digits? 2 text).or (digits? 1 text)

/-- The zone field: `Z` or a signed offset, in seconds east of UTC. -/
def zone? (text : List Char) : Option Int :=
  match text with
  | ['Z'] => some 0
  | sign :: rest => do
    let (hours, rest) ← digits? 2 rest
    let rest ← char? ':' rest
    let (minutes, rest) ← digits? 2 rest
    let offset : Int := (hours * 60 + minutes) * 60
    if rest ≠ [] ∨ 24 < hours ∨ 60 < minutes then none
    else if sign = '+' then some offset
    else if sign = '-' then some (-offset)
    else none
  | [] => none

/-- `time.Parse(time.RFC3339, text)`. -/
def parseRFC3339 (text : String) : Option Int := do
  let (year, rest) ← digits? 4 text.toList
  let rest ← char? '-' rest
  let (month, rest) ← digits? 2 rest
  let rest ← char? '-' rest
  let (day, rest) ← digits? 2 rest
  let rest ← char? 'T' rest
  let (hour, rest) ← hour? rest
  let rest ← char? ':' rest
  let (minute, rest) ← digits? 2 rest
  let rest ← char? ':' rest
  let (sec, rest) ← digits? 2 rest
  let (nanos, rest) := fraction? rest
  let offset ← zone? rest
  if month = 0 ∨ 12 < month ∨ day = 0 ∨ daysIn year month < day ∨ 24 ≤ hour ∨ 60 ≤ minute ∨
      60 ≤ sec then none
  else
    let seconds : Int := daysSinceEpoch year month day * 86400 + hour * 3600 + minute * 60 + sec
    return (seconds - offset) * second + nanos

/-- Two notations of one instant. -/
example : parseRFC3339 "2026-03-01T00:00:30Z" = parseRFC3339 "2026-03-01T02:00:30+02:00" ∧
    parseRFC3339 "2026-03-01T00:00:30Z" = some (1772323230 * second) := by decide

end Rstream.Go
