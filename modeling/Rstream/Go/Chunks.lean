import Mathlib.Data.List.Basic

/-!
# Reading in chunks

A connection delivers its bytes in chunks of any sizes and then an error; an error that comes
with the last bytes counts as one that comes after them. What is read does not depend on how
the bytes are cut.
-/

namespace Rstream.Go

open List

inductive ReadError
  | eof
  | unexpectedEOF
  | other (text : String)
  deriving DecidableEq, Repr

/-- A connection to be read: the bytes that each read can get, and the error after them. What
a read leaves of a chunk stays in front; for a `bufio.Reader` that is its buffer. -/
structure Chunks where
  chunks : List (List UInt8)
  err : ReadError
  deriving DecidableEq, Repr

namespace Chunks

/-- The bytes still to be read. -/
def unread (c : Chunks) : List UInt8 := c.chunks.flatten

/-- The loop of `io.ReadFull`, with `n` bytes to go. -/
def readFullLoop (err : ReadError) :
    List (List UInt8) → Nat → List UInt8 → Except ReadError (List UInt8) × List (List UInt8)
  | chunk :: chunks, n, got =>
    if n ≤ chunk.length then (.ok (got ++ chunk.take n), chunk.drop n :: chunks)
    else readFullLoop err chunks (n - chunk.length) (got ++ chunk)
  | [], n, got =>
    if n = 0 then (.ok got, [])
    else (.error (if got ≠ [] ∧ err = .eof then .unexpectedEOF else err), [])

/-- `io.ReadFull`. -/
def readFull (c : Chunks) (n : Nat) : Except ReadError (List UInt8) × Chunks :=
  let (result, chunks) := readFullLoop c.err c.chunks n []
  (result, { c with chunks })

end Chunks

end Rstream.Go
