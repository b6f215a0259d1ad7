import Mathlib.Data.List.AList
import Rstream.Core.Program
import Rstream.Filesystem.Receipt

/-!
# An exported directory and its journal

The state shared by all server processes of one export: the directory tree, the
upload journal, the mutation lock and the responses given so far. Every action on
the disk is atomic and persists. A journal write replaces its file by a rename, so
it can fail before the rename or, when the directory is not synchronised, after it.
-/

variable (P : Primitives)

namespace Rstream.Filesystem

open Rstream.Core Go Function

/-- A rename of the staging file of an upload over its target. -/
structure Replacement where
  id : String
  target : Path
  content : Bytes
  deriving DecidableEq, Repr

/-- The tree and the journal. -/
structure Disk where
  /-- The file each entry of the tree stands for. -/
  entries : AList fun _ : Path => Nat
  /-- The content of the regular files. -/
  content : Nat → Bytes
  /-- The pending record. -/
  pending : Option Record
  /-- The receipt directory. -/
  receipts : AList fun _ : String => Record
  /-- The replacements made by durable uploads, the latest first. -/
  replaced : List Replacement

/-- What a client is told. -/
inductive Response
  /-- `writeUploadReceipt`. -/
  | receipt (r : UploadReceipt)
  /-- `http.Error` and `http.NotFound`. -/
  | error (status : Nat) (msg : String)
  /-- The response of the WebDAV handler. -/
  | webdav
  /-- The handler panics and the connection is dropped. -/
  | dropped
  deriving DecidableEq, Repr

/-- A response to a durable upload or to a receipt lookup. -/
inductive Observation
  | put (id : String) (response : Response)
  | lookup (id : String) (response : Response)
  deriving DecidableEq, Repr

/-- A server process and one of its request handlers. -/
abbrev Worker := Nat × Nat

/-- The shared state. -/
structure Export where
  /-- The handler admitted by the `mutations` channel of each process. -/
  mutations : Nat → Option Nat
  /-- The owner of the mutation lock. -/
  lock : Option Worker
  disk : Disk
  /-- The responses so far, the latest first. -/
  observed : List Observation

/-- An export whose journal has not been used. -/
def newExport (entries : AList fun _ : Path => Nat) (content : Nat → Bytes) : Export where
  mutations _ := none
  lock := none
  disk := ⟨entries, content, none, ∅, []⟩
  observed := []

/-- Code that acts on an export. -/
abbrev Prog := Program Export

namespace Prog

/-- An action on the disk whose outcome the environment chooses. -/
def onDisk {ι β : Type} (step : Disk → ι → Option (β × Disk)) : Prog β :=
  .choose fun s i => (step s.disk i).map fun r => (r.1, { s with disk := r.2 })

/-- Record a response. -/
def respond (o : Observation) : Prog Unit :=
  .atomic fun s => ((), { s with observed := o :: s.observed })

/-- A call of another package or of the operating system that may fail. -/
def external : Prog (Except Error Unit) := .receive (Except Error Unit)

/-- Take the token of the `mutations` channel, or give up when the request is cancelled. -/
def takeToken (w : Worker) : Prog Bool :=
  .choose fun s (cancelled : Bool) =>
    if cancelled then some (false, s)
    else if s.mutations w.1 = none then
      some (true, { s with mutations := update s.mutations w.1 (some w.2) })
    else none

/-- Give the token back. -/
def returnToken (w : Worker) : Prog Unit :=
  .atomic fun s => ((), { s with mutations := update s.mutations w.1 none })

/-- `lockMutation`: wait for the lock until it is free, fails or the request is cancelled. -/
def lockMutation (w : Worker) : Prog (Except Error Unit) :=
  .choose fun s (fault : Option Error) =>
    match fault with
    | some err => some (.error err, s)
    | none => if s.lock = none then some (.ok (), { s with lock := some w }) else none

def tryMutationLock (w : Worker) : Prog (Except Error Bool) :=
  .choose fun s (fault : Option Error) =>
    match fault with
    | some err => some (.error err, s)
    | none =>
      if s.lock = none then some (.ok true, { s with lock := some w }) else some (.ok false, s)

def unlockMutation : Prog Unit := .atomic fun s => ((), { s with lock := none })

/-- What a journal file holds; a fault never pretends that an existing file is missing. -/
def readReceiptFile (file : Disk → Option Record) : Prog (Except Error Record) :=
  .choose fun s (fault : Option Error) =>
    match fault with
    | some err => if isNotExist err then none else some (.error err, s)
    | none =>
      match file s.disk with
      | some r => some (decodeRecord P r, s)
      | none => some (.error (.leaf .notExist), s)

/-- Read the pending record. -/
def readPending : Prog (Except Error Record) := readReceiptFile P Disk.pending

/-- Read the receipt of an upload id. -/
def readReceipt (id : String) : Prog (Except Error Record) :=
  readReceiptFile P fun d => d.receipts.lookup (receiptName P id)

/-- How a journal write ends. -/
inductive WriteOutcome
  | failed (err : Error)
  | written
  | unsynced (err : Error)

def writeJournalFile (store : Disk → Disk) : Prog (Except Error Unit) :=
  onDisk fun d outcome =>
    match outcome with
    | WriteOutcome.failed err => some (.error err, d)
    | .written => some (.ok (), store d)
    | .unsynced err => some (.error err, store d)

/-- Write the pending record. -/
def writePending (r : Record) : Prog (Except Error Unit) :=
  writeJournalFile fun d => { d with pending := some r }

/-- Write the receipt of an upload id. -/
def writeReceipt (r : Record) : Prog (Except Error Unit) :=
  writeJournalFile fun d => { d with receipts := d.receipts.insert (receiptName P r.id) r }

/-- `journal.Remove` of the pending record. -/
def removePending : Prog (Except Error Unit) :=
  onDisk fun d (fault : Option Error) =>
    match fault, d.pending with
    | some err, _ => if isNotExist err then none else some (.error err, d)
    | none, some _ => some (.ok (), { d with pending := none })
    | none, none => some (.error (.leaf .notExist), d)

/-- `root.Remove`. -/
def remove (p : Path) : Prog (Except Error Unit) :=
  onDisk fun d (fault : Option Error) =>
    match fault, d.entries.lookup p with
    | some err, _ => if isNotExist err then none else some (.error err, d)
    | none, some _ => some (.ok (), { d with entries := d.entries.erase p })
    | none, none => some (.error (.leaf .notExist), d)

/-- `root.Lstat`. -/
def lstat (p : Path) : Prog (Except Error Unit) :=
  .choose fun s (fault : Option Error) =>
    match fault, s.disk.entries.lookup p with
    | some err, _ => if isNotExist err then none else some (.error err, s)
    | none, some _ => some (.ok (), s)
    | none, none => some (.error (.leaf .notExist), s)

/-- `root.OpenFile` for reading: the file reached. A link on the way may lead to another
path, but not to a staging file, whose name is random. -/
def openFile (p : Path) : Prog (Except Error Nat) :=
  .choose fun s (outcome : Except Error Path) =>
    match outcome with
    | .error err => if isNotExist err then none else some (.error err, s)
    | .ok reached =>
      if reached ≠ p ∧ isStaging reached = true then none
      else
        match s.disk.entries.lookup reached with
        | some i => some (.ok i, s)
        | none => some (.error (.leaf .notExist), s)

/-- `root.Rename` of a staging file; a durable upload is noted with its id. -/
def rename (id : Option String) (source target : Path) : Prog (Except Error Unit) :=
  onDisk fun d (fault : Option Error) =>
    match fault, d.entries.lookup source with
    | some err, _ => some (.error err, d)
    | none, some i =>
      some (.ok (), { d with
        entries := (d.entries.erase source).insert target i
        replaced := (id.map fun id => ⟨id, target, d.content i⟩).toList ++ d.replaced })
    | none, none => some (.error (.leaf .notExist), d)

/-- `f.resolve`: the policy allows the result, so it is not the name of a staging file. -/
def resolve : Prog (Except Error Path) :=
  .choose fun s (outcome : Except Error Path) =>
    match outcome with
    | .ok p => if isStaging p then none else some (.ok p, s)
    | .error err => some (.error err, s)

/-- `f.resolve` of an existing path, else of a path to create. -/
def resolveTarget : Prog (Except Error Path) := do
  match ← resolve with
  | .ok p => pure (.ok p)
  | .error err => if isNotExist err then resolve else pure (.error err)

/-- A character of `rand.Text`. -/
def isRandChar (b : UInt8) : Bool := (65 ≤ b && b ≤ 90) || (50 ≤ b && b ≤ 55)

/-- The base name of a staging file. -/
def stagingName (text : Bytes) : Bytes := utf8 uploadPrefix ++ text

/-- Create a staging file beside the target. Its random name is new in the whole tree, and
so is its inode. -/
def createStaging (target : Path) : Prog (Except Error (Path × Nat)) :=
  onDisk fun d (outcome : Except Error (Bytes × Nat)) =>
    match outcome with
    | .error err => some (.error err, d)
    | .ok (text, i) =>
      if text.all isRandChar = true ∧
          (∀ e ∈ d.entries.entries, e.1.getLast? ≠ some (stagingName text) ∧ e.2 ≠ i) then
        some (.ok (target.dropLast ++ [stagingName text], i), { d with
          entries := d.entries.insert (target.dropLast ++ [stagingName text]) i
          content := update d.content i [] })
      else none

/-- Append to a file. -/
def append (i : Nat) (data : Bytes) : Prog Unit :=
  onDisk fun d (_ : Unit) =>
    some ((), { d with content := update d.content i (d.content i ++ data) })

/-- The effect on the tree of a request without an upload id. -/
def changeTree : Prog Unit :=
  onDisk fun d (tree : (AList fun _ : Path => Nat) × (Nat → Bytes)) =>
    some ((), { d with entries := tree.1, content := tree.2 })

end Prog

end Rstream.Filesystem
