import Rstream.Go.Errors
import Rstream.Go.Json
import Rstream.Go.Utf8

/-!
# Upload receipts

The values of `filesystem/receipts.go` and `filesystem/atomic_upload.go`: the
record of one upload attempt, the request that starts it and the body it receives.
A file identity stands for the text of its device and inode.
-/

namespace Rstream.Filesystem

open Go

/-- A byte slice. -/
abbrev Bytes := List UInt8

/-- A path below the root of the export, by its components. -/
abbrev Path := List Bytes

def uploadPrefix : String := ".rstream-upload-"

/-- The base name of the path starts with the prefix of staging files. -/
def isStaging (p : Path) : Bool :=
  match p.getLast? with
  | some base => (utf8 uploadPrefix).isPrefixOf base
  | none => false

/-- A path as it is read back from a journal file. -/
def journaled (p : Path) : Path := p.map coerceUTF8

/-- A path as it is passed to the operating system. -/
def joined (p : Path) : Bytes :=
  if p = [] then utf8 "." else (p.intersperse (utf8 "/")).flatten

/-- A path as text. -/
def slashed (p : Path) : String :=
  if p = [] then "." else String.intercalate "/" (p.map lossyString)

/-- The leaf errors of the package. -/
inductive Failure
  | notExist
  | permission
  | noSpace
  | quota
  | receiptCapacity
  | text (msg : String)
  deriving DecidableEq, Repr

/-- An error of the package. -/
abbrev Error := Go.Err Failure

/-- `errors.New`. -/
def newError (msg : String) : Error := .leaf (.text msg)

/-- `os.IsNotExist`, which does not look into wrapped errors. -/
def isNotExist (err : Error) : Bool := err = .leaf .notExist

/-- The states of an upload attempt. -/
inductive UploadState
  | receiving
  | prepared
  | committed
  | rejected
  | interrupted
  | uncertain
  deriving DecidableEq, Repr

/-- The attempt is over. -/
def UploadState.isTerminal : UploadState → Bool
  | .receiving => false
  | .prepared => false
  | _ => true

structure UploadReceipt where
  id : String
  path : Path
  state : UploadState
  status : Nat
  size : String
  sha256 : String
  revision : String
  startedAt : String
  completedAt : String
  deriving DecidableEq, Repr

/-- `receiptRecord`. -/
structure Record extends UploadReceipt where
  fingerprint : String
  target : Path
  temporary : Option Path
  fileIdentity : Option Nat
  deriving DecidableEq, Repr

/-- The functions of other packages, and the size of the JSON text of a record. -/
structure Primitives where
  /-- `sha256.Sum256`. -/
  sha256 : Bytes → Bytes
  /-- `base64.StdEncoding.DecodeString`. -/
  decodeBase64 : String → Option Bytes
  /-- The journal file of the record is not larger than 16 KiB. -/
  fits : Record → Bool

variable (P : Primitives)

/-- `receiptName`, within the receipt directory. -/
def receiptName (id : String) : String := hex (P.sha256 (utf8 id)) ++ ".json"

/-- A character of an upload id. -/
def isUploadIDChar (c : Char) : Bool :=
  ('a' ≤ c && c ≤ 'z') || ('A' ≤ c && c ≤ 'Z') || ('0' ≤ c && c ≤ '9') || c = '-' || c = '_'

def validUploadID (id : String) : Bool :=
  16 ≤ (utf8 id).length && (utf8 id).length ≤ 128 && id.toList.all isUploadIDChar

/-- A request that may change the export. -/
structure Request where
  /-- The method is PUT. -/
  put : Bool
  /-- The path lies below the prefix of the handler. -/
  underPrefix : Bool
  /-- The rest of the path. -/
  name : Bytes
  uploadID : String
  uploadLength : String
  contentDigest : String
  ifMatch : String
  ifNoneMatch : String
  contentLength : Int

/-- `uploadBody`, without the stream it reads from. -/
structure UploadBody where
  expectedHash : Option Bytes
  expectedSize : Int
  /-- The bytes read so far, which are the ones hashed. -/
  data : Bytes
  complete : Bool
  /-- The read error, and whether the body exceeded its size limit. -/
  err : Option Bool
  status : Nat
  effectCommitted : Bool
  deriving DecidableEq, Repr

/-- The text between the delimiters of a `Content-Digest`; `none` when they overlap and the
slice expression panics. -/
def digestText (digest : String) : Option String :=
  if digest.length < 10 then none
  else some (String.ofList ((digest.toList.drop 9).dropLast))

/-- `newUploadBody`, with the text of its error; `none` stands for the panic of its slice
expression. -/
def newUploadBody (r : Request) : Option (Except String UploadBody) :=
  let body := fun hash : Option Bytes =>
    (⟨hash, r.contentLength, [], false, none, 0, false⟩ : UploadBody)
  if r.contentDigest = "" then some (.ok (body none))
  else if !(hasPrefix r.contentDigest "sha-256=:" && hasSuffix r.contentDigest ":") then
    some (.error "Content-Digest must contain one sha-256 byte sequence")
  else
    match digestText r.contentDigest with
    | none => none
    | some text =>
      match P.decodeBase64 text with
      | some hash =>
        if hash.length = 32 then some (.ok (body (some hash)))
        else some (.error "invalid sha-256 Content-Digest")
      | none => some (.error "invalid sha-256 Content-Digest")

/-- How a read of the request body ends. -/
inductive ReadEnd
  | more
  | eof
  | failed (tooLarge : Bool)
  deriving DecidableEq, Repr

/-- One round of the copy of the request body. -/
structure Chunk where
  /-- The request is cancelled before the read. -/
  cancelled : Bool
  data : Bytes
  result : ReadEnd
  /-- The number of bytes that reach the file when the write fails. -/
  short : Option Nat
  deriving DecidableEq, Repr

/-- `uploadBody.Read`. -/
def UploadBody.read (b : UploadBody) (c : Chunk) : UploadBody :=
  if c.cancelled then { b with err := some false }
  else
    match c.result with
    | .more => { b with data := b.data ++ c.data }
    | .eof => { b with data := b.data ++ c.data, complete := true }
    | .failed tooLarge => { b with data := b.data ++ c.data, err := some tooLarge }

/-- The bytes of a round that reach the file. -/
def Chunk.written (c : Chunk) : Bytes :=
  if c.cancelled then []
  else
    match c.short with
    | some n => c.data.take n
    | none => c.data

/-- The write of a round fails; nothing is written when nothing was read. -/
def Chunk.writeFails (c : Chunk) : Bool := !c.cancelled && c.data ≠ [] && c.short.isSome

/-- The copy ends with this round. -/
def Chunk.last (c : Chunk) : Bool := c.cancelled || c.result ≠ .more || c.writeFails

/-- `uploadBody.validate`: the status of the failure. -/
def UploadBody.validate (b : UploadBody) (cancelled : Bool) : Option Nat :=
  if cancelled then some 408
  else
    match b.err with
    | some tooLarge => some (if tooLarge then 413 else 400)
    | none =>
      if b.complete = false ∨ 0 ≤ b.expectedSize ∧ (b.data.length : Int) ≠ b.expectedSize then
        some 400
      else
        match b.expectedHash with
        | some hash => if hash ≠ P.sha256 b.data then some 422 else none
        | none => none

/-- The length in `Upload-Length`: a canonical decimal number of 63 bits. -/
def parseUploadLength (size : String) : Option Nat :=
  match decimal? size with
  | some n => if n < 2 ^ 63 ∧ toString n = size then some n else none
  | none => none

/-- The fingerprint of the exact conditional request. -/
def fingerprint (r : Request) (path : Path) (hash : Bytes) : String :=
  hex (P.sha256 (utf8 (marshalStrings
    ["PUT", slashed path, r.uploadLength, hex hash, r.ifMatch, r.ifNoneMatch])))

/-- `newReceipt`; `lexical` is the path policy of the server and `now` the current time. -/
def newReceipt (lexical : Bytes → Except Error Path) (r : Request) (body : UploadBody)
    (now : String) : Except Error (Record × UploadBody) :=
  match validUploadID r.uploadID, body.expectedHash with
  | true, some hash =>
    match parseUploadLength r.uploadLength with
    | none => .error (newError "Upload-Length must match the complete content length")
    | some n =>
      if 0 ≤ r.contentLength ∧ (n : Int) ≠ r.contentLength then
        .error (newError "Upload-Length must match the complete content length")
      else
        match lexical r.name with
        | .error err => .error err
        | .ok path =>
          .ok ({ id := r.uploadID, path, state := .receiving, status := 0
                 size := r.uploadLength, sha256 := hex hash, revision := ""
                 startedAt := now, completedAt := ""
                 fingerprint := fingerprint P r path hash, target := [], temporary := none
                 fileIdentity := none },
            { body with expectedSize := n })
  | _, _ => .error (newError "Upload-Id and SHA-256 Content-Digest are required")

/-- What a read of a journal file finds in it. -/
def decodeRecord (r : Record) : Except Error Record :=
  if !P.fits r then .error (.leaf .permission)
  else if validUploadID r.id && r.fingerprint.length = 64 then
    .ok { r with
      path := journaled r.path
      target := journaled r.target
      temporary := r.temporary.map journaled }
  else .error (newError "invalid upload journal")

/-- The revision text of a digest. -/
def revisionOf (digest : String) : String := "\"sha256-" ++ digest ++ "\""

/-- The record `completeReceipt` writes. -/
def Record.complete (r : Record) (state : UploadState) (status : Nat) (now : String) : Record :=
  { r with
    state
    status
    completedAt := now
    revision := if state = .committed then revisionOf r.sha256 else r.revision }

end Rstream.Filesystem
