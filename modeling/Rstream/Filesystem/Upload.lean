import Rstream.Filesystem.Export

/-!
# Serving uploads

The request handlers of `filesystem/preconditions.go` and `filesystem/receipts.go`,
and the staged upload of `filesystem/atomic_upload.go`, as programs over the
export. The WebDAV handler in between is given by the calls it makes.
-/

namespace Rstream.Filesystem

open Rstream.Core Go

def receiptLimit : Nat := 4096

/-- `http.NotFound`. -/
def Response.notFound : Response := .error 404 "404 page not found"

def journalError (err : Error) : Response :=
  if err.is (· = .receiptCapacity) || err.is (· = .noSpace) || err.is (· = .quota) then
    .error 507 "Upload journal capacity exhausted"
  else if err.is (· = .permission) then .error 503 "Upload journal is not writable"
  else .error 503 "Upload journal unavailable"

/-- `http.StatusText` of the statuses a precondition can give. -/
def statusText : Nat → String
  | 400 => "Bad Request"
  | 403 => "Forbidden"
  | 412 => "Precondition Failed"
  | 503 => "Service Unavailable"
  | _ => ""

/-- The policy of one server process: whether it is read-only, and the paths it allows. -/
structure Local where
  readOnly : Bool
  lexical : Bytes → Except Error Path

/-- The body of an upload and its receipt, if it is durable. -/
structure Upload where
  body : UploadBody
  receipt : Option Record

/-- Set the status of the body. -/
def Upload.withStatus (u : Upload) (status : Nat) : Upload :=
  { u with body := { u.body with status } }

/-- The status of the captured response, where that of the body takes precedence. -/
def capturedStatus (body : UploadBody) : Option Nat → Nat
  | none => 500
  | some status =>
    if body.status ≠ 0 then body.status else if status = 0 then 500 else status

namespace Prog

variable (P : Primitives)

/-- `completeReceipt`, with the record as it leaves it. -/
def completeReceipt (record : Record) (state : UploadState) (status : Nat) :
    Prog (Record × Except Error Unit) := do
  let now ← .receive String
  let record := record.complete state status now
  match ← writeReceipt P record with
  | .error err => pure (record, .error err)
  | .ok () =>
    match ← removePending with
    | .ok () => do
      let synced ← external
      pure (record, synced)
    | .error err =>
      if isNotExist err then do
        let synced ← external
        pure (record, synced)
      else pure (record, .error err)

/-- The end of a recovery. -/
def settle (record : Record) (state : UploadState) (status : Nat) : Prog (Except Error Unit) := do
  let completed ← completeReceipt P record state status
  pure completed.2

/-- Recovery after the staging file is gone: was it renamed over the target? -/
def inferCommit (record : Record) : Prog (Except Error Unit) := do
  match ← openFile record.target with
  | .error err => if isNotExist err then settle P record .uncertain 503 else pure (.error err)
  | .ok i =>
    -- The checks of the opened file that end the recovery.
    match ← external with
    | .error err => pure (.error err)
    | .ok () => do
      let content ← .inspect fun s : Export => s.disk.content i
      let identified ← .receive Bool
      if identified = true ∧ record.fileIdentity = some i ∧
          revisionOf (hex (P.sha256 content)) = revisionOf record.sha256 ∧
          toString content.length = record.size then
        match ← external with
        | .error err => pure (.error err)
        | .ok () => settle P record .committed 201
      else settle P record .uncertain 503

/-- Recovery of an attempt whose body was still being received. -/
def recoverReceiving (record : Record) : Prog (Except Error Unit) :=
  match record.temporary with
  | none => settle P record .interrupted 408
  | some temporary => do
    match ← remove temporary with
    | .ok () => settle P record .interrupted 408
    | .error err =>
      if isNotExist err then settle P record .interrupted 408 else pure (.error err)

/-- Recovery of an attempt that was about to rename its staging file. -/
def recoverPrepared (record : Record) : Prog (Except Error Unit) :=
  match record.temporary with
  | none => pure (.error (newError "invalid prepared upload"))
  | some temporary => do
    match ← lstat temporary with
    | .ok () =>
      match ← remove temporary with
      | .ok () => settle P record .interrupted 408
      | .error err => pure (.error err)
    | .error err => if isNotExist err then inferCommit P record else pure (.error err)

/-- Recovery of an attempt that has no receipt yet. -/
def recoverAttempt (record : Record) : Prog (Except Error Unit) :=
  if record.temporary.any fun temporary => !isStaging temporary then
    pure (.error (newError "invalid upload staging name"))
  else
    match record.state with
    | .receiving => recoverReceiving P record
    | .prepared => recoverPrepared P record
    | _ => pure (.error (newError "unknown upload journal state"))

def recoverReceipt : Prog (Except Error Unit) := do
  match ← readPending P with
  | .error err => pure (if isNotExist err then .ok () else .error err)
  | .ok record =>
    match ← readReceipt P record.id with
    | .ok terminal =>
      if terminal.fingerprint ≠ record.fingerprint then
        pure (.error (newError "upload journal identity mismatch"))
      else
        match ← removePending with
        | .error err => pure (.error err)
        | .ok () => external
    | .error err => if isNotExist err then recoverAttempt P record else pure (.error err)

/-- `beginReceipt`: the checks of the receipt directory, then the pending record. -/
def beginReceipt (record : Record) : Prog (Except Error Record) := do
  match ← resolveTarget with
  | .error err => pure (.error err)
  | .ok target =>
    match ← external with
    | .error err => pure (.error err)
    | .ok () => do
      let receipts ← .inspect fun s : Export => s.disk.receipts.entries.length
      -- Files of interrupted journal writes count as well.
      let leftovers ← .receive Nat
      if receiptLimit ≤ receipts + leftovers then pure (.error (.leaf .receiptCapacity))
      else
        match ← external with
        | .error err => pure (.error err)
        | .ok () => do
          let written ← writePending { record with target }
          pure (written.map fun _ => { record with target })

/-- Write the pending record of a durable upload. -/
def journal : Option Record → Prog (Except Error Unit)
  | none => pure (.ok ())
  | some record => writePending record

/-- `atomicWebDAV.OpenFile`: the target, the staging file and its inode. -/
def openUpload (u : Upload) : Prog (Upload × Option (Path × Path × Nat)) := do
  match ← external with
  | .error _ => pure (u, none)
  | .ok () =>
    match ← resolveTarget with
    | .error _ => pure (u, none)
    | .ok target =>
      -- The checks of the existing target.
      match ← external with
      | .error _ => pure (u, none)
      | .ok () =>
        match ← createStaging target with
        | .error _ => pure (u, none)
        | .ok (temporary, i) =>
          match ← external with
          | .error _ => do
            let _ ← remove temporary
            pure (u, none)
          | .ok () => do
            let u := { u with
              receipt := u.receipt.map fun r => { r with temporary := some temporary } }
            match ← journal u.receipt with
            | .error _ => do
              let _ ← remove temporary
              pure (u.withStatus 503, none)
            | .ok () => pure (u, some (target, temporary, i))

/-- `io.Copy` of the body into the staging file, and whether a write failed. -/
def copy (i : Nat) : List Chunk → UploadBody → Prog (UploadBody × Bool)
  | [], body => pure (body, false)
  | c :: rest, body => do
    append i c.written
    if c.last then pure (body.read c, c.writeFails) else copy i rest (body.read c)

/-- A failure of `atomicUpload.Close`. -/
def discard (u : Upload) (temporary : Path) (status : Nat) : Prog Upload := do
  let _ ← remove temporary
  pure (u.withStatus status)

/-- `atomicUpload.Close` after the rename. -/
def finish (u : Upload) : Prog Upload :=
  let u := { u with body := { u.body with effectCommitted := true } }
  match u.receipt with
  | none => pure u
  | some record => do
    match ← external with
    | .error _ => pure (u.withStatus 503)
    | .ok () => do
      let completed ← completeReceipt P record .committed 201
      match completed.2 with
      | .error _ => pure ({ u with receipt := some completed.1 }.withStatus 503)
      | .ok () => pure { u with receipt := some completed.1 }

/-- `atomicUpload.Close` once the staging file is synchronised and closed. -/
def commit (u : Upload) (target temporary : Path) : Prog Upload := do
  let u := { u with receipt := u.receipt.map fun r =>
    { r with state := .prepared, target, temporary := some temporary } }
  match ← journal u.receipt with
  | .error _ => discard u temporary 503
  | .ok () =>
    match ← rename (u.receipt.map (·.id)) temporary target with
    | .error _ => discard u temporary 500
    | .ok () => finish P u

/-- Note the identity of the staging file in the record of a durable upload. -/
def identify (u : Upload) (i : Nat) : Prog (Except Error Upload) :=
  match u.receipt with
  | none => pure (.ok u)
  | some record => do
    match ← external with
    | .error err => pure (.error err)
    | .ok () => pure (.ok { u with receipt := some { record with fileIdentity := some i } })

/-- `atomicUpload.Close` once the content is valid. -/
def flush (u : Upload) (target temporary : Path) (i : Nat) : Prog Upload := do
  match ← external with
  | .error _ => discard u temporary 500
  | .ok () =>
    match ← identify u i with
    | .error _ => discard u temporary 503
    | .ok u =>
      match ← external with
      | .error _ => discard u temporary 500
      | .ok () => commit P u target temporary

/-- `atomicUpload.Close`. -/
def close (u : Upload) (target temporary : Path) (i : Nat) (writeErr : Bool) : Prog Upload :=
  if writeErr then discard u temporary 500
  else do
    let cancelled ← .receive Bool
    match u.body.validate P cancelled with
    | some status => discard u temporary status
    | none => flush P u target temporary i

/-- The WebDAV handler of a PUT. -/
def handlePut (u : Upload) : Prog Upload := do
  match ← external with
  | .error _ => pure u
  | .ok () =>
    match ← openUpload u with
    | (u, none) => pure u
    | (u, some (target, temporary, i)) => do
      let chunks ← .receive (List Chunk)
      let copied ← copy i chunks u.body
      close P { u with body := copied.1 } target temporary i copied.2

def checkConditions (r : Request) : Prog Nat :=
  if r.ifMatch = "" ∧ r.ifNoneMatch = "" then pure 0 else .receive Nat

/-- Give the attempt up and report it. -/
def reject (record : Record) (status : Nat) : Prog Response := do
  let completed ← completeReceipt P record .rejected status
  match completed.2 with
  | .error _ => pure (.error 503 "Upload receipt unavailable")
  | .ok () => pure (.receipt completed.1.toUploadReceipt)

/-- The rest of a PUT request once it is admitted. -/
def deliver (r : Request) (u : Upload) : Prog Response := do
  let status ← checkConditions r
  if status ≠ 0 then
    match u.receipt with
    | some record => reject P record status
    | none => pure (.error status (statusText status))
  else do
    let u ← handlePut P u
    match u.receipt with
    | none => pure .webdav
    | some record =>
      if u.body.effectCommitted then
        if u.body.status ≠ 0 then
          pure (.error 503 "Upload result uncertain; retrieve its receipt")
        else pure (.receipt record.toUploadReceipt)
      else do
        let captured ← .receive (Option Nat)
        reject P record (capturedStatus u.body captured)

/-- The answer to a request whose upload id has a receipt. -/
def replay (L : Local) (record prior : Record) : Response :=
  match L.lexical (joined prior.target) with
  | .error _ => .notFound
  | .ok _ =>
    if prior.fingerprint ≠ record.fingerprint then
      .error 409 "Upload identity has different parameters"
    else .receipt prior.toUploadReceipt

/-- A PUT with an upload id. -/
def serveDurable (L : Local) (r : Request) (body : UploadBody) : Prog Response := do
  let now ← .receive String
  match newReceipt P L.lexical r body now with
  | .error _ => pure (.error 400 "Invalid durable upload request")
  | .ok (record, body) =>
    match ← readReceipt P record.id with
    | .ok prior => pure (replay L record prior)
    | .error err =>
      if isNotExist err then
        match ← beginReceipt record with
        | .error err => pure (journalError err)
        | .ok record => deliver P r ⟨body, some record⟩
      else pure (.error 503 "Upload receipt unavailable")

/-- A request other than PUT. -/
def serveOther (r : Request) : Prog Response := do
  let status ← checkConditions r
  if status ≠ 0 then pure (.error status (statusText status))
  else do
    changeTree
    pure .webdav

/-- A PUT request. -/
def servePut (L : Local) (r : Request) : Prog Response :=
  match newUploadBody P r with
  | none => pure .dropped
  | some (.error msg) => pure (.error 400 msg)
  | some (.ok body) =>
    if r.uploadID = "" then deliver P r ⟨body, none⟩ else serveDurable P L r body

/-- A request that holds the mutation lock. -/
def mutate (L : Local) (r : Request) : Prog Response := do
  match ← recoverReceipt P with
  | .error _ => pure (.error 503 "Filesystem recovery unavailable")
  | .ok () =>
    if !r.underPrefix then pure .notFound
    else if r.put then servePut P L r
    else serveOther r

/-- Answer a request; only answers to durable uploads are kept. -/
def reply (r : Request) (response : Response) : Prog Unit :=
  if r.put && r.uploadID ≠ "" then respond (.put r.uploadID response) else pure ()

/-- A request that holds the token of its process. -/
def serveAdmitted (L : Local) (w : Worker) (r : Request) : Prog Unit := do
  match ← lockMutation w with
  | .error _ => do
    let cancelled ← .receive Bool
    reply r (.error (if cancelled then 408 else 503) "Filesystem mutation admission unavailable")
  | .ok () => do
    let response ← mutate P L r
    reply r response
    unlockMutation

def serveMutation (L : Local) (w : Worker) (r : Request) : Prog Unit :=
  if L.readOnly then reply r (.error 403 "Filesystem is read-only")
  else do
    if ← takeToken w then do
      serveAdmitted P L w r
      returnToken w
    else reply r (.error 408 "Filesystem request cancelled")

/-- A receipt lookup. -/
structure Lookup where
  underPrefix : Bool
  id : String
  name : Bytes

/-- The receipt of an id, else its pending record, else its receipt again. -/
def findReceipt (id : String) : Prog (Except Error Record) := do
  match ← readReceipt P id with
  | .ok record => pure (.ok record)
  | .error err =>
    if isNotExist err then
      match ← readPending P with
      | .ok record => if record.id = id then pure (.ok record) else readReceipt P id
      | .error err => if isNotExist err then readReceipt P id else pure (.error err)
    else pure (.error err)

/-- The receipt as the policy lets the client see it. -/
def view (L : Local) (name : Path) (record : Record) : Response :=
  if record.path ≠ name then .notFound
  else
    match L.lexical (joined record.path), L.lexical (joined record.target) with
    | .ok _, .ok _ => .receipt record.toUploadReceipt
    | _, _ => .notFound

/-- The answer to a lookup after recovery. -/
def lookUp (L : Local) (id : String) (name : Path) : Prog Response := do
  match ← findReceipt P id with
  | .ok record => pure (view L name record)
  | .error err =>
    pure (if isNotExist err then .notFound else .error 503 "Receipt unavailable")

/-- A lookup that holds the mutation lock. -/
def lookUpLocked (L : Local) (id : String) (name : Path) : Prog Response := do
  match ← recoverReceipt P with
  | .error _ => pure (.error 503 "Receipt recovery unavailable")
  | .ok () => lookUp P L id name

def serveReceipt (L : Local) (w : Worker) (q : Lookup) : Prog Unit :=
  if !q.underPrefix then respond (.lookup q.id .notFound)
  else if !validUploadID q.id then
    respond (.lookup q.id (.error 400 "Invalid upload receipt identity"))
  else
    match L.lexical q.name with
    | .error _ => respond (.lookup q.id .notFound)
    | .ok name => do
      match ← tryMutationLock w with
      | .error _ => respond (.lookup q.id (.error 503 "Receipt recovery unavailable"))
      | .ok false => do
        let response ← lookUp P L q.id name
        respond (.lookup q.id response)
      | .ok true => do
        let response ← lookUpLocked P L q.id name
        respond (.lookup q.id response)
        unlockMutation

/-- Serve the next request. -/
def serve (L : Local) (w : Worker) : Prog Bool := do
  match ← .receive (Request ⊕ Lookup) with
  | .inl r => do
    serveMutation P L w r
    pure true
  | .inr q => do
    serveReceipt P L w q
    pure true

end Prog

/-- Any number of server processes with any number of handlers each. Handlers may stop
anywhere, as when their process crashes; the token and the lock they hold are released. -/
def exportSystem (P : Primitives) (policy : Nat → Local) : System Worker Export where
  body w := Prog.serve P (policy w.1) w
  abort who s := some { s with
    mutations := fun p => (s.mutations p).filter fun h => !who (p, h)
    lock := s.lock.filter fun w => !who w }

end Rstream.Filesystem
