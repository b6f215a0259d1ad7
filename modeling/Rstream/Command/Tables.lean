import Rstream.Go.TabWriter
import Rstream.Go.TimeFormat
import Rstream.Transcript.Buffer

/-!
# Tables of remote data

The tables `cmd` prints of what a remote side sent: WebTTY sessions, control requests and
participants, and the items of a WebDAV listing. Every text goes through
`terminalSafeDefault`, except the path of an item. The first three tables are always safe
to print; the last one exactly when every path is.
-/

namespace Rstream.Command

open Go WebTTY Transcript

section Sanitizer

/-- `stripANSIEscapes`. It takes the same sequences for escapes as `consumeEscape`. -/
def stripANSIEscapes : Bytes → Bytes
  | [] => []
  | b :: rest =>
    if b = 0x1b then stripANSIEscapes (consumeEscape rest).2 else b :: stripANSIEscapes rest
termination_by value => value.length
decreasing_by
  · have := length_consumeEscape rest
    simp only [List.length_cons]
    omega
  · simp

/-- The mapping of `terminalSafe`. -/
def safeRune (r : Char) : Option Char :=
  if r = '\t' ∨ r = '\n' ∨ r = '\r' then some ' '
  else if r.toNat < 0x20 ∨ r.toNat = 0x7f ∨ (0x80 ≤ r.toNat ∧ r.toNat ≤ 0x9f) then none
  else some r

/-- `strings.Fields`. -/
def fieldsOf (runes : List Char) : List (List Char) := (runes.splitOnP isSpace).filter (· ≠ [])

def terminalSafe (value : Bytes) : List Char :=
  let mapped := (runes (stripANSIEscapes value)).filterMap fun r => safeRune r.1
  List.intercalate [' '] (fieldsOf mapped)

def terminalSafeDefault (value : Bytes) : List Char :=
  let value := terminalSafe value
  if value.all isSpace then ['-'] else value

end Sanitizer

section Printers

/-- A row of columns, as `Fprintf` writes it. -/
def tableRow (columns : List Bytes) : Bytes := List.intercalate [0x09] columns ++ [0x0a]

/-- A table: its header and its rows, written to a tab writer with padding 2. -/
def printTable (header : List String) (rows : List (List Bytes)) : Bytes :=
  TabWriter.output 2 ((header.map utf8 :: rows).flatMap tableRow)

/-- A column that is made safe. -/
def safeColumn (value : Bytes) : Bytes := encodeRunes (terminalSafeDefault value)

/-- `webTTYTime`; `none` is the zero time. -/
def timeText : Option Int → Bytes
  | some t => utf8 (formatRFC3339 t)
  | none => utf8 "-"

/-- `webTTYDash`. -/
def dash (value : Bytes) : Bytes := if trimSpaceBytes value = [] then utf8 "-" else value

/-- The instant of the zero time. -/
def zeroTime : Int := -62135596800 * second

/-- The instant of a time. -/
def instant (t : Option Int) : Int := t.getD zeroTime

/-- `sort.SliceStable`. -/
def sortStable {α : Type} (less : α → α → Bool) (list : List α) : List α :=
  list.mergeSort fun a b => !less b a

/-- The fields of `WebTTYSession` a table shows. -/
structure SessionRow where
  id : Bytes
  serverID : Bytes
  status : Bytes
  sessionMode : Bytes
  recordingMode : Bytes
  encryptionMode : Bytes
  downTransport : Bytes
  upTransport : Bytes
  startedAt : Option Int

/-- `printWebTTYSessionsTable`: the latest session comes first. -/
def printSessionsTable (sessions : List SessionRow) : Bytes :=
  let list := sortStable (fun a b => if instant a.startedAt ≠ instant b.startedAt then
    instant b.startedAt < instant a.startedAt else a.id < b.id) sessions
  printTable ["SESSION", "SERVER", "STATUS", "MODE", "RECORDING", "ENCRYPTION", "TRANSPORT",
    "STARTED"] <| list.map fun session =>
    let transport := session.downTransport ++
      if session.upTransport ≠ [] ∧ session.upTransport ≠ session.downTransport then
        utf8 "->" ++ session.upTransport else []
    [safeColumn session.id, safeColumn (dash session.serverID), safeColumn session.status,
      safeColumn session.sessionMode, safeColumn session.recordingMode,
      safeColumn session.encryptionMode, safeColumn (dash transport),
      safeColumn (timeText session.startedAt)]

/-- The fields of `WebTTYControlRequest` a table shows. -/
structure ControlRequestRow where
  id : Bytes
  status : Bytes
  requesterParticipantID : Bytes
  approverParticipantID : Bytes
  createdAt : Option Int
  /-- Absent for a request that was not resolved. -/
  resolvedAt : Option (Option Int)

/-- `printWebTTYControlRequestsTable`: the latest request comes first. -/
def printControlRequestsTable (requests : List ControlRequestRow) : Bytes :=
  let list := sortStable (fun a b => if instant a.createdAt ≠ instant b.createdAt then
    instant b.createdAt < instant a.createdAt else a.id < b.id) requests
  printTable ["REQUEST", "STATUS", "REQUESTER", "APPROVER", "CREATED", "RESOLVED"] <|
    list.map fun request =>
      let resolved := match request.resolvedAt with
        | some t => timeText t
        | none => utf8 "-"
      [safeColumn request.id, safeColumn request.status,
        safeColumn (dash request.requesterParticipantID),
        safeColumn (dash request.approverParticipantID), safeColumn (timeText request.createdAt),
        safeColumn resolved]

/-- The fields of `WebTTYParticipant` a table shows. -/
structure ParticipantRow where
  id : Bytes
  userID : Bytes
  role : Bytes
  controller : Bool
  attachedAt : Option Int
  /-- Absent for a participant that is still there. -/
  detachedAt : Option (Option Int)

/-- `printWebTTYParticipantsTable`: the first participant comes first. -/
def printParticipantsTable (participants : List ParticipantRow) : Bytes :=
  let list := sortStable (fun a b => if instant a.attachedAt ≠ instant b.attachedAt then
    instant a.attachedAt < instant b.attachedAt else a.id < b.id) participants
  printTable ["PARTICIPANT", "USER", "ROLE", "CONTROLLER", "ATTACHED", "DETACHED"] <|
    list.map fun participant =>
      let detached := match participant.detachedAt with
        | some t => timeText t
        | none => utf8 "-"
      [safeColumn participant.id, safeColumn (dash participant.userID),
        safeColumn participant.role, utf8 (if participant.controller then "true" else "false"),
        safeColumn (timeText participant.attachedAt), safeColumn detached]

end Printers

section WebDAV

/-- `webDAVProp`. -/
structure DAVProp where
  collection : Bool := false
  contentLength : Bytes := []
  lastModified : Bytes := []

/-- `webDAVPropstat`. -/
structure DAVPropstat where
  prop : DAVProp
  status : Bytes

/-- `webDAVResponse`. -/
structure DAVResponse where
  href : Bytes
  propstat : List DAVPropstat

/-- The kinds of items. -/
inductive FSKind
  | file
  | directory
  deriving DecidableEq, Repr

/-- The text of a kind. -/
def FSKind.name : FSKind → String
  | .file => "file"
  | .directory => "directory"

/-- `webTTYFSItem`. -/
structure FSItem where
  path : Bytes
  kind : FSKind
  size : Option Int
  modified : Bytes

/-- The value of a hexadecimal digit. -/
def unhex (b : UInt8) : Option UInt8 :=
  if 0x30 ≤ b ∧ b ≤ 0x39 then some (b - 0x30)
  else if 0x61 ≤ b ∧ b ≤ 0x66 then some (b - 0x61 + 10)
  else if 0x41 ≤ b ∧ b ≤ 0x46 then some (b - 0x41 + 10)
  else none

/-- `url.PathUnescape`; `none` for an error. -/
def pathUnescape : Bytes → Option Bytes
  | [] => some []
  | [a] => if a = 0x25 then none else some [a]
  | [a, b] => if a = 0x25 then none else (pathUnescape [b]).map (a :: ·)
  | a :: b :: c :: rest =>
    if a = 0x25 then do
      let high ← unhex b
      let low ← unhex c
      let rest ← pathUnescape rest
      return (high * 16 + low) :: rest
    else (pathUnescape (b :: c :: rest)).map (a :: ·)

/-- `WebTTYDefaultFSPath`. -/
def defaultFSPath : Bytes := utf8 "/fs"

def webDAVDisplayPath (raw : Bytes) : Bytes :=
  let raw := (pathUnescape raw).getD raw
  let raw := if defaultFSPath <+: raw then raw.drop defaultFSPath.length else raw
  if raw = [] then utf8 "/"
  else if raw.head? = some 0x2f then raw
  else 0x2f :: raw

def webDAVOKProp (props : List DAVPropstat) : DAVProp :=
  match props.find? fun p => decide (utf8 " 200 " <:+: p.status) with
  | some p => p.prop
  | none => {}

def webDAVItemFromResponse (response : DAVResponse) : FSItem :=
  let prop := webDAVOKProp response.propstat
  let length := trimSpaceBytes prop.contentLength
  { path := webDAVDisplayPath response.href
    kind := if prop.collection then .directory else .file
    size := if length = [] then none else atoi length
    modified := trimSpaceBytes prop.lastModified }

def webDAVItemsFromMultiStatus (responses : List DAVResponse) : List FSItem :=
  (responses.map webDAVItemFromResponse).filter (·.path ≠ [])

/-- `printWebTTYFSItemsTable`. -/
def printFSItemsTable (items : List FSItem) : Bytes :=
  printTable ["PATH", "KIND", "SIZE", "MODIFIED"] <| items.map fun item =>
    let size := match item.size with
      | some size => utf8 (toString size)
      | none => utf8 "-"
    [item.path, utf8 item.kind.name, size, safeColumn item.modified]

end WebDAV

end Rstream.Command
