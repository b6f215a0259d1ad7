import Mathlib.Data.Finset.Card
import Rstream.Core.Program
import Rstream.WebTTY.ClientProof

/-!
# Server session state

The fields of `session` in `webtty/session.go` and the sections it executes under
its mutex. Operating system handles are reduced to whether they are set. The
record also keeps what the fields of the source do not say: the messages the
connection delivered, the messages written to it, what happened to the input of
the child process, what the encrypt hooks returned, and which goroutine found the
session complete.
-/

namespace Rstream.WebTTY

open Go

/-- The goroutines of a session. -/
inductive Goroutine
  | readLoop
  | stdoutLoop
  | stderrLoop
  | waitLoop
  | heartbeatLoop
  | terminateProcess
  | openTimer
  | closeTimer
  | shutdown
  deriving DecidableEq, Repr

/-- The goroutine that reads an output stream. -/
def Goroutine.reader : DataType → Goroutine
  | .stderr => .stderrLoop
  | _ => .stdoutLoop

/-- The output stream a goroutine reads. -/
def Goroutine.stream : Goroutine → Option DataType
  | .stdoutLoop => some .stdout
  | .stderrLoop => some .stderr
  | _ => none

/-- Each stream has one reader. -/
theorem Goroutine.stream_injective {u v : Goroutine} {t : DataType}
    (hu : u.stream = some t) (hv : v.stream = some t) : u = v := by
  cases u <;> simp only [Goroutine.stream, reduceCtorEq, Option.some.injEq] at hu <;> subst hu <;>
    cases v <;> first | rfl | (simp [Goroutine.stream] at hv)

/-- What happens on the way from a stdin message to the child process. -/
inductive InputEvent
  /-- The decrypt hook returned a plaintext. -/
  | decrypted (payload : Option EncryptedPayload) (plaintext : Bytes)
  /-- Bytes were written to the PTY or to the stdin pipe. -/
  | written (bytes : Bytes)
  deriving DecidableEq, Repr

/-- A call of an encrypt hook that succeeded. -/
structure EncryptCall where
  type : DataType
  chunk : Bytes
  payload : Option EncryptedPayload
  deriving DecidableEq, Repr

structure Session where
  identity : SessionIdentity
  closed : Bool := false
  opening : Bool := false
  shutdownReq : Bool := false
  cmd : Bool := false
  processGroup : Bool := false
  ptyFile : Bool := false
  stdinPipe : Bool := false
  stdinClosed : Bool := false
  streamsActive : Nat := 0
  streamsEnding : Finset DataType := ∅
  /-- The open output streams; `none` before a process is installed. -/
  streamsOpen : Option (Finset DataType) := none
  childDone : Bool := false
  childExitCode : Int := 0
  terminationReq : Bool := false
  opened : Bool := false
  disconnecting : Bool := false
  payloadCrypto : Option PayloadCrypto
  client : Option ClientIdentity := none
  /-- `run` has entered its read loop. -/
  reading : Bool := false
  /-- The goroutines started so far. -/
  started : Finset Goroutine := ∅
  /-- The wait group of the two pipe readers. -/
  pipeReaders : Nat := 0
  /-- The goroutine that holds `writeMu`. -/
  writeMu : Option Goroutine := none
  /-- The goroutine that found the process and all its streams finished. -/
  closer : Option Goroutine := none
  /-- The grant of the open request whose process was installed. -/
  sessionKeyGrant : Option SessionKeyGrant := none
  /-- The messages read from the connection, in order. -/
  delivered : List Message := []
  /-- The messages written to the connection, in order. -/
  wire : List Message := []
  /-- The history of the child's input, in order. -/
  input : List InputEvent := []
  /-- The calls of the encrypt hooks that succeeded, in order. -/
  encrypted : List EncryptCall := []
  deriving DecidableEq

def newSession (cfg : ServerConfig) (sessionID transport : String) : Session where
  identity := ⟨sessionID, transport, []⟩
  payloadCrypto := cfg.payloadCrypto

/-- The error every locked section returns on a closed session. -/
def errClosed : Error := newError "session is closed"

/-- `sessionOpenResources`. -/
structure OpenResources where
  processGroup : Bool
  ptyFile : Bool
  stdinPipe : Bool
  payloadCrypto : Option PayloadCrypto
  streamsActive : Nat
  allocateTTY : Bool
  sessionKeyGrant : Option SessionKeyGrant
  deriving DecidableEq, Repr

namespace Session

/-- `detachCleanupLocked`: the state change of `close`. -/
def detachCleanupLocked (s : Session) : Session := { s with closed := true }

def startLoopLocked (g : Goroutine) (s : Session) : Session :=
  { s with started := insert g s.started }

/-- The first locked section of `handleOpen`. -/
def beginOpen (s : Session) : Except Error Unit × Session :=
  if s.closed then (.error errClosed, s)
  else if s.cmd || s.opening then (.error (newError "process already started"), s)
  else (.ok (), { s with opening := true })

/-- The locked section of `handleOpen` after a failed `prepareOpen`. -/
def failOpen (s : Session) : Bool × Session := (s.closed, { s with opening := false })

/-- The streams a started process has. -/
def openStreams (allocateTTY : Bool) : Finset DataType :=
  if allocateTTY then {.stdout} else {.stdout, .stderr}

/-- The locked section of `handleOpen` that publishes the started process. -/
def installOpen (r : OpenResources) (s : Session) : Except Error Unit × Session :=
  if s.closed then (.error errClosed, { s with opening := false })
  else (.ok (), { s with
    opening := false
    payloadCrypto := r.payloadCrypto
    ptyFile := r.ptyFile
    stdinPipe := r.stdinPipe
    cmd := true
    processGroup := r.processGroup
    streamsActive := r.streamsActive
    streamsEnding := ∅
    streamsOpen := some (openStreams r.allocateTTY)
    opened := true
    sessionKeyGrant := r.sessionKeyGrant })

/-- The locked section of `handleOpen` that starts the loops after the acknowledgement. -/
def startLoops (cfg : ServerConfig) (r : OpenResources) (s : Session) :
    Except Error Unit × Session :=
  if s.closed then (.error errClosed, s)
  else
    let s := s.startLoopLocked .waitLoop
    let s := if r.allocateTTY then s.startLoopLocked .stdoutLoop else s
    let s := if 0 < cfg.heartbeatInterval.getD 0 then s.startLoopLocked .heartbeatLoop else s
    (.ok (), s)

/-- The two goroutines and the wait group of `waitPipedProcessLoop`. -/
def startPipeReaders (s : Session) : Session :=
  { (s.startLoopLocked .stdoutLoop).startLoopLocked .stderrLoop with pipeReaders := 2 }

/-- The snapshot `handleData` takes of the input handles. -/
structure InputHandles where
  ptyFile : Bool
  stdinPipe : Bool
  stdinClosed : Bool
  payloadCrypto : Option PayloadCrypto
  deriving DecidableEq, Repr

/-- The locked section of `handleData`; an end of stream closes the pipe once. -/
def takeInput (payload : DataPayload) (s : Session) : Except Error InputHandles × Session :=
  if s.closed then (.error errClosed, s)
  else
    let handles : InputHandles := ⟨s.ptyFile, s.stdinPipe, s.stdinClosed, s.payloadCrypto⟩
    if payload = .eos ∧ ¬ s.ptyFile ∧ ¬ s.stdinClosed ∧ s.stdinPipe then
      (.ok handles, { s with stdinClosed := true, stdinPipe := false })
    else (.ok handles, s)

/-- The locked section of `writeStdinPayload` after the child closed its input. -/
def dropStdin (s : Session) : Session := { s with stdinClosed := true, stdinPipe := false }

/-- The locked section of `handleTerminate`. -/
def handleTerminate (s : Session) : Except Error Unit × Session :=
  if s.closed || !s.opened || !s.cmd then
    (.error (newError "WebTTY termination requires an open process"), s)
  else if s.childDone || s.terminationReq then (.ok (), s)
  else if !s.processGroup then
    (.error (newError "WebTTY server does not support explicit termination"), s)
  else (.ok (), ({ s with terminationReq := true }).startLoopLocked .terminateProcess)

/-- What the first locked section of `onReadStream` decides. -/
inductive StreamTurn
  /-- The reader stops without sending anything. -/
  | stop
  /-- The end of the stream is to be sent. -/
  | eos
  /-- Data is to be sent, or an error to be reported. -/
  | data
  deriving DecidableEq, Repr

/-- The first locked section of `onReadStream`; `eos` is the verdict of `isStreamEOS`. -/
def beginStream (t : DataType) (eos : Bool) (s : Session) : StreamTurn × Session :=
  if s.closed then (.stop, s)
  else if !eos then (.data, s)
  else
    match s.streamsOpen with
    | none => (.eos, s)
    | some streams =>
      if t ∉ streams ∨ t ∈ s.streamsEnding then (.stop, s)
      else (.eos, { s with streamsEnding := insert t s.streamsEnding })

/-- The locked section of `onReadStream` after the end of a stream was sent. -/
def endStream (t : DataType) (s : Session) : Bool × Session :=
  let s := match s.streamsOpen with
    | some streams => { s with
        streamsOpen := some (streams.erase t)
        streamsEnding := s.streamsEnding.erase t
        streamsActive := (streams.erase t).card }
    | none => { s with streamsActive := s.streamsActive - 1 }
  if s.streamsActive = 0 ∧ s.childDone then (true, { s with closer := some (.reader t) })
  else (false, s)

/-- The locked section of `onChildExit` for a process that was waited for. -/
def childExit (exitCode : Int) (s : Session) : Option Bool × Session :=
  if s.closed then (none, s)
  else
    let s := { s with childDone := true, childExitCode := exitCode }
    if s.streamsActive = 0 then (some true, { s with closer := some .waitLoop })
    else (some false, s)

/-- The locked section of `doClose`. -/
def checkClose (s : Session) : Except Error Int :=
  if s.closed then .error errClosed
  else if !s.childDone then .error (newError "child process is still running")
  else if 0 < s.streamsActive then .error (newError "streams are still active")
  else .ok s.childExitCode

end Session

end Rstream.WebTTY
