import Rstream.WebTTY.SessionProgram

/-!
# The client's side of the input stream

The calls of a `ClientSession` that write to the connection: stdin data and its end, a
resize, a termination request, the heartbeat, the error sent on closing. Any number of
callers may be in such a call at a time; `stdinMu` orders the ones about stdin and
`writeMu` all of them. The histories `wire` and `encrypted` are not part of the program.
-/

namespace Rstream.WebTTY

open Rstream.Core Go

/-- The goroutines that write to the connection of a client session. -/
inductive ClientWriter
  /-- A goroutine of the caller. -/
  | caller (n : Nat)
  | heartbeatLoop
  /-- `ClientSession.run`, which finalizes the session. -/
  | run
  deriving DecidableEq, Repr

/-- The part of `ClientSession` and `clientRuntime` that concerns writes. -/
structure ClientRuntime where
  payloadCrypto : Option PayloadCrypto
  canTerminate : Bool := false
  closing : Bool := false
  done : Bool := false
  closeRequested : Bool := false
  stdinMu : Option ClientWriter := none
  stdinClosed : Bool := false
  writeMu : Option ClientWriter := none
  /-- The messages written since the server acknowledged the session, in order. -/
  wire : List Message := []
  /-- The calls of the encrypt hook that succeeded, in order. -/
  encrypted : List EncryptCall := []
  deriving DecidableEq

/-- A client session whose open request was acknowledged. -/
def newClientRuntime (crypto : Option PayloadCrypto) (canTerminate : Bool) : ClientRuntime where
  payloadCrypto := crypto
  canTerminate := canTerminate

def errClientWriteBusy : Error := newError "another WebTTY write is in progress"

def errSessionDisconnected : Error :=
  newError "WebTTY reader disconnected before native completion"

def errClientStdinClosed : Error := newError "WebTTY peer closed input"

def errTerminationUnsupported : Error :=
  newError "WebTTY server does not support explicit termination"

/-- A program on the state of a client session. -/
abbrev RuntimeProg := Program ClientRuntime

namespace RuntimeProg

open Program

/-- The outcome of a foreign call. -/
def external (α : Type) : RuntimeProg (Except Error α) := receive (Except Error α)

/-- `conn.WriteMessage`. -/
def connWrite (m : Message) (s : ClientRuntime) :
    Prog.WriteOutcome → Option (Result × ClientRuntime)
  | .written => some (.ok (), { s with wire := s.wire ++ [m] })
  | .failed true err => some (.error err, { s with wire := s.wire ++ [m] })
  | .failed false err => some (.error err, s)

/-- `writeMu.Lock`. -/
def lockWriteMu (g : ClientWriter) : RuntimeProg Unit :=
  choose fun s (_ : Unit) =>
    if s.writeMu = none then some ((), { s with writeMu := some g }) else none

/-- `writeMu.TryLock`. -/
def tryLockWriteMu (g : ClientWriter) : RuntimeProg Bool :=
  atomic fun s => if s.writeMu = none then (true, { s with writeMu := some g }) else (false, s)

/-- `writeMu.Unlock`. -/
def unlockWriteMu : RuntimeProg Unit := atomic fun s => ((), { s with writeMu := none })

/-- `stdinMu.Lock`. -/
def lockStdinMu (g : ClientWriter) : RuntimeProg Unit :=
  choose fun s (_ : Unit) =>
    if s.stdinMu = none then some ((), { s with stdinMu := some g }) else none

/-- `stdinMu.Unlock`. -/
def unlockStdinMu : RuntimeProg Unit := atomic fun s => ((), { s with stdinMu := none })

/-- The part of `writeMessage` that runs under `writeMu`. -/
def writeLocked (m : Message) : RuntimeProg Result := do
  if ← inspect (·.closing) then return .error errSessionDisconnected
  choose (connWrite m)

/-- `clientRuntime.writeMessage`. -/
def writeMessage (g : ClientWriter) (m : Message) : RuntimeProg Result := do
  match ← external Unit with
  | .error err => return .error (.wrap "failed to marshal protobuf message: " err "")
  | .ok () =>
    lockWriteMu g
    let result ← writeLocked m
    unlockWriteMu
    return result

/-- `writeStdinMessage`; whether an error means that the peer closed is foreign. -/
def writeStdinMessage (g : ClientWriter) (m : Message) : RuntimeProg Result := do
  match ← writeMessage g m with
  | .ok () => return .ok ()
  | .error err =>
    if ← receive Bool then return .error (.join errClientStdinClosed err)
    else return .error err

/-- A call of `EncryptStdin`; a payload it returns enters the history. -/
def encryptStdin (data : Bytes) (s : ClientRuntime) :
    Except Error (Option EncryptedPayload) →
      Option (Except Error (Option EncryptedPayload) × ClientRuntime)
  | .error err => some (.error (.wrap "failed to encrypt stdin payload: " err ""), s)
  | .ok payload =>
    some (.ok payload, { s with encrypted := s.encrypted ++ [⟨.stdin, data, payload⟩] })

def stdinDataMessage (data : Bytes) : RuntimeProg (Except Error Message) := do
  let crypto ← inspect (·.payloadCrypto)
  if crypto.any PayloadCrypto.encryptStdin then
    match ← choose (encryptStdin data) with
    | .error err => return .error err
    | .ok payload => return .ok (.data (some ⟨.stdin, .encryptedData payload⟩))
  else return .ok (.data (some ⟨.stdin, .data data⟩))

/-- The part of `SendInputContext` that runs under `stdinMu`. -/
def sendInputLocked (g : ClientWriter) (data : Bytes) : RuntimeProg Result := do
  if ← inspect (·.stdinClosed) then return .error (newError "WebTTY stdin is already closed")
  match ← stdinDataMessage data with
  | .error err => return .error err
  | .ok m => writeStdinMessage g m

/-- `SendInputContext`. -/
def sendInput (g : ClientWriter) (data : Bytes) : RuntimeProg Result := do
  if data = [] then return .ok ()
  lockStdinMu g
  let result ← sendInputLocked g data
  unlockStdinMu
  return result

def sendText (g : ClientWriter) (text : String) : RuntimeProg Result :=
  if text = "" then return .ok () else sendInput g (utf8 text)

/-- The part of `SendEOF` that runs under `stdinMu`. -/
def sendEOFLocked (g : ClientWriter) : RuntimeProg Result := do
  let closed ← atomic fun s => (s.stdinClosed, { s with stdinClosed := true })
  if closed then return .ok ()
  writeStdinMessage g (.data (some ⟨.stdin, .eos⟩))

def sendEOF (g : ClientWriter) : RuntimeProg Result := do
  lockStdinMu g
  let result ← sendEOFLocked g
  unlockStdinMu
  return result

def resize (g : ClientWriter) (rows cols : Int64) : RuntimeProg Result :=
  if rows ≤ 0 ∨ cols ≤ 0 then return .ok ()
  else writeMessage g (.parameter (some (.terminalSize
    (some ⟨UInt32.ofInt rows.toInt, UInt32.ofInt cols.toInt⟩))))

/-- The part of `writeTermination` that runs under `writeMu`. -/
def writeTerminationLocked : RuntimeProg Result := do
  if ← inspect (·.closing) then return .error errSessionDisconnected
  match ← external Unit with
  | .error err => return .error err
  | .ok () =>
    match ← external Unit with
    | .error err => return .error err
    | .ok () =>
      match ← choose (connWrite .terminate) with
      | .ok () => return .ok ()
      | .error err => return .error ((← receive (Option Error)).getD err)

def writeTermination (g : ClientWriter) : RuntimeProg Result := do
  match ← external Unit with
  | .error err => return .error err
  | .ok () =>
    if ← tryLockWriteMu g then
      let result ← writeTerminationLocked
      unlockWriteMu
      return result
    else return .error errClientWriteBusy

/-- `RequestTermination`; the result of a session that is over is not modelled. -/
def requestTermination (g : ClientWriter) : RuntimeProg Result := do
  if !(← inspect (·.canTerminate)) then return .error errTerminationUnsupported
  if ← inspect (·.done) then external Unit
  else writeTermination g

/-- The part of `sendClientError` that runs under `writeMu`. -/
def sendClientErrorLocked (err : Error) : RuntimeProg Result := do
  match ← external Unit with
  | .error err => return .error err
  | .ok () => choose (connWrite (.error (some (err.text Failure.msg))))

def sendClientError (g : ClientWriter) (err : Error) : RuntimeProg Result := do
  match ← external Unit with
  | .error err => return .error (.wrap "failed to marshal protobuf message: " err "")
  | .ok () =>
    if ← tryLockWriteMu g then
      let result ← sendClientErrorLocked err
      unlockWriteMu
      return result
    else return .error errClientWriteBusy

/-- `closeConn`; the close frame is not a protocol message. -/
def closeConn : RuntimeProg Unit := atomic fun s => ((), { s with closing := true })

/-- `requestClose`; only its first call has an effect. -/
def requestClose (g : ClientWriter) (err : Option Error) (sendError : Bool) :
    RuntimeProg Unit := do
  let again ← atomic fun s => (s.closeRequested, { s with closeRequested := true })
  if again then return ()
  if sendError then
    let _ ← sendClientError g (err.getD errSessionDisconnected)
    closeConn
  else closeConn

/-- `Disconnect` of a reader that is managed and whose context is alive. -/
def disconnectManaged (g : ClientWriter) : RuntimeProg Unit := do
  if ← tryLockWriteMu g then
    closeConn
    unlockWriteMu
    requestClose g none false
  else requestClose g none false

/-- `Disconnect`; the wait for the peer does not touch the connection. -/
def disconnect (g : ClientWriter) : RuntimeProg Unit := do
  match ← external Unit with
  | .error _ => return ()
  | .ok () =>
    match ← external Unit with
    | .error _ => requestClose g none false
    | .ok () => disconnectManaged g

/-- The calls of a session by its caller. -/
inductive Call
  | sendInput (data : Bytes)
  | sendText (text : String)
  | sendEOF
  | resize (rows cols : Int64)
  | requestTermination
  | close
  | closeWithError (err : Option Error)
  | disconnect

/-- Perform a call; what it returns is up to the caller. -/
def perform (g : ClientWriter) : Call → RuntimeProg Unit
  | .sendInput data => do
    let _ ← sendInput g data
    return ()
  | .sendText text => do
    let _ ← sendText g text
    return ()
  | .sendEOF => do
    let _ ← sendEOF g
    return ()
  | .resize rows cols => do
    let _ ← resize g rows cols
    return ()
  | .requestTermination => do
    let _ ← requestTermination g
    return ()
  | .close => requestClose g none false
  | .closeWithError err => requestClose g err true
  | .disconnect => disconnect g

/-- `heartbeatLoop`: a tick, or the end of the session context. -/
def heartbeatLoop : RuntimeProg Bool := do
  if ← receive Bool then return false
  if ← inspect (·.closing) then return false
  match ← writeMessage .heartbeatLoop .heartbeat with
  | .ok () => return true
  | .error _ => return false

def finalize : RuntimeProg Bool := do
  closeConn
  atomic fun s => ((), { s with done := true })
  return false

/-- The body of each goroutine. -/
def body : ClientWriter → RuntimeProg Bool
  | .caller n => do
    let call ← receive Call
    perform (.caller n) call
    return true
  | .heartbeatLoop => heartbeatLoop
  | .run => finalize

end RuntimeProg

/-- The writers of a client session as a system. -/
def clientInputSystem : System ClientWriter ClientRuntime where
  body := RuntimeProg.body
  abort := fun _ _ => none

end Rstream.WebTTY
