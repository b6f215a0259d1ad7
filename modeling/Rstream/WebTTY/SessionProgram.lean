import Rstream.WebTTY.Session

/-!
# Server session goroutines

The functions of `webtty/session.go` and `webtty/termination.go` as programs over
the session state. Every section under the session mutex is one atomic action;
everything the operating system, the peer or a foreign package decides is a
choice of the environment. A write to the connection is its own action under
`writeMu`: when it fails, the message may or may not have reached the peer.
-/

variable (cfg : ServerConfig)

namespace Rstream.WebTTY

open Rstream.Core Go Session

/-- A program of one goroutine of a session. -/
abbrev Prog := Program Session

/-- The result of a call whose only outcome is an error or success. -/
abbrev Result := Except Error Unit

namespace Prog

open Program

/-- The outcome of a foreign call. -/
def external (α : Type) : Prog (Except Error α) := receive (Except Error α)

/-- Block until the goroutine has been started. -/
def awaitStart (g : Goroutine) : Prog Unit :=
  choose fun s (_ : Unit) => if g ∈ s.started then some ((), s) else none

def close : Prog Unit := atomic fun s => ((), s.detachCleanupLocked)

/-- `error`; the error itself is only logged. -/
def error (_err : Error) : Prog Unit := do
  if ← inspect (·.closed) then return ()
  close

/-- How a write to the connection ends. -/
inductive WriteOutcome
  | written
  | failed (reached : Bool) (err : Error)

/-- `conn.WriteMessage`. -/
def connWrite (m : Message) (s : Session) : WriteOutcome → Option (Result × Session)
  | .written => some (.ok (), { s with wire := s.wire ++ [m] })
  | .failed true err => some (.error err, { s with wire := s.wire ++ [m] })
  | .failed false err => some (.error err, s)

/-- `writeMu.Lock`. -/
def lockWriteMu (g : Goroutine) : Prog Unit :=
  choose fun s (_ : Unit) => if s.writeMu = none then some ((), { s with writeMu := some g }) else none

/-- `writeMu.Unlock`. -/
def unlockWriteMu : Prog Unit := atomic fun s => ((), { s with writeMu := none })

/-- The part of `writeMessage` that runs under `writeMu`. -/
def writeLocked (m : Message) : Prog Result := do
  if ← inspect (·.closed) then return .error errClosed
  if 0 < cfg.sessionCloseDeadline.getD 0 then
    match ← external Unit with
    | .error err => return .error err
    | .ok () => choose (connWrite m)
  else choose (connWrite m)

def writeMessage (g : Goroutine) (m : Message) : Prog Result := do
  match ← external Unit with
  | .error err => return .error (.wrap "failed to marshal protobuf: " err "")
  | .ok () =>
    lockWriteMu g
    let result ← writeLocked cfg m
    unlockWriteMu
    return result

/-- `webTTYProtocolErrorForError`. -/
def protocolErrorForError (err : Error) : Option Message :=
  let is := fun kind => err.is (· = kind)
  if is .clientProofRequired then
    some (.protocolError .clientProofRequired (err.text Failure.msg))
  else if is .clientProofInvalid then
    some (.protocolError .clientProofInvalid (err.text Failure.msg))
  else if is .clientProofUnauthorized then
    some (.protocolError .clientUnauthorized (err.text Failure.msg))
  else none

def sendError (g : Goroutine) (err : Error) : Prog Result :=
  writeMessage cfg g ((protocolErrorForError err).getD (.error (some (err.text Failure.msg))))

def sendAck (g : Goroutine) : Prog Result := do
  let terminate ← inspect (·.processGroup)
  writeMessage cfg g (.ack terminate)

/-- `startCloseHandshake`: the close frame is not a protocol message. -/
def startCloseHandshake : Prog Unit := do
  let started ← atomic fun s =>
    if s.closed || s.disconnecting then (false, s) else (true, { s with disconnecting := true })
  if started then
    match ← external Unit with
    | .error _ => close
    | .ok () => return ()

/-- Whether an output stream has an encrypt hook. -/
def encryptHook (crypto : Option PayloadCrypto) (t : DataType) : Bool :=
  match crypto, t with
  | some crypto, .stdout => crypto.encryptStdout
  | some crypto, .stderr => crypto.encryptStderr
  | _, _ => false

/-- A call of the encrypt hook; a payload it returns enters the history. -/
def encryptChunk (t : DataType) (chunk : Bytes) (s : Session) :
    Except Error (Option EncryptedPayload) →
      Option (Except Error (Option EncryptedPayload) × Session)
  | .error err => some (.error (.wrap s!"failed to encrypt {t.name} payload: " err ""), s)
  | .ok payload => some (.ok payload, { s with encrypted := s.encrypted ++ [⟨t, chunk, payload⟩] })

def dataMessage (t : DataType) (chunk : Bytes) : Prog (Except Error Message) := do
  let crypto ← inspect (·.payloadCrypto)
  if encryptHook crypto t then
    match ← choose (encryptChunk t chunk) with
    | .error err => return .error err
    | .ok payload => return .ok (.data (some ⟨t, .encryptedData payload⟩))
  else return .ok (.data (some ⟨t, .data chunk⟩))

def sendData (t : DataType) (chunk : Bytes) : Prog Result := do
  match ← dataMessage t chunk with
  | .error err => return .error err
  | .ok m => writeMessage cfg (.reader t) m

def sendEOS (t : DataType) : Prog Result :=
  writeMessage cfg (.reader t) (.data (some ⟨t, .eos⟩))

def doClose (g : Goroutine) : Prog Result := do
  match ← inspect checkClose with
  | .error err => return .error err
  | .ok code =>
    match ← writeMessage cfg g (.close code) with
    | .error err => return .error err
    | .ok () =>
      startCloseHandshake
      return .ok ()

/-- The errors a stream read ends with. -/
inductive ReadError
  | eof
  | closedFile
  | inputOutput
  | brokenPipe
  | other (err : Error)

/-- The platforms `isStreamEOS` distinguishes. -/
inductive Platform
  | linux
  | otherUnix
  | windows

variable (platform : Platform)

def isStreamEOS (err : ReadError) (usingPTY : Bool) : Bool :=
  match platform, err with
  | _, .eof => true
  | .windows, .brokenPipe => true
  | .linux, .closedFile | .otherUnix, .closedFile => true
  | .linux, .inputOutput => usingPTY
  | _, _ => false

/-- The error value of a failed read. -/
def ReadError.toError : ReadError → Error
  | .eof => newError "EOF"
  | .closedFile => newError "file already closed"
  | .inputOutput => newError "input/output error"
  | .brokenPipe => newError "broken pipe"
  | .other err => err

/-- Report a failure of `onReadStream` or `onChildExit`; `true` when there was none. -/
def reportFailure : Result → Prog Bool
  | .ok () => return true
  | .error err => do
    error err
    return false

/-- `onReadStream` for the data of a read. -/
def onReadData (t : DataType) (chunk : Bytes) : Prog Bool := do
  match ← atomic (beginStream t false) with
  | .stop => return false
  | _ => reportFailure (← sendData cfg t chunk)

/-- The end of a stream: send it, count the stream down, close after the last one. -/
def finishStream (t : DataType) : Prog Result := do
  match ← sendEOS cfg t with
  | .error err => return .error err
  | .ok () =>
    if ← atomic (endStream t) then doClose cfg (.reader t)
    else return .ok ()

/-- `onReadStream` for the error of a read; the reader never continues after it. -/
def onReadError (t : DataType) (err : ReadError) :
    Prog Bool := do
  match ← atomic fun s => s.beginStream t (isStreamEOS platform err s.ptyFile) with
  | .stop => return false
  | .data => reportFailure (.error err.toError)
  | .eos =>
    let _ ← reportFailure (← finishStream cfg t)
    return false

/-- The data part of one read: nothing is sent for an empty read. -/
def sendChunk (t : DataType) (chunk : Bytes) : Prog Bool :=
  if chunk = [] then return true else onReadData cfg t chunk

/-- One round of `copyStreamLoop`. -/
def copyStream (t : DataType) : Prog Bool := do
  let read ← receive (Bytes × Option ReadError)
  if ← sendChunk cfg t read.1 then
    match read.2 with
    | none => return true
    | some err => onReadError cfg platform t err
  else return false

/-- The goroutine of an output stream; a pipe reader signals its wait group at the end. -/
def streamLoop (t : DataType) : Prog Bool := do
  awaitStart (.reader t)
  if ← copyStream cfg platform t then return true
  atomic fun s => ((), if s.ptyFile then s else { s with pipeReaders := s.pipeReaders - 1 })
  return false

def onChildExit (exit : Except Error Int) : Prog Bool := do
  match exit with
  | .error err =>
    if ← inspect (·.closed) then return false
    reportFailure (.error err)
  | .ok exitCode =>
    match ← atomic (childExit exitCode) with
    | none => return false
    | some false => return true
    | some true => reportFailure (← doClose cfg .waitLoop)

/-- Start the two pipe readers of `waitPipedProcessLoop`; a PTY has one reader already. -/
def startPipes (pty : Bool) : Prog Unit :=
  if pty then pure () else atomic fun s => ((), s.startPipeReaders)

def waitOwnedProcessExit : Prog Unit := do
  if ← inspect (·.processGroup) then
    match ← external Unit with
    | .error err => error (.wrap "failed to clean up WebTTY process group: " err "")
    | .ok () => pure ()
  else pure ()

/-- Wait for the two pipe readers; a PTY process is not waited for that way. -/
def awaitPipes (pty : Bool) : Prog Unit :=
  if pty then pure ()
  else choose fun s (_ : Unit) => if s.pipeReaders = 0 then some ((), s) else none

/-- The process waiter: `waitPipedProcessLoop`, or the waiter of a PTY process. -/
def waitLoop : Prog Bool := do
  awaitStart .waitLoop
  let pty ← inspect (·.ptyFile)
  startPipes pty
  waitOwnedProcessExit
  awaitPipes pty
  let exit ← external Int
  let _ ← onChildExit cfg exit
  return false

/-- `heartbeatLoop`: a tick, or the end of the session context. -/
def heartbeatLoop : Prog Bool := do
  awaitStart .heartbeatLoop
  let done ← choose fun s (done : Bool) => if done && !s.closed then none else some (done, s)
  if done then return false
  if ← inspect (·.closed) then return false
  reportFailure (← writeMessage cfg .heartbeatLoop .heartbeat)

/-- `terminateProcess`: whether a signal could be delivered is up to the system. -/
def terminateProcess : Prog Bool := do
  awaitStart .terminateProcess
  let _ ← reportFailure (← external Unit)
  return false

def onOpenTimeout : Prog Bool := do
  if ← inspect fun s => s.closed || s.opened then return true
  close
  return true

def onCloseTimeout : Prog Bool := do
  if ← inspect (·.closed) then return true
  close
  return true

/-- `shutdown`: a running process is given until its context ends. -/
def shutdown : Prog Bool := do
  let running ← atomic fun s =>
    if s.closed then (true, s) else (s.cmd, { s with shutdownReq := true })
  let forced ← receive Bool
  if !running || forced then
    close
    return true
  else return true

/-- The first argument of an external step that fails, or the rest of the program. -/
def andThen {α β : Type} (step : Prog (Except Error α)) (rest : α → Prog (Except Error β)) :
    Prog (Except Error β) := do
  match ← step with
  | .error err => return .error err
  | .ok a => rest a

/-- The call of `verifyClientProof`, whose last section is the only one that writes. -/
def checkProof {K : Type} (P : Primitives K) (cfg : ServerConfig) (request : Open) :
    Prog Result := do
  let now ← receive Int
  atomic fun s =>
    match verifyClientProof P cfg s.identity (some request) now s.closed with
    | .error err => (.error err, s)
    | .ok none => (.ok (), s)
    | .ok (some client) => (.ok (), { s with client := some client })

/-- The payload hooks `prepareOpen` chooses. -/
def resolveCrypto (grant : Option SessionKeyGrant) :
    Prog (Except Error (Option PayloadCrypto)) :=
  match grant with
  | none =>
    if cfg.requireSessionKeyGrant = some true then
      return .error (newError "E2E session key grant is required")
    else return .ok cfg.payloadCrypto
  | some _ =>
    if !cfg.payloadCryptoResolver then
      return .error <|
        newError "E2E session key grant was provided but no resolver is configured"
    else do
      match ← external (Option PayloadCrypto) with
      | .error err => return .error (.wrap "failed to resolve session key grant: " err "")
      | .ok crypto => return .ok crypto

/-- `prepareOpen`; a started process belongs to a process group when the system has them. -/
def prepareOpen {K : Type} (P : Primitives K) (cfg : ServerConfig) (request : Option Open) :
    Prog (Except Error OpenResources) :=
  match request, request.bind Open.config with
  | some request, some config =>
    andThen (checkProof P cfg request) fun _ =>
    andThen (external Unit) fun _ =>
    andThen (resolveCrypto cfg request.sessionKeyGrant) fun crypto =>
    andThen (external Bool) fun group =>
    if config.allocateTty then
      return .ok ⟨group, true, false, crypto, 1, true, request.sessionKeyGrant⟩
    else return .ok ⟨group, false, true, crypto, 2, false, request.sessionKeyGrant⟩
  | _, _ => return .error (newError "missing open config")

def handleOpen {K : Type} (P : Primitives K) (cfg : ServerConfig) (request : Option Open) :
    Prog Result :=
  andThen (atomic beginOpen) fun _ => do
  match ← prepareOpen P cfg request with
  | .error err =>
    if ← atomic failOpen then return .error err
    andThen (sendError cfg .readLoop err) fun _ => do
      startCloseHandshake
      return .ok ()
  | .ok resources =>
    andThen (atomic (installOpen resources)) fun _ =>
    andThen (sendAck cfg .readLoop) fun _ =>
    atomic (startLoops cfg resources)

/-- Write bytes to the PTY or to the stdin pipe. -/
def childWrite (bytes : Bytes) (s : Session) : Result → Option (Result × Session) :=
  fun outcome => some (outcome, { s with input := s.input ++ [.written bytes] })

/-- How a write to the stdin pipe ends. -/
inductive PipeOutcome
  | written
  | closedPipe
  | failed (err : Error)

/-- Write bytes to the stdin pipe. -/
def pipeWrite (bytes : Bytes) (s : Session) : PipeOutcome → Option (PipeOutcome × Session) :=
  fun outcome => some (outcome, { s with input := s.input ++ [.written bytes] })

def writeStdinPayload (handles : Session.InputHandles) (payload : Bytes) : Prog Result := do
  if handles.ptyFile then choose (childWrite payload)
  else if handles.stdinPipe then
    match ← choose (pipeWrite payload) with
    | .written => return .ok ()
    | .failed err => return .error err
    | .closedPipe =>
      atomic fun s => ((), s.dropStdin)
      external Unit
  else return .error (newError "no PTY and no stdin pipe")

/-- `payloadCrypto.DecryptStdin`; a plaintext it returns enters the history. -/
def decryptStdin (payload : Option EncryptedPayload) (s : Session) :
    Except Error Bytes → Option (Except Error Bytes × Session)
  | .error err => some (.error (.wrap "failed to decrypt stdin payload: " err ""), s)
  | .ok plaintext => some (.ok plaintext,
      { s with input := s.input ++ [.decrypted payload plaintext] })

def handleData (data : Option Data) : Prog Result :=
  match data with
  | none => return .error (newError "missing data message")
  | some data =>
    if data.type ≠ .stdin then return .error (newError "unexpected data type")
    else
      andThen (atomic (takeInput data.payload)) fun handles =>
      match data.payload with
      | .eos =>
        if handles.ptyFile || handles.stdinClosed then return .ok ()
        else if handles.stdinPipe then external Unit
        else return .error (newError "no PTY and no stdin pipe")
      | .data bytes =>
        if handles.stdinClosed then return .ok ()
        else writeStdinPayload handles bytes
      | .encryptedData payload =>
        if handles.stdinClosed then return .ok ()
        else if handles.payloadCrypto.any PayloadCrypto.decryptStdin then
          andThen (choose (decryptStdin payload)) fun plaintext =>
          writeStdinPayload handles plaintext
        else return .error <| newError "encrypted WebTTY stdin payload requires a decrypt hook"
      | .none => return .error (newError "unexpected data payload type")

def doResize (size : Option TerminalSize) : Prog Result := do
  let (closed, pty) ← inspect fun s => (s.closed, s.ptyFile)
  if closed then return .error errClosed
  if size = none then return .error (newError "missing terminal size")
  if !pty then return .error (newError "no PTY file descriptor")
  external Unit

def managedAttachUnsupportedMessage : String :=
  "managed WebTTY attach is handled by the rstream engine; direct WebTTY servers accept only new Open sessions"

def handleMessage {K : Type} (P : Primitives K) (cfg : ServerConfig) (m : Message) :
    Prog Result := do
  if ← inspect (·.closed) then return .error errClosed
  match m with
  | .open request => handleOpen P cfg request
  | .attach =>
    let _ ← sendError cfg .readLoop (newError managedAttachUnsupportedMessage)
    return .error (newError managedAttachUnsupportedMessage)
  | .data data => handleData data
  | .terminate => atomic handleTerminate
  | .error msg =>
    match msg with
    | some msg =>
      if blank msg then return .error (newError "client error")
      else return .error (newError ("client error (" ++ msg ++ ")"))
    | none => return .error (newError "client error")
  | .heartbeat => return .ok ()
  | .clientHello => return .ok ()
  | .parameter none => return .error (newError "missing parameter")
  | .parameter (some (.terminalSize size)) => doResize size
  | .parameter (some .none) => return .error (newError "unexpected parameter type")
  | _ => return .error (newError "unexpected message payload type")

/-- What reading from the connection yields. -/
inductive Delivery
  | message (m : Message)
  | notBinary
  | malformed (err : Error)
  /-- A read error, and whether it is an expected close by the peer. -/
  | failed (expected : Bool) (err : Error)

/-- `conn.ReadMessage` and the decoding of the bytes. -/
def readMessage (s : Session) : Delivery → Option (Delivery × Session)
  | .message m => some (.message m, { s with delivered := s.delivered ++ [m] })
  | d => some (d, s)

def onIncomingMessage {K : Type} (P : Primitives K) (cfg : ServerConfig) (d : Delivery) :
    Prog Bool := do
  let (closed, disconnecting) ← inspect fun s => (s.closed, s.disconnecting || s.shutdownReq)
  if closed then return false
  match d with
  | .failed expected err =>
    if expected || disconnecting then
      close
      return false
    else reportFailure (.error err)
  | .notBinary => reportFailure (.error (newError "unexpected message type"))
  | .malformed err => reportFailure (.error (.wrap "failed to unmarshal protobuf: " err ""))
  | .message m => reportFailure (← handleMessage P cfg m)

/-- `readWebTransportInitialMessageIfNeeded`. -/
def readInitialMessage : Prog (Except Error (Option Message)) := do
  let transport ← inspect (·.identity.transport)
  if transport ≠ "webtransport" ∨ cfg.endpointIdentity = none then return .ok none
  match ← choose readMessage with
  | .failed _ err => return .error err
  | .notBinary => return .error (newError "unexpected message type")
  | .malformed err => return .error (.wrap "failed to unmarshal protobuf: " err "")
  | .message .clientHello => return .ok none
  | .message m => return .ok (some m)

/-- `sendServerHelloIfConfigured`; the nonce is chosen by the random source. -/
def sendServerHelloIfConfigured : Prog Result :=
  match cfg.endpointIdentity with
  | none => return .ok ()
  | some identity =>
    andThen (external Bytes) fun nonce =>
    match webTTYPublicIdentityKeyEnvelopeSuite cfg.profile (identity.public cfg.profile) with
    | .error err => return .error err
    | .ok suite =>
      match e2ePayloadSuiteForKeyEnvelopeSuite cfg.profile suite with
      | .error err => return .error err
      | .ok _ =>
        andThen (atomic fun s =>
          if s.closed then (.error errClosed, s)
          else (.ok (), { s with identity := { s.identity with serverNonce := nonce } }))
          fun _ =>
        andThen (external Unit) fun _ =>
        writeMessage cfg .readLoop .serverHello

/-- `validateE2EConfig`; the checks of the FIPS profile are foreign. -/
def validateE2EConfig : Prog Result :=
  andThen (external Unit) fun _ =>
  if !cfg.payloadCryptoResolver then return .ok ()
  else if cfg.endpointIdentity = none then
    return .error (newError "WebTTY E2E server requires an endpoint identity")
  else if cfg.requireClientProof ≠ some true then
    return .error (newError "WebTTY E2E server requires client proof")
  else return .ok ()

/-- The part of `run` before the read loop, and the handling of the initial message. -/
def beginRun {K : Type} (P : Primitives K) (cfg : ServerConfig) : Prog Bool := do
  let prepared ← andThen (validateE2EConfig cfg) fun _ =>
    andThen (readInitialMessage cfg) fun initial =>
    andThen (sendServerHelloIfConfigured cfg) fun _ => return .ok initial
  match prepared with
  | .error err => reportFailure (.error err)
  | .ok initial =>
    let closed ← atomic fun s => (s.closed, { s with reading := !s.closed })
    if closed then return false
    match initial with
    | none => return true
    | some m =>
      if ← reportFailure (← handleMessage P cfg m) then return !(← inspect (·.closed))
      else return false

/-- One round of `readLoop`, after the opening part of `run`. -/
def readLoop {K : Type} (P : Primitives K) (cfg : ServerConfig) : Prog Bool := do
  if ← inspect (·.reading) then
    let d ← choose readMessage
    onIncomingMessage P cfg d
  else beginRun P cfg

/-- The body of each goroutine. -/
def body {K : Type} (P : Primitives K) (cfg : ServerConfig) (platform : Platform) :
    Goroutine → Prog Bool
  | .readLoop => readLoop P cfg
  | .stdoutLoop => streamLoop cfg platform .stdout
  | .stderrLoop => streamLoop cfg platform .stderr
  | .waitLoop => waitLoop cfg
  | .heartbeatLoop => heartbeatLoop cfg
  | .terminateProcess => terminateProcess
  | .openTimer => onOpenTimeout
  | .closeTimer => onCloseTimeout
  | .shutdown => shutdown

end Prog

/-- A session as a system of goroutines; nothing stops a goroutine from outside. -/
def sessionSystem {K : Type} (P : Primitives K) (cfg : ServerConfig) (platform : Prog.Platform) :
    System Goroutine Session where
  body := Prog.body P cfg platform
  abort := fun _ _ => none

end Rstream.WebTTY
