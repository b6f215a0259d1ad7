import Mathlib.Data.Finset.Insert
import Rstream.Core.Program
import Rstream.WebTTY.ClientProof

/-!
# The client's side of the output streams

`ClientSession.run` turns the messages of a server into the events its caller
reads; `clientRuntime.handleSessionMessage` writes them to the configured writers.
Both decode a payload with `decodeStreamPayload`. The histories `received` and
`output` are not part of the program.
-/

namespace Rstream.WebTTY

open Rstream.Core Go

/-- What happens to an output stream on the client. -/
inductive OutputEvent
  /-- A decrypt hook returned a plaintext. -/
  | decrypted (t : DataType) (payload : Option EncryptedPayload) (bytes : Bytes)
  /-- Bytes were handed to the caller. -/
  | delivered (t : DataType) (bytes : Bytes)
  deriving DecidableEq, Repr

/-- The outcome of a session: the exit code, and the error unless it ended well. -/
structure ClientResult where
  exitCode : Int
  err : Option Error
  deriving DecidableEq, Repr

/-- The state of a client after the server acknowledged its request. -/
structure Client where
  payloadCrypto : Option PayloadCrypto
  /-- The streams whose end was received; only a `ClientSession` keeps track of them. -/
  streamEOS : Finset DataType
  closeResult : Option ClientResult
  result : Option ClientResult
  received : List Message
  output : List OutputEvent
  deriving DecidableEq

/-- A client that has not received any output yet. -/
def newClient (crypto : Option PayloadCrypto) : Client where
  payloadCrypto := crypto
  streamEOS := ∅
  closeResult := none
  result := none
  received := []
  output := []

/-- A `ClientSessionStream` as text. -/
def DataType.stream : DataType → String
  | .stderr => "stderr"
  | _ => "stdout"

/-- The Go type of the payload of a message. -/
def Message.typeName : Message → String
  | .none => "<nil>"
  | .open _ => "*pb.Message_Open"
  | .ack _ => "*pb.Message_Ack"
  | .error _ => "*pb.Message_Error"
  | .close _ => "*pb.Message_Close"
  | .data _ => "*pb.Message_Data"
  | .parameter _ => "*pb.Message_Parameter"
  | .heartbeat => "*pb.Message_Heartbeat"
  | .attach => "*pb.Message_Attach"
  | .serverHello => "*pb.Message_ServerHello"
  | .protocolError _ _ => "*pb.Message_ProtocolError"
  | .clientHello => "*pb.Message_ClientHello"
  | .terminate => "*pb.Message_Terminate"

def webTTYProtocolErrorMessage (code : ProtocolErrorCode) (msg : String) : String :=
  if trimSpace msg ≠ "" then trimSpace msg
  else
    match code with
    | .unknownServer => "known WebTTY server endpoint identity is required"
    | .serverKeyChanged =>
      "WebTTY server endpoint identity does not match the configured known server"
    | .serverProofInvalid => "WebTTY server proof is invalid"
    | .clientProofRequired => "WebTTY client proof is required"
    | .clientProofInvalid => "WebTTY client proof is invalid"
    | .clientUnauthorized => "WebTTY client signing key is not authorized"
    | .workspaceTrustRequired => "workspace trust is required"
    | .workspaceDeviceUntrusted => "workspace device is not trusted"
    | .registeredServerMismatch => "registered WebTTY server identity does not match"
    | .other _ => "WebTTY protocol error"

/-- `errClientServer` with a message of the server. -/
def serverError (msg : String) : Error := .wrap "" (.leaf .clientServer) (": " ++ msg)

def webTTYProtocolError (code : ProtocolErrorCode) (msg : String) : Error :=
  if webTTYProtocolErrorMessage code msg = "" then .leaf .clientServer
  else serverError (webTTYProtocolErrorMessage code msg)

/-- `errClientUnexpected` for a message. -/
def unexpectedMessage (m : Message) : Error :=
  .wrap "" (.leaf .clientUnexpected) (": " ++ m.typeName)

/-- A program on the client's state. -/
abbrev ClientProg := Program Client

namespace ClientProg

open Program

/-- The decrypt hook of an output stream. -/
def decryptHook (t : DataType) (crypto : Option PayloadCrypto) : Bool :=
  match t with
  | .stdout => crypto.any PayloadCrypto.decryptStdout
  | .stderr => crypto.any PayloadCrypto.decryptStderr
  | _ => false

/-- A call of the decrypt hook; a plaintext it returns enters the history. -/
def decryptStream (t : DataType) (payload : Option EncryptedPayload) (s : Client) :
    Except Error Bytes → Option (Except Error Bytes × Client)
  | .error err => some (.error (.wrap s!"failed to decrypt WebTTY {t.name} payload: " err ""), s)
  | .ok bytes => some (.ok bytes, { s with output := s.output ++ [.decrypted t payload bytes] })

/-- `decodeStreamPayload`; `none` stands for a payload without bytes. -/
def decodeStreamPayload (t : DataType) (decrypt : Bool) :
    DataPayload → ClientProg (Except Error (Option Bytes))
  | .data bytes => return .ok (some bytes)
  | .eos => return .ok none
  | .encryptedData payload => do
    if decrypt then
      match ← choose (decryptStream t payload) with
      | .error err => return .error err
      | .ok bytes => return .ok (some bytes)
    else return .error (newError s!"encrypted WebTTY {t.name} payload requires a decrypt hook")
  | .none => return .error (newError "unexpected data payload type: <nil>")

/-- The common part of `handleData` and `decodeClientSessionEvent`. -/
def decodeOutput (data : Data) : ClientProg (Except Error (Option Bytes)) := do
  let decrypt ← inspect fun s => decryptHook data.type s.payloadCrypto
  decodeStreamPayload data.type decrypt data.payload

/-- The streams a server writes to. -/
def isOutput : DataType → Bool
  | .stdout => true
  | .stderr => true
  | _ => false

/-- The error for data of any other stream. -/
def unexpectedStream (t : DataType) : Error :=
  newError s!"unexpected data stream type: {t.name}"

/-- Hand bytes to the caller, unless the session is cancelled first. -/
def sendEvent (t : DataType) (bytes : Bytes) (s : Client) :
    Option Error → Option (Option Error × Client)
  | some err => some (some err, s)
  | none => some (none, { s with output := s.output ++ [.delivered t bytes] })

/-- `writeAll`: nothing is written for an empty payload; the writer may fail on the way. -/
def writeAll (t : DataType) (bytes : Bytes) : ClientProg (Except Error Unit) :=
  if bytes = [] then return .ok ()
  else choose fun s (outcome : Except Error Unit) =>
    some (outcome, { s with output := s.output ++ [.delivered t bytes] })

/-- The bookkeeping of `decodeEvent` on the ends of the streams. -/
def trackEOS (data : Data) (s : Client) : Except Error Bool × Client :=
  if data.payload = .eos then
    if data.type ∈ s.streamEOS then
      (.error (newError s!"received duplicate WebTTY {data.type.stream} end of stream"), s)
    else (.ok false, { s with streamEOS := insert data.type s.streamEOS })
  else if data.type ∈ s.streamEOS then
    (.error (newError s!"received WebTTY {data.type.stream} data after end of stream"), s)
  else (.ok true, s)

/-- `ClientSession.decodeEvent`. -/
def decodeEvent (data : Option Data) : ClientProg (Except Error (Option (DataType × Bytes))) :=
  match data with
  | none => return .error (newError "received empty data message")
  | some data =>
    if isOutput data.type then do
      match ← atomic (trackEOS data) with
      | .error err => return .error err
      | .ok false => return .ok none
      | .ok true =>
        match ← decodeOutput data with
        | .error err => return .error err
        | .ok bytes => return .ok (bytes.map fun bytes => (data.type, bytes))
    else return .error (unexpectedStream data.type)

/-- `ClientSession.finalize`, which takes effect once. -/
def finalize (exitCode : Int) (err : Option Error) : ClientProg Unit :=
  atomic fun s =>
    let result := if err.isSome then s.closeResult.getD ⟨exitCode, err⟩ else ⟨exitCode, err⟩
    ((), { s with result := s.result.or (some result) })

/-- End the loop of a session with an error. -/
def failSession (err : Error) : ClientProg Bool := do
  finalize (-1) (some err)
  return false

/-- What the loop of a session selects on. -/
inductive Selected
  | cancelled (err : Error)
  | closed
  | failed (err : Error)
  | empty
  | message (m : Message)
  | loop (err : Option Error)

/-- The next event of the loop; a message enters the history. -/
def select (s : Client) : Selected → Option (Selected × Client)
  | .message m => some (.message m, { s with received := s.received ++ [m] })
  | event => some (event, s)

/-- The part of `ClientSession.run` that handles a message. -/
def onMessage (m : Message) : ClientProg Bool :=
  match m with
  | .data data => do
    match ← decodeEvent data with
    | .error err => failSession err
    | .ok none => return true
    | .ok (some (t, bytes)) =>
      match ← choose (sendEvent t bytes) with
      | some err => failSession err
      | none => return true
  | .close code => do
    finalize code none
    return false
  | .heartbeat => return true
  | .error (some msg) =>
    if trimSpace msg ≠ "" then failSession (serverError (trimSpace msg))
    else failSession (.leaf .clientServer)
  | .error none => failSession (.leaf .clientServer)
  | .protocolError code msg => failSession (webTTYProtocolError code msg)
  | m => failSession (unexpectedMessage m)

/-- One round of `ClientSession.run`. -/
def run : ClientProg Bool := do
  match ← choose select with
  | .cancelled err => failSession err
  | .closed => failSession (newError "EOF")
  | .failed err => failSession err
  | .empty => failSession (.leaf .clientProtocol)
  | .message m => onMessage m
  | .loop none => return true
  | .loop (some err) => failSession err

/-- `requestClose` by the caller; only its first call has an effect. -/
def requestClose : ClientProg Bool := do
  let result ← receive ClientResult
  atomic fun s => ((), { s with closeResult := s.closeResult.or (some result) })
  return true

/-- `clientRuntime.handleData`. -/
def handleData (data : Option Data) : ClientProg (Except Error Unit) :=
  match data with
  | none => return .error (newError "received empty data message")
  | some data =>
    if isOutput data.type then do
      match ← decodeOutput data with
      | .error err => return .error err
      | .ok none => return .ok ()
      | .ok (some bytes) =>
        match ← writeAll data.type bytes with
        | .error err => return .error (.wrap "failed to write stream payload: " err "")
        | .ok _ => return .ok ()
    else return .error (unexpectedStream data.type)

/-- `clientRuntime.handleSessionMessage`: the outcome once the session is over. -/
def handleSessionMessage (m : Message) : ClientProg (Option ClientResult) :=
  match m with
  | .data data => do
    match ← handleData data with
    | .error err => return some ⟨-1, some err⟩
    | .ok _ => return none
  | .close code => return some ⟨code, none⟩
  | .heartbeat => return none
  | .error (some msg) =>
    if trimSpace msg ≠ "" then return some ⟨-1, some (serverError msg)⟩
    else return some ⟨-1, some (.leaf .clientServer)⟩
  | .error none => return some ⟨-1, some (.leaf .clientServer)⟩
  | .protocolError code msg => return some ⟨-1, some (webTTYProtocolError code msg)⟩
  | m => return some ⟨-1, some (unexpectedMessage m)⟩

/-- Handle one message after the other until the session is over. -/
def handleMessages : ClientProg Bool := do
  let m ← choose fun s (m : Message) => some (m, { s with received := s.received ++ [m] })
  match ← handleSessionMessage m with
  | none => return true
  | some result =>
    atomic fun s => ((), { s with result := some result })
    return false

end ClientProg

/-- The goroutines of a `ClientSession` that decide about its events and its outcome. -/
inductive ClientThread
  | run
  | caller
  deriving DecidableEq, Repr

/-- A `ClientSession` as a system. -/
def clientSessionSystem : System ClientThread Client where
  body
    | .run => ClientProg.run
    | .caller => ClientProg.requestClose
  abort := fun _ _ => none

/-- The message handling of a `clientRuntime` as a system. -/
def clientRuntimeSystem : System Unit Client where
  body _ := ClientProg.handleMessages
  abort := fun _ _ => none

end Rstream.WebTTY
