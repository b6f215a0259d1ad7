import Rstream.Go.Errors

/-!
# WebTTY protocol messages

The protobuf messages of `webtty/pb`, limited to the fields a modelled function
reads. A message field that Go holds by pointer is an `Option`; an open proto3
enumeration that the code only compares with its named members keeps the other
numbers in one constructor.
-/

namespace Rstream.WebTTY

/-- A byte slice; nil and the empty slice are not told apart. -/
abbrev Bytes := List UInt8

/-- The terminal stream a data message belongs to. -/
inductive DataType
  | stdin
  | stdout
  | stderr
  /-- A number outside the declared enumeration. -/
  | other (code : Nat)
  deriving DecidableEq, Repr

/-- `Data_Type.String`. -/
def DataType.name : DataType → String
  | .stdin => "TYPE_STDIN"
  | .stdout => "TYPE_STDOUT"
  | .stderr => "TYPE_STDERR"
  | .other code => toString code

/-- Per-payload encryption metadata. -/
structure PayloadCryptoMetadata where
  payloadSuite : Int32
  payloadKeyID : Bytes
  nonce : Bytes
  aadContext : Bytes
  deriving DecidableEq, Repr

/-- An encrypted stream payload. -/
structure EncryptedPayload where
  ciphertext : Bytes
  plaintextLength : UInt32
  payloadCrypto : Option PayloadCryptoMetadata
  deriving DecidableEq, Repr

/-- The payload of a data message. -/
inductive DataPayload
  /-- No member of the oneof is set. -/
  | none
  /-- Plaintext bytes. -/
  | data (bytes : Bytes)
  /-- End of the stream. -/
  | eos
  /-- Encrypted bytes. -/
  | encryptedData (payload : Option EncryptedPayload)
  deriving DecidableEq, Repr

/-- A data message. -/
structure Data where
  type : DataType
  payload : DataPayload
  deriving DecidableEq, Repr

/-- One recipient's envelope of the payload key. -/
structure KeyEnvelope where
  recipientKeyID : Bytes
  encapsulatedKey : Bytes
  wrappedKey : Bytes
  deriving DecidableEq, Repr

/-- A session-level key grant. -/
structure SessionKeyGrant where
  payloadSuite : Int32
  payloadKeyID : Bytes
  keyEnvelopes : List KeyEnvelope
  keyContext : Bytes
  keyEnvelopeSuite : Int32
  deriving DecidableEq, Repr

/-- The user to run a command as. -/
inductive Username
  | none
  | name (value : String)
  | id (value : UInt32)
  deriving DecidableEq, Repr

/-- The options of a command. -/
structure Options where
  interactive : Bool
  allocateTty : Bool
  sendHeartbeat : Bool
  deriving DecidableEq, Repr

/-- The command a client asks to run. -/
structure Config where
  options : Option Options
  cmdArgs : List String
  envVars : List (String × String)
  workdir : Option String
  username : Option Username
  deriving DecidableEq, Repr

/-- `Options.GetAllocateTty` on a possibly missing message. -/
def Config.allocateTty (c : Config) : Bool := (c.options.map Options.allocateTty).getD false

/-- The signed client transcript that accompanies an open request. -/
structure ClientProof where
  principalID : Option String
  signingKeyID : Bytes
  signingPublicKey : Bytes
  signatureSuite : Int32
  transcriptHash : Bytes
  signature : Bytes
  issuedAt : String
  expiresAt : String
  deviceID : Option String
  browserID : Option String
  credential : Option Bytes
  deriving DecidableEq, Repr

/-- A request to start a command. -/
structure Open where
  config : Option Config
  sessionKeyGrant : Option SessionKeyGrant
  clientProof : Option ClientProof
  deriving DecidableEq, Repr

/-- The code of a protocol error, as far as the code has a text of its own for it. -/
inductive ProtocolErrorCode
  | unknownServer
  | serverKeyChanged
  | serverProofInvalid
  | clientProofRequired
  | clientProofInvalid
  | clientUnauthorized
  | workspaceTrustRequired
  | workspaceDeviceUntrusted
  | registeredServerMismatch
  /-- Any other number. -/
  | other (code : Int32)
  deriving DecidableEq, Repr

/-- The window size a client reports. -/
structure TerminalSize where
  row : UInt32
  col : UInt32
  deriving DecidableEq, Repr

/-- A session parameter. -/
inductive Parameter
  | none
  | terminalSize (size : Option TerminalSize)
  deriving DecidableEq, Repr

/-- A protocol message by its payload. -/
inductive Message
  /-- No member of the oneof is set. -/
  | none
  | «open» (request : Option Open)
  | ack (terminate : Bool)
  | error (msg : Option String)
  | close (returnCode : Int)
  | data (data : Option Data)
  | parameter (parameter : Option Parameter)
  | heartbeat
  | attach
  | serverHello
  | protocolError (code : ProtocolErrorCode) (msg : String)
  | clientHello
  | terminate
  deriving DecidableEq, Repr

/-- The message is a data message. -/
def Message.isData : Message → Bool
  | .data _ => true
  | _ => false

/-- The message is the final close. -/
def Message.isClose : Message → Bool
  | .close _ => true
  | _ => false

/-- The leaf errors of the package; `text` carries every error without identity. -/
inductive Failure
  | clientProofRequired
  | clientProofInvalid
  | clientProofUnauthorized
  | clientProtocol
  | clientServer
  | clientUnexpected
  | text (msg : String)
  deriving DecidableEq, Repr

/-- An error of the package. -/
abbrev Error := Go.Err Failure

/-- `errors.New`. -/
def newError (msg : String) : Error := .leaf (.text msg)

/-- The text of a leaf error. -/
def Failure.msg : Failure → String
  | .clientProofRequired => "WebTTY client proof is required"
  | .clientProofInvalid => "WebTTY client proof is invalid"
  | .clientProofUnauthorized => "WebTTY client signing key is not authorized"
  | .clientProtocol => "protocol error"
  | .clientServer => "server error"
  | .clientUnexpected => "unexpected message"
  | .text msg => msg

end Rstream.WebTTY
