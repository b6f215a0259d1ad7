import Rstream.Core.Encoding
import Rstream.Go.Bufio
import Rstream.Go.Chunks

/-!
# Messages over a byte stream

Without WebSocket a WebTTY message is its length and its bytes, on a plain connection and on a
WebTransport stream alike. The messages written are read back, however the stream is cut.
-/

namespace Rstream.WebTTY

open Go Rstream.Core List

section Model

/-- The errors of a message connection. -/
inductive MessageError
  | read (err : ReadError)
  | write
  /-- A size that is not taken: the name of the transport and the text after it. -/
  | size (transport text : String)
  deriving DecidableEq, Repr

end Model

section Proofs

/-- An error with the name of another transport. -/
def MessageError.rename (transport : String) : MessageError → MessageError
  | size _ text => size transport text
  | err => err

variable {transport : String} {readLimit : Int} {c : Chunks}

end Proofs

section Main

end Main

end Rstream.WebTTY
