import Rstream.WebTTY.ClientProofSoundness
import Rstream.WebTTY.SessionRules

/-!
# A sample run of a session

The run from the greeting to a shell with end-to-end encryption, in which every call
succeeds and no other goroutine interferes. The statements about whole runs go on from here.
-/

namespace Rstream.WebTTY

open Rstream.Core

/-- A limit on runs that only concerns the delivery of messages. -/
def DeliveryLimit (allow : Session → Session → Prop) : Prop :=
  ∀ s s', s'.delivered = s.delivered → allow s s'

namespace Prog

open Program

variable {allow : Session → Session → Prop}

/-- The state of the sample session once its shell runs. -/
def openedSession (crypto : PayloadCrypto) : Session where
  identity := sampleSession
  cmd := true
  stdinPipe := true
  streamsActive := 2
  streamsOpen := some {.stdout, .stderr}
  opened := true
  payloadCrypto := some crypto
  client := some ⟨sampleUnsigned.signingKeyID, "alice", "", ""⟩
  reading := true
  started := {.waitLoop}
  sessionKeyGrant := sampleOpen.sessionKeyGrant
  delivered := [.open (some sampleOpen)]
  wire := [.serverHello, .ack false]

/-- The session that receives the sample request runs a shell with end-to-end encryption. -/
theorem openedSession_reach (hallow : DeliveryLimit allow) (crypto : PayloadCrypto)
    (platform : Platform) (hopen : ∀ s : Session, s.sessionKeyGrant = none →
      allow s { s with delivered := s.delivered ++ [.open (some sampleOpen)] }) :
    (sessionSystem samplePrimitives sampleServer platform).Reach allow
      (newSession sampleServer "session" "websocket")
      ⟨openedSession crypto, (sessionSystem samplePrimitives sampleServer platform).body⟩ := by
  have hquiet : ∀ {s s' : Session}, s'.delivered = s.delivered → allow s s' := hallow _ _
  let greeted : Session :=
    { identity := sampleSession, reading := true, wire := [.serverHello], payloadCrypto := none }
  have hhello : Solo allow (readLoop samplePrimitives sampleServer)
      (newSession sampleServer "session" "websocket") true greeted :=
    .act () rfl (hquiet rfl) <| .act (.ok () : Result) rfl (hquiet rfl) <|
      .act () rfl (hquiet rfl) <| .act (.ok [7] : Except Error Bytes) rfl (hquiet rfl) <|
      .act () rfl (hquiet rfl) <| .act (.ok () : Result) rfl (hquiet rfl) <|
      .act (.ok () : Result) rfl (hquiet rfl) <| .act () rfl (hquiet rfl) <|
      .act () rfl (hquiet rfl) <| .act WriteOutcome.written rfl (hquiet rfl) <|
      .act () rfl (hquiet rfl) <| .act () rfl (hquiet rfl) <| .done _ _
  have hproof : Solo allow (checkProof samplePrimitives sampleServer sampleOpen)
      { greeted with opening := true, delivered := [.open (some sampleOpen)] } (.ok ())
      { greeted with opening := true, delivered := [.open (some sampleOpen)],
                     client := (openedSession crypto).client } := by
    refine (Solo.receive sampleNow (hquiet rfl)).bind (.atomic ?_ (hquiet rfl))
    rw [show _ = _ from sampleProof_accepted]
    rfl
  have hround : Solo allow (readLoop samplePrimitives sampleServer) greeted true
      (openedSession crypto) :=
    .act () rfl (hquiet rfl) <|
      .act (Delivery.message (.open (some sampleOpen))) rfl (hopen greeted rfl) <|
      .act () rfl (hquiet rfl) <| .act () rfl (hquiet rfl) <| .act () rfl (hquiet rfl) <|
      hproof.bind <| .act (.ok () : Result) rfl (hquiet rfl) <|
      .act (.ok (some crypto) : Except Error (Option PayloadCrypto)) rfl (hquiet rfl) <|
      .act (.ok false : Except Error Bool) rfl (hquiet rfl) <|
      .act () rfl (hquiet rfl) <| .act () rfl (hquiet rfl) <|
      .act (.ok () : Result) rfl (hquiet rfl) <|
      .act () rfl (hquiet rfl) <| .act () rfl (hquiet rfl) <|
      .act WriteOutcome.written rfl (hquiet rfl) <| .act () rfl (hquiet rfl) <|
      .act () rfl (hquiet rfl) <| .done _ _
  have hstart : (sessionSystem samplePrimitives sampleServer platform).Reach allow
      (newSession sampleServer "session" "websocket") _ := .start
  exact (hstart.round .readLoop hhello (hquiet rfl)).round .readLoop hround (hquiet rfl)

end Prog

end Rstream.WebTTY
