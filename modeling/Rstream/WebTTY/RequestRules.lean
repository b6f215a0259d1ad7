import Rstream.WebTTY.SessionRules

/-!
# The read loop

One rule for every property of a session that concerns the read loop: what is known
between two messages, what is known once a message was read, and a triple for the
handling of each message. What `handleMessage` does with anything but an open request
is bookkeeping for most properties, so a second rule leaves only `handleOpen`.
-/

namespace Rstream.WebTTY

open Rstream.Core

/-- A relation that tolerates what the read loop does around the handling of a message. -/
structure Receiving (R : Session → Session → Prop) : Prop extends Quiet R where
  deliver : ∀ (s : Session) m, R s { s with delivered := s.delivered ++ [m] }
  identity : ∀ (s : Session) identity, R s { s with identity := identity }
  reading : ∀ (s : Session) b, R s { s with reading := b }
  push : ∀ (s : Session) m, m.isData = false → m.isClose = false → R s (s.push m)

/-- A relation that also tolerates the handling of every message but an open request. -/
structure Serving (R : Session → Session → Prop) : Prop extends Receiving R where
  takeInput : ∀ (s : Session) payload, R s (s.takeInput payload).2
  input : ∀ (s : Session) events, R s { s with input := events }
  dropStdin : ∀ s : Session, R s s.dropStdin
  handleTerminate : ∀ s : Session, R s s.handleTerminate.2

/-- What the read loop knows between two messages (`idle`) and of a message it has read
(`asked`), in runs under a contract. -/
structure ReadLoopSpec (C : Contract Goroutine Session) (R : Session → Session → Prop)
    (idle : Session → Prop) (asked : Message → Session → Prop) : Prop where
  receiving : Receiving R
  keeps : ∀ {s s'}, C.inv s → R s s' → C.Keeps .readLoop s s'
  idle_kept : ∀ {s s'}, R s s' → idle s → idle s'
  idle_stable : C.Stable .readLoop idle
  asked_kept : ∀ {m s s'}, R s s' → asked m s → asked m s'
  asked_stable : ∀ m, C.Stable .readLoop (asked m)
  asked_idle : ∀ {m s}, asked m s → idle s
  deliver : ∀ {s m}, C.inv s → idle s →
    C.allow s { s with delivered := s.delivered ++ [m] } →
    asked m { s with delivered := s.delivered ++ [m] }

namespace Prog

open Program

variable {R : Session → Session → Prop} {cfg : ServerConfig}

theorem sendServerHello_respects (hR : Receiving R) :
    (sendServerHelloIfConfigured cfg).Respects R := by
  unfold sendServerHelloIfConfigured
  split
  · exact .pure _
  · refine andThen_respects (external_respects hR.toQuiet _) fun nonce => ?_
    split
    · exact .pure _
    · split
      · exact .pure _
      · refine andThen_respects (.atomic fun s => ?_) fun _ => ?_
        · split
          · exact hR.refl s
          · exact hR.identity s _
        · refine andThen_respects (external_respects hR.toQuiet _) fun _ => ?_
          exact writeMessage_respects hR.toQuiet fun s => hR.push s _ rfl rfl

theorem writeStdinPayload_respects (hR : Serving R) (handles : Session.InputHandles)
    (payload : Bytes) : (writeStdinPayload handles payload).Respects R := by
  unfold writeStdinPayload
  split
  · refine .choose fun s i b s' h => ?_
    cases h
    exact hR.input s _
  · split
    · refine .bind (.choose fun s i b s' h => ?_) fun outcome => ?_
      · cases h
        exact hR.input s _
      · cases outcome
        · exact .pure _
        · exact .bind (.atomic hR.dropStdin) fun _ => external_respects hR.toQuiet Unit
        · exact .pure _
    · exact .pure _

theorem handleData_respects (hR : Serving R) (data : Option Data) :
    (handleData data).Respects R := by
  rcases data with _ | data
  · exact .pure _
  · unfold handleData
    simp only
    split
    · exact .pure _
    · refine andThen_respects (.atomic fun s => hR.takeInput s _) fun handles => ?_
      cases data.payload with
      | none => exact .pure _
      | data bytes =>
        simp only
        split
        · exact .pure _
        · exact writeStdinPayload_respects hR handles bytes
      | eos =>
        simp only
        split
        · exact .pure _
        · split
          · exact external_respects hR.toQuiet Unit
          · exact .pure _
      | encryptedData payload =>
        simp only
        split
        · exact .pure _
        · split
          · refine andThen_respects (.choose fun s i b s' h => ?_) fun plaintext =>
              writeStdinPayload_respects hR handles plaintext
            rcases i with err | plaintext <;> cases h
            · exact hR.refl s
            · exact hR.input s _
          · exact .pure _

end Prog

namespace ReadLoopSpec

open Prog Program

variable {C : Contract Goroutine Session} {R : Session → Session → Prop} {idle : Session → Prop}
  {asked : Message → Session → Prop} {K : Type} {P : Primitives K} {cfg : ServerConfig}

/-- What is known of a message that may have been read. -/
def Pending (idle : Session → Prop) (asked : Message → Session → Prop) :
    Option Message → Session → Prop
  | none => idle
  | some m => asked m

/-- The message of a delivery. -/
def delivered : Delivery → Option Message
  | .message m => some m
  | _ => none

/-- The initial message that was read before the greeting. -/
def initial : Except Error (Option Message) → Option Message
  | .ok m => m
  | .error _ => none

variable (h : ReadLoopSpec C R idle asked)
include h

/-- A message that was read leaves the session idle unless it is handled. -/
theorem pending_idle {m : Option Message} {s : Session} (hs : Pending idle asked m s) : idle s := by
  cases m with
  | none => exact hs
  | some m => exact h.asked_idle hs

theorem pending_stable (m : Option Message) : C.Stable .readLoop (Pending idle asked m) := by
  cases m with
  | none => exact h.idle_stable
  | some m => exact h.asked_stable m

/-- Bookkeeping keeps what is known of a message. -/
theorem pending_triple {α : Type} {p : Prog α} (m : Option Message) (hp : p.Respects R) :
    C.Triple .readLoop (Pending idle asked m) p fun _ => Pending idle asked m := by
  refine .of_respects hp (h.pending_stable m) fun s s' hinv hs hR => ⟨h.keeps hinv hR, ?_⟩
  cases m with
  | none => exact h.idle_kept hR hs
  | some m => exact h.asked_kept hR hs

theorem idle_triple {α : Type} {p : Prog α} (hp : p.Respects R) :
    C.Triple .readLoop idle p fun _ => idle :=
  h.pending_triple none hp

/-- A message whose handling is bookkeeping. -/
theorem serve_triple {α : Type} {p : Prog α} (m : Message) (hp : p.Respects R) :
    C.Triple .readLoop (asked m) p fun _ => idle :=
  (h.pending_triple (some m) hp).weaken fun _ _ => h.asked_idle

/-- What is known after a read from the connection. -/
theorem readMessage_triple : C.Triple .readLoop idle (choose readMessage)
    fun d => Pending idle asked (delivered d) := by
  refine .choose h.idle_stable fun s i d s' hinv hs hstep hallow => ?_
  cases i with
  | message m =>
    cases hstep
    exact ⟨h.keeps hinv (h.receiving.deliver s m), h.deliver hinv hs hallow⟩
  | _ =>
    cases hstep
    exact ⟨.refl hinv, hs⟩

theorem reportFailure_triple (r : Result) :
    C.Triple .readLoop idle (reportFailure r) fun _ => idle :=
  h.idle_triple (reportFailure_respects h.receiving.toQuiet r)

/-- An incoming message is handled unless the session is closed. -/
theorem onIncomingMessage_triple
    (hhandle : ∀ m, C.Triple .readLoop (asked m) (handleMessage P cfg m) fun _ => idle)
    (d : Delivery) :
    C.Triple .readLoop (Pending idle asked (delivered d)) (onIncomingMessage P cfg d)
      fun _ => idle := by
  have hquiet := h.receiving.toQuiet
  refine .bind (h.pending_triple _ (inspect_respects hquiet _)) fun flags => ?_
  rcases flags with ⟨closed, disconnecting⟩
  simp only
  split
  · exact .pure fun _ hs => h.pending_idle hs
  · cases d with
    | message m => exact .bind (hhandle m) fun r => h.reportFailure_triple r
    | notBinary | malformed => exact h.reportFailure_triple _
    | failed expected err =>
      simp only
      split
      · exact .bind (h.idle_triple (close_respects hquiet)) fun _ => .pure fun _ hs => hs
      · exact h.reportFailure_triple _

/-- The initial message of a WebTransport session is kept until the greeting is sent. -/
theorem prepareRun_triple : C.Triple .readLoop idle (andThen (validateE2EConfig cfg) fun _ =>
      andThen (readInitialMessage cfg) fun initial =>
      andThen (Prog.sendServerHelloIfConfigured cfg) fun _ => return .ok initial)
    fun r => Pending idle asked (initial r) := by
  have hquiet := h.receiving.toQuiet
  have hread : C.Triple .readLoop idle (readInitialMessage cfg)
      fun r => Pending idle asked (initial r) := by
    refine .bind (h.idle_triple (inspect_respects hquiet _)) fun transport => ?_
    split
    · exact .pure fun _ hs => hs
    · refine .bind h.readMessage_triple fun d => ?_
      cases d with
      | message m =>
        cases m with
        | clientHello => exact .pure fun _ hs => h.asked_idle hs
        | _ => exact .pure fun _ hs => hs
      | _ => exact .pure fun _ hs => hs
  refine andThen_triple (h.idle_triple (validateE2EConfig_respects hquiet)) (fun _ _ hs => hs)
    fun _ => ?_
  refine andThen_triple hread (fun _ _ hs => hs) fun m => ?_
  refine andThen_triple (h.pending_triple m (sendServerHello_respects h.receiving))
    (fun _ _ hs => h.pending_idle hs) fun _ => ?_
  exact .pure fun _ hs => hs

/-- A session begins by greeting the peer and enters its read loop. -/
theorem beginRun_triple
    (hhandle : ∀ m, C.Triple .readLoop (asked m) (handleMessage P cfg m) fun _ => idle) :
    C.Triple .readLoop idle (beginRun P cfg) fun _ => idle := by
  refine .bind h.prepareRun_triple fun prepared => ?_
  rcases prepared with err | m
  · exact h.reportFailure_triple _
  refine .bind (h.pending_triple m (.atomic fun s => h.receiving.reading s _)) fun closed => ?_
  cases closed
  · rcases m with _ | m
    · exact .pure fun _ hs => hs
    · refine .bind (hhandle m) fun r => .bind (h.reportFailure_triple r) fun ok => ?_
      cases ok
      · exact .pure fun _ hs => hs
      · refine .bind (h.idle_triple (inspect_respects h.receiving.toQuiet _)) fun _ => ?_
        exact .pure fun _ hs => hs
  · exact .pure fun _ hs => h.pending_idle hs

/-- A round of the read loop leaves the session idle if the handling of every message does. -/
theorem readLoop_triple
    (hhandle : ∀ m, C.Triple .readLoop (asked m) (handleMessage P cfg m) fun _ => idle) :
    C.Triple .readLoop idle (readLoop P cfg) fun _ => idle := by
  refine .bind (h.idle_triple (inspect_respects h.receiving.toQuiet _)) fun reading => ?_
  cases reading
  · exact h.beginRun_triple hhandle
  · exact .bind h.readMessage_triple fun d => h.onIncomingMessage_triple hhandle d

/-- Where the other messages are bookkeeping, only the open request is left. -/
theorem handleMessage_triple (hR : Serving R)
    (hopen : ∀ request, C.Triple .readLoop (asked (.open request)) (handleOpen P cfg request)
      fun _ => idle) (m : Message) :
    C.Triple .readLoop (asked m) (handleMessage P cfg m) fun _ => idle := by
  refine .bind (h.pending_triple (some m) (inspect_respects hR.toQuiet _)) fun closed => ?_
  have hdone : ∀ {m} (r : Result), C.Triple .readLoop (asked m) (pure r) fun _ => idle :=
    fun r => .pure fun _ hs => h.asked_idle hs
  cases closed
  · simp only [Bool.false_eq_true, if_false]
    cases m with
    | «open» request => exact hopen request
    | data data => exact h.serve_triple _ (handleData_respects hR data)
    | attach =>
      refine .bind (h.serve_triple _ (sendError_respects hR.toQuiet hR.push _)) fun _ => ?_
      exact .pure fun _ hs => hs
    | terminate => exact h.serve_triple _ (.atomic hR.handleTerminate)
    | error msg =>
      cases msg
      · exact hdone _
      · simp only
        split <;> exact hdone _
    | parameter parameter =>
      rcases parameter with _ | _ | size
      · exact hdone _
      · exact hdone _
      · exact h.serve_triple _ (doResize_respects hR.toQuiet _)
    | _ => exact hdone _
  · exact hdone _

end ReadLoopSpec

end Rstream.WebTTY
