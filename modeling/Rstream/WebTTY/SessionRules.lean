import Rstream.Core.RelyGuarantee
import Rstream.WebTTY.SessionProgram

/-!
# Side effects of the session programs

What the helper functions of a session may change, stated once for every relation
on states that tolerates the bookkeeping they do: closing the session and holding
`writeMu`.
-/

namespace Rstream.WebTTY

open Rstream.Core

variable {α : Type}

/-- The session after one more message on the wire. -/
def Session.push (m : Message) (s : Session) : Session := { s with wire := s.wire ++ [m] }

/-- A relation that tolerates the bookkeeping of the helper functions. -/
structure Quiet (R : Session → Session → Prop) : Prop where
  refl : ∀ s, R s s
  close : ∀ s : Session, R s s.detachCleanupLocked
  writeMu : ∀ (s : Session) (g : Option Goroutine), R s { s with writeMu := g }
  client : ∀ (s : Session) (c : Option ClientIdentity), R s { s with client := c }

variable {C : Contract Goroutine Session} {A : Session → Prop}

namespace Prog

open Program

variable {R : Session → Session → Prop} {cfg : ServerConfig} {g : Goroutine}
  {K : Type} {P : Primitives K}

section

variable (hR : Quiet R)
include hR

theorem close_respects : close.Respects R := .atomic hR.close

theorem external_respects (α : Type) : (external α).Respects R :=
  .receive hR.refl _

theorem inspect_respects (f : Session → α) : (inspect f).Respects R :=
  .inspect hR.refl f

theorem awaitStart_respects : (awaitStart g).Respects R := by
  refine .choose ?_
  intro s i b s' h
  split at h
  · cases h
    exact hR.refl s
  · cases h

theorem error_respects (err : Error) : (error err).Respects R := by
  refine .bind (inspect_respects hR _) fun closed => ?_
  cases closed
  · exact close_respects hR
  · exact .pure ()

theorem lockWriteMu_respects : (lockWriteMu g).Respects R := by
  refine .choose ?_
  intro s i b s' h
  split at h
  · cases h
    exact hR.writeMu s (some g)
  · cases h

theorem unlockWriteMu_respects : unlockWriteMu.Respects R :=
  .atomic fun s => hR.writeMu s none

theorem startCloseHandshake_respects
    (hdisconnecting : ∀ s : Session, R s { s with disconnecting := true }) :
    startCloseHandshake.Respects R := by
  refine .bind (.atomic fun s => ?_) fun started => ?_
  · split
    · exact hR.refl s
    · exact hdisconnecting s
  · cases started
    · exact .pure ()
    · refine .bind (external_respects hR Unit) fun r => ?_
      rcases r with err | ⟨⟩
      · exact close_respects hR
      · exact .pure ()

theorem reportFailure_respects (r : Result) : (reportFailure r).Respects R := by
  rcases r with err | ⟨⟩
  · exact .bind (error_respects hR err) fun _ => .pure _
  · exact .pure _

end

theorem andThen_respects {β : Type} {p : Prog (Except Error α)}
    {rest : α → Prog (Except Error β)} (hp : p.Respects R) (hrest : ∀ a, (rest a).Respects R) :
    (andThen p rest).Respects R := by
  refine .bind hp fun r => ?_
  rcases r with err | a
  · exact .pure _
  · exact hrest a

/-- A step that fails ends the program; one that succeeds hands over to the rest. -/
theorem andThen_triple {β : Type} {p : Prog (Except Error α)} {rest : α → Prog (Except Error β)}
    {Q : Except Error α → Session → Prop} {Z : Except Error β → Session → Prop}
    (hp : C.Triple g A p Q) (hfail : ∀ s err, Q (.error err) s → Z (.error err) s)
    (hrest : ∀ a, C.Triple g (Q (.ok a)) (rest a) Z) : C.Triple g A (andThen p rest) Z := by
  refine .bind hp fun r => ?_
  rcases r with err | a
  · exact .pure fun s h => hfail s err h
  · exact hrest a

section

variable (hR : Quiet R)
include hR

theorem waitOwnedProcessExit_respects : waitOwnedProcessExit.Respects R := by
  refine .bind (inspect_respects hR _) fun group => ?_
  cases group
  · exact .pure ()
  · refine .bind (external_respects hR Unit) fun r => ?_
    rcases r with err | ⟨⟩
    · exact error_respects hR _
    · exact .pure ()

theorem awaitPipes_respects (pty : Bool) : (awaitPipes pty).Respects R := by
  cases pty
  · refine .choose ?_
    intro s i b s' h
    split at h
    · cases h
      exact hR.refl s
    · cases h
  · exact .pure ()

theorem checkProof_respects (request : Open) : (checkProof P cfg request).Respects R := by
  refine .bind (.receive hR.refl _) fun now => .atomic fun s => ?_
  split
  · exact hR.refl s
  · exact hR.refl s
  · exact hR.client s _

theorem resolveCrypto_respects (grant : Option SessionKeyGrant) :
    (resolveCrypto cfg grant).Respects R := by
  unfold resolveCrypto
  split
  · split <;> exact .pure _
  · split
    · exact .pure _
    · refine .bind (external_respects hR _) fun r => ?_
      rcases r with err | crypto <;> exact .pure _

theorem prepareOpen_respects (request : Option Open) : (prepareOpen P cfg request).Respects R := by
  unfold prepareOpen
  split
  · refine andThen_respects (checkProof_respects hR _) fun _ => ?_
    refine andThen_respects (external_respects hR _) fun _ => ?_
    refine andThen_respects (resolveCrypto_respects hR _) fun crypto => ?_
    refine andThen_respects (external_respects hR _) fun group => ?_
    split <;> exact .pure _
  · exact .pure _

theorem doResize_respects (size : Option TerminalSize) : (doResize size).Respects R := by
  refine .bind (inspect_respects hR _) fun flags => ?_
  rcases flags with ⟨closed, pty⟩
  simp only
  split
  · exact .pure _
  · split
    · exact .pure _
    · split
      · exact .pure _
      · exact external_respects hR Unit

theorem validateE2EConfig_respects : (validateE2EConfig cfg).Respects R := by
  refine andThen_respects (external_respects hR Unit) fun _ => ?_
  repeat' split
  all_goals exact .pure _

theorem onOpenTimeout_respects : onOpenTimeout.Respects R := by
  refine .bind (inspect_respects hR _) fun stop => ?_
  cases stop
  · exact .bind (close_respects hR) fun _ => .pure _
  · exact .pure _

theorem onCloseTimeout_respects : onCloseTimeout.Respects R := by
  refine .bind (inspect_respects hR _) fun stop => ?_
  cases stop
  · exact .bind (close_respects hR) fun _ => .pure _
  · exact .pure _

theorem shutdown_respects
    (hshutdown : ∀ s : Session, R s { s with shutdownReq := true }) : shutdown.Respects R := by
  refine .bind (.atomic fun s => ?_) fun running => ?_
  · split
    · exact hR.refl s
    · exact hshutdown s
  · refine .bind (.receive hR.refl _) fun forced => ?_
    split
    · exact .bind (close_respects hR) fun _ => .pure _
    · exact .pure _

theorem terminateProcess_respects : terminateProcess.Respects R := by
  refine .bind (awaitStart_respects hR) fun _ => ?_
  refine .bind (external_respects hR Unit) fun r => ?_
  exact .bind (reportFailure_respects hR r) fun _ => .pure _

/-- Writing a message only does bookkeeping around the write itself. -/
theorem writeMessage_respects {m : Message}
    (hpush : ∀ s : Session, R s (s.push m)) : (writeMessage cfg g m).Respects R := by
  have hwrite : (choose (connWrite m)).Respects R := by
    refine .choose ?_
    intro s i r s' h
    rcases i with _ | ⟨_ | _, err⟩ <;> cases h
    · exact hpush s
    · exact hR.refl s
    · exact hpush s
  refine .bind (external_respects hR Unit) fun r => ?_
  rcases r with err | ⟨⟩
  · exact .pure _
  · refine .bind (lockWriteMu_respects hR) fun _ => ?_
    refine .bind (.bind (inspect_respects hR _) fun closed => ?_) fun r =>
      .bind (unlockWriteMu_respects hR) fun _ => .pure _
    cases closed
    · simp only [Bool.false_eq_true, if_false]
      split
      · refine .bind (external_respects hR Unit) fun r => ?_
        rcases r with err | ⟨⟩
        · exact .pure _
        · exact hwrite
      · exact hwrite
    · exact .pure _

/-- Writing a message: bookkeeping that keeps the assertions, and at most one push. -/
theorem writeMessage_triple {m : Message} {Q : Result → Session → Prop}
    (hkeeps : ∀ {s s'}, C.inv s → R s s' → C.Keeps g s s') (hA : C.Stable g A)
    (hAR : ∀ {s s'}, C.inv s → R s s' → A s → A s') (hQ : ∀ r, C.Stable g (Q r))
    (hQR : ∀ {r s s'}, C.inv s → R s s' → Q r s → Q r s') (hfail : ∀ s err, A s → Q (.error err) s)
    (hpush : ∀ s, C.inv s → A s → C.Keeps g s (s.push m) ∧ ∀ r, Q r (s.push m)) :
    C.Triple g A (writeMessage cfg g m) Q := by
  have hquiet : ∀ {α : Type} {p : Prog α}, p.Respects R → C.Triple g A p fun _ => A :=
    fun hp => .of_respects hp hA fun _ _ hinv hs h => ⟨hkeeps hinv h, hAR hinv h hs⟩
  have hwrite : C.Triple g A (choose (connWrite m)) Q := by
    refine .choose hA ?_
    intro s i r s' hinv hs hstep _
    have hkept := hpush s hinv hs
    rcases i with _ | ⟨_ | _, err⟩ <;> cases hstep
    · exact ⟨hkept.1, hkept.2 _⟩
    · exact ⟨.refl hinv, hfail s err hs⟩
    · exact ⟨hkept.1, hkept.2 _⟩
  have hlocked : C.Triple g A (writeLocked cfg m) Q := by
    refine .bind (hquiet (inspect_respects hR _)) fun closed => ?_
    cases closed
    · simp only [Bool.false_eq_true, if_false]
      split
      · refine .bind (hquiet (external_respects hR Unit)) fun r => ?_
        rcases r with err | ⟨⟩
        · exact .pure fun s hs => hfail s err hs
        · exact hwrite
      · exact hwrite
    · exact .pure fun s hs => hfail s _ hs
  refine .bind (hquiet (external_respects hR Unit)) fun r => ?_
  rcases r with err | ⟨⟩
  · exact .pure fun s hs => hfail s _ hs
  · refine .bind (hquiet (lockWriteMu_respects hR)) fun _ => .bind hlocked fun r => ?_
    refine .bind (.of_respects (unlockWriteMu_respects hR) (hQ r)
      fun _ _ hinv hs h => ⟨hkeeps hinv h, hQR hinv h hs⟩) fun _ => ?_
    exact .pure fun s h => h

/-- An error is reported in a message of its own. -/
theorem sendError_respects
    (hpush : ∀ (s : Session) m, m.isData = false → m.isClose = false → R s (s.push m))
    (err : Error) : (sendError cfg g err).Respects R := by
  refine writeMessage_respects hR fun s => hpush s _ ?_ ?_ <;>
  · unfold protocolErrorForError
    simp only
    repeat' split
    all_goals rfl

theorem sendAck_respects
    (hpush : ∀ (s : Session) m, m.isData = false → m.isClose = false → R s (s.push m)) :
    (sendAck cfg g).Respects R :=
  .bind (inspect_respects hR _) fun _ => writeMessage_respects hR fun s => hpush s _ rfl rfl

end

end Prog

/-- A relation that also tolerates what the goroutines without a stream do, the read loop
apart. -/
structure Waiting (R : Session → Session → Prop) : Prop extends Quiet R where
  disconnecting : ∀ s : Session, R s { s with disconnecting := true }
  push : ∀ (s : Session) m, m.isData = false → R s (s.push m)
  childExit : ∀ (s : Session) code, R s (s.childExit code).2
  startPipeReaders : ∀ s : Session, R s s.startPipeReaders

/-- A relation that tolerates what the goroutines other than the read loop do. -/
structure Bystander (R : Session → Session → Prop) : Prop extends Waiting R where
  pushData : ∀ (s : Session) d, R s (s.push (.data d))
  encrypted : ∀ (s : Session) calls, R s { s with encrypted := calls }
  shutdownReq : ∀ s : Session, R s { s with shutdownReq := true }
  beginStream : ∀ (s : Session) t eos, R s (s.beginStream t eos).2
  endStream : ∀ (s : Session) t, R s (s.endStream t).2
  pipeReaders : ∀ (s : Session) n, R s { s with pipeReaders := n }

namespace Prog

open Program

variable {R : Session → Session → Prop} {cfg : ServerConfig} {g : Goroutine}
  {t : DataType} {platform : Platform}

theorem encryptChunk_respects (hrefl : ∀ s, R s s)
    (hencrypted : ∀ (s : Session) calls, R s { s with encrypted := calls }) (chunk : Bytes) :
    (choose (encryptChunk t chunk)).Respects R := by
  refine .choose fun s i b s' h => ?_
  rcases i with err | payload <;> cases h
  · exact hrefl s
  · exact hencrypted s _

theorem dataMessage_respects (hR : Bystander R) (chunk : Bytes) :
    (dataMessage t chunk).Respects R := by
  refine .bind (inspect_respects hR.toQuiet _) fun crypto => ?_
  split
  · refine .bind (encryptChunk_respects hR.refl hR.encrypted chunk) fun r => ?_
    rcases r with err | payload <;> exact .pure _
  · exact .pure _

theorem push_respects (hR : Bystander R) (s : Session) (m : Message) : R s (s.push m) := by
  cases m with
  | data d => exact hR.pushData s d
  | _ => exact hR.push s _ rfl

theorem sendData_respects (hR : Bystander R) (chunk : Bytes) :
    (sendData cfg t chunk).Respects R := by
  refine .bind (dataMessage_respects hR chunk) fun r => ?_
  rcases r with err | m
  · exact .pure _
  · exact writeMessage_respects hR.toQuiet fun s => push_respects hR s m

theorem doClose_respects (hR : Waiting R) : (doClose cfg g).Respects R := by
  refine .bind (inspect_respects hR.toQuiet _) fun checked => ?_
  rcases checked with err | code
  · exact .pure _
  · refine .bind (writeMessage_respects hR.toQuiet fun s => hR.push s _ rfl) fun r => ?_
    rcases r with err | ⟨⟩
    · exact .pure _
    · exact .bind (startCloseHandshake_respects hR.toQuiet hR.disconnecting) fun _ => .pure _

theorem onReadData_respects (hR : Bystander R) (chunk : Bytes) :
    (onReadData cfg t chunk).Respects R := by
  have hrest : (sendData cfg t chunk >>= fun r => reportFailure r).Respects R :=
    .bind (sendData_respects hR chunk) fun r => reportFailure_respects hR.toQuiet r
  refine .bind (.atomic fun s => hR.beginStream s t false) fun turn => ?_
  cases turn
  · exact .pure _
  · exact hrest
  · exact hrest

theorem finishStream_respects (hR : Bystander R) : (finishStream cfg t).Respects R := by
  refine .bind (writeMessage_respects hR.toQuiet fun s => hR.pushData s _) fun r => ?_
  rcases r with err | ⟨⟩
  · exact .pure _
  · refine .bind (.atomic fun s => hR.endStream s t) fun last => ?_
    cases last
    · exact .pure _
    · exact doClose_respects hR.toWaiting

theorem onReadError_respects (hR : Bystander R) (err : ReadError) :
    (onReadError cfg platform t err).Respects R := by
  refine .bind (.atomic fun s => hR.beginStream s t _) fun turn => ?_
  cases turn
  · exact .pure _
  · refine .bind (finishStream_respects hR) fun r => ?_
    exact .bind (reportFailure_respects hR.toQuiet r) fun _ => .pure _
  · exact reportFailure_respects hR.toQuiet (.error err.toError)

theorem streamLoop_respects (hR : Bystander R) : (streamLoop cfg platform t).Respects R := by
  have hcopy : (copyStream cfg platform t).Respects R := by
    refine .bind (.receive hR.refl _) fun read => ?_
    refine .bind ?_ fun again => ?_
    · unfold sendChunk
      split
      · exact .pure _
      · exact onReadData_respects hR read.1
    · cases again
      · exact .pure _
      · rcases read with ⟨chunk, _ | err⟩
        · exact .pure _
        · exact onReadError_respects hR err
  refine .bind (awaitStart_respects hR.toQuiet) fun _ => ?_
  refine .bind hcopy fun again => ?_
  cases again
  · refine .bind (.atomic fun s => ?_) fun _ => .pure _
    split
    · exact hR.refl s
    · exact hR.pipeReaders s _
  · exact .pure _

theorem onChildExit_respects (hR : Waiting R) (exit : Except Error Int) :
    (onChildExit cfg exit).Respects R := by
  rcases exit with err | code
  · refine .bind (inspect_respects hR.toQuiet _) fun closed => ?_
    cases closed
    · exact reportFailure_respects hR.toQuiet (.error err)
    · exact .pure _
  · refine .bind (.atomic fun s => hR.childExit s code) fun r => ?_
    rcases r with _ | _ | _
    · exact .pure _
    · exact .pure _
    · exact .bind (doClose_respects hR) fun r => reportFailure_respects hR.toQuiet r

theorem waitLoop_respects (hR : Waiting R) : (waitLoop cfg).Respects R := by
  refine .bind (awaitStart_respects hR.toQuiet) fun _ => ?_
  refine .bind (inspect_respects hR.toQuiet _) fun pty => ?_
  refine .bind ?_ fun _ => ?_
  · cases pty
    · exact .atomic hR.startPipeReaders
    · exact .pure _
  refine .bind (waitOwnedProcessExit_respects hR.toQuiet) fun _ => ?_
  refine .bind (awaitPipes_respects hR.toQuiet pty) fun _ => ?_
  refine .bind (external_respects hR.toQuiet _) fun exit => ?_
  exact .bind (onChildExit_respects hR exit) fun _ => .pure _

theorem heartbeatLoop_respects (hR : Waiting R) : (heartbeatLoop cfg).Respects R := by
  refine .bind (awaitStart_respects hR.toQuiet) fun _ => ?_
  refine .bind (.choose fun s i b s' h => ?_) fun done => ?_
  · split at h
    · cases h
    · cases h
      exact hR.refl s
  · cases done
    · refine .bind (inspect_respects hR.toQuiet _) fun closed => ?_
      cases closed
      · refine .bind (writeMessage_respects hR.toQuiet fun s => hR.push s _ rfl) fun r => ?_
        exact reportFailure_respects hR.toQuiet r
      · exact .pure _
    · exact .pure _

/-- Every goroutine but the read loop stays within such a relation. -/
theorem body_respects {K : Type} (hR : Bystander R) (P : Primitives K) (cfg : ServerConfig)
    (platform : Platform) (hg : g ≠ .readLoop) : (body P cfg platform g).Respects R := by
  cases g with
  | readLoop => exact absurd rfl hg
  | stdoutLoop | stderrLoop => exact streamLoop_respects hR
  | waitLoop => exact waitLoop_respects hR.toWaiting
  | heartbeatLoop => exact heartbeatLoop_respects hR.toWaiting
  | terminateProcess => exact terminateProcess_respects hR.toQuiet
  | openTimer => exact onOpenTimeout_respects hR.toQuiet
  | closeTimer => exact onCloseTimeout_respects hR.toQuiet
  | shutdown => exact shutdown_respects hR.toQuiet hR.shutdownReq

end Prog

end Rstream.WebTTY
