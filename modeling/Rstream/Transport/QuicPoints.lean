import Rstream.Core.Points
import Rstream.Transport.QuicTransport

/-!
# The QUIC transport as a flat machine

The points of the calls on a transport: before each atomic action of `Dial`, of `Close` and of
the goroutines that see a connection fail. The local variables a call has at a point are part
of the point.
-/

namespace Rstream.Transport

open Rstream.Core Program Function

/-- Where a call stands. -/
inductive QuicPoint
  | validating
  | counting
  | checking (attempt : Nat)
  | waiting (doneCh : ConnId)
  | waited (wait : QuicProg.Wait)
  | connecting (attempt generation : Nat)
  | cancelling (attempt generation : Nat) (err : Option String)
  | settling (attempt generation : Nat) (err : Option String)
  | opening (c : ConnId)
  | streaming
  | failing (err : String)
  | retrying (err : String)
  /-- Before the locked section of `invalidateConnection`; a `Dial` has this error. -/
  | losing (c : ConnId) (err : Option String)
  /-- So many resources of the connection are still to be closed. -/
  | closing (c : ConnId) (left : Nat) (err : Option String)
  | locking
  | uncontexting (connectCancel conn : Option ConnId)
  | reporting
  | seeing
  | ended (again : Bool)

/-- `net.ErrClosed`. -/
def netErrClosed : String := "use of closed network connection"

namespace QuicPoint

/-- Where a call starts. -/
def entry : QuicThread → QuicPoint
  | .dial _ => validating
  | .close _ => locking
  | .user _ => seeing

/-- Where a call goes on after it has closed a connection. -/
def after : QuicThread → Option String → QuicPoint
  | .dial _, none => failing netErrClosed
  | .dial _, some err => retrying err
  | .close _, _ => reporting
  | .user _, _ => ended true

end QuicPoint

/-- Close one resource of a connection, with so many left. -/
def Bundle.shut (left : Nat) (b : Bundle) : Bundle :=
  match left with
  | 4 => { b with conn := false }
  | 3 => { b with qtransport := false }
  | 2 => { b with pconn := false }
  | _ => { b with proxyCloser := false }

namespace Quic

/-- The attempt of a `Dial` is of the current generation. -/
def Current (n : Nat) (s : Quic) : Prop :=
  (s.dials n).generation = none ∨ (s.dials n).generation = some s.closeGeneration

/-- The first check of an attempt takes the generation. -/
def stamp (n : Nat) (s : Quic) : Quic :=
  { s with
    dials := update s.dials n { s.dials n with generation := some s.closeGeneration }
    log := if (s.dials n).generation = none then s.log ++ [.checked n (s.dials n).attempt]
      else s.log }

/-- A connect has ended. -/
def land (id : ConnId) (s : Quic) : Quic :=
  { s with connecting := false, connectCancel := none, doneClosed := update s.doneClosed id true }

end Quic

namespace QuicProg

/-- `closeBundle` with so many resources left. -/
def closeFrom (c : ConnId) : Nat → QuicProg Unit
  | 0 => return ()
  | 1 => atomic fun s => ((), (s.setBundle c (Bundle.shut 1)).setHolder c .closed)
  | left + 2 => do
    atomic fun s => ((), s.setBundle c (Bundle.shut (left + 2)))
    closeFrom c (left + 1)

/-- What the first locked section of `connection` leads to. -/
def verdictPoint (attempt : Nat) : Verdict → QuicPoint
  | .refused err => .failing err
  | .reuse c => .opening c
  | .wait doneCh => .waiting doneCh
  | .connect generation => .connecting attempt generation

/-- What the second locked section of `connection` leads to. -/
def settledPoint (n attempt : Nat) : Option String → Bool → QuicPoint
  | none, true => .closing (n, attempt) 4 none
  | some _, true => .failing netErrClosed
  | none, false => .opening (n, attempt)
  | some err, false => .failing err

variable (origin : Nat → String)

/-- What a call at the end of an attempt still has to do. -/
def endCode : QuicThread → QuicPoint → QuicProg Bool
  | .dial n, .failing err => fail n err
  | .dial n, .retrying err => atomic (nextAttempt n err)
  | .dial n, .opening c => openStream n c
  | .dial n, .streaming => do
    atomic fun s => ((), (s.setDial n fun d =>
      { d with conn := none, stream := false }).note (.returnsStream n))
    return false
  | .close k, .reporting => do
    atomic fun s => ((), s.note (.closeReturned k))
    return false
  | _, .ended again => return again
  | _, _ => return false

def closeCode (t : QuicThread) : QuicPoint → QuicProg Bool
  | .losing c err => do
    invalidateConnection t c
    endCode t (.after t err)
  | .closing c (left + 1) err => do
    closeFrom c (left + 1)
    endCode t (.after t err)
  | p => endCode t p

def waitedCode (n : Nat) (wait : Wait) : QuicProg Bool := do
  atomic fun s => ((), { s with connectWaiters := s.connectWaiters - 1 })
  match wait with
  | .ctxDone => fail n "context canceled"
  | .connectDone => return true

def settleCode (n attempt generation : Nat) (err : Option String) : QuicProg Bool := do
  if ← atomic (connectedLocked (n, attempt) (origin n) generation err) then
    match err with
    | none =>
      closeBundle (n, attempt)
      fail n netErrClosed
    | some _ => fail n netErrClosed
  else
    match err with
    | none => openStream n (n, attempt)
    | some err => fail n err

def checkCode (n attempt : Nat) : QuicProg Bool := do
  match ← atomic (connectionLocked n (origin n)) with
  | .refused err => fail n err
  | .reuse c => openStream n c
  | .wait doneCh =>
    let wait ← choose (waitSelect doneCh)
    waitedCode n wait
  | .connect connectGeneration => connect n attempt (origin n) connectGeneration

/-- What a call at a point still has to do. -/
def code : QuicThread → QuicPoint → QuicProg Bool
  | .dial n, .validating => dial n (origin n)
  | .dial n, .counting => do
    let attempt ← inspect fun s => (s.dials n).attempt
    checkCode origin n attempt
  | .dial n, .checking attempt => checkCode origin n attempt
  | .dial n, .waiting doneCh => do
    let wait ← choose (waitSelect doneCh)
    waitedCode n wait
  | .dial n, .waited wait => waitedCode n wait
  | .dial n, .connecting attempt generation => connect n attempt (origin n) generation
  | .dial n, .cancelling attempt generation err => do
    atomic fun s => ((), { s with cancelled := update s.cancelled (n, attempt) true })
    settleCode origin n attempt generation err
  | .dial n, .settling attempt generation err => settleCode origin n attempt generation err
  | .close k, .locking => do
    close k
    return false
  | .close k, .uncontexting connectCancel conn => do
    atomic fun s => ((), { s with
      cancelled := fun id => s.cancelled id || connectCancel == some id })
    closeCode (.close k) (conn.elim .reporting fun c => .closing c 4 none)
  | .user j, .seeing => do
    connectionLost j
    return true
  | t, p => closeCode t p

end QuicProg

open QuicProg

/-- Where a call can go on its own. -/
inductive QuicPass (s : Quic) : QuicThread → QuicPoint → QuicPoint → Prop
  | validated (n : Nat) : QuicPass s (.dial n) .validating .counting
  | count (n : Nat) : QuicPass s (.dial n) .counting (.checking (s.dials n).attempt)
  | wait (n : Nat) (doneCh : ConnId) (wait : Wait)
      (h : wait = .connectDone → s.doneClosed doneCh = true) :
      QuicPass s (.dial n) (.waiting doneCh) (.waited wait)
  | cancelled (n : Nat) : QuicPass s (.dial n) (.waited .ctxDone) (.failing "context canceled")
  | woken (n : Nat) : QuicPass s (.dial n) (.waited .connectDone) (.ended true)
  | connectFail (n i g : Nat) (err : String) :
      QuicPass s (.dial n) (.connecting i g) (.cancelling i g (some err))
  | cancel (n i g : Nat) (err : Option String) :
      QuicPass s (.dial n) (.cancelling i g err) (.settling i g err)
  | openFail (n : Nat) (c : ConnId) (err : String) :
      QuicPass s (.dial n) (.opening c) (.failing ("failed to open QUIC stream: " ++ err))
  | openLost (n : Nat) (c : ConnId) (err : String) (h : (s.bundle c).conn = false) :
      QuicPass s (.dial n) (.opening c) (.losing c (some err))
  | lost (t : QuicThread) (c : ConnId) (err : Option String) :
      QuicPass s t (.losing c err) (.after t err)
  | uncontext (k : Nat) (connectCancel : Option ConnId) :
      QuicPass s (.close k) (.uncontexting connectCancel none) .reporting
  | shutdown (k : Nat) (connectCancel : Option ConnId) (c : ConnId) :
      QuicPass s (.close k) (.uncontexting connectCancel (some c)) (.closing c 4 none)
  | again (t : QuicThread) : QuicPass s t (.ended true) (.entry t)

/-- What a call can do next. -/
inductive QuicMove (s : Quic) : QuicThread → QuicPoint → QuicPoint → Quic → Prop
  | pass {t : QuicThread} {q p : QuicPoint} (h : QuicPass s t q p) (connectWaiters : Nat)
      (cancelled : ConnId → Bool) : QuicMove s t q p { s with connectWaiters, cancelled }
  | validate (n : Nat) : QuicMove s (.dial n) .validating .counting
      (s.setDial n fun d => { d with validated := true })
  | invalid (n : Nat) (err : String) : QuicMove s (.dial n) .validating (.failing err)
      (s.setDial n fun d => { d with validated := true })
  | outdated (n i : Nat) (h : ¬ s.Current n) :
      QuicMove s (.dial n) (.checking i) (.failing netErrClosed) s
  | refuse (n i : Nat) (h : s.Current n) : QuicMove s (.dial n) (.checking i)
      (.failing ("QUIC transport already connected to " ++ s.origin)) (s.stamp n)
  | reuse (n i : Nat) {c : ConnId} (h : s.Current n) (hc : s.quicConn = some c) :
      QuicMove s (.dial n) (.checking i) (.opening c)
        ((s.stamp n).setDial n fun d => { d with conn := some c })
  | wait (n i : Nat) (h : s.Current n) (hc : s.connecting = true) :
      QuicMove s (.dial n) (.checking i) (.waiting s.connectDone)
        { s.stamp n with connectWaiters := s.connectWaiters + 1 }
  | start (n i : Nat) (h : s.Current n) (hc : s.quicConn = none) (hidle : s.connecting = false) :
      QuicMove s (.dial n) (.checking i) (.connecting i s.closeGeneration)
        ({ s.stamp n with
          connecting := true
          connectDone := (n, ((s.stamp n).dials n).attempt)
          connectCancel := some (n, ((s.stamp n).dials n).attempt) }.note (.connects n))
  | connect (n i g : Nat) (proxy : Bool) :
      QuicMove s (.dial n) (.connecting i g) (.cancelling i g none)
        ((s.setBundle (n, i) fun _ => ⟨true, true, true, proxy⟩).setHolder (n, i) .dial)
  | unsettled (n i g : Nat) (err : String) {err' : String}
      (h : err' = if s.closeGeneration = g then err else netErrClosed) :
      QuicMove s (.dial n) (.settling i g (some err)) (.failing err') (s.land (n, i))
  | overtaken (n i g : Nat) (h : s.closeGeneration ≠ g) :
      QuicMove s (.dial n) (.settling i g none) (.closing (n, i) 4 none)
        ((s.land (n, i)).setHolder (n, i) (.closer (.dial n)))
  | publish (n i : Nat) (origin : String) :
      QuicMove s (.dial n) (.settling i s.closeGeneration none) (.opening (n, i))
        ((({ s.land (n, i) with quicConn := some (n, i), origin }.setHolder (n, i)
          .transport).setDial n fun d => { d with conn := some (n, i) }).note (.publishes n))
  | openStream (n : Nat) {c : ConnId} (h : (s.bundle c).conn = true) :
      QuicMove s (.dial n) (.opening c) .streaming (s.setDial n fun d => { d with stream := true })
  | stream (n : Nat) : QuicMove s (.dial n) .streaming (.ended false)
      ((s.setDial n fun d => { d with conn := none, stream := false }).note (.returnsStream n))
  | fail (n : Nat) (err : String) : QuicMove s (.dial n) (.failing err) (.ended false)
      ((s.setDial n fun d => { d with conn := none }).note (.returnsError n err))
  | retry (n : Nat) (err : String) (h : (s.dials n).attempt + 1 < 2) :
      QuicMove s (.dial n) (.retrying err) (.ended true) (s.setDial n fun d =>
        { d with attempt := d.attempt + 1, generation := none, conn := none })
  | giveUp (n : Nat) (err : String) : QuicMove s (.dial n) (.retrying err) (.ended false)
      ((s.setDial n fun d => { d with conn := none }).note
        (.returnsError n ("failed to open QUIC stream: " ++ err)))
  | lose (t : QuicThread) {c : ConnId} (err : Option String) (h : s.quicConn = some c) :
      QuicMove s t (.losing c err) (.closing c 4 err) (s.detach.setHolder c (.closer t))
  | close (t : QuicThread) (c : ConnId) (left : Nat) (err : Option String) :
      QuicMove s t (.closing c (left + 2) err) (.closing c (left + 1) err)
        (s.setBundle c (Bundle.shut (left + 2)))
  | release (t : QuicThread) (c : ConnId) (err : Option String) :
      QuicMove s t (.closing c 1 err) (.after t err)
        ((s.setBundle c (Bundle.shut 1)).setHolder c .closed)
  | lock (k : Nat) (hc : s.quicConn = none) : QuicMove s (.close k) .locking
      (.uncontexting s.connectCancel none) (s.detach.note (.closeLocked k))
  | detach (k : Nat) {c : ConnId} (hc : s.quicConn = some c) : QuicMove s (.close k) .locking
      (.uncontexting s.connectCancel (some c))
      ((s.detach.setHolder c (.closer (.close k))).note (.closeLocked k))
  | report (k : Nat) :
      QuicMove s (.close k) .reporting (.ended false) (s.note (.closeReturned k))
  | see (j : Nat) {c : ConnId} (h : s.holder c ≠ .unborn) :
      QuicMove s (.user j) .seeing (.losing c none)
        (s.setBundle c fun b => { b with conn := false })

section Points

variable {s s' : Quic} {n i : Nat}

theorem Quic.stamp_of_some (h : (s.dials n).generation = some s.closeGeneration) :
    s.stamp n = s := by
  have hdials : update s.dials n { s.dials n with generation := some s.closeGeneration } =
      s.dials := by
    rw [← h]
    exact update_eq_self n s.dials
  simp [stamp, hdials, h]

theorem connectionLocked_of_current (origin : String) (h : s.Current n) :
    connectionLocked n origin s = connectionState n origin (s.stamp n) := by
  rcases h with hnone | hsome
  · simp [connectionLocked, hnone, Quic.stamp, Quic.setDial, Quic.note]
  · simp [connectionLocked, hsome, Quic.stamp_of_some]

theorem QuicMove.check {origin : String} {verdict : Verdict}
    (h : connectionLocked n origin s = (verdict, s')) :
    QuicMove s (.dial n) (.checking i) (verdictPoint i verdict) s' := by
  by_cases hcurrent : s.Current n
  · rw [connectionLocked_of_current origin hcurrent] at h
    simp only [connectionState] at h
    repeat' split at h
    all_goals cases h
    · exact .refuse n i hcurrent
    · exact .reuse n i hcurrent ‹_›
    · exact .wait n i hcurrent ‹_›
    · exact .start n i hcurrent ‹_› (Bool.eq_false_iff.mpr ‹_›)
  · unfold connectionLocked at h
    split at h
    · exact absurd (.inl ‹_›) hcurrent
    · next g hg =>
      rw [if_pos fun heq => hcurrent (.inr (by rw [hg, heq]))] at h
      cases h
      exact .outdated n i hcurrent

theorem QuicMove.settle {origin : String} {err : Option String} {g : Nat} {stale : Bool}
    (h : connectedLocked (n, i) origin g err s = (stale, s')) :
    QuicMove s (.dial n) (.settling i g err) (settledPoint n i err stale) s' := by
  simp only [connectedLocked] at h
  cases err <;> split at h <;> cases h
  · exact .overtaken n i g ‹_›
  · obtain rfl := not_not.mp ‹_›
    exact .publish n i origin
  · exact .unsettled n i g _ (if_neg ‹_›).symm
  · exact .unsettled n i g _ (if_pos (not_not.mp ‹_›)).symm

theorem QuicMove.closeLocked {k : Nat} :
    QuicMove s (.close k) .locking (.uncontexting s.connectCancel s.quicConn)
      (closeLocked k s).2 := by
  unfold QuicProg.closeLocked
  cases hc : s.quicConn with
  | none => exact .lock k hc
  | some c => exact .detach k hc

end Points

/-- The points describe the calls. -/
def quicPoints (origin : Nat → String) : Points (quicSystem origin) QuicPoint where
  code := QuicProg.code origin
  entry := QuicPoint.entry
  move t q s p s' := QuicMove s t q p s'
  body t := by cases t <;> rfl
  act := by
    intro t p s ι β s' step k i b hcode hstep
    cases p with
    | losing c err =>
      cases t <;> cases hcode <;> simp only [invalidateLocked, Option.some.injEq] at hstep <;>
        split at hstep <;> cases hstep
      all_goals first
        | exact ⟨_, rfl, .lose _ err (not_not.mp ‹_›)⟩
        | cases err <;> exact ⟨_, rfl, .pass (.lost _ c _) _ _⟩
    | closing c left err =>
      rcases left with - | - | left <;> cases t <;> cases hcode <;> cases hstep
      all_goals first
        | exact ⟨_, rfl, .close _ c left err⟩
        | cases err <;> exact ⟨_, rfl, .release _ c _⟩
    | validating =>
      cases t <;> cases hcode
      simp only [validate] at hstep
      split at hstep <;> cases hstep
      · exact ⟨_, rfl, .pass (.validated _) _ _⟩
      · cases i with
        | none => exact ⟨_, rfl, .validate _⟩
        | some err => exact ⟨_, rfl, .invalid _ err⟩
    | counting =>
      cases t <;> cases hcode
      cases hstep
      exact ⟨_, rfl, .pass (.count _) _ _⟩
    | checking attempt =>
      cases t <;> cases hcode
      refine ⟨_, ?_, .check (Option.some.inj hstep)⟩
      cases b <;> rfl
    | waiting doneCh =>
      cases t <;> cases hcode
      cases i <;> simp only [waitSelect] at hstep
      · cases hstep
        exact ⟨_, rfl, .pass (.wait _ doneCh .ctxDone nofun) _ _⟩
      · split at hstep <;> cases hstep
        exact ⟨_, rfl, .pass (.wait _ doneCh .connectDone fun _ => ‹_›) _ _⟩
    | waited wait =>
      cases t <;> cases hcode
      cases hstep
      cases wait with
      | ctxDone => exact ⟨_, rfl, .pass (.cancelled _) _ _⟩
      | connectDone => exact ⟨_, rfl, .pass (.woken _) _ _⟩
    | connecting attempt generation =>
      cases t <;> cases hcode
      cases i <;> cases hstep
      · exact ⟨_, rfl, .connect _ attempt generation _⟩
      · exact ⟨_, rfl, .pass (.connectFail _ attempt generation _) _ _⟩
    | cancelling attempt generation err =>
      cases t <;> cases hcode
      cases hstep
      exact ⟨_, rfl, .pass (.cancel _ attempt generation err) _ _⟩
    | settling attempt generation err =>
      cases t <;> cases hcode
      refine ⟨_, ?_, .settle (Option.some.inj hstep)⟩
      cases b <;> cases err <;> rfl
    | opening c =>
      cases t <;> cases hcode
      cases i <;> simp only [openStreamSync] at hstep
      · split at hstep <;> cases hstep
        exact ⟨_, rfl, .openStream _ ‹_›⟩
      · cases hstep
        exact ⟨_, rfl, .pass (.openFail _ c _) _ _⟩
      · split at hstep <;> cases hstep
        exact ⟨_, rfl, .pass (.openLost _ c _ (Bool.eq_false_iff.mpr ‹_›)) _ _⟩
    | streaming =>
      cases t <;> cases hcode
      cases hstep
      exact ⟨_, rfl, .stream _⟩
    | failing err =>
      cases t <;> cases hcode
      cases hstep
      exact ⟨_, rfl, .fail _ err⟩
    | retrying err =>
      cases t <;> cases hcode
      simp only [nextAttempt] at hstep
      split at hstep <;> cases hstep
      · exact ⟨_, rfl, .retry _ err ‹_›⟩
      · exact ⟨_, rfl, .giveUp _ err⟩
    | locking =>
      cases t <;> cases hcode
      cases hstep
      refine ⟨_, ?_, .closeLocked⟩
      cases s.quicConn <;> rfl
    | uncontexting connectCancel conn =>
      cases t <;> cases hcode
      cases hstep
      cases conn with
      | none => exact ⟨_, rfl, .pass (.uncontext _ connectCancel) _ _⟩
      | some c => exact ⟨_, rfl, .pass (.shutdown _ connectCancel c) _ _⟩
    | reporting =>
      cases t <;> cases hcode
      cases hstep
      exact ⟨_, rfl, .report _⟩
    | seeing =>
      cases t <;> cases hcode
      simp only [loseConnection] at hstep
      split at hstep <;> cases hstep
      exact ⟨_, rfl, .see _ ‹_›⟩
    | ended again => cases t <;> cases hcode
  again := by
    intro t p s hcode
    cases p with
    | ended again => cases t <;> cases hcode <;> exact .pass (.again _) _ _
    | closing c left err => rcases left with - | - | left <;> cases t <;> cases hcode
    | _ => cases t <;> cases hcode
  abort _ _ := rfl

end Rstream.Transport
