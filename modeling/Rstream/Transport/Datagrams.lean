import Rstream.Core.Machine

/-!
# Datagram channels of a QUIC transport

A datagram proxy request makes a channel, publishes it in the table of its control channel,
and then enters it into the registry of the transport, in two critical sections. The read
loop of a connection looks up the channel of a datagram in that registry. Every lock region
is one event; what happens outside the locks may come between them.
-/

namespace Rstream.Transport

open Rstream.Core Function

def datagramChannelIDSize : Nat := 12

/-- How far `handleDatagramProxyConnReq` has come with a request. -/
inductive RequestPhase
  | publishing
  | registering
  | delivering
  /-- The channel is still to be closed. -/
  | rejected
  | returned
  deriving DecidableEq

/-- How far the one effective call of `quicDatagramChannel.close` has come. -/
inductive ChannelPhase
  | open
  | closing
  /-- The registry of the transport has been told. -/
  | unregistered
  | closed
  deriving DecidableEq

/-- What a datagram proxy request says: the control channel it arrives on, the tunnel and the
channel id of its stream. -/
structure DatagramRequest where
  control : Nat
  tunnelID : String
  channelID : List UInt8

/-- A `quicDatagramChannel`. -/
structure DatagramChannel where
  request : RequestPhase := .publishing
  close : ChannelPhase := .open
  /-- The connection that was current when the channel was registered. -/
  conn : Option Nat := none
  /-- The queued payloads, each with the connection it was read from. -/
  received : List (Nat × List UInt8) := []

/-- A `datagramReadLoop`, and the channel it has found for a payload. -/
structure DatagramLoop where
  conn : Nat
  running : Bool := true
  found : Option (Nat × List UInt8) := none

/-- A transport, the control channels that use it, and the channel of each request. -/
structure Datagrams where
  quicConn : Option Nat := none
  /-- The number of connections so far. -/
  connections : Nat := 0
  datagramChannels : List UInt8 → Option Nat := fun _ => none
  datagramReadRunning : Bool := false
  loops : List DatagramLoop := []
  /-- The table of each control channel. -/
  tables : Nat → List UInt8 → Option Nat := fun _ _ => none
  controlClosed : Nat → Bool := fun _ => false
  channels : Nat → DatagramChannel := fun _ => {}

inductive DatagramEvent
  | publish (n : Nat)
  | register (n : Nat)
  /-- The channel is put into the queue of the listener, if there is one with room. -/
  | deliver (n : Nat) (accepted : Bool)
  /-- A rejected request has closed its channel. -/
  | giveUp (n : Nat)
  /-- `close` is entered and cancels the context. -/
  | close (n : Nat)
  | unregister (n : Nat)
  | closed (n : Nat)
  /-- A tunnel of a control channel is closed. -/
  | closeTunnel (control : Nat) (tunnelID : String)
  | handleDatagramChannelClose (control : Nat) (channelID : List UInt8)
  | onError (control : Nat)
  | connect
  /-- `Close` or `invalidateConnection`. -/
  | invalidate
  | receive (loop : Nat) (data : List UInt8)
  | enqueue (loop : Nat) (queued : Bool)
  /-- `ReceiveDatagram` fails. -/
  | fail (loop : Nat)

namespace Datagrams

variable (requests : Nat → DatagramRequest)

def setChannel (s : Datagrams) (n : Nat) (f : DatagramChannel → DatagramChannel) : Datagrams :=
  { s with channels := update s.channels n (f (s.channels n)) }

/-- Remove some entries from the table of a control channel. -/
def detach (s : Datagrams) (control : Nat) (gone : List UInt8 → Nat → Bool) : Datagrams :=
  { s with tables := fun k id => (s.tables k id).filter fun n => !(k == control && gone id n) }

/-- `controlChannelImpl.unregisterDatagramChannel`. -/
def unpublish (s : Datagrams) (n : Nat) : Datagrams :=
  s.detach (requests n).control fun id m => id == (requests n).channelID && m == n

def detachDatagramChannelsLocked (s : Datagrams) : Datagrams :=
  { s with datagramChannels := fun _ => none, datagramReadRunning := false }

def invalidateConnection (s : Datagrams) : Datagrams :=
  { s.detachDatagramChannelsLocked with quicConn := none }

/-- `registerDatagramChannel`, when the transport has the connection `conn` and no channel of
that id. -/
def registerDatagramChannel (s : Datagrams) (n conn : Nat) : Datagrams :=
  { s.setChannel n fun ch => { ch with request := .delivering, conn := some conn } with
    datagramChannels := update s.datagramChannels (requests n).channelID (some n)
    datagramReadRunning := true
    loops := if s.datagramReadRunning then s.loops else s.loops ++ [{ conn }] }

/-- One event; nothing if it cannot happen. -/
def step (s : Datagrams) : DatagramEvent → Option Datagrams
  | .publish n =>
    if (s.channels n).request ≠ .publishing then none
    else if s.controlClosed (requests n).control ||
        (s.tables (requests n).control (requests n).channelID).isSome then
      some (s.setChannel n fun ch => { ch with request := .rejected })
    else some { s.setChannel n fun ch => { ch with request := .registering } with
      tables := update s.tables (requests n).control
        (update (s.tables (requests n).control) (requests n).channelID (some n)) }
  | .register n =>
    if (s.channels n).request ≠ .registering then none
    else match s.quicConn, s.datagramChannels (requests n).channelID with
      | some conn, none => some (s.registerDatagramChannel requests n conn)
      | _, _ => some ((s.unpublish requests n).setChannel n fun ch => { ch with request := .rejected })
  | .deliver n accepted =>
    if (s.channels n).request ≠ .delivering then none
    else some (s.setChannel n fun ch =>
      { ch with request := if accepted then .returned else .rejected })
  | .giveUp n =>
    if (s.channels n).request = .rejected ∧ (s.channels n).close = .closed then
      some (s.setChannel n fun ch => { ch with request := .returned })
    else none
  -- Only the request itself knows a channel that has not been published.
  | .close n =>
    if (s.channels n).request ≠ .publishing ∧ (s.channels n).close = .open then
      some (s.setChannel n fun ch => { ch with close := .closing })
    else none
  | .unregister n =>
    if (s.channels n).close ≠ .closing then none
    else some { s.setChannel n fun ch => { ch with close := .unregistered } with
      datagramChannels :=
        if s.datagramChannels (requests n).channelID = some n then
          update s.datagramChannels (requests n).channelID none
        else s.datagramChannels }
  | .closed n =>
    if (s.channels n).close ≠ .unregistered then none
    else some ((s.unpublish requests n).setChannel n fun ch => { ch with close := .closed })
  | .closeTunnel control tunnelID =>
    some (s.detach control fun _ n => (requests n).tunnelID == tunnelID)
  | .handleDatagramChannelClose control channelID =>
    some (s.detach control fun id _ => id == channelID)
  | .onError control =>
    some { s.detach control fun _ _ => true with
      controlClosed := update s.controlClosed control true }
  | .connect =>
    if s.quicConn ≠ none then none
    else some { s with quicConn := some s.connections, connections := s.connections + 1 }
  | .invalidate => some s.invalidateConnection
  | .receive l data =>
    match s.loops[l]? with
    | some ⟨conn, true, none⟩ =>
      if data.length < datagramChannelIDSize then some s
      else
        let found := (s.datagramChannels (data.take datagramChannelIDSize)).map
          (·, data.drop datagramChannelIDSize)
        some { s with loops := s.loops.set l { conn, found } }
    | _ => none
  | .enqueue l queued =>
    match s.loops[l]? with
    | some ⟨conn, true, some (n, payload)⟩ =>
      some { s.setChannel n fun ch => { ch with
          received := if queued then ch.received ++ [(conn, payload)] else ch.received } with
        loops := s.loops.set l { conn } }
    | _ => none
  | .fail l =>
    match s.loops[l]? with
    | some ⟨conn, true, none⟩ =>
      let s := { s with loops := s.loops.set l { conn, running := false } }
      if s.quicConn = some conn then some s.invalidateConnection
      -- `closeDatagramChannelsForConn` leaves the channels of another connection alone.
      else if s.quicConn ≠ none then some s
      else some s.detachDatagramChannelsLocked
    | _ => none

section Invariants

variable {requests} {s s' : Datagrams} {e : DatagramEvent}

attribute [simp] registerDatagramChannel unpublish detach setChannel invalidateConnection
  detachDatagramChannelsLocked

/-- Every entry of the registry was made by the request of its id, for the current
connection. -/
structure Entered (requests : Nat → DatagramRequest) (s : Datagrams) : Prop where
  entry : ∀ id n, s.datagramChannels id = some n → (requests n).channelID = id ∧
    (s.channels n).conn = s.quicConn ∧ s.quicConn ≠ none
  early : ∀ n, (s.channels n).request = .publishing ∨ (s.channels n).request = .registering →
    (s.channels n).conn = none

theorem Entered.step (hs : s.Entered requests) (h : s.step requests e = some s') :
    s'.Entered requests := by
  obtain ⟨hentry, hearly⟩ := hs
  cases e <;> simp only [Datagrams.step] at h <;> (repeat' split at h) <;> cases h <;>
    constructor <;> simp -failIfUnchanged [update_apply] <;> grind

/-- What is registered has not told the registry that it is closed. -/
def Live (s : Datagrams) : Prop :=
  ∀ id n, s.datagramChannels id = some n →
    (s.channels n).close = .open ∨ (s.channels n).close = .closing

/-- A channel enters the registry only before its `close` has told the registry. -/
def RegistersOpen (s : Datagrams) (e : DatagramEvent) : Prop :=
  ∀ n, e = .register n → (s.channels n).close = .open ∨ (s.channels n).close = .closing

theorem Live.step (hs : s.Entered requests) (hlive : s.Live) (hallow : s.RegistersOpen e)
    (h : s.step requests e = some s') : s'.Live := by
  have hentry := hs.entry
  intro id n hn
  have hkept := hlive id n
  cases e <;> simp only [Datagrams.step] at h <;> (repeat' split at h) <;> cases h <;>
    simp -failIfUnchanged [update_apply] at hn ⊢ <;> grind [RegistersOpen]

/-- A loop holds a channel that was registered on its connection. -/
structure Delivered (s : Datagrams) : Prop where
  found : ∀ l ∈ s.loops, ∀ n p, l.found = some (n, p) → (s.channels n).conn = some l.conn
  received : ∀ n c p, (c, p) ∈ (s.channels n).received → (s.channels n).conn = some c

/-- A loop looks up a channel only while its connection is the current one. -/
def ReadsCurrent (s : Datagrams) (e : DatagramEvent) : Prop :=
  ∀ i data l, e = .receive i data → s.loops[i]? = some l →
    s.datagramChannels (data.take datagramChannelIDSize) = none ∨ s.quicConn = some l.conn

theorem Delivered.step (hs : s.Entered requests) (hdel : s.Delivered) (hallow : s.ReadsCurrent e)
    (h : s.step requests e = some s') : s'.Delivered := by
  obtain ⟨hfound, hreceived⟩ := hdel
  have hentry := hs.entry
  have hearly := hs.early
  cases e with
  | receive i data =>
    simp only [Datagrams.step] at h
    split at h
    next conn hloop =>
      split at h
      · cases h
        exact ⟨hfound, hreceived⟩
      · cases h
        refine ⟨fun l hl n p hn => ?_, hreceived⟩
        obtain hl | rfl := List.mem_or_eq_of_mem_set hl
        · exact hfound l hl n p hn
        · obtain ⟨m, hm, hpair⟩ := Option.map_eq_some_iff.mp hn
          cases hpair
          obtain ⟨-, hconn, -⟩ := hentry _ _ hm
          obtain hnone | hcurrent := hallow i data _ rfl hloop
          · cases hm.symm.trans hnone
          · exact hconn.trans hcurrent
    next => cases h
  | enqueue i queued =>
    simp only [Datagrams.step] at h
    split at h
    next conn m payload hloop =>
      cases h
      have hm : (s.channels m).conn = some conn :=
        hfound _ (List.mem_of_getElem? hloop) m payload rfl
      constructor <;> simp [update_apply] <;> grind [List.mem_or_eq_of_mem_set]
    next => cases h
  | _ =>
    simp only [Datagrams.step] at h
    (repeat' split at h) <;> cases h <;> constructor <;>
      simp -failIfUnchanged [update_apply] <;> grind [List.mem_or_eq_of_mem_set]

end Invariants

section Results

variable {requests} {s : Datagrams}

/-- The channel is closed and every operation on it has returned. -/
def Finished (s : Datagrams) (n : Nat) : Prop :=
  (s.channels n).request = .returned ∧ (s.channels n).close = .closed

/-- The channel is out of the registry. -/
structure Gone (requests : Nat → DatagramRequest) (s : Datagrams) (n : Nat) : Prop where
  absent : ∀ id, s.datagramChannels id ≠ some n
  /-- Unless a third channel has its id, another one can be registered with it. -/
  replaceable : ∀ m, (s.channels m).request = .registering →
    (requests m).channelID = (requests n).channelID → s.quicConn ≠ none →
    (∀ k ≠ n, s.datagramChannels (requests n).channelID ≠ some k) →
    ∃ s', s.step requests (.register m) = some s' ∧
      s'.datagramChannels (requests n).channelID = some m
  /-- No datagram that is read now is queued to it. -/
  unreachable : ∀ i data s', s.step requests (.receive i data) = some s' →
    ∀ l, s'.loops[i]? = some l → ∀ payload, l.found ≠ some (n, payload)

/-- A channel that is registered before its `close` has told the registry is out of the
registry in the end. -/
theorem closed_channels_gone (h : Steps (step requests) RegistersOpen {} s) {n : Nat}
    (hfinished : s.Finished n) : s.Gone requests n := by
  obtain ⟨hentered, hlive⟩ : s.Entered requests ∧ s.Live := by
    refine h.invariant ?_ ?_
    · exact ⟨⟨nofun, fun _ _ => rfl⟩, nofun⟩
    · rintro s₁ s₂ e ⟨hentered, hlive⟩ hallow hstep
      exact ⟨hentered.step hstep, hlive.step hentered hallow hstep⟩
  have habsent : ∀ id, s.datagramChannels id ≠ some n := by
    intro id hn
    have hclose := hlive id n hn
    rw [hfinished.2] at hclose
    exact absurd hclose (by decide)
  refine ⟨habsent, fun m hm hid hconn hother => ?_, fun i data s' hstep l hl payload hfound => ?_⟩
  · obtain ⟨conn, hconn⟩ := Option.ne_none_iff_exists'.mp hconn
    have hnone : s.datagramChannels (requests n).channelID = none := by
      refine Option.eq_none_iff_forall_ne_some.mpr fun k hk => ?_
      by_cases hkn : k = n
      · exact habsent _ (hkn ▸ hk)
      · exact hother k hkn hk
    exact ⟨_, by simp only [step, hm, hid, hconn, hnone]; rfl, by simp [hid]⟩
  · simp only [step] at hstep
    split at hstep
    next conn hloop =>
      split at hstep
      · cases hstep
        cases hl.symm.trans hloop
        cases hfound
      · cases hstep
        rw [List.getElem?_set_self (List.getElem?_eq_some_iff.mp hloop).1] at hl
        cases hl
        obtain ⟨m, hm, hpair⟩ := Option.map_eq_some_iff.mp hfound
        cases hpair
        exact habsent _ hm
    next => cases hstep

/-- Requests that all ask for one channel id. -/
def sampleRequests : Nat → DatagramRequest := fun n => ⟨n, "tunnel", List.replicate 12 0⟩

theorem closed_channels_gone_sample : ∃ s, Steps (step sampleRequests) RegistersOpen {} s ∧
    s.Finished 0 ∧ s.Gone sampleRequests 0 := by
  have hrun := (Steps.start : Steps (step sampleRequests) RegistersOpen {} _)
    |>.next .connect nofun rfl
    |>.next (.publish 0) nofun rfl
    |>.next (.register 0) (fun _ h => by cases h; exact .inl rfl) rfl
    |>.next (.deliver 0 true) nofun rfl
    |>.next (.close 0) nofun rfl
    |>.next (.unregister 0) nofun rfl
    |>.next (.closed 0) nofun rfl
  exact ⟨_, hrun, ⟨rfl, rfl⟩, closed_channels_gone hrun ⟨rfl, rfl⟩⟩

/-- The tunnel is closed, and the channel with it, before the channel is registered: the closed
channel stays in the registry. -/
theorem closed_channel_registered : ¬ ∀ s n, Steps (step sampleRequests) (fun _ _ => True) {} s →
    s.Finished n → s.Gone sampleRequests n := by
  intro hall
  have hrun := (Steps.start : Steps (step sampleRequests) (fun _ _ => True) {} _)
    |>.next .connect trivial rfl
    |>.next (.publish 0) trivial rfl
    |>.next (.closeTunnel 0 "tunnel") trivial rfl
    |>.next (.close 0) trivial rfl
    |>.next (.unregister 0) trivial rfl
    |>.next (.closed 0) trivial rfl
    |>.next (.register 0) trivial rfl
    |>.next (.deliver 0 true) trivial rfl
  exact (hall _ 0 hrun ⟨rfl, rfl⟩).absent (List.replicate 12 0) rfl

/-- As long as a datagram of an earlier connection finds no channel, a channel receives only
what was read from the connection it was registered on. -/
theorem datagrams_isolated (h : Steps (step requests) ReadsCurrent {} s) {n conn : Nat}
    {payload : List UInt8} (hreceived : (conn, payload) ∈ (s.channels n).received) :
    (s.channels n).conn = some conn := by
  obtain ⟨-, hdelivered⟩ : s.Entered requests ∧ s.Delivered := by
    refine h.invariant ?_ ?_
    · exact ⟨⟨nofun, fun _ _ => rfl⟩, nofun, nofun⟩
    · rintro s₁ s₂ e ⟨hentered, hdelivered⟩ hallow hstep
      exact ⟨hentered.step hstep, hdelivered.step hentered hallow hstep⟩
  exact hdelivered.received n conn payload hreceived

theorem datagrams_isolated_sample : ∃ s, Steps (step sampleRequests) ReadsCurrent {} s ∧
    (s.channels 0).received = [(0, [7])] ∧ (s.channels 0).conn = some 0 := by
  have hrun := (Steps.start : Steps (step sampleRequests) ReadsCurrent {} _)
    |>.next .connect nofun rfl
    |>.next (.publish 0) nofun rfl
    |>.next (.register 0) nofun rfl
    |>.next (.receive 0 (List.replicate 12 0 ++ [7])) (fun _ _ _ h hl => by
        cases h; cases hl; exact .inr rfl) rfl
    |>.next (.enqueue 0 true) nofun rfl
  exact ⟨_, hrun, rfl, datagrams_isolated hrun (List.mem_singleton.mpr rfl)⟩

/-- The loop of a lost connection hands a late datagram to a channel of the next connection. -/
theorem late_datagram_delivered : ¬ ∀ s, Steps (step sampleRequests) (fun _ _ => True) {} s →
    ∀ n conn payload, (conn, payload) ∈ (s.channels n).received →
      (s.channels n).conn = some conn := by
  intro hall
  have hlost := (Steps.start : Steps (step sampleRequests) (fun _ _ => True) {} _)
    |>.next .connect trivial rfl
    |>.next (.publish 0) trivial rfl
    |>.next (.register 0) trivial rfl
    |>.next .invalidate trivial rfl
  have hlate := hlost
    |>.next .connect trivial rfl
    |>.next (.publish 1) trivial rfl
    |>.next (.register 1) trivial rfl
    |>.next (.receive 0 (List.replicate 12 0 ++ [7])) trivial rfl
    |>.next (.enqueue 0 true) trivial rfl
  exact absurd (hall _ hlate 1 0 [7] (List.mem_singleton.mpr rfl)) (by decide)

end Results

end Datagrams

end Rstream.Transport
