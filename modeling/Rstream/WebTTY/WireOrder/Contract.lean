import Rstream.Core.History
import Rstream.WebTTY.SessionRules

/-!
# Order of the messages on the wire

Only one goroutine sends the messages of an output stream, and it is started
after the acknowledgement was written. The locked sections that end a stream and
record the exit of the child race to complete the session; the one that does so
is recorded as the closer, and only the closer sends the final close message.
-/

namespace Rstream.WebTTY

open Rstream.Core

/-- The message carries data or the end of one stream. -/
def Message.ofStream (t : DataType) : Message → Bool
  | .data (some d) => d.type = t
  | _ => false

/-- The message is an acknowledgement. -/
def Message.isAck : Message → Bool
  | .ack _ => true
  | _ => false

/-- The end of a stream. -/
def eosMessage (t : DataType) : Message := .data (some ⟨t, .eos⟩)

/-- What a message requires of the messages written before it. -/
structure Legal (streams : Finset DataType) (before : List Message) (m : Message) : Prop where
  /-- Data follows the acknowledgement. -/
  ack : m.isData → ∃ a ∈ before, a.isAck
  /-- Nothing of a stream follows its end. -/
  eos : ∀ t, m.ofStream t → eosMessage t ∉ before
  /-- The close is the only one and follows the end of every open stream. -/
  close : m.isClose → (∀ a ∈ before, ¬ a.isClose) ∧ ∀ t ∈ streams, eosMessage t ∈ before

/-- The order of the messages a session wrote, and the exit it reports. -/
structure WireOrder (s : Session) : Prop where
  /-- Every message finds what it requires before it. -/
  legal : EachAfter (Legal (Session.openStreams s.ptyFile)) s.wire
  /-- A close was only written after the child exited. -/
  exited : (∃ a ∈ s.wire, a.isClose) → s.childDone

/-- The goroutines that are started only after the acknowledgement. -/
def Goroutine.afterAck : Goroutine → Bool
  | .stdoutLoop | .stderrLoop | .waitLoop => true
  | _ => false

/-- The part of the session state that decides what may be written. -/
structure OrderView where
  wire : List Message
  started : Finset Goroutine
  opened : Bool
  cmd : Bool
  ptyFile : Bool
  streamsOpen : Option (Finset DataType)
  streamsActive : Nat
  childDone : Bool
  closer : Option Goroutine

/-- What a session contributes to the order of its messages. -/
def Session.orderView (s : Session) : OrderView where
  wire := s.wire
  started := s.started.filter fun g => g.afterAck
  opened := s.opened
  cmd := s.cmd
  ptyFile := s.ptyFile
  streamsOpen := s.streamsOpen
  streamsActive := s.streamsActive
  childDone := s.childDone
  closer := s.closer

variable {v : OrderView} {m : Message}

namespace OrderView

/-- The stream is open. -/
def HasStream (v : OrderView) (t : DataType) : Prop :=
  ∃ streams, v.streamsOpen = some streams ∧ t ∈ streams

/-- No close has been written. -/
def NoClose (v : OrderView) : Prop := ∀ a ∈ v.wire, ¬ a.isClose

/-- The invariant behind the order of the messages. -/
structure Inv (v : OrderView) : Prop where
  legal : EachAfter (Legal (Session.openStreams v.ptyFile)) v.wire
  /-- Readers and the waiter run only in an acknowledged session. -/
  started : ∀ g ∈ v.started, v.opened = true ∧ ∃ a ∈ v.wire, a.isAck
  cmd : v.cmd = v.opened
  unopened : v.opened = false → v.streamsOpen = none
  /-- The counter counts the open streams, and a stream leaves them after its end was sent. -/
  streams : v.opened = true → ∃ streams, v.streamsOpen = some streams ∧
    v.streamsActive = streams.card ∧
    ∀ t ∈ Session.openStreams v.ptyFile, t ∉ streams → eosMessage t ∈ v.wire
  /-- The closer found the child gone and no stream open. -/
  closer : v.closer ≠ none → v.childDone = true ∧ v.streamsOpen = some ∅
  close : (∃ a ∈ v.wire, a.isClose) → v.closer ≠ none

/-- What a goroutine relies on about the others. -/
structure Rely (g : Goroutine) (v w : OrderView) : Prop where
  wire : v.wire ⊆ w.wire
  started : v.started ⊆ w.started
  opened : v.opened = true → w.opened = true ∧ w.ptyFile = v.ptyFile
  openedBy : g = .readLoop → w.opened = v.opened
  stream : ∀ t, g.stream = some t → (v.HasStream t → w.HasStream t) ∧
    (eosMessage t ∉ v.wire → eosMessage t ∉ w.wire)
  waiter : g = .waitLoop → w.childDone = v.childDone
  closer : v.closer = some g → w.closer = some g ∧ (v.NoClose → w.NoClose)

theorem Rely.refl (g : Goroutine) (v : OrderView) : Rely g v v where
  wire := fun _ h => h
  started := fun _ h => h
  opened h := ⟨h, rfl⟩
  openedBy _ := rfl
  stream _ _ := ⟨id, id⟩
  waiter _ := rfl
  closer h := ⟨h, id⟩

theorem Rely.trans {g : Goroutine} {u w : OrderView} (h : Rely g u v) (h' : Rely g v w) :
    Rely g u w where
  wire := List.Subset.trans h.wire h'.wire
  started := fun _ hg => h'.started (h.started hg)
  opened hu := by
    obtain ⟨hv, hpty⟩ := h.opened hu
    obtain ⟨hw, hpty'⟩ := h'.opened hv
    exact ⟨hw, hpty'.trans hpty⟩
  openedBy hg := (h'.openedBy hg).trans (h.openedBy hg)
  stream t ht := ⟨(h'.stream t ht).1 ∘ (h.stream t ht).1, (h'.stream t ht).2 ∘ (h.stream t ht).2⟩
  waiter hg := (h'.waiter hg).trans (h.waiter hg)
  closer hg := by
    obtain ⟨hv, hno⟩ := h.closer hg
    obtain ⟨hw, hno'⟩ := h'.closer hv
    exact ⟨hw, hno' ∘ hno⟩

/-- The contract of the session goroutines on the order of the messages. -/
def contract : Contract Goroutine OrderView where
  allow _ _ := True
  inv := Inv
  rely := Rely
  rely_refl := Rely.refl
  rely_trans := Rely.trans

/-- The view after one more message. -/
def push (m : Message) (v : OrderView) : OrderView := { v with wire := v.wire ++ [m] }

/-- A message that is legal now keeps the invariant. -/
theorem Inv.push (h : Inv v) (hlegal : Legal (Session.openStreams v.ptyFile) v.wire m)
    (hcloser : m.isClose → v.closer ≠ none) : Inv (v.push m) where
  legal := eachAfter_snoc.mpr ⟨h.legal, hlegal⟩
  started g hg := by
    obtain ⟨hopened, a, ha, hack⟩ := h.started g hg
    exact ⟨hopened, a, List.mem_append_left _ ha, hack⟩
  cmd := h.cmd
  unopened := h.unopened
  streams hopened := by
    obtain ⟨streams, hsome, hcard, heos⟩ := h.streams hopened
    exact ⟨streams, hsome, hcard, fun t ht hn => List.mem_append_left _ (heos t ht hn)⟩
  closer := h.closer
  close := by
    rintro ⟨a, ha, hclose⟩
    rcases List.mem_append.mp ha with hold | hnew
    · exact h.close ⟨a, hold, hclose⟩
    · rw [List.mem_singleton.mp hnew] at hclose
      exact hcloser hclose

/-- A message that ends no other reader's stream and is no one else's close is unseen. -/
theorem Rely.push {u : Goroutine} (hstream : ∀ t, u.stream = some t → m ≠ eosMessage t)
    (hclose : m.isClose → v.closer ≠ some u) : Rely u v (v.push m) where
  wire := List.subset_append_left _ _
  started := fun _ h => h
  opened h := ⟨h, rfl⟩
  openedBy _ := rfl
  stream t ht := by
    refine ⟨id, fun hno hmem => ?_⟩
    rcases List.mem_append.mp hmem with hold | hnew
    · exact hno hold
    · exact hstream t ht (List.mem_singleton.mp hnew).symm
  waiter _ := rfl
  closer hg := by
    refine ⟨hg, fun hno a ha => ?_⟩
    rcases List.mem_append.mp ha with hold | hnew
    · exact hno a hold
    · rw [List.mem_singleton.mp hnew]
      exact fun hc => hclose hc hg

/-- A message that is neither data nor a close is always legal and disturbs no one. -/
theorem push_plain (h : Inv v) (hdata : m.isData = false)
    (hclose : m.isClose = false) : Inv (v.push m) ∧ ∀ u, Rely u v (v.push m) := by
  have hne : ∀ t, m ≠ eosMessage t := by
    rintro t rfl
    cases hdata
  have hstream : ∀ t, m.ofStream t = false := by
    intro t
    cases m <;> first | rfl | cases hdata
  refine ⟨h.push ⟨by simp [hdata], by simp [hstream], by simp [hclose]⟩ (by simp [hclose]), ?_⟩
  exact fun u => Rely.push (fun t _ => hne t) (by simp [hclose])

end OrderView

/-- The order contract on the whole session state. -/
def orderContract : Contract Goroutine Session :=
  OrderView.contract.comap Session.orderView

namespace Prog

open Program

variable {cfg : ServerConfig} {g : Goroutine}

theorem orderQuiet : Quiet fun s s' => s'.orderView = s.orderView where
  refl _ := rfl
  close _ := rfl
  writeMu _ _ := rfl
  client _ _ := rfl

/-- A write that is acceptable in the current state, and what holds after each outcome. -/
theorem writeMessage_order {P : Session → Prop} {Q : Result → Session → Prop}
    (hP : orderContract.Stable g P) (hQ : ∀ r, orderContract.Stable g (Q r))
    (hfail : ∀ s err, P s → Q (.error err) s) (hpush : ∀ s, orderContract.inv s → P s →
      orderContract.Keeps g s (s.push m) ∧ ∀ r, Q r (s.push m)) :
    orderContract.Triple g P (writeMessage cfg g m) Q :=
  writeMessage_triple orderQuiet (fun hinv h => .of_eq h hinv) hP
    (fun hinv h hs => hP.of_eq h hinv hs) hQ (fun hinv h hs => (hQ _).of_eq h hinv hs) hfail hpush

/-- Messages other than data and the close are unrestricted and disturb no one. -/
theorem writeMessage_plain {P : Session → Prop} (hP : orderContract.Stable g P)
    (hdata : m.isData = false) (hclose : m.isClose = false) :
    orderContract.Triple g P (writeMessage cfg g m) fun _ => P := by
  refine writeMessage_order hP (fun _ => hP) (fun s _ hs => hs) ?_
  intro s hinv hs
  obtain ⟨hinv', hrely⟩ := OrderView.push_plain hinv hdata hclose
  exact ⟨⟨hinv', fun u _ => hrely u⟩, fun _ => hP (hrely g) hinv' hs⟩

end Prog

end Rstream.WebTTY
