import Rstream.Transport.QuicPoints

/-!
# Connects and connections of a QUIC transport
-/

namespace Rstream.Transport

open Rstream.Core Function

namespace QuicPoint

/-- The attempt of a `Dial` that connects. -/
@[simp, grind =]
def flight : QuicPoint → Option Nat
  | connecting i _ | cancelling i _ _ | settling i _ _ => some i
  | _ => none

/-- The attempt whose connection a `Dial` has in hand. -/
@[simp, grind =]
def hand : QuicPoint → Option Nat
  | cancelling i _ err | settling i _ err => if err = none then some i else none
  | _ => none

/-- The connection that a call has to close. -/
@[simp, grind =]
def closes : QuicPoint → Option ConnId
  | closing c _ _ => some c
  | uncontexting _ conn => conn
  | _ => none

/-- A `Dial` whose attempt has not settled a connect yet. -/
@[simp, grind =]
def Seeks : QuicPoint → Prop
  | validating | counting | checking _ | waiting _ | waited _ | connecting _ _
  | cancelling _ _ _ | settling _ _ _ => True
  | ended again => again = true
  | _ => False

/-- A `Dial` connects in this attempt, begun in this generation. -/
@[simp, grind =]
def Flies (i g : Nat) : QuicPoint → Prop
  | connecting i' g' | cancelling i' g' _ | settling i' g' _ => i' = i ∧ g' = g
  | _ => False

@[grind! .]
theorem after_idle (t : QuicThread) (err : Option String) :
    (after t err).closes = none ∧ (after t err).hand = none ∧ (after t err).flight = none ∧
      ∀ c err', after t err ≠ losing c err' := by
  cases t <;> cases err <;> exact ⟨rfl, rfl, rfl, nofun⟩

@[grind! .]
theorem entry_idle (t : QuicThread) :
    (entry t).closes = none ∧ (entry t).hand = none ∧ (entry t).flight = none ∧
      ∀ c err, entry t ≠ losing c err := by
  cases t <;> exact ⟨rfl, rfl, rfl, nofun⟩

@[grind! .]
theorem after_seeks (n : Nat) (err : Option String) : ¬ (after (.dial n) err).Seeks := by
  cases err <;> exact id

end QuicPoint

/-- With so many resources left to close, the others are closed. -/
structure Bundle.Left (left : Nat) (b : Bundle) : Prop where
  le : left ≤ 4
  conn : left < 4 → b.conn = false
  qtransport : left < 3 → b.qtransport = false
  pconn : left < 2 → b.pconn = false

theorem Bundle.Left.shut {left : Nat} {b : Bundle} (h : b.Left (left + 2)) :
    (b.shut (left + 2)).Left (left + 1) := by
  obtain ⟨hle, hconn, hqtransport, hpconn⟩ := h
  match left, hle with
  | 2, _ | 1, _ | 0, _ => constructor <;> simp_all [Bundle.shut]

@[grind .]
theorem Bundle.shut_conn {b : Bundle} (h : b.conn = false) (left : Nat) :
    (b.shut left).conn = false := by
  unfold shut
  split <;> first | rfl | exact h

/-- Every connection is where its holder says. -/
structure Places (at₁ : QuicThread → QuicPoint) (s : Quic) : Prop where
  closer : ∀ t c, s.holder c = .closer t ↔ (at₁ t).closes = some c
  hand : ∀ n i, s.holder (n, i) = .dial ↔ (at₁ (.dial n)).hand = some i
  stored : ∀ c, s.holder c = .transport ↔ s.quicConn = some c
  absent : ∀ c, s.holder c = .unborn ∨ s.holder c = .closed → s.bundle c = .closed
  fresh : ∀ n i, (s.dials n).attempt < i ∨ (s.dials n).attempt = i ∧ (at₁ (.dial n)).Seeks ∧
    (at₁ (.dial n)).hand = none → s.holder (n, i) = .unborn
  closing : ∀ t c left err, at₁ t = .closing c left err → (s.bundle c).Left left

/-- One connect at a time, and who waits for it. -/
structure Connects (at₁ : QuicThread → QuicPoint) (s : Quic) : Prop where
  flight : ∀ n i, (at₁ (.dial n)).flight = some i ↔ s.connecting = true ∧ s.connectDone = (n, i)
  attempt : ∀ n i, at₁ (.dial n) = .checking i ∨ (at₁ (.dial n)).flight = some i →
    i = (s.dials n).attempt
  idle : s.connecting = true → s.quicConn = none
  landed : ∀ n i, s.doneClosed (n, i) = true →
    i < (s.dials n).attempt ∨ i = (s.dials n).attempt ∧ ¬ (at₁ (.dial n)).Seeks
  waiting : ∀ n d, at₁ (.dial n) = .waiting d → s.doneClosed d = true ∨
    s.connecting = true ∧ s.connectDone = d


variable {at₁ : QuicThread → QuicPoint} {s s' : Quic} {t : QuicThread} {p : QuicPoint}

namespace Connects

theorem pass (h : Connects at₁ s) (hpass : QuicPass s t (at₁ t) p) :
    Connects (update at₁ t p) s := by
  generalize hq : at₁ t = q at hpass
  cases hpass <;> constructor <;> simp -failIfUnchanged only [update_apply] <;>
    grind -linarith [cases Connects, QuicPoint.entry]

theorem settling {n i g : Nat} {err : Option String} (h : Connects at₁ s)
    (hq : at₁ (.dial n) = .settling i g err) : i = (s.dials n).attempt ∧ s.quicConn = none := by
  have hflight : (at₁ (.dial n)).flight = some i := by rw [hq]; rfl
  exact ⟨h.attempt n i (.inr hflight), h.idle ((h.flight n i).mp hflight).1⟩

theorem step (h : Connects at₁ s) (hmove : QuicMove s t (at₁ t) p s') :
    Connects (update at₁ t p) s' := by
  have hsettling := @h.settling
  generalize hq : at₁ t = q at hmove
  cases hmove with
  | pass hpass => exact { h.pass (hq ▸ hpass) with }
  | _ =>
    constructor <;> simp -failIfUnchanged only [Quic.stamp, Quic.note, Quic.setDial, Quic.setHolder,
      Quic.setBundle, Quic.detach, Quic.land, update_apply] <;> grind -linarith [cases Connects]

end Connects

namespace Places

/-- A call that has something of a connection to close is its holder. -/
theorem closer_of_closing {c : ConnId} {left : Nat} {err : Option String} (h : Places at₁ s)
    (ht : at₁ t = .closing c left err) : s.holder c = .closer t :=
  (h.closer t c).mpr (by rw [ht]; rfl)

/-- The connection of a `Dial` that connects is not there yet. -/
theorem connecting {n i g : Nat} (h : Places at₁ s) (hconnects : Connects at₁ s)
    (hq : at₁ (.dial n) = .connecting i g) :
    i = (s.dials n).attempt ∧ s.holder (n, i) = .unborn := by
  have hi := hconnects.attempt n i (.inr (by rw [hq]; rfl))
  exact ⟨hi, h.fresh n i (.inr ⟨hi.symm, by rw [hq]; exact ⟨trivial, rfl⟩⟩)⟩

theorem settling {n i g : Nat} (h : Places at₁ s) (hq : at₁ (.dial n) = .settling i g none) :
    s.holder (n, i) = .dial :=
  (h.hand n i).mpr (by rw [hq]; rfl)

theorem pass (h : Places at₁ s) (hpass : QuicPass s t (at₁ t) p) : Places (update at₁ t p) s := by
  generalize hq : at₁ t = q at hpass
  cases hpass <;> constructor <;> simp -failIfUnchanged only [update_apply] <;>
    grind -linarith [cases Places, QuicPoint.entry, Bundle.Left]

theorem step (h : Places at₁ s) (hconnects : Connects at₁ s) (hmove : QuicMove s t (at₁ t) p s') :
    Places (update at₁ t p) s' := by
  have hclosing := @h.closer_of_closing
  have hsettling := @hconnects.settling
  have hconnecting := @h.connecting
  generalize hq : at₁ t = q at hmove
  cases hmove with
  | pass hpass => exact { h.pass (hq ▸ hpass) with }
  | _ =>
    constructor <;> simp -failIfUnchanged only [Quic.stamp, Quic.note, Quic.setDial, Quic.setHolder,
      Quic.setBundle, Quic.detach, Quic.land, update_apply] <;>
      grind -linarith [cases Places, Bundle.Left, Bundle.shut, Bundle.Left.shut, Bundle.closed]

end Places

theorem places_new : Places QuicPoint.entry .new := by
  have hidle := QuicPoint.entry_idle
  constructor <;> grind [Quic.new]

theorem connects_new : Connects QuicPoint.entry .new := by
  constructor <;> simp [Quic.new, QuicPoint.entry]

/-- In every run the connections are where their holders say, and there is one connect at a
time. -/
theorem flights_of_run {origin : Nat → String} {may}
    (h : (quicPoints origin).Run may QuicPoint.entry .new at₁ s) :
    Places at₁ s ∧ Connects at₁ s := by
  refine h.invariant ⟨places_new, connects_new⟩ fun h hmove _ => ?_
  exact ⟨h.1.step h.2 hmove, h.2.step hmove⟩

section Stale

variable {n i g : Nat}

theorem QuicMove.generation_le {q : QuicPoint} (h : QuicMove s t q p s') :
    s.closeGeneration ≤ s'.closeGeneration := by
  cases h <;> first | exact Nat.le_refl _ | exact Nat.le_succ _

/-- What is not there or closed stays so while its `Dial` does not connect. -/
theorem QuicMove.absent (h : QuicMove s t (at₁ t) p s') (hplaces : Places at₁ s)
    (ht : t ≠ .dial n) (hc : s.holder (n, i) = .unborn ∨ s.holder (n, i) = .closed) :
    s'.holder (n, i) = s.holder (n, i) := by
  have hstored := hplaces.stored
  have hclosing := @hplaces.closer_of_closing
  generalize hq : at₁ t = q at h
  cases h <;> simp -failIfUnchanged only [Quic.stamp, Quic.note, Quic.setDial, Quic.setHolder,
    Quic.setBundle, Quic.detach, Quic.land, update_apply] <;> grind

/-- A connect that was overtaken is closed by its `Dial` before it returns. -/
structure Overtaken (n i g : Nat) (p : QuicPoint) (s : Quic) : Prop where
  generation : g < s.closeGeneration
  phase : p.Flies i g ∨ (∃ left, p = .closing (n, i) (left + 1) none) ∨
    (p = .failing netErrClosed ∨ p = .ended false) ∧
      (s.holder (n, i) = .unborn ∨ s.holder (n, i) = .closed)

theorem Overtaken.move (h : Overtaken n i g (at₁ (.dial n)) s) (hplaces : Places at₁ s)
    (hconnects : Connects at₁ s) (hmove : QuicMove s (.dial n) (at₁ (.dial n)) p s') :
    Overtaken n i g p s' := by
  refine ⟨Nat.lt_of_lt_of_le h.generation hmove.generation_le, ?_⟩
  have hsettling := @hconnects.settling
  have hfresh := hplaces.fresh n
  obtain ⟨hgeneration, hphase⟩ := h
  generalize hq : at₁ (.dial n) = q at *
  cases hmove with
  | pass hpass =>
    cases hpass <;> grind [QuicPoint.after]
  | _ =>
    simp -failIfUnchanged only [Quic.stamp, Quic.note, Quic.setDial, Quic.setHolder,
    Quic.setBundle, Quic.detach, Quic.land, update_apply] <;> grind [QuicPoint.after]

theorem Overtaken.step (h : Overtaken n i g (at₁ (.dial n)) s) (hplaces : Places at₁ s)
    (hconnects : Connects at₁ s) (hmove : QuicMove s t (at₁ t) p s') :
    Overtaken n i g (update at₁ t p (.dial n)) s' := by
  by_cases ht : t = .dial n
  · subst ht
    rw [update_self]
    exact h.move hplaces hconnects hmove
  · rw [update_of_ne (Ne.symm ht)]
    refine ⟨Nat.lt_of_lt_of_le h.generation hmove.generation_le, ?_⟩
    refine h.phase.imp_right (Or.imp_right fun ⟨hq, hc⟩ => ⟨hq, ?_⟩)
    rwa [hmove.absent hplaces ht hc]

theorem Connects.not_flies {c : ConnId} (h : Connects at₁ s) (hc : s.doneClosed c = true) :
    (at₁ (.dial c.1)).flight ≠ some c.2 := by
  intro hflight
  have hi := h.attempt c.1 c.2 (.inr hflight)
  have hlanded := h.landed c.1 c.2 hc
  cases hq : at₁ (.dial c.1) <;> grind

/-- What a call may do that waits for a connect. -/
theorem QuicMove.of_waiting {d : ConnId} (h : QuicMove s (.dial n) (.waiting d) p s') :
    p = .waited .ctxDone ∨ p = .waited .connectDone ∧ s.doneClosed d = true := by
  cases h with
  | pass h _ =>
    cases h with
    | wait _ _ wait hdone =>
      cases wait with
      | ctxDone => exact .inl rfl
      | connectDone => exact .inr ⟨rfl, hdone rfl⟩

/-- A `Dial` that was overtaken has closed its connection when it has ended. -/
theorem Overtaken.closed {origin : Nat → String} {config : Config QuicThread Quic}
    (h : Overtaken n i g (at₁ (.dial n)) config.state)
    (hplaces : Places at₁ config.state) (hat : (quicPoints origin).Describes at₁ config)
    (hdone : config.pool (.dial n) = .done false) : config.state.bundle (n, i) = .closed := by
  have hcode := (hat (.dial n)).symm.trans hdone
  rcases h.phase with hflies | ⟨left, hq⟩ | ⟨hq | hq, hc⟩
  · generalize at₁ (.dial n) = q at hcode hflies
    cases q <;> first | exact hflies.elim | cases hcode
  · rw [hq] at hcode
    cases left <;> cases hcode
  · rw [hq] at hcode
    cases hcode
  · exact hplaces.absent _ hc

/-- **Connection state.** In every run at most one `Dial` connects, and no connection is stored
meanwhile. Who waits for a connect moves on with the error of its own context or, once that connect
has ended, to the next check. What a connect that was overtaken by a `Close` or an invalidation
has established is closed when its `Dial` ends. -/
theorem quicTransport_connects {origin : Nat → String} {config : Config QuicThread Quic}
    (h : (quicSystem origin).Reach (fun _ _ => True) .new config) :
    ∃ at₁, (quicPoints origin).Describes at₁ config ∧
      (∀ n m i j, (at₁ (.dial n)).flight = some i → (at₁ (.dial m)).flight = some j →
        (n, i) = (m, j) ∧ config.state.quicConn = none) ∧
      (∀ n d, at₁ (.dial n) = .waiting d →
        ((at₁ (.dial d.1)).flight = some d.2 ∨ config.state.doneClosed d = true) ∧
        ∀ p s', QuicMove config.state (.dial n) (.waiting d) p s' →
          p = .waited .ctxDone ∨ p = .waited .connectDone ∧ (at₁ (.dial d.1)).flight ≠ some d.2) ∧
      ∀ n i g, (at₁ (.dial n)).Flies i g → g < config.state.closeGeneration →
        ∀ config', (quicSystem origin).Runs (fun _ _ => True) config config' →
          config'.pool (.dial n) = .done false → config'.state.bundle (n, i) = .closed := by
  obtain ⟨at₁, hat, hrun⟩ := Points.describes_of_reach (P := quicPoints origin) h
  obtain ⟨hplaces, hconnects⟩ := flights_of_run hrun
  refine ⟨at₁, hat, fun n m i j hn hm => ?_, fun n d hd => ⟨?_, fun p s' hmove => ?_⟩,
    fun n i g hflies hg config' hruns hdone => ?_⟩
  · have hn' := (hconnects.flight n i).mp hn
    exact ⟨hn'.2.symm.trans ((hconnects.flight m j).mp hm).2, hconnects.idle hn'.1⟩
  · exact (hconnects.waiting n d hd).symm.imp_left (hconnects.flight d.1 d.2).mpr
  · exact hmove.of_waiting.imp_right (And.imp_right hconnects.not_flies)
  · obtain ⟨at₂, hat₂, hrun₂⟩ := hat.runs hruns
    have hover : (Places at₂ config'.state ∧ Connects at₂ config'.state) ∧
        Overtaken n i g (at₂ (.dial n)) config'.state := by
      refine hrun₂.invariant ⟨⟨hplaces, hconnects⟩, hg, .inl hflies⟩ fun h hmove _ => ?_
      exact ⟨⟨h.1.1.step h.1.2 hmove, h.1.2.step hmove⟩, h.2.step h.1.1 h.1.2 hmove⟩
    exact hover.2.closed hover.1.1 hat₂ hdone

/-- A `Dial` connects while another one waits for it. -/
theorem quicTransport_connects_sample : ∃ config,
    (quicSystem fun _ => "").Reach (fun _ _ => True) .new config ∧ config.state.connecting = true ∧
      config.state.connectWaiters = 1 ∧ ∃ at₁, (quicPoints fun _ => "").Describes at₁ config := by
  have hstart : (quicSystem fun _ => "").Reach (fun _ _ => True) .new _ := .start
  have hwaiting := hstart
    |>.act (.dial 0) (none : Option String) rfl rfl trivial
    |>.act (.dial 0) () rfl rfl trivial
    |>.act (.dial 0) () rfl rfl trivial
    |>.act (.dial 1) (none : Option String) rfl rfl trivial
    |>.act (.dial 1) () rfl rfl trivial
    |>.act (.dial 1) () rfl rfl trivial
  obtain ⟨at₁, hat, -⟩ := quicTransport_connects hwaiting
  exact ⟨_, hwaiting, rfl, rfl, at₁, hat⟩

end Stale
end Rstream.Transport
