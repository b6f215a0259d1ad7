import Rstream.Core.History
import Rstream.Transport.QuicFlights

/-!
# `QUICTransport.Close` as a barrier

A `Dial` that has checked the transport before the locked section of a `Close` is
covered by that `Close`. Its generation is behind the generation of the transport
from then on, so it can neither connect nor publish a connection, unless it starts
over with a second attempt. The connection it uses was taken from the transport by
the covering `Close` or before it.
-/

namespace Rstream.Transport

open Rstream.Core Program Function

section Log

/-- The first check of the `Dial` came before the locked section of the `Close`. -/
def CoveredBy (log : List QuicEvent) (k n : Nat) : Prop :=
  ∃ before after, log = before ++ .closeLocked k :: after ∧ .checked n 0 ∈ before

/-- A `Close` covers the `Dial`. -/
def Covered (log : List QuicEvent) (n : Nat) : Prop := ∃ k, CoveredBy log k n

/-- A `Close` that covers the `Dial` has returned. -/
def Barred (log : List QuicEvent) (n : Nat) : Prop :=
  ∃ k, CoveredBy log k n ∧ .closeReturned k ∈ log

/-- The `Dial` has returned. -/
def Returned (log : List QuicEvent) (n : Nat) : Prop :=
  .returnsStream n ∈ log ∨ ∃ err, .returnsError n err ∈ log

/-- A `Dial` connects, publishes and returns a stream only while no `Close` that covers it has
returned. -/
def Timely (before : List QuicEvent) : QuicEvent → Prop
  | .connects n | .publishes n | .returnsStream n => ¬ Barred before n
  | _ => True

/-- The barrier: events come in time, and nothing that belongs to a `Dial` stays open once it and
a `Close` that covers it have returned. -/
structure Quic.Barrier (s : Quic) : Prop where
  timely : EachAfter Timely s.log
  released : ∀ n, Returned s.log n → Barred s.log n → ∀ attempt, s.bundle (n, attempt) = .closed

/-- No covered `Dial` starts over, and when a `Close` returns, the `Dial`s it covers hold no stream
that they have not returned, and no other call is still closing their connections. -/
structure Undisturbed (s s' : Quic) : Prop where
  retry : ∀ n, .checked n 1 ∉ s.log → .checked n 1 ∈ s'.log → ¬ Covered s.log n
  close : ∀ k, .closeReturned k ∉ s.log → .closeReturned k ∈ s'.log → ∀ n, CoveredBy s.log k n →
    (s.dials n).stream = false ∧
      ∀ attempt t, s.holder (n, attempt) = .closer t → t = .close k ∨ t = .dial n

variable {log : List QuicEvent} {e : QuicEvent} {k n : Nat}

@[simp, grind =]
theorem coveredBy_snoc : CoveredBy (log ++ [e]) k n ↔
    CoveredBy log k n ∨ e = .closeLocked k ∧ .checked n 0 ∈ log := by
  constructor
  · rintro ⟨before, after, heq, hmem⟩
    rcases snoc_eq_append_cons.mp heq with ⟨rfl, he, _⟩ | ⟨rest, hl, _⟩
    · exact .inr ⟨he, hmem⟩
    · exact .inl ⟨before, rest, hl, hmem⟩
  · rintro (⟨before, after, rfl, hmem⟩ | ⟨rfl, hmem⟩)
    · exact ⟨before, after ++ [e], by simp, hmem⟩
    · exact ⟨log, [], rfl, hmem⟩

theorem CoveredBy.checked (h : CoveredBy log k n) : .checked n 0 ∈ log := by
  obtain ⟨before, after, rfl, hmem⟩ := h
  exact List.mem_append_left _ hmem

theorem Covered.checked (h : Covered log n) : .checked n 0 ∈ log := h.elim fun _ h => h.checked

@[grind →]
theorem CoveredBy.covered (h : CoveredBy log k n) : Covered log n := ⟨k, h⟩

@[grind →]
theorem Barred.covered (h : Barred log n) : Covered log n := h.imp fun _ h => h.1

/-- Only the locked section of a `Close` covers. -/
@[simp, grind =]
theorem covered_snoc : Covered (log ++ [e]) n ↔
    Covered log n ∨ (∃ k, e = .closeLocked k) ∧ .checked n 0 ∈ log := by
  simp [Covered, exists_or]

/-- The return of a `Close` bars what it covers. -/
@[simp, grind =]
theorem barred_snoc : Barred (log ++ [e]) n ↔ Barred log n ∨
    (∃ k, e = .closeReturned k ∧ CoveredBy log k n) ∨
      ∃ k, e = .closeLocked k ∧ .closeReturned k ∈ log ∧ .checked n 0 ∈ log := by
  simp only [Barred, coveredBy_snoc, List.mem_append, List.mem_singleton]
  grind

@[simp, grind =]
theorem returned_snoc : Returned (log ++ [e]) n ↔
    Returned log n ∨ e = .returnsStream n ∨ ∃ err, e = .returnsError n err := by
  simp only [Returned, List.mem_append, List.mem_singleton, exists_or]
  grind

end Log

section Ledger

/-- The generations of the `Dial`s and their checks. -/
structure Stamps (s : Quic) : Prop where
  checked : ∀ n i, s.holder (n, i) ≠ .unborn → .checked n 0 ∈ s.log
  generation : ∀ n g, (s.dials n).generation = some g →
    .checked n 0 ∈ s.log ∧ g ≤ s.closeGeneration ∧ (Covered s.log n → g < s.closeGeneration)
  /-- No attempt is checked before its turn. -/
  attempt : ∀ n i, (s.dials n).attempt < i ∨
    (s.dials n).attempt = i ∧ (s.dials n).generation = none → .checked n i ∉ s.log
  again : ∀ n, (s.dials n).attempt = 0 ∨ (s.dials n).attempt = 1 ∧ .checked n 0 ∈ s.log

/-- The relations between the connections and the events of a transport. -/
structure Ledger (s : Quic) : Prop where
  timely : EachAfter Timely s.log
  covered : ∀ n i, s.holder (n, i) = .transport → ¬ Covered s.log n
  closer : ∀ n i t, s.holder (n, i) = .closer t → Barred s.log n → t = .dial n
  /-- A connection that a `Dial` uses is taken out only by a `Close` or when it is gone. -/
  conn : ∀ n c, (s.dials n).conn = some c → s.holder c ≠ .unborn ∧ s.holder c ≠ .dial ∧
    ∀ t, s.holder c = .closer t → (∀ k, t ≠ .close k) → (s.bundle c).conn = false
  uses : ∀ n c k, (s.dials n).conn = some c → CoveredBy s.log k n → CoveredBy s.log k c.1
  barred : ∀ n c, Barred s.log n → (s.dials n).conn = some c → (s.bundle c).conn = false
  stream : ∀ n, Barred s.log n → (s.dials n).stream = false

/-- What the point of a `Dial` says about its variables. -/
@[grind =]
def QuicPoint.Knows : QuicPoint → Dialing → Prop
  | connecting _ g, d | cancelling _ g _, d | settling _ g _, d => d.generation = some g
  | opening c, d => d.conn = some c ∧ d.generation ≠ none
  | streaming, d => d.stream = true
  | losing _ _, d | closing _ _ _, d | retrying _, d => d.generation ≠ none
  | _, _ => True

/-- What the points of the calls say about their variables and events. -/
structure Stands (at₁ : QuicThread → QuicPoint) (s : Quic) : Prop where
  returned : ∀ n, Returned s.log n → at₁ (.dial n) = .ended false
  reported : ∀ k, .closeReturned k ∈ s.log → at₁ (.close k) = .ended false
  knows : ∀ n, (at₁ (.dial n)).Knows (s.dials n)
  /-- A connection that a call is about to invalidate is gone. -/
  lost : ∀ t c err, at₁ t = .losing c err →
    (s.bundle c).conn = false ∧ s.holder c ≠ .unborn ∧ ∀ k, t ≠ .close k

variable {at₁ : QuicThread → QuicPoint} {s s' : Quic} {t : QuicThread} {p : QuicPoint}

theorem QuicPoint.after_knows (t : QuicThread) (err : Option String) {d : Dialing}
    (h : d.generation ≠ none) : (after t err).Knows d := by
  cases t <;> cases err <;> first | exact h | trivial

theorem Stands.pass (h : Stands at₁ s) (hpass : QuicPass s t (at₁ t) p)
    (hconn : ∀ n c, (s.dials n).conn = some c → s.holder c ≠ .unborn) :
    Stands (update at₁ t p) s := by
  generalize hq : at₁ t = q at hpass
  cases hpass <;> constructor <;> simp -failIfUnchanged only [update_apply] <;>
    grind -linarith [cases Stands, QuicPoint.entry, QuicPoint.after_knows]

theorem Stands.step (h : Stands at₁ s) (hplaces : Places at₁ s) (hconnects : Connects at₁ s)
    (hconn : ∀ n c, (s.dials n).conn = some c → s.holder c ≠ .unborn)
    (hmove : QuicMove s t (at₁ t) p s') : Stands (update at₁ t p) s' := by
  have hconnecting := @hplaces.connecting
  generalize hq : at₁ t = q at hmove
  cases hmove with
  | pass hpass => exact { h.pass (hq ▸ hpass) hconn with }
  | _ =>
    constructor <;> simp -failIfUnchanged only [Quic.stamp, Quic.note, Quic.setDial, Quic.setHolder,
      Quic.setBundle, Quic.detach, Quic.land, update_apply, List.mem_append, List.mem_singleton] <;>
      grind -linarith [cases Stands, QuicPoint.after_knows]

/-- A `Dial` that goes on in the current generation is not covered. -/
theorem Stamps.uncovered {q : QuicPoint} (h : Stamps s) (hmove : QuicMove s t q p s')
    (hallow : Undisturbed s s') (n i : Nat) (ht : t = .dial n) (hq : q = .checking i)
    (hcurrent : s.Current n) : ¬ Covered s.log n := by
  subst ht hq
  rcases hcurrent with hnone | hsome
  · have hlog : (s.stamp n).log <+: s'.log := by
      cases hmove with
      | pass h => cases h
      | outdated _ _ h => exact absurd (.inl hnone) h
      | start => exact List.prefix_append ..
      | _ => exact List.prefix_refl _
    have hmem := hlog.subset (a := .checked n (s.dials n).attempt) (by simp [Quic.stamp, hnone])
    have hunchecked := h.attempt n _ (.inr ⟨rfl, hnone⟩)
    grind [h.again n, hallow.retry n, Covered.checked]
  · exact fun hc => Nat.lt_irrefl _ ((h.generation n _ hsome).2.2 hc)

theorem Stamps.step (h : Stamps s) (hplaces : Places at₁ s) (hstands : Stands at₁ s)
    (hmove : QuicMove s t (at₁ t) p s') (hallow : Undisturbed s s') : Stamps s' := by
  have hknows := hstands.knows
  have huncovered := h.uncovered hmove hallow
  have hstored := hplaces.stored
  have hclosing := @hplaces.closer_of_closing
  have hchecked : ∀ n, (s.dials n).generation ≠ none → .checked n 0 ∈ s.log := fun n hn =>
    (Option.ne_none_iff_exists'.mp hn).elim fun g hg => (h.generation n g hg).1
  clear hstands hplaces hallow
  generalize hq : at₁ t = q at *
  obtain ⟨checked, generation, attempt, again⟩ := h
  cases hmove with
  | pass => constructor <;> assumption
  | _ =>
    constructor <;> simp -failIfUnchanged only [Quic.stamp, Quic.note, Quic.setDial, Quic.setHolder,
      Quic.setBundle, Quic.detach, Quic.land, update_apply, List.mem_append, List.mem_singleton,
      covered_snoc, reduceCtorEq, false_and, exists_false, or_false] <;>
      first | assumption | grind [Covered.checked]

/-- A `Close` returns: what it covers holds no stream, and their connections are closed. -/
theorem Ledger.report {k : Nat} (h : Ledger s) (hplaces : Places at₁ s)
    (hq : at₁ (.close k) = .reporting) (hclose : ∀ n, CoveredBy s.log k n →
      (s.dials n).stream = false ∧
        ∀ i t, s.holder (n, i) = .closer t → t = .close k ∨ t = .dial n) :
    Ledger (s.note (.closeReturned k)) := by
  obtain ⟨timely, covered, closer, conn, uses, barred, stream⟩ := h
  have hquiet : ∀ c, s.holder c ≠ .closer (.close k) := fun c hc => by
    cases hq ▸ (hplaces.closer _ _).mp hc
  have hgone : ∀ n c, CoveredBy s.log k n → (s.dials n).conn = some c →
      (s.bundle c).conn = false := by
    intro n c hn hc
    have := conn n c hc
    have := uses n c k hc hn
    cases hholder : s.holder c <;> grind [hplaces.absent c, Bundle.closed]
  constructor <;> simp -failIfUnchanged only [Quic.note, coveredBy_snoc, covered_snoc, barred_snoc,
    reduceCtorEq, false_and, exists_false, or_false, eachAfter_snoc, Timely] <;>
    first | assumption | grind

/-- The locked section of a `Close`. -/
theorem Ledger.lock {k : Nat} (h : Ledger s) (hstamps : Stamps s) (hplaces : Places at₁ s)
    (hk : .closeReturned k ∉ s.log) (hmove : QuicMove s (.close k) .locking p s') : Ledger s' := by
  have hstored := hplaces.stored
  have hchecked := hstamps.checked
  obtain ⟨timely, covered, closer, conn, uses, barred, stream⟩ := h
  cases hmove with
  | pass hpass => cases hpass
  | _ =>
    constructor <;> simp -failIfUnchanged only [Quic.note, Quic.setHolder, Quic.detach,
      update_apply, coveredBy_snoc, covered_snoc, barred_snoc, eachAfter_snoc, Timely] <;>
      first | assumption | grind

theorem Ledger.step (h : Ledger s) (hstamps : Stamps s) (hplaces : Places at₁ s)
    (hconnects : Connects at₁ s) (hstands : Stands at₁ s) (hmove : QuicMove s t (at₁ t) p s')
    (hallow : Undisturbed s s') : Ledger s' := by
  have hknows := hstands.knows
  have hlost := hstands.lost
  have hstored := hplaces.stored
  have hconnecting := @hplaces.connecting
  have hsettling := @hplaces.settling
  have hclosing := @hplaces.closer_of_closing
  have huncovered := hstamps.uncovered hmove hallow
  have hgeneration := fun n g hg => (hstamps.generation n g hg).2.2
  have hreported := hstands.reported
  generalize hq : at₁ t = q at *
  obtain ⟨timely, covered, closer, conn, uses, barred, stream⟩ := id h
  cases hmove with
  | pass => constructor <;> assumption
  | report k => exact h.report hplaces hq (hallow.close k (by grind) (by simp [Quic.note]))
  | lock k hc => exact h.lock hstamps hplaces (by grind) (.lock k hc)
  | detach k hc => exact h.lock hstamps hplaces (by grind) (.detach k hc)
  | _ =>
    clear hallow hstands hplaces hreported h hstamps
    constructor <;> simp -failIfUnchanged only [Quic.stamp, Quic.note, Quic.setDial, Quic.setHolder,
      Quic.setBundle, Quic.detach, Quic.land, update_apply, coveredBy_snoc, covered_snoc,
      barred_snoc, reduceCtorEq, false_and, exists_false, or_false, eachAfter_snoc, Timely] <;>
      first | assumption | grind -linarith [Timely, eachAfter_snoc]

theorem ledger_new : Stamps .new ∧ Ledger .new := by
  have hcovered : ∀ k n, ¬ CoveredBy [] k n := by rintro k n ⟨before, after, h, -⟩; simp at h
  constructor <;> constructor <;>
    simp [Quic.new, Dialing.start, Covered, Barred, hcovered, eachAfter_nil]

theorem stands_new : Stands QuicPoint.entry .new := by
  constructor <;> grind [Quic.new, Returned, QuicPoint.entry]

theorem barrier_of_run {origin : Nat → String} (h : (quicPoints origin).Run
    (fun _ _ s _ s' => Undisturbed s s') QuicPoint.entry .new at₁ s) : s.Barrier := by
  have hinv : (Places at₁ s ∧ Connects at₁ s) ∧ (Stamps s ∧ Ledger s) ∧ Stands at₁ s := by
    refine h.invariant ⟨⟨places_new, connects_new⟩, ledger_new, stands_new⟩ ?_
    rintro at₁ s t p s' ⟨⟨hplaces, hconnects⟩, ⟨hstamps, hledger⟩, hstands⟩ hmove hallow
    exact ⟨⟨hplaces.step hconnects hmove, hconnects.step hmove⟩,
      ⟨hstamps.step hplaces hstands hmove hallow,
        hledger.step hstamps hplaces hconnects hstands hmove hallow⟩,
      hstands.step hplaces hconnects (fun n c hc => (hledger.conn n c hc).1) hmove⟩
  obtain ⟨⟨hplaces, -⟩, ⟨-, hledger⟩, hstands⟩ := hinv
  refine ⟨hledger.timely, fun n hreturned hbarred i => hplaces.absent (n, i) ?_⟩
  have hended := hstands.returned n hreturned
  cases hholder : s.holder (n, i) with
  | unborn => exact .inl rfl
  | closed => exact .inr rfl
  | transport => exact absurd hbarred.covered (hledger.covered n i hholder)
  | dial => cases hended ▸ (hplaces.hand n i).mp hholder
  | closer t =>
    obtain rfl := hledger.closer n i t hholder hbarred
    cases hended ▸ (hplaces.closer _ _).mp hholder

end Ledger

section Runs

/-- Steps up to the locked section of the `Close` of a run without a second attempt. -/
theorem undisturbed_early {s s' : Quic} (h : s'.log <+: [.checked 0 0, .connects 0, .publishes 0,
    .returnsStream 0, .closeLocked 0]) : Undisturbed s s' :=
  ⟨fun n _ hn => absurd (h.subset hn) (by simp), fun k _ hk => absurd (h.subset hk) (by simp)⟩

/-- **Barrier.** In every run in which no covered `Dial` starts over and, when a `Close` returns,
the `Dial`s it covers hold no stream and no other call is still closing their connections, `Close`
is a barrier. -/
theorem quicTransport_barrier {origin : Nat → String} {config : Config QuicThread Quic}
    (h : (quicSystem origin).Reach Undisturbed .new config) : config.state.Barrier := by
  obtain ⟨_, _, hrun⟩ := Points.describes_of_reach (P := quicPoints origin) h
  exact barrier_of_run hrun

/-- A `Dial` returns a stream, then a `Close` closes what belongs to it. -/
theorem quicTransport_barrier_sample :
    ∃ config, (quicSystem fun _ => "").Reach Undisturbed .new config ∧
      config.state.log = [.checked 0 0, .connects 0, .publishes 0, .returnsStream 0, .closeLocked 0,
        .closeReturned 0] ∧ config.state.Barrier := by
  have hstart : (quicSystem fun _ => "").Reach Undisturbed .new _ := .start
  have hreturned := hstart
    |>.act (.dial 0) (none : Option String) rfl rfl (undisturbed_early (by decide))
    |>.act (.dial 0) () rfl rfl (undisturbed_early (by decide))
    |>.act (.dial 0) () rfl rfl (undisturbed_early (by decide))
    |>.act (.dial 0) (QuicProg.Connected.ok false) rfl rfl (undisturbed_early (by decide))
    |>.act (.dial 0) () rfl rfl (undisturbed_early (by decide))
    |>.act (.dial 0) () rfl rfl (undisturbed_early (by decide))
    |>.act (.dial 0) QuicProg.Opened.ok rfl rfl (undisturbed_early (by decide))
    |>.act (.dial 0) () rfl rfl (undisturbed_early (by decide))
  have hclosing := hreturned
    |>.act (.close 0) () rfl rfl (undisturbed_early (by decide))
    |>.act (.close 0) () rfl rfl (undisturbed_early (by decide))
    |>.act (.close 0) () rfl rfl (undisturbed_early (by decide))
    |>.act (.close 0) () rfl rfl (undisturbed_early (by decide))
    |>.act (.close 0) () rfl rfl (undisturbed_early (by decide))
    |>.act (.close 0) () rfl rfl (undisturbed_early (by decide))
  obtain ⟨config, hreach, hpool, hlog, hstream, hholder⟩ : ∃ config,
      (quicSystem fun _ => "").Reach Undisturbed .new config ∧
      config.pool (.close 0) = .act (fun s (_ : Unit) => some ((), s.note (.closeReturned 0)))
        (fun _ => .done false) ∧
      config.state.log =
        [.checked 0 0, .connects 0, .publishes 0, .returnsStream 0, .closeLocked 0] ∧
      (config.state.dials 0).stream = false ∧ ∀ i t, config.state.holder (0, i) ≠ .closer t :=
    ⟨_, hclosing, rfl, rfl, rfl, fun i t => by cases i <;> nofun⟩
  have hclosed := hreach.act (.close 0) () hpool rfl ?_
  · exact ⟨_, hclosed, by simp [Quic.note, hlog], quicTransport_barrier hclosed⟩
  · refine ⟨fun n _ hn => ?_, fun k _ _ n hn => ?_⟩
    · simp [Quic.note, hlog] at hn
    · obtain rfl : n = 0 := by simpa [hlog] using hn.checked
      exact ⟨hstream, fun i t ht => absurd ht (hholder i t)⟩

/-- The second attempt of a `Dial` takes the generation after the `Close` that closed its
connection: it connects again and returns a stream. -/
theorem closed_transport_reconnects :
    ∃ config, (quicSystem fun _ => "").Reach (fun _ _ => True) .new config ∧
      config.state.log = [.checked 0 0, .connects 0, .publishes 0, .closeLocked 0, .closeReturned 0,
        .checked 0 1, .connects 0, .publishes 0, .returnsStream 0] ∧
      config.state.bundle (0, 1) = ⟨true, true, true, false⟩ ∧ ¬ config.state.Barrier := by
  have hstart : (quicSystem fun _ => "").Reach (fun _ _ => True) .new _ := .start
  have hpublished := hstart
    |>.act (.dial 0) (none : Option String) rfl rfl trivial
    |>.act (.dial 0) () rfl rfl trivial
    |>.act (.dial 0) () rfl rfl trivial
    |>.act (.dial 0) (QuicProg.Connected.ok false) rfl rfl trivial
    |>.act (.dial 0) () rfl rfl trivial
    |>.act (.dial 0) () rfl rfl trivial
  have hclosed := hpublished
    |>.act (.close 0) () rfl rfl trivial
    |>.act (.close 0) () rfl rfl trivial
    |>.act (.close 0) () rfl rfl trivial
    |>.act (.close 0) () rfl rfl trivial
    |>.act (.close 0) () rfl rfl trivial
    |>.act (.close 0) () rfl rfl trivial
    |>.act (.close 0) () rfl rfl trivial
  have hretried := hclosed
    |>.act (.dial 0) (QuicProg.Opened.lost "closed") rfl rfl trivial
    |>.act (.dial 0) () rfl rfl trivial
    |>.act (.dial 0) () rfl rfl trivial
    |>.again (.dial 0) rfl trivial
  have hdialed := hretried
    |>.act (.dial 0) (none : Option String) rfl rfl trivial
    |>.act (.dial 0) () rfl rfl trivial
    |>.act (.dial 0) () rfl rfl trivial
    |>.act (.dial 0) (QuicProg.Connected.ok false) rfl rfl trivial
    |>.act (.dial 0) () rfl rfl trivial
    |>.act (.dial 0) () rfl rfl trivial
    |>.act (.dial 0) QuicProg.Opened.ok rfl rfl trivial
    |>.act (.dial 0) () rfl rfl trivial
  refine ⟨_, hdialed, rfl, rfl, fun hbarrier => ?_⟩
  have hcovered : CoveredBy _ 0 0 := ⟨[.checked 0 0, .connects 0, .publishes 0],
    [.closeReturned 0, .checked 0 1, .connects 0, .publishes 0, .returnsStream 0], rfl, by decide⟩
  have hopen := hbarrier.released 0 (.inl (by decide)) ⟨0, hcovered, by decide⟩ 1
  exact absurd hopen (by decide)

end Runs

end Rstream.Transport
