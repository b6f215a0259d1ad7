import Rstream.Transport.AutoSelection

/-!
# Connections of the automatic transport

The calls of a generation use the transport that it pinned. A connection that an attempt
obtained is closed unless it was pinned, and a cleanup only closes connections of its own
selection or of earlier ones.
-/

namespace Rstream.Transport

open Function

variable {mode : TunnelTransportMode} {closer : AutoCloser} {r : AutoRace} {d : AutoDial}
  {conns : AutoConn → ConnState} {c' c : ConnState} {action : RaceAction}

section Invariants

/-- The transport that a `Dial` dials, or whose connection it returns. -/
def DialPhase.uses : DialPhase → Option TransportRef
  | dialing ref => some ref
  | returning (.ok c) | returned (.ok c) => some c.transport
  | _ => none

namespace ConnState

/-- Someone closed the connection. -/
def Closed (c : ConnState) : Prop := ∃ closer, c = closed closer

/-- What may happen to a connection other than that it is established. -/
inductive Lowers (closer : AutoCloser) : ConnState → ConnState → Prop
  | keep (c : ConnState) : Lowers closer c c
  | close : Lowers closer usable (closed closer)

theorem Lowers.closed (h : Lowers closer c c') (hc : c.Closed) : c'.Closed := by
  cases h with
  | keep => exact hc
  | close => exact ⟨closer, rfl⟩

theorem Lowers.usable (h : Lowers closer c c') (hc : c' = .usable) : c = .usable := by
  cases h with
  | keep => exact hc
  | close => cases hc

theorem Lowers.unborn (h : Lowers closer c c') : c' = .unborn ↔ c = .unborn := by
  cases h with
  | keep => exact Iff.rfl
  | close => exact iff_of_false nofun nofun

end ConnState

namespace AutoTransport

/-- The transports that were pinned, and the calls that use them. -/
structure Pinned (s : AutoTransport) : Prop where
  current : s.pins s.generation = s.selected
  future : ∀ g, s.generation < g → s.pins g = none
  won : ∀ g ref, s.pins g = some ref → s.doneClosed ref.selection = true ∧
    (s.races ref.selection).outcome = some (.won ref.mode)
  uses : ∀ n ref, (s.dials n).phase.uses = some ref →
    ∃ g, (s.dials n).generation = some g ∧ s.pins g = some ref

/-- What became of the connections. -/
structure Disposed (s : AutoTransport) : Prop where
  fresh : ∀ c, s.conns c ≠ .unborn → c.transport.selection < s.selections
  born : ∀ m < s.selections, ∀ mode, ((s.races m).attempts mode).obtained = true →
    s.conns (.attempt ⟨m, mode⟩) ≠ .unborn
  discarded : ∀ m < s.selections, ∀ mode, (s.races m).attempts mode = .discarded (.ok ()) →
    (s.conns (.attempt ⟨m, mode⟩)).Closed
  stale : ∀ n m mode, (s.dials n).phase.stale = some m → (s.dials n).phase ≠ .discarding m →
    (s.races m).outcome = some (.won mode) → (s.conns (.attempt ⟨m, mode⟩)).Closed
  won : ∀ m mode, s.doneClosed m = true → (s.races m).outcome = some (.won mode) →
    (∃ g, s.pins g = some ⟨m, mode⟩) ∨ (s.conns (.attempt ⟨m, mode⟩)).Closed
  later : ∀ c m, s.conns c = .closed (.cleanup m) → c.transport.selection ≤ m

end AutoTransport

end Invariants

section Pins

namespace AutoTransport

variable {cfg : AutoConfig} {s s' : AutoTransport} {n m k : Nat}

/-- The invariant does not depend on the rest of the state. -/
theorem Pinned.grow (h : s.Pinned) (hexclusive : s.Exclusive) (hgrows : s.Grows s')
    (hselected : s'.selected = s.selected) (hgeneration : s'.generation = s.generation)
    (hpins : s'.pins = s.pins) (huses : ∀ n ref, (s'.dials n).phase.uses = some ref →
      ∃ g, (s'.dials n).generation = some g ∧ s.pins g = some ref) : s'.Pinned where
  current := by rw [hpins, hgeneration, hselected]; exact h.current
  future := by rw [hpins, hgeneration]; exact h.future
  won g ref hg := by
    rw [hpins] at hg
    obtain ⟨hdone, hwon⟩ := h.won g ref hg
    refine ⟨hgrows.done _ hdone, ?_⟩
    rw [(hgrows.races _ (hexclusive.ended _ hdone).1).2 (by rw [hwon]; nofun)]
    exact hwon
  uses := by rw [hpins]; exact huses

/-- One `Dial` moves on; what it uses was pinned. -/
theorem Pinned.setDial_uses (h : s.Pinned)
    (hd : ∀ ref, d.phase.uses = some ref → ∃ g, d.generation = some g ∧ s.pins g = some ref)
    (n' : Nat) (ref : TransportRef) (huses : ((s.setDial n d).dials n').phase.uses = some ref) :
    ∃ g, ((s.setDial n d).dials n').generation = some g ∧ s.pins g = some ref := by
  simp only [setDial, update_apply] at huses ⊢
  split_ifs at huses ⊢
  · exact hd ref huses
  · exact h.uses n' ref huses

theorem DialMove.uses (h : s.Pinned) (hmove : s.DialMove (s.dials n) d)
    (ref : TransportRef) (huses : d.phase.uses = some ref) :
    ∃ g, d.generation = some g ∧ s.pins g = some ref := by
  cases hmove with
  | reuse hcurrent hselected =>
    cases huses
    exact ⟨s.generation, rfl, h.current.trans hselected⟩
  | @giveBack result hphase =>
    refine h.uses n ref ?_
    rw [hphase]
    cases result with
    | ok c => exact huses
    | error err => cases huses
  | _ => cases huses

/-- A selection that is not stale pins its transport; nothing was pinned before. -/
theorem Pinned.select (h : s.Pinned) (hexclusive : s.Exclusive) (hgrows : s.Grows s')
    (hphase : (s.dials n).phase = .selecting m) (houtcome : (s.races m).outcome = some (.won mode))
    (hcurrent : s.generation = (s.races m).generation)
    (hselected : s'.selected = some ⟨m, mode⟩) (hgeneration : s'.generation = s.generation)
    (hpins : s'.pins = update s.pins s.generation (some ⟨m, mode⟩))
    (hdone : s'.doneClosed m = true) (hraces : s'.races = s.races)
    (hdials : s'.dials = update s.dials n
      ⟨(s.dials n).generation, .returning (.ok (.attempt ⟨m, mode⟩))⟩) : s'.Pinned := by
  obtain ⟨hselecting, _, _, hdial⟩ := hexclusive.running n m (by rw [hphase]; rfl)
  have hnone : s.pins s.generation = none :=
    h.current.trans (hexclusive.selecting hselecting).2.2.1
  have hkeep : ∀ {g ref}, s.pins g = some ref → s'.pins g = some ref := by
    intro g ref hg
    rw [hpins, update_of_ne]
    · exact hg
    · rintro rfl
      cases hnone.symm.trans hg
  refine ⟨?_, fun g hg => ?_, fun g ref hg => ?_, fun n' ref huses => ?_⟩
  · rw [hpins, hgeneration, hselected, update_self]
  · rw [hgeneration] at hg
    rw [hpins, update_of_ne (Nat.ne_of_gt hg)]
    exact h.future g hg
  · rw [hpins, update_apply] at hg
    split_ifs at hg
    · cases hg
      exact ⟨hdone, by rw [hraces]; exact houtcome⟩
    · obtain ⟨hclosed, hwon⟩ := h.won g ref hg
      exact ⟨hgrows.done _ hclosed, by rw [hraces]; exact hwon⟩
  · rw [hdials, update_apply] at huses ⊢
    split_ifs at huses ⊢
    · cases huses
      refine ⟨s.generation, hdial.trans (congrArg some hcurrent.symm), ?_⟩
      rw [hpins, update_self]
      rfl
    · obtain ⟨g, hg, hpin⟩ := h.uses n' ref huses
      exact ⟨g, hg, hkeep hpin⟩

theorem Pinned.trans (h : s.Pinned) (hexclusive : s.Exclusive) (htrans : Trans cfg s s') :
    s'.Pinned := by
  have hgrows := htrans.grows hexclusive
  cases htrans with
  | dial n hmove => exact h.grow hexclusive hgrows rfl rfl rfl (h.setDial_uses (hmove.uses h))
  | begin n hcurrent hselected hselecting hcleanup =>
    rw [beginSelection_eq] at hgrows ⊢
    exact h.grow hexclusive hgrows rfl rfl rfl (h.setDial_uses nofun)
  | clear n hphase =>
    rw [clearCleanup_eq] at hgrows ⊢
    exact h.grow hexclusive hgrows rfl rfl rfl (h.setDial_uses nofun)
  | @pinned n ref hphase =>
    refine h.grow hexclusive hgrows rfl rfl rfl (h.setDial_uses fun ref' huses => ?_)
    cases huses
    exact h.uses n ref (by rw [hphase]; rfl)
  | race m hm hact =>
    rw [raceConns_eq] at hgrows ⊢
    exact h.grow hexclusive hgrows rfl rfl rfl h.uses
  | @select n m hphase outcome houtcome hcurrent cleanupDone hcleanup =>
    cases outcome with
    | won mode =>
      exact h.select hexclusive hgrows hphase houtcome hcurrent rfl rfl rfl
        (update_self ..) rfl rfl
    | cancelled | failed => exact h.grow hexclusive hgrows rfl rfl rfl (h.setDial_uses nofun)
  | discard n hphase hwinner =>
    rw [closeConn_eq] at hgrows ⊢
    exact h.grow hexclusive hgrows rfl rfl rfl (h.setDial_uses nofun)
  | abandon n hphase hwinner =>
    rw [closeAutoTransport_eq] at hgrows ⊢
    exact h.grow hexclusive hgrows rfl rfl rfl (h.setDial_uses nofun)
  | finish n hphase => exact h.grow hexclusive hgrows rfl rfl rfl (h.setDial_uses nofun)
  | lock k hphase =>
    exact ⟨h.future _ (Nat.lt_succ_self _), fun g hg => h.future g (Nat.lt_of_succ_lt hg), h.won,
      h.uses⟩
  | close k hmove hconns hcleanup => exact h.grow hexclusive hgrows rfl rfl rfl h.uses

end AutoTransport

end Pins

section Connections

namespace AutoTransport

variable {cfg : AutoConfig} {s s' : AutoTransport} {n m k : Nat}

theorem closeConn_lowers (s : AutoTransport) (closer : AutoCloser) (c c' : AutoConn) :
    ConnState.Lowers closer (s.conns c') ((s.closeConn closer c).conns c') := by
  unfold closeConn
  split_ifs with husable
  · simp only [update_apply]
    split_ifs with heq
    · rw [heq, husable]
      exact .close
    · exact .keep _
  · exact .keep _

/-- A connection that exists is closed after `Close`. -/
theorem closeConn_closed {c : AutoConn} (h : s.conns c ≠ .unborn) (closer : AutoCloser) :
    ((s.closeConn closer c).conns c).Closed := by
  unfold closeConn
  split_ifs with husable
  · exact ⟨closer, update_self ..⟩
  · cases hc : s.conns c with
    | unborn => exact absurd hc h
    | usable => exact absurd hc husable
    | closed closer' => exact ⟨closer', rfl⟩

theorem closeAutoTransport_lowers (cfg : AutoConfig) (s : AutoTransport) (closer : AutoCloser) (ref : TransportRef)
    (c : AutoConn) :
    ConnState.Lowers closer (s.conns c) ((s.closeAutoTransport cfg closer ref).conns c) := by
  unfold closeAutoTransport
  split_ifs
  · simp only
    split_ifs with husable
    · rw [husable.1]
      exact .close
    · exact .keep _
  · exact .keep _

section

variable (h : s.Disposed)
include h

/-- Connections are closed. -/
theorem Disposed.lower (hconns : ∀ c, ConnState.Lowers closer (s.conns c) (conns c))
    (hlast : ∀ m, closer = .cleanup m → m + 1 = s.selections) :
    ({ s with conns } : AutoTransport).Disposed where
  fresh c hc := h.fresh c (mt (hconns c).unborn.mpr hc)
  born m hm mode hobtained := mt (hconns _).unborn.mp (h.born m hm mode hobtained)
  discarded m hm mode hmode := (hconns _).closed (h.discarded m hm mode hmode)
  stale n m mode hstale hphase hwon := (hconns _).closed (h.stale n m mode hstale hphase hwon)
  won m mode hdone hwon := (h.won m mode hdone hwon).imp_right (hconns _).closed
  later c m hc := by
    have hlowers := hconns c
    rw [show conns c = _ from hc] at hlowers
    generalize hbefore : s.conns c = before at hlowers
    cases hlowers with
    | keep => exact h.later c m hbefore
    | close =>
      have hfresh := h.fresh c (by rw [hbefore]; nofun)
      have hm := hlast m rfl
      omega

/-- A connection is established. -/
theorem Disposed.birth {c : AutoConn} (hbegun : c.transport.selection < s.selections)
    (hnew : ∀ m mode, c = .attempt ⟨m, mode⟩ →
      (s.races m).attempts mode ≠ .discarded (.ok ()) ∧ (s.races m).outcome ≠ some (.won mode)) :
    ({ s with conns := update s.conns c .usable } : AutoTransport).Disposed := by
  refine ⟨fun c' hc' => ?_, fun m hm mode hobtained => ?_, fun m hm mode hmode => ?_,
    fun n m mode hstale hphase hwon => ?_, fun m mode hdone hwon => ?_, fun c' m hc' => ?_⟩
  case refine_1 =>
    simp only [update_apply] at hc'
    split_ifs at hc' with heq
    · exact heq ▸ hbegun
    · exact h.fresh c' hc'
  case refine_6 =>
    simp only [update_apply] at hc'
    split_ifs at hc'
    exact h.later c' m hc'
  all_goals
    simp only [update_apply]
    split_ifs with heq
  · nofun
  · exact h.born m hm mode hobtained
  · exact absurd hmode (hnew m mode heq.symm).1
  · exact h.discarded m hm mode hmode
  · exact absurd hwon (hnew m mode heq.symm).2
  · exact h.stale n m mode hstale hphase hwon
  · exact absurd hwon (hnew m mode heq.symm).2
  · exact h.won m mode hdone hwon

theorem Disposed.setDial (hd : ∀ m mode, d.phase.stale = some m → d.phase ≠ .discarding m →
      (s.races m).outcome = some (.won mode) → (s.conns (.attempt ⟨m, mode⟩)).Closed) :
    (s.setDial n d).Disposed := by
  refine ⟨h.fresh, h.born, h.discarded, fun n' m mode hstale hphase hwon => ?_, h.won, h.later⟩
  simp only [AutoTransport.setDial, update_apply] at hstale hphase
  split_ifs at hstale hphase
  · exact hd m mode hstale hphase hwon
  · exact h.stale n' m mode hstale hphase hwon

theorem Disposed.congr (hconns : s'.conns = s.conns) (hraces : s'.races = s.races)
    (hselections : s'.selections = s.selections) (hdials : s'.dials = s.dials)
    (hdone : s'.doneClosed = s.doneClosed) (hpins : s'.pins = s.pins) : s'.Disposed := by
  obtain ⟨h₁, h₂, h₃, h₄, h₅, h₆⟩ := h
  constructor <;> simp only [hconns, hraces, hselections, hdials, hdone, hpins] <;> assumption

theorem DialMove.disposed (hmove : s.DialMove (s.dials n) d) : (s.setDial n d).Disposed := by
  refine h.setDial fun m mode hstale hphase' hwon => ?_
  have hwinner : (s.races m).winner ≠ none := by
    rw [AutoRace.winner, hwon]
    nofun
  cases hmove with
  | discard hphase houtcome hne =>
    cases hstale
    exact absurd rfl hphase'
  | nothingToDiscard hphase hnone | nothingToClose hphase hnone =>
    cases hstale
    exact absurd hnone hwinner
  | join hphase hsettled =>
    cases hstale
    exact h.stale n _ mode (by rw [hphase]; rfl) (by rw [hphase]; nofun) hwon
  | _ => cases hstale

/-- A race goes on, and what it obtains or discards is accounted for. -/
theorem Disposed.setRace (hexclusive : s.Exclusive)
    (hm : m < s.selections) (hadvances : (s.races m).Advances r)
    (hborn : ∀ mode, (r.attempts mode).obtained = true → s.conns (.attempt ⟨m, mode⟩) ≠ .unborn)
    (hdiscarded : ∀ mode, r.attempts mode = .discarded (.ok ()) →
      (s.conns (.attempt ⟨m, mode⟩)).Closed) :
    ({ s with races := update s.races m r } : AutoTransport).Disposed := by
  have houtcome : ∀ m' outcome, (s.races m').outcome ≠ none →
      (update s.races m r m').outcome = some outcome →
      (s.races m').outcome = some outcome := by
    intro m' outcome hnone houtcome
    rw [update_apply] at houtcome
    split_ifs at houtcome with heq
    · subst heq
      rwa [hadvances.outcome hnone] at houtcome
    · exact houtcome
  refine ⟨h.fresh, fun m' hm' mode hobtained => ?_, fun m' hm' mode hmode => ?_,
    fun n m' mode hstale hphase hwon => ?_, fun m' mode hdone hwon => ?_, h.later⟩
  · simp only [update_apply] at hobtained
    split_ifs at hobtained with heq
    · exact heq ▸ hborn mode hobtained
    · exact h.born m' hm' mode hobtained
  · simp only [update_apply] at hmode
    split_ifs at hmode with heq
    · exact heq ▸ hdiscarded mode hmode
    · exact h.discarded m' hm' mode hmode
  · exact h.stale n m' mode hstale hphase (houtcome m' _ (hexclusive.stale n m' hstale) hwon)
  · exact h.won m' mode hdone (houtcome m' _ (hexclusive.ended m' hdone).2 hwon)

/-- The end of a selection: its connection is pinned or closed. -/
theorem Disposed.endSelection (hwon : ∀ mode, (s.races m).outcome = some (.won mode) →
      (∃ g, s.pins g = some ⟨m, mode⟩) ∨ (s.conns (.attempt ⟨m, mode⟩)).Closed) :
    (s.endSelection m).Disposed := by
  refine ⟨h.fresh, h.born, h.discarded, h.stale, fun m' mode hdone hwon' => ?_, h.later⟩
  by_cases heq : m' = m
  · subst heq
    exact hwon mode hwon'
  · refine h.won m' mode ?_ hwon'
    simpa only [AutoTransport.endSelection, update_of_ne heq] using hdone

end

/-- A cleanup that is not over is that of the last selection. -/
theorem Exclusive.last_of_unsettled (h : s.Exclusive) (hm : m < s.selections)
    (hunsettled : (s.races m).cleanup.settled = false) (m' : Nat)
    (hcloser : AutoCloser.cleanup m = .cleanup m') : m' + 1 = s.selections := by
  cases hcloser
  cases hdone : s.doneClosed m with
  | true => exact (h.cleanup m (h.unsettled m hdone hunsettled)).1
  | false =>
    obtain ⟨hselecting, heq⟩ := h.unended m hm hdone
    exact heq ▸ (h.selecting hselecting).1

/-- A race goes on without obtaining or discarding a connection. -/
theorem Disposed.raceQuiet (h : s.Disposed) (hexclusive : s.Exclusive) (hm : m < s.selections)
    (hact : (s.races m).act action = some r)
    (hdial : ∀ mode, action ≠ .dial mode (.ok ())) (hconn : action ≠ .cleanupConn)
    (hlowers : ∀ c, ConnState.Lowers closer (s.conns c) (conns c))
    (hlast : ∀ m, closer = .cleanup m → m + 1 = s.selections) :
    ({ s with conns, races := update s.races m r } : AutoTransport).Disposed := by
  have hstep := AutoRace.act_attemptStep (hexclusive.books m hm) hact
  refine (h.lower hlowers hlast).setRace (hexclusive.withConns _) hm (AutoRace.act_advances hact)
    (fun mode hmode => ?_) fun mode hmode => ?_
  · have hbefore := ((hstep mode).obtained hmode).resolve_right (hdial mode)
    exact mt (hlowers _).unborn.mp (h.born m hm mode hbefore)
  · have hbefore := ((hstep mode).discarded hmode).resolve_right fun hand => hconn hand.1
    exact (hlowers _).closed (h.discarded m hm mode hbefore)

/-- An attempt obtains a connection. -/
theorem Disposed.raceDial (h : s.Disposed) (hexclusive : s.Exclusive) (hm : m < s.selections)
    (hact : (s.races m).act (.dial mode (.ok ())) = some r) : ({ s with
      conns := update s.conns (.attempt ⟨m, mode⟩) .usable
      races := update s.races m r } : AutoTransport).Disposed := by
  have hbooks := hexclusive.books m hm
  have hstep := AutoRace.act_attemptStep hbooks hact
  have hrunning : (s.races m).attempts mode = .running := AutoRace.running_of_dial hact
  have hbirth : ({ s with conns := update s.conns (.attempt ⟨m, mode⟩) .usable } :
      AutoTransport).Disposed := by
    refine h.birth hm fun m' mode' heq => ?_
    cases heq
    rw [hrunning]
    refine ⟨nofun, fun hwon => ?_⟩
    cases hrunning.symm.trans ((hbooks.won mode).mp hwon)
  refine hbirth.setRace (hexclusive.withConns _) hm (AutoRace.act_advances hact)
    (fun mode' hmode => ?_) fun mode' hmode => ?_
  · by_cases heq : mode' = mode
    · simp only [heq, update_self]
      nofun
    · have hne : AutoConn.attempt ⟨m, mode'⟩ ≠ .attempt ⟨m, mode⟩ := by simpa using heq
      simp only [update_of_ne hne]
      refine h.born m hm mode' (((hstep mode').obtained hmode).resolve_right fun haction => ?_)
      cases haction
      exact heq rfl
  · have hbefore := ((hstep mode').discarded hmode).resolve_right fun hand => by cases hand.1
    have hne : AutoConn.attempt ⟨m, mode'⟩ ≠ .attempt ⟨m, mode⟩ := by
      intro heq
      cases heq
      cases hrunning.symm.trans hbefore
    simp only [update_of_ne hne]
    exact h.discarded m hm mode' hbefore

/-- The cleanup closes a connection. -/
theorem Disposed.raceConn (h : s.Disposed) (hexclusive : s.Exclusive) (hm : m < s.selections)
    (hact : (s.races m).act .cleanupConn = some r)
    {count : Nat} (hcleanup : (s.races m).cleanup = .closingConn mode count) : ({ s with
      conns := (s.closeConn (.cleanup m) (.attempt ⟨m, mode⟩)).conns
      races := update s.races m r } : AutoTransport).Disposed := by
  have hstep := AutoRace.act_attemptStep (hexclusive.books m hm) hact
  have hlowers := closeConn_lowers s (.cleanup m) (.attempt ⟨m, mode⟩)
  have hlast := hexclusive.last_of_unsettled hm (by rw [hcleanup]; rfl)
  refine (h.lower hlowers hlast).setRace (hexclusive.withConns _) hm (AutoRace.act_advances hact)
    (fun mode' hmode => ?_) fun mode' hmode => ?_
  · have hbefore := ((hstep mode').obtained hmode).resolve_right nofun
    exact mt (hlowers _).unborn.mp (h.born m hm mode' hbefore)
  · obtain hbefore | ⟨_, ⟨count', hclosing⟩, hobtained⟩ := (hstep mode').discarded hmode
    · exact (hlowers _).closed (h.discarded m hm mode' hbefore)
    · cases hcleanup.symm.trans hclosing
      exact closeConn_closed (h.born m hm mode hobtained) _

theorem Disposed.race (h : s.Disposed) (hexclusive : s.Exclusive) (hm : m < s.selections)
    (hact : (s.races m).act action = some r) :
    ({ s.raceConns cfg m action with races := update s.races m r } :
      AutoTransport).Disposed := by
  have hkeep : ∀ c, ConnState.Lowers (.dial 0) (s.conns c) (s.conns c) := fun c => .keep _
  have hsame : (∀ mode, action ≠ .dial mode (.ok ())) → action ≠ .cleanupConn →
      ({ s with races := update s.races m r } : AutoTransport).Disposed :=
    fun hdial hconn => h.raceQuiet hexclusive hm hact hdial hconn hkeep (by simp)
  cases action with
  | dial mode result =>
    cases result with
    | ok _ => exact h.raceDial hexclusive hm hact
    | error err => exact hsame (by simp) (by simp)
  | cleanupConn =>
    rw [raceConns_eq]
    cases hcleanup : (s.races m).cleanup with
    | closingConn mode count =>
      simp only [raceConns, hcleanup]
      exact h.raceConn hexclusive hm hact hcleanup
    | _ =>
      simp only [AutoRace.act, AutoRace.cleanupConn, hcleanup] at hact
      cases hact
  | cleanupTransport =>
    rw [raceConns_eq]
    cases hcleanup : (s.races m).cleanup with
    | closingTransport mode count =>
      have hlast := hexclusive.last_of_unsettled hm (by rw [hcleanup]; rfl)
      refine h.raceQuiet hexclusive hm hact (by simp) (by simp) (fun c => ?_) hlast
      simp only [raceConns, hcleanup]
      split_ifs
      · exact closeAutoTransport_lowers ..
      · exact .keep _
    | _ =>
      simp only [AutoRace.act, AutoRace.cleanupTransport, hcleanup] at hact
      cases hact
  | cancel | fireTimer | receive | exit | send | cleanupReceive | cleanupFinish =>
    exact hsame (by simp) (by simp)

theorem Disposed.begin (h : s.Disposed) (hexclusive : s.Exclusive) (hselecting : s.selecting = false)
    {selectionDone : Nat} {selectionCancel : Option Nat} : ({ s with
      selecting := true
      selectionDone
      selectionCancel
      races := update s.races s.selections (.begin n s.generation)
      selections := s.selections + 1 } : AutoTransport).Disposed := by
  have hold : ∀ {m}, m < s.selections →
      update s.races s.selections (.begin n s.generation) m = s.races m :=
    fun hm => update_of_ne (Nat.ne_of_lt hm) ..
  have hnew : ∀ {m}, m < s.selections + 1 → ¬ m < s.selections → m = s.selections :=
    fun hm hnot => by omega
  refine ⟨fun c hc => Nat.lt_succ_of_lt (h.fresh c hc), fun m hm mode hobtained => ?_,
    fun m hm mode hmode => ?_, fun n' m mode hstale => ?_, fun m mode hdone hwon => ?_, h.later⟩
  · by_cases hlt : m < s.selections
    · simp only [hold hlt] at hobtained
      exact h.born m hlt mode hobtained
    · simp only [hnew hm hlt, update_self] at hobtained
      cases mode <;> cases hobtained
  · by_cases hlt : m < s.selections
    · simp only [hold hlt] at hmode
      exact h.discarded m hlt mode hmode
    · simp only [hnew hm hlt, update_self] at hmode
      cases mode <;> cases hmode
  · cases hselecting.symm.trans
      (hexclusive.running n' m (DialPhase.running_of_stale hstale)).1
  · simp only [hold (hexclusive.ended m hdone).1] at hwon
    exact h.won m mode hdone hwon

/-- The end of a selection that is not stale. -/
theorem Disposed.select (h : s.Disposed) (hexclusive : s.Exclusive) (hpinned : s.Pinned)
    (hphase : (s.dials n).phase = .selecting m) {outcome : AutoOutcome}
    (houtcome : (s.races m).outcome = some outcome) (cleanupDone : Option Nat) :
    ({ s.pinSelection n m outcome with cleanupDone }.endSelection m).Disposed := by
  have hfailed : ∀ err, (∀ mode, outcome ≠ .won mode) →
      ({ s.goDial n (.returning (.error err)) with cleanupDone }.endSelection m).Disposed := by
    refine fun err hlost => Disposed.endSelection (Disposed.congr (h.setDial (n := n)
      (d := ⟨_, .returning (.error err)⟩) nofun) rfl rfl rfl rfl rfl rfl) fun mode hwon => ?_
    exact absurd (Option.some.inj (houtcome.symm.trans hwon)) (hlost mode)
  cases outcome with
  | won mode =>
    obtain ⟨hselecting, _⟩ := hexclusive.running n m (by rw [hphase]; rfl)
    have hnone : s.pins s.generation = none :=
      hpinned.current.trans (hexclusive.selecting hselecting).2.2.1
    have hpins : ({ s with
        pins := update s.pins s.generation (some ⟨m, mode⟩) } : AutoTransport).Disposed := by
      refine ⟨h.fresh, h.born, h.discarded, h.stale, fun m' mode' hdone hwon => ?_, h.later⟩
      refine (h.won m' mode' hdone hwon).imp_left fun ⟨g, hg⟩ => ⟨g, ?_⟩
      refine (update_of_ne ?_ ..).trans hg
      rintro rfl
      cases hnone.symm.trans hg
    refine Disposed.endSelection (m := m) (Disposed.congr
      (hpins.setDial (n := n) (d := ⟨(s.dials n).generation,
        .returning (.ok (.attempt ⟨m, mode⟩))⟩) nofun) rfl rfl rfl rfl rfl rfl) fun mode' hwon => ?_
    cases houtcome.symm.trans hwon
    exact .inl ⟨s.generation, update_self ..⟩
  | cancelled err => exact hfailed err nofun
  | failed => exact hfailed _ nofun

theorem Disposed.trans (h : s.Disposed) (hexclusive : s.Exclusive) (hpinned : s.Pinned)
    (htrans : Trans cfg s s') : s'.Disposed := by
  cases htrans with
  | dial n hmove => exact hmove.disposed h
  | begin n hcurrent hselected hselecting hcleanup =>
    rw [beginSelection_eq]
    exact (h.begin hexclusive hselecting).setDial nofun
  | clear n hphase =>
    rw [clearCleanup_eq]
    exact Disposed.setDial (h.congr rfl rfl rfl rfl rfl rfl) nofun
  | @pinned n ref hphase =>
    obtain ⟨g, _, hpin⟩ := hpinned.uses n ref (by rw [hphase]; rfl)
    have hbegun := (hexclusive.ended _ (hpinned.won g ref hpin).1).1
    exact (h.birth (c := .dialed n ref) hbegun nofun).setDial nofun
  | race m hm hact => exact h.race hexclusive hm hact
  | select n hphase houtcome hcurrent hcleanup =>
    exact h.select hexclusive hpinned hphase houtcome _
  | @discard n m hphase mode hwinner =>
    rw [closeConn_eq]
    obtain ⟨hselecting, hdone, _⟩ := hexclusive.running n m (by rw [hphase]; rfl)
    have hm : m < s.selections := by
      have hlast := (hexclusive.selecting hselecting).1
      omega
    have hobtained : ((s.races m).attempts mode).obtained = true := by
      rw [((hexclusive.books m hm).won mode).mp (AutoRace.winner_eq_some.mp hwinner)]
      rfl
    have hlowers := closeConn_lowers s (.dial n) (.attempt ⟨m, mode⟩)
    refine (h.lower hlowers nofun).setDial fun m' mode' hstale _ hwon => ?_
    cases hstale
    cases (AutoRace.winner_eq_some.mp hwinner).symm.trans hwon
    exact closeConn_closed (h.born m hm mode hobtained) _
  | @abandon n m hphase mode hwinner =>
    rw [closeAutoTransport_eq]
    have hlowers := closeAutoTransport_lowers cfg s (.dial n) ⟨m, mode⟩
    refine (h.lower hlowers nofun).setDial fun m' mode' hstale _ hwon => ?_
    cases hstale
    exact (hlowers _).closed
      (h.stale n m mode' (by rw [hphase]; rfl) (by rw [hphase]; nofun) hwon)
  | @finish n m hphase =>
    refine Disposed.setDial (h.endSelection fun mode hwon => .inr ?_) nofun
    exact h.stale n m mode (by rw [hphase]; rfl) (by rw [hphase]; nofun) hwon
  | lock k hphase => exact h.congr rfl rfl rfl rfl rfl rfl
  | close k hmove hconns hcleanup =>
    obtain rfl | ⟨ref, rfl⟩ := hconns
    · exact h.congr rfl rfl rfl rfl rfl rfl
    · have hlowers := closeAutoTransport_lowers cfg s (.close k) ref
      exact (h.lower hlowers nofun).congr rfl rfl rfl rfl rfl rfl

end AutoTransport

end Connections

section Runs

namespace AutoTransport

variable {cfg : AutoConfig} {s s' : AutoTransport}

/-- What holds after every action. -/
structure Invariant (s : AutoTransport) : Prop where
  exclusive : s.Exclusive
  waits : s.Waits
  pinned : s.Pinned
  disposed : s.Disposed

theorem invariant_new : new.Invariant where
  exclusive := ⟨nofun, nofun, nofun, nofun, nofun, nofun, nofun, nofun, nofun, nofun, nofun⟩
  waits _ := trivial
  pinned := ⟨rfl, fun _ _ => rfl, nofun, nofun⟩
  disposed := ⟨fun _ hc => absurd rfl hc, nofun, nofun, nofun, nofun, nofun⟩

theorem Invariant.step (h : s.Invariant) {event : AutoEvent} (hstep : s.step cfg event = some s') :
    s'.Invariant :=
  have htrans := step_trans hstep
  ⟨h.exclusive.trans h.waits htrans, h.waits.trans h.exclusive htrans,
    h.pinned.trans h.exclusive htrans, h.disposed.trans h.exclusive h.pinned htrans⟩

theorem Invariant.run (h : s.Invariant) {events : List AutoEvent}
    (hrun : s.run cfg events = some s') : s'.Invariant := by
  induction events generalizing s with
  | nil =>
    cases hrun
    exact h
  | cons event events ih =>
    unfold AutoTransport.run at hrun
    split at hrun
    · next s₁ hstep => exact ih (h.step hstep) hrun
    · cases hrun

/-- What every run of `Dial` and `Close` calls guarantees about the selections. -/
structure Selections (s : AutoTransport) : Prop where
  /-- One selection runs at a time. -/
  exclusive : ∀ n n' m m', (s.dials n).phase.running = some m →
    (s.dials n').phase.running = some m' → n = n' ∧ m = m'
  /-- The calls between two `Close` calls use one transport. -/
  pinned : ∀ n n' c c', (s.dials n).phase = .returned (.ok c) →
    (s.dials n').phase = .returned (.ok c') → (s.dials n).generation = (s.dials n').generation →
    c.transport = c'.transport
  /-- When a selection is over, what its losing attempts obtained is closed, ... -/
  losers : ∀ m mode, s.Over m → ((s.races m).attempts mode).obtained = true →
    (s.races m).winner ≠ some mode → (s.conns (.attempt ⟨m, mode⟩)).Closed
  /-- ... and what its winner obtained is pinned or closed. -/
  winner : ∀ m mode, s.Over m → (s.races m).winner = some mode →
    (∃ g, s.pins g = some ⟨m, mode⟩) ∨ (s.conns (.attempt ⟨m, mode⟩)).Closed
  /-- A QUIC attempt that the selection did not wait for has its transport closed. -/
  quic : ∀ m, s.Over m → (∀ result, (s.races m).attempts .quic ≠ .received result) →
    (s.races m).transportClosed = true
  /-- A cleanup waits only for attempts that have not finished or have sent their result. -/
  cleanup : ∀ m < s.selections, ∀ count, (s.races m).cleanup = .waiting (count + 1) →
    (s.races m).results ≠ [] ∨ ∃ mode, (s.races m).attempts mode = .running ∨
      ∃ result, (s.races m).attempts mode = .dialed result
  /-- A cleanup closes no connection of a later selection. -/
  later : ∀ c m, s.conns c = .closed (.cleanup m) → c.transport.selection ≤ m
  /-- When `Close` has returned, the selections that had begun are over. -/
  close : ∀ k, (s.closes k).phase = .returned → ∀ m < (s.closes k).begun, s.Over m

theorem Invariant.selections (h : s.Invariant) : s.Selections := by
  obtain ⟨hexclusive, hwaits, hpinned, hdisposed⟩ := h
  have hbooks : ∀ {m}, s.Over m → (s.races m).Books ∧ (s.races m).outcome ≠ none := by
    intro m hover
    obtain ⟨hm, houtcome⟩ := hexclusive.ended m hover.1
    exact ⟨hexclusive.books m hm, houtcome⟩
  refine ⟨fun n n' m m' hn hn' => ?_, fun n n' c c' hn hn' hgeneration => ?_,
    fun m mode hover hobtained hlost => ?_, fun m mode hover hwon => ?_, fun m hover hlate => ?_,
    fun m hm count hcleanup => (hexclusive.books m hm).not_stuck hcleanup, hdisposed.later,
    fun k hk => ?_⟩
  · obtain ⟨_, hdone, howner, _⟩ := hexclusive.running n m hn
    obtain ⟨_, hdone', howner', _⟩ := hexclusive.running n' m' hn'
    have heq : m = m' := hdone.symm.trans hdone'
    subst heq
    exact ⟨howner.symm.trans howner', rfl⟩
  · obtain ⟨g, hg, hpin⟩ := hpinned.uses n c.transport (by rw [hn]; rfl)
    obtain ⟨g', hg', hpin'⟩ := hpinned.uses n' c'.transport (by rw [hn']; rfl)
    rw [hg, hg'] at hgeneration
    cases hgeneration
    exact Option.some.inj (hpin.symm.trans hpin')
  · obtain ⟨hrace, houtcome⟩ := hbooks hover
    obtain hidle | ⟨result, hreceived | hdiscarded⟩ := hrace.over houtcome hover.2 mode
    · rw [hidle] at hobtained
      cases hobtained
    · rw [hreceived] at hobtained
      cases result with
      | ok _ => exact absurd (AutoRace.winner_eq_some.mpr ((hrace.won mode).mpr hreceived)) hlost
      | error err => cases hobtained
    · rw [hdiscarded] at hobtained
      cases result with
      | ok _ => exact hdisposed.discarded m (hexclusive.ended m hover.1).1 mode hdiscarded
      | error err => cases hobtained
  · exact hdisposed.won m mode hover.1 (AutoRace.winner_eq_some.mp hwon)
  · obtain ⟨hrace, houtcome⟩ := hbooks hover
    obtain hidle | ⟨result, hreceived | hdiscarded⟩ := hrace.over houtcome hover.2 .quic
    · exact absurd hidle hrace.quic
    · exact absurd hreceived (hlate result)
    · refine (hrace.transport result hdiscarded).resolve_right fun ⟨count, hclosing⟩ => ?_
      have hsettled := hover.2
      rw [hclosing] at hsettled
      cases hsettled
  · have hawaits := hwaits k
    rw [hk] at hawaits
    exact hawaits

end AutoTransport

namespace AutoSample

def cfg : AutoConfig := ⟨fun _ => true, fun mode => mode = .quic⟩

/-- TLS wins while the QUIC attempt is running; a second `Dial` uses the pinned transport; the
cleanup closes what the QUIC attempt obtained, and `Close` waits for it. -/
def events : List AutoEvent := [
  .dialCheck 0, .race 0 .fireTimer, .race 0 (.dial .tls (.ok ())), .race 0 (.send .tls),
  .race 0 .receive, .dialSelected 0, .dialReturn 0,
  .dialCheck 1, .dialPinned 1 (.ok ()), .dialReturn 1,
  .closeLocked 0, .closeStep 0, .closeStep 0, .closeStep 0,
  .race 0 (.dial .quic (.ok ())), .race 0 (.send .quic), .race 0 .cleanupReceive,
  .race 0 .cleanupConn, .race 0 .cleanupTransport, .race 0 .cleanupFinish,
  .closeStep 0, .closeStep 0, .closeStep 0]

end AutoSample

end Runs

end Rstream.Transport
