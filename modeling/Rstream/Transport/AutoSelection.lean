import Rstream.Transport.AutoTransitions

/-!
# Selections of the automatic transport

At most one selection runs at a time, and none begins before the last one is cleaned up.
What a generation pinned stays pinned, and a `Close` returns when the selections that
had begun are over.
-/

namespace Rstream.Transport

open Function

variable {d : AutoDial}

section Invariants

/-- The selection that a `Dial` runs. -/
def DialPhase.running : DialPhase → Option Nat
  | selecting m | discarding m | closing m | joining m | ending m => some m
  | _ => none

/-- The selection of a `Dial` that has found it stale. -/
def DialPhase.stale : DialPhase → Option Nat
  | discarding m | closing m | joining m | ending m => some m
  | _ => none

theorem DialPhase.running_of_stale {phase : DialPhase} {m : Nat} (h : phase.stale = some m) :
    phase.running = some m := by
  cases phase <;> first | exact h | cases h

namespace AutoTransport

/-- A selection has ended and is cleaned up. -/
def Over (s : AutoTransport) (m : Nat) : Prop :=
  s.doneClosed m = true ∧ (s.races m).cleanup.settled = true

/-- One selection at a time, with its cleanup. -/
structure Exclusive (s : AutoTransport) : Prop where
  books : ∀ m < s.selections, (s.races m).Books
  running : ∀ n m, (s.dials n).phase.running = some m → s.selecting = true ∧ s.selectionDone = m ∧
    (s.races m).owner = n ∧ (s.dials n).generation = some (s.races m).generation
  selecting : s.selecting = true → s.selectionDone + 1 = s.selections ∧ s.cleanupDone = none ∧
    s.selected = none ∧ s.doneClosed s.selectionDone = false
  ended : ∀ m, s.doneClosed m = true → m < s.selections ∧ (s.races m).outcome ≠ none
  unended : ∀ m < s.selections, s.doneClosed m = false → s.selecting = true ∧ s.selectionDone = m
  cleanup : ∀ m, s.cleanupDone = some m → m + 1 = s.selections ∧ s.doneClosed m = true
  unsettled : ∀ m, s.doneClosed m = true → (s.races m).cleanup.settled = false →
    s.cleanupDone = some m
  stale : ∀ n m, (s.dials n).phase.stale = some m → (s.races m).outcome ≠ none
  joined : ∀ n m, (s.dials n).phase = .ending m → (s.races m).cleanup.settled = true
  draining : ∀ n m, (s.dials n).phase = .draining m → s.doneClosed m = true
  clearing : ∀ n m, (s.dials n).phase = .clearing m → s.Over m

/-- What a `Close` still has to wait for, given how many selections had begun. -/
def Awaits (s : AutoTransport) (begun : Nat) : ClosePhase → Prop
  | .idle => True
  | .cancelling _ _ selection cleanup | .closing _ selection cleanup | .waiting selection cleanup =>
    match selection with
    | some m => ∀ m' < begun, m' ≠ m → s.Over m'
    | none => (∀ m < begun, s.doneClosed m = true ∧ (s.Over m ∨ cleanup = some m)) ∧
      ∀ m, cleanup = some m → s.doneClosed m = true
  | .rereading => ∀ m < begun, s.doneClosed m = true
  | .draining cleanup => (∀ m < begun, s.doneClosed m = true ∧ (s.Over m ∨ cleanup = some m)) ∧
    ∀ m, cleanup = some m → s.doneClosed m = true
  | .clearing m => s.Over m ∧ ∀ m' < begun, s.Over m'
  | .returning | .returned => ∀ m < begun, s.Over m

/-- What the calls of `Close` wait for. -/
def Waits (s : AutoTransport) : Prop :=
  ∀ k, s.Awaits (s.closes k).begun (s.closes k).phase

end AutoTransport

end Invariants

section Steps

namespace AutoTransport

variable {cfg : AutoConfig} {s s' : AutoTransport} {n m k : Nat}

section

variable (h : s.Exclusive)
include h

theorem Exclusive.congr (hselected : s'.selected = s.selected)
    (hselecting : s'.selecting = s.selecting) (hdone : s'.selectionDone = s.selectionDone)
    (hcleanup : s'.cleanupDone = s.cleanupDone) (hraces : s'.races = s.races)
    (hselections : s'.selections = s.selections) (hclosed : s'.doneClosed = s.doneClosed)
    (hdials : s'.dials = s.dials) : s'.Exclusive := by
  obtain ⟨h₁, h₂, h₃, h₄, h₅, h₆, h₇, h₈, h₉, h₁₀, h₁₁⟩ := h
  constructor <;> simp only [hselected, hselecting, hdone, hcleanup, hraces, hselections, hclosed,
    hdials, Over] <;> assumption

theorem Exclusive.withConns (conns : AutoConn → ConnState) :
    ({ s with conns } : AutoTransport).Exclusive :=
  h.congr rfl rfl rfl rfl rfl rfl rfl rfl

theorem Exclusive.setDial
    (hrunning : ∀ m, d.phase.running = some m → s.selecting = true ∧ s.selectionDone = m ∧
      (s.races m).owner = n ∧ d.generation = some (s.races m).generation)
    (hstale : ∀ m, d.phase.stale = some m → (s.races m).outcome ≠ none)
    (hjoined : ∀ m, d.phase = .ending m → (s.races m).cleanup.settled = true)
    (hdraining : ∀ m, d.phase = .draining m → s.doneClosed m = true)
    (hclearing : ∀ m, d.phase = .clearing m → s.Over m) : (s.setDial n d).Exclusive := by
  refine ⟨h.books, fun n' m hn' => ?_, h.selecting, h.ended, h.unended, h.cleanup, h.unsettled,
    fun n' m hn' => ?_, fun n' m hn' => ?_, fun n' m hn' => ?_, fun n' m hn' => ?_⟩
  all_goals
    simp only [AutoTransport.setDial, update_apply] at hn' ⊢
    split_ifs at hn' ⊢ with heq
  · exact heq ▸ hrunning m hn'
  · exact h.running n' m hn'
  · exact hstale m hn'
  · exact h.stale n' m hn'
  · exact hjoined m hn'
  · exact h.joined n' m hn'
  · exact hdraining m hn'
  · exact h.draining n' m hn'
  · exact hclearing m hn'
  · exact h.clearing n' m hn'

/-- A later phase in the same selection. -/
theorem Exclusive.setDial_onward {phase : DialPhase}
    (hphase : (s.dials n).phase = phase) (hrunning : d.phase.running = phase.running)
    (hstale : d.phase.stale = phase.stale) (hgeneration : d.generation = (s.dials n).generation)
    (hjoined : ∀ m, d.phase = .ending m → (s.races m).cleanup.settled = true)
    (hdraining : ∀ m, d.phase ≠ .draining m) (hclearing : ∀ m, d.phase ≠ .clearing m) :
    (s.setDial n d).Exclusive := by
  subst hphase
  refine h.setDial (fun m hm => ?_) (fun m hm => ?_) hjoined
    (fun m hm => absurd hm (hdraining m)) fun m hm => absurd hm (hclearing m)
  · rw [hgeneration]
    exact h.running n m (hrunning ▸ hm)
  · exact h.stale n m (hstale ▸ hm)

/-- A phase outside of a selection and of a cleanup. -/
theorem Exclusive.setDial_free (hrunning : d.phase.running = none)
    (hdraining : ∀ m, d.phase ≠ .draining m) (hclearing : ∀ m, d.phase ≠ .clearing m) :
    (s.setDial n d).Exclusive := by
  refine h.setDial (fun m hm => ?_) (fun m hm => ?_) (fun m hm => ?_)
    (fun m hm => absurd hm (hdraining m)) fun m hm => absurd hm (hclearing m)
  · rw [hrunning] at hm
    cases hm
  · rw [DialPhase.running_of_stale hm] at hrunning
    cases hrunning
  · rw [hm] at hrunning
    cases hrunning

theorem Exclusive.dialMove (hmove : s.DialMove (s.dials n) d) : (s.setDial n d).Exclusive := by
  cases hmove with
  | outdated | reuse | wait | fail | retry | giveBack => exact h.setDial_free rfl nofun nofun
  | drain hcurrent hcleanup =>
    refine h.setDial nofun nofun nofun (fun m hm => ?_) nofun
    cases hm
    exact (h.cleanup _ hcleanup).2
  | drained hphase hdone =>
    refine h.setDial nofun nofun nofun nofun fun m hm => ?_
    cases hm
    exact ⟨h.draining n _ hphase, by rw [hdone]; rfl⟩
  | discard hphase houtcome hstale =>
    refine h.setDial (fun m hm => ?_) (fun m hm => ?_) nofun nofun nofun
    · exact h.running n m (by rw [hphase]; exact hm)
    · cases hm
      exact houtcome
  | nothingToDiscard hphase | nothingToClose hphase =>
    exact h.setDial_onward hphase rfl rfl rfl nofun nofun nofun
  | join hphase hsettled =>
    refine h.setDial_onward hphase rfl rfl rfl (fun m hm => ?_) nofun nofun
    cases hm
    exact hsettled

theorem Exclusive.race (hm : m < s.selections) {r : AutoRace} {action : RaceAction}
    (hact : (s.races m).act action = some r) :
    ({ s with races := update s.races m r } : AutoTransport).Exclusive := by
  have hadvances := AutoRace.act_advances hact
  have hraces : ∀ m', (update s.races m r m').owner = (s.races m').owner ∧
      (update s.races m r m').generation = (s.races m').generation ∧
      ((s.races m').outcome ≠ none → (update s.races m r m').outcome ≠ none ∧
        ((s.races m').cleanup.settled = true →
          (update s.races m r m').cleanup.settled = true)) := by
    intro m'
    by_cases heq : m' = m
    · subst heq
      rw [update_self]
      refine ⟨hadvances.owner, hadvances.generation, fun houtcome => ⟨?_, fun hsettled => ?_⟩⟩
      · rw [hadvances.outcome houtcome]
        exact houtcome
      · rw [hadvances.settled houtcome hsettled]
        exact hsettled
    · rw [update_of_ne heq]
      exact ⟨rfl, rfl, fun houtcome => ⟨houtcome, id⟩⟩
  refine ⟨fun m' hm' => ?_, fun n' m' hn' => ?_, h.selecting, fun m' hm' => ?_, h.unended, h.cleanup,
    fun m' hdone hsettled => ?_, fun n' m' hn' => ?_, fun n' m' hn' => ?_, h.draining,
    fun n' m' hn' => ?_⟩
  · by_cases heq : m' = m
    · subst heq
      simp only [update_self]
      exact (h.books m' hm).act hact
    · simp only [update_of_ne heq]
      exact h.books m' hm'
  · obtain ⟨hselecting, hdone, howner, hgeneration⟩ := h.running n' m' hn'
    exact ⟨hselecting, hdone, (hraces m').1.trans howner, by rw [(hraces m').2.1]; exact hgeneration⟩
  · obtain ⟨hbegun, houtcome⟩ := h.ended m' hm'
    exact ⟨hbegun, ((hraces m').2.2 houtcome).1⟩
  · refine h.unsettled m' hdone (Bool.eq_false_iff.mpr fun hbefore => ?_)
    rw [((hraces m').2.2 (h.ended m' hdone).2).2 hbefore] at hsettled
    cases hsettled
  · exact ((hraces m').2.2 (h.stale n' m' hn')).1
  · have houtcome := h.stale n' m' (by rw [hn']; rfl)
    exact ((hraces m').2.2 houtcome).2 (h.joined n' m' hn')
  · obtain ⟨hdone, hsettled⟩ := h.clearing n' m' hn'
    exact ⟨hdone, ((hraces m').2.2 (h.ended m' hdone).2).2 hsettled⟩

/-- Forgetting a cleanup that is over. -/
theorem Exclusive.clear (hover : s.Over m) : (s.clearCleanup m).Exclusive := by
  unfold clearCleanup
  split_ifs with hcleanup
  · refine ⟨h.books, h.running, fun hselecting => ?_, h.ended, h.unended, nofun,
      fun m' hdone hsettled => ?_, h.stale, h.joined, h.draining, h.clearing⟩
    · obtain ⟨hlast, _, hselected, hopen⟩ := h.selecting hselecting
      exact ⟨hlast, rfl, hselected, hopen⟩
    · have heq := h.unsettled m' hdone hsettled
      rw [hcleanup] at heq
      cases heq
      rw [show (s.races m).cleanup.settled = true from hover.2] at hsettled
      cases hsettled
  · exact h

/-- The running selection ends, once its `Dial` has left it. -/
theorem Exclusive.endSelection (hidle : ∀ n, (s.dials n).phase.running = none)
    (hselecting : s.selecting = true) (hm : s.selectionDone = m)
    (houtcome : (s.races m).outcome ≠ none) (cleanupDone : Option Nat)
    (selected : Option TransportRef) (hcleanup : ∀ m', cleanupDone = some m' → m' = m)
    (hunsettled : (s.races m).cleanup.settled = false → cleanupDone = some m) :
    ({ s with cleanupDone, selected }.endSelection m).Exclusive := by
  obtain ⟨hlast, hnone, _, hopen⟩ := h.selecting hselecting
  rw [hm] at hlast hopen
  have hdone : ∀ m', update s.doneClosed m true m' = true ↔
      s.doneClosed m' = true ∨ m' = m := by
    intro m'
    rw [update_apply]
    split_ifs with heq
    · exact iff_of_true rfl (.inr heq)
    · exact ⟨.inl, fun hor => hor.resolve_right heq⟩
  refine ⟨h.books, fun n m' hn => ?_, nofun, fun m' hm' => ?_, fun m' hm' hopen' => ?_,
    fun m' hm' => ?_, fun m' hm' hsettled => ?_, h.stale, h.joined,
    fun n m' hn => (hdone m').mpr (.inl (h.draining n m' hn)), fun n m' hn => ?_⟩
  · cases (hidle n).symm.trans hn
  · obtain hm' | rfl := (hdone m').mp hm'
    · exact h.ended m' hm'
    · exact ⟨show m' < s.selections by omega, houtcome⟩
  · have hnot := mt (hdone m').mpr (Bool.eq_false_iff.mp hopen')
    rw [not_or] at hnot
    exact absurd ((h.unended m' hm' (Bool.eq_false_iff.mpr hnot.1)).2.symm.trans hm) hnot.2
  · cases hcleanup m' hm'
    exact ⟨hlast, update_self ..⟩
  · obtain hm' | rfl := (hdone m').mp hm'
    · cases hnone.symm.trans (h.unsettled m' hm' hsettled)
    · exact hunsettled hsettled
  · obtain ⟨hclosed, hsettled⟩ := h.clearing n m' hn
    exact ⟨(hdone m').mpr (.inl hclosed), hsettled⟩

/-- A selection begins, before its `Dial` enters it. -/
theorem Exclusive.begin (hselected : s.selected = none)
    (hselecting : s.selecting = false) (hcleanup : s.cleanupDone = none)
    {selectionCancel : Option Nat} : ({ s with
      selecting := true
      selectionDone := s.selections
      selectionCancel
      races := update s.races s.selections (.begin n s.generation)
      selections := s.selections + 1 } : AutoTransport).Exclusive := by
  have hidle : ∀ n', (s.dials n').phase.running = none := by
    intro n'
    refine Option.eq_none_iff_forall_ne_some.mpr fun m' hphase => ?_
    rw [(h.running n' m' hphase).1] at hselecting
    cases hselecting
  have hall : ∀ m < s.selections, s.doneClosed m = true := by
    intro m hm
    by_contra hopen
    rw [(h.unended m hm (Bool.eq_false_iff.mpr hopen)).1] at hselecting
    cases hselecting
  have hold : ∀ {m}, s.doneClosed m = true → m ≠ s.selections :=
    fun hm => Nat.ne_of_lt (h.ended _ hm).1
  have hfresh : s.doneClosed s.selections = false :=
    Bool.eq_false_iff.mpr fun hm => hold hm rfl
  have hrace : ∀ {m}, s.doneClosed m = true →
      update s.races s.selections (.begin n s.generation) m = s.races m :=
    fun hm => update_of_ne (hold hm) ..
  refine ⟨fun m hm => ?_, fun n' m hn' => ?_, fun _ => ⟨rfl, hcleanup, hselected, hfresh⟩,
    fun m hm => ?_, fun m hm hopen => ⟨rfl, ?_⟩, fun m hm => ?_, fun m hm hsettled => ?_,
    fun n' m hn' => ?_, fun n' m hn' => ?_, h.draining, fun n' m hn' => ?_⟩
  · by_cases heq : m = s.selections
    · simp only [heq, update_self]
      exact AutoRace.begin_books ..
    · simp only [update_of_ne heq]
      exact h.books m (Nat.lt_of_le_of_ne (Nat.le_of_lt_succ hm) heq)
  · cases (hidle n').symm.trans hn'
  · obtain ⟨hbegun, houtcome⟩ := h.ended m hm
    exact ⟨Nat.lt_succ_of_lt hbegun, by simpa only [hrace hm] using houtcome⟩
  · by_contra hne
    have hlt : m < s.selections :=
      Nat.lt_of_le_of_ne (Nat.le_of_lt_succ hm) fun heq => hne heq.symm
    cases (hall m hlt).symm.trans hopen
  · cases hcleanup.symm.trans hm
  · simp only [hrace hm] at hsettled
    exact h.unsettled m hm hsettled
  · cases (hidle n').symm.trans (DialPhase.running_of_stale hn')
  · have hnot := hidle n'
    rw [show (s.dials n').phase = _ from hn'] at hnot
    cases hnot
  · obtain ⟨hdone, hsettled⟩ := h.clearing n' m hn'
    exact ⟨hdone, by simpa only [hrace hdone] using hsettled⟩

/-- Once its `Dial` has left the running selection, no `Dial` runs one. -/
theorem Exclusive.idle (hphase : (s.dials n).phase.running = some m)
    (hrunning : d.phase.running = none) (n' : Nat) :
    ((s.setDial n d).dials n').phase.running = none := by
  simp only [AutoTransport.setDial, update_apply]
  split_ifs with heq
  · exact hrunning
  · obtain ⟨_, hdone, howner, _⟩ := h.running n m hphase
    refine Option.eq_none_iff_forall_ne_some.mpr fun m' hphase' => heq ?_
    obtain ⟨_, hdone', howner', _⟩ := h.running n' m' hphase'
    rw [hdone] at hdone'
    subst hdone'
    exact howner'.symm.trans howner

end

theorem beginSelection_eq (s : AutoTransport) (n : Nat) :
    (s.setDial n ⟨some s.generation, .checking⟩).beginSelection n =
      ({ s with
        selecting := true
        selectionDone := s.selections
        selectionCancel := some s.selections
        races := update s.races s.selections (.begin n s.generation)
        selections := s.selections + 1 } : AutoTransport).setDial n
          ⟨some s.generation, .selecting s.selections⟩ := by
  simp [beginSelection, goDial, AutoTransport.setDial, update_idem]

theorem pinSelection_eq (s : AutoTransport) (n m : Nat) (outcome : AutoOutcome) :
    ∃ selected pins result, s.pinSelection n m outcome =
      { s.setDial n ⟨(s.dials n).generation, .returning result⟩ with selected, pins } := by
  cases outcome with
  | won mode => exact ⟨_, _, _, rfl⟩
  | cancelled | failed => exact ⟨s.selected, s.pins, _, rfl⟩

theorem Exclusive.trans (h : s.Exclusive) (hwaits : s.Waits) (htrans : Trans cfg s s') :
    s'.Exclusive := by
  cases htrans with
  | dial n hmove => exact h.dialMove hmove
  | begin n hcurrent hselected hselecting hcleanup =>
    rw [beginSelection_eq]
    refine (h.begin (n := n) hselected hselecting hcleanup).setDial (fun m hm => ?_)
      (by rintro _ ⟨⟩) (by simp) (by simp) (by simp)
    cases hm
    refine ⟨rfl, rfl, ?_, ?_⟩ <;> simp [AutoRace.begin]
  | clear n hphase =>
    exact (h.clear (h.clearing n _ hphase)).setDial_free rfl (by simp) (by simp)
  | pinned n hphase =>
    exact (h.withConns _).setDial_free rfl (by simp) (by simp)
  | race m hm hact =>
    rw [raceConns_eq]
    exact (h.race hm hact).withConns _
  | @select n m hphase outcome houtcome hcurrent cleanupDone hcleanup =>
    obtain ⟨hselecting, hdone, _, _⟩ := h.running n _ (by rw [hphase]; rfl)
    obtain ⟨_, hnone, _⟩ := h.selecting hselecting
    obtain ⟨selected, pins, result, hpin⟩ := pinSelection_eq s n _ _
    rw [hpin]
    have hleft := h.setDial_free (n := n) (d := ⟨(s.dials n).generation, .returning result⟩)
      rfl (by simp) (by simp)
    have hend := hleft.endSelection (h.idle (by rw [hphase]; rfl) rfl) hselecting hdone
      (fun hnot => by cases houtcome.symm.trans hnot) cleanupDone selected (fun m' hm' => ?_)
      fun hunsettled => ?_
    · exact hend.congr rfl rfl rfl rfl rfl rfl rfl rfl
    · rw [hcleanup] at hm'
      split_ifs at hm'
      · cases hnone.symm.trans hm'
      · cases hm'
        rfl
    · rw [hcleanup, if_neg]
      intro habsent
      cases hunsettled.symm.trans (congrArg AutoCleanup.settled habsent)
  | discard n hphase hwinner =>
    rw [closeConn_eq]
    exact (h.withConns _).setDial_onward hphase rfl rfl rfl (by simp) (by simp) (by simp)
  | abandon n hphase hwinner =>
    rw [closeAutoTransport_eq]
    exact (h.withConns _).setDial_onward hphase rfl rfl rfl (by simp) (by simp) (by simp)
  | finish n hphase =>
    obtain ⟨hselecting, hdone, _, _⟩ := h.running n _ (by rw [hphase]; rfl)
    obtain ⟨_, hnone, _⟩ := h.selecting hselecting
    have hleft := h.setDial_free (n := n) (d := ⟨(s.dials n).generation,
      .returning (.error errClosed)⟩) rfl (by simp) (by simp)
    refine hleft.endSelection (h.idle (by rw [hphase]; rfl) rfl) hselecting hdone
      (h.stale n _ (by rw [hphase]; rfl)) s.cleanupDone s.selected (fun m' hm' => ?_)
      fun hunsettled => ?_
    · cases hnone.symm.trans hm'
    · cases hunsettled.symm.trans (h.joined n _ hphase)
  | lock k hphase =>
    refine ⟨h.books, h.running, fun hselecting => ?_, h.ended, h.unended, h.cleanup, h.unsettled,
      h.stale, h.joined, h.draining, h.clearing⟩
    obtain ⟨hlast, hcleanup, _, hopen⟩ := h.selecting hselecting
    exact ⟨hlast, hcleanup, rfl, hopen⟩
  | close k hmove hconns hcleanup =>
    obtain rfl | ⟨m, hphase, hdone, rfl⟩ := hcleanup
    · exact h.congr rfl rfl rfl rfl rfl rfl rfl rfl
    · have hover : s.Over m := by
        have hawaits := hwaits k
        rw [hphase] at hawaits
        exact hawaits.1
      have hclear := h.clear hover
      unfold clearCleanup at hclear
      rw [if_pos hdone] at hclear
      exact hclear.congr rfl rfl rfl rfl rfl rfl rfl rfl

/-- What an action never takes back. -/
structure Grows (s s' : AutoTransport) : Prop where
  done : ∀ m, s.doneClosed m = true → s'.doneClosed m = true
  ended : ∀ m, s.Over m → s'.Over m
  selections : s.selections ≤ s'.selections
  generation : s.generation ≤ s'.generation
  races : ∀ m < s.selections, (s'.races m).generation = (s.races m).generation ∧
    ((s.races m).outcome ≠ none → (s'.races m).outcome = (s.races m).outcome)

theorem Grows.of_same (hdone : s'.doneClosed = s.doneClosed) (hraces : s'.races = s.races)
    (hselections : s'.selections = s.selections) (hgeneration : s.generation ≤ s'.generation) :
    s.Grows s' where
  done m := by rw [hdone]; exact id
  ended m := by rw [Over, Over, hdone, hraces]; exact id
  selections := Nat.le_of_eq hselections.symm
  generation := hgeneration
  races m hm := by rw [hraces]; exact ⟨rfl, fun _ => rfl⟩

theorem Grows.of_end (hdone : s'.doneClosed = update s.doneClosed m true)
    (hraces : s'.races = s.races) (hselections : s'.selections = s.selections)
    (hgeneration : s'.generation = s.generation) : s.Grows s' := by
  have hmono : ∀ m', s.doneClosed m' = true → s'.doneClosed m' = true := by
    intro m' hm'
    rw [hdone, update_apply]
    split_ifs
    · rfl
    · exact hm'
  exact ⟨hmono, fun m' hm' => ⟨hmono m' hm'.1, by rw [hraces]; exact hm'.2⟩, Nat.le_of_eq hselections.symm,
    Nat.le_of_eq hgeneration.symm, fun m' _ => by rw [hraces]; exact ⟨rfl, fun _ => rfl⟩⟩

theorem Trans.grows (h : s.Exclusive) (htrans : Trans cfg s s') : s.Grows s' := by
  cases htrans with
  | dial | pinned | close => exact .of_same rfl rfl rfl (Nat.le_refl _)
  | begin n hcurrent hselected hselecting hcleanup =>
    have hrace : ∀ m < s.selections,
        ((s.setDial n ⟨some s.generation, .checking⟩).beginSelection n).races m = s.races m :=
      fun m hm => update_of_ne (Nat.ne_of_lt hm) ..
    refine ⟨fun m hm => hm, fun m hm => ⟨hm.1, ?_⟩, Nat.le_succ _, Nat.le_refl _, fun m hm => ?_⟩
    · rw [hrace m (h.ended m hm.1).1]
      exact hm.2
    · rw [hrace m hm]
      exact ⟨rfl, fun _ => rfl⟩
  | clear n hphase =>
    rw [clearCleanup_eq]
    exact .of_same rfl rfl rfl (Nat.le_refl _)
  | @race m hm action r hact =>
    rw [raceConns_eq]
    have hadvances := AutoRace.act_advances hact
    refine ⟨fun m hm => hm, fun m' hm' => ⟨hm'.1, ?_⟩, Nat.le_refl _, Nat.le_refl _,
      fun m' hm' => ?_⟩
    · by_cases heq : m' = m
      · subst heq
        simp only [update_self]
        rw [hadvances.settled (h.ended _ hm'.1).2 hm'.2]
        exact hm'.2
      · simp only [update_of_ne heq]
        exact hm'.2
    · by_cases heq : m' = m
      · subst heq
        simp only [update_self]
        exact ⟨hadvances.generation, hadvances.outcome⟩
      · simp only [update_of_ne heq]
        exact ⟨trivial, fun _ => trivial⟩
  | select n hphase houtcome hcurrent hcleanup =>
    obtain ⟨selected, pins, result, hpin⟩ := pinSelection_eq s n _ _
    rw [hpin]
    exact .of_end rfl rfl rfl rfl
  | discard n hphase hwinner =>
    rw [closeConn_eq]
    exact .of_same rfl rfl rfl (Nat.le_refl _)
  | abandon n hphase hwinner =>
    rw [closeAutoTransport_eq]
    exact .of_same rfl rfl rfl (Nat.le_refl _)
  | finish n hphase => exact .of_end rfl rfl rfl rfl
  | lock k hphase => exact .of_same rfl rfl rfl (Nat.le_succ _)

theorem Awaits.mono (hgrows : s.Grows s') {begun : Nat} {phase : ClosePhase}
    (h : s.Awaits begun phase) : s'.Awaits begun phase := by
  have hdrain : ∀ {cleanup : Option Nat},
      ((∀ m < begun, s.doneClosed m = true ∧ (s.Over m ∨ cleanup = some m)) ∧
        ∀ m, cleanup = some m → s.doneClosed m = true) →
      (∀ m < begun, s'.doneClosed m = true ∧ (s'.Over m ∨ cleanup = some m)) ∧
        ∀ m, cleanup = some m → s'.doneClosed m = true :=
    fun hd => ⟨fun m hm => ⟨hgrows.done m (hd.1 m hm).1, (hd.1 m hm).2.imp_left (hgrows.ended m)⟩,
      fun m hm => hgrows.done m (hd.2 m hm)⟩
  cases phase with
  | idle => trivial
  | cancelling _ _ selection | closing _ selection | waiting selection =>
    cases selection with
    | some m => exact fun m' hm' hne => hgrows.ended m' (h m' hm' hne)
    | none => exact hdrain h
  | rereading => exact fun m hm => hgrows.done m (h m hm)
  | draining cleanup => exact hdrain h
  | clearing m => exact ⟨hgrows.ended m h.1, fun m' hm' => hgrows.ended m' (h.2 m' hm')⟩
  | returning | returned => exact fun m hm => hgrows.ended m (h m hm)

/-- The first wait of a `Close`, at its locked section. -/
theorem Exclusive.awaits (h : s.Exclusive) (cancel : Option Nat) (selected : Option TransportRef) :
    s.Awaits s.selections (.cancelling cancel selected
      (if s.selecting then some s.selectionDone else none) s.cleanupDone) := by
  have hsettled : ∀ m, s.doneClosed m = true → s.Over m ∨ s.cleanupDone = some m := by
    intro m hm
    cases hcleanup : (s.races m).cleanup.settled with
    | true => exact .inl ⟨hm, hcleanup⟩
    | false => exact .inr (h.unsettled m hm hcleanup)
  cases hselecting : s.selecting with
  | true =>
    intro m hm hne
    obtain ⟨_, hnone, _⟩ := h.selecting hselecting
    have hdone : s.doneClosed m = true := by
      by_contra hopen
      exact hne (h.unended m hm (Bool.eq_false_iff.mpr hopen)).2.symm
    refine (hsettled m hdone).resolve_right fun hcleanup => ?_
    cases hnone.symm.trans hcleanup
  | false =>
    refine ⟨fun m hm => ?_, fun m hm => (h.cleanup m hm).2⟩
    have hdone : s.doneClosed m = true := by
      by_contra hopen
      cases hselecting.symm.trans (h.unended m hm (Bool.eq_false_iff.mpr hopen)).1
    exact ⟨hdone, hsettled m hdone⟩

theorem CloseMove.awaits (h : s.Exclusive) {begun : Nat} {phase phase' : ClosePhase}
    (hmove : s.CloseMove phase phase') (hawaits : s.Awaits begun phase) :
    s.Awaits begun phase' := by
  cases hmove with
  | cancel | close | idle | giveBack => exact hawaits
  | @waited m cleanup hdone =>
    intro m' hm'
    by_cases heq : m' = m
    · exact heq ▸ hdone
    · exact (hawaits m' hm' heq).1
  | reread =>
    refine ⟨fun m hm => ⟨hawaits m hm, ?_⟩, fun m hm => (h.cleanup m hm).2⟩
    cases hcleanup : (s.races m).cleanup.settled with
    | true => exact .inl ⟨hawaits m hm, hcleanup⟩
    | false => exact .inr (h.unsettled m (hawaits m hm) hcleanup)
  | @drained m hdone =>
    have hover : s.Over m := ⟨hawaits.2 m rfl, by rw [hdone]; rfl⟩
    refine ⟨hover, fun m' hm' => ?_⟩
    obtain hm' | heq := (hawaits.1 m' hm').2
    · exact hm'
    · cases heq
      exact hover
  | clean => exact fun m hm => (hawaits.1 m hm).2.resolve_right nofun
  | clear => exact hawaits.2

@[simp] theorem closeConn_closes {closer : AutoCloser} {c : AutoConn} :
    (s.closeConn closer c).closes = s.closes := by
  rw [closeConn_eq]

@[simp] theorem closeAutoTransport_closes {closer : AutoCloser} {ref : TransportRef} :
    (s.closeAutoTransport cfg closer ref).closes = s.closes := by
  rw [closeAutoTransport_eq]

@[simp] theorem clearCleanup_closes : (s.clearCleanup m).closes = s.closes := by
  rw [clearCleanup_eq]

@[simp] theorem raceConns_closes {action : RaceAction} :
    (s.raceConns cfg m action).closes = s.closes := by
  rw [raceConns_eq]

@[simp] theorem pinSelection_closes {outcome : AutoOutcome} :
    (s.pinSelection n m outcome).closes = s.closes := by
  cases outcome <;> rfl

/-- How an action moves the calls of `Close` on. -/
theorem Trans.closes (htrans : Trans cfg s s') (k : Nat) :
    s'.closes k = s.closes k ∨
      ((s.closes k).phase = .idle ∧ s'.generation = s.generation + 1 ∧
        s'.selections = s.selections ∧ s'.closes k = ⟨s.generation, s.selections,
          .cancelling s.selectionCancel s.selected
            (if s.selecting then some s.selectionDone else none) s.cleanupDone⟩) ∨
      ∃ phase, s.CloseMove (s.closes k).phase phase ∧ s'.closes k = { s.closes k with phase } := by
  cases htrans with
  | lock k' hphase =>
    by_cases heq : k = k'
    · subst heq
      exact .inr (.inl ⟨hphase, rfl, rfl, update_self ..⟩)
    · exact .inl (update_of_ne heq ..)
  | close k' hmove =>
    by_cases heq : k = k'
    · subst heq
      exact .inr (.inr ⟨_, hmove, update_self ..⟩)
    · exact .inl (update_of_ne heq ..)
  | _ => exact .inl (by simp [goDial, setDial, endSelection, beginSelection])

theorem Waits.trans (h : s.Exclusive) (hwaits : s.Waits) (htrans : Trans cfg s s') : s'.Waits := by
  intro k
  have hgrows := htrans.grows h
  obtain hsame | ⟨_, _, _, hlock⟩ | ⟨phase, hmove, hclose⟩ := htrans.closes k
  · rw [hsame]
    exact (hwaits k).mono hgrows
  · rw [hlock]
    exact (h.awaits _ _).mono hgrows
  · rw [hclose]
    exact (hmove.awaits h (hwaits k)).mono hgrows

end AutoTransport

end Steps

end Rstream.Transport
