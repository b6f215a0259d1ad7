import Rstream.Transport.AutoTransport

/-!
# What an action of the automatic transport can do

Most actions only move one call on. The others begin, pin or end a selection, let a race
go on, close connections, or are the locked sections of `Close`.
-/

namespace Rstream.Transport

open Function

variable {n : Nat}

namespace AutoTransport

/-- A `Dial` at the head of its loop may go on: its generation is the current one. -/
def Current (s : AutoTransport) (d : AutoDial) : Prop :=
  d.phase = .checking ∧ (d.generation = none ∨ d.generation = some s.generation)

/-- How a `Dial` moves on without a change of the transport. -/
inductive DialMove (s : AutoTransport) (d : AutoDial) : AutoDial → Prop
  | outdated (hphase : d.phase = .checking) {generation : Nat} (hgen : d.generation = some generation)
      (hne : s.generation ≠ generation) (err : String) :
      DialMove s d ⟨some generation, .returning (.error err)⟩
  | reuse (hcurrent : s.Current d) {ref : TransportRef} (hselected : s.selected = some ref) :
      DialMove s d ⟨some s.generation, .dialing ref⟩
  | wait (hcurrent : s.Current d) (hselecting : s.selecting = true) :
      DialMove s d ⟨some s.generation, .waiting s.selectionDone⟩
  | drain (hcurrent : s.Current d) {m : Nat} (hcleanup : s.cleanupDone = some m) :
      DialMove s d ⟨some s.generation, .draining m⟩
  | fail (hphase : (∃ m, d.phase = .waiting m) ∨ (∃ m, d.phase = .draining m) ∨
      ∃ ref, d.phase = .dialing ref) (err : String) :
      DialMove s d ⟨d.generation, .returning (.error err)⟩
  | retry {m : Nat} (hphase : d.phase = .waiting m) : DialMove s d ⟨d.generation, .checking⟩
  | drained {m : Nat} (hphase : d.phase = .draining m) (hdone : (s.races m).cleanup = .finished) :
      DialMove s d ⟨d.generation, .clearing m⟩
  | discard {m : Nat} (hphase : d.phase = .selecting m) (houtcome : (s.races m).outcome ≠ none)
      (hstale : s.generation ≠ (s.races m).generation) : DialMove s d ⟨d.generation, .discarding m⟩
  | nothingToDiscard {m : Nat} (hphase : d.phase = .discarding m)
      (hwinner : (s.races m).winner = none) : DialMove s d ⟨d.generation, .closing m⟩
  | nothingToClose {m : Nat} (hphase : d.phase = .closing m) (hwinner : (s.races m).winner = none) :
      DialMove s d ⟨d.generation, .joining m⟩
  | join {m : Nat} (hphase : d.phase = .joining m) (hsettled : (s.races m).cleanup.settled = true) :
      DialMove s d ⟨d.generation, .ending m⟩
  | giveBack {result : Except String AutoConn} (hphase : d.phase = .returning result) :
      DialMove s d ⟨d.generation, .returned result⟩

/-- How a `Close` moves on, apart from what it does to the transport. -/
inductive CloseMove (s : AutoTransport) : ClosePhase → ClosePhase → Prop
  | cancel {cancel : Option Nat} {selected : Option TransportRef} {selection cleanup : Option Nat} :
      CloseMove s (.cancelling cancel selected selection cleanup)
        (.closing selected selection cleanup)
  | close {selected : Option TransportRef} {selection cleanup : Option Nat} :
      CloseMove s (.closing selected selection cleanup) (.waiting selection cleanup)
  | waited {m : Nat} {cleanup : Option Nat} (hdone : s.doneClosed m = true) :
      CloseMove s (.waiting (some m) cleanup) .rereading
  | idle {cleanup : Option Nat} : CloseMove s (.waiting none cleanup) (.draining cleanup)
  | reread : CloseMove s .rereading (.draining s.cleanupDone)
  | drained {m : Nat} (hdone : (s.races m).cleanup = .finished) :
      CloseMove s (.draining (some m)) (.clearing m)
  | clean : CloseMove s (.draining none) .returning
  | clear {m : Nat} : CloseMove s (.clearing m) .returning
  | giveBack : CloseMove s .returning .returned

/-- What an action does. -/
inductive Trans (cfg : AutoConfig) (s : AutoTransport) : AutoTransport → Prop
  | dial (n : Nat) {d : AutoDial} (hmove : s.DialMove (s.dials n) d) : Trans cfg s (s.setDial n d)
  | begin (n : Nat) (hcurrent : s.Current (s.dials n)) (hselected : s.selected = none)
      (hselecting : s.selecting = false) (hcleanup : s.cleanupDone = none) :
      Trans cfg s ((s.setDial n ⟨some s.generation, .checking⟩).beginSelection n)
  | clear (n : Nat) {m : Nat} (hphase : (s.dials n).phase = .clearing m) :
      Trans cfg s ((s.clearCleanup m).goDial n .checking)
  | pinned (n : Nat) {ref : TransportRef} (hphase : (s.dials n).phase = .dialing ref) :
      Trans cfg s ({ s with conns := update s.conns (.dialed n ref) .usable }.goDial n
        (.returning (.ok (.dialed n ref))))
  | race (m : Nat) (hm : m < s.selections) {action : RaceAction} {r : AutoRace}
      (hact : (s.races m).act action = some r) :
      Trans cfg s { s.raceConns cfg m action with races := update s.races m r }
  | select (n : Nat) {m : Nat} (hphase : (s.dials n).phase = .selecting m) {outcome : AutoOutcome}
      (houtcome : (s.races m).outcome = some outcome)
      (hcurrent : s.generation = (s.races m).generation) {cleanupDone : Option Nat}
      (hcleanup : cleanupDone = if (s.races m).cleanup = .absent then s.cleanupDone else some m) :
      Trans cfg s ({ s.pinSelection n m outcome with cleanupDone }.endSelection m)
  | discard (n : Nat) {m : Nat} (hphase : (s.dials n).phase = .discarding m)
      {mode : TunnelTransportMode} (hwinner : (s.races m).winner = some mode) :
      Trans cfg s ((s.closeConn (.dial n) (.attempt ⟨m, mode⟩)).goDial n (.closing m))
  | abandon (n : Nat) {m : Nat} (hphase : (s.dials n).phase = .closing m)
      {mode : TunnelTransportMode} (hwinner : (s.races m).winner = some mode) :
      Trans cfg s ((s.closeAutoTransport cfg (.dial n) ⟨m, mode⟩).goDial n (.joining m))
  | finish (n : Nat) {m : Nat} (hphase : (s.dials n).phase = .ending m) :
      Trans cfg s ((s.endSelection m).goDial n (.returning (.error errClosed)))
  | lock (k : Nat) (hphase : (s.closes k).phase = .idle) :
      Trans cfg s { s with
        generation := s.generation + 1
        selected := none
        closes := update s.closes k ⟨s.generation, s.selections,
          .cancelling s.selectionCancel s.selected
            (if s.selecting then some s.selectionDone else none) s.cleanupDone⟩ }
  | close (k : Nat) {phase : ClosePhase} (hmove : s.CloseMove (s.closes k).phase phase)
      {conns : AutoConn → ConnState} {cancelled : Nat → Bool} {cleanupDone : Option Nat}
      (hconns : conns = s.conns ∨ ∃ ref, conns = (s.closeAutoTransport cfg (.close k) ref).conns)
      (hcleanup : cleanupDone = s.cleanupDone ∨ ∃ m, (s.closes k).phase = .clearing m ∧
        s.cleanupDone = some m ∧ cleanupDone = none) :
      Trans cfg s ({ s with conns, cancelled, cleanupDone }.goClose k phase)

section Inversion

variable {cfg : AutoConfig} {s s' : AutoTransport}

theorem goDial_setDial (s : AutoTransport) (n : Nat) (d : AutoDial) (phase : DialPhase) :
    (s.setDial n d).goDial n phase = s.setDial n ⟨d.generation, phase⟩ := by
  simp [goDial, setDial, update_idem]

theorem setDial_self {d : AutoDial} (h : s.dials n = d) : s.setDial n d = s := by
  simp [setDial, ← h]

theorem dialState_trans (hcurrent : s.Current (s.dials n)) :
    Trans cfg s ((s.setDial n ⟨some s.generation, .checking⟩).dialState n) := by
  unfold dialState
  simp only [goDial_setDial]
  split
  · next ref hselected => exact .dial n (.reuse hcurrent hselected)
  · next hselected =>
    split
    · next hselecting => exact .dial n (.wait hcurrent hselecting)
    · next hselecting =>
      split
      · next m hcleanup => exact .dial n (.drain hcurrent hcleanup)
      · next hcleanup =>
        exact .begin n hcurrent hselected (eq_false_of_ne_true hselecting) hcleanup

theorem dialCheck_trans (h : s.dialCheck n = some s') : Trans cfg s s' := by
  unfold dialCheck at h
  split at h
  · next hdial =>
    cases h
    exact dialState_trans ⟨by rw [hdial], .inl (by rw [hdial])⟩
  · next generation hdial =>
    split_ifs at h with hne
    · cases h
      refine .dial n ?_
      rw [hdial]
      exact .outdated rfl rfl hne errClosed
    · cases h
      rw [ne_eq, Decidable.not_not] at hne
      subst hne
      have hcurrent : s.Current (s.dials n) := ⟨by rw [hdial], .inr (by rw [hdial])⟩
      have hstate : Trans cfg s _ := dialState_trans hcurrent
      rwa [setDial_self hdial] at hstate
  · cases h

theorem dialWait_trans {ctxErr : Option String} (h : s.dialWait n ctxErr = some s') :
    Trans cfg s s' := by
  unfold dialWait at h
  split at h
  · next m err hphase =>
    cases h
    exact .dial n (.fail (.inl ⟨m, hphase⟩) _)
  · next m err hphase =>
    cases h
    exact .dial n (.fail (.inr (.inl ⟨m, hphase⟩)) _)
  · next m hphase =>
    split_ifs at h
    cases h
    exact .dial n (.retry hphase)
  · next m hphase =>
    split_ifs at h with hdone
    cases h
    exact .dial n (.drained hphase hdone)
  · cases h

theorem dialPinned_trans {result : DialResult} (h : s.dialPinned n result = some s') :
    Trans cfg s s' := by
  unfold dialPinned at h
  split at h
  · next ref hphase =>
    cases result with
    | ok _ =>
      cases h
      exact .pinned n hphase
    | error err =>
      cases h
      exact .dial n (.fail (.inr (.inr ⟨ref, hphase⟩)) err)
  · cases h

theorem race_trans {m : Nat} {action : RaceAction} (h : s.race cfg m action = some s') :
    Trans cfg s s' := by
  unfold race at h
  split_ifs at h with hm
  split at h
  · next r hact =>
    cases h
    exact .race m hm hact
  · cases h

theorem pinSelection_frame (s : AutoTransport) (n m : Nat) (outcome : AutoOutcome) :
    (s.pinSelection n m outcome).races = s.races ∧
      (s.pinSelection n m outcome).cleanupDone = s.cleanupDone := by
  cases outcome <;> exact ⟨rfl, rfl⟩

theorem dialSelected_trans (h : s.dialSelected n = some s') : Trans cfg s s' := by
  unfold dialSelected at h
  split at h
  · next m hphase =>
    split at h
    · cases h
    · next outcome houtcome =>
      split_ifs at h with hstale
      · cases h
        exact .dial n (.discard hphase (by rw [houtcome]; nofun) hstale)
      · cases h
        rw [ne_eq, Decidable.not_not] at hstale
        obtain ⟨hraces, hcleanup⟩ := pinSelection_frame s n m outcome
        have hselect : Trans cfg s _ := .select n hphase houtcome hstale rfl
        by_cases habsent : (s.races m).cleanup = .absent
        · rw [if_pos (by rw [hraces]; exact habsent)]
          rwa [if_pos habsent, ← hcleanup] at hselect
        · rw [if_neg (by rw [hraces]; exact habsent)]
          rwa [if_neg habsent] at hselect
  · cases h

theorem dialStale_trans (h : s.dialStale cfg n = some s') : Trans cfg s s' := by
  unfold dialStale at h
  split at h
  · next m hphase =>
    split at h <;> cases h
    · next mode hwinner => exact .discard n hphase hwinner
    · next hwinner => exact .dial n (.nothingToDiscard hphase hwinner)
  · next m hphase =>
    split at h <;> cases h
    · next mode hwinner => exact .abandon n hphase hwinner
    · next hwinner => exact .dial n (.nothingToClose hphase hwinner)
  · next m hphase =>
    split_ifs at h with hsettled
    cases h
    exact .dial n (.join hphase hsettled)
  · next m hphase =>
    cases h
    exact .finish n hphase
  · cases h

theorem closeAutoTransport_eq (s : AutoTransport) (closer : AutoCloser) (ref : TransportRef) :
    s.closeAutoTransport cfg closer ref =
      { s with conns := (s.closeAutoTransport cfg closer ref).conns } := by
  unfold closeAutoTransport
  split_ifs <;> rfl

theorem closeConn_eq (s : AutoTransport) (closer : AutoCloser) (c : AutoConn) :
    s.closeConn closer c = { s with conns := (s.closeConn closer c).conns } := by
  unfold closeConn
  split_ifs <;> rfl

theorem clearCleanup_eq (s : AutoTransport) (m : Nat) :
    s.clearCleanup m = { s with cleanupDone := (s.clearCleanup m).cleanupDone } := by
  unfold clearCleanup
  split_ifs <;> rfl

theorem raceConns_eq (s : AutoTransport) (m : Nat) (action : RaceAction) :
    s.raceConns cfg m action = { s with conns := (s.raceConns cfg m action).conns } := by
  unfold raceConns
  split
  · rfl
  · split
    · exact closeConn_eq ..
    · rfl
  · split
    · split_ifs
      · exact closeAutoTransport_eq ..
      · rfl
    · rfl
  · rfl

theorem closeStep_trans {k : Nat} (h : s.closeStep cfg k = some s') : Trans cfg s s' := by
  have hquiet : ∀ {phase}, s.CloseMove (s.closes k).phase phase → Trans cfg s (s.goClose k phase) :=
    fun hmove => .close k hmove (.inl rfl) (.inl rfl)
  unfold closeStep at h
  split at h
  · next cancel selected selection cleanup hphase =>
    cases h
    exact .close k (hphase ▸ .cancel) (.inl rfl) (.inl rfl)
  · next selected selection cleanup hphase =>
    cases selected with
    | some ref =>
      cases h
      rw [closeAutoTransport_eq]
      exact .close k (hphase ▸ .close) (.inr ⟨ref, rfl⟩) (.inl rfl)
    | none =>
      cases h
      exact hquiet (hphase ▸ .close)
  · next selection cleanup hphase =>
    cases selection with
    | some m =>
      simp only at h
      split_ifs at h with hdone
      cases h
      exact hquiet (hphase ▸ .waited hdone)
    | none =>
      cases h
      exact hquiet (hphase ▸ .idle)
  · next hphase =>
    cases h
    exact hquiet (hphase ▸ .reread)
  · next cleanup hphase =>
    cases cleanup with
    | some m =>
      simp only at h
      split_ifs at h with hdone
      cases h
      exact hquiet (hphase ▸ .drained hdone)
    | none =>
      cases h
      exact hquiet (hphase ▸ .clean)
  · next m hphase =>
    cases h
    unfold clearCleanup
    split_ifs with hcleanup
    · exact .close k (hphase ▸ .clear) (.inl rfl) (.inr ⟨m, hphase, hcleanup, rfl⟩)
    · exact hquiet (hphase ▸ .clear)
  · next hphase =>
    cases h
    exact hquiet (hphase ▸ .giveBack)
  · cases h

/-- Every action is one of these. -/
theorem step_trans {event : AutoEvent} (h : s.step cfg event = some s') : Trans cfg s s' := by
  cases event with
  | dialCheck n => exact dialCheck_trans h
  | dialWait n ctxErr => exact dialWait_trans h
  | dialClear n =>
    simp only [step, dialClear] at h
    split at h
    · next m hphase =>
      cases h
      exact .clear n hphase
    · cases h
  | dialPinned n result => exact dialPinned_trans h
  | race m action => exact race_trans h
  | dialSelected n => exact dialSelected_trans h
  | dialStale n => exact dialStale_trans h
  | dialReturn n =>
    simp only [step, dialReturn] at h
    split at h
    · next result hphase =>
      cases h
      exact .dial n (.giveBack hphase)
    · cases h
  | closeLocked k =>
    simp only [step, closeLocked] at h
    split at h
    · next hphase =>
      cases h
      exact .lock k hphase
    · cases h
  | closeStep k => exact closeStep_trans h

end Inversion

end AutoTransport

end Rstream.Transport
