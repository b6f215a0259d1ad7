import Rstream.Transport.AutoConnections

/-!
# `Close` as a barrier

A `Dial` that `Close` overtakes before it has a transport returns `net.ErrClosed`. One that
already holds a transport does not look at the generation again: it can still dial, and
return, after `Close` has returned.
-/

namespace Rstream.Transport

open Function

variable {event : AutoEvent}

namespace AutoTransport

section Barrier

/-- The first locked check of the `Dial` came before the locked section of the `Close`. -/
def Covers (s : AutoTransport) (k n : Nat) : Prop :=
  ∃ g, (s.dials n).generation = some g ∧ g ≤ (s.closes k).generation

/-- The `Dial` is between the locked section that gave it a transport and its return, and can
return a usable connection. -/
def Holds (s : AutoTransport) (n : Nat) : Prop :=
  (∃ ref, (s.dials n).phase = .dialing ref) ∨
    ∃ c, (s.dials n).phase = .returning (.ok c) ∧ s.conns c = .usable

/-- No `Dial` returns a usable connection after the return of a `Close` that came later. -/
def Barrier (s : AutoTransport) : Prop :=
  ∀ k n c, (s.closes k).phase = .returned → s.Covers k n → (s.dials n).phase = .returning (.ok c) →
    s.conns c ≠ .usable

/-- When a `Close` returns, no `Dial` that it covers holds a transport. -/
def Clear (s : AutoTransport) : AutoEvent → Prop
  | .closeStep k => (s.closes k).phase = .returning → ∀ n, s.Covers k n → ¬ s.Holds n
  | _ => True

/-- Every return of a `Close` in the run is such. -/
def ClearRun (cfg : AutoConfig) (s : AutoTransport) : List AutoEvent → Prop
  | [] => True
  | event :: events => s.Clear event ∧ ∀ s', s.step cfg event = some s' → s'.ClearRun cfg events

/-- The `Dial` has no transport and runs no selection. -/
def Idle (s : AutoTransport) (n : Nat) : Prop :=
  ¬ s.Holds n ∧ (s.dials n).phase.running = none

/-- Once a `Close` has returned, the calls that it covers have no transport. -/
structure Barred (s : AutoTransport) : Prop where
  locked : ∀ k, (s.closes k).phase ≠ .idle → (s.closes k).generation < s.generation ∧
    ∀ m < s.selections, (s.closes k).begun ≤ m → (s.closes k).generation < (s.races m).generation
  own : ∀ n n' ref, (s.dials n).phase = .returning (.ok (.dialed n' ref)) → n' = n
  barred : ∀ k n, (s.closes k).phase = .returned → s.Covers k n → s.Idle n

end Barrier

section Steps

variable {cfg : AutoConfig} {s s' : AutoTransport} {n m k : Nat}

theorem Barred.barrier (h : s.Barred) : s.Barrier :=
  fun k n c hk hcovers hphase husable => (h.barred k n hk hcovers).1 (.inr ⟨c, hphase, husable⟩)

@[simp] theorem dialState_closes : (s.dialState n).closes = s.closes := by
  unfold dialState
  split
  · rfl
  · split_ifs
    · rfl
    · split <;> rfl

/-- Only its own steps move a `Close` on. -/
theorem step_closes (h : s.step cfg event = some s')
    (hevent : event ≠ .closeStep k) (hlocked : (s.closes k).phase ≠ .idle) :
    s'.closes k = s.closes k := by
  cases event <;> simp only [step, dialCheck, dialWait, dialClear, dialPinned, race, dialSelected,
    dialStale, dialReturn, closeLocked, closeStep] at h
  all_goals
    repeat' split at h
    all_goals cases h
  all_goals simp only [goDial, setDial, goClose, endSelection, update_apply, dialState_closes,
    clearCleanup_closes, closeConn_closes, closeAutoTransport_closes, raceConns_closes,
    pinSelection_closes]
  all_goals grind

theorem Idle.of_same (h : s.Idle n) (hdial : s'.dials n = s.dials n)
    (hconns : ∀ c, (s.dials n).phase = .returning (.ok c) → s'.conns c = .usable →
      s.conns c = .usable) : s'.Idle n := by
  refine ⟨fun hholds => ?_, by rw [hdial]; exact h.2⟩
  unfold Holds at hholds
  rw [hdial] at hholds
  obtain ⟨ref, hphase⟩ | ⟨c, hphase, husable⟩ := hholds
  · exact h.1 (.inl ⟨ref, hphase⟩)
  · exact h.1 (.inr ⟨c, hphase, hconns c hphase husable⟩)

/-- What an action does to a `Dial`. -/
inductive DialTrans (s : AutoTransport) (n : Nat) (d : AutoDial) : AutoDial → Prop
  | keep : DialTrans s n d d
  | move {d' : AutoDial} (hmove : s.DialMove d d') : DialTrans s n d d'
  | begin (hcurrent : s.Current d) : DialTrans s n d ⟨some s.generation, .selecting s.selections⟩
  | clear : DialTrans s n d ⟨d.generation, .checking⟩
  | pinned {ref : TransportRef} (hphase : d.phase = .dialing ref) :
      DialTrans s n d ⟨d.generation, .returning (.ok (.dialed n ref))⟩
  | run {m : Nat} (hphase : d.phase.running = some m) {phase : DialPhase}
      (hnew : ∀ n ref, phase ≠ .returning (.ok (.dialed n ref))) :
      DialTrans s n d ⟨d.generation, phase⟩

theorem Trans.dials (htrans : Trans cfg s s') (n : Nat) :
    s.DialTrans n (s.dials n) (s'.dials n) := by
  have hset : ∀ {n' d}, s.DialTrans n' (s.dials n') d →
      s.DialTrans n (s.dials n) (update s.dials n' d n) := by
    intro n' d hd
    rw [update_apply]
    split_ifs with heq
    · exact heq ▸ hd
    · exact .keep
  cases htrans with
  | dial n' hmove => exact hset (.move hmove)
  | begin n' hcurrent =>
    rw [beginSelection_eq]
    exact hset (.begin hcurrent)
  | clear n' =>
    rw [clearCleanup_eq]
    exact hset .clear
  | pinned n' hphase => exact hset (.pinned hphase)
  | race =>
    rw [raceConns_eq]
    exact .keep
  | @select n' m hphase outcome =>
    cases outcome <;> exact hset (.run (congrArg _ hphase) nofun)
  | discard n' hphase =>
    rw [closeConn_eq]
    exact hset (.run (congrArg _ hphase) nofun)
  | abandon n' hphase =>
    rw [closeAutoTransport_eq]
    exact hset (.run (congrArg _ hphase) nofun)
  | finish n' hphase => exact hset (.run (congrArg _ hphase) nofun)
  | lock | close => exact .keep

/-- A phase without a transport. -/
theorem idle_of_phase {phase : DialPhase} (h : (s.dials n).phase = phase)
    (hdialing : ∀ ref, phase ≠ .dialing ref) (hreturning : ∀ c, phase ≠ .returning (.ok c))
    (hrunning : phase.running = none) : s.Idle n := by
  subst h
  refine ⟨?_, hrunning⟩
  rintro (⟨ref, hphase⟩ | ⟨c, hphase, _⟩)
  · exact hdialing ref hphase
  · exact hreturning c hphase

/-- A race establishes no connection that a `Dial` is about to return. -/
theorem Pinned.race_usable (hpinned : s.Pinned) (hexclusive : s.Exclusive) (hm : m < s.selections)
    {action : RaceAction} {r : AutoRace} (hact : (s.races m).act action = some r) {c : AutoConn}
    (hphase : (s.dials n).phase = .returning (.ok c))
    (husable : (s.raceConns cfg m action).conns c = .usable) : s.conns c = .usable := by
  unfold raceConns at husable
  split at husable
  · next mode _ =>
    have hrunning : (s.races m).attempts mode = .running := AutoRace.running_of_dial hact
    have hne : c ≠ .attempt ⟨m, mode⟩ := by
      rintro rfl
      obtain ⟨g, _, hpin⟩ := hpinned.uses n ⟨m, mode⟩ (by rw [hphase]; rfl)
      have hwon := ((hexclusive.books m hm).won mode).mp (hpinned.won g _ hpin).2
      cases hrunning.symm.trans hwon
    simpa only [update_of_ne hne] using husable
  · split at husable
    · exact (closeConn_lowers ..).usable husable
    · exact husable
  · split at husable
    · split_ifs at husable
      · exact (closeAutoTransport_lowers ..).usable husable
      · exact husable
    · exact husable
  · exact husable

/-- No action makes a connection usable that a `Dial` is about to return. -/
theorem Trans.conns_usable (htrans : Trans cfg s s') (hexclusive : s.Exclusive) (hpinned : s.Pinned)
    (hown : ∀ n n' ref, (s.dials n).phase = .returning (.ok (.dialed n' ref)) → n' = n)
    {c : AutoConn} (hphase : (s.dials n).phase = .returning (.ok c))
    (husable : s'.conns c = .usable) : s.conns c = .usable := by
  cases htrans with
  | dial | begin | finish | lock => exact husable
  | clear =>
    rw [clearCleanup_eq] at husable
    exact husable
  | @pinned n' ref hdialing =>
    have hne : c ≠ .dialed n' ref := by
      rintro rfl
      cases hown n n' ref hphase
      cases hdialing.symm.trans hphase
    simpa only [goDial, setDial, update_of_ne hne] using husable
  | race m hm hact => exact hpinned.race_usable hexclusive hm hact hphase husable
  | @select n' m _ outcome => cases outcome <;> exact husable
  | discard => exact (closeConn_lowers ..).usable husable
  | abandon => exact (closeAutoTransport_lowers ..).usable husable
  | close k hmove hconns =>
    obtain rfl | ⟨ref, rfl⟩ := hconns
    · exact husable
    · exact (closeAutoTransport_lowers ..).usable husable

/-- An outdated `Dial` gets no transport. -/
theorem Idle.trans (h : s.Idle n) (hexclusive : s.Exclusive) (hpinned : s.Pinned)
    (hown : ∀ n n' ref, (s.dials n).phase = .returning (.ok (.dialed n' ref)) → n' = n)
    (htrans : Trans cfg s s') {g : Nat} (hgen : (s.dials n).generation = some g)
    (hlt : g < s.generation) : s'.Idle n := by
  have hcurrent : ¬ s.Current (s.dials n) := by
    rintro ⟨_, hnone | hsome⟩
    · cases hgen.symm.trans hnone
    · cases hgen.symm.trans hsome
      exact Nat.lt_irrefl _ hlt
  have hrunning : ∀ {m phase}, (s.dials n).phase = phase → phase.running ≠ some m := by
    rintro m _ rfl hsome
    cases h.2.symm.trans hsome
  have hdial := htrans.dials n
  generalize hd : s'.dials n = d at hdial
  have hphase := congrArg AutoDial.phase hd
  cases hdial with
  | keep => exact h.of_same hd fun c => htrans.conns_usable hexclusive hpinned hown
  | begin hcurrent' => exact absurd hcurrent' hcurrent
  | clear => exact idle_of_phase hphase nofun nofun rfl
  | pinned hdialing => exact absurd (.inl ⟨_, hdialing⟩) h.1
  | run hrun => exact absurd hrun (hrunning rfl)
  | move hmove =>
    cases hmove with
    | outdated | fail | retry | drained | giveBack => exact idle_of_phase hphase nofun nofun rfl
    | reuse hcurrent' | wait hcurrent' | drain hcurrent' => exact absurd hcurrent' hcurrent
    | discard hrun | nothingToDiscard hrun | nothingToClose hrun | join hrun =>
      exact absurd rfl (hrunning hrun)

/-- A `Dial` on the pinned transport returns its own connection. -/
theorem Barred.own_trans (h : s.Barred) (htrans : Trans cfg s s') (n n' : Nat) (ref : TransportRef)
    (hphase : (s'.dials n).phase = .returning (.ok (.dialed n' ref))) : n' = n := by
  have hdial := htrans.dials n
  generalize s'.dials n = d at hdial hphase
  cases hdial with
  | keep => exact h.own n n' ref hphase
  | move hmove => cases hmove <;> cases hphase
  | begin | clear => cases hphase
  | pinned =>
    cases hphase
    rfl
  | run _ hnew => exact absurd hphase (hnew n' ref)

/-- When a `Close` is about to return, no `Dial` that it covers runs a selection. -/
theorem Barred.returning (h : s.Barred) (hexclusive : s.Exclusive) (hwaits : s.Waits)
    (hphase : (s.closes k).phase = .returning) (hcovers : s.Covers k n) :
    (s.dials n).phase.running = none := by
  refine Option.eq_none_iff_forall_ne_some.mpr fun m hrunning => ?_
  obtain ⟨g, hgen, hle⟩ := hcovers
  obtain ⟨hselecting, hdone, _, hrace⟩ := hexclusive.running n m hrunning
  obtain ⟨hlast, _, _, hopen⟩ := hexclusive.selecting hselecting
  rw [hdone] at hlast hopen
  rw [hgen, Option.some.injEq] at hrace
  have hbegun : m < (s.closes k).begun := by
    by_contra hnot
    have hlater := (h.locked k (by rw [hphase]; nofun)).2 m (by omega) (Nat.le_of_not_lt hnot)
    omega
  have hover := hwaits k
  rw [hphase] at hover
  cases hopen.symm.trans (hover m hbegun).1

/-- A selection that an action begins has the current generation. -/
theorem Trans.begun (htrans : Trans cfg s s') (hm : m < s'.selections) (hnew : ¬ m < s.selections) :
    (s'.races m).generation = s.generation := by
  cases htrans with
  | begin n =>
    have heq : m = s.selections := Nat.le_antisymm (Nat.le_of_lt_succ hm) (Nat.le_of_not_lt hnew)
    rw [beginSelection_eq]
    simp [setDial, heq, AutoRace.begin]
  | clear n =>
    unfold clearCleanup at hm
    split_ifs at hm <;> exact absurd hm hnew
  | race =>
    rw [raceConns_eq] at hm
    exact absurd hm hnew
  | @select n m' _ outcome =>
    obtain ⟨selected, pins, result, hpin⟩ := pinSelection_eq s n m' outcome
    rw [hpin] at hm
    exact absurd hm hnew
  | discard =>
    rw [closeConn_eq] at hm
    exact absurd hm hnew
  | abandon =>
    rw [closeAutoTransport_eq] at hm
    exact absurd hm hnew
  | dial | pinned | finish | lock | close => exact absurd hm hnew

/-- A `Dial` keeps its generation, or takes the current one. -/
theorem Trans.generation_dials (htrans : Trans cfg s s') (n : Nat) :
    (s'.dials n).generation = (s.dials n).generation ∨
      (s'.dials n).generation = some s.generation := by
  have hdial := htrans.dials n
  generalize s'.dials n = d at hdial
  cases hdial with
  | keep | clear | pinned | run => exact .inl rfl
  | begin => exact .inr rfl
  | move hmove =>
    cases hmove with
    | outdated _ hgen => exact .inl hgen.symm
    | reuse | wait | drain => exact .inr rfl
    | _ => exact .inl rfl

theorem Barred.locked_trans (h : s.Barred) (hexclusive : s.Exclusive) (htrans : Trans cfg s s')
    (hlocked : (s'.closes k).phase ≠ .idle) : (s'.closes k).generation < s'.generation ∧
      ∀ m < s'.selections, (s'.closes k).begun ≤ m →
        (s'.closes k).generation < (s'.races m).generation := by
  have hgrows := htrans.grows hexclusive
  have hkeep : (s.closes k).phase ≠ .idle → (s'.closes k).generation = (s.closes k).generation →
      (s'.closes k).begun = (s.closes k).begun → (s'.closes k).generation < s'.generation ∧
      ∀ m < s'.selections, (s'.closes k).begun ≤ m →
        (s'.closes k).generation < (s'.races m).generation := by
    intro hbefore hgeneration hbegun
    obtain ⟨hlt, hlater⟩ := h.locked k hbefore
    rw [hgeneration, hbegun]
    refine ⟨Nat.lt_of_lt_of_le hlt hgrows.generation, fun m hm hle => ?_⟩
    by_cases hold : m < s.selections
    · rw [(hgrows.races m hold).1]
      exact hlater m hold hle
    · rw [htrans.begun hm hold]
      exact hlt
  obtain hsame | ⟨_, hnext, hselections, hlock⟩ | ⟨_, hmove, hclose⟩ := htrans.closes k
  · exact hkeep (by rw [← hsame]; exact hlocked) (by rw [hsame]) (by rw [hsame])
  · simp only [hlock]
    exact ⟨by omega, fun m hm hle => by omega⟩
  · exact hkeep (by intro hidle; rw [hidle] at hmove; cases hmove) (by rw [hclose]) (by rw [hclose])

theorem Barred.trans (h : s.Barred) (hexclusive : s.Exclusive) (hwaits : s.Waits)
    (hpinned : s.Pinned) (htrans : Trans cfg s s')
    (hclear : ∀ k, (s.closes k).phase = .returning → (s'.closes k).phase = .returned →
      ∀ n, s.Covers k n → ¬ s.Holds n) : s'.Barred := by
  refine ⟨fun k => h.locked_trans hexclusive htrans, h.own_trans htrans, fun k n hk hcovers => ?_⟩
  have hbefore : (s'.closes k).generation = (s.closes k).generation ∧
      ((s.closes k).phase = .returned ∨ (s.closes k).phase = .returning) := by
    obtain hsame | ⟨_, _, _, hlock⟩ | ⟨phase', hmove, hclose⟩ := htrans.closes k
    · exact ⟨by rw [hsame], .inl (by rw [← hsame]; exact hk)⟩
    · rw [hlock] at hk
      cases hk
    · rw [hclose] at hk ⊢
      cases hk
      generalize (s.closes k).phase = phase at hmove
      cases hmove
      exact ⟨rfl, .inr rfl⟩
  have hlt : (s.closes k).generation < s.generation :=
    (h.locked k (by obtain hphase | hphase := hbefore.2 <;> rw [hphase] <;> nofun)).1
  -- What the `Close` covered before the action had no transport.
  have hidle : s.Covers k n → s.Idle n := by
    intro hcovered
    obtain hphase | hphase := hbefore.2
    · exact h.barred k n hphase hcovered
    · exact ⟨hclear k hphase hk n hcovered, h.returning hexclusive hwaits hphase hcovered⟩
  obtain ⟨g, hgen, hle⟩ := hcovers
  rw [hbefore.1] at hle
  have hold : (s.dials n).generation = some g := by
    obtain hsame | hcurrent := htrans.generation_dials n
    · exact hsame.symm.trans hgen
    · cases hgen.symm.trans hcurrent
      omega
  exact (hidle ⟨g, hold, hle⟩).trans hexclusive hpinned h.own htrans hold (by omega)

end Steps

section Runs

variable {cfg : AutoConfig} {s s' : AutoTransport}

theorem barred_new : new.Barred where
  locked _ hphase := absurd rfl hphase
  own := nofun
  barred := nofun

theorem Barred.step (h : s.Barred) (hinv : s.Invariant) (hclear : s.Clear event)
    (hstep : s.step cfg event = some s') : s'.Barred := by
  refine h.trans hinv.exclusive hinv.waits hinv.pinned (step_trans hstep) fun k hbefore hafter => ?_
  by_cases hevent : event = .closeStep k
  · subst hevent
    exact hclear hbefore
  · rw [step_closes hstep hevent (by rw [hbefore]; nofun), hbefore] at hafter
    cases hafter

theorem Barred.run (h : s.Barred) (hinv : s.Invariant) {events : List AutoEvent}
    (hclear : s.ClearRun cfg events) (hrun : s.run cfg events = some s') : s'.Barred := by
  induction events generalizing s with
  | nil =>
    cases hrun
    exact h
  | cons event events ih =>
    unfold AutoTransport.run at hrun
    split at hrun
    · next s₁ hstep =>
      exact ih (h.step hinv hclear.1 hstep) (hinv.step hstep) (hclear.2 s₁ hstep) hrun
    · cases hrun

theorem ClearRun.cons {events : List AutoEvent} (hclear : s.Clear event)
    (hstep : s.step cfg event = some s') (hrest : s'.ClearRun cfg events) :
    s.ClearRun cfg (event :: events) := by
  refine ⟨hclear, fun s₁ hstep₁ => ?_⟩
  cases hstep.symm.trans hstep₁
  exact hrest

/-- `Close` is a barrier in every run in which no `Dial` that it covers holds a transport when it
returns. -/
theorem run_barrier {events : List AutoEvent} (hclear : new.ClearRun cfg events)
    (hrun : new.run cfg events = some s) : s.Barrier :=
  (barred_new.run invariant_new hclear hrun).barrier

end Runs

end AutoTransport

namespace AutoSample

/-- `Close` overtakes a `Dial` that pinned QUIC and has not returned its connection, which the
transport closes. -/
def overtaken : List AutoEvent := [
  .dialCheck 0, .race 0 (.dial .quic (.ok ())), .race 0 (.send .quic), .race 0 .receive,
  .dialSelected 0, .closeLocked 0, .closeStep 0, .closeStep 0, .closeStep 0, .closeStep 0,
  .closeStep 0]

theorem overtaken_clear : AutoTransport.new.ClearRun cfg overtaken := by
  refine .cons trivial rfl (.cons trivial rfl (.cons trivial rfl (.cons trivial rfl
    (.cons trivial rfl (.cons trivial rfl (.cons nofun rfl (.cons nofun rfl (.cons nofun rfl
    (.cons nofun rfl (.cons (fun _ n hcovers hholds => ?_) rfl trivial))))))))))
  obtain ⟨g, hgen, _⟩ := hcovers
  cases n with
  | zero =>
    obtain ⟨ref, hphase⟩ | ⟨c, hphase, husable⟩ := hholds
    · cases hphase
    · cases hphase
      cases husable
  | succ n => cases hgen

theorem run_barrier_sample : ∃ s, AutoTransport.new.ClearRun cfg overtaken ∧
    AutoTransport.new.run cfg overtaken = some s ∧ (s.closes 0).phase = .returned ∧
    (s.dials 0).phase = .returning (.ok (.attempt ⟨0, .quic⟩)) ∧ s.Barrier :=
  have hrun : AutoTransport.new.run cfg overtaken = some _ := rfl
  ⟨_, overtaken_clear, hrun, rfl, rfl, AutoTransport.run_barrier overtaken_clear hrun⟩

/-- A `Dial` that saw the pinned transport before `Close` dials it and returns a usable connection
after `Close` has returned. -/
theorem dial_after_close : ∃ events s s', AutoTransport.new.run cfg events = some s ∧
    (s.closes 0).phase = .returned ∧ s.Covers 0 1 ∧ s.step cfg (.dialReturn 1) = some s' ∧
    (s'.dials 1).phase = .returned (.ok (.dialed 1 ⟨0, .tls⟩)) ∧
    s'.conns (.dialed 1 ⟨0, .tls⟩) = .usable :=
  ⟨[.dialCheck 0, .race 0 (.dial .quic (.error "refused")), .race 0 (.send .quic), .race 0 .receive,
    .race 0 (.dial .tls (.ok ())), .race 0 (.send .tls), .race 0 .receive, .dialSelected 0,
    .dialReturn 0, .dialCheck 1, .closeLocked 0, .closeStep 0, .closeStep 0, .closeStep 0,
    .closeStep 0, .closeStep 0, .dialPinned 1 (.ok ())], _, _, rfl, rfl, ⟨0, rfl, Nat.le_refl _⟩,
    rfl, rfl, rfl⟩

end AutoSample

end Rstream.Transport
