import Rstream.Transport.DialRoutes
import Mathlib.Data.List.Perm.Subperm
import Mathlib.Data.Nat.ModEq

/-!
# Accounting for raced connections

The invariant of `raceDialRoutes` counts the attempts that run or have a result in the
channel, says which values have been closed, and says for each point of the call what it
has seen. Every event keeps it.
-/

namespace Rstream.Transport

open Function List Race Nat

variable {route : DialRoute}

section Routes

variable {r : DialRoutes}

/-- There is a target and a proxy to dial. -/
structure DialRoutes.Nonempty (r : DialRoutes) : Prop where
  targets : r.targets ≠ []
  proxies : r.proxies ≠ []

theorem DialRoutes.Nonempty.count_pos (h : r.Nonempty) :
    0 < r.targets.length ∧ 0 < r.proxies.length :=
  ⟨length_pos_iff.mpr h.targets, length_pos_iff.mpr h.proxies⟩

/-- Different indices give different pairs. -/
theorem DialRoutes.position_injOn (hproxies : 0 < r.proxies.length) :
    Set.InjOn r.position (Set.Iio r.count) := by
  intro i hi j hj h
  have hdiv : ∀ k ∈ Set.Iio r.count, k / r.proxies.length < r.targets.length :=
    fun k hk => (div_lt_iff_lt_mul hproxies).mpr hk
  obtain ⟨htarget, hproxy⟩ := Prod.mk.inj h
  rw [hproxy] at htarget
  have hmod : i / r.proxies.length ≡ j / r.proxies.length [MOD r.targets.length] :=
    ModEq.add_right_cancel' _ htarget
  have hquot := hmod.eq_of_lt_of_lt (hdiv i hi) (hdiv j hj)
  rw [← div_add_mod i r.proxies.length, ← div_add_mod j r.proxies.length, hquot, hproxy]

/-- Every pair has an index. -/
theorem DialRoutes.position_surjOn (htargets : 0 < r.targets.length) :
    Set.SurjOn r.position (Set.Iio r.count)
      (Set.Iio r.targets.length ×ˢ Set.Iio r.proxies.length) := by
  rintro ⟨target, proxy⟩ ⟨htarget, hproxy⟩
  simp only [Set.mem_Iio] at htarget hproxy
  -- The row of the pair undoes the shift of the targets.
  let row := (target + (r.targets.length - proxy % r.targets.length)) % r.targets.length
  have hrow : row < r.targets.length := mod_lt _ htargets
  have hpos : 0 < r.proxies.length := zero_lt_of_lt hproxy
  have hmod : (r.proxies.length * row + proxy) % r.proxies.length = proxy := by
    rw [mul_add_mod, mod_eq_of_lt hproxy]
  have hdiv : (r.proxies.length * row + proxy) / r.proxies.length = row := by
    rw [mul_add_div hpos, div_eq_of_lt hproxy, add_zero]
  refine ⟨r.proxies.length * row + proxy, ?_, ?_⟩
  · calc r.proxies.length * row + proxy < r.proxies.length * (row + 1) := by
          rw [Nat.mul_succ]
          exact Nat.add_lt_add_left hproxy _
      _ ≤ r.proxies.length * r.targets.length := Nat.mul_le_mul_left _ hrow
      _ = r.count := Nat.mul_comm ..
  · have hshift : (row + proxy) % r.targets.length = target := by
      have hle : proxy % r.targets.length ≤ r.targets.length := (mod_lt _ htargets).le
      have hsplit := div_add_mod proxy r.targets.length
      calc (row + proxy) % r.targets.length
          = (target + (r.targets.length - proxy % r.targets.length) + proxy) %
              r.targets.length := by rw [mod_add_mod]
        _ = (target + r.targets.length * (proxy / r.targets.length + 1)) %
              r.targets.length := by
            congr 1
            rw [mul_succ]
            omega
        _ = target := by rw [add_mul_mod_self_left, mod_eq_of_lt htarget]
    simp only [position, hmod, hdiv, hshift]

/-- The indices are the pairs, one to one. -/
theorem DialRoutes.position_bijOn (h : r.Nonempty) :
    Set.BijOn r.position (Set.Iio r.count)
      (Set.Iio r.targets.length ×ˢ Set.Iio r.proxies.length) := by
  obtain ⟨ht, hp⟩ := h.count_pos
  exact ⟨fun i _ => ⟨mod_lt _ ht, mod_lt _ hp⟩, position_injOn hp, position_surjOn ht⟩

theorem DialRoutes.routeAt_eq (h : r.Nonempty) (i : Nat) :
    ∃ target proxy, r.targets[(r.position i).1]? = some target ∧
      r.proxies[(r.position i).2]? = some proxy ∧ r.routeAt i = some ⟨target, proxy⟩ := by
  obtain ⟨ht, hp⟩ := h.count_pos
  have htarget : (r.position i).1 < r.targets.length := mod_lt _ ht
  have hproxy : (r.position i).2 < r.proxies.length := mod_lt _ hp
  refine ⟨_, _, getElem?_eq_getElem htarget, getElem?_eq_getElem hproxy, ?_⟩
  simp [routeAt, getElem?_eq_getElem htarget, getElem?_eq_getElem hproxy]

/-- The share of an attempt that exists is not zero. -/
theorem attemptBudget_ne_none {count index : Nat} (h : index < count) (remaining : Option Int) :
    ∃ budget, attemptBudget count index remaining = some budget := by
  cases remaining with
  | none => exact ⟨_, rfl⟩
  | some remaining =>
    have hshare : ((count : Int) - index + 1).tdiv 2 ≠ 0 := by
      rw [Int.tdiv_eq_ediv_of_nonneg (by omega)]
      omega
    exact ⟨_, if_neg hshare⟩

end Routes

section Invariant

variable {T E : Type}

/-- The part of the state that the attempts share with the call. -/
structure RaceBooks (T E : Type) where
  next : Nat
  active : Nat
  results : List (Nat × Except E T)
  attempts : Nat → Attempt T E
  started : List Nat
  closes : Nat → Nat

/-- The books of a call. -/
def Race.books (s : Race T E) : RaceBooks T E :=
  ⟨s.next, s.active, s.results, s.attempts, s.started, s.closes⟩

namespace RaceBooks

/-- The result of the attempt waits in the channel. -/
def Waits (b : RaceBooks T E) (i : Nat) : Prop := ∃ result, (i, result) ∈ b.results

/-- The value of the attempt was received, and the call does not keep it. -/
def Discarded (b : RaceBooks T E) (winner : Option Nat) (i : Nat) : Prop :=
  (∃ value, b.attempts i = .sent (.ok value)) ∧ ¬ b.Waits i ∧ winner ≠ some i

/-- The books are in order; `winner` is the attempt whose value the call keeps. -/
structure Balanced (routes : DialRoutes) (winner : Option Nat) (b : RaceBooks T E) : Prop where
  started : b.started = range b.next ∧ b.next ≤ routes.count
  idle : ∀ i, b.attempts i = .idle ↔ b.next ≤ i
  routed : ∀ i route budget, b.attempts i = .running route budget → routes.routeAt i = some route
  live : ∃ live : List Nat, live.Nodup ∧ (∀ i, i ∈ live ↔ (b.attempts i).inFlight = true) ∧
    live.length + b.results.length = b.active
  active : b.active ≤ 2
  results : b.results.Pairwise (·.1 ≠ ·.1) ∧
    ∀ i result, (i, result) ∈ b.results → b.attempts i = .sent result
  closes : ∀ i, (b.Discarded winner i → b.closes i = 1) ∧ (¬ b.Discarded winner i → b.closes i = 0)

namespace Balanced

variable {routes : DialRoutes} {winner : Option Nat} {b : RaceBooks T E} {i : Nat}

section

variable (h : b.Balanced routes winner)
include h

theorem start (hnext : b.next < routes.count) (hactive : b.active < 2)
    (hroute : routes.routeAt b.next = some route) (budget : Int) :
    Balanced routes winner { b with
      next := b.next + 1
      active := b.active + 1
      attempts := update b.attempts b.next (.running route budget)
      started := b.started ++ [b.next] } := by
  have hidle : b.attempts b.next = .idle := (h.idle _).mpr (le_refl _)
  have hne : ∀ {i result}, b.attempts i = .sent result → i ≠ b.next := by
    rintro i result hi rfl
    rw [hidle] at hi
    cases hi
  refine ⟨⟨by simp [h.started.1, range_succ], hnext⟩, fun i => ?_, fun i route' budget' hi => ?_,
    ?_, hactive, ⟨h.results.1, fun i result hi => ?_⟩, fun i => ?_⟩
  · by_cases hi : i = b.next
    · subst hi
      simp
    · simp only [update_of_ne hi, h.idle i]
      omega
  · by_cases hne : i = b.next
    · subst hne
      simp only [update_self, Attempt.running.injEq] at hi
      exact hi.1 ▸ hroute
    · simp only [update_of_ne hne] at hi
      exact h.routed i route' budget' hi
  · obtain ⟨live, hnodup, hmem, hlength⟩ := h.live
    refine ⟨b.next :: live, nodup_cons.mpr ⟨?_, hnodup⟩, fun i => ?_, ?_⟩
    · rw [hmem, hidle]
      simp [Attempt.inFlight]
    · by_cases hi : i = b.next
      · subst hi
        simp [Attempt.inFlight]
      · simp [hi, hmem]
    · simp only [length_cons]
      omega
  · have hsent := h.results.2 i result hi
    simp only [update_of_ne (hne hsent), hsent]
  · have hiff : Discarded { b with
        next := b.next + 1
        active := b.active + 1
        attempts := update b.attempts b.next (.running route budget)
        started := b.started ++ [b.next] } winner i ↔ b.Discarded winner i := by
      by_cases hi : i = b.next
      · subst hi
        simp [Discarded, hidle]
      · simp [Discarded, Waits, update_of_ne hi]
    rw [hiff]
    exact h.closes i

theorem dialed {budget : Int} (hi : b.attempts i = .running route budget) (result : Except E T) :
    Balanced routes winner { b with attempts := update b.attempts i (.sending result) } := by
  refine ⟨h.started, fun j => ?_, fun j route' budget' hj => ?_, ?_, h.active,
    ⟨h.results.1, fun j r hj => ?_⟩, fun j => ?_⟩
  · by_cases hj : j = i
    · subst hj
      simpa [hi] using (h.idle j).not.mp (by simp [hi])
    · simp only [update_of_ne hj, h.idle j]
  · by_cases hne : j = i
    · subst hne
      simp at hj
    · simp only [update_of_ne hne] at hj
      exact h.routed j route' budget' hj
  · obtain ⟨live, hnodup, hmem, hlength⟩ := h.live
    refine ⟨live, hnodup, fun j => ?_, hlength⟩
    by_cases hj : j = i
    · subst hj
      simp [hmem, hi, Attempt.inFlight]
    · simp only [update_of_ne hj, hmem]
  · have hsent := h.results.2 j r hj
    have hne : j ≠ i := by
      rintro rfl
      rw [hi] at hsent
      cases hsent
    simp only [update_of_ne hne, hsent]
  · have hiff : Discarded { b with attempts := update b.attempts i (.sending result) }
        winner j ↔ b.Discarded winner j := by
      by_cases hj : j = i
      · subst hj
        simp [Discarded, hi]
      · simp [Discarded, Waits, update_of_ne hj]
    rw [hiff]
    exact h.closes j

/-- An attempt that has a result to send finds room in the channel. -/
theorem room (hi : (b.attempts i).inFlight = true) : b.results.length < 2 := by
  obtain ⟨live, _, hmem, hlength⟩ := h.live
  have hpos : 0 < live.length := length_pos_of_mem ((hmem i).mpr hi)
  have hactive := h.active
  omega

theorem send {result : Except E T} (hi : b.attempts i = .sending result) :
    Balanced routes winner { b with
      results := b.results ++ [(i, result)]
      attempts := update b.attempts i (.sent result) } := by
  have hnew : ∀ {j r}, (j, r) ∈ b.results → j ≠ i := by
    rintro j r hj rfl
    have hsent := h.results.2 j r hj
    rw [hi] at hsent
    cases hsent
  refine ⟨h.started, fun j => ?_, fun j route' budget' hj => ?_, ?_, h.active,
    ⟨?_, fun j r hj => ?_⟩, fun j => ?_⟩
  · by_cases hj : j = i
    · subst hj
      simpa [hi] using (h.idle j).not.mp (by simp [hi])
    · simp only [update_of_ne hj, h.idle j]
  · by_cases hne : j = i
    · subst hne
      simp at hj
    · simp only [update_of_ne hne] at hj
      exact h.routed j route' budget' hj
  · obtain ⟨live, hnodup, hmem, hlength⟩ := h.live
    have hilive : i ∈ live := (hmem i).mpr (by simp [hi, Attempt.inFlight])
    refine ⟨live.erase i, hnodup.erase i, fun j => ?_, ?_⟩
    · rw [hnodup.mem_erase_iff]
      by_cases hj : j = i
      · subst hj
        simp [Attempt.inFlight]
      · simp only [update_of_ne hj, hmem, hj, ne_eq, not_false_eq_true, true_and]
    · have hpos := length_pos_of_mem hilive
      simp only [length_erase_of_mem hilive, length_append, length_singleton]
      omega
  · refine pairwise_append.mpr ⟨h.results.1, pairwise_singleton .., ?_⟩
    rintro ⟨j, r⟩ hj y hy
    rw [mem_singleton.mp hy]
    exact hnew hj
  · rcases mem_append.mp hj with hj | hj
    · simp only [update_of_ne (hnew hj), h.results.2 j r hj]
    · cases mem_singleton.mp hj
      exact update_self ..
  · have hiff : Discarded { b with
        results := b.results ++ [(i, result)]
        attempts := update b.attempts i (.sent result) } winner j ↔
        b.Discarded winner j := by
      by_cases hj : j = i
      · subst hj
        have hwaits : Waits { b with
            results := b.results ++ [(j, result)]
            attempts := update b.attempts j (.sent result) } j :=
          ⟨result, by simp⟩
        simp [Discarded, hi, hwaits]
      · simp [Discarded, Waits, hj]
    rw [hiff]
    exact h.closes j

/-- The call receives a result and closes its value, keeps it or finds an error. -/
theorem take {result : Except E T}
    {results : List (Nat × Except E T)} (hresults : b.results = (i, result) :: results)
    (winner' : Option Nat) (closes : Nat → Nat)
    (hothers : ∀ j, j ≠ i → closes j = b.closes j ∧ (winner' ≠ some j ↔ winner ≠ some j))
    (herror : (∀ value, result ≠ .ok value) → closes i = 0)
    (hok : ∀ value, result = .ok value → closes i = if winner' = some i then 0 else 1) :
    Balanced routes winner' { b with
      active := b.active - 1, results := results, closes := closes } := by
  have hpair := h.results.1
  rw [hresults, pairwise_cons] at hpair
  have hsent : b.attempts i = .sent result := h.results.2 i result (by simp [hresults])
  have hgone : ¬ ∃ r, (i, r) ∈ results := fun ⟨r, hr⟩ => hpair.1 _ hr rfl
  refine ⟨h.started, h.idle, h.routed, ?_, le_trans (sub_le ..) h.active,
    ⟨hpair.2, fun j r hj => ?_⟩, fun j => ?_⟩
  · obtain ⟨live, hnodup, hmem, hlength⟩ := h.live
    rw [hresults, length_cons] at hlength
    refine ⟨live, hnodup, hmem, ?_⟩
    change live.length + results.length = b.active - 1
    omega
  · exact h.results.2 j r (by rw [hresults]; exact mem_cons_of_mem _ hj)
  · by_cases hj : j = i
    · subst hj
      cases result with
      | error err =>
        have hzero := herror nofun
        simp [Discarded, hsent, hzero]
      | ok value =>
        have hone := hok value rfl
        by_cases hw : winner' = some j
        · simp [Discarded, hw, hone]
        · simp [Discarded, Waits, hsent, hgone, hw, hone]
    · obtain ⟨hcloses, hwinner⟩ := hothers j hj
      have hiff : Discarded { b with active := b.active - 1, results := results, closes := closes }
          winner' j ↔ b.Discarded winner j := by
        simp only [Discarded, Waits, hresults, mem_cons, Prod.mk.injEq, hj, false_and,
          false_or, hwinner]
      simp only [hiff, hcloses]
      exact h.closes j

end

/-- The call closes the value it kept. -/
theorem closeWinner (h : b.Balanced routes (some i)) {value : T}
    (hi : b.attempts i = .sent (.ok value)) (hgone : ¬ b.Waits i) :
    Balanced routes none { b with closes := update b.closes i (b.closes i + 1) } := by
  refine ⟨h.started, h.idle, h.routed, h.live, h.active, h.results, fun j => ?_⟩
  by_cases hj : j = i
  · subst hj
    have hzero : b.closes j = 0 := (h.closes j).2 fun hd => hd.2.2 rfl
    have hdiscarded : Discarded { b with closes := update b.closes j (b.closes j + 1) }
        none j := ⟨⟨value, hi⟩, hgone, nofun⟩
    exact ⟨fun _ => by simp [hzero], fun hd => absurd hdiscarded hd⟩
  · have hiff : Discarded { b with closes := update b.closes i (b.closes i + 1) } none j ↔
        b.Discarded (some i) j := by
      simp [Discarded, Waits, Ne.symm hj]
    rw [hiff]
    simpa only [update_of_ne hj] using h.closes j

end Balanced

end RaceBooks

/-- The attempt whose value the call keeps. -/
def RacePhase.winner : RacePhase T E → Option Nat
  | .drain (.won index _) => some index
  | .returned (.ok (some (index, _))) => some index
  | _ => none

/-- What the call has seen when it stands at a point. -/
def RaceBooks.Seen (routes : DialRoutes) (b : RaceBooks T E) (parentErr firstErr : Option E) :
    RacePhase T E → Prop
  | .entry => b.next = 0 ∧ b.active = 0
  | .select => 0 < b.next ∧ (b.active = 0 → b.next = routes.count) ∧
      (firstErr = none → b.active = b.next) ∧
      ∀ i value, b.attempts i = .sent (.ok value) → b.Waits i
  | .drain (.failed _) => parentErr ≠ none
  | .drain (.won i value) => b.attempts i = .sent (.ok value) ∧ ¬ b.Waits i
  | .returned (.error _) => b.active = 0 ∧ (parentErr ≠ none ∨
      b.next = routes.count ∧ ∀ i value, b.attempts i ≠ .sent (.ok value))
  | .returned (.ok none) => False
  | .returned (.ok (some (i, value))) => b.active = 0 ∧ b.attempts i = .sent (.ok value)
  | .panicked => False

/-- The invariant of the call. -/
structure Race.Sound (routes : DialRoutes) (s : Race T E) : Prop where
  books : s.books.Balanced routes s.phase.winner
  seen : s.books.Seen routes s.parentErr s.firstErr s.phase

end Invariant

section Steps

variable {T E : Type} {routes : DialRoutes} {s s' : Race T E}

/-- `start` succeeds while there are routes left. -/
theorem Race.start_eq (hroutes : routes.Nonempty)
    (hnext : s.next < routes.count) (remaining : Option Int) :
    ∃ route budget, routes.routeAt s.next = some route ∧ s.start routes remaining = { s with
      next := s.next + 1
      active := s.active + 1
      attempts := update s.attempts s.next (.running route budget)
      started := s.started ++ [s.next] } := by
  obtain ⟨budget, hbudget⟩ := attemptBudget_ne_none hnext remaining
  obtain ⟨target, proxy, _, _, hroute⟩ := routes.routeAt_eq hroutes s.next
  exact ⟨⟨target, proxy⟩, budget, hroute, by simp only [start, hbudget, hroute]⟩

namespace RaceBooks.Seen

variable {b : RaceBooks T E} {parentErr firstErr : Option E} {phase : RacePhase T E} {i : Nat}

section

variable (h : b.Seen routes parentErr firstErr phase)
include h

/-- The end of the context of the caller changes nothing that the call has seen. -/
theorem endParent (err : E) : b.Seen routes (some err) firstErr phase := by
  rcases phase with _ | _ | (_ | _) | (_ | _ | _) | _
  case drain.failed => exact nofun
  case returned.error => exact ⟨h.1, .inl nofun⟩
  all_goals exact h

/-- The call has not seen what an attempt does before it sends. -/
theorem dialed {budget : Int} (hi : b.attempts i = .running route budget) (result : Except E T) :
    Seen routes { b with attempts := update b.attempts i (.sending result) } parentErr
      firstErr phase := by
  have hsent : ∀ j value, update b.attempts i (.sending result) j = .sent (.ok value) ↔
      b.attempts j = .sent (.ok value) := by
    intro j value
    by_cases hj : j = i
    · subst hj
      simp [hi]
    · rw [update_of_ne hj]
  rcases phase with _ | _ | (_ | _) | (_ | _ | _) | _
  case returned.ok.none => exact h
  case panicked => exact h
  all_goals simpa only [Seen, Waits, hsent, ne_eq] using h

/-- A result that is sent waits for the call. -/
theorem send {result : Except E T} (hi : b.attempts i = .sending result) (hactive : b.active ≠ 0) :
    Seen routes { b with
      results := b.results ++ [(i, result)]
      attempts := update b.attempts i (.sent result) } parentErr firstErr phase := by
  have hother : ∀ {j value}, b.attempts j = .sent (.ok value) → j ≠ i := by
    rintro j value hj rfl
    rw [hi] at hj
    cases hj
  rcases phase with _ | _ | (_ | ⟨j, value⟩) | (_ | _ | ⟨j, value⟩) | _
  case select =>
    refine ⟨h.1, h.2.1, h.2.2.1, fun j value hj => ?_⟩
    by_cases hji : j = i
    · subst hji
      exact ⟨result, by simp⟩
    · simp only [update_of_ne hji] at hj
      obtain ⟨r, hr⟩ := h.2.2.2 j value hj
      exact ⟨r, mem_append_left _ hr⟩
  case drain.won =>
    have hji := hother h.1
    refine ⟨by simp only [update_of_ne hji, h.1], fun ⟨r, hr⟩ => ?_⟩
    rcases mem_append.mp hr with hr | hr
    · exact h.2 ⟨r, hr⟩
    · exact hji (Prod.mk.inj (mem_singleton.mp hr)).1
  case entry => exact absurd h.2 hactive
  case drain.failed => exact h
  case returned.error => exact absurd h.1 hactive
  case returned.ok.none => exact h
  case returned.ok.some => exact absurd h.1 hactive
  case panicked => exact h

end

end RaceBooks.Seen

/-- Starting an attempt at the head of the loop. -/
theorem Race.Sound.start (hroutes : routes.Nonempty)
    (hphase : s.phase = .select) (hbooks : s.books.Balanced routes none)
    (hnext : s.next < routes.count) (hactive : s.active < 2)
    (hfirst : s.firstErr = none → s.active = s.next)
    (hsent : ∀ i value, s.attempts i = .sent (.ok value) → s.books.Waits i)
    (remaining : Option Int) : (s.start routes remaining).Sound routes := by
  obtain ⟨route, budget, hroute, hstart⟩ := start_eq hroutes hnext remaining
  have hstarted := hbooks.start hnext hactive hroute budget
  rw [hstart]
  refine ⟨by simpa only [hphase] using! hstarted, ?_⟩
  simp only [hphase]
  refine ⟨succ_pos _, nofun, fun hnone => congrArg (· + 1) (hfirst hnone), fun i value hi => ?_⟩
  by_cases hne : i = s.next
  · subst hne
    simp [Race.books] at hi
  · simp only [Race.books, update_of_ne hne] at hi
    exact hsent i value hi

/-- The call enters the loop with its first attempt. -/
theorem Race.Sound.enter (hroutes : routes.Nonempty)
    (h : s.Sound routes) (hphase : s.phase = .entry) (remaining : Option Int) :
    ({ s with phase := .select, timer := .armed }.start routes remaining).Sound routes := by
  obtain ⟨hbooks, hseen⟩ := h
  rw [hphase] at hbooks hseen
  obtain ⟨hnext, hactive⟩ : s.next = 0 ∧ s.active = 0 := hseen
  have hcount : 0 < routes.count :=
    Nat.mul_pos hroutes.count_pos.1 hroutes.count_pos.2
  refine .start (s := { s with phase := .select, timer := .armed }) hroutes rfl hbooks
    (by simpa only [hnext] using hcount) (by simp [hactive]) (fun _ => hactive.trans hnext.symm)
    (fun i value hi => ?_) remaining
  have hidle : s.attempts i = .idle := (hbooks.idle i).mpr (by simp [Race.books, hnext])
  simp only [hidle] at hi
  cases hi

theorem Race.Sound.resetTimer (h : s.Sound routes) : s.resetTimer.Sound routes := by
  unfold Race.resetTimer
  split_ifs
  · exact ⟨h.books, h.seen⟩
  · exact h

/-- A received result: the race is won, or the next attempt starts. -/
theorem Race.Sound.receive (hroutes : routes.Nonempty)
    (h : s.Sound routes) (hphase : s.phase = .select) {i : Nat} {result : Except E T}
    {results : List (Nat × Except E T)} (hresults : s.results = (i, result) :: results)
    (remaining : Option Int) :
    ({ s with active := s.active - 1, results := results }.receive routes remaining i
      result).Sound routes := by
  obtain ⟨hbooks, hseen⟩ := h
  rw [hphase] at hbooks hseen
  obtain ⟨hnext, hall, hfirst, hsent⟩ := hseen
  have hwon : s.attempts i = .sent result := hbooks.results.2 i result (by simp [Race.books, hresults])
  have hwaits : ∀ j, j ≠ i → s.books.Waits j → ∃ r, (j, r) ∈ results := by
    rintro j hj ⟨r, hr⟩
    rw [Race.books, hresults] at hr
    exact ⟨r, (mem_cons.mp hr).resolve_left fun heq => hj (Prod.mk.inj heq).1⟩
  have hgone : ¬ ∃ r, (i, r) ∈ results := by
    rintro ⟨r, hr⟩
    have hpair := hbooks.results.1
    rw [Race.books, hresults, pairwise_cons] at hpair
    exact hpair.1 _ hr rfl
  cases result with
  | ok value =>
    have hzero : s.closes i = 0 :=
      (hbooks.closes i).2 fun hd => hd.2.1 ⟨.ok value, by simp [Race.books, hresults]⟩
    have htaken : RaceBooks.Balanced routes (some i) { s.books with
        active := s.active - 1, results := results } :=
      hbooks.take hresults (some i) s.closes
        (fun j hj => ⟨rfl, by simp [RacePhase.winner, Ne.symm hj]⟩)
        (fun hnone => absurd rfl (hnone value)) fun _ _ => by simp [hzero]
    exact ⟨htaken, hwon, hgone⟩
  | error err =>
    have hzero : s.closes i = 0 :=
      (hbooks.closes i).2 fun ⟨⟨_, hvalue⟩, _⟩ => absurd (hwon.symm.trans hvalue) nofun
    have htaken : RaceBooks.Balanced routes none { s.books with
        active := s.active - 1, results := results } :=
      hbooks.take hresults none s.closes (fun j _ => ⟨rfl, Iff.rfl⟩) (fun _ => hzero) nofun
    have hsent' : ∀ j value, s.attempts j = .sent (.ok value) → ∃ r, (j, r) ∈ results := by
      intro j value hj
      refine hwaits j ?_ (hsent j value hj)
      rintro rfl
      rw [hwon] at hj
      cases hj
    simp only [Race.receive]
    split_ifs with hmore
    · refine Race.Sound.resetTimer (.start (s := { s with
        active := s.active - 1, results := results, firstErr := s.firstErr.or (some err) })
        hroutes hphase htaken hmore ?_ ?_ hsent' remaining)
      · have hactive : s.active ≤ 2 := hbooks.active
        have hpos : 0 < s.active := by
          obtain ⟨live, _, _, hlength⟩ := hbooks.live
          simp only [Race.books, hresults, length_cons] at hlength
          omega
        change s.active - 1 < 2
        omega
      · intro hnone
        cases hs : s.firstErr <;> simp [hs] at hnone
    · have hlast : s.next = routes.count := le_antisymm hbooks.started.2 (not_lt.mp hmore)
      refine ⟨by simpa only [hphase] using! htaken, ?_⟩
      simp only [hphase]
      refine ⟨hnext, fun _ => hlast, fun hnone => ?_, hsent'⟩
      cases hs : s.firstErr <;> simp [hs] at hnone

/-- A round of `drain`. -/
theorem Race.Sound.drain {after : AfterDrain T E} (h : s.Sound routes)
    (hphase : s.phase = .drain after) (hstep : s.drain after = some s') : s'.Sound routes := by
  obtain ⟨hbooks, hseen⟩ := h
  rw [hphase] at hbooks hseen
  unfold Race.drain at hstep
  split_ifs at hstep with hactive
  · cases hstep
    cases after with
    | failed err => exact ⟨hbooks, hactive, .inl hseen⟩
    | won i value =>
      simp only [afterDrain]
      split
      · next err hparent =>
        exact ⟨hbooks.closeWinner hseen.1 hseen.2, hactive, .inl (by simp [closeValue, hparent])⟩
      · exact ⟨hbooks, hactive, hseen.1⟩
  · split at hstep
    · cases hstep
    · next i result results hresults =>
      -- A result in the channel is not the one the call keeps.
      have hwaits : s.books.Waits i := ⟨result, by simp [Race.books, hresults]⟩
      have hlost : (RacePhase.drain after).winner ≠ some i := by
        cases after with
        | failed err => exact nofun
        | won j value =>
          rintro hwinner
          cases hwinner
          exact hseen.2 hwaits
      have hzero : s.closes i = 0 := (hbooks.closes i).2 fun hd => hd.2.1 hwaits
      have hseen' : ∀ closes, RaceBooks.Seen routes { s.books with
          active := s.active - 1, results := results, closes := closes } s.parentErr s.firstErr
          (.drain after) := by
        intro closes
        cases after with
        | failed err => exact hseen
        | won j value =>
          refine ⟨hseen.1, fun ⟨r, hr⟩ => hseen.2 ⟨r, ?_⟩⟩
          rw [Race.books, hresults]
          exact mem_cons_of_mem _ hr
      cases result with
      | ok value =>
        cases hstep
        refine ⟨?_, by simpa only [hphase] using! hseen' _⟩
        have htaken := hbooks.take hresults (RacePhase.drain after).winner
          (update s.closes i (s.closes i + 1))
          (fun j hj => ⟨update_of_ne hj .., Iff.rfl⟩)
          (fun hnone => absurd rfl (hnone value)) (fun _ _ => by simp [hlost, hzero])
        simpa only [hphase] using! htaken
      | error err =>
        cases hstep
        refine ⟨?_, by simpa only [hphase] using! hseen' _⟩
        have htaken := hbooks.take hresults (RacePhase.drain after).winner s.closes
          (fun j _ => ⟨rfl, Iff.rfl⟩) (fun _ => hzero) nofun
        simpa only [hphase] using! htaken

/-- The loop is left when every attempt has failed. -/
theorem Race.Sound.exit (h : s.Sound routes) (hphase : s.phase = .select) (hactive : s.active = 0) :
    s.exit.Sound routes := by
  obtain ⟨hbooks, hseen⟩ := h
  rw [hphase] at hbooks hseen
  obtain ⟨hnext, hall, hfirst, hsent⟩ := hseen
  have hempty : s.results = [] := by
    obtain ⟨live, _, _, hlength⟩ := hbooks.live
    simp only [Race.books, hactive] at hlength
    exact length_eq_zero_iff.mp (by omega)
  have hfailed : ∀ i value, s.attempts i ≠ .sent (.ok value) := by
    intro i value hi
    obtain ⟨r, hr⟩ := hsent i value hi
    rw [Race.books, hempty] at hr
    cases hr
  unfold Race.exit
  split
  · exact ⟨hbooks, hactive, .inr ⟨hall hactive, hfailed⟩⟩
  · exact ⟨hbooks, hactive, .inr ⟨hall hactive, hfailed⟩⟩
  · next hnone =>
    have hzero : s.next = 0 := (hfirst hnone).symm.trans hactive
    exact absurd hzero (Nat.pos_iff_ne_zero.mp hnext)

variable {e : RaceEvent T E}

theorem Race.Sound.select (hroutes : routes.Nonempty)
    (h : s.Sound routes) (hphase : s.phase = .select)
    (hstep : s.select routes e = some s') : s'.Sound routes := by
  have hbooks := h.books
  have hseen := h.seen
  rw [hphase] at hbooks hseen
  cases e with
  | ctxDone =>
    obtain ⟨err, hparent, rfl⟩ := Option.map_eq_some_iff.mp hstep
    exact ⟨hbooks, by simp [hparent, RaceBooks.Seen]⟩
  | timerC remaining =>
    simp only [select] at hstep
    split at hstep
    · cases hstep
      split_ifs with hmore
      · exact .start (s := { s with timer := .stopped }) hroutes hphase hbooks hmore.1
          hmore.2 hseen.2.2.1 hseen.2.2.2 remaining
      · exact ⟨h.books, h.seen⟩
    · cases hstep
  | receive remaining =>
    simp only [select] at hstep
    split at hstep
    · cases hstep
    · next i result results hresults =>
      cases hstep
      exact h.receive hroutes hphase hresults remaining
  | _ => cases hstep

theorem Race.Sound.callStep (hroutes : routes.Nonempty)
    (h : s.Sound routes) (hstep : s.callStep routes e = some s') : s'.Sound routes := by
  unfold Race.callStep at hstep
  split at hstep
  · next remaining hphase =>
    split at hstep
    · next err hparent =>
      cases hstep
      have hbooks := h.books
      have hseen := h.seen
      rw [hphase] at hbooks hseen
      exact ⟨hbooks, hseen.2, .inl (by simp [hparent])⟩
    · cases hstep
      exact h.enter hroutes hphase remaining
  · next hphase =>
    split_ifs at hstep with hactive
    cases hstep
    exact h.exit hphase hactive
  · next hphase _ =>
    split_ifs at hstep
    exact h.select hroutes hphase hstep
  · next after hphase => exact h.drain hphase hstep
  · cases hstep

theorem Race.Sound.step (hroutes : routes.Nonempty)
    (h : s.Sound routes) (hstep : s.step routes e = some s') : s'.Sound routes := by
  cases e with
  | endParent err =>
    simp only [step] at hstep
    split_ifs at hstep
    cases hstep
    exact ⟨h.books, h.seen.endParent err⟩
  | fire =>
    simp only [step] at hstep
    split at hstep
    · cases hstep
      exact ⟨h.books, h.seen⟩
    · cases hstep
  | dialed i result =>
    simp only [step] at hstep
    split at hstep
    · next hi =>
      cases hstep
      exact ⟨h.books.dialed hi result, h.seen.dialed hi result⟩
    · cases hstep
  | send i =>
    simp only [step, send] at hstep
    split at hstep
    · next result hi =>
      split_ifs at hstep
      cases hstep
      refine ⟨h.books.send hi, h.seen.send hi fun hactive => ?_⟩
      obtain ⟨live, _, hmem, hlength⟩ := h.books.live
      have hpos := length_pos_of_mem ((hmem i).mpr (by simp [Race.books, hi, Attempt.inFlight]))
      omega
    · cases hstep
  | _ => exact h.callStep hroutes hstep

theorem Race.Sound.run (hroutes : routes.Nonempty)
    {events : List (RaceEvent T E)} (h : s.Sound routes) (hrun : s.run routes events = some s') :
    s'.Sound routes := by
  induction events generalizing s with
  | nil =>
    cases hrun
    exact h
  | cons e events ih =>
    obtain ⟨s₁, hstep, hrest⟩ := Option.bind_eq_some_iff.mp hrun
    exact ih (h.step hroutes hstep) hrest

theorem Race.sound_init : (Race.init : Race T E).Sound routes := by
  refine ⟨⟨⟨rfl, zero_le _⟩, fun i => ⟨fun _ => zero_le i, fun _ => rfl⟩, nofun,
    ⟨[], nodup_nil, fun i => ?_, rfl⟩, zero_le _, ⟨.nil, nofun⟩, fun i => ⟨?_, fun _ => rfl⟩⟩,
    rfl, rfl⟩
  · simp [books, init, Attempt.inFlight]
  · rintro ⟨⟨_, hsent⟩, _⟩
    cases hsent

end Steps

section Runs

variable {T E : Type}

/-- What holds at every point of the call. -/
structure Race.Accounted (routes : DialRoutes) (s : Race T E) : Prop where
  /-- At most two attempts run at a time. -/
  concurrent : ∀ live : List Nat, live.Nodup → (∀ i ∈ live, (s.attempts i).inFlight = true) →
    live.length ≤ 2
  /-- Every index is started at most once and is the index of a pair. -/
  once : s.started.Nodup ∧ ∀ i ∈ s.started, i < routes.count
  /-- Every attempt was started, on the route of its index. -/
  onRoute : ∀ i, (s.attempts i ≠ .idle → i ∈ s.started) ∧
    ∀ route budget, s.attempts i = .running route budget → routes.routeAt i = some route
  /-- An attempt that has a result to send finds room in the channel. -/
  unblocked : ∀ i result, s.attempts i = .sending result → (s.send i).isSome
  /-- The call returns when every attempt it started has finished. -/
  joined : ∀ result, s.phase = .returned result → ∀ i, (s.attempts i).inFlight = false
  /-- A value is closed at most once, and only a value that was established. -/
  closed : ∀ i, s.closes i ≤ 1 ∧ (s.closes i = 1 → ∃ value, s.attempts i = .sent (.ok value))
  /-- When the call returns, it has closed every value but the one it returns. -/
  settled : ∀ result, s.phase = .returned result → ∀ i value, s.attempts i = .sent (.ok value) →
    s.closes i = if result.toOption.join.map Prod.fst = some i then 0 else 1
  /-- The value it returns is that of an attempt. -/
  value : ∀ result, s.phase = .returned (.ok result) →
    ∃ i value, result = some (i, value) ∧ s.attempts i = .sent (.ok value)
  /-- It fails when its context has ended or every pair has been tried. -/
  failed : ∀ err, s.phase = .returned (.error err) → s.parentErr ≠ none ∨
    ∀ i < routes.count, i ∈ s.started ∧ ∃ err, s.attempts i = .sent (.error err)
  /-- It does not divide by zero and does not run out of the lists. -/
  running : s.phase ≠ .panicked

/-- A call that has returned has nothing in flight. -/
theorem Race.Sound.active_of_returned {routes : DialRoutes} {s : Race T E} (h : s.Sound routes)
    {result : Except E (Option (Nat × T))} (hphase : s.phase = .returned result) : s.active = 0 := by
  have hseen := h.seen
  rw [hphase] at hseen
  rcases result with _ | _ | _
  · exact hseen.1
  · exact hseen.elim
  · exact hseen.1

theorem Race.Sound.accounted {routes : DialRoutes} {s : Race T E} (h : s.Sound routes) :
    s.Accounted routes := by
  have hbooks := h.books
  have hseen := h.seen
  obtain ⟨live, hnodup, hmem, hlength⟩ := hbooks.live
  have hactive : s.active ≤ 2 := hbooks.active
  have hstarted : s.started = range s.next := hbooks.started.1
  have hnext : s.next ≤ routes.count := hbooks.started.2
  have hjoined : ∀ result, s.phase = .returned result → s.results = [] ∧
      ∀ i, (s.attempts i).inFlight = false := by
    intro result hphase
    have hzero : live.length + s.results.length = 0 :=
      hlength.trans (h.active_of_returned hphase)
    refine ⟨length_eq_zero_iff.mp (by omega), fun i => ?_⟩
    have hlive : live = [] := length_eq_zero_iff.mp (by omega)
    have hnot := (hmem i).not.mp (by simp [hlive])
    simpa using! hnot
  refine ⟨?_, ⟨hstarted ▸ nodup_range, fun i hi => ?_⟩, fun i => ⟨fun hi => ?_,
    hbooks.routed i⟩, fun i result hi => ?_, fun result hphase => (hjoined result hphase).2,
    fun i => ?_, fun result hphase i value hi => ?_, fun result hphase => ?_, fun err hphase => ?_,
    fun hphase => ?_⟩
  · intro list hlist hflight
    have hsub : list.length ≤ live.length :=
      (subperm_of_subset hlist fun i hi => (hmem i).mpr (hflight i hi)).length_le
    have hbound : live.length + s.results.length = s.active := hlength
    omega
  · rw [hstarted, mem_range] at hi
    omega
  · rw [hstarted, mem_range]
    have hlt := (hbooks.idle i).not.mp hi
    simpa using! hlt
  · have hroom : s.results.length < 2 :=
      hbooks.room (i := i) (by simp [Race.books, hi, Attempt.inFlight])
    simp [Race.send, hi, hroom]
  · by_cases hd : s.books.Discarded s.phase.winner i
    · have hone : s.closes i = 1 := (hbooks.closes i).1 hd
      exact ⟨hone.le, fun _ => hd.1⟩
    · have hzero : s.closes i = 0 := (hbooks.closes i).2 hd
      simp [hzero]
  · obtain ⟨hempty, _⟩ := hjoined result hphase
    have hgone : ¬ s.books.Waits i := by simp [RaceBooks.Waits, Race.books, hempty]
    have hwinner : s.phase.winner = result.toOption.join.map Prod.fst := by
      rw [hphase]
      rcases result with _ | _ | _ <;> rfl
    by_cases hw : result.toOption.join.map Prod.fst = some i
    · rw [if_pos hw]
      exact (hbooks.closes i).2 fun hd => hd.2.2 (hwinner.trans hw)
    · rw [if_neg hw]
      exact (hbooks.closes i).1 ⟨⟨value, hi⟩, hgone, fun heq => hw (hwinner.symm.trans heq)⟩
  · rw [hphase] at hseen
    rcases result with _ | ⟨i, value⟩
    · exact hseen.elim
    · exact ⟨i, value, rfl, hseen.2⟩
  · rw [hphase] at hseen
    refine hseen.2.imp_right fun ⟨hall, hfailed⟩ i hi => ?_
    have hlt : i < s.next := hi.trans_eq hall.symm
    refine ⟨by rw [hstarted]; exact mem_range.mpr hlt, ?_⟩
    have hflight := (hjoined _ hphase).2 i
    have hidle : s.attempts i ≠ .idle := (hbooks.idle i).not.mpr (not_le.mpr hlt)
    cases hattempt : s.attempts i with
    | idle => exact absurd hattempt hidle
    | running | sending => simp [hattempt, Attempt.inFlight] at hflight
    | sent result =>
      cases result with
      | error err => exact ⟨err, rfl⟩
      | ok value => exact absurd hattempt (hfailed i value)
  · rw [hphase] at hseen
    exact hseen

/-- **Dial race.** The indices of the routes are the pairs of a target and a proxy, one to one,
and every run of the call keeps its books. -/
theorem raceDialRoutes_accounted {routes : DialRoutes} (htargets : routes.targets ≠ [])
    (hproxies : routes.proxies ≠ []) :
    Set.BijOn routes.position (Set.Iio routes.count)
        (Set.Iio routes.targets.length ×ˢ Set.Iio routes.proxies.length) ∧
      (∀ i, ∃ target proxy, routes.targets[(routes.position i).1]? = some target ∧
        routes.proxies[(routes.position i).2]? = some proxy ∧
        routes.routeAt i = some ⟨target, proxy⟩) ∧
      ∀ (events : List (RaceEvent T E)) (s : Race T E),
        init.run routes events = some s → s.Accounted routes :=
  have hroutes : routes.Nonempty := ⟨htargets, hproxies⟩
  ⟨routes.position_bijOn hroutes, routes.routeAt_eq hroutes,
    fun _ _ hrun => (sound_init.run hroutes hrun).accounted⟩

/-- Two targets and no proxy. -/
def twoTargets : DialRoutes := ⟨["[::1]:443", "127.0.0.1:443"], [""]⟩

/-- The fallback wins, and the value of the slower attempt is closed. -/
def fallbackWins : List (RaceEvent String String) :=
  [.enter none, .fire, .timerC none, .dialed 1 (.ok "second"), .send 1, .receive none,
    .dialed 0 (.ok "first"), .send 0, .drain, .drain]

theorem raceDialRoutes_accounted_sample :
    ∃ s, init.run twoTargets fallbackWins = some s ∧
      s.phase = .returned (.ok (some (1, "second"))) ∧ s.closes 0 = 1 ∧ s.closes 1 = 0 ∧
      s.Accounted twoTargets := by
  have htargets : twoTargets.targets ≠ [] := cons_ne_nil _ _
  have hproxies : twoTargets.proxies ≠ [] := cons_ne_nil _ _
  exact ⟨_, rfl, rfl, rfl, rfl,
    (raceDialRoutes_accounted htargets hproxies).2.2 fallbackWins _ rfl⟩

end Runs

end Rstream.Transport
