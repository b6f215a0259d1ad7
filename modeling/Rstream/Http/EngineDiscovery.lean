import Mathlib.Tactic.SplitIfs
import Rstream.Core.Machine

/-!
# Discovery of the Engine API

The certificate clients of `resolveEngineAPIURL` share one cached URL and one request. The
first call that finds neither makes the request under its own context; the calls that come
while it is made wait for it, and those with the same source return what it returned.
-/

namespace Rstream.Http

open Rstream.Core Function

/-- The errors of a call, with the call whose context gave it. -/
inductive ResolveError
  /-- The context of the caller was cancelled or its deadline passed. -/
  | ofContext (caller : Nat)
  | other (message : String)
  deriving DecidableEq

/-- `net.ErrClosed`. -/
def errClosed : ResolveError := .other "use of closed network connection"

/-- What `discoverEngineAPI` returns: a URL and its lifetime, or an error. -/
abbrev DiscoveryResult := Except ResolveError (String × Int)

/-- An `engineAPIDiscoveryFlight` whose `done` is closed. -/
structure DiscoveryFlight where
  source : String
  result : Except ResolveError String

/-- Where a call is in the loop of `resolveEngineAPIURL`. -/
inductive ResolveCall
  | idle
  /-- Before `context.Cause`. -/
  | checking (source : String)
  /-- Before `mu.Lock`. -/
  | looking (source : String)
  /-- Waits for the flight of another call. -/
  | waiting (source : String) (leader : Nat)
  /-- In `discoverEngineAPI`. -/
  | leading (source : String)
  | returned (result : Except ResolveError String)

/-- What happened to the cache. -/
inductive CacheEntry
  | discovered (source apiURL : String) (expires : Int)
  | invalidated

/-- `engineAPIDiscovery`, the calls that use it and the clock. -/
structure EngineDiscovery where
  now : Int := 0
  closed : Bool := false
  source : String := ""
  apiURL : String := ""
  /-- `expires`, unless it is the zero time. -/
  expires : Option Int := none
  /-- `flight`, named by the call that made it. -/
  flight : Option Nat := none
  /-- The flights that are done. -/
  flights : Nat → Option DiscoveryFlight := fun _ => none
  calls : Nat → ResolveCall := fun _ => .idle
  /-- The contexts that are done. -/
  ended : Nat → Bool := fun _ => false
  /-- The discoveries and invalidations, the last one first. -/
  history : List CacheEntry := []

/-- What happens to a client. -/
inductive DiscoveryEvent
  | advance (now : Int)
  | close
  | invalidate
  /-- The context of a call is done. -/
  | endContext (c : Nat)
  | call (c : Nat) (source : String)
  | check (c : Nat)
  | look (c : Nat)
  /-- The two cases of the `select`. -/
  | giveUp (c : Nat)
  | wake (c : Nat)
  /-- `discoverEngineAPI` returns. -/
  | discovered (c : Nat) (result : DiscoveryResult)

namespace EngineDiscovery

/-- A call goes on. -/
def move (s : EngineDiscovery) (c : Nat) (x : ResolveCall) : EngineDiscovery :=
  { s with calls := update s.calls c x }

def invalidateEngineDiscovery (s : EngineDiscovery) : EngineDiscovery :=
  { s with expires := none, history := .invalidated :: s.history }

/-- What a call does with the mutex before it waits or discovers. -/
def look (s : EngineDiscovery) (c : Nat) (source : String) : EngineDiscovery :=
  if s.source = source ∧ s.expires.any (s.now < ·) then s.move c (.returned (.ok s.apiURL))
  else
    match s.flight with
    | some leader => s.move c (.waiting source leader)
    | none => { s.move c (.leading source) with flight := some c }

/-- The cache after a discovery. -/
def store (s : EngineDiscovery) (source : String) : DiscoveryResult → EngineDiscovery
  | .ok (value, lifetime) =>
    if s.closed then s
    else { s with
      source, apiURL := value, expires := some (s.now + lifetime)
      history := .discovered source value (s.now + lifetime) :: s.history }
  | .error _ => s

/-- What the leader does with the mutex after its discovery. -/
def finish (s : EngineDiscovery) (c : Nat) (source : String) (result : DiscoveryResult) :
    EngineDiscovery :=
  { s.store source result with
    flights := update s.flights c (some ⟨source, result.map (·.1)⟩)
    flight := none
    calls := update s.calls c (.returned (result.map (·.1))) }

/-- `discoverEngineAPI` runs under the context of the leader: another context does not end it. -/
def possible (s : EngineDiscovery) (c : Nat) : DiscoveryResult → Bool
  | .error (.ofContext d) => d = c && s.ended c
  | _ => true

/-- `resolveEngineAPIURL` from its loop on, and what goes on around it. -/
def step (s : EngineDiscovery) : DiscoveryEvent → Option EngineDiscovery
  | .advance now => if s.now ≤ now then some { s with now } else none
  | .close => some { s with closed := true }
  | .invalidate => some s.invalidateEngineDiscovery
  | .endContext c => some { s with ended := update s.ended c true }
  | .call c source =>
    match s.calls c with
    | .idle => some (s.move c (if s.closed then .returned (.error errClosed) else .checking source))
    | _ => none
  | .check c =>
    match s.calls c with
    | .checking source =>
      some (s.move c (if s.ended c then .returned (.error (.ofContext c)) else .looking source))
    | _ => none
  | .look c =>
    match s.calls c with
    | .looking source => some (s.look c source)
    | _ => none
  | .giveUp c =>
    match s.calls c with
    | .waiting _ _ =>
      if s.ended c then some (s.move c (.returned (.error (.ofContext c)))) else none
    | _ => none
  | .wake c =>
    match s.calls c with
    | .waiting source leader =>
      (s.flights leader).map fun flight =>
        s.move c (if flight.source = source then .returned flight.result else .checking source)
    | _ => none
  | .discovered c result =>
    match s.calls c with
    | .leading source => if s.possible c result then some (s.finish c source result) else none
    | _ => none

/-- No discovery ends with the context of its leader while a call with a live context waits for
the same source. -/
def Undisturbed (s : EngineDiscovery) : DiscoveryEvent → Prop
  | .discovered c (.error (.ofContext _)) => ∀ w source, s.calls c = .leading source →
      s.calls w = .waiting source c → s.ended w = true
  | _ => True

/-- The last entry of the history is in the cache. -/
def Cached (s : EngineDiscovery) : Prop :=
  ∀ expires, s.expires = some expires →
    s.history.head? = some (.discovered s.source s.apiURL expires)

/-- The call that `flight` names is the one that discovers, and flights are done when their
leaders have returned. -/
structure Shared (s : EngineDiscovery) : Prop where
  leader : ∀ c, (∃ source, s.calls c = .leading source) ↔ s.flight = some c
  done : ∀ c flight, s.flights c = some flight → ∃ result, s.calls c = .returned result
  cached : s.Cached

/-- A call with a live context does not fail with another context, now or when it wakes. -/
structure Blameless (s : EngineDiscovery) : Prop where
  waiting : ∀ w source leader d, s.calls w = .waiting source leader →
    s.flights leader = some ⟨source, .error (.ofContext d)⟩ → s.ended w = true
  returned : ∀ w d, d ≠ w → s.calls w = .returned (.error (.ofContext d)) → s.ended w = true

/-- What an event does: it moves one call that neither discovers nor has returned, starts a
discovery, ends one, or leaves calls and flights alone. -/
inductive Acts (s : EngineDiscovery) : DiscoveryEvent → EngineDiscovery → Prop
  | move {e c x} (hold : ∀ source, s.calls c ≠ .leading source)
      (hopen : ∀ result, s.calls c ≠ .returned result) (hnew : ∀ source, x ≠ .leading source)
      (hwaiting : ∀ source leader, x = .waiting source leader → s.flight = some leader)
      (hreturned : ∀ d, d ≠ c → x = .returned (.error (.ofContext d)) → ∃ source leader,
        s.calls c = .waiting source leader ∧
          s.flights leader = some ⟨source, .error (.ofContext d)⟩) : Acts s e (s.move c x)
  | lead {e c source} (hc : s.calls c = .looking source) (hflight : s.flight = none) :
      Acts s e { s.move c (.leading source) with flight := some c }
  | finish {c source result} (hc : s.calls c = .leading source)
      (hpossible : s.possible c result = true) :
      Acts s (.discovered c result) (s.finish c source result)
  | frame {e s'} (hcalls : s'.calls = s.calls) (hflight : s'.flight = s.flight)
      (hflights : s'.flights = s.flights) (hended : ∀ c, s.ended c = true → s'.ended c = true)
      (hcached : s.Cached → s'.Cached) : Acts s e s'

variable {s s' : EngineDiscovery} {c : Nat} {e : DiscoveryEvent} {source : String}
  {result : DiscoveryResult}

theorem look_acts (hc : s.calls c = .looking source) : s.Acts e (s.look c source) := by
  unfold look
  split_ifs
  · exact .move (by simp [hc]) (by simp [hc]) nofun nofun nofun
  · split
    · next leader hflight =>
      refine .move (by simp [hc]) (by simp [hc]) nofun ?_ nofun
      rintro _ _ ⟨⟩
      exact hflight
    · next hflight => exact .lead hc hflight

theorem step_acts (hstep : s.step e = some s') : s.Acts e s' := by
  cases e with
  | advance now =>
    simp only [step, Option.ite_none_right_eq_some, Option.some.injEq] at hstep
    obtain ⟨_, rfl⟩ := hstep
    exact .frame rfl rfl rfl (fun _ => id) id
  | close =>
    cases hstep
    exact .frame rfl rfl rfl (fun _ => id) id
  | invalidate =>
    cases hstep
    exact .frame rfl rfl rfl (fun _ => id) nofun
  | endContext c =>
    cases hstep
    refine .frame rfl rfl rfl (fun d hd => ?_) id
    by_cases hdc : d = c <;> simp [hdc, hd]
  | call | check =>
    simp only [step] at hstep
    split at hstep <;> cases hstep
    next hc =>
    refine .move (by simp [hc]) (by simp [hc]) ?_ ?_ ?_ <;> split_ifs <;> nofun
  | look c =>
    simp only [step] at hstep
    split at hstep <;> cases hstep
    next hc => exact look_acts hc
  | giveUp c =>
    simp only [step] at hstep
    split at hstep
    · next hc =>
      split_ifs at hstep
      cases hstep
      exact .move (by simp [hc]) (by simp [hc]) nofun nofun nofun
    · cases hstep
  | wake c =>
    simp only [step] at hstep
    split at hstep
    · next source leader hc =>
      obtain ⟨flight, hflight, rfl⟩ := Option.map_eq_some_iff.mp hstep
      refine .move (by simp [hc]) (by simp [hc]) ?_ ?_ fun d _ hx => ⟨source, leader, hc, ?_⟩
      · split_ifs <;> nofun
      · split_ifs <;> nofun
      · split_ifs at hx with hsource
        obtain ⟨_, result⟩ := flight
        cases hx
        exact hsource ▸ hflight
    · cases hstep
  | discovered c result =>
    simp only [step] at hstep
    split at hstep
    · next hc =>
      split_ifs at hstep with hpossible
      cases hstep
      exact .finish hc hpossible
    · cases hstep

theorem Cached.store (h : s.Cached) : (s.store source result).Cached := by
  unfold EngineDiscovery.store
  split
  · split_ifs
    · exact h
    · rintro expires ⟨⟩
      rfl
  · exact h

theorem finish_ended : (s.finish c source result).ended = s.ended := by
  unfold finish store
  split
  · split_ifs <;> rfl
  · rfl

/-- A call that has not returned goes on: the flights that are done stay so. -/
theorem Shared.done_update (h : s.Shared) (hopen : ∀ result, s.calls c ≠ .returned result)
    (x : ResolveCall) (d : Nat) (flight : DiscoveryFlight) (hd : s.flights d = some flight) :
    ∃ result, update s.calls c x d = .returned result := by
  obtain ⟨result, hresult⟩ := h.done d flight hd
  have hdc : d ≠ c := fun heq => hopen result (heq ▸ hresult)
  exact ⟨result, (update_of_ne hdc ..).trans hresult⟩

theorem Shared.step (h : s.Shared) (hstep : s.step e = some s') : s'.Shared := by
  cases step_acts hstep with
  | @move _ c x hold hopen hnew =>
    refine ⟨fun d => ?_, h.done_update hopen x, h.cached⟩
    refine Iff.trans ?_ (h.leader d)
    by_cases hdc : d = c
    · subst hdc
      simp [move, hnew, hold]
    · simp [move, hdc]
  | @lead _ c source hc hflight =>
    refine ⟨fun d => ?_, h.done_update (by simp [hc]) _, h.cached⟩
    by_cases hdc : d = c
    · subst hdc
      simp [move]
    · simp [move, hdc, h.leader, hflight, Ne.symm hdc]
  | @finish c source result hc =>
    have hflight := (h.leader c).mp ⟨source, hc⟩
    refine ⟨fun d => ?_, fun d flight hd => ?_, h.cached.store⟩ <;> by_cases hdc : d = c
    · subst hdc
      simp [finish]
    · simp [finish, hdc, h.leader, hflight, Ne.symm hdc]
    · subst hdc
      exact ⟨_, update_self ..⟩
    · simp only [finish, update_of_ne hdc] at hd ⊢
      exact h.done d flight hd
  | frame hcalls hflight hflights _ hcached =>
    refine ⟨?_, ?_, hcached h.cached⟩
    · rw [hcalls, hflight]
      exact h.leader
    · rw [hcalls, hflights]
      exact h.done

theorem Blameless.step (h : s.Blameless) (hshared : s.Shared) (hundisturbed : s.Undisturbed e)
    (hstep : s.step e = some s') : s'.Blameless := by
  cases step_acts hstep with
  | @move _ c x hold hopen hnew hwaiting hreturned =>
    refine ⟨fun w source leader d hw hdone => ?_, fun w d hne hw => ?_⟩ <;>
      by_cases hwc : w = c
    · subst hwc
      have hflight := hwaiting source leader (by simpa [move] using hw)
      obtain ⟨_, hleading⟩ := (hshared.leader leader).mpr hflight
      obtain ⟨_, hresult⟩ := hshared.done leader _ hdone
      exact nomatch hleading.symm.trans hresult
    · exact h.waiting w source leader d (by simpa [move, hwc] using hw) hdone
    · subst hwc
      obtain ⟨source, leader, hw, hdone⟩ := hreturned d hne (by simpa [move] using hw)
      exact h.waiting w source leader d hw hdone
    · exact h.returned w d hne (by simpa [move, hwc] using hw)
  | @lead _ c source hc =>
    refine ⟨fun w source leader d hw hdone => ?_, fun w d hne hw => ?_⟩ <;>
      have hwc : w ≠ c := by
        rintro rfl
        simp [move] at hw
    · exact h.waiting w source leader d (by simpa [move, hwc] using hw) hdone
    · exact h.returned w d hne (by simpa [move, hwc] using hw)
  | @finish c source result hc hpossible =>
    have hresult : ∀ {d}, result.map (·.1) = .error (.ofContext d) →
        result = .error (.ofContext d) := by
      intro d hd
      cases result <;> simp_all [Except.map]
    refine ⟨fun w source' leader d hw hdone => ?_, fun w d hne hw => ?_⟩ <;>
      rw [finish_ended] <;> by_cases hwc : w = c
    · simp [finish, hwc] at hw
    · simp only [finish, update_of_ne hwc] at hw
      by_cases hleader : leader = c
      · subst hleader
        simp only [finish, update_self, Option.some.injEq, DiscoveryFlight.mk.injEq] at hdone
        obtain ⟨rfl, hdone⟩ := hdone
        cases hresult hdone
        exact hundisturbed w source hc hw
      · simp only [finish, update_of_ne hleader] at hdone
        exact h.waiting w source' leader d hw hdone
    · subst hwc
      simp only [finish, update_self, ResolveCall.returned.injEq] at hw
      cases hresult hw
      simp [possible, hne] at hpossible
    · simp only [finish, update_of_ne hwc] at hw
      exact h.returned w d hne hw
  | frame hcalls _ hflights hended =>
    refine ⟨fun w source leader d hw hdone => ?_, fun w d hne hw => ?_⟩
    · exact hended w (h.waiting w source leader d (hcalls ▸ hw) (hflights ▸ hdone))
    · exact hended w (h.returned w d hne (hcalls ▸ hw))

/-- **Discovery is shared.** In every run at most one call discovers, and a URL from the cache
is the last one discovered, for the source of the call and before it expires. In every
undisturbed run a call that fails with the context of another call has lost its own. -/
theorem resolveEngineAPIURL_shared (s : EngineDiscovery) : (Steps step (fun _ _ => True) {} s →
      (∀ c d source source', s.calls c = .leading source → s.calls d = .leading source' → c = d) ∧
      ∀ c source s' url, s.calls c = .looking source → s.step (.look c) = some s' →
        s'.calls c = .returned (.ok url) → ∃ expires, s.now < expires ∧
          s.history.head? = some (.discovered source url expires)) ∧ (Steps step Undisturbed {} s →
      ∀ w d, d ≠ w → s.calls w = .returned (.error (.ofContext d)) → s.ended w = true) := by
  have hstart : Shared {} := ⟨by simp, nofun, nofun⟩
  refine ⟨fun h => ?_, fun h => ?_⟩
  · have hshared : s.Shared := h.invariant hstart fun h _ => h.step
    refine ⟨fun c d source source' hc hd => ?_, fun c source s' url hc hstep hurl => ?_⟩
    · exact Option.some.inj (((hshared.leader c).mp ⟨_, hc⟩).symm.trans
        ((hshared.leader d).mp ⟨_, hd⟩))
    · simp only [step, hc, Option.some.injEq] at hstep
      subst hstep
      unfold look at hurl
      split_ifs at hurl with hcached
      · obtain ⟨rfl, hnow⟩ := hcached
        obtain ⟨expires, hexpires, hnow⟩ := (Option.any_eq_true ..).mp hnow
        simp only [move, update_self, ResolveCall.returned.injEq, Except.ok.injEq] at hurl
        exact ⟨expires, by simpa using hnow, hurl ▸ hshared.cached expires hexpires⟩
      · split at hurl <;> simp [move] at hurl
  · have hboth : s.Shared ∧ s.Blameless := h.invariant ⟨hstart, nofun, nofun⟩
      fun h hundisturbed hstep => ⟨h.1.step hstep, h.2.step h.1 hundisturbed hstep⟩
    exact hboth.2.returned

/-- A call that waits fails with the context of the call it waits for. -/
theorem follower_fails_with_leader : ∃ s, Steps step (fun _ _ => True) {} s ∧
    s.calls 1 = .returned (.error (.ofContext 0)) ∧ s.ended 1 = false :=
  ⟨_, (Steps.start : Steps step (fun _ _ => True) {} _)
    |>.next (.call 0 "https://p.example/api") trivial rfl
    |>.next (.check 0) trivial rfl
    |>.next (.look 0) trivial rfl
    |>.next (.call 1 "https://p.example/api") trivial rfl
    |>.next (.check 1) trivial rfl
    |>.next (.look 1) trivial rfl
    |>.next (.endContext 0) trivial rfl
    |>.next (.discovered 0 (.error (.ofContext 0))) trivial rfl
    |>.next (.wake 1) trivial rfl, rfl, rfl⟩

end EngineDiscovery

end Rstream.Http
