import Mathlib.Data.List.Nodup
import Rstream.Channel.ProxyDelivery

/-!
# Ownership of proxy connections

Every connection is in one place: not sent yet, in the queue, in the hands of an
`Accept` or of a cleanup, returned to the application or dropped. The place and the
progress of its delivery determine whether the SDK may close it. The invariant is
kept by every step except the close of a tunnel whose delivered connection has been
returned before its delivery looked at the closed flag again.
-/

namespace Rstream.Channel

open Rstream.Core Program Tunnel Function

variable {Conn : Type} [DecidableEq Conn]

section Invariant

/-- The place of a connection. -/
inductive Place
  | nowhere
  | queue
  | acceptor (n : Nat)
  | cleanup (k : Nat)
  | returned
  | dropped
  deriving DecidableEq

/-- What the place of a connection and its delivery say about each other. -/
structure Fits (tunnelClosed : Bool) (place : Place) (delivery : Delivery) (shut : Bool) :
    Prop where
  fresh : delivery = .fresh → place = .nowhere ∧ shut = false
  sent : place = .nowhere → delivery = .fresh ∨ delivery = .failed
  returned : place = .returned →
    shut = false ∧ (delivery = .delivered ∨ delivery = .pending ∧ tunnelClosed = false)
  waiting : tunnelClosed = false → (place = .queue ∨ ∃ n, place = .acceptor n) →
    shut = false ∧ (delivery = .pending ∨ delivery = .delivered)
  late : tunnelClosed = true → place = .queue → delivery ≠ .delivered
  rejected : delivery = .rejected → tunnelClosed = true
  failed : delivery = .failed → shut = true
  dropped : place = .dropped → shut = true

/-- The state of the tunnel agrees with the place of a connection. -/
structure Located (place : Place) (s : Tunnel Conn) (c : Conn) : Prop where
  fits : Fits s.closed place (s.delivery c) (s.sdkClosed c)
  returned : s.returned c = if place = .returned then 1 else 0
  queue : c ∈ s.conns ↔ place = .queue
  accepting : ∀ n, s.accepting n = some c ↔ place = .acceptor n
  cleaning : ∀ k, c ∈ s.cleaning k ↔ place = .cleanup k

/-- Every connection is in one place. -/
structure Placed (place : Conn → Place) (s : Tunnel Conn) : Prop where
  located : ∀ c, Located (place c) s c
  queue_nodup : s.conns.Nodup
  cleaning_nodup : ∀ k, (s.cleaning k).Nodup

/-- The tunnel does not become closed while a returned connection is still being delivered. -/
def Calm (s s' : Tunnel Conn) : Prop :=
  s.closed = false → s'.closed = true → ∀ c, s.returned c ≠ 0 → s.delivery c ≠ .pending

/-- What a thread relies on: its own variables and that a closed tunnel stays closed. -/
def tunnelRely : Thread Conn → Tunnel Conn → Tunnel Conn → Prop
  | .deliver c, s, s' => s'.delivery c = s.delivery c ∧ (s.closed = true → s'.closed = true)
  | .accept n, s, s' => s'.accepting n = s.accepting n ∧ (s.closed = true → s'.closed = true)
  | .close k, s, s' => s'.cleaning k = s.cleaning k ∧ (s.closed = true → s'.closed = true)

/-- The contract of the threads of a tunnel. -/
def tunnelContract (Conn : Type) [DecidableEq Conn] : Contract (Thread Conn) (Tunnel Conn) where
  allow := Calm
  inv s := ∃ place, Placed place s
  rely := tunnelRely
  rely_refl t s := by cases t <;> exact ⟨rfl, id⟩
  rely_trans := by
    intro t s₁ s₂ s₃ h h'
    cases t <;> exact ⟨h'.1.trans h.1, h'.2 ∘ h.2⟩

end Invariant

section Fits

variable {tunnelClosed shut : Bool} {place : Place} {d : Delivery} {n k : Nat}

theorem Fits.take (h : Fits tunnelClosed .queue d shut) : Fits tunnelClosed (.acceptor n) d shut := by
  constructor <;> grind [cases Fits]

theorem Fits.give (h : Fits false (.acceptor n) d shut) : Fits false .returned d shut := by
  constructor <;> grind [cases Fits]

theorem Fits.drop (h : Fits tunnelClosed place d shut) (hsent : place ≠ .nowhere) :
    Fits tunnelClosed .dropped d true := by
  constructor <;> grind [cases Fits]

theorem Fits.drain (h : Fits false .queue d shut) : Fits true (.cleanup k) d shut := by
  constructor <;> grind [cases Fits]

/-- A tunnel may close around a connection outside its queue unless it was returned while it is
still being delivered. -/
theorem Fits.close (h : Fits false place d shut) (hqueue : place ≠ .queue)
    (hcalm : place = .returned → d ≠ .pending) : Fits true place d shut := by
  constructor <;> grind [cases Fits]

theorem Fits.recheck (h : Fits tunnelClosed place .pending shut) :
    Fits tunnelClosed place (if tunnelClosed then .rejected else .delivered) shut := by
  cases tunnelClosed <;> constructor <;> grind [cases Fits]

theorem Fits.reject (h : Fits tunnelClosed place .rejected shut) :
    Fits tunnelClosed place .rejected true := by
  constructor <;> grind [cases Fits]

theorem Fits.fail (h : Fits tunnelClosed place d shut) (hd : d = .fresh ∨ d = .rejected) :
    Fits tunnelClosed place .failed true := by
  constructor <;> grind [cases Fits]

end Fits

section Steps

variable {place : Conn → Place} {s s' : Tunnel Conn} {c : Conn} {n k : Nat}

section

variable (h : Placed place s)
include h

/-- One connection moves, all others stay. -/
theorem Placed.move (p : Place) (hself : Located p s' c)
    (hother : ∀ c', c' ≠ c → Located (place c') s c' → Located (place c') s' c')
    (hqueue : s'.conns.Nodup) (hcleaning : ∀ k, (s'.cleaning k).Nodup) :
    Placed (update place c p) s' := by
  refine ⟨fun c' => ?_, hqueue, hcleaning⟩
  by_cases hc : c' = c
  · subst hc
    rwa [update_self]
  · rw [update_of_ne hc]
    exact hother c' hc (h.located c')

/-- A connection changes its delivery or is closed where it is. -/
theorem Placed.proceed {d : Delivery} {shut : Bool} (hfits : Fits s.closed (place c) d shut) :
    Placed place { s with
      delivery := update s.delivery c d
      sdkClosed := update s.sdkClosed c shut } := by
  have hself := h.located c
  rw [← update_eq_self c place]
  refine h.move _ ⟨by simpa using hfits, hself.returned, hself.queue, hself.accepting,
    hself.cleaning⟩ (fun c' hc hl => ⟨?_, hl.returned, hl.queue, hl.accepting, hl.cleaning⟩)
    h.queue_nodup h.cleaning_nodup
  simpa [update_of_ne hc] using hl.fits

/-- A worker puts its connection into the queue. -/
theorem Placed.send (hfresh : s.delivery c = .fresh) :
    Placed (update place c .queue) { s with
      conns := s.conns ++ [c]
      delivery := update s.delivery c .pending } := by
  have hself := h.located c
  obtain ⟨hnowhere, hopen⟩ := hself.fits.fresh hfresh
  rw [hnowhere] at hself
  have hnew : c ∉ s.conns := fun hmem => by simpa using hself.queue.mp hmem
  refine h.move _ ⟨?_, by simpa using hself.returned, by simp, ?_, ?_⟩ (fun c' hc hl =>
    ⟨?_, hl.returned, ?_, hl.accepting, hl.cleaning⟩) ?_ h.cleaning_nodup
  · constructor <;> simp [hopen]
  · exact fun n => by simpa using hself.accepting n
  · exact fun k => by simpa using hself.cleaning k
  · simpa [update_of_ne hc] using hl.fits
  · simpa [hc] using hl.queue
  · exact h.queue_nodup.append (List.nodup_singleton c) (by simpa using hnew)

/-- `Accept` takes a connection from the queue. -/
theorem Placed.take {rest : List Conn} (hconns : s.conns = c :: rest)
    (hidle : s.accepting n = none) :
    Placed (update place c (.acceptor n)) { s with
      conns := rest
      accepting := update s.accepting n (some c) } := by
  have hself := h.located c
  have hplace : place c = .queue := hself.queue.mp (by simp [hconns])
  rw [hplace] at hself
  have hnodup := h.queue_nodup
  rw [hconns, List.nodup_cons] at hnodup
  refine h.move _ ⟨hself.fits.take, by simpa using hself.returned, by simpa using hnodup.1,
    fun m => ?_, fun k => by simpa using hself.cleaning k⟩
    (fun c' hc hl => ⟨hl.fits, hl.returned, ?_, fun m => ?_, hl.cleaning⟩) hnodup.2
    h.cleaning_nodup
  · by_cases hm : m = n
    · simp [hm]
    · simpa [update_of_ne hm, Ne.symm hm] using hself.accepting m
  · rw [← hl.queue, hconns]
    simp [hc]
  · by_cases hm : m = n
    · subst hm
      rw [← hl.accepting, hidle]
      simpa using Ne.symm hc
    · simpa [update_of_ne hm] using hl.accepting m

/-- The acceptor of a connection lets go of it. -/
theorem Placed.accepting_none (hheld : s.accepting n = some c) (c' : Conn)
    (p : Place) (hp : c' = c → ∀ m, p ≠ .acceptor m) (hl : c' ≠ c → p = place c') (m : Nat) :
    update s.accepting n none m = some c' ↔ p = .acceptor m := by
  by_cases hc : c' = c
  · subst hc
    refine iff_of_false ?_ (hp rfl m)
    by_cases hm : m = n
    · simp [hm]
    · rw [update_of_ne hm, (h.located c').accepting, (h.located c').accepting n |>.mp hheld]
      simpa using Ne.symm hm
  · rw [hl hc, ← (h.located c').accepting]
    by_cases hm : m = n
    · subst hm
      simp [hheld, Ne.symm hc]
    · rw [update_of_ne hm]

/-- `Accept` returns the connection it has taken. -/
theorem Placed.give (hheld : s.accepting n = some c) (hopen : s.closed = false) :
    Placed (update place c .returned) { s with
      accepting := update s.accepting n none
      returned := update s.returned c (s.returned c + 1) } := by
  have hself := h.located c
  have hplace : place c = .acceptor n := (hself.accepting n).mp hheld
  rw [hplace] at hself
  refine h.move _ ⟨?_, by simp [hself.returned], by simpa using hself.queue,
    fun m => h.accepting_none hheld c .returned (by simp) (by simp) m,
    fun k => by simpa using hself.cleaning k⟩
    (fun c' hc hl => ⟨hl.fits, ?_, hl.queue,
      fun m => h.accepting_none hheld c' _ (absurd · hc) (fun _ => rfl) m, hl.cleaning⟩)
    h.queue_nodup h.cleaning_nodup
  · have hfits := hself.fits
    rw [hopen] at hfits ⊢
    exact hfits.give
  · simpa [update_of_ne hc] using hl.returned

/-- `Accept` drops the connection it has taken. -/
theorem Placed.drop (hheld : s.accepting n = some c) :
    Placed (update place c .dropped) { s.closeConn c with
      accepting := update s.accepting n none } := by
  have hself := h.located c
  have hplace : place c = .acceptor n := (hself.accepting n).mp hheld
  rw [hplace] at hself
  refine h.move _ ⟨?_, by simpa [closeConn] using hself.returned,
    by simpa [closeConn] using hself.queue,
    fun m => h.accepting_none hheld c .dropped (by simp) (by simp) m,
    fun k => by simpa [closeConn] using hself.cleaning k⟩
    (fun c' hc hl => ⟨?_, hl.returned, hl.queue,
      fun m => h.accepting_none hheld c' _ (absurd · hc) (fun _ => rfl) m, hl.cleaning⟩)
    h.queue_nodup h.cleaning_nodup
  · simpa [closeConn] using hself.fits.drop (by simp)
  · simpa [closeConn, update_of_ne hc] using hl.fits

/-- A cleanup closes the next connection. -/
theorem Placed.clean {rest : List Conn} (hnext : s.cleaning k = c :: rest) :
    Placed (update place c .dropped) { s.closeConn c with
      cleaning := update s.cleaning k rest } := by
  have hself := h.located c
  have hplace : place c = .cleanup k := (hself.cleaning k).mp (by simp [hnext])
  rw [hplace] at hself
  have hnodup := h.cleaning_nodup k
  rw [hnext, List.nodup_cons] at hnodup
  refine h.move _ ⟨?_, by simpa [closeConn] using hself.returned,
    by simpa [closeConn] using hself.queue,
    fun m => by simpa [closeConn] using hself.accepting m, fun j => ?_⟩ (fun c' hc hl => ⟨?_, hl.returned, hl.queue, hl.accepting, fun j => ?_⟩)
    h.queue_nodup fun j => ?_
  · simpa [closeConn] using hself.fits.drop (by simp)
  · by_cases hj : j = k
    · subst hj
      simpa using hnodup.1
    · simpa [update_of_ne hj, Ne.symm hj] using hself.cleaning j
  · simpa [closeConn, update_of_ne hc] using hl.fits
  · by_cases hj : j = k
    · subst hj
      rw [← hl.cleaning, hnext]
      simp [hc]
    · simpa [update_of_ne hj] using hl.cleaning j
  · by_cases hj : j = k
    · subst hj
      simpa using hnodup.2
    · simpa [update_of_ne hj] using h.cleaning_nodup j

end

omit [DecidableEq Conn] in
/-- The tunnel is marked closed and its queue goes to a cleanup. -/
theorem Placed.shut (h : Placed place s) (err : Option String) (hopen : s.closed = false)
    (hidle : s.cleaning k = []) (hcalm : ∀ c, s.returned c ≠ 0 → s.delivery c ≠ .pending) :
    Placed (fun c => if place c = .queue then .cleanup k else place c) { s with
      closed := true
      err := err
      conns := []
      cleaning := update s.cleaning k s.conns } := by
  refine ⟨fun c => ?_, List.nodup_nil, fun j => ?_⟩
  · have hl := h.located c
    have hfits := hl.fits
    rw [hopen] at hfits
    by_cases hqueue : place c = .queue
    · rw [hqueue] at hfits hl
      simp only [hqueue, if_true]
      refine ⟨hfits.drain, by simpa using hl.returned, by simp, fun m => ?_, fun j => ?_⟩
      · simpa using hl.accepting m
      · by_cases hj : j = k
        · subst hj
          simpa using hl.queue
        · simpa [update_of_ne hj, Ne.symm hj] using hl.cleaning j
    · simp only [hqueue, if_false]
      refine ⟨hfits.close hqueue ?_, hl.returned, by simpa using hqueue, hl.accepting,
        fun j => ?_⟩
      · intro hreturned
        exact hcalm c (by simp [hl.returned, hreturned])
      · by_cases hj : j = k
        · subst hj
          have hnone := hl.cleaning j
          rw [hidle] at hnone
          simpa [hl.queue, hqueue] using hnone
        · simpa [update_of_ne hj] using hl.cleaning j
  · by_cases hj : j = k
    · subst hj
      simpa using h.queue_nodup
    · simpa [update_of_ne hj] using h.cleaning_nodup j

end Steps

section Threads

variable {s s' : Tunnel Conn} {c : Conn} {n k : Nat}

/-- An action keeps the contract if it keeps the invariant and the variables of other threads. -/
theorem keeps_of {t : Thread Conn} (hinv : (tunnelContract Conn).inv s')
    (hdelivery : ∀ c, Thread.deliver c ≠ t → s'.delivery c = s.delivery c)
    (haccepting : ∀ n, Thread.accept n ≠ t → s'.accepting n = s.accepting n)
    (hcleaning : ∀ k, Thread.close k ≠ t → s'.cleaning k = s.cleaning k)
    (hclosed : s.closed = true → s'.closed = true) : (tunnelContract Conn).Keeps t s s' := by
  refine ⟨hinv, fun u hu => ?_⟩
  cases u with
  | deliver c => exact ⟨hdelivery c hu, hclosed⟩
  | accept n => exact ⟨haccepting n hu, hclosed⟩
  | close k => exact ⟨hcleaning k hu, hclosed⟩

theorem stable_delivery (P : Delivery → Prop) :
    (tunnelContract Conn).Stable (.deliver c) fun s => P (s.delivery c) := by
  intro s s' hrely _ h
  rwa [hrely.1]

theorem stable_accepting (P : Option Conn → Prop) :
    (tunnelContract Conn).Stable (.accept n) fun s => P (s.accepting n) := by
  intro s s' hrely _ h
  rwa [hrely.1]

theorem stable_cleaning (P : List Conn → Prop) :
    (tunnelContract Conn).Stable (.close k) fun s => P (s.cleaning k) := by
  intro s s' hrely _ h
  rwa [hrely.1]

/-- A delivery changes only the variables of its worker. -/
theorem keeps_delivery {s' : Tunnel Conn} (hinv : (tunnelContract Conn).inv s')
    (hdelivery : ∀ c', c' ≠ c → s'.delivery c' = s.delivery c')
    (haccepting : s'.accepting = s.accepting) (hcleaning : s'.cleaning = s.cleaning)
    (hclosed : s'.closed = s.closed) : (tunnelContract Conn).Keeps (.deliver c) s s' :=
  keeps_of hinv (fun c' h => hdelivery c' fun hc => h (by rw [hc])) (fun n _ => by rw [haccepting])
    (fun k _ => by rw [hcleaning]) (fun h => hclosed.trans h)

/-- A delivery fails only while the connection is its own or rejected. -/
theorem deliverProxyConnection_triple (c : Conn) :
    (tunnelContract Conn).Triple (.deliver c) (fun s => s.delivery c = .fresh)
      (Prog.deliverProxyConnection c)
      fun result s => result ≠ none → s.delivery c = .fresh ∨ s.delivery c = .rejected := by
  refine .bind (Q := fun _ s => s.delivery c = .fresh)
    (.inspect (stable_delivery (· = .fresh)) fun s _ h => h) fun early => ?_
  cases early with
  | true => exact .pure fun s h _ => .inl h
  | false =>
    refine .bind (Q := fun result s => s.delivery c = if result = none then .pending else .fresh)
      (.choose (stable_delivery (· = .fresh)) ?_) fun result => ?_
    · rintro s choice result s' ⟨place, hplaced⟩ hfresh hstep _
      cases choice with
      | send =>
        simp only [Prog.deliverSelect] at hstep
        split_ifs at hstep
        obtain ⟨rfl, rfl⟩ := Prod.mk.inj (Option.some.inj hstep)
        refine ⟨keeps_delivery ⟨_, hplaced.send hfresh⟩ (fun c' hc => ?_) rfl rfl rfl, ?_⟩
        · simp [update_of_ne hc]
        · simp
      | tunnelClosed =>
        simp only [Prog.deliverSelect] at hstep
        split_ifs at hstep
        obtain ⟨rfl, rfl⟩ := Prod.mk.inj (Option.some.inj hstep)
        exact ⟨.refl ⟨place, hplaced⟩, by simpa using hfresh⟩
      | ctxDone | timeout =>
        obtain ⟨rfl, rfl⟩ := Prod.mk.inj (Option.some.inj hstep)
        exact ⟨.refl ⟨place, hplaced⟩, by simpa using hfresh⟩
    · cases result with
      | some err => exact .pure fun s h _ => .inl (by simpa using h)
      | none =>
        refine .bind (Q := fun closed s => closed = true → s.delivery c = .rejected)
          (.atomic (stable_delivery (· = .pending)) ?_) fun closed => ?_
        · rintro s ⟨place, hplaced⟩ hpending _
          have hfits := (hplaced.located c).fits
          rw [hpending] at hfits
          have hnext := hplaced.proceed hfits.recheck
          rw [update_eq_self] at hnext
          refine ⟨keeps_delivery ⟨_, hnext⟩ (fun c' hc => ?_) rfl rfl rfl, fun hclosed => ?_⟩
          · simp [Prog.deliverRecheck, update_of_ne hc]
          · simp only [Prog.deliverRecheck] at hclosed ⊢
            simp [hclosed]
        · cases closed with
          | false => exact .pure fun s _ h => absurd rfl h
          | true =>
            refine .bind (Q := fun _ s => s.delivery c = .rejected)
              (.atomic (Contract.Stable.imp (stable_delivery (· = .rejected))) ?_)
              fun _ => .pure fun s h _ => .inr h
            rintro s ⟨place, hplaced⟩ hrejected _
            have hfits := (hplaced.located c).fits
            rw [hrejected rfl] at hfits
            have hnext := hplaced.proceed hfits.reject
            rw [← hrejected rfl, update_eq_self] at hnext
            exact ⟨keeps_delivery ⟨_, hnext⟩ (fun _ _ => rfl) rfl rfl rfl, hrejected rfl⟩

theorem processProxyConnectionRequest_triple (c : Conn) :
    (tunnelContract Conn).Triple (.deliver c) (fun s => s.delivery c = .fresh)
      (Prog.processProxyConnectionRequest c) fun _ _ => True := by
  refine .bind (deliverProxyConnection_triple c) fun result => ?_
  cases result with
  | none => exact .pure fun _ _ => trivial
  | some err =>
    refine .atomic (Contract.Stable.imp
      (stable_delivery fun d => d = .fresh ∨ d = .rejected)) ?_
    rintro s ⟨place, hplaced⟩ hown _
    have hnext := hplaced.proceed ((hplaced.located c).fits.fail (hown (by simp)))
    refine ⟨keeps_delivery ⟨_, hnext⟩ (fun c' hc => ?_) rfl rfl rfl, trivial⟩
    simp [update_of_ne hc]

/-- An acceptor changes only its own variable. -/
theorem keeps_accepting {s' : Tunnel Conn} (hinv : (tunnelContract Conn).inv s')
    (haccepting : ∀ m, m ≠ n → s'.accepting m = s.accepting m)
    (hdelivery : s'.delivery = s.delivery) (hcleaning : s'.cleaning = s.cleaning)
    (hclosed : s'.closed = s.closed) : (tunnelContract Conn).Keeps (.accept n) s s' :=
  keeps_of hinv (fun c _ => by rw [hdelivery])
    (fun m h => haccepting m fun hm => h (by rw [hm])) (fun k _ => by rw [hcleaning])
    (fun h => hclosed.trans h)

/-- A call of `Accept` ends with empty hands. -/
theorem accept_triple (n : Nat) :
    (tunnelContract Conn).Triple (.accept n) (fun s => s.accepting n = none) (Prog.accept n)
      fun _ s => s.accepting n = none := by
  refine .bind (Q := fun _ s => s.accepting n = none)
    (.inspect (stable_accepting (· = none)) fun s _ h => h) fun early => ?_
  cases early with
  | some err => exact .pure fun s h => h
  | none =>
    refine .bind (Q := fun taken s => s.accepting n = taken)
      (.choose (stable_accepting (· = none)) ?_) fun taken => ?_
    · rintro s receive taken s' ⟨place, hplaced⟩ hidle hstep _
      unfold Prog.acceptSelect at hstep
      split at hstep
      · split at hstep
        · cases hstep
        · next c rest hconns =>
          obtain ⟨rfl, rfl⟩ := Prod.mk.inj (Option.some.inj hstep)
          refine ⟨keeps_accepting ⟨_, hplaced.take hconns hidle⟩ (fun m hm => ?_) rfl rfl rfl, ?_⟩
          · simp [update_of_ne hm]
          · simp
      · split at hstep
        · obtain ⟨rfl, rfl⟩ := Prod.mk.inj (Option.some.inj hstep)
          exact ⟨.refl ⟨place, hplaced⟩, hidle⟩
        · cases hstep
    · cases taken with
      | none =>
        exact .bind (Q := fun _ s => s.accepting n = none)
          (.inspect (stable_accepting (· = none)) fun s _ h => h) fun _ => .pure fun s h => h
      | some c =>
        refine .bind (Q := fun err s => s.accepting n = if err = none then none else some c)
          (.atomic (stable_accepting (· = some c)) ?_) fun err => ?_
        · rintro s ⟨place, hplaced⟩ hheld _
          unfold Prog.acceptRecheck
          split
          · exact ⟨.refl ⟨place, hplaced⟩, by simpa using hheld⟩
          · next hopen =>
            have hclosed : s.closed = false := by simpa using hopen
            refine ⟨keeps_accepting ⟨_, hplaced.give hheld hclosed⟩ (fun m hm => ?_) rfl rfl rfl,
              ?_⟩
            · simp [update_of_ne hm]
            · simp
        · cases err with
          | none => exact .pure fun s h => h
          | some err =>
            refine .bind (Q := fun _ s => s.accepting n = none)
              (.atomic (stable_accepting (· = some c)) ?_) fun _ => .pure fun s h => h
            rintro s ⟨place, hplaced⟩ hheld _
            refine ⟨keeps_accepting ⟨_, hplaced.drop hheld⟩ (fun m hm => ?_) rfl rfl rfl, ?_⟩
            · simp [update_of_ne hm]
            · simp

theorem cleanup_triple (k : Nat) (conns : List Conn) :
    (tunnelContract Conn).Triple (.close k) (fun s => s.cleaning k = conns)
      (Prog.cleanup k conns) fun _ s => s.cleaning k = [] := by
  induction conns with
  | nil => exact .pure fun s h => h
  | cons c rest ih =>
    refine .bind (Q := fun _ s => s.cleaning k = rest)
      (.atomic (stable_cleaning (· = c :: rest)) ?_) fun _ => ih
    rintro s ⟨place, hplaced⟩ hnext _
    refine ⟨keeps_of ⟨_, hplaced.clean hnext⟩ (fun _ _ => rfl) (fun _ _ => rfl) (fun j hj => ?_)
      id, by simp⟩
    exact update_of_ne (fun h : j = k => hj (by rw [h])) ..

theorem closeTunnel_triple (k : Nat) :
    (tunnelContract Conn).Triple (.close k) (fun s => s.cleaning k = []) (Prog.closeTunnel k)
      fun _ s => s.cleaning k = [] := by
  refine .bind (Q := fun _ s => s.cleaning k = [])
    (.receive (stable_cleaning (· = [])) fun s _ _ h => h) fun cause => ?_
  cases cause with
  | request =>
    refine .atomic (stable_cleaning (· = [])) ?_
    rintro s ⟨place, hplaced⟩ hidle _
    split_ifs
    · exact ⟨.refl ⟨place, hplaced⟩, hidle⟩
    · have hsame : Placed place { s with closing := true } :=
        ⟨fun c => let hl := hplaced.located c
          ⟨hl.fits, hl.returned, hl.queue, hl.accepting, hl.cleaning⟩,
          hplaced.queue_nodup, hplaced.cleaning_nodup⟩
      exact ⟨keeps_of ⟨place, hsame⟩ (fun _ _ => rfl) (fun _ _ => rfl) (fun _ _ => rfl) id, hidle⟩
  | complete err =>
    refine .bind (Q := fun conns s => s.cleaning k = conns)
      (.atomic (stable_cleaning (· = [])) ?_) (cleanup_triple k)
    rintro s ⟨place, hplaced⟩ hidle hcalm
    simp only [onErrorLocked] at hcalm ⊢
    cases hclosed : s.closed with
    | true =>
      simp only [if_true]
      exact ⟨.refl ⟨place, hplaced⟩, hidle⟩
    | false =>
      simp only [hclosed, Bool.false_eq_true, if_false] at hcalm ⊢
      refine ⟨keeps_of ⟨_, hplaced.shut err hclosed hidle (hcalm hclosed rfl)⟩ (fun _ _ => rfl)
        (fun _ _ => rfl) (fun j hj => ?_) (fun h => h ▸ rfl), by simp⟩
      exact update_of_ne (fun h : j = k => hj (by rw [h])) ..

end Threads

section Runs

/-- What a thread finds at the start of its body. -/
def tunnelLoop : Thread Conn → Tunnel Conn → Prop
  | .deliver c, s => s.delivery c = .fresh
  | .accept n, s => s.accepting n = none
  | .close k, s => s.cleaning k = []

omit [DecidableEq Conn] in
theorem placed_opened : Placed (fun _ => .nowhere) (opened : Tunnel Conn) := by
  refine ⟨fun c => ⟨?_, by simp [opened], by simp [opened],
    by simp [opened], by simp [opened]⟩, List.nodup_nil, fun _ => List.nodup_nil⟩
  constructor <;> simp [opened]

theorem tunnelSystem_sound : (tunnelContract Conn).Sound (tunnelSystem Conn) tunnelLoop opened where
  inv_start := ⟨_, placed_opened⟩
  loop_start t := by cases t <;> rfl
  loop_stable t := by
    cases t with
    | deliver c => exact stable_delivery (· = .fresh)
    | accept n => exact stable_accepting (· = none)
    | close k => exact stable_cleaning (· = [])
  body t := by
    cases t with
    | deliver c =>
      exact .bind (processProxyConnectionRequest_triple c) fun _ => .pure fun _ _ h => by simp at h
    | accept n => exact .bind (accept_triple n) fun _ => .pure fun _ h _ => h
    | close k => exact .bind (closeTunnel_triple k) fun _ => .pure fun _ h _ => h
  abort _ h := by cases h

/-- No thread of a tunnel holds a connection. -/
def Tunnel.Quiet (s : Tunnel Conn) : Prop :=
  (∀ n, s.accepting n = none) ∧ (∀ k, s.cleaning k = []) ∧
    ∀ c, s.delivery c ≠ .pending ∧ s.delivery c ≠ .rejected

/-- One `Accept` returned the connection, its delivery succeeded and the SDK left it open. -/
def Tunnel.Handed (s : Tunnel Conn) (c : Conn) : Prop :=
  s.returned c = 1 ∧ s.delivery c = .delivered ∧ s.sdkClosed c = false

/-- The SDK closed the connection and no `Accept` returned it. -/
def Tunnel.Discarded (s : Tunnel Conn) (c : Conn) : Prop :=
  s.returned c = 0 ∧ s.sdkClosed c = true

/-- The connection waits in the queue of an open tunnel. -/
def Tunnel.Waits (s : Tunnel Conn) (c : Conn) : Prop :=
  s.closed = false ∧ c ∈ s.conns ∧ s.delivery c = .delivered ∧ s.sdkClosed c = false

/-- Every connection has one owner. -/
structure Tunnel.Owned (s : Tunnel Conn) : Prop where
  once : ∀ c, s.returned c ≤ 1
  /-- The SDK never closes a returned connection and its delivery does not fail. -/
  kept : ∀ c, s.returned c = 1 →
    s.sdkClosed c = false ∧ s.delivery c ≠ .rejected ∧ s.delivery c ≠ .failed
  /-- In a closed tunnel, a connection in the queue is closed or about to be closed. -/
  late : s.closed = true → ∀ c ∈ s.conns,
    s.sdkClosed c = true ∨ s.delivery c = .pending ∨ s.delivery c = .rejected
  /-- Once the threads are done, every connection has come to its end. -/
  settled : s.Quiet → ∀ c, s.delivery c ≠ .fresh → s.Handed c ∨ s.Discarded c ∨ s.Waits c

omit [DecidableEq Conn] in
/-- A returned connection is in the hands of the application. -/
theorem Located.returned_of_one {place : Place} {s : Tunnel Conn} {c : Conn}
    (h : Located place s c) (hone : s.returned c = 1) : place = .returned := by
  by_contra hne
  rw [h.returned, if_neg hne] at hone
  exact absurd hone (by decide)

omit [DecidableEq Conn] in
/-- In the queue of a closed tunnel, a connection is closed or about to be closed. -/
theorem Located.late {place : Place} {s : Tunnel Conn} {c : Conn} (h : Located place s c)
    (hclosed : s.closed = true) (hc : c ∈ s.conns) :
    s.sdkClosed c = true ∨ s.delivery c = .pending ∨ s.delivery c = .rejected := by
  have hplace := h.queue.mp hc
  have hlate := h.fits.late hclosed hplace
  cases hd : s.delivery c with
  | fresh => exact absurd ((h.fits.fresh hd).1.symm.trans hplace) (by decide)
  | pending => exact .inr (.inl rfl)
  | delivered => exact absurd hd hlate
  | rejected => exact .inr (.inr rfl)
  | failed => exact .inl (h.fits.failed hd)

omit [DecidableEq Conn] in
/-- Once the threads are done, a connection is handed over, discarded or waiting. -/
theorem Located.settled {place : Place} {s : Tunnel Conn} {c : Conn} (h : Located place s c)
    (hquiet : s.Quiet) (hsent : s.delivery c ≠ .fresh) :
    s.Handed c ∨ s.Discarded c ∨ s.Waits c := by
  obtain ⟨hhands, hclean, hdone⟩ := hquiet
  have hreturned := h.returned
  cases place with
  | nowhere =>
    exact .inr (.inl ⟨hreturned, h.fits.failed ((h.fits.sent rfl).resolve_left hsent)⟩)
  | queue =>
    cases hclosed : s.closed with
    | true =>
      have hlate := h.late hclosed (h.queue.mpr rfl)
      exact .inr (.inl ⟨hreturned, hlate.resolve_right fun hd => hd.elim (hdone c).1 (hdone c).2⟩)
    | false =>
      obtain ⟨hopen, hdelivery⟩ := h.fits.waiting hclosed (.inl rfl)
      exact .inr (.inr ⟨hclosed, h.queue.mpr rfl, hdelivery.resolve_left (hdone c).1, hopen⟩)
  | acceptor n => exact absurd ((h.accepting n).mpr rfl) (by simp [hhands])
  | cleanup k => exact absurd ((h.cleaning k).mpr rfl) (by simp [hclean])
  | returned =>
    obtain ⟨hopen, hdelivery⟩ := h.fits.returned rfl
    exact .inl ⟨hreturned, hdelivery.resolve_right fun hd => (hdone c).1 hd.1, hopen⟩
  | dropped => exact .inr (.inl ⟨hreturned, h.fits.dropped rfl⟩)

omit [DecidableEq Conn] in
theorem Placed.owned {place : Conn → Place} {s : Tunnel Conn} (h : Placed place s) : s.Owned where
  once c := by
    rw [(h.located c).returned]
    split_ifs <;> decide
  kept c hone := by
    have hl := h.located c
    obtain ⟨hopen, hdelivery⟩ := hl.fits.returned (hl.returned_of_one hone)
    refine ⟨hopen, fun hd => ?_, fun hd => ?_⟩ <;> simp [hd] at hdelivery
  late hclosed c hc := (h.located c).late hclosed hc
  settled hquiet c hsent := (h.located c).settled hquiet hsent

/-- **Ownership of proxy connections.** In every run in which the tunnel does not become closed
between the return of a connection by `Accept` and the second look of its delivery at the closed
flag, every connection has one owner. -/
theorem proxyConnection_owned {config : Config (Thread Conn) (Tunnel Conn)}
    (h : (tunnelSystem Conn).Reach Calm opened config) : config.state.Owned := by
  obtain ⟨place, hplaced⟩ := tunnelSystem_sound.inv_of_reach h
  exact hplaced.owned

/-- A connection that is delivered and returned outlives its tunnel. -/
theorem proxyConnection_owned_sample :
    ∃ config, (tunnelSystem Unit).Reach Calm opened config ∧
      config.state.closed = true ∧ config.state.returned () = 1 ∧ config.state.Owned := by
  have hstart : (tunnelSystem Unit).Reach Calm opened _ := .start
  have hdelivered := hstart.solo (.deliver ()) rfl
    (.act () rfl nofun (.act Prog.DeliverCase.send rfl nofun (.act () rfl nofun (.done _ _))))
  have haccepted := hdelivered.solo (.accept 0) rfl
    (.act () rfl nofun (.act true rfl nofun (.act () rfl nofun (.done _ _))))
  have hclosed := haccepted.solo (.close 0) rfl
    (.act (Prog.CloseCause.complete none) rfl nofun (.act () rfl (by rintro _ _ ⟨⟩ _; decide)
      (.done _ _)))
  exact ⟨_, hclosed, rfl, rfl, proxyConnection_owned hclosed⟩

/-- A connection is put into the queue and returned by `Accept`, then the channel shuts down, and
the delivery closes the connection it finds in a closed tunnel. -/
theorem returned_connection_closed :
    ∃ config, (tunnelSystem Unit).Reach (fun _ _ => True) opened config ∧
      config.state.returned () = 1 ∧ config.state.sdkClosed () = true ∧
      config.state.delivery () = .failed := by
  have hstart : (tunnelSystem Unit).Reach (fun _ _ => True) opened _ := .start
  have hchecked := hstart.act (.deliver ()) () rfl rfl trivial
  have hsent := hchecked.act (.deliver ()) Prog.DeliverCase.send rfl rfl trivial
  have haccepted := hsent.solo (.accept 0) rfl
    (.act () rfl trivial (.act true rfl trivial (.act () rfl trivial (.done _ _))))
  have hshut := haccepted.solo (.close 0) rfl
    (.act (Prog.CloseCause.complete none) rfl trivial (.act () rfl trivial (.done _ _)))
  have hfailed := hshut.solo (.deliver ()) rfl
    (.act () rfl trivial (.act () rfl trivial (.act () rfl trivial (.done _ _))))
  exact ⟨_, hfailed, rfl, rfl, rfl⟩

end Runs

end Rstream.Channel
