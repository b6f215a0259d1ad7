import Rstream.Core.Machine
import Rstream.Go.Time

/-!
# Wake-ups of a packet deadline

`packetDeadline` tells its readers by a channel that the deadline was moved or reached.
`set`, `snapshot` and the callback of a timer hold the mutex throughout, so each is one
event. A callback started before `Stop` still runs.
-/

namespace Rstream.Net

open Function Rstream.Core

/-- The clock, a `packetDeadline` and what its users hold. A channel is the number of channels
made before it. -/
structure PacketDeadline where
  now : Int
  /-- `timer`, unless it is `nil`: the channel of its callback and when it fires, if it is set. -/
  timer : Option (Option (Nat × Int)) := none
  /-- `deadline`, unless it is the zero time. -/
  deadline : Option Int := none
  /-- When `set` was called last. -/
  since : Int := now
  changed : Nat := 0
  /-- How often a channel was closed; the second time panics. -/
  closes : Nat → Nat := fun _ => 0
  /-- The channels of the callbacks that wait for the mutex, and of those that ran. -/
  callbacks : List Nat := []
  ran : List Nat := []
  /-- What `snapshot` returned. -/
  snapshots : List (Option Int × Nat) := []

namespace PacketDeadline

/-- What happens to a deadline. -/
inductive Event
  /-- The clock goes on. -/
  | advance (now : Int)
  | set (t : Option Int)
  | snapshot
  /-- The timer starts its callback. -/
  | fire
  /-- The callback of a channel gets the mutex. -/
  | callback (changed : Nat)

/-- `close(ch)`. -/
def close (d : PacketDeadline) (ch : Nat) : PacketDeadline :=
  { d with closes := update d.closes ch (d.closes ch + 1) }

def closePacketDeadlineSignal (d : PacketDeadline) (ch : Nat) : PacketDeadline :=
  if d.closes ch = 0 then d.close ch else d

def set (d : PacketDeadline) (t : Option Int) : PacketDeadline :=
  let d := { d with timer := none }.closePacketDeadlineSignal d.changed
  let d := { d with deadline := t, since := d.now, changed := d.changed + 1 }
  match t with
  | none => d
  | some t =>
    let dur := Go.timeSub t d.now
    if dur ≤ 0 then d.close d.changed
    else { d with timer := some (some (d.changed, d.now + dur)) }

/-- The function that `set` hands to `time.AfterFunc`. -/
def callback (d : PacketDeadline) (changed : Nat) : PacketDeadline :=
  if d.changed = changed then { d.closePacketDeadlineSignal changed with timer := none } else d

/-- What an event leads to, if it can happen. -/
def step (d : PacketDeadline) : Event → Option PacketDeadline
  | .advance now => if d.now ≤ now then some { d with now } else none
  | .set t => some (d.set t)
  | .snapshot => some { d with snapshots := d.snapshots ++ [(d.deadline, d.changed)] }
  | .fire =>
    match d.timer with
    | some (some (ch, due)) =>
      if due ≤ d.now then some { d with timer := some none, callbacks := ch :: d.callbacks }
      else none
    | _ => none
  | .callback ch =>
    if ch ∈ d.callbacks then
      some { d.callback ch with callbacks := d.callbacks.erase ch, ran := ch :: d.ran }
    else none

/-- The current deadline has expired, by the duration that was left when it was set. -/
def Expired (d : PacketDeadline) : Prop :=
  ∃ t, d.deadline = some t ∧ d.since + Go.timeSub t d.since ≤ d.now

/-- The invariant of a deadline. -/
structure Signals (d : PacketDeadline) : Prop where
  once : d.closes d.changed ≤ 1
  replaced : ∀ ch < d.changed, d.closes ch = 1
  unmade : ∀ ch, d.changed < ch → d.closes ch = 0
  expired : d.closes d.changed ≠ 0 → d.Expired
  timer : ∀ ch due, d.timer = some (some (ch, due)) →
    ch = d.changed ∧ ∃ t, d.deadline = some t ∧ due = d.since + Go.timeSub t d.since
  callbacks : ∀ ch ∈ d.callbacks, ch < d.changed ∨ ch = d.changed ∧ d.Expired
  ran : ∀ ch ∈ d.ran, d.closes ch = 1
  snapshots : ∀ t ch, (t, ch) ∈ d.snapshots → ch < d.changed ∨ ch = d.changed ∧ t = d.deadline

variable {d d' : PacketDeadline}

theorem closePacketDeadlineSignal_eq (d : PacketDeadline) (ch : Nat) :
    d.closePacketDeadlineSignal ch =
      { d with closes := update d.closes ch (max (d.closes ch) 1) } := by
  unfold closePacketDeadlineSignal close
  split_ifs with hopen
  · simp [hopen]
  · rw [max_eq_left (Nat.one_le_iff_ne_zero.mpr hopen), update_eq_self]

namespace Signals

/-- The current channel is closed because the deadline has expired. -/
theorem expire (h : d.Signals) (hexpiry : d.Expired) :
    Signals { d with closes := update d.closes d.changed 1 } := by
  obtain ⟨honce, hreplaced, hunmade, -, htimer, hcallbacks, hran, hsnapshots⟩ := h
  refine ⟨?_, ?_, ?_, fun _ => hexpiry, htimer, hcallbacks, ?_, hsnapshots⟩ <;>
    grind [update_apply]

/-- After `set` the new channel is the current one. -/
theorem set (h : d.Signals) (t : Option Int) :
    (d.set t).Signals ∧ (d.set t).changed = d.changed + 1 := by
  have hreplaced : Signals { d with
      timer := none, deadline := t, since := d.now, changed := d.changed + 1
      closes := update d.closes d.changed (max (d.closes d.changed) 1) } := by
    obtain ⟨honce, hreplaced, hunmade, -, -, hcallbacks, hran, hsnapshots⟩ := h
    refine ⟨?_, ?_, ?_, ?_, nofun, ?_, ?_, ?_⟩ <;> grind [update_apply]
  simp only [PacketDeadline.set, closePacketDeadlineSignal_eq]
  cases t with
  | none => exact ⟨hreplaced, rfl⟩
  | some t =>
    simp only
    split_ifs with hpast
    · have hopen := h.unmade (d.changed + 1) (Nat.lt_succ_self _)
      have hexpired := hreplaced.expire
        ⟨t, rfl, show d.now + Go.timeSub t d.now ≤ d.now by omega⟩
      exact ⟨by simpa [close, hopen] using hexpired, rfl⟩
    · refine ⟨{ hreplaced with timer := ?_ }, rfl⟩
      rintro ch due ⟨⟩
      exact ⟨rfl, t, rfl, rfl⟩

/-- A callback closes the current channel, or its own is closed already. -/
theorem callback {ch : Nat} (h : d.Signals) (hch : ch ∈ d.callbacks) :
    Signals { d.callback ch with callbacks := d.callbacks.erase ch, ran := ch :: d.ran } := by
  have hrest : ∀ c ∈ d.callbacks.erase ch, c < d.changed ∨ c = d.changed ∧ d.Expired :=
    fun c hc => h.callbacks c (List.mem_of_mem_erase hc)
  unfold PacketDeadline.callback
  rcases h.callbacks ch hch with hstale | ⟨rfl, hexpiry⟩
  · rw [if_neg hstale.ne']
    exact { h with
      callbacks := hrest
      ran := List.forall_mem_cons.mpr ⟨h.replaced ch hstale, h.ran⟩ }
  · rw [if_pos rfl, closePacketDeadlineSignal_eq, max_eq_right h.once]
    have hexpired := h.expire hexpiry
    exact { hexpired with
      timer := nofun
      callbacks := hrest
      ran := List.forall_mem_cons.mpr ⟨update_self .., hexpired.ran⟩ }

theorem step {e : Event} (h : d.Signals) (hstep : d.step e = some d') : d'.Signals := by
  cases e with
  | advance now =>
    simp only [PacketDeadline.step, Option.ite_none_right_eq_some, Option.some.injEq] at hstep
    obtain ⟨hnow, rfl⟩ := hstep
    have hexpiry : d.Expired → Expired { d with now } :=
      fun ⟨t, ht, hdue⟩ => ⟨t, ht, hdue.trans hnow⟩
    exact { h with
      expired := fun hclosed => hexpiry (h.expired hclosed)
      callbacks := fun ch hch => (h.callbacks ch hch).imp_right (And.imp_right hexpiry) }
  | set t =>
    cases hstep
    exact (h.set t).1
  | snapshot =>
    cases hstep
    refine { h with snapshots := fun t ch hch => ?_ }
    rcases List.mem_append.mp hch with hch | hch
    · exact h.snapshots t ch hch
    · cases List.mem_singleton.mp hch
      exact .inr ⟨rfl, rfl⟩
  | fire =>
    simp only [PacketDeadline.step] at hstep
    split at hstep
    · rename_i ch due htimer
      split_ifs at hstep with hdue
      cases hstep
      obtain ⟨rfl, t, ht, rfl⟩ := h.timer ch due htimer
      exact { h with
        timer := nofun
        callbacks := List.forall_mem_cons.mpr ⟨.inr ⟨rfl, t, ht, hdue⟩, h.callbacks⟩ }
    · cases hstep
  | callback ch =>
    simp only [PacketDeadline.step, Option.ite_none_right_eq_some, Option.some.injEq] at hstep
    obtain ⟨hch, rfl⟩ := hstep
    exact h.callback hch

end Signals

/-- **Wake-ups.** In every run no channel is closed twice, `set` closes the channel of every
earlier snapshot, the channel of a callback that ran is closed, and a stale callback closes
nothing. The channel of a snapshot is open only while its deadline is the current one, and closed
only if the deadline was replaced or has expired. -/
theorem packetDeadline_wakes {start : Int} (h : Steps step (fun _ _ => True) { now := start } d) :
    (∀ ch, d.closes ch ≤ 1) ∧
    (∀ t, ∀ seen ∈ d.snapshots, (d.set t).closes seen.2 = 1) ∧
    (∀ ch ∈ d.ran, d.closes ch = 1) ∧
    (∀ ch, ch ≠ d.changed → (d.callback ch).closes = d.closes) ∧
    ∀ seen ∈ d.snapshots,
      (d.closes seen.2 = 0 → seen = (d.deadline, d.changed)) ∧
      (d.closes seen.2 = 1 → seen.2 < d.changed ∨ seen = (d.deadline, d.changed) ∧ d.Expired) := by
  have hsignals : d.Signals :=
    h.invariant (by constructor <;> simp) fun hinv _ hstep => hinv.step hstep
  refine ⟨fun ch => ?_, fun t ⟨t₁, ch⟩ hseen => ?_, hsignals.ran, fun ch hstale => ?_,
    fun ⟨t, ch⟩ hseen => ?_⟩
  · rcases lt_trichotomy ch d.changed with hlt | rfl | hlt
    · exact (hsignals.replaced ch hlt).le
    · exact hsignals.once
    · exact (hsignals.unmade ch hlt).trans_le (Nat.zero_le 1)
  · obtain ⟨hset, hchanged⟩ := hsignals.set t
    have hmade := hsignals.snapshots t₁ ch hseen
    exact hset.replaced ch (by omega)
  · rw [callback, if_neg hstale.symm]
  · rcases hsignals.snapshots t ch hseen with hlt | ⟨rfl, rfl⟩
    · exact ⟨fun hopen => absurd (hsignals.replaced ch hlt) (by simp [hopen]), fun _ => .inl hlt⟩
    · exact ⟨fun _ => rfl, fun hclosed => .inr ⟨rfl, hsignals.expired (by simp [hclosed])⟩⟩

/-- A callback that was started before its deadline is replaced runs after that. -/
theorem packetDeadline_wakes_sample : ∃ d, Steps step (fun _ _ => True) { now := 0 } d ∧
    d.snapshots = [(some 10, 1)] ∧ d.ran = [1] ∧ d.closes 1 = 1 ∧ d.closes 2 = 0 := by
  have hrun := (Steps.start : Steps step (fun _ _ => True) { now := 0 } _)
    |>.next (.set (some 10)) trivial rfl
    |>.next .snapshot trivial rfl
    |>.next (.advance 12) trivial rfl
    |>.next .fire trivial rfl
    |>.next (.set (some 20)) trivial rfl
    |>.next (.callback 1) trivial rfl
  obtain ⟨-, -, hran, -⟩ := packetDeadline_wakes hrun
  exact ⟨_, hrun, rfl, rfl, hran 1 (.head _), rfl⟩

/-- No expiry is lost: a callback or the timer will close an open channel. -/
theorem expiry_kept (start t : Int) (h : Steps step (fun _ _ => True) { now := start } d)
    (ht : d.deadline = some t) : d.closes d.changed ≠ 0 ∨ d.changed ∈ d.callbacks ∨
      d.timer = some (some (d.changed, d.since + Go.timeSub t d.since)) := by
  induction h with
  | start => cases ht
  | next _ e _ _ ih =>
    have hclose d ch : (close d ch).closes ch ≠ 0 := by simp [close]
    rcases e with _ | ⟨_ | _⟩ | _ <;>
      grind [step, set, callback, close, closePacketDeadlineSignal]

theorem expiry_kept_sample : (set { now := 0 } (some 5)).timer = some (some (1, 5)) :=
  have h := expiry_kept 0 5 (.next .start (.set _) trivial rfl) rfl
  (h.resolve_left (by decide)).resolve_left (by decide)

end PacketDeadline

end Rstream.Net
