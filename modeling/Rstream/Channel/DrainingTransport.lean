import Mathlib.Tactic.SplitIfs
import Rstream.Core.Machine

/-!
# Draining a proxy transport

A `drainingProxyTransport` counts its dials and the connections that it returned. After
`Detach` it refuses new dials, and whoever brings the count to zero closes the underlying
transport; `Close` closes it at once. The count is looked at under the mutex, the
transport is closed outside of it.
-/

namespace Rstream.Channel

open Rstream.Core

section Model

/-- A call of `Dial` with its connection, of `Detach` or of `Close`. -/
inductive DrainCall
  /-- `dialer.Dial` runs. -/
  | dialing
  | failed (err : String)
  | dialed
  /-- The transport was detached while the connection was dialed. -/
  | late
  /-- The late connection is closed. -/
  | discarded
  /-- `Dial` has returned the connection. -/
  | opened
  /-- The connection is closed, and its unit of the count is not released yet. -/
  | shut (err : Option String)
  /-- The count was zero: the underlying transport is to be closed. -/
  | closing (result : Option String)
  /-- `Close` is to close the underlying transport. -/
  | ending
  | returned (result : Option String)
  deriving DecidableEq

/-- `drainingProxyTransport`, its calls, and how often its dialer was closed. -/
structure DrainingProxyTransport where
  active : Nat := 0
  detached : Bool := false
  closed : Bool := false
  /-- `closeErr`, once `closeOnce` is done. -/
  closeErr : Option (Option String) := none
  closes : Nat := 0
  calls : List DrainCall := []
  deriving DecidableEq

/-- One action of a call. -/
inductive DrainEvent
  | dial
  | detach
  | close
  /-- `dialer.Dial` returns. -/
  | dialed (i : Nat) (err : Option String)
  /-- The second locked section of `Dial`. -/
  | check (i : Nat)
  | closeConn (i : Nat) (err : Option String)
  /-- The locked section of `release`. -/
  | release (i : Nat)
  | closeUnderlying (i : Nat) (err : Option String)

namespace DrainCall

/-- A `Dial` that has not returned, or a returned connection that is not closed. -/
def counted : DrainCall → Bool
  | dialing | failed _ | dialed | late | discarded => true
  | opened | shut _ => true
  | _ => false

/-- A call that is about to close the underlying transport. -/
def closes : DrainCall → Bool
  | closing _ | ending => true
  | _ => false

end DrainCall

namespace DrainingProxyTransport

/-- `net.ErrClosed`. -/
def errClosed : String := "use of closed network connection"

variable (t : DrainingProxyTransport)

def go (i : Nat) (call : DrainCall) : DrainingProxyTransport :=
  { t with calls := t.calls.set i call }

/-- The locked section of `release`. -/
def release (i : Nat) (result : Option String) : DrainingProxyTransport :=
  let active := if 0 < t.active then t.active - 1 else t.active
  { t with active }.go i (if t.detached ∧ active = 0 then .closing result else .returned result)

def closeUnderlying (err : Option String) : DrainingProxyTransport :=
  match t.closeErr with
  | none => { t with closeErr := some err, closes := t.closes + 1 }
  | some _ => t

/-- The transport after an action; nothing if it is not possible. -/
def step : DrainEvent → Option DrainingProxyTransport
  | .dial =>
    if t.detached || t.closed then
      some { t with calls := t.calls ++ [.returned (some errClosed)] }
    else some { t with active := t.active + 1, calls := t.calls ++ [.dialing] }
  | .detach =>
    some { t with
      detached := true
      calls := t.calls ++ [if t.active = 0 then .closing none else .returned none] }
  | .close => some { t with closed := true, detached := true, calls := t.calls ++ [.ending] }
  | .dialed i err =>
    match t.calls[i]? with
    | some .dialing => some (t.go i (err.elim .dialed .failed))
    | _ => none
  | .check i =>
    match t.calls[i]? with
    | some .dialed => some (t.go i (if t.detached || t.closed then .late else .opened))
    | _ => none
  | .closeConn i err =>
    match t.calls[i]? with
    | some .late => some (t.go i .discarded)
    | some .opened => some (t.go i (.shut err))
    | _ => none
  | .release i =>
    match t.calls[i]? with
    | some (.failed err) => some (t.release i (some err))
    | some .discarded => some (t.release i (some errClosed))
    | some (.shut err) => some (t.release i err)
    | _ => none
  | .closeUnderlying i err =>
    match t.calls[i]? with
    | some (.closing result) => some ((t.closeUnderlying err).go i (.returned result))
    | some .ending =>
      let t := t.closeUnderlying err
      some (t.go i (.returned t.closeErr.join))
    | _ => none

end DrainingProxyTransport

end Model

namespace DrainingProxyTransport

/-- The count is right, and the underlying transport is closed once, when it is due. -/
structure Drained (t : DrainingProxyTransport) : Prop where
  active : t.active = t.calls.countP DrainCall.counted
  once : t.closes = t.closeErr.isSome.toNat
  /-- It is not closed before the count is zero, unless `Close` was called, ... -/
  early : 0 < t.closes + t.calls.countP DrainCall.closes →
    t.closed = true ∨ t.detached = true ∧ t.active = 0
  /-- ... and then it is closed, or a call is about to close it. -/
  due : t.detached = true → t.active = 0 → 0 < t.closes + t.calls.countP DrainCall.closes
  detached : t.closed = true → t.detached = true

variable {t t' : DrainingProxyTransport} {i : Nat} {call call' : DrainCall}
  {result err : Option String} {event : DrainEvent}

/-- What a call that goes on changes in a count of calls. -/
theorem countP_set (h : t.calls[i]? = some call) (call' : DrainCall) (p : DrainCall → Bool) :
    (t.calls.set i call').countP p + (p call).toNat = t.calls.countP p + (p call').toNat := by
  obtain ⟨hi, rfl⟩ := List.getElem?_eq_some_iff.mp h
  have hpos : p t.calls[i] = true → 0 < t.calls.countP p := fun hp =>
    List.countP_pos_iff.mpr ⟨_, List.getElem_mem hi, hp⟩
  rw [List.countP_set hi]
  cases hp : p t.calls[i] <;> cases hp' : p call' <;> simp_all

section

variable (h : t.Drained)
include h

/-- A call goes on, and the last one that is counted is to close the underlying transport. -/
theorem Drained.go (hcall : t.calls[i]? = some call) (hcloses : call.closes = false) {active : Nat}
    (hactive : active + call.counted.toNat = t.active + call'.counted.toNat)
    (hle : active ≤ t.active) (hlast : active = t.active ∧ call'.closes = false ∨
      (call'.closes = true ↔ t.detached = true ∧ active = 0)) :
    ({ t with active }.go i call').Drained := by
  have hcount := countP_set hcall call' DrainCall.counted
  have hclosing := countP_set hcall call' DrainCall.closes
  obtain ⟨_, _, _, _, _⟩ := h
  constructor <;> simp only [DrainingProxyTransport.go] <;> grind

theorem Drained.release (hcall : t.calls[i]? = some call) (hcounted : call.counted = true)
    (hcloses : call.closes = false) : (t.release i result).Drained := by
  have hpos : 0 < t.active := by
    rw [h.active]
    exact List.countP_pos_iff.mpr ⟨_, List.mem_of_getElem? hcall, hcounted⟩
  simp only [DrainingProxyTransport.release, if_pos hpos]
  refine h.go hcall hcloses ?_ (Nat.sub_le ..) (.inr ?_)
  · rw [hcounted]
    split_ifs <;> exact Nat.sub_add_cancel hpos
  · split_ifs with hlast
    · exact iff_of_true rfl hlast
    · exact iff_of_false nofun hlast

/-- A call closes the underlying transport, or finds it closed. -/
theorem Drained.closeUnderlying (hcall : t.calls[i]? = some call) (hcounted : call.counted = false)
    (hcloses : call.closes = true) :
    ((t.closeUnderlying err).go i (.returned result)).Drained := by
  have hcount := countP_set hcall (.returned result) DrainCall.counted
  have hearly := h.early (Nat.add_pos_right _
    (List.countP_pos_iff.mpr ⟨_, List.mem_of_getElem? hcall, hcloses⟩))
  rw [hcounted] at hcount
  have honce := h.once
  unfold DrainingProxyTransport.closeUnderlying
  split
  · next hnone =>
    rw [hnone] at honce
    exact ⟨h.active.trans hcount.symm, congrArg _ honce, fun _ => hearly,
      fun _ _ => Nat.add_pos_left (Nat.succ_pos _) _, h.detached⟩
  · next hsome =>
    rw [hsome] at honce
    exact ⟨h.active.trans hcount.symm, h.once, fun _ => hearly,
      fun _ _ => Nat.add_pos_left (honce ▸ Nat.one_pos) _, h.detached⟩

theorem Drained.step (hstep : t.step event = some t') : t'.Drained := by
  cases event <;> simp only [DrainingProxyTransport.step] at hstep
  case dial =>
    obtain ⟨_, _, _, _, _⟩ := h
    split_ifs at hstep <;> cases hstep <;> constructor <;>
      grind [DrainCall.counted, DrainCall.closes]
  case detach | close =>
    obtain ⟨_, _, _, _, _⟩ := h
    cases hstep
    constructor <;> grind [DrainCall.counted, DrainCall.closes]
  case dialed i err =>
    split at hstep <;> cases hstep
    next hcall => cases err <;> exact h.go hcall rfl rfl (Nat.le_refl _) (.inl ⟨rfl, rfl⟩)
  case check i =>
    split at hstep <;> cases hstep
    next hcall => split_ifs <;> exact h.go hcall rfl rfl (Nat.le_refl _) (.inl ⟨rfl, rfl⟩)
  case closeConn i err =>
    split at hstep <;> cases hstep
    all_goals next hcall => exact h.go hcall rfl rfl (Nat.le_refl _) (.inl ⟨rfl, rfl⟩)
  case release i =>
    split at hstep <;> cases hstep
    all_goals next hcall => exact h.release hcall rfl rfl
  case closeUnderlying i err =>
    split at hstep <;> cases hstep
    all_goals next hcall => exact h.closeUnderlying hcall rfl rfl

end

/-- **Draining.** In every run of the calls, the count is that of the dials in progress and the
returned connections that are not closed. The underlying transport is closed at most once, and
not while a returned connection is open unless `Close` was called. After `Detach` it is closed, or
a call is about to close it, exactly when the count is zero. -/
theorem drainingProxyTransport_drained (h : Steps step (fun _ _ => True) {} t) :
    t.active = t.calls.countP DrainCall.counted ∧ t.closes ≤ 1 ∧
    (t.closes = 1 → t.closed = true ∨ t.detached = true ∧ .opened ∉ t.calls) ∧
    (t.detached = true → t.closed = false →
      ((t.closes = 1 ∨ ∃ call ∈ t.calls, call.closes = true) ↔ t.active = 0)) := by
  have hdrained : t.Drained := h.invariant (by constructor <;> simp) fun hinv _ => hinv.step
  have honce : t.closes ≤ 1 := by
    rw [hdrained.once]
    exact Bool.toNat_le _
  refine ⟨hdrained.active, honce, fun hclosed => ?_, fun hdetached hopen => ?_⟩
  · refine (hdrained.early (by omega)).imp_right fun ⟨hdetached, hzero⟩ =>
      ⟨hdetached, fun hmem => ?_⟩
    have hpos := List.countP_pos_iff.mpr ⟨_, hmem, (rfl : DrainCall.counted .opened = true)⟩
    rw [← hdrained.active, hzero] at hpos
    exact Nat.lt_irrefl _ hpos
  · have hdue := hdrained.due hdetached
    have hearly := hdrained.early
    rw [hopen] at hearly
    rw [← List.countP_pos_iff]
    refine ⟨fun hclosed => ?_, fun hzero => ?_⟩
    · exact ((hearly (by omega)).resolve_left nofun).2
    · have := hdue hzero
      omega

/-- A connection is dialed before `Detach` and closed after it. -/
theorem drainingProxyTransport_drained_sample : ∃ t, Steps step (fun _ _ => True) {} t ∧
    t.detached = true ∧ t.closes = 1 ∧ t.active = 0 := by
  have hrun := (Steps.start : Steps step (fun _ _ => True) {} _)
    |>.next .dial trivial rfl
    |>.next (.dialed 0 none) trivial rfl
    |>.next (.check 0) trivial rfl
    |>.next .detach trivial rfl
    |>.next (.closeConn 0 none) trivial rfl
    |>.next (.release 0) trivial rfl
    |>.next (.closeUnderlying 0 none) trivial rfl
  exact ⟨_, hrun, rfl, rfl, ((drainingProxyTransport_drained hrun).2.2.2 rfl rfl).mp (.inl rfl)⟩

end DrainingProxyTransport

end Rstream.Channel
