import Mathlib.Algebra.Order.Group.Multiset
import Mathlib.Data.List.Pairwise
import Mathlib.Tactic.Abel
import Rstream.Channel.ProxyRequests

/-!
# Every proxy request is answered once

A request moves from one place of the runtime to the next and is counted at its tunnel from
its admission until its tunnel is told of the answer.
-/

namespace Rstream.Channel

open Go Function Multiset Option List

variable {event : ProxyEvent} {r : ProxyRequest}

section Places

/-- Where a request can be. -/
inductive ProxyPlace
  | requestQueue
  | worker
  | responseQueue
  | responseLoop
  | answered
  deriving DecidableEq, Repr

namespace ProxyPlace

def all : List ProxyPlace := [requestQueue, worker, responseQueue, responseLoop, answered]

theorem mem_all (place : ProxyPlace) : place ∈ all := by
  cases place <;> decide

end ProxyPlace

namespace ResponseLoop

/-- The request whose response is being written. -/
def unwritten : ResponseLoop → List ProxyRequest
  | writing response => [response.request]
  | _ => []

/-- The request that was answered, and whose tunnel is not yet told. -/
def untold : ResponseLoop → List ProxyRequest
  | completing response => [response.request]
  | _ => []

end ResponseLoop

namespace ProxyRuntime

/-- The requests at a place. -/
def «at» (s : ProxyRuntime) : ProxyPlace → List ProxyRequest
  | .requestQueue => s.requests.map (·.request)
  | .worker => s.processing.map (·.request) ++ s.queueing.map (·.request)
  | .responseQueue => s.responses.map (·.request)
  | .responseLoop => s.loop.unwritten
  | .answered => s.written.map (·.request)

/-- The requests that are not answered. -/
def held (s : ProxyRuntime) : List ProxyRequest :=
  s.at .requestQueue ++ (s.at .worker ++ (s.at .responseQueue ++ s.at .responseLoop))

/-- The requests for a tunnel object that are not completed. -/
def pending (s : ProxyRuntime) (t : Nat) : Nat :=
  (s.held ++ s.loop.untold).countP (·.tunnel == some t)

/-- The drained signals of the tunnel objects: an object has one that is not closed while it waits
for responses, and no two objects have the same. -/
structure Signalled (s : ProxyRuntime) : Prop where
  waiting : ∀ t, (s.objects t).proxyDrained.isSome = true ↔ 0 < (s.objects t).proxyPending
  signals : ∀ t k, (s.objects t).proxyDrained = some k → k < s.signals ∧ k ∉ s.closedSignals
  fresh : ∀ k ∈ s.closedSignals, k < s.signals
  separate : ∀ t t' k, (s.objects t).proxyDrained = some k → (s.objects t').proxyDrained = some k →
    t = t'

theorem Signalled.congr {s s' : ProxyRuntime} (h : s.Signalled) (hobjects : s'.objects = s.objects)
    (hsignals : s'.signals = s.signals) (hclosed : s'.closedSignals = s.closedSignals) :
    s'.Signalled where
  waiting := by rw [hobjects]; exact h.waiting
  signals := by rw [hobjects, hsignals, hclosed]; exact h.signals
  fresh := by rw [hsignals, hclosed]; exact h.fresh
  separate := by rw [hobjects]; exact h.separate

/-- The books of a live runtime. -/
structure Tracked (s : ProxyRuntime) : Prop where
  placed : (s.held ++ s.at .answered).Perm s.admitted
  numbers : s.admitted.map (·.number) = List.range s.admitted.length
  told : s.at .answered = s.completed ++ s.loop.untold
  counted : ∀ t, (s.objects t).proxyPending + (if s.adding = some t then 1 else 0) = s.pending t
  signalled : s.Signalled
  existing : ∀ r ∈ s.admitted, ∀ t, r.tunnel = some t → t < s.created
  mapped : ∀ entry ∈ s.tunnels, entry.2 < s.created

theorem tracked_initial : initial.Tracked where
  placed := .nil
  numbers := rfl
  told := rfl
  counted t := by simp [initial, pending, held, «at», ResponseLoop.unwritten, ResponseLoop.untold]
  signalled := ⟨by simp [initial], nofun, nofun, nofun⟩
  existing := nofun
  mapped := nofun

/-- A step that only moves requests on to another place. -/
structure Moves (s s' : ProxyRuntime) : Prop where
  held : s'.held.Perm s.held
  untold : s'.loop.untold = s.loop.untold
  written : s'.written = s.written
  completed : s'.completed = s.completed
  admitted : s'.admitted = s.admitted
  objects : s'.objects = s.objects
  created : s'.created = s.created
  tunnels : s'.tunnels = s.tunnels
  signals : s'.signals = s.signals
  closedSignals : s'.closedSignals = s.closedSignals
  adding : s'.adding = s.adding

theorem Moves.tracked {s s' : ProxyRuntime} (hmoves : s.Moves s') (h : s.Tracked) : s'.Tracked where
  placed := by
    have hanswered : s'.at .answered = s.at .answered := by
      simp only [«at», hmoves.written]
    rw [hanswered, hmoves.admitted]
    exact (hmoves.held.append_right _).trans h.placed
  numbers := by rw [hmoves.admitted]; exact h.numbers
  told := by
    simpa only [«at», hmoves.written, hmoves.completed, hmoves.untold] using h.told
  counted t := by
    have hpending : s'.pending t = s.pending t := by
      simp only [pending, hmoves.untold]
      exact (hmoves.held.append_right _).countP_eq _
    rw [hmoves.objects, hmoves.adding, hpending]
    exact h.counted t
  signalled := h.signalled.congr hmoves.objects hmoves.signals hmoves.closedSignals
  existing := by rw [hmoves.admitted, hmoves.created]; exact h.existing
  mapped := by rw [hmoves.tunnels, hmoves.created]; exact h.mapped

end ProxyRuntime

end Places

section Moving

namespace ProxyRuntime

variable {limits : ProxyLimits} {s s' : ProxyRuntime}

/-- An element and the others make up the list. -/
theorem coe_map_eraseIdx {α : Type} {l : List α} {i : Nat} {a : α} (h : l[i]? = some a)
    (f : α → ProxyRequest) :
    (l.map f : Multiset ProxyRequest) = {f a} + ((l.eraseIdx i).map f : List ProxyRequest) := by
  obtain ⟨hi, rfl⟩ := List.getElem?_eq_some_iff.mp h
  have hperm := (List.getElem_cons_eraseIdx_perm hi).map f
  rw [← coe_eq_coe.mpr hperm, List.map_cons, ← cons_coe, singleton_add]

theorem takeTask_moves (hlive : s.live = true) (h : s.takeTask limits = some s') : s.Moves s' := by
  unfold takeTask at h
  split at h
  · cases h
  · next task rest hrequests =>
    split_ifs at h
    cases h
    refine ⟨?_, rfl, rfl, rfl, rfl, rfl, rfl, rfl, rfl, rfl, rfl⟩
    rw [← coe_eq_coe]
    simp only [held, «at», hrequests, List.map_append, List.map_cons, List.map_nil,
      ← coe_add, ← cons_coe, ← singleton_add, coe_nil]
    abel

theorem processTask_moves {i : Nat} {result : Except String (Option Nat)}
    (h : s.processTask i result = some s') : s.Moves s' := by
  unfold processTask at h
  split at h
  · cases h
  · next task htask =>
    cases h
    refine ⟨?_, rfl, rfl, rfl, rfl, rfl, rfl, rfl, rfl, rfl, rfl⟩
    rw [← coe_eq_coe]
    simp only [held, «at», List.map_append, List.map_cons, List.map_nil, ← coe_add,
      ← cons_coe, ← singleton_add, coe_nil, coe_map_eraseIdx htask]
    cases result <;> abel

theorem queueProxyConnRsp_moves {i : Nat} {giveUp : Bool} (hlive : s.live = true)
    (h : s.queueProxyConnRsp limits i giveUp = some s') : s.Moves s' := by
  unfold queueProxyConnRsp at h
  split at h
  · cases h
  · next response hresponse =>
    rw [if_pos hlive] at h
    split_ifs at h
    cases h
    refine ⟨?_, rfl, rfl, rfl, rfl, rfl, rfl, rfl, rfl, rfl, rfl⟩
    rw [← coe_eq_coe]
    simp only [held, «at», List.map_append, List.map_cons, List.map_nil, ← coe_add,
      ← cons_coe, ← singleton_add, coe_nil, coe_map_eraseIdx hresponse]
    abel

theorem takeResponse_moves (hlive : s.live = true) (h : s.takeResponse = some s') : s.Moves s' := by
  unfold takeResponse at h
  split at h
  · next response rest hloop hresponses =>
    rw [if_pos hlive] at h
    cases h
    refine ⟨?_, ?_, rfl, rfl, rfl, rfl, rfl, rfl, rfl, rfl, rfl⟩
    · rw [← coe_eq_coe]
      simp only [held, «at», hloop, hresponses, ResponseLoop.unwritten, List.map_cons,
        ← coe_add, ← cons_coe, ← singleton_add, coe_nil]
      abel
    · rw [hloop]
      rfl
  · cases h

end ProxyRuntime

end Moving

section Accounting

namespace ProxyRuntime

variable {limits : ProxyLimits} {s s' : ProxyRuntime}

/-- A step that admits a request. -/
structure Admits (s s' : ProxyRuntime) (r : ProxyRequest) : Prop where
  held : s'.held.Perm (r :: s.held)
  admitted : s'.admitted = s.admitted ++ [r]
  number : r.number = s.admitted.length
  adding : s'.adding = r.tunnel
  existing : ∀ t, r.tunnel = some t → t < s.created
  loop : s'.loop = s.loop
  written : s'.written = s.written
  completed : s'.completed = s.completed
  objects : s'.objects = s.objects
  created : s'.created = s.created
  tunnels : s'.tunnels = s.tunnels
  signals : s'.signals = s.signals
  closedSignals : s'.closedSignals = s.closedSignals

theorem Admits.tracked (hadmits : s.Admits s' r) (hfree : s.adding = none)
    (h : s.Tracked) : s'.Tracked where
  placed := by
    have hanswered : s'.at .answered = s.at .answered := by
      simp only [«at», hadmits.written]
    rw [hanswered, hadmits.admitted]
    refine (hadmits.held.append_right _).trans ?_
    exact ((h.placed.cons r).trans (List.perm_append_singleton r s.admitted).symm)
  numbers := by
    rw [hadmits.admitted, List.map_append, h.numbers, List.length_append, List.length_singleton,
      List.range_succ, List.map_singleton, hadmits.number]
  told := by
    simpa only [«at», hadmits.written, hadmits.completed, hadmits.loop] using h.told
  counted t := by
    have hcounted := h.counted t
    have hpending : s'.pending t = (if r.tunnel = some t then 1 else 0) + s.pending t := by
      simp only [pending, hadmits.loop]
      rw [(hadmits.held.append_right _).countP_eq, List.cons_append, List.countP_cons, Nat.add_comm]
      simp only [beq_iff_eq]
    rw [hadmits.objects, hadmits.adding, hpending]
    simp only [hfree, reduceCtorEq, if_false] at hcounted
    omega
  signalled := h.signalled.congr hadmits.objects hadmits.signals hadmits.closedSignals
  existing := by
    rw [hadmits.admitted, hadmits.created]
    intro a ha
    obtain ha | ha := List.mem_append.mp ha
    · exact h.existing a ha
    · cases List.mem_singleton.mp ha
      exact hadmits.existing
  mapped := by rw [hadmits.tunnels, hadmits.created]; exact h.mapped

theorem rejectProxyConnReqLocked_admits {streamID err : String} {tunnel : Option Nat}
    (hexisting : ∀ t, tunnel = some t → t < s.created)
    (hlive : (s.rejectProxyConnReqLocked limits streamID tunnel err).live = true) :
    s.Admits (s.rejectProxyConnReqLocked limits streamID tunnel err) (s.next streamID tunnel) := by
  unfold rejectProxyConnReqLocked at hlive ⊢
  split_ifs at hlive ⊢ with hspace
  · refine ⟨?_, rfl, rfl, rfl, hexisting, rfl, rfl, rfl, rfl, rfl, rfl, rfl, rfl⟩
    rw [← coe_eq_coe]
    simp only [held, «at», List.map_append, List.map_cons, List.map_nil, ← coe_add,
      ← cons_coe, ← singleton_add, coe_nil]
    abel
  · cases hlive

theorem queueProxyConnReq_admits {req : ProxyConnReq} {t : Nat} (hexisting : t < s.created)
    (hlive : (s.queueProxyConnReq limits req t).live = true) :
    s.Admits (s.queueProxyConnReq limits req t) (s.next req.streamID (some t)) := by
  have hexisting' : ∀ t', some t = some t' → t' < s.created := by
    rintro _ ⟨⟩
    exact hexisting
  unfold queueProxyConnReq at hlive ⊢
  split_ifs at hlive ⊢
  · refine ⟨?_, rfl, rfl, rfl, hexisting', rfl, rfl, rfl, rfl, rfl, rfl, rfl, rfl⟩
    rw [← coe_eq_coe]
    simp only [held, «at», List.map_append, List.map_cons, List.map_nil, ← coe_add,
      ← cons_coe, ← singleton_add, coe_nil]
    abel
  · exact rejectProxyConnReqLocked_admits hexisting' hlive

theorem handleProxyConnReq_admits {req : ProxyConnReq} (h : s.Tracked)
    (hlive : (s.handleProxyConnReq limits req).live = true) :
    ∃ r, s.Admits (s.handleProxyConnReq limits req) r ∧ r.streamID = req.streamID := by
  unfold handleProxyConnReq at hlive ⊢
  cases hlookup : s.tunnels.lookup req.tunnelID with
  | none =>
    simp only [hlookup] at hlive ⊢
    split_ifs at hlive ⊢
    · cases hlive
    · exact ⟨_, rejectProxyConnReqLocked_admits nofun hlive, rfl⟩
  | some t =>
    simp only [hlookup] at hlive ⊢
    have hexisting : t < s.created := by
      obtain ⟨l₁, l₂, htunnels, _⟩ := lookup_eq_some_iff.mp hlookup
      exact h.mapped (req.tunnelID, t) (htunnels ▸ by simp)
    have hexisting' : ∀ t', some t = some t' → t' < s.created := by
      rintro _ ⟨⟩
      exact hexisting
    split_ifs at hlive ⊢
    · cases hlive
    · exact ⟨_, rejectProxyConnReqLocked_admits hexisting' hlive, rfl⟩
    · exact ⟨_, rejectProxyConnReqLocked_admits hexisting' hlive, rfl⟩
    · exact ⟨_, queueProxyConnReq_admits hexisting hlive, rfl⟩

/-- A count that does not leave or reach zero keeps its signal. -/
theorem Signalled.recount (h : s.Signalled) {t n : Nat} (hbefore : (s.objects t).proxyPending ≠ 0)
    (hn : n ≠ 0) (hobjects : s'.objects = update s.objects t
      { s.objects t with proxyPending := n })
    (hsignals : s'.signals = s.signals) (hclosed : s'.closedSignals = s.closedSignals) :
    s'.Signalled := by
  have hdrained : ∀ u, (s'.objects u).proxyDrained = (s.objects u).proxyDrained := by
    intro u
    rw [hobjects, update_apply]
    split_ifs with hu <;> simp [hu]
  refine ⟨fun u => ?_, fun u k hk => ?_, ?_, fun u u' k hu hu' => ?_⟩
  · rw [hdrained, h.waiting u, hobjects]
    by_cases hu : u = t
    · subst hu
      simp only [update_self]
      omega
    · rw [update_of_ne hu]
  · rw [hsignals, hclosed]
    exact h.signals u k (hdrained u ▸ hk)
  · rw [hsignals, hclosed]
    exact h.fresh
  · exact h.separate u u' k (hdrained u ▸ hu) (hdrained u' ▸ hu')

theorem addProxyResponseLocked_signalled (h : s.Signalled) (t : Nat) :
    (s.addProxyResponseLocked t).Signalled := by
  by_cases hzero : (s.objects t).proxyPending = 0
  -- The first response makes a signal that no other object has.
  · simp only [addProxyResponseLocked, if_pos hzero]
    refine ⟨fun u => ?_, fun u k hk => ?_, fun k hk => ?_, fun u u' k hu hu' => ?_⟩
    · by_cases hu : u = t
      · subst hu
        simp
      · simpa [update_of_ne hu] using h.waiting u
    · by_cases hu : u = t
      · subst hu
        simp only [update_self, some.injEq] at hk
        subst hk
        exact ⟨Nat.lt_succ_self _, fun hmem => Nat.lt_irrefl _ (h.fresh _ hmem)⟩
      · simp only [update_of_ne hu] at hk
        exact ⟨Nat.lt_succ_of_lt (h.signals u k hk).1, (h.signals u k hk).2⟩
    · exact Nat.lt_succ_of_lt (h.fresh k hk)
    · by_cases ht : u = t <;> by_cases ht' : u' = t
      · rw [ht, ht']
      · subst ht
        simp only [update_self, some.injEq, update_of_ne ht'] at hu hu'
        exact absurd (h.signals u' k hu').1 (by omega)
      · subst ht'
        simp only [update_self, some.injEq, update_of_ne ht] at hu hu'
        exact absurd (h.signals u k hu).1 (by omega)
      · simp only [update_of_ne ht, update_of_ne ht'] at hu hu'
        exact h.separate u u' k hu hu'
  · simp only [addProxyResponseLocked, if_neg hzero]
    exact h.recount hzero (Nat.succ_ne_zero _) rfl rfl rfl

/-- An object without responses to wait for has no signal. -/
theorem Signalled.clear (h : s.Signalled) (t : Nat) {hasContext : Bool} (closed : List Nat)
    (hclosed : ∀ k ∈ closed, (s.objects t).proxyDrained = some k)
    (hobjects : s'.objects = update s.objects t ⟨hasContext, 0, none⟩)
    (hsignals : s'.signals = s.signals) (hsignals' : s'.closedSignals = s.closedSignals ++ closed) :
    s'.Signalled := by
  have hdrained : ∀ v k, (s'.objects v).proxyDrained = some k →
      v ≠ t ∧ (s.objects v).proxyDrained = some k := by
    intro v k hv
    rw [hobjects] at hv
    by_cases hvt : v = t
    · subst hvt
      simp at hv
    · rw [update_of_ne hvt] at hv
      exact ⟨hvt, hv⟩
  refine ⟨fun u => ?_, fun u k hk => ?_, fun k hk => ?_, fun u u' k hu hu' => ?_⟩
  · rw [hobjects]
    by_cases hu : u = t
    · subst hu
      simp
    · rw [update_of_ne hu]
      exact h.waiting u
  · obtain ⟨hu, hk⟩ := hdrained u k hk
    rw [hsignals, hsignals']
    refine ⟨(h.signals u k hk).1, fun hmem => ?_⟩
    obtain hmem | hmem := mem_append.mp hmem
    · exact (h.signals u k hk).2 hmem
    · exact hu (h.separate u t k hk (hclosed k hmem))
  · rw [hsignals'] at hk
    rw [hsignals]
    obtain hk | hk := mem_append.mp hk
    · exact h.fresh k hk
    · exact (h.signals t k (hclosed k hk)).1
  · exact h.separate u u' k (hdrained u k hu).2 (hdrained u' k hu').2

theorem completeProxyResponseLocked_signalled (h : s.Signalled) (t : Nat) :
    (s.completeProxyResponseLocked t).Signalled := by
  simp only [completeProxyResponseLocked]
  split_ifs with hzero hone
  · exact h
  -- The last response closes the signal of the object, which no other object has.
  · exact h.clear t (s.objects t).proxyDrained.toList (fun k hk => mem_toList.mp hk) rfl rfl rfl
  · exact h.recount hzero (by omega) rfl rfl rfl

theorem addProxyResponseLocked_proxyPending (t u : Nat) :
    ((s.addProxyResponseLocked t).objects u).proxyPending =
      (s.objects u).proxyPending + if some t = some u then 1 else 0 := by
  by_cases hu : u = t
  · subst hu
    by_cases hzero : (s.objects u).proxyPending = 0 <;> simp [addProxyResponseLocked, hzero]
  · by_cases hzero : (s.objects t).proxyPending = 0 <;>
      simp [addProxyResponseLocked, hzero, update_of_ne hu, if_neg (Ne.symm hu)]

theorem completeProxyResponseLocked_proxyPending {t : Nat} (u : Nat)
    (hpositive : 0 < (s.objects t).proxyPending) :
    ((s.completeProxyResponseLocked t).objects u).proxyPending + (if some t = some u then 1 else 0) =
      (s.objects u).proxyPending := by
  have hzero : (s.objects t).proxyPending ≠ 0 := by omega
  by_cases hu : u = t
  · subst hu
    by_cases hone : (s.objects u).proxyPending = 1
    · simp [completeProxyResponseLocked, hone]
    · simp only [completeProxyResponseLocked, if_neg hzero, if_neg hone, update_self,
        if_true]
      omega
  · by_cases hone : (s.objects t).proxyPending = 1 <;>
      simp [completeProxyResponseLocked, hzero, hone, update_of_ne hu,
        if_neg (Ne.symm hu)]

/-- The books do not depend on the tunnels and the counts of a state except as these say. -/
theorem Tracked.recounted (h : s.Tracked) (hheld : s'.held = s.held)
    (hanswered : s'.at .answered = s.at .answered) (huntold : s'.completed ++ s'.loop.untold =
      s.completed ++ s.loop.untold) (hadmitted : s'.admitted = s.admitted)
    (hcreated : s'.created = s.created) (htunnels : s'.tunnels = s.tunnels)
    (hcounted : ∀ t, (s'.objects t).proxyPending + (if s'.adding = some t then 1 else 0) =
      s'.pending t) (hsignalled : s'.Signalled) : s'.Tracked where
  placed := by rw [hheld, hanswered, hadmitted]; exact h.placed
  numbers := by rw [hadmitted]; exact h.numbers
  told := by rw [hanswered, huntold]; exact h.told
  counted := hcounted
  signalled := hsignalled
  existing := by rw [hadmitted, hcreated]; exact h.existing
  mapped := by rw [htunnels, hcreated]; exact h.mapped

theorem addProxyResponseLocked_tracked {t : Nat} (hadding : s.adding = some t) (h : s.Tracked) :
    ({ s.addProxyResponseLocked t with adding := none } : ProxyRuntime).Tracked := by
  refine h.recounted rfl rfl rfl rfl rfl rfl (fun u => ?_)
    ((addProxyResponseLocked_signalled h.signalled t).congr rfl rfl rfl)
  have hcounted := h.counted u
  rw [hadding] at hcounted
  simp only [addProxyResponseLocked_proxyPending, reduceCtorEq, if_false, Nat.add_zero]
  exact hcounted

theorem completeProxyResponseLocked_frame (s : ProxyRuntime) (t : Nat) : ∃ objects closedSignals,
    s.completeProxyResponseLocked t = { s with objects, closedSignals } := by
  simp only [completeProxyResponseLocked]
  split_ifs
  · exact ⟨s.objects, s.closedSignals, rfl⟩
  · exact ⟨_, _, rfl⟩
  · exact ⟨_, s.closedSignals, rfl⟩

/-- The end of a round for a response, given what it did to the counts. -/
theorem Tracked.complete {response : ProxyResponse} {objects : Nat → ProxyTunnel}
    {closedSignals : List Nat} (h : s.Tracked) (hloop : s.loop = .completing response)
    (hfree : s.adding = none)
    (hcounted : ∀ u, (objects u).proxyPending + (if response.request.tunnel = some u then 1 else 0) =
      (s.objects u).proxyPending)
    (hsignalled : ({ s with objects, closedSignals } : ProxyRuntime).Signalled) :
    ({ s with objects, closedSignals, loop := .idle,
              completed := s.completed ++ [response.request] } : ProxyRuntime).Tracked := by
  have huntold : s.loop.untold = [response.request] := by rw [hloop]; rfl
  refine h.recounted ?_ rfl ?_ rfl rfl rfl (fun u => ?_) (hsignalled.congr rfl rfl rfl)
  · simp only [held, «at», hloop, ResponseLoop.unwritten]
  · rw [huntold]
    exact append_nil _
  · have hpending : s.pending u = s.held.countP (·.tunnel == some u) +
        if response.request.tunnel = some u then 1 else 0 := by
      simp only [pending, huntold, countP_append, countP_singleton, beq_iff_eq]
    have hbefore := h.counted u
    rw [hfree, hpending, ← hcounted u] at hbefore
    simp only [reduceCtorEq, if_false, Nat.add_zero, Nat.add_right_cancel_iff] at hbefore
    simpa [pending, held, «at», ResponseLoop.unwritten, ResponseLoop.untold, hfree, hloop]
      using hbefore

theorem completeResponse_tracked (hfree : s.adding = none) (h : s.Tracked)
    (hstep : s.completeResponse = some s') : s'.Tracked := by
  unfold completeResponse at hstep
  split at hstep
  · next response hloop =>
    cases hstep
    cases htunnel : response.request.tunnel with
    | none => exact h.complete hloop hfree (by simp [htunnel]) h.signalled
    | some t =>
      have hpositive : 0 < (s.objects t).proxyPending := by
        have hcounted := h.counted t
        have hmem : response.request ∈ s.held ++ s.loop.untold := by
          rw [hloop]
          exact List.mem_append_right _ (List.mem_singleton_self _)
        have hpending : 0 < s.pending t := List.countP_pos_iff.mpr ⟨_, hmem, by simp [htunnel]⟩
        rw [hfree] at hcounted
        simp only [reduceCtorEq, if_false] at hcounted
        omega
      have hcounts := fun u => completeProxyResponseLocked_proxyPending u hpositive
      have hsignalled := completeProxyResponseLocked_signalled h.signalled t
      obtain ⟨objects, closedSignals, hframe⟩ := completeProxyResponseLocked_frame s t
      simp only [hframe] at hcounts hsignalled ⊢
      exact h.complete hloop hfree (by rw [htunnel]; exact hcounts) hsignalled
  · cases hstep

theorem writeProxyConnRsp_tracked (h : s.Tracked) (hlive : s'.live = true)
    (hstep : s.writeProxyConnRsp fails = some s') : s'.Tracked := by
  unfold writeProxyConnRsp at hstep
  split at hstep
  · next response hloop =>
    split_ifs at hstep
    · cases hstep
      cases hlive
    cases hstep
    have hheld : s.held.Perm (response.request ::
        ({ s with loop := .completing response,
                  written := s.written ++ [response] } : ProxyRuntime).held) := by
      rw [← coe_eq_coe]
      simp only [held, «at», hloop, ResponseLoop.unwritten, ← coe_add,
        ← cons_coe, ← singleton_add, coe_nil]
      abel
    refine ⟨?_, h.numbers, ?_, fun t => ?_, h.signalled.congr rfl rfl rfl, h.existing, h.mapped⟩
    · refine List.Perm.trans ?_ h.placed
      refine List.Perm.trans ?_ (hheld.append_right _).symm
      simp only [«at», List.map_append, List.map_cons, List.map_nil, ← List.append_assoc]
      exact List.perm_append_singleton _ _
    · have htold := h.told
      simp only [«at», hloop, ResponseLoop.untold, List.append_nil] at htold
      simp only [«at», ResponseLoop.untold, List.map_append, List.map_cons, List.map_nil, htold]
    · refine (h.counted t).trans ?_
      unfold pending
      rw [(hheld.append_right _).countP_eq, hloop]
      simp only [ResponseLoop.untold, append_nil]
      exact (perm_append_singleton _ _).countP_eq _ |>.symm
  · cases hstep

/-- A request that is not completed was admitted. -/
theorem Tracked.mem_admitted (h : s.Tracked) (hr : r ∈ s.held ++ s.loop.untold) :
    r ∈ s.admitted := by
  refine h.placed.subset ?_
  obtain hr | hr := mem_append.mp hr
  · exact mem_append_left _ hr
  · rw [h.told]
    exact mem_append_right _ (mem_append_right _ hr)

theorem opened_tracked (h : s.Tracked) (hfree : s.adding = none) (tunnelID : String)
    (hasContext : Bool) : ({ s with
      tunnels := (tunnelID, s.created) :: s.tunnels.filter (·.1 != tunnelID)
      objects := update s.objects s.created ⟨hasContext, 0, none⟩
      created := s.created + 1 } : ProxyRuntime).Tracked where
  placed := h.placed
  numbers := h.numbers
  told := h.told
  counted t := by
    by_cases ht : t = s.created
    · have hnone : s.pending t = 0 := by
        refine countP_eq_zero.mpr fun r hr => ?_
        intro htunnel
        have hexisting := h.existing r (h.mem_admitted hr) t (beq_iff_eq.mp htunnel)
        omega
      subst ht
      simpa [hfree, pending, held, «at»] using hnone.symm
    · simp only [update_of_ne ht]
      exact h.counted t
  signalled := h.signalled.clear s.created [] nofun rfl rfl (append_nil _).symm
  existing r hr t ht := Nat.lt_succ_of_lt (h.existing r hr t ht)
  mapped entry hentry := by
    obtain rfl | hentry := mem_cons.mp hentry
    · exact Nat.lt_succ_self _
    · exact Nat.lt_succ_of_lt (h.mapped entry (mem_of_mem_filter hentry))

theorem closed_tracked (h : s.Tracked) (tunnelID : String) :
    ({ s with tunnels := s.tunnels.filter (·.1 != tunnelID) } : ProxyRuntime).Tracked where
  placed := h.placed
  numbers := h.numbers
  told := h.told
  counted := h.counted
  signalled := h.signalled.congr rfl rfl rfl
  existing := h.existing
  mapped entry hentry := h.mapped entry (mem_of_mem_filter hentry)

end ProxyRuntime

end Accounting

section Runs

namespace ProxyRuntime

variable {limits : ProxyLimits} {s s' : ProxyRuntime}

theorem completeResponse_frame (h : s.completeResponse = some s') :
    s'.live = s.live ∧ s'.admitted = s.admitted := by
  unfold completeResponse at h
  split at h
  · next response hloop =>
    cases h
    cases htunnel : response.request.tunnel with
    | none => exact ⟨rfl, rfl⟩
    | some t =>
      obtain ⟨objects, closedSignals, hframe⟩ := completeProxyResponseLocked_frame s t
      simp only [hframe, and_self]
  · cases h

/-- A channel that has ended stays so. -/
theorem step_live (h : s.step limits event = some s') (hlive : s'.live = true) : s.live = true := by
  cases event with
  | opened | closed =>
    simp only [step] at h
    split_ifs at h
    cases h
    exact hlive
  | request req =>
    simp only [step] at h
    split_ifs at h with hguard
    simp only [Bool.or_eq_true, not_or, Bool.not_eq_true, Bool.not_eq_false'] at hguard
    exact hguard.2
  | count =>
    obtain ⟨t, hadding, rfl⟩ := map_eq_some_iff.mp h
    exact hlive
  | takeTask =>
    simp only [step, takeTask] at h
    split at h
    · cases h
    · split_ifs at h <;> cases h <;> exact hlive
  | processTask i result =>
    simp only [step, processTask] at h
    split at h <;> cases h
    exact hlive
  | queueResponse i giveUp =>
    simp only [step, queueProxyConnRsp] at h
    split at h
    · cases h
    · split_ifs at h <;> cases h <;> exact hlive
  | takeResponse =>
    simp only [step, takeResponse] at h
    split at h
    · split_ifs at h <;> cases h <;> exact hlive
    · cases h
  | writeResponse fails =>
    simp only [step, writeProxyConnRsp] at h
    split at h
    · split_ifs at h <;> cases h
      · cases hlive
      · exact hlive
    · cases h
  | completeResponse =>
    simp only [step] at h
    split_ifs at h
    rw [← (completeResponse_frame h).1]
    exact hlive
  | shutdown =>
    cases h
    cases hlive

theorem step_tracked (h : s.Tracked) (hstep : s.step limits event = some s')
    (hlive : s'.live = true) : s'.Tracked := by
  have hbefore := step_live hstep hlive
  cases event with
  | opened tunnelID hasContext =>
    simp only [step] at hstep
    split_ifs at hstep with hadding
    cases hstep
    exact opened_tracked h (not_isSome_iff_eq_none.mp hadding) tunnelID hasContext
  | closed tunnelID =>
    simp only [step] at hstep
    split_ifs at hstep with hadding
    cases hstep
    exact closed_tracked h tunnelID
  | request req =>
    simp only [step] at hstep
    split_ifs at hstep with hadding
    cases hstep
    obtain ⟨r, hadmits, _⟩ := handleProxyConnReq_admits h hlive
    refine hadmits.tracked ?_ h
    simp only [Bool.or_eq_true, not_or] at hadding
    exact not_isSome_iff_eq_none.mp hadding.1
  | count =>
    obtain ⟨t, hadding, rfl⟩ := map_eq_some_iff.mp hstep
    exact addProxyResponseLocked_tracked hadding h
  | takeTask => exact (takeTask_moves hbefore hstep).tracked h
  | processTask i result => exact (processTask_moves hstep).tracked h
  | queueResponse i giveUp => exact (queueProxyConnRsp_moves hbefore hstep).tracked h
  | takeResponse => exact (takeResponse_moves hbefore hstep).tracked h
  | writeResponse fails => exact writeProxyConnRsp_tracked h hlive hstep
  | completeResponse =>
    simp only [step] at hstep
    split_ifs at hstep with hadding
    exact completeResponse_tracked (not_isSome_iff_eq_none.mp hadding) h hstep
  | shutdown =>
    cases hstep
    cases hlive

theorem run_live {events : List ProxyEvent} (h : s.run limits events = some s')
    (hlive : s'.live = true) : s.live = true := by
  induction events generalizing s with
  | nil =>
    cases h
    exact hlive
  | cons event events ih =>
    obtain ⟨s₁, hstep, h⟩ := bind_eq_some_iff.mp h
    exact step_live hstep (ih h)

theorem run_tracked {events : List ProxyEvent} (htracked : s.Tracked)
    (h : s.run limits events = some s') (hlive : s'.live = true) : s'.Tracked := by
  induction events generalizing s with
  | nil =>
    cases h
    exact htracked
  | cons event events ih =>
    obtain ⟨s₁, hstep, h⟩ := bind_eq_some_iff.mp h
    exact ih (step_tracked htracked hstep (run_live h hlive)) h

end ProxyRuntime

/-- The stream IDs of the requests that the read loop handles. -/
def requestedStreams (events : List ProxyEvent) : List String :=
  events.filterMap fun
    | .request req => some req.streamID
    | _ => none

namespace ProxyRuntime

variable {limits : ProxyLimits} {s s' : ProxyRuntime}

/-- A live channel admits every request, in order, and nothing else. -/
theorem step_admitted (htracked : s.Tracked)
    (hstep : s.step limits event = some s') (hlive : s'.live = true) :
    s'.admitted.map (·.streamID) = s.admitted.map (·.streamID) ++ requestedStreams [event] := by
  have hbefore := step_live hstep hlive
  have hnothing : s'.admitted = s.admitted → requestedStreams [event] = [] →
      s'.admitted.map (·.streamID) = s.admitted.map (·.streamID) ++ requestedStreams [event] := by
    intro hadmitted hrequested
    rw [hadmitted, hrequested, append_nil]
  cases event with
  | request req =>
    simp only [step] at hstep
    split_ifs at hstep
    cases hstep
    obtain ⟨r, hadmits, hid⟩ := handleProxyConnReq_admits htracked hlive
    rw [hadmits.admitted, List.map_append, List.map_singleton, hid]
    rfl
  | opened | closed =>
    simp only [step] at hstep
    split_ifs at hstep
    cases hstep
    exact hnothing rfl rfl
  | count =>
    obtain ⟨t, hadding, rfl⟩ := map_eq_some_iff.mp hstep
    exact hnothing rfl rfl
  | takeTask => exact hnothing (takeTask_moves hbefore hstep).admitted rfl
  | processTask i result => exact hnothing (processTask_moves hstep).admitted rfl
  | queueResponse i giveUp => exact hnothing (queueProxyConnRsp_moves hbefore hstep).admitted rfl
  | takeResponse => exact hnothing (takeResponse_moves hbefore hstep).admitted rfl
  | writeResponse fails =>
    refine hnothing ?_ rfl
    simp only [step, writeProxyConnRsp] at hstep
    split at hstep
    · split_ifs at hstep <;> cases hstep <;> rfl
    · cases hstep
  | completeResponse =>
    simp only [step] at hstep
    split_ifs at hstep
    exact hnothing (completeResponse_frame hstep).2 rfl
  | shutdown =>
    cases hstep
    exact hnothing rfl rfl

theorem run_admitted {events : List ProxyEvent} (htracked : s.Tracked)
    (h : s.run limits events = some s') (hlive : s'.live = true) :
    s'.admitted.map (·.streamID) = s.admitted.map (·.streamID) ++ requestedStreams events := by
  induction events generalizing s with
  | nil =>
    cases h
    exact (append_nil _).symm
  | cons event events ih =>
    obtain ⟨s₁, hstep, h⟩ := bind_eq_some_iff.mp h
    have hlive₁ := run_live h hlive
    rw [ih (step_tracked htracked hstep hlive₁) h, step_admitted htracked hstep hlive₁,
      append_assoc]
    simp only [requestedStreams, ← filterMap_append, singleton_append]

/-- What a live channel has done with the requests of a run. -/
structure Answered (events : List ProxyEvent) (s : ProxyRuntime) : Prop where
  /-- The admitted requests are those of the run. -/
  requested : s.admitted.map (·.streamID) = requestedStreams events
  distinct : s.admitted.Nodup
  /-- A request is at one place. -/
  placed : ∀ r ∈ s.admitted, ∃! place, r ∈ s.at place
  /-- It is there once; in particular it was not answered twice. -/
  once : ∀ place, (s.at place).Nodup
  /-- Only requests are answered. -/
  admitted : ∀ place, s.at place ⊆ s.admitted
  /-- When nothing is under way, every request was answered. -/
  idle : (∀ place, place ≠ .answered → s.at place = []) → s.admitted ⊆ s.at .answered
  /-- The count of a tunnel, whenever the mutex is free. -/
  pending : s.adding = none → ∀ t, (s.objects t).proxyPending =
    (s.admitted.filter fun r => r.tunnel = some t && r ∉ s.completed).length
  /-- The drained signal of a tunnel is there and not closed while its count is positive. -/
  drained : ∀ t, (∃ k, (s.objects t).proxyDrained = some k ∧ k ∉ s.closedSignals) ↔
    0 < (s.objects t).proxyPending

theorem Tracked.distinct (h : s.Tracked) : s.admitted.Nodup :=
  Nodup.of_map (·.number) (h.numbers ▸ List.nodup_range)

/-- The places hold the admitted requests, once each. -/
theorem Tracked.places (h : s.Tracked) : (ProxyPlace.all.flatMap s.at).Perm s.admitted := by
  refine Perm.trans (.of_eq ?_) h.placed
  simp only [ProxyPlace.all, flatMap_cons, flatMap_nil, append_nil, held,
    append_assoc]

theorem Tracked.placed_once (h : s.Tracked) : (∀ place, (s.at place).Nodup) ∧
      ∀ place place', place ≠ place' → (s.at place).Disjoint (s.at place') := by
  obtain ⟨honce, hdisjoint⟩ := nodup_flatMap.mp (h.places.nodup_iff.mpr h.distinct)
  refine ⟨fun place => honce place place.mem_all, fun place place' hne => ?_⟩
  have hsymm : Std.Symm (onFun Disjoint s.at) := ⟨fun _ _ hxy => hxy.symm⟩
  exact hdisjoint.forall place.mem_all place'.mem_all hne

theorem Tracked.mem_admitted_iff (h : s.Tracked) : r ∈ s.admitted ↔ ∃ place, r ∈ s.at place := by
  rw [← h.places.mem_iff, mem_flatMap]
  exact ⟨fun ⟨place, _, hr⟩ => ⟨place, hr⟩, fun ⟨place, hr⟩ => ⟨place, place.mem_all, hr⟩⟩

/-- The requests that are not completed are those that are held or not yet told of. -/
theorem Tracked.pending_eq (h : s.Tracked) (t : Nat) :
    s.pending t = (s.admitted.filter fun r => r.tunnel = some t && r ∉ s.completed).length := by
  have hperm : ((s.held ++ s.loop.untold) ++ s.completed).Perm s.admitted := by
    refine Perm.trans ?_ h.placed
    rw [h.told, append_assoc]
    exact perm_append_comm.append_left _
  have hdisjoint := disjoint_of_nodup_append (hperm.nodup_iff.mpr h.distinct)
  rw [← countP_eq_length_filter, ← hperm.countP_eq, countP_append, pending]
  have hcompleted : s.completed.countP (fun r => r.tunnel = some t && r ∉ s.completed) = 0 := by
    refine countP_eq_zero.mpr fun r hr => ?_
    simp [hr]
  rw [hcompleted, Nat.add_zero]
  refine countP_congr fun r hr => ?_
  have hopen : r ∉ s.completed := fun hmem => hdisjoint hr hmem
  simp [hopen]

/-- Every request of a run on a live channel is answered once, and counted at its tunnel until
then. -/
theorem run_answered {events : List ProxyEvent} (hrun : initial.run limits events = some s)
    (hlive : s.live = true) : s.Answered events := by
  have h := run_tracked tracked_initial hrun hlive
  obtain ⟨honce, hdisjoint⟩ := h.placed_once
  refine ⟨run_admitted tracked_initial hrun hlive, h.distinct, fun r hr => ?_, honce,
    fun place r hr => h.mem_admitted_iff.mpr ⟨place, hr⟩, fun hidle r hr => ?_,
    fun hfree t => ?_, fun t => ?_⟩
  · obtain ⟨place, hplace⟩ := h.mem_admitted_iff.mp hr
    refine ⟨place, hplace, fun place' hplace' => ?_⟩
    by_contra hne
    exact hdisjoint place' place hne hplace' hplace
  · obtain ⟨place, hplace⟩ := h.mem_admitted_iff.mp hr
    by_cases hanswered : place = .answered
    · exact hanswered ▸ hplace
    · rw [hidle place hanswered] at hplace
      cases hplace
  · have hcounted := h.counted t
    rw [hfree, h.pending_eq] at hcounted
    simpa using hcounted
  · rw [← h.signalled.waiting t, isSome_iff_exists]
    exact ⟨fun ⟨k, hk, _⟩ => ⟨k, hk⟩, fun ⟨k, hk⟩ => ⟨k, hk, (h.signalled.signals t k hk).2⟩⟩

end ProxyRuntime

namespace ProxySample

/-- Two requests for an open tunnel, the second of them rejected because the queue is full. -/
def events : List ProxyEvent := [
  .opened "tunnel" true,
  .request ⟨"first", "tunnel", none, none⟩, .count,
  .request ⟨"second", "tunnel", none, none⟩, .count,
  .takeTask, .processTask 0 (.ok none),
  .takeResponse, .writeResponse false, .completeResponse,
  .queueResponse 0 false]

def limits : ProxyLimits := ⟨1, 1, 1⟩

theorem run_answered_sample : ∃ s, ProxyRuntime.initial.run limits events = some s ∧
    s.live = true ∧ s.Answered events :=
  have hrun : ProxyRuntime.initial.run limits events = some _ := rfl
  ⟨_, hrun, rfl, ProxyRuntime.run_answered hrun rfl⟩

/-- Queues and workers are idle, and the request is not answered: the response loop has it. -/
theorem responseLoop_holds : ∃ events s, ProxyRuntime.initial.run limits events = some s ∧
    s.live = true ∧ s.adding = none ∧ s.requests = [] ∧ s.processing = [] ∧ s.queueing = [] ∧
    s.responses = [] ∧ s.admitted = [⟨0, "first", some 0⟩] ∧ s.written = [] :=
  ⟨[.opened "tunnel" true, .request ⟨"first", "tunnel", none, none⟩, .count, .takeTask,
    .processTask 0 (.ok none), .queueResponse 0 false, .takeResponse], _, rfl,
    rfl, rfl, rfl, rfl, rfl, rfl, rfl, rfl⟩

end ProxySample

end Runs

end Rstream.Channel
