import Rstream.Command.Reconciler

/-!
# Correctness of the reconciler

The log of the handles and the map of active tunnels say the same: a tunnel is active
when its handle was started and not stopped. A pass that joins no error leaves the
desired tunnels active, and finds nothing to do when it is repeated.
-/

namespace Rstream.Command

open List Reconciler AList

section Log

variable {D : Type} {name : D → String} {s : Reconciler D} {p : Pass D}

/-- The map of active tunnels follows the log. -/
structure Tracks (name : D → String) (s : Reconciler D) : Prop where
  named : ∀ n a, s.active.lookup n = some a → name a.desired = n
  active : ∀ h d, (∃ n, s.active.lookup n = some ⟨d, h⟩) ↔ .started h d ∈ s.ops ∧ .stopped h ∉ s.ops
  once : ∀ h d d', .started h d ∈ s.ops → .started h d' ∈ s.ops → d = d'
  fresh : ∀ h, ((∃ d, .started h d ∈ s.ops) ∨ .stopped h ∈ s.ops) → h < s.next

theorem Tracks.handle_inj (h : Tracks name s) {n n' : String} {a a' : ActiveTunnel D}
    (hn : s.active.lookup n = some a) (hn' : s.active.lookup n' = some a')
    (hhandle : a.handle = a'.handle) : n = n' := by
  obtain ⟨hstarted, _⟩ := (h.active a.handle a.desired).mp ⟨n, hn⟩
  obtain ⟨hstarted', _⟩ := (h.active a'.handle a'.desired).mp ⟨n', hn'⟩
  rw [hhandle] at hstarted
  have hdesired := h.once _ _ _ hstarted hstarted'
  rw [← h.named n a hn, ← h.named n' a' hn', hdesired]

/-- A note that concerns no running handle keeps the map in step with the log. -/
theorem Tracks.note (h : Tracks name s) {op : HandleOp D} (hstart : ∀ h d, op ≠ .started h d)
    (hstop : ∀ h, op ≠ .stopped h) : Tracks name { s with ops := s.ops ++ [op] } := by
  have hstarted : ∀ h d, .started h d ∈ s.ops ++ [op] ↔ .started h d ∈ s.ops := by
    intro h d
    simp [Ne.symm (hstart h d)]
  have hstopped : ∀ h, .stopped h ∈ s.ops ++ [op] ↔ .stopped h ∈ s.ops := by
    intro h
    simp [Ne.symm (hstop h)]
  refine ⟨h.named, fun i d => ?_, fun i d d' => ?_, fun i => ?_⟩
  · rw [hstarted, hstopped]
    exact h.active i d
  · rw [hstarted, hstarted]
    exact h.once i d d'
  · simp only [hstarted, hstopped]
    exact h.fresh i

/-- A tunnel that was stopped is no longer active. -/
theorem Tracks.stopped (h : Tracks name s) {n : String} {current : ActiveTunnel D}
    (hn : s.active.lookup n = some current) :
    Tracks name { s with
      active := s.active.erase n, ops := s.ops ++ [.stopped current.handle] } := by
  have hlookup : ∀ m a, (s.active.erase n).lookup m = some a ↔
      m ≠ n ∧ s.active.lookup m = some a := by
    intro m a
    by_cases hm : m = n
    · subst hm
      simp
    · simp [lookup_erase_ne hm, hm]
  refine ⟨fun m a hm => h.named m a ((hlookup m a).mp hm).2, fun i d => ?_, fun i d d' => ?_,
    fun i hi => ?_⟩
  · simp only [hlookup, mem_append, mem_singleton, reduceCtorEq, or_false,
      HandleOp.stopped.injEq, not_or]
    constructor
    · rintro ⟨m, hmn, hm⟩
      obtain ⟨hstarted, hrunning⟩ := (h.active i d).mp ⟨m, hm⟩
      exact ⟨hstarted, hrunning, fun hi => hmn (h.handle_inj hm hn hi)⟩
    · rintro ⟨hstarted, hrunning, hi⟩
      obtain ⟨m, hm⟩ := (h.active i d).mpr ⟨hstarted, hrunning⟩
      refine ⟨m, fun hmn => hi ?_, hm⟩
      subst hmn
      exact congrArg ActiveTunnel.handle (Option.some.inj (hm.symm.trans hn))
  · simp only [mem_append, mem_singleton, reduceCtorEq, or_false]
    exact h.once i d d'
  · simp only [mem_append, mem_singleton, reduceCtorEq, or_false,
      HandleOp.stopped.injEq] at hi
    rcases hi with hi | hi | rfl
    · exact h.fresh i (.inl hi)
    · exact h.fresh i (.inr hi)
    · exact h.fresh _ (.inl ⟨_, ((h.active _ _).mp ⟨n, hn⟩).1⟩)

/-- A tunnel that was started is active under its name. -/
theorem Tracks.started (h : Tracks name s) {d : D} (hn : s.active.lookup (name d) = none) :
    Tracks name { s with
      active := s.active.insert (name d) ⟨d, s.next⟩
      next := s.next + 1
      ops := s.ops ++ [.started s.next d] } := by
  have hnew : ∀ d', .started s.next d' ∉ s.ops := fun d' hd' =>
    Nat.lt_irrefl _ (h.fresh _ (.inl ⟨d', hd'⟩))
  have hrunning : .stopped s.next ∉ s.ops := fun hs => Nat.lt_irrefl _ (h.fresh _ (.inr hs))
  have hlookup : ∀ m a, (s.active.insert (name d) ⟨d, s.next⟩).lookup m = some a ↔
      m = name d ∧ a = ⟨d, s.next⟩ ∨ s.active.lookup m = some a := by
    intro m a
    by_cases hm : m = name d
    · subst hm
      simp [hn, eq_comm]
    · simp [lookup_insert_ne hm, hm]
  refine ⟨fun m a hm => ?_, fun i d' => ?_, fun i d₁ d₂ => ?_, fun i hi => ?_⟩
  · rcases (hlookup m a).mp hm with ⟨rfl, rfl⟩ | hm
    · rfl
    · exact h.named m a hm
  · simp only [hlookup, mem_append, mem_singleton, reduceCtorEq, or_false,
      HandleOp.started.injEq, exists_or, exists_eq_left, ActiveTunnel.mk.injEq, h.active]
    constructor
    · rintro (⟨rfl, rfl⟩ | ⟨hstarted, hstopped⟩)
      · exact ⟨.inr ⟨rfl, rfl⟩, hrunning⟩
      · exact ⟨.inl hstarted, hstopped⟩
    · rintro ⟨hstarted | ⟨rfl, rfl⟩, hstopped⟩
      · exact .inr ⟨hstarted, hstopped⟩
      · exact .inl ⟨rfl, rfl⟩
  · simp only [mem_append, mem_singleton, HandleOp.started.injEq]
    rintro (h₁ | ⟨rfl, rfl⟩) (h₂ | ⟨hi, rfl⟩)
    · exact h.once i d₁ d₂ h₁ h₂
    · exact absurd (hi ▸ h₁) (hnew d₁)
    · exact absurd h₂ (hnew d₂)
    · rfl
  · simp only [mem_append, mem_singleton, reduceCtorEq, or_false,
      HandleOp.started.injEq] at hi
    rcases hi with ⟨d', hd' | ⟨rfl, _⟩⟩ | hi
    · exact Nat.lt_succ_of_lt (h.fresh i (.inl ⟨d', hd'⟩))
    · exact Nat.lt_succ_self _
    · exact Nat.lt_succ_of_lt (h.fresh i (.inr hi))

end Log

section Loops

variable {D : Type} {name : D → String} {equal : D → D → Bool} {env : ReconcileEnv}
  {desired : AList fun _ : String => D} {p : Pass D} {n : String}

/-- What a stop does to the map: nothing and an error, or the tunnel is gone. -/
theorem Pass.stop_cases (env : ReconcileEnv) (kind n : String) (current : ActiveTunnel D) :
    (∃ p', p.stop env kind n current = (false, p') ∧ p'.active = p.active ∧ p'.reconcileErr ≠ []) ∨
      ∃ p', p.stop env kind n current = (true, p') ∧ p'.active = p.active.erase n ∧
        p'.reconcileErr = p.reconcileErr := by
  unfold Pass.stop
  cases env.stop n with
  | some err => exact .inl ⟨_, rfl, rfl, by simp⟩
  | none => exact .inr ⟨_, rfl, rfl, rfl⟩

theorem Tracks.stop (h : Tracks name p.toReconciler) (kind : String) {current : ActiveTunnel D}
    (hn : p.active.lookup n = some current) :
    Tracks name (p.stop env kind n current).2.toReconciler := by
  unfold Pass.stop
  cases env.stop n with
  | some err => exact h.note nofun nofun
  | none => exact h.stopped hn

theorem Tracks.start (h : Tracks name p.toReconciler) {d : D} (hd : name d = n)
    (hn : p.active.lookup n = none) : Tracks name (p.start env n d).toReconciler := by
  subst hd
  unfold Pass.start
  cases env.start (name d) with
  | failed | nilHandle => exact h.note nofun nofun
  | handle => exact h.started hn

theorem Tracks.remove (h : Tracks name p.toReconciler) (n : String) :
    Tracks name (remove env desired p n).toReconciler := by
  unfold Reconciler.remove
  cases hn : p.active.lookup n with
  | none => exact h
  | some current =>
    simp only
    split_ifs
    · exact h
    · exact h.stop "removed" hn

theorem Tracks.update (hnamed : ∀ n d, desired.lookup n = some d → name d = n)
    (h : Tracks name p.toReconciler) (n : String) :
    Tracks name (update equal env desired p n).toReconciler := by
  unfold Reconciler.update
  cases hd : desired.lookup n with
  | none => exact h
  | some d =>
    cases hn : p.active.lookup n with
    | none => exact h.start (hnamed n d hd) hn
    | some current =>
      simp only
      split_ifs
      · exact h
      · have hstop : Tracks name (p.stop env "updated" n current).2.toReconciler :=
          h.stop "updated" hn
        obtain ⟨p', hp', _⟩ | ⟨p', hp', hgone, _⟩ := p.stop_cases env "updated" n current
        · rw [hp'] at hstop ⊢
          exact hstop
        · rw [hp'] at hstop ⊢
          exact hstop.start (hnamed n d hd) (by rw [hgone, lookup_erase])

theorem Tracks.reconcile {s : Reconciler D} {list : List D}
    (hnamed : ∀ n d, (desiredMap name list).lookup n = some d → name d = n)
    (h : Tracks name s) : Tracks name (s.reconcile name equal env list).toReconciler := by
  refine foldlRecOn (motive := fun p : Pass D => Tracks name p.toReconciler) _ _ ?_
    fun p hp n _ => hp.update hnamed n
  exact foldlRecOn (motive := fun p : Pass D => Tracks name p.toReconciler) _ _ h
    fun p hp n _ => hp.remove n

end Loops

section Outcome

variable {D : Type} {name : D → String} {equal : D → D → Bool} {env : ReconcileEnv}
  {desired : AList fun _ : String => D} {p : Pass D} {n : String}

/-- The errors of a pass are only added to. -/
theorem Reconciler.remove_err (h : (remove env desired p n).reconcileErr = []) :
    p.reconcileErr = [] ∧ (∀ m, m ∈ (remove env desired p n).active → m ∈ p.active) ∧
      (n ∈ (remove env desired p n).active → n ∈ desired) := by
  unfold remove at h ⊢
  cases hn : p.active.lookup n with
  | none =>
    rw [hn] at h
    exact ⟨h, fun _ => id, fun hmem => absurd hmem (lookup_eq_none.mp hn)⟩
  | some current =>
    simp only [hn] at h ⊢
    split_ifs at h ⊢ with hmem
    · exact ⟨h, fun _ => id, fun _ => hmem⟩
    · rcases p.stop_cases env "removed" n current with ⟨p', hp', _, herr⟩ | ⟨p', hp', hgone, herr⟩
      · rw [hp'] at h
        exact absurd h herr
      · rw [hp'] at h ⊢
        refine ⟨herr.symm.trans h, fun m hm => ?_, fun hm => ?_⟩
        · rw [hgone] at hm
          exact (mem_erase.mp hm).2
        · rw [hgone] at hm
          exact absurd rfl (mem_erase.mp hm).1

/-- Without errors the first loop leaves only tunnels that are desired. -/
theorem Reconciler.removeLoop (names : List String)
    (h : (names.foldl (remove env desired) p).reconcileErr = []) :
    p.reconcileErr = [] ∧ (∀ m, m ∈ (names.foldl (remove env desired) p).active → m ∈ p.active) ∧
      ∀ m ∈ names, m ∈ (names.foldl (remove env desired) p).active → m ∈ desired := by
  induction names generalizing p with
  | nil => exact ⟨h, fun _ => id, nofun⟩
  | cons n names ih =>
    obtain ⟨herr, hsub, hdesired⟩ := ih h
    obtain ⟨herr', hsub', hdesired'⟩ := remove_err herr
    refine ⟨herr', fun m hm => hsub' m (hsub m hm), fun m hm hactive => ?_⟩
    rcases mem_cons.mp hm with rfl | hm
    · exact hdesired' (hsub m hactive)
    · exact hdesired m hm hactive

/-- The tunnel of a name is active as desired. -/
def Settled (equal : D → D → Bool) (desired : AList fun _ : String => D)
    (active : AList fun _ : String => ActiveTunnel D) (n : String) : Prop :=
  ∀ d, desired.lookup n = some d → ∃ a, active.lookup n = some a ∧ equal a.desired d = true

/-- A round of the second loop concerns one name. -/
theorem Reconciler.update_other {m : String} (hm : m ≠ n) :
    (update equal env desired p n).active.lookup m = p.active.lookup m := by
  have hstart : ∀ (p : Pass D) d, (p.start env n d).active.lookup m = p.active.lookup m := by
    intro p d
    unfold Pass.start
    cases env.start n with
    | failed | nilHandle => rfl
    | handle => exact lookup_insert_ne hm
  unfold update
  cases desired.lookup n with
  | none => rfl
  | some d =>
    cases hn : p.active.lookup n with
    | none => exact hstart p d
    | some current =>
      simp only
      split_ifs
      · rfl
      · rcases p.stop_cases env "updated" n current with ⟨p', hp', hsame, _⟩ | ⟨p', hp', hgone, _⟩
        · rw [hp']
          exact congrArg _ hsame
        · rw [hp']
          exact (hstart p' d).trans (by rw [hgone, lookup_erase_ne hm])

/-- Without an error the tunnel of the name is active as desired. -/
theorem Reconciler.update_settled (hequal : ∀ d, equal d d = true)
    (h : (update equal env desired p n).reconcileErr = []) :
    p.reconcileErr = [] ∧ Settled equal desired (update equal env desired p n).active n := by
  have hstart : ∀ (p : Pass D) d, (p.start env n d).reconcileErr = [] →
      p.reconcileErr = [] ∧ ∃ h, (p.start env n d).active.lookup n = some ⟨d, h⟩ := by
    intro p d h
    unfold Pass.start at h ⊢
    cases hs : env.start n with
    | failed | nilHandle => simp [hs] at h
    | handle =>
      rw [hs] at h
      exact ⟨h, p.next, lookup_insert _⟩
  unfold update at h ⊢
  cases hd : desired.lookup n with
  | none =>
    simp only [hd] at h ⊢
    refine ⟨h, fun d hd' => ?_⟩
    rw [hd] at hd'
    cases hd'
  | some d =>
    have hsettled : ∀ active : AList (fun _ : String => ActiveTunnel D),
        (∃ a, active.lookup n = some a ∧ equal a.desired d = true) →
        Settled equal desired active n := by
      intro active ha d' hd'
      rw [hd] at hd'
      exact Option.some.inj hd' ▸ ha
    simp only [hd] at h ⊢
    cases hn : p.active.lookup n with
    | none =>
      simp only [hn] at h ⊢
      obtain ⟨herr, i, hi⟩ := hstart p d h
      exact ⟨herr, hsettled _ ⟨_, hi, hequal d⟩⟩
    | some current =>
      simp only [hn] at h ⊢
      split_ifs at h ⊢ with heq
      · exact ⟨h, hsettled _ ⟨current, hn, heq⟩⟩
      · rcases p.stop_cases env "updated" n current with ⟨p', hp', _, herr⟩ | ⟨p', hp', _, herr⟩
        · rw [hp'] at h
          exact absurd h herr
        · rw [hp'] at h ⊢
          obtain ⟨herr', i, hi⟩ := hstart p' d h
          exact ⟨herr.symm.trans herr', hsettled _ ⟨_, hi, hequal d⟩⟩

/-- Without errors the second loop settles every name it visits. -/
theorem Reconciler.updateLoop (hequal : ∀ d, equal d d = true) (names : List String)
    (hnodup : names.Nodup) (h : (names.foldl (update equal env desired) p).reconcileErr = []) :
    p.reconcileErr = [] ∧
      (∀ m, m ∉ names → (names.foldl (update equal env desired) p).active.lookup m =
        p.active.lookup m) ∧
      ∀ m ∈ names, Settled equal desired (names.foldl (update equal env desired) p).active m := by
  induction names generalizing p with
  | nil => exact ⟨h, fun _ _ => rfl, nofun⟩
  | cons n names ih =>
    obtain ⟨hn, hnodup⟩ := nodup_cons.mp hnodup
    obtain ⟨herr, hothers, hsettled⟩ := ih hnodup h
    obtain ⟨herr', hsettled'⟩ := update_settled hequal herr
    refine ⟨herr', fun m hm => ?_, fun m hm => ?_⟩
    · simp only [mem_cons, not_or] at hm
      obtain ⟨hmn, hm⟩ := hm
      rw [foldl_cons, hothers m hm, update_other hmn]
    · rcases mem_cons.mp hm with rfl | hm
      · intro d hd
        rw [foldl_cons, hothers m hn]
        exact hsettled' d hd
      · exact hsettled m hm

variable {list : List D}

/-- The tunnels of a list without duplicate names, by name. -/
theorem Reconciler.lookup_desiredMap (hnodup : (list.map name).Nodup) {d : D} :
    (desiredMap name list).lookup n = some d ↔ d ∈ list ∧ name d = n := by
  have hfold : ∀ (list : List D) (m : AList fun _ : String => D), (list.map name).Nodup →
      ((list.foldl (fun m d => m.insert (name d) d) m).lookup n = some d ↔
        (d ∈ list ∧ name d = n) ∨ (n ∉ list.map name ∧ m.lookup n = some d)) := by
    intro list
    induction list with
    | nil => simp
    | cons d' list ih =>
      intro m hnodup
      obtain ⟨hnew, hnodup⟩ := nodup_cons.mp hnodup
      rw [foldl_cons, ih _ hnodup]
      by_cases hn : n = name d'
      · subst hn
        have hother : ∀ e ∈ list, name e ≠ name d' := fun e he heq =>
          hnew (heq ▸ mem_map_of_mem he)
        simp only [lookup_insert, Option.some.injEq, hnew, not_false_eq_true, true_and,
          mem_cons, map_cons, not_true_eq_false, false_and, or_false]
        constructor
        · rintro (⟨hd, hname⟩ | rfl)
          · exact absurd hname (hother d hd)
          · exact ⟨.inl rfl, rfl⟩
        · rintro ⟨rfl | hd, hname⟩
          · exact .inr rfl
          · exact absurd hname (hother d hd)
      · have hne : d = d' → name d ≠ n := by
          rintro rfl heq
          exact hn heq.symm
        simp only [lookup_insert_ne hn, mem_cons, map_cons, hn, false_or]
        constructor
        · rintro (⟨hd, hname⟩ | hrest)
          · exact .inl ⟨.inr hd, hname⟩
          · exact .inr hrest
        · rintro (⟨hd | hd, hname⟩ | hrest)
          · exact absurd hname (hne hd)
          · exact .inl ⟨hd, hname⟩
          · exact .inr hrest
  simpa [desiredMap] using hfold list ∅ hnodup

theorem Reconciler.mem_desiredMap (hnodup : (list.map name).Nodup) :
    n ∈ desiredMap name list ↔ n ∈ list.map name := by
  rw [← lookup_isSome, Option.isSome_iff_exists, mem_map]
  simp only [lookup_desiredMap hnodup]

/-- The active tunnels are the desired ones. -/
def Reconciler.Matches (name : D → String) (equal : D → D → Bool) (desired : List D)
    (s : Reconciler D) : Prop :=
  (∀ n, n ∈ s.active ↔ n ∈ desired.map name) ∧
    ∀ d ∈ desired, ∃ a, s.active.lookup (name d) = some a ∧ equal a.desired d = true

/-- A pass without errors leaves the desired tunnels active. -/
theorem Reconciler.reconcile_matches {s : Reconciler D}
    (hequal : ∀ d, equal d d = true) (hnodup : (list.map name).Nodup)
    (h : (s.reconcile name equal env list).reconcileErr = []) :
    (s.reconcile name equal env list).toReconciler.Matches name equal list := by
  have hkeys := env.startOrder.perm (desiredMap name list).keys
  obtain ⟨herr, hothers, hsettled⟩ :=
    updateLoop hequal _ (hkeys.nodup_iff.mpr (keys_nodup _)) h
  obtain ⟨_, hsub, hremoved⟩ := removeLoop _ herr
  have hmem : ∀ m, m ∈ env.startOrder.order (desiredMap name list).keys ↔ m ∈ list.map name :=
    fun m => hkeys.mem_iff.trans (mem_desiredMap hnodup)
  have hfound : ∀ d ∈ list, ∃ a,
      (s.reconcile name equal env list).active.lookup (name d) = some a ∧
        equal a.desired d = true := fun d hd =>
    hsettled (name d) ((hmem _).mpr (mem_map_of_mem hd)) d
      ((lookup_desiredMap hnodup).mpr ⟨hd, rfl⟩)
  refine ⟨fun m => ⟨fun hactive => ?_, fun hdesired => ?_⟩, hfound⟩
  · by_contra hm
    -- A name that is not desired was active before the second loop, and the first one removed it.
    have hsame := hothers m fun hvisited => hm ((hmem m).mp hvisited)
    have hbefore : m ∈ ((env.removeOrder.order s.active.keys).foldl
        (remove env (desiredMap name list)) ⟨s, []⟩).active := by
      rw [← lookup_isSome, ← hsame, lookup_isSome]
      exact hactive
    have hvisited : m ∈ env.removeOrder.order s.active.keys :=
      (env.removeOrder.perm _).mem_iff.mpr (hsub m hbefore)
    exact hm ((mem_desiredMap hnodup).mp (hremoved m hvisited hbefore))
  · obtain ⟨d, hd, rfl⟩ := mem_map.mp hdesired
    obtain ⟨a, ha, _⟩ := hfound d hd
    exact lookup_isSome.mp (by rw [ha]; rfl)

/-- A pass over the desired tunnels does nothing. -/
theorem Reconciler.Matches.reconcile {s : Reconciler D} (env : ReconcileEnv)
    (hnodup : (list.map name).Nodup) (h : s.Matches name equal list) :
    s.reconcile name equal env list = ⟨s, []⟩ := by
  have hremove : ∀ n, remove env (desiredMap name list) ⟨s, []⟩ n = ⟨s, []⟩ := by
    intro n
    unfold remove
    cases hn : s.active.lookup n with
    | none => simp
    | some current =>
      have hmem : n ∈ s.active := lookup_isSome.mp (by simp [hn])
      simp [(mem_desiredMap hnodup).mpr ((h.1 n).mp hmem)]
  have hupdate : ∀ n, update equal env (desiredMap name list) ⟨s, []⟩ n = ⟨s, []⟩ := by
    intro n
    unfold update
    cases hd : (desiredMap name list).lookup n with
    | none => rfl
    | some d =>
      obtain ⟨hmem, rfl⟩ := (lookup_desiredMap hnodup).mp hd
      obtain ⟨a, ha, heq⟩ := h.2 d hmem
      simp [ha, heq]
  rw [Reconciler.reconcile, foldl_fixed' hremove, foldl_fixed' hupdate]

end Outcome

section Calls

/-- The checks pass when no name is empty and none appears twice. -/
theorem checkNames_eq_none {names : List String} :
    checkNames names = none ↔ (∀ n ∈ names, n ≠ "") ∧ names.Nodup := by
  have hgo : ∀ seen, checkNames.go seen names = none ↔
      (∀ n ∈ names, n ≠ "" ∧ n ∉ seen) ∧ names.Nodup := by
    induction names with
    | nil => simp [checkNames.go]
    | cons n names ih =>
      intro seen
      unfold checkNames.go
      split_ifs with hempty hseen
      · simp [hempty]
      · simp [hseen]
      · rw [ih]
        rw [forall_mem_cons, nodup_cons]
        simp only [mem_cons, not_or]
        constructor
        · rintro ⟨hrest, hnodup⟩
          exact ⟨⟨⟨hempty, hseen⟩, fun m hm => ⟨(hrest m hm).1, (hrest m hm).2.2⟩⟩,
            fun hn => (hrest n hn).2.1 rfl, hnodup⟩
        · rintro ⟨⟨_, hrest⟩, hnew, hnodup⟩
          exact ⟨fun m hm => ⟨(hrest m hm).1, fun heq => hnew (heq ▸ hm), (hrest m hm).2⟩, hnodup⟩
  simpa using! hgo []

variable {Dialer TLSConfig TransportConfig Props : Type} [DecidableEq TransportConfig]
  [DecidableEq Props]

theorem equalDesired_refl (d : DesiredTunnel Dialer TLSConfig TransportConfig Props) :
    equalDesired d d = true := by
  simp [equalDesired]

/-- The log and the map of a reconciler agree, and no two live handles share a name. -/
structure Reconciler.Consistent
    (s : Reconciler (DesiredTunnel Dialer TLSConfig TransportConfig Props)) : Prop where
  oneLive : ∀ h h' d d', .started h d ∈ s.ops → .stopped h ∉ s.ops → .started h' d' ∈ s.ops →
    .stopped h' ∉ s.ops → d.name = d'.name → h = h'
  active : ∀ n a, s.active.lookup n = some a ↔
    a.desired.name = n ∧ .started a.handle a.desired ∈ s.ops ∧ .stopped a.handle ∉ s.ops

omit [DecidableEq TransportConfig] [DecidableEq Props] in
theorem Tracks.consistent {s : Reconciler (DesiredTunnel Dialer TLSConfig TransportConfig Props)}
    (h : Tracks (·.name) s) : s.Consistent := by
  have hactive : ∀ i d, .started i d ∈ s.ops → .stopped i ∉ s.ops →
      s.active.lookup d.name = some ⟨d, i⟩ := by
    intro i d hstarted hstopped
    obtain ⟨n, hn⟩ := (h.active i d).mpr ⟨hstarted, hstopped⟩
    have hname : d.name = n := h.named n _ hn
    rw [hname]
    exact hn
  refine ⟨fun i i' d d' hi hi₀ hi' hi₀' hname => ?_, fun n a => ⟨fun hn => ?_, ?_⟩⟩
  · have heq := (hactive i d hi hi₀).symm.trans (hname ▸ hactive i' d' hi' hi₀')
    exact congrArg ActiveTunnel.handle (Option.some.inj heq)
  · exact ⟨h.named n a hn, (h.active a.handle a.desired).mp ⟨n, hn⟩⟩
  · rintro ⟨rfl, hstarted, hstopped⟩
    exact hactive a.handle a.desired hstarted hstopped

theorem Tracks.reconcileCall {s : Reconciler (DesiredTunnel Dialer TLSConfig TransportConfig Props)}
    (h : Tracks (·.name) s) (env : ReconcileEnv)
    (desired : List (DesiredTunnel Dialer TLSConfig TransportConfig Props)) :
    Tracks (·.name) (s.reconcileCall env desired).2 := by
  unfold Reconciler.reconcileCall
  cases hnames : checkNames (desired.map (·.name)) with
  | some err => exact h
  | none =>
    refine h.reconcile fun n d hd => ?_
    exact ((lookup_desiredMap (checkNames_eq_none.mp hnames).2).mp hd).2

theorem Reconciler.run_tracks
    (events : List (ReconcilerEvent (DesiredTunnel Dialer TLSConfig TransportConfig Props))) :
    Tracks (·.name) (run events) := by
  refine foldlRecOn _ _ ⟨fun n a hn => ?_, fun h d => ?_, fun h d d' hd => ?_, fun h hh => ?_⟩
    fun s hs e _ => ?_
  · simp [new] at hn
  · simp [new]
  · simp [new] at hd
  · simp [new] at hh
  · cases e with
    | reconcile env desired => exact hs.reconcileCall env desired
    | exit handle => exact hs.note nofun nofun

/-- Workers return. -/
def Reconciler.exits (handles : List Nat)
    (s : Reconciler (DesiredTunnel Dialer TLSConfig TransportConfig Props)) :
    Reconciler (DesiredTunnel Dialer TLSConfig TransportConfig Props) :=
  { s with ops := s.ops ++ handles.map .exited }

/-- **Reconciler.** After every sequence of calls and worker exits the active tunnels are the
handles that were started and not stopped, one for each name; a list with an empty or a duplicate
name changes nothing; a call that returns no error leaves the desired tunnels active, and repeating
it then starts and stops nothing. -/
theorem reconciler_correct
    (events : List (ReconcilerEvent (DesiredTunnel Dialer TLSConfig TransportConfig Props))) :
    (run events).Consistent ∧
      (∀ env desired, (∃ d ∈ desired, d.name = "") ∨ ¬ (desired.map (·.name)).Nodup →
        ∃ err, (run events).reconcileCall env desired =
          (some err, run events)) ∧
      ∀ env desired s', (run events).reconcileCall env desired = (none, s') →
        s'.Matches (·.name) equalDesired desired ∧
          ∀ handles env', (s'.exits handles).reconcileCall env' desired =
            (none, s'.exits handles) := by
  refine ⟨(run_tracks events).consistent, fun env desired hbad => ?_,
    fun env desired s' hcall => ?_⟩
  · cases hnames : checkNames (desired.map (·.name)) with
    | none =>
      obtain ⟨hempty, hnodup⟩ := checkNames_eq_none.mp hnames
      rcases hbad with ⟨d, hd, hname⟩ | hdup
      · exact absurd hname (hempty _ (mem_map_of_mem hd))
      · exact absurd hnodup hdup
    | some err => exact ⟨err, by simp [reconcileCall, hnames]⟩
  · cases hnames : checkNames (desired.map (·.name)) with
    | some err => simp [reconcileCall, hnames] at hcall
    | none =>
      obtain ⟨_, hnodup⟩ := checkNames_eq_none.mp hnames
      simp only [reconcileCall, hnames, Prod.mk.injEq, ite_eq_left_iff, reduceCtorEq,
        imp_false, not_not] at hcall
      obtain ⟨herr, rfl⟩ := hcall
      have hmatches := reconcile_matches equalDesired_refl hnodup herr
      refine ⟨hmatches, fun handles env' => ?_⟩
      have hrepeat := Reconciler.Matches.reconcile env' hnodup
        (s := exits handles _) hmatches
      simp only [reconcileCall, hnames, hrepeat, if_true]

/-- A call that starts one tunnel. -/
def startsAll : ReconcileEnv where
  removeOrder := ⟨id, fun _ => .refl _⟩
  startOrder := ⟨id, fun _ => .refl _⟩
  stop _ := none
  start _ := .handle

/-- A tunnel to a local web server. -/
def webTunnel : DesiredTunnel Unit Unit Unit Unit where
  name := "web"
  forward := ⟨"localhost", "8080"⟩
  context := ⟨"default", "engine.example", "", "token", none, none, none, ""⟩
  props := ()
  source := "apply"

theorem reconciler_correct_sample :
    ∃ s', (run []).reconcileCall startsAll [webTunnel] = (none, s') ∧
      s'.Matches (·.name) equalDesired [webTunnel] := by
  have hcall : (run []).reconcileCall startsAll [webTunnel] = (none, _) := rfl
  exact ⟨_, hcall, ((reconciler_correct []).2.2 _ _ _ hcall).1⟩

end Calls

end Rstream.Command
