import Rstream.Filesystem.Locking

/-!
# Recovery

Completing a receipt and recovering the attempt of a stopped process, under the
mutation lock. Recovery only looks at what the disk still holds; the invariant of
the journal makes its answer right.
-/

namespace Rstream.Filesystem

open Rstream.Core Prog

/-- A receipt with the given state may be written for the pending attempt. -/
structure Settling (P : Primitives) (record : Record) (state : UploadState) (d : Disk) : Prop where
  vacant : d.receiptOf P record.id = none
  pending : ∃ q, d.pending = some q ∧ q.id = record.id
  committed : state = .committed → ∃ e ∈ d.replaced, Matches P record e
  refused : state = .rejected ∨ state = .interrupted → d.Untouched record.id

/-- The receipt is written; the pending record may still be there. -/
structure Settled (P : Primitives) (record : Record) (d : Disk) : Prop where
  receipt : d.receiptOf P record.id = some record
  pending : ∀ q, d.pending = some q → q.id = record.id

/-- The pending attempt has no receipt, and its record reads as `record`. -/
structure Recovering (P : Primitives) (record : Record) (d : Disk) : Prop where
  vacant : d.receiptOf P record.id = none
  pending : ∃ q, d.pending = some q ∧ decodeRecord P q = .ok record

variable {P : Primitives} {w : Worker} {d : Disk} {record : Record} {state : UploadState}
  {status : Nat}

theorem Settling.truthful (h : Settling P record state d) (hterminal : state.isTerminal = true)
    (now : String) : Truthful P d (record.complete state status now) := by
  refine ⟨hterminal, fun hstate => ?_, h.refused⟩
  obtain ⟨e, he, hmatches⟩ := h.committed hstate
  exact ⟨e, he, hmatches.complete state status now⟩

theorem writeReceipt_locked (hterminal : state.isTerminal = true) (now : String) :
    Locked P w (Settling P record state)
      (writeReceipt P (record.complete state status now)) fun res d =>
        match res with
        | .ok () => Settled P (record.complete state status now) d
        | .error _ => True := by
  refine .writeJournalFile (fun d hd h => ⟨?_, ?_, ?_⟩) (fun _ _ => trivial) fun _ _ => trivial
  · exact hd.writeReceipt h.pending h.vacant (h.truthful hterminal now)
  · simp [Disk.receiptOf]
  · obtain ⟨q, hq, hid⟩ := h.pending
    intro q' hq'
    obtain rfl : q = q' := Option.some.inj (hq.symm.trans hq')
    exact hid

theorem removePending_settled :
    Locked P w (Settled P record) removePending fun res d => Settled P record d ∧
      ((res = .ok () ∨ ∃ err, res = .error err ∧ isNotExist err = true) → d.pending = none) := by
  refine .removePending (fun d h q hq => ?_) fun d h => ⟨h.receipt, nofun⟩
  rw [h.pending q hq, h.receipt]
  exact Option.some_ne_none record

theorem removePending_known (id : String) :
    Locked P w (fun d => d.receiptOf P id ≠ none ∧ ∀ q, d.pending = some q → q.id = id)
      removePending fun res d => res = .ok () → d.pending = none := by
  refine Locked.weaken (.removePending (fun d h q hq => ?_) fun d h => ⟨h.1, fun q hq => ?_⟩)
    fun res d _ h hok => h.2 (.inl hok)
  · rw [h.2 q hq]
    exact h.1
  · cases hq

/-- `completeReceipt` leaves the completed record behind and no pending one. -/
theorem completeReceipt_locked (hterminal : state.isTerminal = true) :
    Locked P w (Settling P record state) (completeReceipt P record state status)
      fun res d => ∃ now, res.1 = record.complete state status now ∧
        (res.2 = .ok () → d.pending = none ∧ d.receiptOf P record.id = some res.1) := by
  refine Locked.receive.bind fun now => (writeReceipt_locked hterminal now).bind fun written => ?_
  cases written with
  | error err => exact .pure fun d _ _ => ⟨now, rfl, nofun⟩
  | ok _ =>
    refine removePending_settled.bind fun removed => ?_
    cases removed with
    | ok _ =>
      refine Locked.external.bind fun synced => .pure fun d _ h => ⟨now, rfl, fun _ => ?_⟩
      exact ⟨h.2 (.inl rfl), h.1.receipt⟩
    | error err =>
      dsimp only
      split
      next hnot =>
        refine Locked.external.bind fun synced => .pure fun d _ h => ⟨now, rfl, fun _ => ?_⟩
        exact ⟨h.2 (.inr ⟨err, rfl, hnot⟩), h.1.receipt⟩
      · exact .pure fun d _ _ => ⟨now, rfl, nofun⟩

/-- The end of a recovery leaves no pending record. -/
theorem settle_locked (hterminal : state.isTerminal = true) :
    Locked P w (Settling P record state) (settle P record state status)
      fun res d => res = .ok () → d.pending = none := by
  refine (completeReceipt_locked hterminal).bind fun completed => .pure fun d _ h hok => ?_
  obtain ⟨_, _, hdone⟩ := h
  exact (hdone hok).1

section

variable (h : Recovering P record d)
include h

/-- Recovery may always settle on an outcome that claims nothing. -/
theorem Recovering.uncertain : Settling P record .uncertain d := by
  obtain ⟨q, hq, hdecode⟩ := h.pending
  cases decodeRecord_eq_ok hdecode
  exact ⟨h.vacant, ⟨q, hq, rfl⟩, by simp, by simp⟩

theorem Recovering.interrupted (huntouched : d.Untouched record.id) :
    Settling P record .interrupted d :=
  ⟨h.vacant, h.uncertain.pending, by simp, fun _ => huntouched⟩

theorem Recovering.committed
    (hreplaced : ∃ e ∈ d.replaced, Matches P record e) : Settling P record .committed d :=
  ⟨h.vacant, h.uncertain.pending, fun _ => hreplaced, by simp⟩

/-- What the journal says of the attempt being recovered. -/
theorem Recovering.attempted (hd : Journal P d) :
    ∃ q, decodeRecord P q = .ok record ∧ q.state = record.state ∧ q.id = record.id ∧
      Attempted P d q := by
  obtain ⟨q, hq, hdecode⟩ := h.pending
  have heq := decodeRecord_eq_ok hdecode
  have hid : q.id = record.id := by rw [heq]
  have hstate : q.state = record.state := by rw [heq]
  exact ⟨q, hdecode, hstate, hid, (hd.pending q hq).2 (hid ▸ h.vacant)⟩

theorem Recovering.untouched_of_receiving (hd : Journal P d)
    (hstate : record.state = .receiving) : d.Untouched record.id := by
  obtain ⟨q, _, hq, hid, hattempted⟩ := h.attempted hd
  simp only [Attempted, hq, hstate] at hattempted
  exact hid ▸ hattempted

/-- What the journal says of a prepared attempt being recovered. -/
theorem Recovering.prepared (hd : Journal P d) (hstate : record.state = .prepared) :
    ∃ q temporary base i, decodeRecord P q = .ok record ∧ q.id = record.id ∧
      Prepared P d q temporary base i := by
  obtain ⟨q, hdecode, hq, hid, hattempted⟩ := h.attempted hd
  simp only [Attempted, hq, hstate] at hattempted
  obtain ⟨temporary, base, i, hprepared⟩ := hattempted
  exact ⟨q, temporary, base, i, hdecode, hid, hprepared⟩

/-- While its staging file is there, a prepared attempt has no effect. -/
theorem Recovering.untouched_of_staging (hd : Journal P d)
    (hstate : record.state = .prepared) {temporary : Path}
    (htemporary : record.temporary = some temporary) (hentry : d.entries.lookup temporary ≠ none) :
    d.Untouched record.id := by
  obtain ⟨q, temporary₀, base, i, hdecode, hid, hprepared⟩ := h.prepared hd hstate
  rw [decodeRecord_eq_ok hdecode] at htemporary
  simp only [hprepared.staging, Option.map_some, Option.some.injEq] at htemporary
  subst htemporary
  rcases hprepared.progress with hstaged | hrenamed
  · exact hid ▸ hstaged.untouched
  · exact absurd (hrenamed.gone _ (getLast?_journaled hprepared.last hprepared.name)) hentry

/-- A file with the recorded identity that is reached through the target got there by the
rename. -/
theorem Recovering.replaced (hd : Journal P d)
    (hstate : record.state = .prepared) (reached : Path) {i : Nat}
    (hreached : reached = record.target ∨ isStaging reached = false)
    (hentry : d.entries.lookup reached = some i) (hidentity : record.fileIdentity = some i) :
    ∃ e ∈ d.replaced, Matches P record e := by
  obtain ⟨q, temporary, base, j, hdecode, hid, hprepared⟩ := h.prepared hd hstate
  rcases hprepared.progress with hstaged | hrenamed
  · have hsame : record.fileIdentity = some j := by
      rw [decodeRecord_eq_ok hdecode]
      exact hprepared.identity
    obtain rfl : i = j := Option.some.inj (hidentity.symm.trans hsame)
    have hstaging : isStaging reached = true := by
      rw [hstaged.sole reached hentry]
      exact isStaging_iff.mpr ⟨base, hprepared.last, hprepared.name.marked⟩
    rcases hreached with rfl | hreached
    · rw [decodeRecord_eq_ok hdecode] at hstaging
      have htarget := hprepared.target
      rw [isStaging_of_journaled hstaging] at htarget
      cases htarget
    · rw [hreached] at hstaging
      cases hstaging
  · obtain ⟨e, he, hmatches, htarget⟩ := hrenamed.replaced
    exact ⟨e, he, hmatches.decode htarget hdecode⟩

end

/-- The target of a prepared attempt, opened for recovery. -/
theorem openFile_recovering (hstate : record.state = .prepared) :
    Locked P w (Recovering P record) (openFile record.target) fun res d =>
      Recovering P record d ∧ ∀ i, res = .ok i → record.fileIdentity = some i →
        ∃ e ∈ d.replaced, Matches P record e := by
  refine .look ?_
  intro s outcome res s' hd h hstep
  cases outcome with
  | error err =>
    dsimp only at hstep
    split at hstep
    · cases hstep
    · cases hstep
      exact ⟨rfl, h, fun i hi => (by cases hi)⟩
  | ok reached =>
    dsimp only at hstep
    split at hstep
    · cases hstep
    next hreached =>
      cases hentry : s.disk.entries.lookup reached with
      | none =>
        simp only [hentry] at hstep
        cases hstep
        exact ⟨rfl, h, fun i hi => (by cases hi)⟩
      | some i =>
        simp only [hentry] at hstep
        cases hstep
        refine ⟨rfl, h, fun i' hi' hidentity => ?_⟩
        cases hi'
        refine h.replaced hd hstate reached ?_ hentry hidentity
        by_cases hp : reached = record.target
        · exact .inl hp
        · exact .inr (by simpa [hp] using hreached)

/-- The entry of a staging file, looked up for recovery. -/
theorem lstat_recovering (hstate : record.state = .prepared) {temporary : Path}
    (htemporary : record.temporary = some temporary) :
    Locked P w (Recovering P record) (lstat temporary) fun res d =>
      Recovering P record d ∧ (res = .ok () → d.Untouched record.id) := by
  refine .look ?_
  intro s fault res s' hd h hstep
  cases fault with
  | some err =>
    dsimp only at hstep
    split at hstep
    · cases hstep
    · cases hstep
      exact ⟨rfl, h, fun hok => (by cases hok)⟩
  | none =>
    cases hentry : s.disk.entries.lookup temporary with
    | none =>
      simp only [hentry] at hstep
      cases hstep
      exact ⟨rfl, h, fun hok => (by cases hok)⟩
    | some i =>
      simp only [hentry] at hstep
      cases hstep
      refine ⟨rfl, h, fun _ => h.untouched_of_staging hd hstate htemporary ?_⟩
      rw [hentry]
      exact Option.some_ne_none i

/-- Removing a staging file does not disturb the recovery of an attempt without effect. -/
theorem remove_recovering (temporary : Path) :
    Locked P w (fun d => Recovering P record d ∧ d.Untouched record.id) (remove temporary)
      fun _ d => Recovering P record d ∧ d.Untouched record.id :=
  .remove temporary fun _ h => ⟨⟨h.1.vacant, h.1.pending⟩, h.2⟩

theorem settle_interrupted :
    Locked P w (fun d => Recovering P record d ∧ d.Untouched record.id)
      (settle P record .interrupted status) fun res d => res = .ok () → d.pending = none :=
  (settle_locked rfl).strengthen fun _ _ h => h.1.interrupted h.2

theorem inferCommit_locked (hstate : record.state = .prepared) :
    Locked P w (Recovering P record) (inferCommit P record)
      fun res d => res = .ok () → d.pending = none := by
  refine (openFile_recovering hstate).bind fun opened => ?_
  cases opened with
  | error err =>
    dsimp only
    split
    · exact (settle_locked rfl).strengthen fun d _ h => h.1.uncertain
    · exact .pure fun d _ _ hok => by cases hok
  | ok i =>
    refine Locked.external.bind fun checked => ?_
    cases checked with
    | error err => exact .pure fun d _ _ hok => by cases hok
    | ok _ =>
      refine (Locked.inspect fun d => d.content i).bind fun content => ?_
      refine Locked.receive.bind fun identified => ?_
      split
      next hmatch =>
        refine Locked.external.bind fun synced => ?_
        cases synced with
        | error err => exact .pure fun d _ _ hok => by cases hok
        | ok _ =>
          exact (settle_locked rfl).strengthen fun d _ h =>
            h.1.1.committed (h.1.2 i rfl hmatch.2.1)
      · exact (settle_locked rfl).strengthen fun d _ h => h.1.1.uncertain

theorem recoverReceiving_locked :
    Locked P w (fun d => Recovering P record d ∧ d.Untouched record.id)
      (recoverReceiving P record) fun res d => res = .ok () → d.pending = none := by
  unfold recoverReceiving
  cases record.temporary with
  | none => exact settle_interrupted
  | some temporary =>
    refine (remove_recovering temporary).bind fun removed => ?_
    cases removed with
    | ok _ => exact settle_interrupted
    | error err =>
      dsimp only
      split
      · exact settle_interrupted
      · exact .pure fun d _ _ hok => by cases hok

theorem recoverPrepared_locked (hstate : record.state = .prepared) :
    Locked P w (Recovering P record) (recoverPrepared P record)
      fun res d => res = .ok () → d.pending = none := by
  unfold recoverPrepared
  cases htemporary : record.temporary with
  | none => exact .pure fun d _ _ hok => by cases hok
  | some temporary =>
    refine (lstat_recovering hstate htemporary).bind fun found => ?_
    cases found with
    | ok _ =>
      refine ((remove_recovering temporary).strengthen fun d _ h => ⟨h.1, h.2 rfl⟩).bind ?_
      intro removed
      cases removed with
      | ok _ => exact settle_interrupted
      | error err => exact .pure fun d _ _ hok => by cases hok
    | error err =>
      dsimp only
      split
      · exact (inferCommit_locked hstate).strengthen fun d _ h => h.1
      · exact .pure fun d _ _ hok => by cases hok

theorem recoverAttempt_locked :
    Locked P w (Recovering P record) (recoverAttempt P record)
      fun res d => res = .ok () → d.pending = none := by
  unfold recoverAttempt
  split
  · exact .pure fun d _ _ hok => by cases hok
  · cases hstate : record.state with
    | receiving =>
      exact recoverReceiving_locked.strengthen fun d hd h =>
        ⟨h, h.untouched_of_receiving hd hstate⟩
    | prepared => exact recoverPrepared_locked hstate
    | committed | rejected | interrupted | uncertain => exact .pure fun d _ _ hok => by cases hok

/-- After a recovery that succeeds there is no pending record. -/
theorem recoverReceipt_locked :
    Locked P w (fun _ => True) (recoverReceipt P)
      fun res d => res = .ok () → d.pending = none := by
  refine (Locked.readReceiptFile Disk.pending).bind fun pending => ?_
  cases pending with
  | error err =>
    refine .pure fun d _ h hok => h.2.2 err rfl ?_
    by_contra hnot
    simp [hnot] at hok
  | ok record =>
    refine (Locked.readReceiptFile fun d => d.receiptOf P record.id).bind fun terminal => ?_
    cases terminal with
    | ok terminal =>
      dsimp only
      split
      · exact .pure nofun
      · refine Locked.bind ((removePending_known record.id).strengthen ?_) fun removed => ?_
        · rintro d _ ⟨⟨_, hpending, _⟩, hterminal, _⟩
          obtain ⟨stored, hstored, _⟩ := hterminal terminal rfl
          obtain ⟨q, hq, hdecode⟩ := hpending record rfl
          refine ⟨by rw [hstored]; exact Option.some_ne_none stored, fun q' hq' => ?_⟩
          obtain rfl : q = q' := Option.some.inj (hq.symm.trans hq')
          rw [decodeRecord_eq_ok hdecode]
        · cases removed with
          | error err => exact .pure nofun
          | ok _ => exact Locked.external.weaken fun res d _ h _ => h rfl
    | error err =>
      dsimp only
      split
      next hnot =>
        refine recoverAttempt_locked.strengthen fun d _ h => ?_
        exact ⟨h.2.2 err rfl hnot, h.1.2.1 record rfl⟩
      · exact .pure nofun

end Rstream.Filesystem
