import Rstream.Filesystem.Delivery

/-!
# The commit of an upload

Closing a staged upload: the prepared record, the rename over the target and the
receipt. The handlers of single requests are put together from it, up to the
response that is given while the lock is held.
-/

namespace Rstream.Filesystem

open Rstream.Core Go Locked Prog Option

variable {body : UploadBody}

/-- The staging file holds what the record of a durable upload describes. -/
structure Filled (P : Primitives) (id : String) (durable : Bool) (u : Upload) (temporary : Path)
    (base : Bytes) (i : Nat) (d : Disk) : Prop where
  ongoing : Ongoing P id durable u d
  opened : Opened temporary base i d
  content : ∀ r, u.receipt = some r →
    hex (P.sha256 (d.content i)) = r.sha256 ∧ toString (d.content i).length = r.size

/-- A prepared record is pending, and its staging file is still in its place. -/
structure Armed (P : Primitives) (r : Record) (temporary : Path) (base : Bytes) (i : Nat)
    (d : Disk) : Prop where
  pending : d.pending = some r
  state : r.state = .prepared
  vacant : d.receiptOf P r.id = none
  untouched : d.Untouched r.id
  prepared : Prepared P d r temporary base i
  complete : Complete P d r temporary base i

variable {P : Primitives} {w : Worker} {d : Disk} {record : Record} {id : String} {durable : Bool}
  {u : Upload} {target temporary : Path} {base : Bytes} {i status : Nat}

theorem Armed.unsettled (h : Armed P record temporary base i d) : Unsettled P record.id d :=
  ⟨h.vacant, h.untouched, record, h.pending, rfl⟩

section Close

/-- The record of a durable upload that is about to be renamed. -/
def Record.prepare (r : Record) (target temporary : Path) : Record :=
  { r with state := .prepared, target, temporary := some temporary }

/-- Preparing the record of a filled staging file. -/
theorem Filled.armed (h : Filled P id durable u temporary base i d)
    (hreceipt : u.receipt = some record) (hidentity : record.fileIdentity = some i)
    (htarget : isStaging target = false) :
    Armed P (record.prepare target temporary) temporary base i
      { d with pending := some (record.prepare target temporary) } := by
  obtain ⟨rfl, _, _⟩ := h.ongoing.record record hreceipt
  have hreceiving := h.ongoing.receiving (by simp [hreceipt])
  refine ⟨rfl, rfl, hreceiving.vacant, hreceiving.untouched, ?_, ?_⟩
  · exact ⟨rfl, hidentity, h.opened.last, h.opened.name, htarget,
      .inl ⟨hreceiving.untouched, h.opened.sole⟩⟩
  · exact ⟨h.opened.file, h.opened.bearer, (h.content record hreceipt).1,
      (h.content record hreceipt).2⟩

/-- Writing the prepared record. -/
theorem writePending_prepare (hreceipt : u.receipt = some record)
    (hidentity : record.fileIdentity = some i) (htarget : isStaging target = false) :
    Locked P w (Filled P id durable u temporary base i)
      (writePending (record.prepare target temporary)) fun res d =>
        match res with
        | .ok () => Armed P (record.prepare target temporary) temporary base i d
        | .error _ => Unsettled P record.id d := by
  refine .writeJournalFile (fun d hd h => ?_) (fun d h => ?_) fun d h => h.unsettled
  · have harmed := h.armed hreceipt hidentity htarget
    obtain ⟨hid, _, _⟩ := h.ongoing.record record hreceipt
    obtain ⟨q, hq, hqid, _⟩ := (h.ongoing.receiving (by simp [hreceipt])).pending
    refine ⟨hd.writePending ?_ rfl fun _ => ?_, harmed⟩
    · intro q' hq'
      obtain rfl : q = q' := some.inj (hq.symm.trans hq')
      exact hqid.trans hid.symm
    · exact ⟨temporary, base, i, harmed.prepared⟩
  · obtain ⟨rfl, _, _⟩ := h.ongoing.record record hreceipt
    exact (h.ongoing.receiving (by simp [hreceipt])).unsettled

/-- The rename of a durable upload replaces the target or does nothing. -/
theorem rename_armed :
    Locked P w (Armed P record temporary base i)
      (rename (some record.id) temporary record.target) fun res d =>
        match res with
        | .ok () => Settling P record .committed d
        | .error _ => Unsettled P record.id d := by
  refine .onDisk ?_
  intro d fault res d' hd h hstep
  cases fault with
  | some err =>
    cases hstep
    exact ⟨⟨hd, .refl _⟩, h.unsettled⟩
  | none =>
    cases hentry : d.entries.lookup temporary with
    | none =>
      simp only [hentry] at hstep
      cases hstep
      exact ⟨⟨hd, .refl _⟩, h.unsettled⟩
    | some j =>
      obtain rfl : j = i := h.complete.file j hentry
      simp only [hentry] at hstep
      cases hstep
      have hrename := hd.rename h.pending h.state h.vacant h.untouched h.prepared h.complete
      refine ⟨hrename, ⟨h.vacant, ⟨record, h.pending, rfl⟩, fun _ => ?_, by simp⟩⟩
      exact ⟨⟨record.id, record.target, d.content j⟩, List.mem_cons_self,
        rfl, h.complete.sha256, h.complete.size, .inl rfl⟩

/-- The rename of an upload without an id. -/
theorem rename_quiet :
    Locked P w Disk.Quiet (rename none temporary target) fun _ => Disk.Quiet := by
  refine .onDisk ?_
  intro d fault res d' hd h hstep
  cases fault with
  | some err =>
    cases hstep
    exact ⟨⟨hd, .refl _⟩, h⟩
  | none =>
    cases hentry : d.entries.lookup temporary with
    | none =>
      simp only [hentry] at hstep
      cases hstep
      exact ⟨⟨hd, .refl _⟩, h⟩
    | some j =>
      simp only [hentry] at hstep
      cases hstep
      exact ⟨hd.quiet h _ d.content, h⟩

theorem delivered_none (body : UploadBody) : Delivered P id false ⟨body, none⟩ d :=
  ⟨rfl, fun r hr => (by cases hr), fun _ hr => absurd rfl hr, fun _ _ r hr => (by cases hr)⟩

/-- After the rename of a durable upload. -/
theorem finish_locked (body : UploadBody) :
    Locked P w (Settling P record .committed) (finish P ⟨body, some record⟩)
      (Delivered P record.id true) := by
  have hfailed : ∀ (r : Record) (d : Disk), r.id = record.id →
      Delivered P record.id true
        (Upload.withStatus ⟨{ body with effectCommitted := true }, some r⟩ 503) d := by
    intro r d hid
    refine ⟨rfl, fun r' hr' => ?_, fun heffect => (by cases heffect),
      fun _ hstatus => (by cases hstatus)⟩
    obtain rfl : r = r' := some.inj hr'
    exact hid
  refine external.bind fun synced => ?_
  cases synced with
  | error err => exact .pure fun d _ _ => hfailed record d rfl
  | ok _ =>
    refine (completeReceipt_locked rfl).bind fun completed => ?_
    obtain ⟨completed, res⟩ := completed
    cases res with
    | error err =>
      refine .pure fun d _ h => ?_
      obtain ⟨now, rfl, _⟩ := h
      exact hfailed _ d rfl
    | ok _ =>
      refine .pure fun d _ h => ?_
      obtain ⟨now, rfl, hdone⟩ := h
      refine ⟨rfl, fun r hr => ?_, fun heffect => (by cases heffect), fun _ _ r hr => ?_⟩
      · obtain rfl := some.inj hr
        rfl
      · obtain rfl := some.inj hr
        exact (hdone rfl).2

theorem commit_plain (body : UploadBody) :
    Locked P w Disk.Quiet (commit P ⟨body, none⟩ target temporary)
      (Delivered P id false) := by
  change Locked P w _ (rename none temporary target >>= _) _
  refine rename_quiet.bind fun renamed => ?_
  cases renamed with
  | error err =>
    refine (remove temporary fun d (_ : True) => trivial).strengthen
      (fun _ _ _ => trivial) |>.bind fun _ => ?_
    exact .pure fun d _ _ => delivered_none _
  | ok _ => exact .pure fun d _ _ => delivered_none _

/-- A prepared upload that fails before the rename. -/
theorem discard_prepared (hfresh : body.effectCommitted = false) :
    Locked P w (Unsettled P record.id)
      (discard ⟨body, some (record.prepare target temporary)⟩ temporary status)
      (Delivered P record.id true) := by
  refine discard_locked.strengthen fun d _ h => ⟨rfl, hfresh, fun r hr => ?_, fun _ => h⟩
  obtain rfl := some.inj hr
  rfl

theorem commit_durable (hfresh : body.effectCommitted = false)
    (htarget : isStaging target = false) (hidentity : record.fileIdentity = some i) :
    Locked P w (Filled P record.id true ⟨body, some record⟩ temporary base i)
      (commit P ⟨body, some record⟩ target temporary) (Delivered P record.id true) := by
  refine bind (writePending_prepare rfl hidentity htarget) fun journaled => ?_
  cases journaled with
  | error err => exact discard_prepared hfresh
  | ok _ =>
    refine rename_armed.bind fun renamed => ?_
    cases renamed with
    | error err => exact discard_prepared hfresh
    | ok _ => exact finish_locked body

/-- From the filled staging file to the end of the upload. -/
theorem commit_locked (htarget : isStaging target = false)
    (hidentity : ∀ r, u.receipt = some r → r.fileIdentity = some i) :
    Locked P w (Filled P id durable u temporary base i) (commit P u target temporary)
      (Delivered P id durable) := by
  obtain ⟨body, receipt⟩ := u
  cases receipt with
  | none =>
    refine strengthen (assuming fun (hkind : false = durable) => ?_)
      fun d _ h => ⟨h.ongoing.kind, h.ongoing.quiet⟩
    subst hkind
    exact commit_plain body
  | some record =>
    refine strengthen (assuming fun (hrecord : true = durable ∧ record.id = id ∧
      body.effectCommitted = false) => ?_)
      fun d _ h => ⟨⟨h.ongoing.kind, (h.ongoing.record record rfl).1, h.ongoing.fresh⟩, h⟩
    obtain ⟨rfl, rfl, hfresh⟩ := hrecord
    exact commit_durable hfresh htarget (hidentity record rfl)

theorem identify_locked :
    Locked P w (Filled P id durable u temporary base i) (identify u i) fun res d =>
      match res with
      | .error _ => Filled P id durable u temporary base i d
      | .ok u' => (∀ r, u'.receipt = some r → r.fileIdentity = some i) ∧
          Filled P id durable u' temporary base i d := by
  obtain ⟨body, receipt⟩ := u
  cases receipt with
  | none => exact .pure fun d _ h => ⟨fun r hr => (by cases hr), h⟩
  | some record =>
    refine external.bind fun identified => ?_
    cases identified with
    | error err => exact .pure fun d _ h => h
    | ok _ =>
      refine .pure fun d _ h => ⟨fun r hr => ?_, ?_⟩
      · obtain rfl := some.inj hr
        rfl
      · have hongoing := h.ongoing
        refine ⟨⟨hongoing.kind, hongoing.quiet, hongoing.fresh, fun r hr => ?_, fun _ => ?_⟩,
          h.opened, fun r hr => ?_⟩
        · obtain rfl := some.inj hr
          exact hongoing.record record rfl
        · exact hongoing.receiving (by simp)
        · obtain rfl := some.inj hr
          exact h.content record rfl

theorem flush_locked (htarget : isStaging target = false) :
    Locked P w (Filled P id durable u temporary base i) (flush P u target temporary i)
      (Delivered P id durable) := by
  refine external.bind fun synced => ?_
  cases synced with
  | error err => exact discard_locked.strengthen fun d _ h => h.ongoing.givenUp
  | ok _ =>
    refine identify_locked.bind fun identified => ?_
    cases identified with
    | error err => exact discard_locked.strengthen fun d _ h => h.ongoing.givenUp
    | ok u =>
      refine external.bind fun closed => ?_
      cases closed with
      | error err => exact discard_locked.strengthen fun d _ h => h.2.ongoing.givenUp
      | ok _ => exact assuming fun hidentity => commit_locked htarget hidentity

theorem close_locked (htarget : isStaging target = false) (writeErr : Bool) :
    Locked P w (fun d => Ongoing P id durable u d ∧ Opened temporary base i d ∧
        (writeErr = false → d.content i = u.body.data))
      (close P u target temporary i writeErr) (Delivered P id durable) := by
  unfold close
  cases writeErr with
  | true => exact discard_locked.strengthen fun d _ h => h.1.givenUp
  | false =>
    refine receive.bind fun cancelled => ?_
    cases hvalid : u.body.validate P cancelled with
    | some status => exact discard_locked.strengthen fun d _ h => h.1.givenUp
    | none =>
      refine (flush_locked htarget).strengthen fun d _ h => ⟨h.1, h.2.1, fun r hr => ?_⟩
      rw [h.2.2 rfl]
      exact validate_eq_none hvalid (h.1.record r hr).2.2

/-- The WebDAV handler leaves an attempt without effect or a receipt. -/
theorem handlePut_locked (hempty : u.body.data = []) :
    Locked P w (Ongoing P id durable u) (handlePut P u) (Delivered P id durable) := by
  refine external.bind fun accepted => ?_
  cases accepted with
  | error err => exact .pure fun d _ h => h.givenUp.delivered
  | ok _ =>
    refine openUpload_locked.bind fun opened => ?_
    obtain ⟨u', res⟩ := opened
    cases res with
    | none => exact .pure fun d _ h => h.delivered
    | some file =>
      obtain ⟨target, temporary, i⟩ := file
      refine assuming fun htarget => assuming fun hbody => ?_
      have hcopy : ∀ base, Locked P w (fun d => Ongoing P id durable u' d ∧
          Opened temporary base i d ∧ d.content i = u'.body.data) _ (Delivered P id durable) :=
        fun base =>
        receive.bind fun chunks => (copy_locked chunks).bind fun copied =>
          close_locked htarget copied.2
      refine strengthen (naming hcopy) fun d _ h => ?_
      obtain ⟨hongoing, base, hopened, hcontent⟩ := h
      exact ⟨base, hongoing, hopened, by rw [hcontent, hbody, hempty]⟩

end Close

section Requests

/-- A receipt in the answer to a request is the stored one; the WebDAV handler answers only
requests that are not durable uploads. -/
def Answers (P : Primitives) (id : String) (durable : Bool) (response : Response) (d : Disk) :
    Prop :=
  match response with
  | .receipt r => Backs P d id r
  | .webdav => durable = false
  | _ => True

theorem answers_error (status : Nat) (msg : String) :
    Answers P id durable (.error status msg) d := trivial

/-- An attempt without effect is rejected. -/
theorem reject_locked :
    Locked P w (Unsettled P record.id) (reject P record status)
      (Answers P record.id durable) := by
  refine bind ((completeReceipt_locked rfl).strengthen
    fun d _ h => ⟨h.vacant, h.pending, by simp, fun _ => h.untouched⟩) fun completed => ?_
  obtain ⟨completed, res⟩ := completed
  cases res with
  | error err => exact .pure fun d _ _ => answers_error _ _
  | ok _ =>
    refine .pure fun d _ h => ?_
    obtain ⟨_, _, hdone⟩ := h
    exact ⟨completed, (hdone rfl).2, .inl rfl⟩

theorem checkConditions_locked {φ : Disk → Prop} (r : Request) :
    Locked P w φ (checkConditions r) fun _ => φ := by
  unfold checkConditions
  split
  · exact .pure fun d _ h => h
  · exact .receive

/-- An admitted PUT. -/
theorem deliver_locked (r : Request) (hempty : u.body.data = []) :
    Locked P w (Ongoing P id durable u) (deliver P r u) (Answers P id durable) := by
  refine (checkConditions_locked r).bind fun status => ?_
  split
  · cases hreceipt : u.receipt with
    | none => exact .pure fun d _ _ => answers_error _ _
    | some record =>
      refine strengthen (assuming fun (hid : record.id = id) => ?_)
        fun d _ h => ⟨(h.record record hreceipt).1,
          (h.receiving (by simp [hreceipt])).unsettled⟩
      subst hid
      exact reject_locked
  · refine (handlePut_locked hempty).bind fun u' => ?_
    cases hreceipt : u'.receipt with
    | none =>
      refine .pure fun d _ h => h.kind.symm.trans ?_
      rw [hreceipt]
      rfl
    | some record =>
      refine strengthen (assuming fun (hid : record.id = id) => ?_)
        fun d _ h => ⟨h.record record hreceipt, h⟩
      subst hid
      dsimp only
      split
      next heffect =>
        split
        · exact .pure fun d _ _ => answers_error _ _
        next hstatus =>
          refine .pure fun d _ h => ?_
          exact ⟨record, h.done heffect (not_not.mp hstatus) record hreceipt, .inl rfl⟩
      next heffect =>
        refine receive.bind fun captured => reject_locked.strengthen fun d _ h => ?_
        exact h.failed (Bool.eq_false_iff.mpr heffect) (by simp [hreceipt])

/-- What `newReceipt` puts into a record. -/
theorem newReceipt_eq_ok {L : Local} {r : Request} {body' : UploadBody} {now : String}
    (h : newReceipt P L.lexical r body now = .ok (record, body')) :
    record.id = r.uploadID ∧ record.state = .receiving ∧ Describes record body' ∧
      body'.effectCommitted = body.effectCommitted ∧ body'.data = body.data := by
  unfold newReceipt at h
  split at h
  next hash hvalid hhash =>
    split at h
    · cases h
    next n hn =>
      split at h
      · cases h
      · split at h
        · cases h
        · cases h
          refine ⟨rfl, rfl, ⟨hash, n, hhash, rfl, rfl, ?_⟩, rfl, rfl⟩
          unfold parseUploadLength at hn
          split at hn
          · split at hn
            next hcanonical =>
              cases hn
              exact hcanonical.2.symm
            · cases hn
          · cases hn
  · cases h

/-- A replayed receipt is the stored one. -/
theorem replay_answers {L : Local} {prior stored : Record}
    (hstored : d.receiptOf P id = some stored) (hdecode : decodeRecord P stored = .ok prior) :
    Answers P id durable (replay L record prior) d := by
  unfold replay
  split
  · trivial
  · split
    · trivial
    · refine ⟨stored, hstored, .inr ?_⟩
      rw [decodeRecord_eq_ok hdecode]

/-- A PUT with an upload id. -/
theorem serveDurable_locked (L : Local) (r : Request)
    (hfresh : body.effectCommitted = false) (hempty : body.data = []) :
    Locked P w (fun d => d.pending = none) (serveDurable P L r body)
      (Answers P r.uploadID true) := by
  refine receive.bind fun now => ?_
  cases hnew : newReceipt P L.lexical r body now with
  | error err => exact .pure fun d _ _ => answers_error _ _
  | ok created =>
    obtain ⟨record, body'⟩ := created
    obtain ⟨hid, hstate, hdescribes, heffect, hdata⟩ := newReceipt_eq_ok hnew
    rw [← hid]
    refine bind (readReceiptFile fun d => d.receiptOf P record.id) fun prior => ?_
    cases prior with
    | ok prior =>
      refine .pure fun d _ h => ?_
      obtain ⟨stored, hstored, hdecode⟩ := h.2.1 prior rfl
      exact replay_answers hstored hdecode
    | error err =>
      dsimp only
      split
      next hnot =>
        refine bind ((beginReceipt_locked hstate).strengthen
          fun d _ h => ⟨h.1, h.2.2 err rfl hnot⟩) fun begun => ?_
        cases begun with
        | error err =>
          refine .pure fun d _ _ => ?_
          unfold journalError
          split
          · trivial
          · split <;> trivial
        | ok begun =>
          refine (deliver_locked r (by exact hdata.trans hempty)).strengthen fun d _ h => ?_
          obtain ⟨⟨target, rfl⟩, hreceiving⟩ := h begun rfl
          refine ⟨rfl, hreceiving.quiet, heffect.trans hfresh, fun r hr => ?_, fun _ => hreceiving⟩
          obtain rfl := some.inj hr
          exact ⟨rfl, hstate, hdescribes⟩
      · exact .pure fun d _ _ => answers_error _ _

theorem quiet_of_pending (h : d.pending = none) : d.Quiet := by
  intro q hq
  rw [h] at hq
  cases hq

theorem servePut_locked (L : Local) (r : Request) :
    Locked P w (fun d => d.pending = none) (servePut P L r)
      (Answers P r.uploadID (r.uploadID ≠ "")) := by
  unfold servePut
  cases hbody : newUploadBody P r with
  | none => exact .pure fun d _ _ => trivial
  | some res =>
    cases res with
    | error msg => exact .pure fun d _ _ => answers_error _ _
    | ok body =>
      obtain ⟨hfresh, hempty⟩ : body.effectCommitted = false ∧ body.data = [] := by
        unfold newUploadBody at hbody
        split at hbody
        · cases hbody
          exact ⟨rfl, rfl⟩
        · split at hbody
          · cases hbody
          · split at hbody
            · cases hbody
            · split at hbody
              · split at hbody
                · cases hbody
                  exact ⟨rfl, rfl⟩
                · cases hbody
              · cases hbody
      dsimp only
      split
      next hid =>
        rw [show decide (r.uploadID ≠ "") = false by simpa using hid]
        refine (deliver_locked r (by exact hempty)).strengthen fun d _ h => ?_
        exact ⟨rfl, quiet_of_pending h, hfresh, fun r hr => (by cases hr),
          fun hr => absurd rfl hr⟩
      next hid =>
        rw [decide_eq_true hid]
        exact serveDurable_locked L r hfresh hempty

theorem changeTree_locked : Locked P w (fun d => d.pending = none) changeTree fun _ _ => True := by
  refine .onDisk ?_
  intro d tree _ d' hd h hstep
  cases hstep
  exact ⟨hd.quiet (quiet_of_pending h) _ _, trivial⟩

theorem serveOther_locked (r : Request) :
    Locked P w (fun d => d.pending = none) (serveOther r) (Answers P r.uploadID false) := by
  refine (checkConditions_locked r).bind fun status => ?_
  split
  · exact .pure fun d _ _ => answers_error _ _
  · exact changeTree_locked.bind fun _ => .pure fun d _ _ => rfl

/-- Every request under the lock answers with the stored receipt, if with any. -/
theorem mutate_locked (L : Local) (r : Request) :
    Locked P w (fun _ => True) (mutate P L r)
      (Answers P r.uploadID (r.put && r.uploadID ≠ "")) := by
  refine recoverReceipt_locked.bind fun recovered => ?_
  cases recovered with
  | error err => exact .pure fun d _ _ => answers_error _ _
  | ok _ =>
    dsimp only
    split
    · exact .pure fun d _ _ => answers_error _ _
    · split
      next hput =>
        rw [hput, Bool.true_and]
        exact (servePut_locked L r).strengthen fun d _ h => h rfl
      next hput =>
        rw [Bool.eq_false_iff.mpr hput, Bool.false_and]
        exact (serveOther_locked r).strengthen fun d _ h => h rfl

end Requests

end Rstream.Filesystem
