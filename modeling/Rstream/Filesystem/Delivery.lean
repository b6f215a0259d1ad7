import Rstream.Filesystem.Recovery

/-!
# Delivery of an upload

From the pending record to the receipt: staging, copying, preparing, the rename
and the response, each under the mutation lock. Every failure on the way leaves an
attempt without effect, every success leaves a receipt of the replacement.
-/

namespace Rstream.Filesystem

open Rstream.Core Go Prog

/-- The record names the digest and the size the body is checked against. -/
def Describes (r : Record) (body : UploadBody) : Prop :=
  ∃ hash n, body.expectedHash = some hash ∧ body.expectedSize = Int.ofNat n ∧
    r.sha256 = hex hash ∧ r.size = toString n

/-- The attempt is pending and has not prepared its staging file. -/
structure Receiving (P : Primitives) (id : String) (d : Disk) : Prop where
  vacant : d.receiptOf P id = none
  untouched : d.Untouched id
  pending : ∃ q, d.pending = some q ∧ q.id = id ∧ q.state = .receiving

/-- The upload has not prepared its staging file. -/
structure Ongoing (P : Primitives) (id : String) (durable : Bool) (u : Upload) (d : Disk) :
    Prop where
  kind : u.receipt.isSome = durable
  quiet : d.Quiet
  fresh : u.body.effectCommitted = false
  record : ∀ r, u.receipt = some r → r.id = id ∧ r.state = .receiving ∧ Describes r u.body
  receiving : u.receipt ≠ none → Receiving P id d

/-- The upload has failed without effect. -/
structure GivenUp (P : Primitives) (id : String) (durable : Bool) (u : Upload) (d : Disk) :
    Prop where
  kind : u.receipt.isSome = durable
  fresh : u.body.effectCommitted = false
  record : ∀ r, u.receipt = some r → r.id = id
  unsettled : u.receipt ≠ none → Unsettled P id d

/-- The WebDAV handler is done with the upload. -/
structure Delivered (P : Primitives) (id : String) (durable : Bool) (u : Upload) (d : Disk) :
    Prop where
  kind : u.receipt.isSome = durable
  record : ∀ r, u.receipt = some r → r.id = id
  failed : u.body.effectCommitted = false → u.receipt ≠ none → Unsettled P id d
  done : u.body.effectCommitted = true → u.body.status = 0 →
    ∀ r, u.receipt = some r → d.receiptOf P id = some r

/-- The staging file is open: it alone has its inode and its name. -/
structure Opened (temporary : Path) (base : Bytes) (i : Nat) (d : Disk) : Prop where
  last : temporary.getLast? = some base
  name : IsStagingBase base
  sole : d.Sole temporary i
  file : ∀ j, d.entries.lookup temporary = some j → j = i
  bearer : ∀ p : Path, p.getLast? = some base → d.entries.lookup p ≠ none → p = temporary

variable {P : Primitives} {w : Worker} {d d' : Disk} {record : Record} {id : String}
  {durable : Bool} {u : Upload} {target temporary : Path} {base : Bytes} {i status : Nat}

theorem Receiving.unsettled (h : Receiving P id d) : Unsettled P id d := by
  obtain ⟨q, hq, hid, _⟩ := h.pending
  exact ⟨h.vacant, h.untouched, q, hq, hid⟩

theorem Receiving.quiet (h : Receiving P id d) : d.Quiet := by
  obtain ⟨q, hq, _, hstate⟩ := h.pending
  intro q' hq'
  obtain rfl : q = q' := Option.some.inj (hq.symm.trans hq')
  rw [hstate]
  exact UploadState.noConfusion

theorem Ongoing.givenUp (h : Ongoing P id durable u d) : GivenUp P id durable u d :=
  ⟨h.kind, h.fresh, fun r hr => (h.record r hr).1, fun hr => (h.receiving hr).unsettled⟩

theorem GivenUp.withStatus (h : GivenUp P id durable u d) (status : Nat) :
    GivenUp P id durable (u.withStatus status) d :=
  ⟨h.kind, h.fresh, h.record, h.unsettled⟩

theorem GivenUp.delivered (h : GivenUp P id durable u d) : Delivered P id durable u d := by
  refine ⟨h.kind, h.record, fun _ => h.unsettled, fun heffect => ?_⟩
  rw [h.fresh] at heffect
  cases heffect

theorem GivenUp.erase (h : GivenUp P id durable u d) (p : Path) :
    GivenUp P id durable u { d with entries := d.entries.erase p } :=
  ⟨h.kind, h.fresh, h.record, fun hr => ⟨(h.unsettled hr).vacant, (h.unsettled hr).untouched,
    (h.unsettled hr).pending⟩⟩

/-- Changes of the tree leave the journal side of an upload alone. -/
theorem Ongoing.tree (h : Ongoing P id durable u d) (entries : AList fun _ : Path => Nat)
    (content : Nat → Bytes) : Ongoing P id durable u { d with entries, content } :=
  ⟨h.kind, h.quiet, h.fresh, h.record, fun hr => ⟨(h.receiving hr).vacant,
    (h.receiving hr).untouched, (h.receiving hr).pending⟩⟩

theorem remove_givenUp :
    Locked P w (GivenUp P id durable u) (remove temporary) fun _ => GivenUp P id durable u :=
  .remove temporary fun _ h => h.erase temporary

/-- A failed upload removes its staging file. -/
theorem discard_locked :
    Locked P w (GivenUp P id durable u) (discard u temporary status)
      (Delivered P id durable) :=
  remove_givenUp.bind fun _ => .pure fun _ _ h => (h.withStatus status).delivered

section Begin

/-- The first pending record of an upload. -/
theorem writePending_begin (record : Record) (hstate : record.state = .receiving) :
    Locked P w (fun d => d.pending = none ∧ d.receiptOf P record.id = none)
      (writePending record) fun res d =>
        match res with
        | .ok () => Receiving P record.id d
        | .error _ => True := by
  refine .writeJournalFile (fun d hd h => ?_) (fun _ _ => trivial) fun _ _ => trivial
  have huntouched := hd.untouched h.1 h.2
  refine ⟨hd.writePending ?_ (by rw [hstate]; rfl) fun _ => ?_, ?_⟩
  · intro q hq
    rw [h.1] at hq
    cases hq
  · simp only [Attempted, hstate]
    exact huntouched
  · exact ⟨h.2, huntouched, record, rfl, rfl, hstate⟩

theorem beginReceipt_locked (hstate : record.state = .receiving) :
    Locked P w (fun d => d.pending = none ∧ d.receiptOf P record.id = none)
      (beginReceipt record) fun res d =>
        ∀ r, res = .ok r → (∃ target, r = { record with target }) ∧ Receiving P record.id d := by
  refine Locked.resolveTarget.bind fun resolved => ?_
  cases resolved with
  | error err => exact .pure nofun
  | ok target =>
    refine Locked.external.bind fun opened => ?_
    cases opened with
    | error err => exact .pure nofun
    | ok _ =>
      refine (Locked.inspect fun d => d.receipts.entries.length).bind fun receipts => ?_
      refine Locked.receive.bind fun leftovers => ?_
      split
      · exact .pure nofun
      · refine Locked.external.bind fun probed => ?_
        cases probed with
        | error err => exact .pure nofun
        | ok _ =>
          refine Locked.bind ((writePending_begin { record with target } hstate).strengthen
            fun d _ h => h.1.1) fun written => ?_
          cases written with
          | error err => exact .pure fun d _ _ r hr => by cases hr
          | ok _ =>
            refine .pure fun d _ h r hr => ?_
            cases hr
            exact ⟨⟨target, rfl⟩, h⟩

end Begin

section Staging

/-- The upload notes its staging file. -/
def Upload.stage (u : Upload) (temporary : Path) : Upload :=
  { u with receipt := u.receipt.map fun r => { r with temporary := some temporary } }

theorem Ongoing.stage (h : Ongoing P id durable u d) (temporary : Path) :
    Ongoing P id durable (u.stage temporary) d := by
  refine ⟨?_, h.quiet, h.fresh, fun r hr => ?_, fun hr => h.receiving fun hnone => hr ?_⟩
  · rw [← h.kind]
    exact Option.isSome_map
  · obtain ⟨r₀, hr₀, rfl⟩ := Option.map_eq_some_iff.mp hr
    exact h.record r₀ hr₀
  · simp [Upload.stage, hnone]

/-- A new staging file. -/
theorem createStaging_locked :
    Locked P w (Ongoing P id durable u) (createStaging target) fun res d =>
      Ongoing P id durable u d ∧ ∀ temporary i, res = .ok (temporary, i) →
        ∃ base, Opened temporary base i d ∧ d.content i = [] := by
  refine .onDisk ?_
  intro d outcome res d' hd h hstep
  cases outcome with
  | error err =>
    cases hstep
    exact ⟨⟨hd, .refl _⟩, h, nofun⟩
  | ok chosen =>
    obtain ⟨text, i⟩ := chosen
    dsimp only at hstep
    split at hstep
    next hfresh =>
      cases hstep
      refine ⟨hd.quiet h.quiet _ _, h.tree _ _, ?_⟩
      intro temporary j hok
      cases hok
      have hold : ∀ p j, d.entries.lookup p = some j →
          p.getLast? ≠ some (stagingName text) ∧ j ≠ i :=
        fun p j hp => hfresh.2 ⟨p, j⟩ (AList.mem_lookup_iff.mp hp)
      refine ⟨stagingName text, ⟨?_, isStagingBase_stagingName hfresh.1, ?_, ?_, ?_⟩, ?_⟩
      · simp
      · intro p hp
        by_contra hne
        rw [AList.lookup_insert_ne hne] at hp
        exact (hold p i hp).2 rfl
      · intro j hj
        rw [AList.lookup_insert] at hj
        exact (Option.some.inj hj).symm
      · intro p hlast hp
        by_contra hne
        rw [AList.lookup_insert_ne hne] at hp
        obtain ⟨j, hj⟩ := Option.ne_none_iff_exists'.mp hp
        exact (hold p j hj).1 hlast
      · simp
    · cases hstep

/-- The journal of an upload that has not prepared its staging file. -/
theorem journal_ongoing {φ : Disk → Prop} (hkeep : ∀ d q, φ d → φ { d with pending := some q }) :
    Locked P w (fun d => Ongoing P id durable u d ∧ φ d) (journal u.receipt) fun res d =>
      match res with
      | .ok () => Ongoing P id durable u d ∧ φ d
      | .error _ => GivenUp P id durable u d := by
  cases hreceipt : u.receipt with
  | none => exact .pure fun d _ h => h
  | some r =>
    change Locked P w _ (writePending r) _
    refine .writeJournalFile (fun d hd h => ?_) (fun d h => h.1.givenUp) fun d h => h.1.givenUp
    obtain ⟨hid, hstate, _⟩ := h.1.record r hreceipt
    have hreceiving := h.1.receiving (by simp [hreceipt])
    obtain ⟨q, hq, hqid, _⟩ := hreceiving.pending
    have hnew : Receiving P id { d with pending := some r } :=
      ⟨hreceiving.vacant, hreceiving.untouched, r, rfl, hid, hstate⟩
    refine ⟨hd.writePending ?_ (by rw [hstate]; rfl) fun _ => ?_, ?_, hkeep d r h.2⟩
    · intro q' hq'
      obtain rfl : q = q' := Option.some.inj (hq.symm.trans hq')
      rw [hqid, hid]
    · simp only [Attempted, hstate]
      exact hid ▸ hreceiving.untouched
    · exact ⟨h.1.kind, hnew.quiet, h.1.fresh, h.1.record, fun _ => hnew⟩

/-- `OpenFile` either gives up or leaves an empty staging file behind. -/
theorem openUpload_locked :
    Locked P w (Ongoing P id durable u) (openUpload u) fun res d =>
      match res.2 with
      | none => GivenUp P id durable res.1 d
      | some (target, temporary, i) => isStaging target = false ∧ res.1.body = u.body ∧
          Ongoing P id durable res.1 d ∧ ∃ base, Opened temporary base i d ∧ d.content i = [] := by
  refine Locked.external.bind fun allowed => ?_
  cases allowed with
  | error err => exact .pure fun d _ h => h.givenUp
  | ok _ =>
    refine Locked.resolveTarget.bind fun resolved => ?_
    cases resolved with
    | error err => exact .pure fun d _ h => h.1.givenUp
    | ok target =>
      refine Locked.external.bind fun checked => ?_
      cases checked with
      | error err => exact .pure fun d _ h => h.1.givenUp
      | ok _ =>
        refine Locked.strengthen (Locked.assuming fun htarget => ?_)
          fun d _ h => ⟨h.2 target rfl, h.1⟩
        refine createStaging_locked.bind fun created => ?_
        cases created with
        | error err => exact .pure fun d _ h => h.1.givenUp
        | ok created =>
          obtain ⟨temporary, i⟩ := created
          refine Locked.external.bind fun changed => ?_
          cases changed with
          | error err =>
            refine (remove_givenUp.strengthen fun d _ h => h.1.givenUp).bind fun _ => ?_
            exact .pure fun d _ h => h
          | ok _ =>
            refine Locked.bind (Locked.strengthen (journal_ongoing (u := u.stage temporary)
              fun d q (h : ∃ base, Opened temporary base i d ∧ d.content i = []) => ?_)
              fun d _ h => ⟨h.1.stage temporary, h.2 temporary i rfl⟩) fun journaled => ?_
            · obtain ⟨base, hopened, hempty⟩ := h
              exact ⟨base, ⟨hopened.1, hopened.2, hopened.3, hopened.4, hopened.5⟩, hempty⟩
            · cases journaled with
              | error err =>
                exact remove_givenUp.bind fun _ => .pure fun d _ h => h.withStatus 503
              | ok _ => exact .pure fun d _ h => ⟨htarget, rfl, h.1, h.2⟩

end Staging

section Copy

variable {body : UploadBody} {c : Chunk} {receipt : Option Record}

/-- A read does not change what the body is checked against. -/
theorem read_expected (body : UploadBody) (c : Chunk) :
    (body.read c).expectedHash = body.expectedHash ∧
    (body.read c).expectedSize = body.expectedSize ∧
      (body.read c).effectCommitted = body.effectCommitted := by
  unfold UploadBody.read
  split
  · exact ⟨rfl, rfl, rfl⟩
  · split <;> exact ⟨rfl, rfl, rfl⟩

/-- Without a failed write everything read is written. -/
theorem written_eq (h : c.writeFails = false) : c.written = if c.cancelled then [] else c.data := by
  unfold Chunk.written
  split
  · rfl
  next hcancelled =>
    cases hshort : c.short with
    | none => rfl
    | some n =>
      simp only [Chunk.writeFails, hshort] at h
      simp [show c.data = [] by simpa [hcancelled] using h]

/-- Without a failed write, what is hashed is what is written. -/
theorem read_data (h : c.writeFails = false) : (body.read c).data = body.data ++ c.written := by
  rw [written_eq h, UploadBody.read]
  split
  · simp
  · split <;> rfl

theorem Ongoing.read (h : Ongoing P id durable ⟨body, receipt⟩ d) :
    Ongoing P id durable ⟨body.read c, receipt⟩ d := by
  obtain ⟨hhash, hsize, heffect⟩ := read_expected body c
  refine ⟨h.kind, h.quiet, heffect.trans h.fresh, fun r hr => ?_, h.receiving⟩
  obtain ⟨hid, hstate, hash, n, hexpected⟩ := h.record r hr
  exact ⟨hid, hstate, hash, n, hhash.trans hexpected.1, hsize.trans hexpected.2.1, hexpected.2.2⟩

theorem Opened.content (h : Opened temporary base i d) (content : Nat → Bytes) :
    Opened temporary base i { d with content } :=
  ⟨h.1, h.2, h.3, h.4, h.5⟩

/-- A round of the copy. -/
theorem append_locked :
    Locked P w (fun d => Ongoing P id durable ⟨body, receipt⟩ d ∧ Opened temporary base i d ∧
        d.content i = body.data) (append i c.written)
      fun _ d => Ongoing P id durable ⟨body.read c, receipt⟩ d ∧ Opened temporary base i d ∧
        (c.writeFails = false → d.content i = (body.read c).data) := by
  refine .onDisk ?_
  intro d _ _ d' hd h hstep
  cases hstep
  refine ⟨hd.write _, (h.1.tree _ _).read, h.2.1.content _, fun hfails => ?_⟩
  rw [read_data hfails, ← h.2.2]
  exact Function.update_self ..

/-- After the copy, unless a write failed, the staging file holds what was hashed. -/
theorem copy_locked (chunks : List Chunk) :
    Locked P w (fun d => Ongoing P id durable ⟨body, receipt⟩ d ∧ Opened temporary base i d ∧
        d.content i = body.data) (copy i chunks body)
      fun res d => Ongoing P id durable ⟨res.1, receipt⟩ d ∧ Opened temporary base i d ∧
        (res.2 = false → d.content i = res.1.data) := by
  induction chunks generalizing body with
  | nil => exact .pure fun d _ h => ⟨h.1, h.2.1, fun _ => h.2.2⟩
  | cons c rest ih =>
    refine append_locked.bind fun _ => ?_
    split
    · exact .pure fun d _ h => h
    next hlast =>
      refine ih.strengthen fun d _ h => ⟨h.1, h.2.1, h.2.2 ?_⟩
      simp only [Chunk.last, Bool.or_eq_true, not_or] at hlast
      exact Bool.eq_false_iff.mpr hlast.2

/-- A valid body has the announced digest and size. -/
theorem validate_eq_none {cancelled : Bool} (h : body.validate P cancelled = none)
    (hdescribes : Describes record body) :
    hex (P.sha256 body.data) = record.sha256 ∧ toString body.data.length = record.size := by
  obtain ⟨hash, n, hhash, hsize, hsha, htext⟩ := hdescribes
  unfold UploadBody.validate at h
  split at h
  · cases h
  · split at h
    · cases h
    · split at h
      · cases h
      next hlength =>
        rw [hhash] at h
        simp only [ite_eq_right_iff, reduceCtorEq, imp_false, not_not] at h
        rw [hsize] at hlength
        have hn : body.data.length = n := by
          by_contra hne
          refine hlength (.inr ⟨Int.natCast_nonneg n, fun heq => hne ?_⟩)
          exact Int.ofNat.inj heq
        rw [hsha, htext, ← h, hn]
        exact ⟨rfl, rfl⟩

end Copy

end Rstream.Filesystem
