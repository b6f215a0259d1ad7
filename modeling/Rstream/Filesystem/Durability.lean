import Rstream.Filesystem.Commit

/-!
# Durable uploads

The handlers of all processes keep the contract of the mutation lock, wherever
some of them stop. In every state they reach, an upload id has replaced its target
at most once, its requests were answered by the stored receipt or failed, and every
receipt that was shown is true, then and later.
-/

namespace Rstream.Filesystem

open Rstream.Core Go Function Contract Prog List

variable {P : Primitives} {w : Worker} {F : Export → Prop} {o : Observation}

section Handlers

/-- The response is backed by the disk. -/
theorem backed_stable : (exportContract P).Stable w fun s => Backed P s.disk o :=
  fun _ _ hrely _ h => h.extends hrely.2.disk

theorem lock_stable : (exportContract P).Stable w fun s => s.lock = some w :=
  fun _ _ hrely _ h => (hrely.1 h).1

/-- A change of neither the lock, the disk nor the history is nobody's concern. -/
theorem keeps_of_eq {s s' : Export} (hinv : (exportContract P).inv s) (hlock : s'.lock = s.lock)
    (hdisk : s'.disk = s.disk) (hobserved : s'.observed = s.observed) :
    (exportContract P).Keeps w s s' := by
  refine ⟨⟨hdisk ▸ hinv.1, ?_⟩, fun u _ => ⟨fun h => ⟨hlock.trans h, hdisk⟩, ?_, ?_⟩⟩
  · rw [hobserved, hdisk]
    exact hinv.2
  · rw [hdisk]
    exact .refl _
  · exact hobserved ▸ suffix_refl _

theorem respond_triple (hF : (exportContract P).Stable w F)
    (hkeep : ∀ s, F s → F { s with observed := o :: s.observed }) :
    (exportContract P).Triple w (fun s => F s ∧ Backed P s.disk o) (respond o) fun _ => F := by
  refine .atomic (hF.and backed_stable) fun s hinv h _ => ⟨⟨⟨hinv.1, ?_⟩, ?_⟩, hkeep s h.1⟩
  · intro o' ho'
    rcases mem_cons.mp ho' with rfl | ho'
    · exact h.2
    · exact hinv.2 o' ho'
  · exact fun u _ => ⟨fun hlock => ⟨hlock, rfl⟩, .refl _, suffix_cons _ _⟩

theorem respond_plain (h : ∀ d, Backed P d o) :
    (exportContract P).Triple w (fun _ => True) (respond o) fun _ _ => True :=
  (respond_triple stable_const fun _ _ => trivial).strengthen
    fun s _ => ⟨trivial, h s.disk⟩

theorem unlockMutation_triple :
    (exportContract P).Triple w (fun s => s.lock = some w) unlockMutation
      fun _ _ => True := by
  refine .atomic lock_stable fun s hinv h _ => ⟨⟨hinv, fun u hu => ?_⟩, trivial⟩
  refine ⟨fun hlock => ?_, .refl _, suffix_refl _⟩
  exact absurd (Option.some.inj (h.symm.trans hlock)).symm hu

theorem keeps_acquire {s : Export} (hinv : (exportContract P).inv s) (hfree : s.lock = none) :
    (exportContract P).Keeps w s { s with lock := some w } := by
  refine ⟨hinv, fun u _ => ⟨fun hlock => ?_, .refl _, suffix_refl _⟩⟩
  rw [hfree] at hlock
  cases hlock

theorem lockMutation_triple :
    (exportContract P).Triple w (fun _ => True) (lockMutation w) fun res s =>
      res = .ok () → Holding P w (fun _ => True) s := by
  refine .choose stable_const ?_
  intro s fault res s' hinv _ hstep _
  cases fault with
  | some err =>
    cases hstep
    exact ⟨.refl hinv, nofun⟩
  | none =>
    dsimp only at hstep
    split at hstep
    next hfree =>
      cases hstep
      exact ⟨keeps_acquire hinv hfree, fun _ => ⟨rfl, hinv.1, trivial⟩⟩
    · cases hstep

theorem tryMutationLock_triple :
    (exportContract P).Triple w (fun _ => True) (tryMutationLock w) fun res s =>
      res = .ok true → Holding P w (fun _ => True) s := by
  refine .choose stable_const ?_
  intro s fault res s' hinv _ hstep _
  cases fault with
  | some err =>
    cases hstep
    exact ⟨.refl hinv, nofun⟩
  | none =>
    dsimp only at hstep
    split at hstep
    next hfree =>
      cases hstep
      exact ⟨keeps_acquire hinv hfree, fun _ => ⟨rfl, hinv.1, trivial⟩⟩
    · cases hstep
      exact ⟨.refl hinv, nofun⟩

theorem takeToken_triple :
    (exportContract P).Triple w (fun _ => True) (takeToken w) fun _ _ => True := by
  refine .choose stable_const ?_
  intro s cancelled res s' hinv _ hstep _
  split at hstep
  · cases hstep
    exact ⟨.refl hinv, trivial⟩
  · split at hstep
    · cases hstep
      exact ⟨keeps_of_eq hinv rfl rfl rfl, trivial⟩
    · cases hstep

theorem returnToken_triple :
    (exportContract P).Triple w (fun _ => True) (returnToken w) fun _ _ => True :=
  .atomic stable_const fun _ hinv _ _ => ⟨keeps_of_eq hinv rfl rfl rfl, trivial⟩

/-- The answer to a request that holds the lock. -/
theorem reply_locked (r : Request) (response : Response) : (exportContract P).Triple w
      (Holding P w (Answers P r.uploadID (r.put && r.uploadID ≠ "") response))
      (reply r response) fun _ s => s.lock = some w := by
  unfold reply
  split
  next hdurable =>
    refine (respond_triple lock_stable fun s h => h).strengthen fun s h => ⟨h.lock, ?_⟩
    have hanswers := h.disk
    rw [hdurable] at hanswers
    cases response with
    | receipt r => exact hanswers
    | webdav => cases hanswers
    | error | dropped => trivial
  · exact .pure fun s h => h.lock

theorem reply_error (r : Request) (status : Nat) (msg : String) :
    (exportContract P).Triple w (fun _ => True) (reply r (.error status msg))
      fun _ _ => True := by
  unfold reply
  split
  · exact respond_plain fun d => trivial
  · exact .pure fun s h => h

theorem serveAdmitted_triple (L : Local) (r : Request) :
    (exportContract P).Triple w (fun _ => True) (serveAdmitted P L w r)
      fun _ _ => True := by
  refine lockMutation_triple.bind fun locked => ?_
  cases locked with
  | error err =>
    refine Contract.Triple.strengthen (P := fun _ => True) ?_ fun s _ => trivial
    exact Contract.Triple.bind (.receive stable_const fun s i _ h => h)
      fun cancelled => reply_error r _ _
  | ok _ =>
    refine (Contract.Triple.strengthen (mutate_locked L r) fun s h => h rfl).bind ?_
    intro response
    exact (reply_locked r response).bind fun _ => unlockMutation_triple

theorem serveMutation_triple (L : Local) (r : Request) :
    (exportContract P).Triple w (fun _ => True) (serveMutation P L w r)
      fun _ _ => True := by
  unfold serveMutation
  split
  · exact reply_error r _ _
  · refine takeToken_triple.bind fun admitted => ?_
    split
    · exact (serveAdmitted_triple L r).bind fun _ => returnToken_triple
    · exact reply_error r _ _

end Handlers

section Lookups

section

variable (hF : (exportContract P).Stable w F)
include hF

/-- A read of a journal file without the lock. -/
theorem readReceiptFile_triple (file : Disk → Option Record) :
    (exportContract P).Triple w F (readReceiptFile P file) fun res s => F s ∧
      Journal P s.disk ∧
        ∀ r, res = .ok r → ∃ q, file s.disk = some q ∧ decodeRecord P q = .ok r := by
  refine .choose hF ?_
  intro s fault res s' hinv hs hstep _
  cases fault with
  | some err =>
    dsimp only at hstep
    split at hstep
    · cases hstep
    · cases hstep
      exact ⟨.refl hinv, hs, hinv.1, nofun⟩
  | none =>
    cases hfile : file s.disk with
    | none =>
      simp only [hfile] at hstep
      cases hstep
      exact ⟨.refl hinv, hs, hinv.1, nofun⟩
    | some q =>
      simp only [hfile] at hstep
      cases hstep
      exact ⟨.refl hinv, hs, hinv.1, fun r hr => ⟨q, hfile, hr⟩⟩

theorem readReceipt_triple (id : String) :
    (exportContract P).Triple w F (readReceipt P id) fun res s => F s ∧
      ∀ r, res = .ok r → r.state.isTerminal = true → Backs P s.disk id r.toUploadReceipt := by
  refine (readReceiptFile_triple hF _).weaken fun res s h => ⟨h.1, fun r hr _ => ?_⟩
  obtain ⟨stored, hstored, hdecode⟩ := h.2.2 r hr
  refine ⟨stored, hstored, .inr ?_⟩
  rw [decodeRecord_eq_ok hdecode]

/-- A pending record is not the receipt of a finished attempt. -/
theorem readPending_triple : (exportContract P).Triple w F (readPending P) fun res s => F s ∧
      ∀ r, res = .ok r → r.state.isTerminal = false := by
  refine (readReceiptFile_triple hF _).weaken fun res s h => ⟨h.1, fun r hr => ?_⟩
  obtain ⟨q, hq, hdecode⟩ := h.2.2 r hr
  rw [decodeRecord_eq_ok hdecode]
  exact (h.2.1.pending q hq).1

theorem findReceipt_triple (id : String) :
    (exportContract P).Triple w F (findReceipt P id) fun res s => F s ∧
      ∀ r, res = .ok r → r.state.isTerminal = true → Backs P s.disk id r.toUploadReceipt := by
  refine (readReceipt_triple hF id).bind fun first => ?_
  cases first with
  | ok record => exact .pure fun s h => h
  | error err =>
    dsimp only
    split
    · refine Contract.Triple.bind ((readPending_triple hF).strengthen fun s h => h.1)
        fun second => ?_
      cases second with
      | ok record =>
        dsimp only
        split
        · refine .pure fun s h => ⟨h.1, fun r hr hterminal => ?_⟩
          cases hr
          rw [h.2 record rfl] at hterminal
          cases hterminal
        · exact (readReceipt_triple hF id).strengthen fun s h => h.1
      | error err =>
        dsimp only
        split
        · exact (readReceipt_triple hF id).strengthen fun s h => h.1
        · exact .pure fun s h => ⟨h.1, nofun⟩
    · exact .pure fun s h => ⟨h.1, nofun⟩

theorem lookUp_triple (L : Local) (id : String) (name : Path) :
    (exportContract P).Triple w F (lookUp P L id name) fun response s => F s ∧
      Backed P s.disk (.lookup id response) := by
  refine (findReceipt_triple hF id).bind fun found => ?_
  cases found with
  | error err =>
    refine .pure fun s h => ⟨h.1, ?_⟩
    split <;> trivial
  | ok record =>
    refine .pure fun s h => ⟨h.1, ?_⟩
    unfold view
    split
    · trivial
    · split
      · exact h.2 record rfl
      · trivial

end

theorem lookUpLocked_triple (L : Local) (id : String) (name : Path) :
    (exportContract P).Triple w (Holding P w fun _ => True) (lookUpLocked P L id name)
      fun response s => s.lock = some w ∧ Backed P s.disk (.lookup id response) := by
  refine Contract.Triple.bind recoverReceipt_locked fun recovered => ?_
  cases recovered with
  | error err => exact .pure fun s h => ⟨h.lock, trivial⟩
  | ok _ => exact (lookUp_triple lock_stable L id name).strengthen fun s h => h.lock

theorem serveReceipt_triple (L : Local) (q : Prog.Lookup) :
    (exportContract P).Triple w (fun _ => True) (serveReceipt P L w q) fun _ _ => True := by
  unfold serveReceipt
  split
  · exact respond_plain fun d => trivial
  · split
    · exact respond_plain fun d => trivial
    · cases L.lexical q.name with
      | error err => exact respond_plain fun d => trivial
      | ok name =>
        refine tryMutationLock_triple.bind fun acquired => ?_
        cases acquired with
        | error err =>
          refine Contract.Triple.strengthen (P := fun _ => True) ?_ fun _ _ => trivial
          exact respond_plain fun d => trivial
        | ok acquired =>
          cases acquired with
          | true =>
            refine ((lookUpLocked_triple L q.id name).strengthen fun s h => h rfl).bind ?_
            intro response
            exact (respond_triple lock_stable fun s h => h).bind fun _ => unlockMutation_triple
          | false =>
            refine Contract.Triple.bind (Contract.Triple.strengthen
              (lookUp_triple stable_const L q.id name) fun _ _ => trivial)
              fun response => ?_
            exact respond_triple stable_const fun _ _ => trivial

end Lookups

theorem export_sound (P : Primitives) (policy : Nat → Local)
    (entries : AList fun _ : Path => Nat) (content : Nat → Bytes) :
    (exportContract P).Sound (exportSystem P policy) (fun _ _ => True)
      (newExport entries content) where
  inv_start := ⟨journal_new entries content, nofun⟩
  loop_start _ := trivial
  loop_stable _ := stable_const
  body w := by
    refine Contract.Triple.bind (.receive stable_const fun s i _ h => h) fun request => ?_
    cases request with
    | inl r => exact (serveMutation_triple (policy w.1) r).bind fun _ => .pure fun _ h _ => h
    | inr q => exact (serveReceipt_triple (policy w.1) q).bind fun _ => .pure fun _ h _ => h
  abort {who s s'} hinv habort := by
    cases habort
    refine ⟨hinv, fun t ht => ⟨fun hlock => ⟨?_, rfl⟩, .refl _, suffix_refl _⟩,
      fun _ _ => trivial⟩
    simp [hlock, ht]

section Histories

variable {policy : Nat → Local} {entries : AList fun _ : Path => Nat} {content : Nat → Bytes}
  {c c' : Config Worker Export}

/-- A run started on an unused journal. -/
def Served (P : Primitives) (policy : Nat → Local) (entries : AList fun _ : Path => Nat)
    (content : Nat → Bytes) (c : Config Worker Export) : Prop :=
  (exportSystem P policy).Reach (fun _ _ => True) (newExport entries content) c

/-- The journal and the history of responses grow along a run. -/
theorem Served.grows (h : Served P policy entries content c)
    (hrun : Relation.ReflTransGen (exportSystem P policy).Step c c') :
    Served P policy entries content c' ∧ Grows c.state c'.state := by
  induction hrun with
  | refl => exact ⟨h, .refl _, suffix_refl _⟩
  | @tail c₁ c₂ _ hstep ih =>
    obtain ⟨hreach, hgrows⟩ := ih
    have hnext : Grows c₁.state c₂.state := by
      refine (export_sound P policy entries content).step (fun t => ?_) (fun who s s' habort => ?_)
        (fun s => ⟨.refl _, suffix_refl _⟩) hreach hstep trivial
      · exact ⟨(t.1 + 1, t.2), by simp [Prod.ext_iff], fun s s' hrely => hrely.2⟩
      · cases habort
        exact ⟨.refl _, suffix_refl _⟩
    exact ⟨.step hreach hstep trivial, hgrows.disk.trans hnext.disk,
      hgrows.observed.trans hnext.observed⟩

/-- What a shown receipt says is what the stored one says. -/
theorem Shows.fields {stored : Record} {r : UploadReceipt} (h : Shows stored r) :
    r.id = stored.id ∧ r.state = stored.state ∧ r.sha256 = stored.sha256 ∧
      r.size = stored.size := by
  rcases h with rfl | rfl <;> exact ⟨rfl, rfl, rfl, rfl⟩

/-- The response of an observation. -/
def Observation.response : Observation → Response
  | .put _ response => response
  | .lookup _ response => response

/-- The upload id of an observation. -/
def Observation.id : Observation → String
  | .put id _ => id
  | .lookup id _ => id

/-- A receipt that was observed in a terminal state is stored. -/
theorem Served.backs (h : Served P policy entries content c) {o : Observation}
    (ho : o ∈ c.state.observed) {r : UploadReceipt} (hr : o.response = .receipt r)
    (hterminal : r.state.isTerminal = true) : Backs P c.state.disk o.id r := by
  have hbacked := ((export_sound P policy entries content).inv_of_reach h).2 o ho
  cases o with
  | put id response =>
    cases hr
    exact hbacked
  | lookup id response =>
    cases hr
    exact hbacked hterminal

end Histories

section Sample

/-- A digest that keeps the first bytes. -/
def samplePrimitives : Primitives where
  sha256 data := (data ++ replicate 32 0).take 32
  decodeBase64 text := some (utf8 text)
  fits _ := true

def samplePolicy : Nat → Local := fun _ => ⟨false, fun name => .ok [name]⟩

def sampleContent : Bytes := utf8 "0123456789abcdef0123456789abcdef"

/-- An upload of 32 bytes. -/
def sampleRequest : Request where
  put := true
  underPrefix := true
  name := utf8 "a"
  uploadID := "upload-0123456789"
  uploadLength := "32"
  contentDigest := "sha-256=:0123456789abcdef0123456789abcdef:"
  ifMatch := ""
  ifNoneMatch := ""
  contentLength := 32

def sampleBody : UploadBody := ⟨some sampleContent, 32, [], false, none, 0, false⟩

def sampleRecord : Record where
  id := "upload-0123456789"
  path := [utf8 "a"]
  state := .receiving
  status := 0
  size := "32"
  sha256 := hex sampleContent
  revision := ""
  startedAt := ""
  completedAt := ""
  fingerprint := fingerprint samplePrimitives sampleRequest [utf8 "a"] sampleContent
  target := [utf8 "a"]
  temporary := none
  fileIdentity := none

/-- The staging file of the sample upload. -/
def sampleStaging : Path := [stagingName (utf8 "A")]

def stagedRecord : Record := { sampleRecord with temporary := some sampleStaging }

def preparedRecord : Record :=
  { stagedRecord with state := .prepared, fileIdentity := some 1 }

def committedRecord : Record := preparedRecord.complete .committed 201 ""

/-- The disk while the staging file is open. -/
def stagedDisk (data : Bytes) : Disk where
  entries := (∅ : AList fun _ : Path => Nat).insert sampleStaging 1
  content := update (fun _ => []) 1 data
  pending := some stagedRecord
  receipts := ∅
  replaced := []

/-- The state while the upload holds the lock. -/
def heldBy (d : Disk) : Export :=
  ⟨update (fun _ => none) 0 (some 0), some (0, 0), d, []⟩

/-- The disk after the sample upload. -/
def sampleCommitted : Disk where
  entries := ((stagedDisk sampleContent).entries.erase sampleStaging).insert [utf8 "a"] 1
  content := (stagedDisk sampleContent).content
  pending := none
  receipts := (∅ : AList fun _ : String => Record).insert
    (receiptName samplePrimitives committedRecord.id) committedRecord
  replaced := [⟨"upload-0123456789", [utf8 "a"], sampleContent⟩]

/-- The state after the sample upload. -/
def sampleExport : Export where
  mutations _ := none
  lock := none
  disk := sampleCommitted
  observed := [.put "upload-0123456789" (.receipt committedRecord.toUploadReceipt)]

/-- The handler serves the sample request alone. -/
theorem serve_sample : (serve samplePrimitives (samplePolicy 0) (0, 0)).Solo (fun _ _ => True)
      (newExport ∅ fun _ => []) true sampleExport := by
  refine .act (.inl sampleRequest : Request ⊕ Prog.Lookup) rfl trivial <|
    .act false rfl trivial <| .act (none : Option Error) rfl trivial <|
    .act (none : Option Error) rfl trivial <| .act "" rfl trivial <|
    .act (none : Option Error) rfl trivial ?_
  -- `beginReceipt` writes the record of the upload, `openUpload` creates the staging file.
  refine .act (.ok [utf8 "a"] : Except Error Path) rfl trivial <|
    .act (.ok () : Except Error Unit) rfl trivial <| .act () rfl trivial <|
    .act (0 : Nat) rfl trivial <| .act (.ok () : Except Error Unit) rfl trivial <|
    .act Prog.WriteOutcome.written rfl trivial <|
    .act (.ok () : Except Error Unit) rfl trivial <|
    .act (.ok () : Except Error Unit) rfl trivial <|
    .act (.ok [utf8 "a"] : Except Error Path) rfl trivial <|
    .act (.ok () : Except Error Unit) rfl trivial <|
    .act (.ok (utf8 "A", 1) : Except Error (Bytes × Nat)) rfl trivial <|
    .act (.ok () : Except Error Unit) rfl trivial <|
    .act Prog.WriteOutcome.written rfl trivial ?_
  -- The body is copied and the file takes the place of the target.
  refine .act [⟨false, sampleContent, .eof, none⟩] rfl trivial <|
    .act () (show _ = some ((), heldBy (stagedDisk sampleContent)) from ?_) trivial <|
    .act false rfl trivial <| .act (.ok () : Except Error Unit) rfl trivial <|
    .act (.ok () : Except Error Unit) rfl trivial <|
    .act (.ok () : Except Error Unit) rfl trivial <|
    .act Prog.WriteOutcome.written rfl trivial <| .act (none : Option Error) rfl trivial <|
    .act (.ok () : Except Error Unit) rfl trivial <| .act "" rfl trivial <|
    .act Prog.WriteOutcome.written rfl trivial <| .act (none : Option Error) rfl trivial <|
    .act (.ok () : Except Error Unit) rfl trivial <| .act () rfl trivial <|
    .act () rfl trivial <|
    .act () (show _ = some ((), sampleExport) from ?_) trivial <| .done _ _
  · exact congrArg (fun content => some ((), ({ heldBy (stagedDisk []) with
      disk := { stagedDisk [] with content } } : Export))) (update_idem ..)
  · exact congrArg (fun mutations => some ((), { sampleExport with mutations }))
      ((update_idem ..).trans (update_eq_self ..))

/-- One handler has served the sample request. -/
theorem sample_served : Served samplePrimitives samplePolicy ∅ (fun _ => [])
    ⟨sampleExport, (exportSystem samplePrimitives samplePolicy).body⟩ :=
  System.Reach.start.round (0, 0) serve_sample trivial

end Sample

section Results

variable {policy : Nat → Local} {entries : AList fun _ : Path => Nat} {content : Nat → Bytes}
  {c c' : Config Worker Export}

/-- Whatever processes serve an export and wherever they stop, an upload id replaces its
target at most once, and a request with that id is answered with the stored receipt or
fails. -/
theorem upload_at_most_once (h : Served P policy entries content c) :
    (c.state.disk.replaced.map Replacement.id).Nodup ∧
      ∀ id response, .put id response ∈ c.state.observed →
        (∃ r, response = .receipt r ∧ Backs P c.state.disk id r) ∨
          (∃ status msg, response = .error status msg) ∨ response = .dropped := by
  obtain ⟨hjournal, hobserved⟩ := (export_sound P policy entries content).inv_of_reach h
  refine ⟨hjournal.once, fun id response ho => ?_⟩
  have hbacked := hobserved _ ho
  cases response with
  | receipt r => exact .inl ⟨r, rfl, hbacked⟩
  | webdav => exact hbacked.elim
  | error status msg => exact .inr (.inl ⟨status, msg, rfl⟩)
  | dropped => exact .inr (.inr rfl)

theorem upload_at_most_once_sample :
    Served samplePrimitives samplePolicy ∅ (fun _ => [])
        ⟨sampleExport, (exportSystem samplePrimitives samplePolicy).body⟩ ∧
      (sampleExport.disk.replaced.map Replacement.id).Nodup :=
  ⟨sample_served, (upload_at_most_once sample_served).1⟩

/-- A receipt observed as committed names the digest and size of the content its upload put
in the place of the target. After a receipt was observed as rejected or interrupted, its
upload has not replaced anything, and it never will. -/
theorem receipt_truthful (h : Served P policy entries content c)
    (hlater : Relation.ReflTransGen (exportSystem P policy).Step c c') {o : Observation}
    (ho : o ∈ c.state.observed) {r : UploadReceipt} (hr : o.response = .receipt r) :
    (r.state = .committed → ∃ e ∈ c.state.disk.replaced, e.id = r.id ∧
        hex (P.sha256 e.content) = r.sha256 ∧ toString e.content.length = r.size ∧
        ∃ stored, c.state.disk.receiptOf P o.id = some stored ∧ Shows stored r ∧
          (stored.target = e.target ∨ stored.target = journaled e.target)) ∧
      (r.state = .rejected ∨ r.state = .interrupted →
        ∀ e ∈ c'.state.disk.replaced, e.id ≠ r.id) := by
  obtain ⟨hjournal, _⟩ := (export_sound P policy entries content).inv_of_reach h
  obtain ⟨hserved, hgrows⟩ := h.grows hlater
  obtain ⟨hjournal', _⟩ := (export_sound P policy entries content).inv_of_reach hserved
  refine ⟨fun hstate => ?_, fun hstate => ?_⟩
  · obtain ⟨stored, hstored, hshows⟩ := h.backs ho hr (by rw [hstate]; rfl)
    obtain ⟨hid, hsame, hsha, hsize⟩ := hshows.fields
    obtain ⟨e, he, hmatches⟩ := (hjournal.receipt _ _ hstored).2.committed (hsame.symm.trans hstate)
    exact ⟨e, he, hmatches.id.trans hid.symm, hmatches.sha256.trans hsha.symm,
      hmatches.size.trans hsize.symm, stored, hstored, hshows, hmatches.target⟩
  · obtain ⟨stored, hstored, hshows⟩ := h.backs ho hr (by
      rcases hstate with hstate | hstate <;> rw [hstate] <;> rfl)
    obtain ⟨hid, hsame, _, _⟩ := hshows.fields
    have htruthful := (hjournal'.receipt _ _ (hgrows.disk.receipts _ _ hstored)).2
    rw [hid]
    exact htruthful.refused (by rwa [← hsame])

theorem receipt_truthful_sample :
    .put "upload-0123456789" (.receipt committedRecord.toUploadReceipt) ∈ sampleExport.observed ∧
      ∃ e ∈ sampleExport.disk.replaced, e.id = committedRecord.id ∧
        hex (samplePrimitives.sha256 e.content) = committedRecord.sha256 := by
  refine ⟨mem_singleton_self _, ?_⟩
  obtain ⟨e, he, hid, hsha, _⟩ := (receipt_truthful sample_served .refl
    (mem_singleton_self _) rfl).1 rfl
  exact ⟨e, he, hid, hsha⟩

end Results

end Rstream.Filesystem
