import Rstream.Filesystem.Upload

/-!
# What the journal knows

The invariant of the disk at every step of every process. A receipt tells the
truth about the replacements made so far, the pending record tells how far its
attempt can have come, and no replacement is unaccounted for. The lemmas say how
each kind of disk action keeps it.
-/

namespace Rstream.Filesystem

open Go List Option

variable {base : Bytes} {p : Path} {i : Nat}

/-- No replacement was made by the upload. -/
def Disk.Untouched (d : Disk) (id : String) : Prop := ∀ e ∈ d.replaced, e.id ≠ id

/-- The replacement is the one the record describes; a record that was read back from the
journal may have lost the invalid bytes of the target. -/
structure Matches (P : Primitives) (r : Record) (e : Replacement) : Prop where
  id : e.id = r.id
  sha256 : hex (P.sha256 e.content) = r.sha256
  size : toString e.content.length = r.size
  target : r.target = e.target ∨ r.target = journaled e.target

/-- The receipt is true of the replacements made so far. -/
structure Truthful (P : Primitives) (d : Disk) (r : Record) : Prop where
  terminal : r.state.isTerminal = true
  committed : r.state = .committed → ∃ e ∈ d.replaced, Matches P r e
  refused : r.state = .rejected ∨ r.state = .interrupted → d.Untouched r.id

/-- The staging file is the only entry that stands for its inode. -/
def Disk.Sole (d : Disk) (temporary : Path) (i : Nat) : Prop :=
  ∀ p, d.entries.lookup p = some i → p = temporary

/-- The staging file of a prepared record is in its place or removed. -/
structure Staged (d : Disk) (q : Record) (temporary : Path) (i : Nat) : Prop where
  untouched : d.Untouched q.id
  sole : d.Sole temporary i

/-- The staging file of a prepared record has replaced the target. -/
structure Renamed (P : Primitives) (d : Disk) (q : Record) (base : Bytes) : Prop where
  replaced : ∃ e ∈ d.replaced, Matches P q e ∧ q.target = e.target
  gone : ∀ p : Path, p.getLast? = some base → d.entries.lookup p = none

/-- The base name of a staging file. -/
structure IsStagingBase (base : Bytes) : Prop where
  marked : utf8 uploadPrefix <+: base
  ascii : coerceUTF8 base = base

/-- How far a prepared attempt without a receipt can have come. -/
structure Prepared (P : Primitives) (d : Disk) (q : Record) (temporary : Path) (base : Bytes)
    (i : Nat) : Prop where
  staging : q.temporary = some temporary
  identity : q.fileIdentity = some i
  last : temporary.getLast? = some base
  name : IsStagingBase base
  target : isStaging q.target = false
  progress : Staged d q temporary i ∨ Renamed P d q base

/-- The staging file holds the content the record describes, and nothing but it bears its
name. -/
structure Complete (P : Primitives) (d : Disk) (q : Record) (temporary : Path) (base : Bytes)
    (i : Nat) : Prop where
  file : ∀ j, d.entries.lookup temporary = some j → j = i
  bearer : ∀ p : Path, p.getLast? = some base → d.entries.lookup p ≠ none → p = temporary
  sha256 : hex (P.sha256 (d.content i)) = q.sha256
  size : toString (d.content i).length = q.size

/-- How far an attempt without a receipt can have come. -/
def Attempted (P : Primitives) (d : Disk) (q : Record) : Prop :=
  match q.state with
  | .receiving => d.Untouched q.id
  | .prepared => ∃ temporary base i, Prepared P d q temporary base i
  | _ => False

/-- The receipt of an upload id. -/
def Disk.receiptOf (P : Primitives) (d : Disk) (id : String) : Option Record :=
  d.receipts.lookup (receiptName P id)

/-- The invariant of the disk. -/
structure Journal (P : Primitives) (d : Disk) : Prop where
  once : (d.replaced.map Replacement.id).Nodup
  receipt : ∀ n r, d.receipts.lookup n = some r → n = receiptName P r.id ∧ Truthful P d r
  pending : ∀ q, d.pending = some q →
    q.state.isTerminal = false ∧ (d.receiptOf P q.id = none → Attempted P d q)
  accounted : ∀ e ∈ d.replaced, d.receiptOf P e.id ≠ none ∨ ∃ q, d.pending = some q ∧ q.id = e.id

/-- Receipts stay and replacements are only added. -/
structure Extends (d d' : Disk) : Prop where
  receipts : ∀ n r, d.receipts.lookup n = some r → d'.receipts.lookup n = some r
  replaced : d.replaced <:+ d'.replaced

/-- The pending record, if any, does not depend on the tree. -/
def Disk.Quiet (d : Disk) : Prop := ∀ q, d.pending = some q → q.state ≠ .prepared

/-- The attempt has neither a receipt nor an effect. -/
structure Unsettled (P : Primitives) (id : String) (d : Disk) : Prop where
  vacant : d.receiptOf P id = none
  untouched : d.Untouched id
  pending : ∃ q, d.pending = some q ∧ q.id = id

variable {P : Primitives} {d d' : Disk} {q r : Record} {id : String}

theorem Extends.refl (d : Disk) : Extends d d := ⟨fun _ _ h => h, suffix_refl _⟩

theorem Extends.trans {d₁ d₂ d₃ : Disk} (h : Extends d₁ d₂) (h' : Extends d₂ d₃) : Extends d₁ d₃ :=
  ⟨fun n r hr => h'.receipts n r (h.receipts n r hr), h.replaced.trans h'.replaced⟩

/-- An unused journal is in order. -/
theorem journal_new (entries : AList fun _ : Path => Nat) (content : Nat → Bytes) :
    Journal P (newExport entries content).disk where
  once := nodup_nil
  receipt n r h := by simp [newExport] at h
  pending q h := by simp [newExport] at h
  accounted e he := by simp [newExport] at he

section Names

/-- The prefix of staging files is ASCII. -/
theorem uploadPrefix_ascii : ∀ b ∈ utf8 uploadPrefix, b < 0x80 := by decide +kernel

theorem isStaging_iff :
    isStaging p = true ↔ ∃ base, p.getLast? = some base ∧ utf8 uploadPrefix <+: base := by
  unfold isStaging
  cases hlast : p.getLast? with
  | none => simp
  | some base => simp [ isPrefixOf_iff_prefix]

/-- A round trip through the journal does not turn a path into a staging file. -/
theorem isStaging_of_journaled (h : isStaging (journaled p) = true) : isStaging p = true := by
  obtain ⟨base, hlast, hmarked⟩ := isStaging_iff.mp h
  rw [journaled, getLast?_map, map_eq_some_iff] at hlast
  obtain ⟨base₀, hlast₀, rfl⟩ := hlast
  exact isStaging_iff.mpr ⟨base₀, hlast₀, isPrefix_of_coerceUTF8 uploadPrefix_ascii hmarked⟩

/-- The base name of a staging file survives the round trip. -/
theorem getLast?_journaled (hlast : p.getLast? = some base)
    (hbase : IsStagingBase base) : (journaled p).getLast? = some base := by
  rw [journaled, getLast?_map, hlast, map_some, hbase.ascii]

/-- Random names are staging names. -/
theorem isStagingBase_stagingName {text : Bytes} (h : text.all Prog.isRandChar = true) :
    IsStagingBase (Prog.stagingName text) := by
  refine ⟨prefix_append _ _, coerceUTF8_of_ascii ?_⟩
  intro b hb
  rcases mem_append.mp hb with hprefix | htext
  · exact uploadPrefix_ascii b hprefix
  · have hrand := all_eq_true.mp h b htext
    simp only [Prog.isRandChar, Bool.or_eq_true, Bool.and_eq_true, decide_eq_true_eq] at hrand
    rw [UInt8.lt_iff_toNat_lt]
    simp only [UInt8.le_iff_toNat_le] at hrand
    have h90 : (90 : UInt8).toNat = 90 := rfl
    have h55 : (55 : UInt8).toNat = 55 := rfl
    have h128 : (0x80 : UInt8).toNat = 128 := rfl
    omega

end Names

section Records

theorem decodeRecord_eq_ok (h : decodeRecord P q = .ok r) :
    r = { q with
      path := journaled q.path
      target := journaled q.target
      temporary := q.temporary.map journaled } := by
  unfold decodeRecord at h
  split at h
  · cases h
  · split at h
    · cases h
      rfl
    · cases h

theorem decodeRecord_ne_notExist {err : Error} (h : decodeRecord P q = .error err) :
    isNotExist err = false := by
  unfold decodeRecord at h
  split at h
  · cases h
    rfl
  · split at h
    · cases h
    · cases h
      rfl

/-- Completing a record leaves what it says of the content alone. -/
theorem Matches.complete {e : Replacement} (h : Matches P r e) (state : UploadState)
    (status : Nat) (now : String) : Matches P (r.complete state status now) e :=
  ⟨h.id, h.sha256, h.size, h.target⟩

/-- A record read back describes the same replacement. -/
theorem Matches.decode {e : Replacement} (h : Matches P q e) (htarget : q.target = e.target)
    (hdecode : decodeRecord P q = .ok r) : Matches P r e := by
  cases decodeRecord_eq_ok hdecode
  exact ⟨h.id, h.sha256, h.size, .inr (congrArg journaled htarget)⟩

end Records

section Actions

/-- With no pending record, an upload without a receipt has no effect. -/
theorem Journal.untouched (h : Journal P d) (hpending : d.pending = none)
    (hvacant : d.receiptOf P id = none) : d.Untouched id := by
  rintro e he rfl
  rcases h.accounted e he with hreceipt | ⟨q, hq, _⟩
  · exact hreceipt hvacant
  · rw [hpending] at hq
    cases hq

/-- A receipt stays truthful when the replacements and the receipts stay. -/
theorem Truthful.of_replaced (h : Truthful P d r) (heq : d'.replaced = d.replaced) :
    Truthful P d' r := by
  refine ⟨h.terminal, ?_, ?_⟩
  · rw [heq]
    exact h.committed
  · intro hstate e he
    exact h.refused hstate e (heq ▸ he)

/-- A change of the tree that the pending record does not depend on. -/
theorem Journal.changeTree (h : Journal P d)
    (hquiet : ∀ q, d.pending = some q → q.state = .prepared → d.receiptOf P q.id = none →
      ∀ temporary base i, Prepared P d q temporary base i → Prepared P d' q temporary base i)
    (hpending : d'.pending = d.pending) (hreceipts : d'.receipts = d.receipts)
    (hreplaced : d'.replaced = d.replaced) : Journal P d' ∧ Extends d d' := by
  have hof : ∀ id, d'.receiptOf P id = d.receiptOf P id := fun id => by
    rw [Disk.receiptOf, Disk.receiptOf, hreceipts]
  refine ⟨⟨?_, ?_, ?_, ?_⟩, ⟨fun n r hr => hreceipts ▸ hr, hreplaced ▸ suffix_refl _⟩⟩
  · rw [hreplaced]
    exact h.once
  · intro n r hr
    rw [hreceipts] at hr
    exact ⟨(h.receipt n r hr).1, (h.receipt n r hr).2.of_replaced hreplaced⟩
  · intro q hq
    rw [hpending] at hq
    refine ⟨(h.pending q hq).1, fun hvacant => ?_⟩
    rw [hof] at hvacant
    have hattempted := (h.pending q hq).2 hvacant
    unfold Attempted at hattempted ⊢
    cases hstate : q.state <;> simp only [hstate] at hattempted ⊢
    · exact fun e he => hattempted e (hreplaced ▸ he)
    · obtain ⟨temporary, base, i, hprepared⟩ := hattempted
      exact ⟨temporary, base, i, hquiet q hq hstate hvacant temporary base i hprepared⟩
  · intro e he
    rw [hreplaced] at he
    rw [hof, hpending]
    exact h.accounted e he

/-- Any change of the tree while no record is prepared. -/
theorem Journal.quiet (h : Journal P d) (hquiet : d.Quiet) (entries : AList fun _ : Path => Nat)
    (content : Nat → Bytes) :
    Journal P { d with entries, content } ∧ Extends d { d with entries, content } :=
  h.changeTree (fun q hq hstate => absurd hstate (hquiet q hq)) rfl rfl rfl

theorem Journal.write (h : Journal P d) (content : Nat → Bytes) :
    Journal P { d with content } ∧ Extends d { d with content } := by
  refine h.changeTree (fun q _ _ _ temporary base i hprepared => ?_) rfl rfl rfl
  refine ⟨hprepared.1, hprepared.2, hprepared.3, hprepared.4, hprepared.5, ?_⟩
  exact hprepared.progress.imp (fun hs => ⟨hs.1, hs.2⟩) fun hr => ⟨hr.1, hr.2⟩

theorem lookup_erase_some {p' : Path} {entries : AList fun _ : Path => Nat}
    (h : (entries.erase p).lookup p' = some i) : entries.lookup p' = some i := by
  by_cases hp : p' = p
  · rw [hp, AList.lookup_erase] at h
    cases h
  · rwa [AList.lookup_erase_ne hp] at h

/-- The removal of an entry. -/
theorem Journal.erase (h : Journal P d) (p : Path) :
    Journal P { d with entries := d.entries.erase p } ∧
      Extends d { d with entries := d.entries.erase p } := by
  refine h.changeTree (fun q _ _ _ temporary base i hprepared => ?_) rfl rfl rfl
  refine ⟨hprepared.1, hprepared.2, hprepared.3, hprepared.4, hprepared.5, ?_⟩
  rcases hprepared.progress with hstaged | hrenamed
  · exact .inl ⟨hstaged.1, fun p' hp' => hstaged.2 p' (lookup_erase_some hp')⟩
  · refine .inr ⟨hrenamed.1, fun p' hp' => ?_⟩
    by_contra hne
    obtain ⟨j, hj⟩ := ne_none_iff_exists'.mp hne
    have hnone := hrenamed.gone p' hp'
    rw [lookup_erase_some hj] at hnone
    cases hnone

/-- A new pending record of the same upload, or the first one. -/
theorem Journal.writePending (h : Journal P d)
    (hsame : ∀ q', d.pending = some q' → q'.id = q.id) (hstate : q.state.isTerminal = false)
    (hattempted : d.receiptOf P q.id = none → Attempted P { d with pending := some q } q) :
    Journal P { d with pending := some q } ∧ Extends d { d with pending := some q } := by
  refine ⟨⟨h.once, ?_, ?_, ?_⟩, ⟨fun n r hr => hr, suffix_refl _⟩⟩
  · intro n r hr
    exact ⟨(h.receipt n r hr).1, (h.receipt n r hr).2.of_replaced rfl⟩
  · rintro q' hq'
    obtain rfl : q = q' := some.inj hq'
    exact ⟨hstate, hattempted⟩
  · intro e he
    rcases h.accounted e he with hreceipt | ⟨q', hq', hid⟩
    · exact .inl hreceipt
    · exact .inr ⟨q, rfl, (hsame q' hq').symm.trans hid⟩

/-- The receipt of the pending upload. -/
theorem Journal.writeReceipt (h : Journal P d) (hpending : ∃ q, d.pending = some q ∧ q.id = r.id)
    (hvacant : d.receiptOf P r.id = none) (htruthful : Truthful P d r) :
    Journal P { d with receipts := d.receipts.insert (receiptName P r.id) r } ∧
      Extends d { d with receipts := d.receipts.insert (receiptName P r.id) r } := by
  have hkept : ∀ n r', d.receipts.lookup n = some r' →
      (d.receipts.insert (receiptName P r.id) r).lookup n = some r' := by
    intro n r' hr'
    have hne : n ≠ receiptName P r.id := by
      rintro rfl
      rw [Disk.receiptOf, hr'] at hvacant
      cases hvacant
    rwa [AList.lookup_insert_ne hne]
  refine ⟨⟨h.once, ?_, ?_, ?_⟩, ⟨hkept, suffix_refl _⟩⟩
  · intro n r' hr'
    by_cases hn : n = receiptName P r.id
    · subst hn
      simp only [AList.lookup_insert, some.injEq] at hr'
      subst hr'
      exact ⟨rfl, htruthful.of_replaced rfl⟩
    · simp only [AList.lookup_insert_ne hn] at hr'
      exact ⟨(h.receipt n r' hr').1, (h.receipt n r' hr').2.of_replaced rfl⟩
  · intro q hq
    obtain ⟨q', hq', hid⟩ := hpending
    obtain rfl : q' = q := some.inj (hq'.symm.trans hq)
    refine ⟨(h.pending q' hq).1, fun hnone => ?_⟩
    rw [Disk.receiptOf, hid] at hnone
    simp at hnone
  · intro e he
    refine (h.accounted e he).imp_left fun hreceipt => ?_
    obtain ⟨r', hr'⟩ := ne_none_iff_exists'.mp hreceipt
    rw [Disk.receiptOf, hkept _ _ hr']
    exact some_ne_none r'

/-- The pending record goes once its upload has a receipt. -/
theorem Journal.removePending (h : Journal P d)
    (hsettled : ∀ q, d.pending = some q → d.receiptOf P q.id ≠ none) :
    Journal P { d with pending := none } ∧ Extends d { d with pending := none } := by
  refine ⟨⟨h.once, ?_, ?_, ?_⟩, ⟨fun n r hr => hr, suffix_refl _⟩⟩
  · intro n r hr
    exact ⟨(h.receipt n r hr).1, (h.receipt n r hr).2.of_replaced rfl⟩
  · intro q hq
    cases hq
  · intro e he
    rcases h.accounted e he with hreceipt | ⟨q, hq, hid⟩
    · exact .inl hreceipt
    · exact .inl (hid ▸ hsettled q hq)

/-- The disk after the staging file of a durable upload has replaced its target. -/
def Disk.replace (d : Disk) (q : Record) (temporary : Path) (i : Nat) : Disk :=
  { d with
    entries := (d.entries.erase temporary).insert q.target i
    replaced := ⟨q.id, q.target, d.content i⟩ :: d.replaced }

/-- After the rename no entry bears the name of the staging file. -/
theorem Complete.gone {temporary : Path}
    (h : Complete P d q temporary base i) (hname : IsStagingBase base)
    (htarget : isStaging q.target = false) (p : Path) (hp : p.getLast? = some base) :
    (d.replace q temporary i).entries.lookup p = none := by
  have hne : p ≠ q.target := by
    rintro rfl
    rw [isStaging_iff.mpr ⟨base, hp, hname.marked⟩] at htarget
    cases htarget
  rw [Disk.replace, AList.lookup_insert_ne hne]
  by_contra hsome
  obtain ⟨j, hj⟩ := ne_none_iff_exists'.mp hsome
  have hlookup := lookup_erase_some hj
  obtain rfl : p = temporary := h.bearer p hp (by rw [hlookup]; exact some_ne_none j)
  rw [AList.lookup_erase] at hj
  cases hj

/-- The rename that commits a durable upload. -/
theorem Journal.rename (h : Journal P d) {temporary : Path}
    (hpending : d.pending = some q) (hstate : q.state = .prepared)
    (hvacant : d.receiptOf P q.id = none) (huntouched : d.Untouched q.id)
    (hprepared : Prepared P d q temporary base i) (hcomplete : Complete P d q temporary base i) :
    Journal P (d.replace q temporary i) ∧ Extends d (d.replace q temporary i) := by
  have hmatches : Matches P q ⟨q.id, q.target, d.content i⟩ :=
    ⟨rfl, hcomplete.sha256, hcomplete.size, .inl rfl⟩
  refine ⟨⟨?_, ?_, ?_, ?_⟩, ⟨fun n r hr => hr, suffix_cons _ _⟩⟩
  · refine nodup_cons.mpr ⟨fun hmem => ?_, h.once⟩
    obtain ⟨e, he, hid⟩ := mem_map.mp hmem
    exact huntouched e he hid
  · intro n r hr
    obtain ⟨hn, htruthful⟩ := h.receipt n r hr
    refine ⟨hn, htruthful.terminal, fun hcommitted => ?_, fun hrefused e he => ?_⟩
    · obtain ⟨e, he, hmatch⟩ := htruthful.committed hcommitted
      exact ⟨e, mem_cons_of_mem _ he, hmatch⟩
    · rcases mem_cons.mp he with rfl | he
      · intro hid
        change q.id = r.id at hid
        rw [hn, ← hid] at hr
        rw [Disk.receiptOf, show d.receipts.lookup (receiptName P q.id) = some r from hr] at hvacant
        cases hvacant
      · exact htruthful.refused hrefused e he
  · intro q' hq'
    obtain rfl : q = q' := some.inj (hpending.symm.trans hq')
    refine ⟨(h.pending q hpending).1, fun _ => ?_⟩
    unfold Attempted
    simp only [hstate]
    exact ⟨temporary, base, i, hprepared.staging, hprepared.identity, hprepared.last,
      hprepared.name, hprepared.target, .inr ⟨⟨_, mem_cons_self, hmatches, rfl⟩,
        hcomplete.gone hprepared.name hprepared.target⟩⟩
  · intro e he
    rcases mem_cons.mp he with rfl | he
    · exact .inr ⟨q, hpending, rfl⟩
    · exact h.accounted e he

end Actions

end Rstream.Filesystem
