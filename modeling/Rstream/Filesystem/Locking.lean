import Rstream.Core.RelyGuarantee
import Rstream.Filesystem.Journal

/-!
# The contract of the mutation lock

Whoever holds the mutation lock relies on the disk: nobody else changes it. The
other handlers rely on receipts that stay and on responses that were backed by a
receipt when they were given. The rules for programs that hold the lock speak of
the disk alone.
-/

namespace Rstream.Filesystem

open Rstream.Core

/-- The receipt a client is shown, as it is stored or as it is read back. -/
def Shows (stored : Record) (r : UploadReceipt) : Prop :=
  r = stored.toUploadReceipt ∨ r = { stored.toUploadReceipt with path := journaled stored.path }

/-- The receipt shown for an upload id is the stored one. -/
def Backs (P : Primitives) (d : Disk) (id : String) (r : UploadReceipt) : Prop :=
  ∃ stored, d.receiptOf P id = some stored ∧ Shows stored r

/-- A durable upload is answered with its stored receipt or fails; a receipt that is looked
up is the stored one, unless the attempt is in progress. -/
def Backed (P : Primitives) (d : Disk) : Observation → Prop
  | .put id (.receipt r) => Backs P d id r
  | .put _ .webdav => False
  | .lookup id (.receipt r) => r.state.isTerminal = true → Backs P d id r
  | _ => True

/-- The journal and the history of responses only grow. -/
structure Grows (s s' : Export) : Prop where
  disk : Extends s.disk s'.disk
  observed : s.observed <:+ s'.observed

/-- What the handlers of all processes promise each other. -/
def exportContract (P : Primitives) : Contract Worker Export where
  allow _ _ := True
  inv s := Journal P s.disk ∧ ∀ o ∈ s.observed, Backed P s.disk o
  rely w s s' := (s.lock = some w → s'.lock = some w ∧ s'.disk = s.disk) ∧ Grows s s'
  rely_refl w s := ⟨fun h => ⟨h, rfl⟩, .refl _, List.suffix_refl _⟩
  rely_trans := by
    rintro w s₁ s₂ s₃ ⟨hlock₁, hgrows₁⟩ ⟨hlock₂, hgrows₂⟩
    refine ⟨fun h => ?_, hgrows₁.disk.trans hgrows₂.disk, hgrows₁.observed.trans hgrows₂.observed⟩
    obtain ⟨h₂, heq₂⟩ := hlock₁ h
    obtain ⟨h₃, heq₃⟩ := hlock₂ h₂
    exact ⟨h₃, heq₃.trans heq₂⟩

/-- The handler holds the lock and the disk, in order, satisfies an assertion. -/
structure Holding (P : Primitives) (w : Worker) (φ : Disk → Prop) (s : Export) : Prop where
  lock : s.lock = some w
  journal : Journal P s.disk
  disk : φ s.disk

/-- A program that runs under the lock. -/
def Locked {α : Type} (P : Primitives) (w : Worker) (φ : Disk → Prop) (p : Prog α)
    (ψ : α → Disk → Prop) : Prop :=
  (exportContract P).Triple w (Holding P w φ) p fun a => Holding P w (ψ a)

variable {P : Primitives} {w : Worker} {α β ι : Type} {φ φ' : Disk → Prop} {d d' : Disk}

theorem Backs.extends {id : String} {r : UploadReceipt} (h : Backs P d id r)
    (hext : Extends d d') : Backs P d' id r := by
  obtain ⟨stored, hstored, hshows⟩ := h
  exact ⟨stored, hext.receipts _ _ hstored, hshows⟩

theorem Backed.extends {o : Observation} (h : Backed P d o) (hext : Extends d d') :
    Backed P d' o := by
  cases o with
  | put id response =>
    cases response with
    | receipt r => exact Backs.extends h hext
    | webdav => exact h
    | error | dropped => trivial
  | lookup id response =>
    cases response with
    | receipt r => exact fun hterminal => (h hterminal).extends hext
    | webdav | error | dropped => trivial

/-- Nobody else disturbs an assertion on the disk of the owner of the lock. -/
theorem holding_stable : (exportContract P).Stable w (Holding P w φ) := by
  intro s s' hrely hinv h
  obtain ⟨hlock, hdisk⟩ := hrely.1 h.lock
  exact ⟨hlock, hinv.1, hdisk ▸ h.disk⟩

namespace Locked

variable {p : Prog α} {ψ ψ' : α → Disk → Prop}

theorem pure {a : α} (h : ∀ d, Journal P d → φ d → ψ a d) : Locked P w φ (Pure.pure a) ψ :=
  Contract.Triple.pure fun s hs => ⟨hs.lock, hs.journal, h s.disk hs.journal hs.disk⟩

theorem bind {f : α → Prog β} {χ : β → Disk → Prop} (hp : Locked P w φ p ψ)
    (hf : ∀ a, Locked P w (ψ a) (f a) χ) : Locked P w φ (p >>= f) χ :=
  Contract.Triple.bind hp hf

theorem strengthen (h : Locked P w φ p ψ) (hφ : ∀ d, Journal P d → φ' d → φ d) :
    Locked P w φ' p ψ :=
  Contract.Triple.strengthen h fun s hs => ⟨hs.lock, hs.journal, hφ s.disk hs.journal hs.disk⟩

theorem weaken (h : Locked P w φ p ψ) (hψ : ∀ a d, Journal P d → ψ a d → ψ' a d) :
    Locked P w φ p ψ' :=
  Contract.Triple.weaken h fun a s hs =>
    ⟨hs.lock, hs.journal, hψ a s.disk hs.journal hs.disk⟩

/-- A precondition that does not depend on the disk may be assumed. -/
theorem assuming {c : Prop} (h : c → Locked P w φ p ψ) : Locked P w (fun d => c ∧ φ d) p ψ :=
  fun s hs => h hs.disk.1 s ⟨hs.lock, hs.journal, hs.disk.2⟩

/-- A value the disk provides may be named. -/
theorem naming {γ : Type} {χ : γ → Disk → Prop} (h : ∀ c, Locked P w (χ c) p ψ) :
    Locked P w (fun d => ∃ c, χ c d) p ψ := by
  rintro s ⟨hlock, hjournal, c, hc⟩
  exact h c s ⟨hlock, hjournal, hc⟩

/-- An action of the owner of the lock on the disk. -/
theorem onDisk {step : Disk → ι → Option (α × Disk)}
    (h : ∀ d i a d', Journal P d → φ d → step d i = some (a, d') →
      (Journal P d' ∧ Extends d d') ∧ ψ a d') : Locked P w φ (Prog.onDisk step) ψ := by
  refine .choose holding_stable ?_
  intro s i a s' hinv hs hstep _
  obtain ⟨⟨b, d'⟩, hd', heq⟩ := Option.map_eq_some_iff.mp hstep
  cases heq
  obtain ⟨⟨hjournal, hext⟩, hψ⟩ := h s.disk i b d' hinv.1 hs.disk hd'
  refine ⟨⟨⟨hjournal, fun o ho => (hinv.2 o ho).extends hext⟩, fun u hu => ?_⟩,
    hs.lock, hjournal, hψ⟩
  refine ⟨fun hlock => ?_, hext, List.suffix_refl _⟩
  exact absurd (Option.some.inj (hs.lock.symm.trans hlock)).symm hu

theorem look {step : Export → ι → Option (α × Export)}
    (h : ∀ s i a s', Journal P s.disk → φ s.disk → step s i = some (a, s') →
      s' = s ∧ ψ a s.disk) : Locked P w φ (.choose step) ψ := by
  refine .choose holding_stable ?_
  intro s i a s' hinv hs hstep _
  obtain ⟨rfl, hψ⟩ := h s i a s' hinv.1 hs.disk hstep
  exact ⟨.refl hinv, hs.lock, hinv.1, hψ⟩

theorem receive : Locked P w φ (.receive ι) fun _ => φ :=
  Contract.Triple.receive holding_stable fun _ _ _ hs => hs

theorem external : Locked P w φ Prog.external fun _ => φ := receive

theorem inspect (f : Disk → α) :
    Locked P w φ (.inspect fun s : Export => f s.disk) fun a d => φ d ∧ a = f d :=
  Contract.Triple.inspect holding_stable fun _ _ hs => ⟨hs.lock, hs.journal, hs.disk, rfl⟩

/-- A journal file as it is read. -/
theorem readReceiptFile (file : Disk → Option Record) :
    Locked P w φ (Prog.readReceiptFile P file) fun res d => φ d ∧
      (∀ r, res = .ok r → ∃ q, file d = some q ∧ decodeRecord P q = .ok r) ∧
      ∀ err, res = .error err → isNotExist err = true → file d = none := by
  refine look ?_
  intro s fault res s' _ hs hstep
  cases fault with
  | some err =>
    by_cases herr : isNotExist err = true
    · simp [herr] at hstep
    · simp only [herr] at hstep
      cases hstep
      refine ⟨rfl, hs, fun r hr => (by cases hr), fun err' h hnot => ?_⟩
      cases h
      exact absurd hnot herr
  | none =>
    cases hfile : file s.disk with
    | none =>
      simp only [hfile] at hstep
      cases hstep
      exact ⟨rfl, hs, fun r hr => (by cases hr), fun _ _ _ => rfl⟩
    | some q =>
      simp only [hfile] at hstep
      cases hstep
      refine ⟨rfl, hs, fun r hr => ⟨q, rfl, hr⟩, fun err herr hnot => ?_⟩
      rw [decodeRecord_ne_notExist herr] at hnot
      cases hnot

/-- A journal file as it is written: the assertion after a failure holds with and without
the new file. -/
theorem writeJournalFile {store : Disk → Disk} {χ : Disk → Prop}
    (hstore : ∀ d, Journal P d → φ d → (Journal P (store d) ∧ Extends d (store d)) ∧ φ' (store d))
    (hbefore : ∀ d, φ d → χ d) (hafter : ∀ d, φ' d → χ d) :
    Locked P w φ (Prog.writeJournalFile store) fun res d =>
      match res with
      | .ok () => φ' d
      | .error _ => χ d := by
  refine onDisk ?_
  intro d outcome res d' hd hφ hstep
  cases outcome with
  | failed err =>
    cases hstep
    exact ⟨⟨hd, .refl _⟩, hbefore _ hφ⟩
  | written =>
    cases hstep
    exact ⟨(hstore d hd hφ).1, (hstore d hd hφ).2⟩
  | unsynced err =>
    cases hstep
    exact ⟨(hstore d hd hφ).1, hafter _ (hstore d hd hφ).2⟩

theorem removePending (hsettled : ∀ d, φ d → ∀ q, d.pending = some q → d.receiptOf P q.id ≠ none)
    (hkeep : ∀ d, φ d → φ { d with pending := none }) :
    Locked P w φ Prog.removePending fun res d => φ d ∧
      ((res = .ok () ∨ ∃ err, res = .error err ∧ isNotExist err = true) → d.pending = none) := by
  refine onDisk ?_
  intro d fault res d' hd hφ hstep
  cases fault with
  | some err =>
    by_cases herr : isNotExist err = true
    · simp [herr] at hstep
    · simp only [herr] at hstep
      cases hstep
      refine ⟨⟨hd, .refl _⟩, hφ, ?_⟩
      rintro (h | ⟨err', h, hnot⟩)
      · cases h
      · cases h
        exact absurd hnot herr
  | none =>
    cases hpending : d.pending with
    | none =>
      simp only [hpending] at hstep
      cases hstep
      exact ⟨⟨hd, .refl _⟩, hφ, fun _ => hpending⟩
    | some q =>
      simp only [hpending] at hstep
      cases hstep
      exact ⟨hd.removePending (hsettled d hφ), hkeep d hφ, fun _ => rfl⟩

theorem remove (temporary : Path)
    (hkeep : ∀ d, φ d → φ { d with entries := d.entries.erase temporary }) :
    Locked P w φ (Prog.remove temporary) fun _ => φ := by
  refine onDisk ?_
  intro d fault res d' hd hφ hstep
  cases fault with
  | some err =>
    by_cases herr : isNotExist err = true
    · simp [herr] at hstep
    · simp only [herr] at hstep
      cases hstep
      exact ⟨⟨hd, .refl _⟩, hφ⟩
  | none =>
    cases hentry : d.entries.lookup temporary with
    | none =>
      simp only [hentry] at hstep
      cases hstep
      exact ⟨⟨hd, .refl _⟩, hφ⟩
    | some i =>
      simp only [hentry] at hstep
      cases hstep
      exact ⟨hd.erase temporary, hkeep d hφ⟩

/-- Resolution gives a path that is not a staging file. -/
theorem resolveTarget :
    Locked P w φ Prog.resolveTarget fun res d => φ d ∧ ∀ p, res = .ok p → isStaging p = false := by
  have hresolve : Locked P w φ Prog.resolve fun res d =>
      φ d ∧ ∀ p, res = .ok p → isStaging p = false := by
    refine look ?_
    intro s outcome res s' _ hs hstep
    cases outcome with
    | error err =>
      cases hstep
      exact ⟨rfl, hs, fun p hp => (by cases hp)⟩
    | ok p =>
      cases hp : isStaging p with
      | true => simp [hp] at hstep
      | false =>
        simp only [hp] at hstep
        cases hstep
        refine ⟨rfl, hs, fun p' hp' => ?_⟩
        cases hp'
        exact hp
  refine hresolve.bind fun res => ?_
  cases res with
  | ok p => exact pure fun d _ h => h
  | error err =>
    dsimp only
    split
    · exact hresolve.strengthen fun d _ h => h.1
    · exact pure fun d _ h => ⟨h.1, fun p hp => (by cases hp)⟩

end Locked

end Rstream.Filesystem
