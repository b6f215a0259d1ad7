import Rstream.Transcript.Export

/-!
# Control characters in an export

What the text of an export can hold. Escapes and the other control characters below the
space never reach a cell, so the text is printed safely exactly when no cell it shows
holds a zero rune, a delete character or a C1 control character. Those come from printed
runes and from the cells that mode 1 of the erase sequences makes up.
-/

namespace Rstream.Transcript

open Go WebTTY List

section Characters

/-- A control character: C0, delete or C1. -/
def isControl (c : Char) : Bool :=
  c.toNat < 0x20 || c.toNat = 0x7f || (0x80 ≤ c.toNat && c.toNat ≤ 0x9f)

end Characters

namespace Buffer

variable {b a : Buffer} {P : Char → Prop}

section Cells

/-- Every cell has a property. -/
def AllCells (P : Char → Prop) (b : Buffer) : Prop := ∀ line ∈ b.lines, ∀ c ∈ line, P c

theorem allCells_empty : AllCells P {} := by
  intro line hline
  obtain rfl := mem_singleton.mp hline
  simp

theorem AllCells.ensureRow (h : b.AllCells P) : b.ensureRow.AllCells P := by
  intro line hline
  obtain hline | hline := mem_append.mp hline
  · exact h line hline
  · rw [eq_of_mem_replicate hline]
    simp

theorem AllCells.setLine (h : b.AllCells P) {line : List Char} (hline : ∀ c ∈ line, P c) :
    (b.setLine line).AllCells P := by
  intro l hl
  obtain hl | rfl := mem_or_eq_of_mem_set hl
  · exact h l hl
  · exact hline

theorem AllCells.withLine (h : b.AllCells P) {line : List Char} (hline : ∀ c ∈ line, P c) :
    (b.withLine line).AllCells P :=
  h.ensureRow.setLine hline

theorem AllCells.cursorLine (h : b.AllCells P) : ∀ c ∈ b.cursorLine, P c := by
  unfold Buffer.cursorLine
  cases hline : b.lines[b.row.toNat]? with
  | none => simp
  | some line => exact h line (mem_of_getElem? hline)

theorem AllCells.clearRows (h : b.AllCells P) : b.clearRows.AllCells P := by
  intro line hline
  obtain hline | hline := mem_append.mp hline
  · rw [eq_of_mem_replicate hline]
    simp
  · exact h line (mem_of_mem_drop hline)

end Cells

section Steps

/-- Printing succeeds only at a cursor that is not negative. -/
theorem nonneg_of_writePrintable {r : Char} (h : b.writePrintable r = .ok a) :
    0 ≤ b.row ∧ 0 ≤ b.col := by
  by_contra hneg
  by_cases hrow : 0 ≤ b.row
  · have hcol : b.ensureRow.col < 0 := by
      rw [ensureRow_col]
      omega
    simp only [writePrintable, line_ensureRow hrow, bind, Except.bind] at h
    rw [if_pos (by omega), if_pos hcol] at h
    cases h
  · simp only [writePrintable, line_of_neg (b := b.ensureRow) (Int.not_le.mp hrow)] at h
    cases h

theorem AllCells.writePrintable (hb : b.AllCells P) (hspace : P ' ') {r : Char} (hr : P r)
    (h : b.writePrintable r = .ok a) : a.AllCells P := by
  obtain ⟨hrow, hcol⟩ := nonneg_of_writePrintable h
  rw [writePrintable_eq hrow hcol] at h
  cases h
  refine hb.withLine fun c hc => ?_
  rw [put, mem_append, mem_cons] at hc
  obtain hc | rfl | hc := hc
  · obtain hc | hc := mem_append.mp (mem_of_mem_take hc)
    · exact hb.cursorLine c hc
    · rw [eq_of_mem_replicate hc]
      exact hspace
  · exact hr
  · exact hb.cursorLine c (mem_of_mem_drop hc)

theorem AllCells.printTimes {n : Nat} (hb : b.AllCells P) (hspace : P ' ')
    (h : b.printTimes ' ' n = .ok a) : a.AllCells P := by
  induction n generalizing b with
  | zero =>
    cases h
    exact hb
  | succ n ih =>
    obtain ⟨c, hc, h⟩ := bind_eq_ok.mp h
    exact ih (hb.writePrintable hspace hspace hc) h

/-- Mode 1 makes up zero runes. -/
theorem rebuiltLine_cells {line out : List Char} (hline : ∀ c ∈ line, P c) (hzero : P '\x00')
    (h : b.rebuiltLine line = .ok out) : ∀ c ∈ out, P c := by
  unfold rebuiltLine at h
  split_ifs at h
  cases h
  intro c hc
  rw [mem_append, mem_append] at hc
  obtain (hc | hc) | hc := hc
  · exact hline c (mem_of_mem_take hc)
  · rw [eq_of_mem_replicate hc]
    exact hzero
  · exact hline c (mem_of_mem_drop hc)

theorem AllCells.cutLine (hb : b.AllCells P) {line : List Char} (hline : ∀ c ∈ line, P c)
    (h : b.cutLine line = .ok a) : a.AllCells P := by
  unfold Buffer.cutLine at h
  split_ifs at h
  · cases h
    exact hb.setLine fun c hc => hline c (mem_of_mem_take hc)
  · cases h
    exact hb

theorem AllCells.line (hb : b.AllCells P) {line : List Char} (h : b.line = .ok line) :
    ∀ c ∈ line, P c := by
  unfold Buffer.line at h
  split at h
  · cases h
  · split at h
    · next hline =>
      cases h
      exact hb _ (mem_of_getElem? hline)
    · cases h

theorem AllCells.eraseLine (hb : b.AllCells P) {mode : Int} (hzero : mode = 1 → P '\x00')
    (h : b.eraseLine mode = .ok a) : a.AllCells P := by
  obtain ⟨line, hline, h⟩ := bind_eq_ok.mp h
  have hcells := hb.ensureRow.line hline
  split_ifs at h with h2 h1
  · cases h
    exact hb.ensureRow.setLine (by simp)
  · obtain ⟨out, hout, h⟩ := bind_eq_ok.mp h
    cases h
    exact hb.ensureRow.setLine (rebuiltLine_cells hcells (hzero h1) hout)
  · exact hb.ensureRow.cutLine hcells h

theorem AllCells.eraseDisplay (hb : b.AllCells P) {mode : Int} (hzero : mode = 1 → P '\x00')
    (h : b.eraseDisplay mode = .ok a) : a.AllCells P := by
  unfold Buffer.eraseDisplay at h
  dsimp only at h
  split_ifs at h with hall h0 h1
  · cases h
    exact allCells_empty
  · obtain ⟨line, hline, h⟩ := bind_eq_ok.mp h
    obtain ⟨cut, hcut, h⟩ := bind_eq_ok.mp h
    have hcells := hb.ensureRow.cutLine (hb.ensureRow.line hline) hcut
    split_ifs at h
    cases h
    exact fun line hline => hcells line (mem_of_mem_take hline)
  · obtain ⟨line, hline, h⟩ := bind_eq_ok.mp h
    obtain ⟨out, hout, h⟩ := bind_eq_ok.mp h
    cases h
    exact hb.ensureRow.clearRows.setLine
      (rebuiltLine_cells (hb.ensureRow.clearRows.line hline) (hzero h1) hout)
  · cases h
    exact hb.ensureRow

/-- The runes a token can put into cells have a property. -/
def Prints (P : Char → Prop) : Token → Prop
  | .rune r => ' ' ≤ r → P r
  | .csi params final =>
    (final = 0x4a ∨ final = 0x4b) → (parseCSIParams params).headD 0 = 1 → P '\x00'

theorem AllCells.applyCSI (hb : b.AllCells P) {params : Bytes} {final : UInt8}
    (hprints : Prints P (.csi params final)) (h : b.applyCSI params final = .ok a) :
    a.AllCells P := by
  have heffect := applyCSI_effect b params final
  generalize b.applyCSI params final = result at heffect h
  cases heffect with
  | move | save =>
    cases h
    exact hb
  | goto row col =>
    cases h
    exact AllCells.ensureRow (b := { b with row := row, col := col }) hb
  | eraseDisplay hfinal => exact hb.eraseDisplay (hprints (.inl hfinal)) h
  | eraseLine hfinal => exact hb.eraseLine (hprints (.inr hfinal)) h

theorem AllCells.apply (hb : b.AllCells P) (hspace : P ' ') {t : Token} (hprints : Prints P t)
    (h : b.apply t = .ok a) : a.AllCells P := by
  cases t with
  | csi params final => exact hb.applyCSI hprints h
  | rune r =>
    rw [Buffer.apply] at h
    split_ifs at h with hcr hlf hbs hcol htab hr
    · cases h
      exact hb
    · cases h
      exact AllCells.ensureRow (b := { b with row := wrap64 (b.row + 1), col := 0 }) hb
    · cases h
      exact hb
    · cases h
      exact hb
    · exact hb.printTimes hspace h
    · exact hb.writePrintable hspace (hprints hr) h
    · cases h
      exact hb

end Steps

end Buffer

section Runs

namespace Screens

variable {s s' : Screens} {P : Char → Prop}

/-- Every cell of both screens has a property. -/
structure AllCells (P : Char → Prop) (s : Screens) : Prop where
  main : s.main.AllCells P
  alternate : ∀ b ∈ s.alternate, b.AllCells P

theorem allCells_empty : AllCells P {} where
  main := Buffer.allCells_empty
  alternate := by simp

/-- The runes an act can put into cells have a property. -/
def Prints (P : Char → Prop) : Act → Prop
  | .main t => Buffer.Prints P t
  | .target t => Buffer.Prints P t
  | _ => True

theorem AllCells.target (h : s.AllCells P) : s.target.AllCells P := by
  cases ha : s.alternate with
  | none => simpa [Screens.target, ha] using h.main
  | some b => simpa [Screens.target, ha] using h.alternate b (by simp [ha])

theorem AllCells.setTarget (h : s.AllCells P) {b : Buffer} (hb : b.AllCells P) :
    (s.setTarget b).AllCells P := by
  cases ha : s.alternate with
  | none =>
    simp only [Screens.setTarget, ha]
    exact ⟨hb, by simp⟩
  | some c =>
    simp only [Screens.setTarget, ha]
    exact ⟨h.main, by simpa using hb⟩

theorem AllCells.act (h : s.AllCells P) (hspace : P ' ') {a : Act} (hprints : Prints P a)
    (hact : s.act a = .ok s') : s'.AllCells P := by
  cases a with
  | enter =>
    cases hact
    exact ⟨h.main, by simpa using Buffer.allCells_empty⟩
  | leave =>
    cases hact
    exact ⟨h.main, by simp⟩
  | main t =>
    obtain ⟨b, hb, rfl⟩ := map_eq_ok.mp hact
    exact ⟨h.main.apply hspace hprints hb, h.alternate⟩
  | target t =>
    obtain ⟨b, hb, rfl⟩ := map_eq_ok.mp hact
    exact h.setTarget (h.target.apply hspace hprints hb)

theorem AllCells.run (h : s.AllCells P) (hspace : P ' ') {acts : List Act}
    (hprints : ∀ a ∈ acts, Prints P a) (hrun : s.run acts = .ok s') : s'.AllCells P := by
  induction acts generalizing s with
  | nil =>
    cases hrun
    exact h
  | cons a acts ih =>
    rw [run_cons] at hrun
    obtain ⟨mid, hact, hrun⟩ := bind_eq_ok.mp hrun
    rw [forall_mem_cons] at hprints
    exact ih (h.act hspace hprints.1 hact) hprints.2 hrun

end Screens

/-- An act prints no delete and no C1 control character, and is no erase sequence of mode 1. -/
def Harmless (a : Act) : Prop := Screens.Prints (fun c => isControl c = false) a

end Runs

end Rstream.Transcript
