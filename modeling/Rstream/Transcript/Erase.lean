import Rstream.Transcript.Buffer

/-!
# Erase sequences

Which cells the erase sequences `J` and `K` of the text buffer clear. Modes 0 and 2 do
what a terminal does. Mode 1 rebuilds the line of the cursor from a copy of the cells it
has to clear, so it clears that line only when there is nothing on it to clear.
-/

namespace Rstream.Transcript

open Go WebTTY List

variable {range : Nat → Nat → Prop}

section Standard

/-- The two erase sequences. -/
inductive Erasure
  | display
  | line
  deriving DecidableEq, Repr

/-- The final byte of an erase sequence, `J` or `K`. -/
def Erasure.final : Erasure → UInt8
  | .display => 0x4a
  | .line => 0x4b

/-- The modes the terminal standard defines. -/
inductive EraseMode
  /-- From the cursor on. -/
  | below
  /-- Through the cursor. -/
  | above
  | all
  deriving DecidableEq, Repr

/-- The parameter of a mode. -/
def EraseMode.param : EraseMode → Int
  | .below => 0
  | .above => 1
  | .all => 2

/-- The cells the standard erases with the cursor at a row and a column. -/
def InRange (row col : Int) (r c : Nat) : Erasure → EraseMode → Prop
  | .line, .below => (r : Int) = row ∧ col ≤ c
  | .line, .above => (r : Int) = row ∧ (c : Int) ≤ col
  | .line, .all => (r : Int) = row
  | .display, .below => row < r ∨ (r : Int) = row ∧ col ≤ c
  | .display, .above => (r : Int) < row ∨ (r : Int) = row ∧ (c : Int) ≤ col
  | .display, .all => True

/-- A cell that shows nothing. -/
def IsBlank (cell : Option Char) : Prop := cell = none ∨ cell = some ' '

/-- The cells of a range are blank and the others are as they were. -/
def Erases (range : Nat → Nat → Prop) (before after : Buffer) : Prop :=
  ∀ r c, (range r c → IsBlank (after.cell r c)) ∧ (¬ range r c → after.cell r c = before.cell r c)

/-- When an erase sequence clears its range: the cursor is where cells can be, and mode 1
finds the line blank through the cursor, with all its cells before the cursor stored. -/
def Clears (b : Buffer) : Erasure → EraseMode → Prop
  | .line, .below => 0 ≤ b.row ∧ 0 ≤ b.col
  | .display, .below => 0 ≤ b.row ∧ 0 ≤ b.col ∧ 0 ≤ wrap64 (b.row + 1)
  | _, .above => 0 ≤ b.row ∧ 0 ≤ b.col ∧ 4 * b.col ≤ maxAlloc ∧ b.col ≤ b.cursorLine.length ∧
      ∀ c : Nat, c ≤ b.col → IsBlank (b.cell b.row.toNat c)
  | .line, .all => 0 ≤ b.row
  | .display, .all => True

end Standard

namespace Buffer

variable {b : Buffer}

section Panics

theorem not_erases_of_error {x : Except Panic Buffer}
    (h : ∃ e, x = .error e) : ¬ ∃ a, x = .ok a ∧ Erases range b a := by
  obtain ⟨e, rfl⟩ := h
  rintro ⟨a, ha, -⟩
  cases ha

theorem erases_iff_of_ok {x : Except Panic Buffer} {a : Buffer}
    (h : x = .ok a) : (∃ a, x = .ok a ∧ Erases range b a) ↔ Erases range b a := by
  subst h
  constructor
  · rintro ⟨a', ha', herases⟩
    cases ha'
    exact herases
  · exact fun herases => ⟨a, rfl, herases⟩

theorem eraseLine_of_row_neg (hrow : b.row < 0) (mode : Int) : ∃ e, b.eraseLine mode = .error e :=
  ⟨.indexOutOfRange, by simp only [eraseLine, line_of_neg (b := b.ensureRow) hrow]; rfl⟩

theorem eraseDisplay_of_row_neg (hrow : b.row < 0) {mode : Int} (h2 : mode = 0 ∨ mode = 1) :
    ∃ e, b.eraseDisplay mode = .error e := by
  refine ⟨.indexOutOfRange, ?_⟩
  have hcleared : b.ensureRow.clearRows.row < 0 := hrow
  obtain rfl | rfl := h2
  · simp only [eraseDisplay, line_of_neg (b := b.ensureRow) hrow]
    rfl
  · simp only [eraseDisplay, line_of_neg hcleared]
    rfl

/-- A line is not cut at a negative column. -/
theorem cutLine_of_col_neg (hcol : b.col < 0) (line : List Char) :
    b.cutLine line = .error .sliceOutOfRange := by
  rw [cutLine, if_pos (by omega), if_pos hcol]

theorem eraseLine_of_col_neg (hrow : 0 ≤ b.row) (hcol : b.col < 0) :
    ∃ e, b.eraseLine 0 = .error e := by
  refine ⟨.sliceOutOfRange, ?_⟩
  simp only [eraseLine, line_ensureRow hrow, bind, Except.bind]
  rw [if_neg (by decide), if_neg (by decide), cutLine_of_col_neg (b := b.ensureRow) hcol]

theorem eraseDisplay_of_col_neg (hrow : 0 ≤ b.row) (hcol : b.col < 0) :
    ∃ e, b.eraseDisplay 0 = .error e := by
  refine ⟨.sliceOutOfRange, ?_⟩
  simp only [eraseDisplay, line_ensureRow hrow, bind, Except.bind,
    cutLine_of_col_neg (b := b.ensureRow) hcol]
  rw [if_neg (by decide), if_pos trivial]

/-- The lines are not cut where the number of the next row overflows. -/
theorem eraseDisplay_of_next_neg (hrow : 0 ≤ b.row) (hcol : 0 ≤ b.col)
    (hnext : wrap64 (b.row + 1) < 0) : ∃ e, b.eraseDisplay 0 = .error e := by
  refine ⟨.sliceOutOfRange, ?_⟩
  have hnext' : wrap64 ((b.withLine (b.cursorLine.take b.col.toNat)).row + 1) < 0 := hnext
  simp only [eraseDisplay, line_ensureRow hrow, cutLine_eq hrow hcol, bind, Except.bind]
  rw [if_neg (by decide), if_pos trivial, if_pos hnext']

/-- No line is rebuilt with a negative or an enormous number of cells. -/
theorem rebuiltLine_of_col (h : ¬ (0 ≤ b.col ∧ 4 * b.col ≤ maxAlloc)) (line : List Char) :
    b.rebuiltLine line = .error .makesliceLenOutOfRange := by
  rw [rebuiltLine, if_pos (by omega)]

end Panics

section Ranges

theorem erases_line_below (hrow : 0 ≤ b.row) (hcol : 0 ≤ b.col) :
    Erases (InRange b.row b.col · · .line .below) b
      (b.withLine (b.cursorLine.take b.col.toNat)) := by
  intro r c
  rw [cell_withLine hrow, getElem?_take]
  simp only [InRange]
  refine ⟨fun h => ?_, fun h => ?_⟩
  · rw [if_pos (by omega), if_neg (by omega)]
    exact .inl rfl
  · by_cases hr : r = b.row.toNat
    · rw [if_pos hr, if_pos (by omega), cell_cursorLine, hr]
    · rw [if_neg hr]

theorem erases_display_below (hrow : 0 ≤ b.row) (hcol : 0 ≤ b.col) :
    Erases (InRange b.row b.col · · .display .below) b
      { b.withLine (b.cursorLine.take b.col.toNat) with
        lines := (b.withLine (b.cursorLine.take b.col.toNat)).lines.take (b.row + 1).toNat } := by
  intro r c
  have hline := erases_line_below hrow hcol r c
  simp only [InRange] at hline ⊢
  by_cases hr : b.row < r
  · -- the line was dropped
    have hnone : ∀ lines : List (List Char), (lines.take (b.row + 1).toNat)[r]? = none := by
      intro lines
      rw [getElem?_take, if_neg (by omega)]
    refine ⟨fun _ => .inl ?_, fun h => absurd (.inl hr) h⟩
    simp only [cell, hnone, Option.getD_none, getElem?_nil]
  · have hsame : ∀ lines : List (List Char), (lines.take (b.row + 1).toNat)[r]? = lines[r]? := by
      intro lines
      rw [getElem?_take, if_pos (by omega)]
    simp only [cell, hsame, hr, false_or] at hline ⊢
    exact hline

theorem erases_line_all (hrow : 0 ≤ b.row) :
    Erases (InRange b.row b.col · · .line .all) b { b.withLine [] with col := 0 } := by
  intro r c
  have hcell : Buffer.cell { b.withLine [] with col := 0 } r c = (b.withLine []).cell r c := rfl
  rw [hcell, cell_withLine hrow]
  simp only [InRange]
  refine ⟨fun h => ?_, fun h => by rw [if_neg (by omega)]⟩
  rw [if_pos (by omega)]
  exact .inl rfl

theorem erases_display_all :
    Erases (InRange b.row b.col · · .display .all) b
      { b.ensureRow with lines := [[]], row := 0, col := 0 } := by
  intro r c
  refine ⟨fun _ => .inl ?_, fun h => absurd trivial h⟩
  cases r <;> simp [cell]

/-- Rebuilding the line of the cursor clears what is already blank. -/
theorem erases_rebuilt_iff {a : Buffer} (hrow : 0 ≤ b.row)
    (hcol : 0 ≤ b.col) (hrange : ∀ c : Nat, range b.row.toNat c ↔ c ≤ b.col)
    (hcursor : ∀ c, a.cell b.row.toNat c =
      (b.cursorLine ++ replicate (b.col.toNat - b.cursorLine.length) '\x00')[c]?)
    (hothers : ∀ r c, r ≠ b.row.toNat →
      (range r c → a.cell r c = none) ∧ (¬ range r c → a.cell r c = b.cell r c)) :
    Erases range b a ↔ b.col ≤ b.cursorLine.length ∧
      ∀ c : Nat, c ≤ b.col → IsBlank (b.cell b.row.toNat c) := by
  constructor
  · intro h
    have hlen : b.col ≤ b.cursorLine.length := by
      -- otherwise the first new cell holds a zero rune
      by_contra hlen
      have hblank := (h b.row.toNat b.cursorLine.length).1 ((hrange _).mpr (by omega))
      rw [hcursor, getElem?_append_right le_rfl, Nat.sub_self, getElem?_replicate,
        if_pos (by omega)] at hblank
      simp [IsBlank] at hblank
    refine ⟨hlen, fun c hc => ?_⟩
    have hblank := (h b.row.toNat c).1 ((hrange c).mpr hc)
    rwa [hcursor, Nat.sub_eq_zero_of_le (by omega), replicate_zero, append_nil,
      cell_cursorLine] at hblank
  · rintro ⟨hlen, hblank⟩ r c
    by_cases hr : r = b.row.toNat
    · subst hr
      rw [hcursor, Nat.sub_eq_zero_of_le (by omega), replicate_zero, append_nil,
        cell_cursorLine]
      exact ⟨fun h => hblank c ((hrange c).mp h), fun _ => rfl⟩
    · exact ⟨fun h => .inl ((hothers r c hr).1 h), (hothers r c hr).2⟩

theorem erases_line_above_iff (hrow : 0 ≤ b.row) (hcol : 0 ≤ b.col) :
    Erases (InRange b.row b.col · · .line .above) b (b.withLine
      (b.cursorLine ++ replicate (b.col.toNat - b.cursorLine.length) '\x00')) ↔
      b.col ≤ b.cursorLine.length ∧ ∀ c : Nat, c ≤ b.col → IsBlank (b.cell b.row.toNat c) := by
  refine erases_rebuilt_iff hrow hcol (fun c => ?_) (fun c => ?_) fun r c hr => ?_
  · simp only [InRange]
    omega
  · rw [cell_withLine hrow, if_pos rfl]
  · rw [cell_withLine hrow, if_neg hr]
    simp only [InRange]
    exact ⟨fun h => absurd h.1 (by omega), fun _ => trivial⟩

theorem erases_display_above_iff (hrow : 0 ≤ b.row) (hcol : 0 ≤ b.col) :
    Erases (InRange b.row b.col · · .display .above) b (b.ensureRow.clearRows.setLine
      (b.cursorLine ++ replicate (b.col.toNat - b.cursorLine.length) '\x00')) ↔
      b.col ≤ b.cursorLine.length ∧ ∀ c : Nat, c ≤ b.col → IsBlank (b.cell b.row.toNat c) := by
  refine erases_rebuilt_iff hrow hcol (fun c => ?_) (fun c => ?_) fun r c hr => ?_
  · simp only [InRange]
    omega
  · rw [cell_clearRows_setLine hrow, if_neg (lt_irrefl _), if_pos rfl]
  · rw [cell_clearRows_setLine hrow, if_neg hr]
    simp only [InRange]
    refine ⟨fun h => if_pos (by omega), fun h => if_neg (by omega)⟩

end Ranges

/-- An erase sequence with a standard mode does what its final byte says. -/
theorem applyCSI_erase {rawParams : Bytes} {e : Erasure} {mode : EraseMode}
    (hprivate : rawParams.head? ≠ some 0x3f)
    (hmode : (parseCSIParams rawParams).headD 0 = mode.param) :
    b.applyCSI rawParams e.final =
      match e with
      | .display => b.eraseDisplay mode.param
      | .line => b.eraseLine mode.param := by
  rw [applyCSI, if_neg hprivate]
  cases e <;> simp only [hmode, Erasure.final] <;> rfl

/-- Exactly when an erase sequence clears the cells the terminal standard erases, and no
others. -/
theorem applyCSI_erases_iff (b : Buffer) (rawParams : Bytes) (e : Erasure) (mode : EraseMode)
    (hprivate : rawParams.head? ≠ some 0x3f)
    (hmode : (parseCSIParams rawParams).headD 0 = mode.param) :
    (∃ a, b.applyCSI rawParams e.final = .ok a ∧
      Erases (InRange b.row b.col · · e mode) b a) ↔ Clears b e mode := by
  rw [applyCSI_erase hprivate hmode]
  by_cases hrow : 0 ≤ b.row
  · cases mode with
    | below =>
      by_cases hcol : 0 ≤ b.col
      · cases e with
        | line =>
          refine (erases_iff_of_ok (eraseLine_of_ne (by decide) (by decide) hrow hcol)).trans ?_
          exact iff_of_true (erases_line_below hrow hcol) ⟨hrow, hcol⟩
        | display =>
          by_cases hnext : 0 ≤ wrap64 (b.row + 1)
          · refine (erases_iff_of_ok (eraseDisplay_zero hrow hcol hnext)).trans ?_
            exact iff_of_true (erases_display_below hrow hcol) ⟨hrow, hcol, hnext⟩
          · refine iff_of_false (not_erases_of_error ?_) fun h => hnext h.2.2
            exact eraseDisplay_of_next_neg hrow hcol (Int.not_le.mp hnext)
      · cases e with
        | line =>
          refine iff_of_false (not_erases_of_error ?_) fun h => hcol h.2
          exact eraseLine_of_col_neg hrow (Int.not_le.mp hcol)
        | display =>
          refine iff_of_false (not_erases_of_error ?_) fun h => hcol h.2.1
          exact eraseDisplay_of_col_neg hrow (Int.not_le.mp hcol)
    | above =>
      by_cases hcol : 0 ≤ b.col ∧ 4 * b.col ≤ maxAlloc
      · have hline := rebuiltLine_eq hcol.1 hcol.2 b.cursorLine
        cases e with
        | line =>
          refine (erases_iff_of_ok ((eraseLine_one hrow).trans (by rw [hline]; rfl))).trans
            ((erases_line_above_iff hrow hcol.1).trans ?_)
          exact ⟨fun h => ⟨hrow, hcol.1, hcol.2, h⟩, fun h => h.2.2.2⟩
        | display =>
          refine (erases_iff_of_ok ((eraseDisplay_one hrow).trans (by rw [hline]; rfl))).trans
            ((erases_display_above_iff hrow hcol.1).trans ?_)
          exact ⟨fun h => ⟨hrow, hcol.1, hcol.2, h⟩, fun h => h.2.2.2⟩
      · have hline := rebuiltLine_of_col hcol b.cursorLine
        cases e with
        | line =>
          refine iff_of_false (not_erases_of_error ?_) fun h => hcol ⟨h.2.1, h.2.2.1⟩
          exact ⟨_, (eraseLine_one hrow).trans (by rw [hline]; rfl)⟩
        | display =>
          refine iff_of_false (not_erases_of_error ?_) fun h => hcol ⟨h.2.1, h.2.2.1⟩
          exact ⟨_, (eraseDisplay_one hrow).trans (by rw [hline]; rfl)⟩
    | all =>
      cases e with
      | line =>
        refine (erases_iff_of_ok (eraseLine_two hrow)).trans ?_
        exact iff_of_true (erases_line_all hrow) hrow
      | display =>
        refine (erases_iff_of_ok (eraseDisplay_all (.inl rfl))).trans ?_
        exact iff_of_true erases_display_all trivial
  · have hneg := Int.not_le.mp hrow
    cases e with
    | line =>
      refine iff_of_false (not_erases_of_error (eraseLine_of_row_neg hneg _)) fun h => hrow ?_
      cases mode
      exacts [h.1, h.1, h]
    | display =>
      cases mode with
      | below =>
        exact iff_of_false (not_erases_of_error (eraseDisplay_of_row_neg hneg (.inl rfl)))
          fun h => hrow h.1
      | above =>
        exact iff_of_false (not_erases_of_error (eraseDisplay_of_row_neg hneg (.inr rfl)))
          fun h => hrow h.1
      | all =>
        refine (erases_iff_of_ok (eraseDisplay_all (.inl rfl))).trans ?_
        exact iff_of_true erases_display_all trivial

/-- Mode 1 on a blank line. -/
theorem applyCSI_erases_blank :
    let b : Buffer := { lines := [[' ', ' ', 'c']], col := 1 }
    ∃ a, b.applyCSI [0x31] Erasure.line.final = .ok a ∧
      Erases (InRange b.row b.col · · .line .above) b a := by
  refine (applyCSI_erases_iff _ [0x31] .line .above (by decide) (by decide +kernel)).mpr ?_
  refine ⟨by decide, by decide, by decide, by decide, fun c hc => .inr ?_⟩
  obtain rfl | rfl : c = 0 ∨ c = 1 := by
    simp only at hc
    omega
  all_goals rfl

/-- Mode 1 leaves the text before the cursor where it is. -/
theorem applyCSI_erase_kept :
    let b : Buffer := { lines := [['a', 'b', 'c']], col := 3 }
    Buffer.write {} [0x61, 0x62, 0x63] = .ok b ∧
      b.applyCSI [0x31] Erasure.line.final = .ok b ∧
      ¬ Erases (InRange b.row b.col · · .line .above) b b := by
  refine ⟨by decide +kernel, by decide +kernel, fun h => ?_⟩
  have hblank := (h 0 0).1 ⟨rfl, by decide⟩
  obtain hnone | hspace := hblank
  · cases hnone
  · exact absurd hspace (by decide)

end Buffer

end Rstream.Transcript
