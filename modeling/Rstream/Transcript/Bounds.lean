import Mathlib.Algebra.Order.BigOperators.Group.List
import Rstream.Transcript.Export

/-!
# Memory of an export

As long as no control sequence takes the cursor out of the stored text, an export does
not panic and stores at most a fixed number of lines and cells for each byte of payload.
Every act keeps the cursors inside their text and stores at most eight cells.
-/

namespace Rstream.Transcript

open Go WebTTY List

variable {options : ExportOptions}

/-- Replacing one item of a list changes a sum by what it changes at the item. -/
theorem sum_map_set_le {α : Type} {f : α → Nat} {l : List α} {i k : Nat} {old new : α}
    (hold : l[i]? = some old) (h : f new ≤ f old + k) :
    ((l.set i new).map f).sum ≤ (l.map f).sum + k := by
  induction l generalizing i with
  | nil => cases hold
  | cons x l ih =>
    cases i with
    | zero =>
      cases hold
      simp only [set_cons_zero, map_cons, sum_cons]
      omega
    | succ i =>
      have := ih hold
      simp only [set_cons_succ, map_cons, sum_cons]
      omega

namespace Buffer

variable {b : Buffer}

section Size

/-- The stored lines and cells. -/
def size (b : Buffer) : Nat := (b.lines.map fun line => line.length + 1).sum

theorem length_le_size (b : Buffer) : b.lines.length ≤ b.size := by
  have h := sum_le_sum (f := fun _ => 1) (g := fun line : List Char => line.length + 1)
    (l := b.lines) (fun line _ => by omega)
  simpa [size] using h

theorem cursorLine_le_size (b : Buffer) : b.cursorLine.length ≤ b.size := by
  unfold cursorLine size
  cases h : b.lines[b.row.toNat]? with
  | none => simp
  | some line =>
    have hmem := mem_map_of_mem (f := fun line : List Char => line.length + 1)
      (mem_of_getElem? h)
    have hle := le_sum_of_mem hmem
    simp only [Option.getD_some]
    omega

theorem size_ensureRow (b : Buffer) :
    b.ensureRow.size = b.size + (b.ensureRow.lines.length - b.lines.length) := by
  simp [size, ensureRow]

theorem size_withLine (line : List Char) {k : Nat} (hrow : 0 ≤ b.row)
    (h : line.length ≤ b.cursorLine.length + k) : (b.withLine line).size ≤ b.ensureRow.size + k :=
  sum_map_set_le (getElem?_cursor hrow) (by omega)

end Size

section Cursor

/-- The cursor and the saved cursor are not negative. -/
structure Nonneg (b : Buffer) : Prop where
  row : 0 ≤ b.row
  col : 0 ≤ b.col
  savedRow : 0 ≤ b.savedRow
  savedCol : 0 ≤ b.savedCol

/-- The cursor is on a stored cell or right behind the cells of a stored line. -/
structure Inside (b : Buffer) : Prop where
  row : 0 ≤ b.row
  row_lt : b.row < b.lines.length
  col : 0 ≤ b.col
  col_le : b.col ≤ b.cursorLine.length

/-- The cursor is inside the text and the saved cursor is not negative. -/
structure Sound (b : Buffer) : Prop extends b.Inside where
  savedRow : 0 ≤ b.savedRow
  savedCol : 0 ≤ b.savedCol

theorem Sound.nonneg (h : b.Sound) : b.Nonneg := ⟨h.row, h.col, h.savedRow, h.savedCol⟩

theorem sound_empty : Sound {} where
  row := le_rfl
  row_lt := by decide
  col := le_rfl
  col_le := le_rfl
  savedRow := le_rfl
  savedCol := le_rfl

theorem Inside.ensureRow_eq (h : b.Inside) : b.ensureRow = b := by
  have hzero : (b.row + 1 - b.lines.length).toNat = 0 := by
    have := h.row_lt
    omega
  rw [ensureRow, hzero, replicate_zero, append_nil]

theorem Inside.col_le_size (h : b.Inside) : b.col ≤ b.size := by
  have := h.col_le
  have := cursorLine_le_size b
  omega

theorem Inside.row_lt_size (h : b.Inside) : b.row < b.size := by
  have := h.row_lt
  have := length_le_size b
  omega

theorem cursorLine_withLine (hrow : 0 ≤ b.row) (line : List Char) :
    (b.withLine line).cursorLine = line := by
  have hlt := lt_length_ensureRow hrow
  simp only [cursorLine, withLine, setLine, ensureRow_row, getElem?_set_self hlt,
    Option.getD_some]

/-- Setting the line of the cursor to one that reaches the cursor. -/
theorem Sound.withLine (h : b.Sound) {line : List Char} {col : Int} (hcol : 0 ≤ col)
    (hline : col ≤ line.length) : Sound { b.withLine line with col := col } where
  row := h.row
  row_lt := by
    have hlt := lt_length_ensureRow h.row
    have hrow := h.row
    simp only [Buffer.withLine, setLine, length_set, ensureRow_row]
    omega
  col := hcol
  col_le := by
    have hcursor := cursorLine_withLine h.row line
    simp only [cursorLine, withLine_row] at hcursor ⊢
    rw [hcursor]
    exact hline
  savedRow := h.savedRow
  savedCol := h.savedCol

end Cursor

section Printing

theorem length_put {line : List Char} {c : Nat} (hc : c ≤ line.length) (r : Char) :
    (put line c r).length ≤ line.length + 1 ∧ c + 1 ≤ (put line c r).length := by
  simp only [put, length_append, length_take, length_replicate, length_cons,
    length_drop]
  omega

/-- Printing inside the text stores at most one cell. -/
theorem Sound.writePrintable (h : b.Sound) (hsize : b.size < 2 ^ 62) (r : Char) :
    ∃ a, b.writePrintable r = .ok a ∧ a.Sound ∧ a.size ≤ b.size + 1 := by
  have hcolSize := h.toInside.col_le_size
  have hwrap : wrap64 (b.col + 1) = b.col + 1 := by
    have := h.col
    exact wrap64_of_range (by omega) (by omega)
  have hlen : b.col.toNat ≤ b.cursorLine.length := by
    have := h.col_le
    omega
  obtain ⟨hle, hge⟩ := length_put hlen r
  refine ⟨_, writePrintable_eq h.row h.col r, ?_, ?_⟩
  · rw [hwrap]
    have := h.col
    exact h.withLine (by omega) (by omega)
  · have := size_withLine _ h.row hle
    rw [h.toInside.ensureRow_eq] at this
    exact this

theorem Sound.printTimes (n : Nat) (h : b.Sound) (hsize : b.size + n < 2 ^ 62) (r : Char) :
    ∃ a, b.printTimes r n = .ok a ∧ a.Sound ∧ a.size ≤ b.size + n := by
  induction n generalizing b with
  | zero => exact ⟨b, rfl, h, le_rfl⟩
  | succ n ih =>
    obtain ⟨a, ha, hsound, hle⟩ := h.writePrintable (by omega) r
    obtain ⟨c, hc, hsound', hle'⟩ := ih hsound (by omega)
    refine ⟨c, ?_, hsound', by omega⟩
    rw [Buffer.printTimes, ha]
    exact hc

/-- A rune stores at most eight cells. -/
theorem Sound.apply_rune (h : b.Sound) (hsize : b.size + 8 < 2 ^ 62) (r : Char) :
    ∃ a, b.apply (.rune r) = .ok a ∧ a.Sound ∧ a.size ≤ b.size + 8 := by
  have hcol := h.col
  have hcolLe := h.col_le
  have hrow := h.row
  have hrowLt := h.toInside.row_lt_size
  rw [Buffer.apply]
  split_ifs
  · exact ⟨_, rfl, { h with col := le_rfl, col_le := by simp }, by simp [size]⟩
  · have hwrap : wrap64 (b.row + 1) = b.row + 1 := wrap64_of_range (by omega) (by omega)
    rw [hwrap]
    refine ⟨_, rfl, ⟨⟨by simp only [ensureRow_row]; omega, ?_, le_rfl, by simp⟩, h.savedRow,
      h.savedCol⟩, ?_⟩
    · have := lt_length_ensureRow (b := { b with row := b.row + 1, col := 0 })
        (by simp only; omega)
      simp only [ensureRow_row] at this ⊢
      omega
    · rw [size_ensureRow]
      have := h.row_lt
      simp only [ensureRow, size, length_append, length_replicate]
      omega
  · refine ⟨_, rfl, { h with col := ?_, col_le := ?_ }, by simp [size]⟩
    · simp only
      omega
    · simp only [cursorLine] at hcolLe ⊢
      omega
  · exact ⟨b, rfl, h, by omega⟩
  · have htimes : (8 - b.col.tmod 8).toNat ≤ 8 := by
      have := Int.tmod_nonneg 8 hcol
      omega
    obtain ⟨a, ha, hsound, hle⟩ := h.printTimes (8 - b.col.tmod 8).toNat (by omega) ' '
    exact ⟨a, ha, hsound, by omega⟩
  · obtain ⟨a, ha, hsound, hle⟩ := h.writePrintable (by omega) r
    exact ⟨a, ha, hsound, by omega⟩
  · exact ⟨b, rfl, h, by omega⟩

end Printing

section Sequences

/-- A control sequence stays in the text: it adds no line and leaves the cursor inside. -/
structure Contained (before after : Buffer) : Prop where
  inside : after.Inside
  lines : after.lines.length ≤ before.lines.length

theorem one_le_size (h : 0 < b.lines.length) : 1 ≤ b.size := le_trans h (length_le_size b)

theorem sum_take_le (lines : List (List Char)) (n : Nat) :
    ((lines.take n).map fun line => line.length + 1).sum ≤
      (lines.map fun line => line.length + 1).sum := by
  conv_rhs => rw [← take_append_drop n lines, map_append, sum_append]
  exact Nat.le_add_right _ _

/-- Clearing rows drops their cells. -/
theorem size_clearRows (b : Buffer) : b.clearRows.size ≤ b.size := by
  have hsplit : b.size = ((b.lines.take b.row.toNat).map fun line => line.length + 1).sum +
      ((b.lines.drop b.row.toNat).map fun line => line.length + 1).sum := by
    rw [size, ← sum_append, ← map_append, take_append_drop]
  have htake := length_le_size { b with lines := b.lines.take b.row.toNat }
  simp only [size, length_take] at htake
  rw [hsplit]
  simp only [clearRows, size, map_append, map_replicate, sum_append,
    sum_replicate_nat, length_nil, mul_one, zero_add]
  omega

/-- What an erase sequence does inside the text: it stores nothing. -/
structure Shrinks (before after : Buffer) : Prop where
  savedRow : after.savedRow = before.savedRow
  savedCol : after.savedCol = before.savedCol
  size : after.size ≤ before.size

theorem rebuiltLine_of_inside (h : b.Inside) (halloc : 4 * b.size ≤ 2 ^ 48) :
    b.rebuiltLine b.cursorLine = .ok b.cursorLine := by
  have hcolSize := h.col_le_size
  have hcolLe := h.col_le
  rw [rebuiltLine_eq h.col (by rw [maxAlloc]; omega), Nat.sub_eq_zero_of_le (by omega),
    replicate_zero, append_nil]

theorem Inside.eraseLine (h : b.Inside) (halloc : 4 * b.size ≤ 2 ^ 48) (mode : Int) :
    ∃ a, b.eraseLine mode = .ok a ∧ b.Shrinks a := by
  by_cases h2 : mode = 2
  · subst h2
    have hsize := size_withLine [] (k := 0) h.row (Nat.zero_le _)
    rw [h.ensureRow_eq] at hsize
    exact ⟨_, eraseLine_two h.row, rfl, rfl, hsize⟩
  · by_cases h1 : mode = 1
    · subst h1
      have hsame : b.withLine b.cursorLine = b := by
        rw [withLine_cursorLine h.row, h.ensureRow_eq]
      refine ⟨b, ?_, rfl, rfl, le_rfl⟩
      rw [eraseLine_one h.row, rebuiltLine_of_inside h halloc]
      exact congrArg Except.ok hsame
    · have hsize := size_withLine (b.cursorLine.take b.col.toNat) (k := 0) h.row
        (length_take_le' _ _)
      rw [h.ensureRow_eq] at hsize
      exact ⟨_, eraseLine_of_ne h1 h2 h.row h.col, rfl, rfl, hsize⟩

theorem Inside.eraseDisplay (h : b.Inside) (halloc : 4 * b.size ≤ 2 ^ 48) (mode : Int) :
    ∃ a, b.eraseDisplay mode = .ok a ∧ b.Shrinks a := by
  have hrow := h.row
  have hrowLt := h.row_lt
  by_cases h2 : mode = 2 ∨ mode = 3
  · exact ⟨_, eraseDisplay_all h2, rfl, rfl, one_le_size (by omega)⟩
  by_cases h0 : mode = 0
  · subst h0
    have hsize := size_withLine (b.cursorLine.take b.col.toNat) (k := 0) h.row
      (length_take_le' _ _)
    rw [h.ensureRow_eq] at hsize
    have hnext : wrap64 (b.row + 1) = b.row + 1 := by
      have := h.row_lt_size
      exact wrap64_of_range (by omega) (by omega)
    refine ⟨_, eraseDisplay_zero h.row h.col (by rw [hnext]; omega), rfl, rfl, ?_⟩
    exact (sum_take_le _ _).trans hsize
  by_cases h1 : mode = 1
  · subst h1
    have hrebuilt := eraseDisplay_one h.row
    rw [rebuiltLine_of_inside h halloc] at hrebuilt
    refine ⟨_, hrebuilt, rfl, rfl, ?_⟩
    have hset := sum_map_set_le (f := fun line : List Char => line.length + 1) (k := 0)
      (getElem?_clearRows_cursor h.row) le_rfl
    have hclear := size_clearRows b.ensureRow
    exact hset.trans (hclear.trans_eq (by rw [h.ensureRow_eq]))
  · refine ⟨b.ensureRow, ?_, rfl, rfl, ?_⟩
    · rw [Buffer.eraseDisplay, if_neg h2, if_neg h0, if_neg h1]
      rfl
    · rw [h.ensureRow_eq]

/-- Storing the row of the cursor adds cells only with lines. -/
theorem size_ensureRow_le {a : Buffer} (hlines : a.lines = b.lines)
    (h : a.ensureRow.lines.length ≤ b.lines.length) : a.ensureRow.size ≤ b.size := by
  rw [size_ensureRow, hlines, Nat.sub_eq_zero_of_le h, Nat.add_zero]
  simp [size, hlines]

/-- A control sequence inside the text does not panic, and stores nothing unless it adds a
line. -/
theorem Sound.applyCSI (h : b.Sound) (halloc : 4 * b.size ≤ 2 ^ 48) (params : Bytes)
    (final : UInt8) :
    ∃ a, b.applyCSI params final = .ok a ∧ 0 ≤ a.savedRow ∧ 0 ≤ a.savedCol ∧
      (a.lines.length ≤ b.lines.length → a.size ≤ b.size) := by
  have hrow := h.savedRow
  have hcol := h.savedCol
  have herase : ∀ {x : Except Panic Buffer}, (∃ a, x = .ok a ∧ b.Shrinks a) →
      ∃ a, x = .ok a ∧ 0 ≤ a.savedRow ∧ 0 ≤ a.savedCol ∧
        (a.lines.length ≤ b.lines.length → a.size ≤ b.size) := by
    rintro x ⟨a, ha, hshrinks⟩
    exact ⟨a, ha, hshrinks.savedRow ▸ hrow, hshrinks.savedCol ▸ hcol, fun _ => hshrinks.size⟩
  have heffect := applyCSI_effect b params final
  generalize b.applyCSI params final = result at heffect ⊢
  cases heffect with
  | move row col => exact ⟨_, rfl, hrow, hcol, fun _ => le_rfl⟩
  | goto row col => exact ⟨_, rfl, hrow, hcol, size_ensureRow_le rfl⟩
  | eraseDisplay => exact herase (h.toInside.eraseDisplay halloc _)
  | eraseLine => exact herase (h.toInside.eraseLine halloc _)
  | save => exact ⟨_, rfl, h.row, h.col, fun _ => le_rfl⟩

/-- The control sequence of a token stays in the text. -/
def Steady (b : Buffer) : Token → Prop
  | .rune _ => True
  | .csi params final => ∀ a, b.applyCSI params final = .ok a → Contained b a

theorem Sound.apply (h : b.Sound) (hsize : b.size + 8 ≤ 2 ^ 46) {t : Token} (ht : b.Steady t) :
    ∃ a, b.apply t = .ok a ∧ a.Sound ∧ a.size ≤ b.size + 8 := by
  cases t with
  | rune r => exact h.apply_rune (by omega) r
  | csi params final =>
    obtain ⟨a, ha, hrow, hcol, hle⟩ := h.applyCSI (by omega) params final
    have hcontained := ht a ha
    refine ⟨a, ha, ⟨hcontained.inside, hrow, hcol⟩, ?_⟩
    have := hle hcontained.lines
    omega

end Sequences

end Buffer

section Runs

namespace Screens

/-- The stored lines and cells of both screens. -/
def size (s : Screens) : Nat := s.main.size + (s.alternate.map Buffer.size).getD 0

/-- Both screens are sound. -/
structure Sound (s : Screens) : Prop where
  main : s.main.Sound
  alternate : ∀ b ∈ s.alternate, b.Sound

/-- The control sequence of an act stays in the text of its screen. -/
def Steady (s : Screens) : Act → Prop
  | .main t => s.main.Steady t
  | .target t => s.target.Steady t
  | _ => True

/-- Every control sequence of a run stays in the text of its screen. -/
def SteadyRun (s : Screens) : List Act → Prop
  | [] => True
  | a :: acts => s.Steady a ∧ ∀ s', s.act a = .ok s' → s'.SteadyRun acts

theorem sound_empty : Sound {} where
  main := Buffer.sound_empty
  alternate := by simp

variable {s : Screens}

theorem Sound.target (h : s.Sound) : s.target.Sound := by
  cases ha : s.alternate with
  | none => simpa [Screens.target, ha] using h.main
  | some b => simpa [Screens.target, ha] using h.alternate b (by simp [ha])

theorem Sound.setTarget (h : s.Sound) {b : Buffer} (hb : b.Sound) : (s.setTarget b).Sound := by
  cases ha : s.alternate with
  | none =>
    simp only [Screens.setTarget, ha]
    exact ⟨hb, by simp⟩
  | some c =>
    simp only [Screens.setTarget, ha]
    exact ⟨h.main, by simpa using hb⟩

theorem size_setTarget (s : Screens) (b : Buffer) :
    (s.setTarget b).size + s.target.size = s.size + b.size := by
  cases ha : s.alternate <;> simp [Screens.setTarget, Screens.target, size, ha] <;> omega

theorem target_size_le (s : Screens) : s.target.size ≤ s.size := by
  cases ha : s.alternate <;> simp [Screens.target, size, ha]

theorem Sound.act (h : s.Sound) (hsize : s.size + 8 ≤ 2 ^ 46) {a : Act} (ha : s.Steady a) :
    ∃ s', s.act a = .ok s' ∧ s'.Sound ∧ s'.size ≤ s.size + 8 := by
  cases a with
  | enter =>
    refine ⟨_, rfl, ⟨h.main, by simpa using Buffer.sound_empty⟩, ?_⟩
    simp [size, Buffer.size]
    omega
  | leave =>
    refine ⟨_, rfl, ⟨h.main, by simp⟩, ?_⟩
    simp only [size, Option.map_none, Option.getD_none]
    omega
  | main t =>
    have hle : s.main.size ≤ s.size := Nat.le_add_right _ _
    obtain ⟨b, hb, hsound, hsize'⟩ := h.main.apply (by omega) ha
    refine ⟨{ s with main := b }, by rw [Screens.act, hb]; rfl, ⟨hsound, h.alternate⟩, ?_⟩
    simp only [size]
    omega
  | target t =>
    have hle := target_size_le s
    obtain ⟨b, hb, hsound, hsize'⟩ := h.target.apply (by omega) ha
    have hset := size_setTarget s b
    exact ⟨s.setTarget b, by rw [Screens.act, hb]; rfl, h.setTarget hsound, by omega⟩

theorem Sound.run (h : s.Sound) (acts : List Act) (hsize : s.size + 8 * acts.length ≤ 2 ^ 46)
    (hsteady : s.SteadyRun acts) :
    ∃ s', s.run acts = .ok s' ∧ s'.Sound ∧ s'.size ≤ s.size + 8 * acts.length := by
  induction acts generalizing s with
  | nil => exact ⟨s, rfl, h, le_rfl⟩
  | cons a acts ih =>
    rw [length_cons] at hsize ⊢
    obtain ⟨s', hact, hsound, hle⟩ := h.act (by omega) hsteady.1
    obtain ⟨s'', hrun, hsound', hle'⟩ := ih hsound (by omega) (hsteady.2 s' hact)
    refine ⟨s'', ?_, hsound', by omega⟩
    rw [run_cons, hact]
    exact hrun

theorem SteadyRun.of_append {xs ys : List Act} (h : s.SteadyRun (xs ++ ys)) : s.SteadyRun xs := by
  induction xs generalizing s with
  | nil => trivial
  | cons x xs ih => exact ⟨h.1, fun s' hs' => ih (h.2 s' hs')⟩

end Screens

section Counting

/-- The segments of a payload cost no more than their bytes. -/
theorem sum_scan_le {k : Nat} {cost : Segment → Nat} (htext : ∀ v, cost (.text v) ≤ k * v.length)
    (hswitch : ∀ enter, cost (switchSegment enter) ≤ k) (value : Bytes) :
    ((scan value).1.map cost).sum + k * (scan value).2.length ≤ k * value.length := by
  induction value using scan_induction with
  | _ value ih =>
    cases scan_step value with
    | stop hnone hscan => simp [hscan]
    | skip after rest hshort hafter hend hoccurs hswitches hscan =>
      rw [hscan]
      exact (ih rest hshort).trans (Nat.mul_le_mul_left k hshort.le)
    | switch before text after rest enter hvalue htext' hshort hafter hoccurs hswitches hscan =>
      have hrest := ih rest hshort
      have hbefore : ((if before = [] then [] else [Segment.text before]).map cost).sum ≤
          k * before.length := by
        split_ifs
        · simp
        · simpa using htext before
      have hpos : k * 1 ≤ k * text.length :=
        Nat.mul_le_mul_left k (length_pos_iff.mpr htext')
      have hcost := hswitch enter
      rw [hscan, hvalue]
      simp only [map_append, map_cons, sum_append, sum_cons,
        length_append, Nat.mul_add]
      omega

theorem sum_terminalTextSegments_le {k : Nat} (cost : Segment → Nat)
    (htext : ∀ v, cost (.text v) ≤ k * v.length)
    (hswitch : ∀ enter, cost (switchSegment enter) ≤ k) (value : Bytes) :
    ((terminalTextSegments value).map cost).sum ≤ k * value.length := by
  have hscan := sum_scan_le htext hswitch value
  simp only [terminalTextSegments]
  split_ifs with htail hout hout
  · simpa using htext value
  · rw [htail] at hscan
    simpa using hscan
  · simp at hout
  · have := htext (scan value).2
    simp only [map_append, sum_append, map_cons, map_nil, sum_cons,
      sum_nil]
    omega

theorem notMem_escape {text : List Char} (h : ∀ c ∈ text, isPlain c = true ∨ c = '\n') :
    '\x1b' ∉ text := fun hmem => absurd (h _ hmem) (by decide)

theorem length_markerActs_le (option : Bool) (text : List Char)
    (h : ∀ c ∈ text, isPlain c = true ∨ c = '\n') :
    (markerActs option text).length ≤ text.length := by
  rw [markerActs, lex_encodeRunes (notMem_escape h)]
  split_ifs <;> simp

/-- A segment of an included stream gives at most 75 acts a byte. -/
theorem length_segmentActs_le (event : SessionEvent)
    (h : options.includesStream event.streamType = true) :
    (∀ v, (segmentActs options event (.text v)).length ≤ 75 * v.length) ∧
      ∀ enter, (segmentActs options event (switchSegment enter)).length ≤ 75 := by
  constructor
  · intro v
    obtain ⟨hlength, hplain⟩ := exportDataPrefix_plain h
    have hstamp : lex (encodeRunes (exportDataPrefix event)) = (exportDataPrefix event).map .rune :=
      lex_encodeRunes (notMem_escape fun c hc => .inl (hplain c hc))
    have hlex := length_lex v
    rw [segmentActs]
    split_ifs with hv
    · exact Nat.zero_le _
    all_goals
      have hpos := length_pos_iff.mpr hv
      simp only [hstamp, length_append, length_map, length_nil]
      omega
  · intro enter
    have hlengths : "terminal alternate screen entered".toList.length = 33 ∧
        "terminal alternate screen left".toList.length = 30 := by decide
    cases enter
    · obtain ⟨hlength, hplain⟩ := exportMarker_plain (some event)
        "terminal alternate screen left" (all_eq_true.mp (by decide)) options
      have := length_markerActs_le options.includeTerminalModes _ hplain
      simp only [switchSegment, Bool.false_eq_true, if_false, segmentActs, length_cons]
      omega
    · obtain ⟨hlength, hplain⟩ := exportMarker_plain (some event)
        "terminal alternate screen entered" (all_eq_true.mp (by decide)) options
      have := length_markerActs_le options.includeTerminalModes _ hplain
      simp only [switchSegment, if_true, segmentActs, length_cons]
      omega

/-- No resize marker is written. -/
def NoResizeMarkers (options : ExportOptions) (events : List SessionEvent) : Prop :=
  options.includeResizeMarkers = true → ∀ event ∈ events, event.type ≠ .resize

/-- The length of all payloads. -/
def payloadLength (exported : List Bytes) : Nat := (exported.map length).sum

theorem length_eventActs_le {event : SessionEvent} (plaintext : Bytes)
    (h : options.includeResizeMarkers = true → event.type ≠ .resize) :
    (eventActs options event plaintext).length ≤ 75 * plaintext.length := by
  rw [eventActs]
  split_ifs with hresize hskip
  · have hoff : options.includeResizeMarkers = false := by
      by_contra hon
      exact h (by simpa using hon) hresize
    rw [hoff]
    exact Nat.zero_le _
  · exact Nat.zero_le _
  · have hincluded : options.includesStream event.streamType = true := by
      simp only [not_or, not_not] at hskip
      exact hskip.2.2
    obtain ⟨htext, hswitch⟩ := length_segmentActs_le event hincluded
    rw [length_flatMap]
    exact sum_terminalTextSegments_le (fun s => (segmentActs options event s).length) htext
      hswitch plaintext

theorem length_renderActs_le {events : List SessionEvent}
    (exported : List Bytes) (h : NoResizeMarkers options events) :
    (renderActs options events exported).length ≤ 75 * payloadLength exported := by
  induction events generalizing exported with
  | nil => exact Nat.zero_le _
  | cons event events ih =>
    have hrest := ih exported.tail fun hon e he => h hon e (mem_cons_of_mem _ he)
    have hevent := length_eventActs_le (exported.headD [])
      fun hon => h hon event mem_cons_self
    rw [renderActs, length_append]
    cases exported with
    | nil =>
      simp only [headD_nil, length_nil, tail_nil] at hevent hrest ⊢
      omega
    | cons plaintext exported =>
      simp only [payloadLength, headD_cons, tail_cons, map_cons,
        sum_cons] at hevent hrest ⊢
      omega

end Counting

/-- An export whose control sequences stay in the text they find, and that writes no resize
marker, does not panic. At every step the cursors are not negative and the stored lines and
cells are bounded by the length of the payloads. -/
theorem render_bounded (events : List SessionEvent) (exported : List Bytes)
    (options : ExportOptions) (hmarkers : NoResizeMarkers options events)
    (hpayload : payloadLength exported < 2 ^ 36)
    (hsteady : Screens.SteadyRun {} (renderActs options events exported)) :
    (∃ out, renderSessionTextExport events exported options = .ok out) ∧
      ∀ done left, renderActs options events exported = done ++ left →
        ∃ s, Screens.run done {} = .ok s ∧ s.main.Nonneg ∧ (∀ b ∈ s.alternate, b.Nonneg) ∧
          s.size ≤ 600 * payloadLength exported + 1 := by
  have hlength := length_renderActs_le exported hmarkers
  have hsize : Screens.size {} = 1 := by decide
  have hruns : ∀ done left, renderActs options events exported = done ++ left →
      ∃ s, Screens.run done {} = .ok s ∧ s.Sound ∧ s.size ≤ 600 * payloadLength exported + 1 := by
    intro done left hsplit
    rw [hsplit] at hsteady hlength
    rw [length_append] at hlength
    obtain ⟨s, hrun, hsound, hle⟩ := Screens.sound_empty.run done
      (by rw [hsize]; omega) hsteady.of_append
    exact ⟨s, hrun, hsound, by rw [hsize] at hle; omega⟩
  constructor
  · obtain ⟨s, hrun, -, -⟩ := hruns _ [] (append_nil _).symm
    refine ⟨s.textExport options, ?_⟩
    rw [renderSessionTextExport, renderEvents_eq, hrun]
    rfl
  · intro done left hsplit
    obtain ⟨s, hrun, hsound, hle⟩ := hruns done left hsplit
    exact ⟨s, hrun, hsound.main.nonneg, fun b hb => (hsound.alternate b hb).nonneg, hle⟩

/-- A line that is printed, erased and printed again. -/
theorem render_bounded_erased_line :
    ∃ out, renderSessionTextExport [⟨.data, .stdout, none, []⟩]
      [[0x61, 0x1b, 0x5b, 0x32, 0x4b, 0x62]] { includeStdout := true } = .ok out := by
  refine (render_bounded _ _ _ (fun _ => by decide) (by decide) ?_).1
  have hacts : renderActs { includeStdout := true } [⟨.data, .stdout, none, []⟩]
      [[0x61, 0x1b, 0x5b, 0x32, 0x4b, 0x62]] =
      [.target (.rune 'a'), .target (.csi [0x32] 0x4b), .target (.rune 'b')] := by decide +kernel
  have hprinted : Screens.act {} (.target (.rune 'a')) =
      .ok { main := { lines := [['a']], col := 1 } } := by decide +kernel
  have herased : Buffer.applyCSI { lines := [['a']], col := 1 } [0x32] 0x4b = .ok {} := by
    decide +kernel
  rw [hacts]
  refine ⟨trivial, fun s hs => ⟨?_, fun s' hs' => ⟨trivial, fun _ _ => trivial⟩⟩⟩
  rw [hprinted] at hs
  cases hs
  intro b hb
  rw [show Screens.target { main := { lines := [['a']], col := 1 } } =
    { lines := [['a']], col := 1 } from rfl, herased] at hb
  cases hb
  exact ⟨Buffer.sound_empty.toInside, le_rfl⟩

/-- Two steps to the right with large counts make the column negative, and the next rune
panics. -/
theorem render_panics :
    renderSessionTextExport [⟨.data, .stdout, none, []⟩]
      [[0x1b, 0x5b, 0x39, 0x32, 0x32, 0x33, 0x33, 0x37, 0x32, 0x30, 0x33, 0x36, 0x38, 0x35, 0x34,
        0x37, 0x37, 0x35, 0x38, 0x30, 0x37, 0x43, 0x1b, 0x5b, 0x43, 0x78]]
      { includeStdout := true } = .error .indexOutOfRange := by
  decide +kernel

end Runs

end Rstream.Transcript
