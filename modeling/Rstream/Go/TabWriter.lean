import Mathlib.Algebra.Order.Group.Int
import Mathlib.Data.List.Chain
import Rstream.Go.Runes

/-!
# Aligned text

`text/tabwriter` with minimal width 0, spaces for padding and no flags. The bytes
written to it are cut into cells at tabs, vertical tabs, line feeds and form feeds;
between two escape bytes nothing is cut. Its output is the cells with padding and line
feeds between them, so whether it is clean can be read off the bytes written.
-/

namespace Rstream.Go.TabWriter

open List

variable {column : Nat} {x : List UInt8} {padding : Int}

section Format

/-- `cell`: its text and its width in runes, without escape bytes. -/
structure Cell where
  text : List UInt8
  width : Int
  deriving DecidableEq, Repr

/-- A cell with a number of escaped parts. -/
def cellOf (text : List UInt8) (escapes : Nat) : Cell := ⟨text, (runes text).length - 2 * escapes⟩

/-- The cells of a line, each padded to the width of its column. -/
def writeCells : List Int → List Cell → List UInt8
  | _, [] => []
  | [], c :: cells => c.text ++ writeCells [] cells
  | w :: widths, c :: cells =>
    c.text ++ replicate (w - c.width).toNat 0x20 ++ writeCells widths cells

/-- `writeLines`, with a line feed behind every line. -/
def writeLines (widths : List Int) (lines : List (List Cell)) : List UInt8 :=
  lines.flatMap fun line => writeCells widths line ++ [0x0a]

/-- The line has a cell in a column, and one behind it. -/
def hasColumn (column : Nat) (line : List Cell) : Bool := column + 1 < line.length

/-- The width of a column block: its widest cell and the padding. -/
def blockWidth (padding : Int) (column : Nat) (block : List (List Cell)) : Int :=
  block.foldl (fun width row =>
    max width (((row[column]?).map fun c => c.width + padding).getD width)) 0

/-- How much is left to format. -/
def formatMeasure (column : Nat) (lines : List (List Cell)) : Nat :=
  (lines.map fun line => line.length - column + 1).sum

theorem formatMeasure_append (column : Nat) (xs ys : List (List Cell)) :
    formatMeasure column (xs ++ ys) = formatMeasure column xs + formatMeasure column ys := by
  simp [formatMeasure]

theorem formatMeasure_succ_lt {block : List (List Cell)} (hne : block ≠ [])
    (h : ∀ line ∈ block, hasColumn column line = true) :
    formatMeasure (column + 1) block < formatMeasure column block := by
  induction block with
  | nil => exact absurd rfl hne
  | cons line block ih =>
    rw [forall_mem_cons] at h
    have hline : column + 1 < line.length := by simpa [hasColumn] using h.1
    simp only [formatMeasure, map_cons, sum_cons]
    cases block with
    | nil =>
      simp only [map_nil, sum_nil]
      omega
    | cons next block =>
      have := ih (cons_ne_nil _ _) h.2
      simp only [formatMeasure] at this
      omega

variable {lines : List (List Cell)}

theorem formatMeasure_pos (column : Nat) (h : lines ≠ []) : 0 < formatMeasure column lines := by
  obtain ⟨line, rest, rfl⟩ := exists_cons_of_ne_nil h
  simp only [formatMeasure, map_cons, sum_cons]
  omega

/-- The lines before the next column block, the block, and the lines after it. -/
def nextBlock (column : Nat) (lines : List (List Cell)) :
    List (List Cell) × List (List Cell) × List (List Cell) :=
  let rest := lines.dropWhile (!hasColumn column ·)
  (lines.takeWhile (!hasColumn column ·), rest.takeWhile (hasColumn column),
    rest.dropWhile (hasColumn column))

theorem nextBlock_append (column : Nat) (lines : List (List Cell)) :
    lines = (nextBlock column lines).1 ++ ((nextBlock column lines).2.1 ++
      (nextBlock column lines).2.2) := by
  simp only [nextBlock, takeWhile_append_dropWhile]

theorem hasColumn_of_mem_block {line : List Cell}
    (h : line ∈ (nextBlock column lines).2.1) : hasColumn column line = true :=
  mem_takeWhile_imp h

theorem not_hasColumn_of_mem_before {line : List Cell}
    (h : line ∈ (nextBlock column lines).1) : hasColumn column line = false := by
  simpa using mem_takeWhile_imp h

/-- Without a block, no line is left. -/
theorem nextBlock_after
    (h : (nextBlock column lines).2.1 = []) : (nextBlock column lines).2.2 = [] := by
  simp only [nextBlock] at h ⊢
  cases hrest : lines.dropWhile (!hasColumn column ·) with
  | nil => rfl
  | cons line rest =>
    rw [hrest] at h
    have hhead := head_dropWhile_not (p := (!hasColumn column ·)) (l := lines)
      (by rw [hrest]; exact cons_ne_nil _ _)
    simp only [hrest, head_cons, Bool.not_eq_false'] at hhead
    rw [takeWhile_cons_of_pos (by simpa using hhead)] at h
    cases h

/-- `format`: column blocks are found from the left, and the columns to the right of a block
are formatted with its width known. -/
def format (padding : Int) (widths : List Int) (lines : List (List Cell)) : List UInt8 :=
  if h : (nextBlock widths.length lines).2.1 = [] then
    writeLines widths (nextBlock widths.length lines).1
  else
    writeLines widths (nextBlock widths.length lines).1 ++
      format padding
        (widths ++ [blockWidth padding widths.length (nextBlock widths.length lines).2.1])
        (nextBlock widths.length lines).2.1 ++
      format padding widths (nextBlock widths.length lines).2.2
termination_by formatMeasure widths.length lines
decreasing_by
  all_goals
    have hsplit := congrArg (formatMeasure widths.length) (nextBlock_append widths.length lines)
    rw [formatMeasure_append, formatMeasure_append] at hsplit
  · have hlt := formatMeasure_succ_lt h fun line hline => hasColumn_of_mem_block hline
    simp only [length_append, length_singleton]
    omega
  · have hpos := formatMeasure_pos widths.length h
    omega

end Format

section Writer

/-- `Writer`: what it has put out, the lines and the cell in the making. -/
structure Writer where
  padding : Int
  out : List UInt8 := []
  /-- The lines that were ended. -/
  lines : List (List Cell) := []
  /-- The cells of the line that has not ended. -/
  line : List Cell := []
  cell : List UInt8 := []
  /-- The escaped parts of the cell. -/
  escapes : Nat := 0
  escaped : Bool := false

namespace Writer

/-- `flushNoDefers`: the last line has no line feed. -/
def flush (w : Writer) : Writer where
  padding := w.padding
  out :=
    let line := if w.cell = [] then w.line
      else w.line ++ [cellOf w.cell (w.escapes + if w.escaped then 1 else 0)]
    w.out ++ (format w.padding [] (w.lines ++ [line])).dropLast

/-- A byte that ends a cell. -/
def isEnd (b : UInt8) : Bool := b == 0x09 || b == 0x0b || b == 0x0a || b == 0x0c

def terminateCell (w : Writer) : Writer :=
  { w with line := w.line ++ [cellOf w.cell w.escapes], cell := [], escapes := 0 }

/-- `addLine` behind an ended cell. -/
def addLine (w : Writer) : Writer := { w with lines := w.lines ++ [w.line], line := [] }

/-- The turn of the loop of `Write` for a byte. -/
def writeByte (w : Writer) (b : UInt8) : Writer :=
  if w.escaped then
    if b = 0xff then
      { w with cell := w.cell ++ [b], escapes := w.escapes + 1, escaped := false }
    else { w with cell := w.cell ++ [b] }
  else if isEnd b then
    let w := w.terminateCell
    if b = 0x0a ∨ b = 0x0c then
      if b = 0x0c ∨ w.line.length = 1 then w.addLine.flush else w.addLine
    else w
  else { w with cell := w.cell ++ [b], escaped := b = 0xff }

def write (w : Writer) (buf : List UInt8) : Writer := buf.foldl writeByte w

end Writer

/-- What a writer puts out for all that is written to it. -/
def output (padding : Int) (text : List UInt8) : List UInt8 :=
  (Writer.write { padding := padding } text).flush.out

end Writer

section Clean

/-- Every byte passes a check, and so does every pair of neighbours. -/
structure Clean (ok : UInt8 → Prop) (pair : UInt8 → UInt8 → Prop) (s : List UInt8) : Prop where
  bytes : ∀ b ∈ s, ok b
  pairs : s.IsChain pair

variable {ok : UInt8 → Prop} {pair : UInt8 → UInt8 → Prop}

theorem clean_nil : Clean ok pair [] := ⟨by simp, isChain_nil⟩

/-- Neighbours across a seam pass the check. -/
def Seam (pair : UInt8 → UInt8 → Prop) (x y : List UInt8) : Prop :=
  ∀ a ∈ x.getLast?, ∀ b ∈ y.head?, pair a b

theorem clean_append_iff {y : List UInt8} (h : Seam pair x y) :
    Clean ok pair (x ++ y) ↔ Clean ok pair x ∧ Clean ok pair y := by
  constructor
  · rintro ⟨hbytes, hpairs⟩
    rw [isChain_append] at hpairs
    exact ⟨⟨fun b hb => hbytes b (mem_append_left _ hb), hpairs.1⟩,
      ⟨fun b hb => hbytes b (mem_append_right _ hb), hpairs.2.1⟩⟩
  · rintro ⟨hx, hy⟩
    refine ⟨fun b hb => ?_, isChain_append.mpr ⟨hx.pairs, hy.pairs, h⟩⟩
    obtain hb | hb := mem_append.mp hb
    exacts [hx.bytes b hb, hy.bytes b hb]

/-- What a check of text has to accept: padding, line feeds and escape bytes, and any
neighbour of a byte that can stand at a seam. -/
structure Accepts (ok : UInt8 → Prop) (pair : UInt8 → UInt8 → Prop) : Prop where
  space : ok 0x20
  newline : ok 0x0a
  ascii_left : ∀ a b, a < 0x80 → pair a b
  ascii_right : ∀ a b, b < 0x80 → pair a b

variable (h : Accepts ok pair)
include h

theorem Accepts.seam_left {y : List UInt8} (hx : ∀ a ∈ x.getLast?, a < 0x80) : Seam pair x y :=
  fun a ha b _ => h.ascii_left a b (hx a ha)

theorem Accepts.seam_right {y : List UInt8} (hy : ∀ b ∈ y.head?, b < 0x80) : Seam pair x y :=
  fun a _ b hb => h.ascii_right a b (hy b hb)

theorem Accepts.clean_replicate (n : Nat) : Clean ok pair (replicate n 0x20) := by
  refine ⟨fun b hb => ?_, ?_⟩
  · rw [eq_of_mem_replicate hb]
    exact h.space
  · induction n with
    | zero => exact isChain_nil
    | succ n ih =>
      rw [replicate_succ, isChain_cons]
      exact ⟨fun b _ => h.ascii_left _ b (by decide), ih⟩

theorem Accepts.clean_newline : Clean ok pair [0x0a] :=
  ⟨by simpa using h.newline, by simp⟩

/-- Bytes with a line feed behind them. -/
theorem Accepts.clean_append_newline : Clean ok pair (x ++ [0x0a]) ↔ Clean ok pair x := by
  rw [clean_append_iff (h.seam_right (by simp)), and_iff_left h.clean_newline]

omit h

/-- Every cell that is followed by another is narrower than its column. -/
def Fits (widths : List Int) (cells : List Cell) : Prop :=
  ∀ (j : Nat) (w : Int) (c : Cell), widths[j]? = some w → cells[j]? = some c → c.width < w

include h

/-- The cells of a line are clean exactly when the line is. -/
theorem Accepts.clean_writeCells {widths : List Int} {cells : List Cell} (hfits : Fits widths cells)
    (hlen : cells.length ≤ widths.length + 1) :
    Clean ok pair (writeCells widths cells) ↔ ∀ c ∈ cells, Clean ok pair c.text := by
  induction cells generalizing widths with
  | nil =>
    rw [writeCells]
    simpa using clean_nil
  | cons c cells ih =>
    cases widths with
    | nil =>
      have hnil : cells = [] := by
        simp only [length_cons, length_nil] at hlen
        exact eq_nil_of_length_eq_zero (by omega)
      subst hnil
      simp [writeCells]
    | cons w widths =>
      have hw : c.width < w := hfits 0 w c rfl rfl
      have hrest : Fits widths cells := fun j w c hj hc => hfits (j + 1) w c hj hc
      obtain ⟨n, hn⟩ : ∃ n, (w - c.width).toNat = n + 1 := ⟨(w - c.width).toNat - 1, by omega⟩
      simp only [length_cons] at hlen
      rw [writeCells, hn, clean_append_iff, clean_append_iff, ih hrest (by omega),
        and_iff_left (h.clean_replicate _), forall_mem_cons]
      · exact h.seam_right (by simp [replicate_succ])
      · refine h.seam_left fun a ha => ?_
        rw [replicate_succ', ← append_assoc, getLast?_concat] at ha
        cases ha
        decide

omit h

/-- Lines with the widths they are written with. -/
def writeRows (rows : List (List Int × List Cell)) : List UInt8 :=
  rows.flatMap fun row => writeCells row.1 row.2 ++ [0x0a]

/-- A line fits its widths, and there is one for each of its cells but the last. -/
structure RowFits (row : List Int × List Cell) : Prop where
  fits : Fits row.1 row.2
  length : row.2.length ≤ row.1.length + 1

theorem writeRows_concat (rows : List (List Int × List Cell)) (row : List Int × List Cell) :
    writeRows (rows ++ [row]) = writeRows rows ++ writeCells row.1 row.2 ++ [0x0a] := by
  simp [writeRows]

/-- Lines end with a line feed. -/
theorem writeRows_ascii (rows : List (List Int × List Cell)) :
    ∀ a ∈ (writeRows rows).getLast?, a < 0x80 := by
  intro a ha
  rcases eq_nil_or_concat rows with rfl | ⟨rows, row, rfl⟩
  · cases ha
  · rw [concat_eq_append, writeRows_concat, getLast?_concat] at ha
    cases ha
    decide

include h

theorem Accepts.clean_writeRows {rows : List (List Int × List Cell)}
    (hrows : ∀ row ∈ rows, RowFits row) :
    Clean ok pair (writeRows rows) ↔ ∀ row ∈ rows, ∀ c ∈ row.2, Clean ok pair c.text := by
  induction rows using reverseRecOn with
  | nil => simpa [writeRows] using clean_nil
  | append_singleton rows row ih =>
    rw [forall_mem_append, forall_mem_singleton] at hrows ⊢
    rw [writeRows_concat, h.clean_append_newline,
      clean_append_iff (h.seam_left (writeRows_ascii rows)), ih hrows.1,
      h.clean_writeCells hrows.2.fits hrows.2.length]

omit h

/-- A cell of a block is narrower than its column. -/
theorem lt_blockWidth (hpadding : 0 < padding)
    {block : List (List Cell)} {line : List Cell} {c : Cell} (hline : line ∈ block)
    (hc : (line)[column]? = some c) : c.width < blockWidth padding column block := by
  have hmono : ∀ (block : List (List Cell)) (w : Int), w ≤ block.foldl (fun width row =>
      max width (((row[column]?).map fun c => c.width + padding).getD width)) w := by
    intro block
    induction block with
    | nil => exact fun w => le_rfl
    | cons line block ih => exact fun w => le_trans (le_max_left _ _) (ih _)
  have hmem : ∀ (block : List (List Cell)) (w : Int), line ∈ block →
      c.width < block.foldl (fun width row =>
        max width (((row[column]?).map fun c => c.width + padding).getD width)) w := by
    intro block
    induction block with
    | nil => exact fun w h => absurd h not_mem_nil
    | cons next block ih =>
      intro w h
      obtain rfl | h := mem_cons.mp h
      · refine lt_of_lt_of_le ?_ (hmono block _)
        simp only [hc, Option.map_some, Option.getD_some]
        exact lt_max_of_lt_right (by omega)
      · exact ih _ h
  exact hmem block 0 hline

/-- The lines are written one after the other, each with widths it fits. -/
theorem format_rows (hpadding : 0 < padding) (widths : List Int)
    (lines : List (List Cell)) (hfits : ∀ line ∈ lines, Fits widths line) :
    ∃ rows, rows.map Prod.snd = lines ∧ (∀ row ∈ rows, RowFits row) ∧
      format padding widths lines = writeRows rows := by
  -- the lines before the first block have no further column
  have hbefore : ∀ {widths : List Int} {lines : List (List Cell)},
      (∀ line ∈ lines, Fits widths line) →
      ∀ row ∈ (nextBlock widths.length lines).1.map (widths, ·), RowFits row := by
    intro widths lines hfits row hrow
    obtain ⟨line, hline, rfl⟩ := mem_map.mp hrow
    have hcolumn := not_hasColumn_of_mem_before hline
    simp only [hasColumn, decide_eq_false_iff_not] at hcolumn
    refine ⟨hfits line ?_, by simp only; omega⟩
    rw [nextBlock_append widths.length lines]
    exact mem_append_left _ hline
  have hwrite : ∀ (widths : List Int) (lines : List (List Cell)),
      writeLines widths lines = writeRows (lines.map (widths, ·)) := by
    intro widths lines
    rw [writeRows, flatMap_map]
    rfl
  induction widths, lines using format.induct padding with
  | case1 widths lines hblock =>
    have hall := nextBlock_append widths.length lines
    rw [hblock, nextBlock_after hblock, append_nil, append_nil] at hall
    refine ⟨_, ?_, hbefore hfits, by rw [format, dif_pos hblock, hwrite]⟩
    rw [map_map, ← hall]
    exact map_id _
  | case2 widths lines hblock ih1 ih2 =>
    have hall := nextBlock_append widths.length lines
    have hfits' : ∀ line ∈ (nextBlock widths.length lines).2.1,
        Fits (widths ++ [blockWidth padding widths.length (nextBlock widths.length lines).2.1])
          line := by
      intro line hline j w c hj hc
      by_cases hlt : j < widths.length
      · rw [getElem?_append_left hlt] at hj
        refine hfits line ?_ j w c hj hc
        rw [hall]
        exact mem_append_right _ (mem_append_left _ hline)
      · rw [getElem?_append_right (by omega), getElem?_singleton] at hj
        split_ifs at hj with hzero
        cases hj
        have hj' : j = widths.length := by omega
        subst hj'
        exact lt_blockWidth hpadding hline hc
    obtain ⟨block, hblock', hrows, hformat⟩ := ih1 hfits'
    obtain ⟨after, hafter, hrows', hformat'⟩ := ih2 fun line hline => hfits line (by
      rw [hall]
      exact mem_append_right _ (mem_append_right _ hline))
    refine ⟨(nextBlock widths.length lines).1.map (widths, ·) ++ (block ++ after), ?_, ?_, ?_⟩
    · conv_rhs => rw [hall]
      rw [map_append, map_append, hblock', hafter, map_map]
      exact congrArg (· ++ _) (map_id _)
    · exact forall_mem_append.mpr ⟨hbefore hfits, forall_mem_append.mpr ⟨hrows, hrows'⟩⟩
    · rw [format, dif_neg hblock, hformat, hformat', hwrite]
      simp only [writeRows, flatMap_append, append_assoc]

/-- The cells the bytes written are cut into, with the part of a cell that is there. -/
def cut : Bool → List UInt8 → List UInt8 → List (List UInt8)
  | _, cell, [] => [cell]
  | true, cell, b :: rest => cut (b ≠ 0xff) (cell ++ [b]) rest
  | false, cell, b :: rest =>
    if Writer.isEnd b then cell :: cut false [] rest
    else cut (b = 0xff) (cell ++ [b]) rest

/-- What a writer holds is clean. -/
structure Held (ok : UInt8 → Prop) (pair : UInt8 → UInt8 → Prop) (w : Writer) : Prop where
  out : Clean ok pair w.out
  lines : ∀ line ∈ w.lines, ∀ c ∈ line, Clean ok pair c.text
  line : ∀ c ∈ w.line, Clean ok pair c.text

/-- All lines but the last, and the text of the last without its line feed. -/
theorem format_concat (hpadding : 0 < padding) (lines : List (List Cell)) (line : List Cell) :
    ∃ rows widths, rows.map Prod.snd = lines ∧ (∀ row ∈ rows ++ [(widths, line)], RowFits row) ∧
      (format padding [] (lines ++ [line])).dropLast = writeRows rows ++ writeCells widths line := by
  obtain ⟨rows, hlines, hrows, hformat⟩ := format_rows hpadding [] (lines ++ [line])
    nofun
  obtain ⟨rows, last, rfl, rfl, hlast⟩ := map_eq_append_iff.mp hlines
  obtain ⟨⟨widths, _⟩, rfl, rfl⟩ := map_eq_singleton_iff.mp hlast
  exact ⟨rows, widths, rfl, hrows, by rw [hformat, writeRows_concat, dropLast_concat]⟩

include h

/-- What is flushed is clean exactly when what was held is. -/
theorem Accepts.clean_flush {w : Writer} (hpadding : 0 < w.padding)
    (hout : ∀ a ∈ w.out.getLast?, a < 0x80) :
    Clean ok pair w.flush.out ↔ Held ok pair w ∧ Clean ok pair w.cell := by
  obtain ⟨line, hline⟩ : ∃ line, line = (if w.cell = [] then w.line
    else w.line ++ [cellOf w.cell (w.escapes + if w.escaped then 1 else 0)]) := ⟨_, rfl⟩
  have hcells : (∀ c ∈ line, Clean ok pair c.text) ↔
      (∀ c ∈ w.line, Clean ok pair c.text) ∧ Clean ok pair w.cell := by
    rw [hline]
    by_cases hcell : w.cell = []
    · rw [if_pos hcell, hcell]
      exact (and_iff_left clean_nil).symm
    · rw [if_neg hcell, forall_mem_append, forall_mem_singleton]
      rfl
  obtain ⟨rows, widths, hlines, hrows, hformat⟩ := format_concat hpadding w.lines line
  have hflush : w.flush.out = w.out ++ (writeRows rows ++ writeCells widths line) := by
    rw [← hformat, hline]
    rfl
  rw [forall_mem_append, forall_mem_singleton] at hrows
  have hheld : (∀ row ∈ rows, ∀ c ∈ row.2, Clean ok pair c.text) ↔
      ∀ line ∈ w.lines, ∀ c ∈ line, Clean ok pair c.text := by
    rw [← hlines, forall_mem_map]
  rw [hflush, clean_append_iff (h.seam_left hout),
    clean_append_iff (h.seam_left (writeRows_ascii rows)), h.clean_writeRows hrows.1,
    h.clean_writeCells hrows.2.fits hrows.2.length, hheld, hcells]
  constructor
  · rintro ⟨hout, hlines, hline, hcell⟩
    exact ⟨⟨hout, hlines, hline⟩, hcell⟩
  · rintro ⟨⟨hout, hlines, hline⟩, hcell⟩
    exact ⟨hout, hlines, hline, hcell⟩

/-- What is put out in the end is clean exactly when all cells are. -/
theorem Accepts.clean_write {w : Writer} (hpadding : 0 < w.padding)
    (hout : ∀ a ∈ w.out.getLast?, a < 0x80) (text : List UInt8) :
    Clean ok pair (w.write text).flush.out ↔
      Held ok pair w ∧ ∀ c ∈ cut w.escaped w.cell text, Clean ok pair c := by
  induction text generalizing w with
  | nil =>
    rw [Writer.write, foldl_nil, h.clean_flush hpadding hout]
    cases w.escaped <;> simp [cut]
  | cons b text ih =>
    rw [Writer.write, foldl_cons, ← Writer.write]
    cases hescaped : w.escaped with
    | true =>
      have hbyte : w.writeByte b = { w with
          cell := w.cell ++ [b]
          escapes := if b = 0xff then w.escapes + 1 else w.escapes
          escaped := b ≠ 0xff } := by
        rw [Writer.writeByte, if_pos hescaped]
        split_ifs with hb <;> simp [hb, hescaped]
      rw [hbyte, ih (by exact hpadding) (by exact hout), cut]
      exact and_congr_left' ⟨fun h => ⟨h.out, h.lines, h.line⟩, fun h => ⟨h.out, h.lines, h.line⟩⟩
    | false =>
      by_cases hend : Writer.isEnd b = true
      · have hterminate : Held ok pair w.terminateCell ↔ Held ok pair w ∧ Clean ok pair w.cell := by
          constructor
          · rintro ⟨hout, hlines, hline⟩
            have hline' := forall_mem_append.mp hline
            exact ⟨⟨hout, hlines, hline'.1⟩, hline'.2 _ (mem_singleton_self _)⟩
          · rintro ⟨⟨hout, hlines, hline⟩, hcell⟩
            refine ⟨hout, hlines, forall_mem_append.mpr ⟨hline, ?_⟩⟩
            simpa [cellOf] using hcell
        have haddLine : Held ok pair w.terminateCell.addLine ↔ Held ok pair w.terminateCell := by
          constructor
          · rintro ⟨hout, hlines, -⟩
            have hlines' := forall_mem_append.mp hlines
            exact ⟨hout, hlines'.1, hlines'.2 _ (mem_singleton_self _)⟩
          · rintro ⟨hout, hlines, hline⟩
            refine ⟨hout, forall_mem_append.mpr ⟨hlines, ?_⟩, by simp [Writer.addLine]⟩
            simpa using hline
        have hflushed : ∀ a ∈ w.terminateCell.addLine.flush.out.getLast?, a < 0x80 := by
          obtain ⟨rows, widths, -, -, hformat⟩ :=
            format_concat hpadding w.terminateCell.addLine.lines []
          have heq : w.terminateCell.addLine.flush.out = w.out ++ writeRows rows := by
            change w.out ++ (format w.padding [] (w.terminateCell.addLine.lines ++ [[]])).dropLast = _
            rw [hformat, show writeCells widths [] = [] by cases widths <;> rfl, append_nil]
          intro a ha
          rw [heq, getLast?_append] at ha
          cases hlast : (writeRows rows).getLast? with
          | none => exact hout a (by rwa [hlast, Option.none_or] at ha)
          | some b =>
            rw [hlast, Option.some_or] at ha
            exact writeRows_ascii rows a (hlast ▸ ha)
        have hgoal : ∀ w' : Writer, w'.escaped = false → w'.cell = [] → 0 < w'.padding →
            (∀ a ∈ w'.out.getLast?, a < 0x80) →
            (Held ok pair w' ↔ Held ok pair w ∧ Clean ok pair w.cell) →
            (Clean ok pair (w'.write text).flush.out ↔
              Held ok pair w ∧ ∀ c ∈ cut false w.cell (b :: text), Clean ok pair c) := by
          intro w' hescaped' hcell' hpadding' hout' hheld
          rw [ih hpadding' hout', hheld, hescaped', hcell', cut, if_pos hend, forall_mem_cons,
            and_assoc]
        rw [Writer.writeByte, if_neg (by simp [hescaped]), if_pos hend]
        dsimp only
        split_ifs
        · refine hgoal _ rfl rfl hpadding hflushed ?_
          have hflush := h.clean_flush (w := w.terminateCell.addLine) hpadding hout
          rw [← hterminate, ← haddLine, ← and_iff_left (a := Held ok pair w.terminateCell.addLine)
            (@clean_nil ok pair)]
          exact ⟨fun hheld => hflush.mp hheld.out, fun hheld => ⟨hflush.mpr hheld, by
            simp [Writer.flush], by simp [Writer.flush]⟩⟩
        · exact hgoal _ hescaped rfl hpadding hout (haddLine.trans hterminate)
        · exact hgoal _ hescaped rfl hpadding hout hterminate
      · have hbyte : w.writeByte b = { w with
            cell := w.cell ++ [b], escaped := b = 0xff } := by
          rw [Writer.writeByte, if_neg (by simp [hescaped]), if_neg hend]
        rw [hbyte, ih (by exact hpadding) (by exact hout), cut, if_neg hend]
        exact and_congr_left' ⟨fun h => ⟨h.out, h.lines, h.line⟩, fun h => ⟨h.out, h.lines, h.line⟩⟩

omit h

/-- The bytes that reach a cell pass a check. -/
def Kept (ok : UInt8 → Prop) : Bool → List UInt8 → Prop
  | _, [] => True
  | true, b :: rest => ok b ∧ Kept ok (b ≠ 0xff) rest
  | false, b :: rest =>
    if Writer.isEnd b then Kept ok false rest else ok b ∧ Kept ok (b = 0xff) rest

include h

/-- Cells are clean exactly when the bytes they are cut from are. -/
theorem Accepts.clean_cut (escaped : Bool) (cell text : List UInt8) :
    (∀ c ∈ cut escaped cell text, Clean ok pair c) ↔
      (∀ b ∈ cell, ok b) ∧ Kept ok escaped text ∧ (cell ++ text).IsChain pair := by
  induction text generalizing escaped cell with
  | nil =>
    have hcut : cut escaped cell [] = [cell] := by cases escaped <;> rfl
    have hkept : Kept ok escaped [] := by cases escaped <;> trivial
    rw [hcut, forall_mem_singleton, append_nil, and_iff_right hkept]
    exact ⟨fun hc => ⟨hc.bytes, hc.pairs⟩, fun hc => ⟨hc.1, hc.2⟩⟩
  | cons b text ih =>
    have hstep : ∀ escaped', (∀ c ∈ cut escaped' (cell ++ [b]) text, Clean ok pair c) ↔
        (∀ b ∈ cell, ok b) ∧ (ok b ∧ Kept ok escaped' text) ∧ (cell ++ b :: text).IsChain pair := by
      intro escaped'
      rw [ih, forall_mem_append, forall_mem_singleton, append_assoc,
        singleton_append]
      exact ⟨fun ⟨⟨hcell, hb⟩, hkept, hchain⟩ => ⟨hcell, ⟨hb, hkept⟩, hchain⟩,
        fun ⟨hcell, ⟨hb, hkept⟩, hchain⟩ => ⟨⟨hcell, hb⟩, hkept, hchain⟩⟩
    cases escaped with
    | true =>
      rw [cut, Kept]
      exact hstep _
    | false =>
      rw [cut, Kept]
      by_cases hend : Writer.isEnd b = true
      · have hascii : b < 0x80 := by
          simp only [Writer.isEnd, Bool.or_eq_true, beq_iff_eq] at hend
          obtain ((rfl | rfl) | rfl) | rfl := hend <;> decide
        rw [if_pos hend, if_pos hend, forall_mem_cons, ih, nil_append,
          isChain_append, isChain_cons]
        have hright : ∀ x ∈ cell.getLast?, ∀ y ∈ (b :: text).head?, pair x y := by
          intro x _ y hy
          cases hy
          exact h.ascii_right x b hascii
        have hleft : ∀ y ∈ text.head?, pair b y := fun y _ => h.ascii_left b y hascii
        exact ⟨fun ⟨hc, _, hkept, hchain⟩ =>
            ⟨hc.bytes, hkept, hc.pairs, ⟨hleft, hchain⟩, hright⟩,
          fun ⟨hbytes, hkept, hpairs, ⟨_, hchain⟩, _⟩ =>
            ⟨⟨hbytes, hpairs⟩, by simp, hkept, hchain⟩⟩
      · rw [if_neg hend, if_neg hend]
        exact hstep _

/-- What a writer puts out is clean exactly when the bytes that reach a cell pass the check and
so do all neighbours in what was written. -/
theorem Accepts.clean_output (hpadding : 0 < padding) (text : List UInt8) :
    Clean ok pair (output padding text) ↔ Kept ok false text ∧ text.IsChain pair := by
  have hempty : Held ok pair { padding := padding } := ⟨clean_nil, by simp, by simp⟩
  rw [output, h.clean_write (by exact hpadding) (by simp), and_iff_right hempty, h.clean_cut]
  simp

end Clean

end Rstream.Go.TabWriter
