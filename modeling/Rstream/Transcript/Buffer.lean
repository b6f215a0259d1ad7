import Rstream.Go.Runes
import Rstream.Transcript.Segments

/-!
# The terminal text buffer

`webTTYTerminalTextBuffer` of `cmd/webtty_sessions.go`: ragged lines of runes, a cursor
and a saved cursor. `Write` reads one token after another, a rune or an escape sequence,
and what a token does depends on nothing but the token and the buffer. The cursor is
made of 64-bit integers that wrap around, so indexing can panic.
-/

namespace Rstream.Transcript

open Go WebTTY List

section Tokens

/-- What one turn of the loop of `Write` reads. -/
inductive Token
  | rune (r : Char)
  | csi (params : Bytes) (final : UInt8)
  deriving DecidableEq, Repr

/-- The final byte of a control sequence. -/
def isFinal (b : UInt8) : Bool := 0x40 ≤ b && b ≤ 0x7e

/-- `webTTYFindCSIEnd`: the parameters, the final byte and what follows it. -/
def findCSIEnd (value : Bytes) : Option (Bytes × UInt8 × Bytes) :=
  match value.dropWhile (!isFinal ·) with
  | [] => none
  | final :: rest => some (value.takeWhile (!isFinal ·), final, rest)

/-- `webTTYFindOSCEnd`: what follows the end of an operating system command. -/
def findOSCEnd : Bytes → Bytes
  | [] => []
  | b :: rest =>
    if b = 0x07 then rest
    else if b = 0x1b ∧ rest.head? = some 0x5c then rest.drop 1
    else findOSCEnd rest

/-- `consumeEscape` behind the escape: the control sequence it applies, if any, and what
follows. An incomplete sequence takes everything. -/
def consumeEscape : Bytes → Option Token × Bytes
  | [] => (none, [])
  | b :: rest =>
    if b = 0x5b then
      match findCSIEnd rest with
      | none => (none, [])
      | some (params, final, rest) => (some (.csi params final), rest)
    else if b = 0x5d then (none, findOSCEnd rest)
    else (none, rest)

theorem length_findOSCEnd (value : Bytes) : (findOSCEnd value).length ≤ value.length := by
  induction value with
  | nil => exact le_rfl
  | cons b rest ih =>
    rw [findOSCEnd]
    split_ifs <;> simp only [length_drop, length_cons] <;> omega

theorem length_findCSIEnd {value params rest : Bytes} {final : UInt8}
    (h : findCSIEnd value = some (params, final, rest)) : rest.length < value.length := by
  have hlength := (dropWhile_suffix (l := value) (!isFinal ·)).length_le
  unfold findCSIEnd at h
  split at h
  · cases h
  next heq =>
    cases h
    rw [heq, length_cons] at hlength
    omega

theorem length_consumeEscape (value : Bytes) : (consumeEscape value).2.length ≤ value.length := by
  cases value with
  | nil => exact le_rfl
  | cons b rest =>
    have hosc := length_findOSCEnd rest
    rw [consumeEscape]
    split_ifs
    · split
      · exact Nat.zero_le _
      next h =>
        have := length_findCSIEnd h
        simp only [length_cons]
        omega
    · simp only [length_cons]
      omega
    · simp

/-- The tokens `Write` reads. -/
def lex (value : Bytes) : List Token :=
  if h : value = [] then []
  else if value.head? = some 0x1b then
    (consumeEscape value.tail).1.toList ++ lex (consumeEscape value.tail).2
  else .rune (decodeRune value).1 :: lex (value.drop (decodeRune value).2)
termination_by value.length
decreasing_by
  · have hescape := length_consumeEscape value.tail
    have hpos := length_pos_iff.mpr h
    rw [length_tail] at hescape
    omega
  · have hwidth := decodeRune_width h
    rw [length_drop]
    omega

theorem lex_nil : lex [] = [] := by
  rw [lex, dif_pos rfl]

/-- There are no more tokens than bytes. -/
theorem length_lex (value : Bytes) : (lex value).length ≤ value.length := by
  induction hn : value.length using Nat.strong_induction_on generalizing value with
  | _ n ih =>
    subst hn
    rw [lex]
    split_ifs with hnil hescape
    · exact Nat.zero_le _
    · have hpos := length_pos_iff.mpr hnil
      have hlength := length_consumeEscape value.tail
      rw [length_tail] at hlength
      have hrest := ih (consumeEscape value.tail).2.length (by omega) _ rfl
      have htoken : (consumeEscape value.tail).1.toList.length ≤ 1 := by
        cases (consumeEscape value.tail).1 <;> simp
      rw [length_append]
      omega
    · have hwidth := decodeRune_width hnil
      have hrest := ih (value.drop (decodeRune value).2).length
        (by rw [length_drop]; omega) _ rfl
      rw [length_drop] at hrest
      rw [length_cons]
      omega

/-- A rune that is no escape is read as a token. -/
theorem lex_encode {c : Char} (hc : c ≠ '\x1b') (rest : Bytes) :
    lex (String.utf8EncodeChar c ++ rest) = .rune c :: lex rest := by
  have hne : String.utf8EncodeChar c ++ rest ≠ [] := by
    obtain ⟨b, tail, hb, -⟩ := head_utf8EncodeChar c
    simp [hb]
  have hhead : (String.utf8EncodeChar c ++ rest).head? ≠ some 0x1b := by
    obtain ⟨b, tail, hb, -⟩ := head_utf8EncodeChar c
    rw [hb, cons_append, head?_cons]
    intro heq
    cases heq
    exact hc (eq_of_utf8EncodeChar hb (by decide) rfl)
  rw [lex, dif_neg hne, if_neg hhead, decodeRune_encode, ← String.length_utf8EncodeChar,
    drop_left]

/-- Text without escapes is read rune by rune. -/
theorem lex_encodeRunes {text : List Char} (h : '\x1b' ∉ text) :
    lex (encodeRunes text) = text.map .rune := by
  induction text with
  | nil => exact lex_nil
  | cons c text ih =>
    rw [mem_cons, not_or] at h
    rw [encodeRunes_cons, lex_encode (Ne.symm h.1), ih h.2, map_cons]

end Tokens

section Cells

/-- The runtime errors a buffer can raise. -/
inductive Panic
  | indexOutOfRange
  | sliceOutOfRange
  | makesliceLenOutOfRange
  deriving DecidableEq, Repr

/-- `webTTYTerminalTextBuffer`. -/
structure Buffer where
  lines : List (List Char) := [[]]
  row : Int := 0
  col : Int := 0
  savedRow : Int := 0
  savedCol : Int := 0
  deriving DecidableEq, Repr

/-- The largest allocation of the runtime, in bytes. -/
def maxAlloc : Int := 2 ^ 48

/-- The parameters of a control sequence, `webTTYParseCSIParams`. -/
def parseCSIParams (value : Bytes) : List Int :=
  (fields (trimSpaceBytes value)).map fun part => (atoi part).getD 0

namespace Buffer

variable (b : Buffer)

/-- `ensureRow`: the lines up to the row of the cursor. -/
def ensureRow : Buffer :=
  { b with lines := b.lines ++ replicate (b.row + 1 - b.lines.length).toNat [] }

/-- `b.lines[b.row]`. -/
def line : Except Panic (List Char) :=
  if b.row < 0 then .error .indexOutOfRange
  else
    match b.lines[b.row.toNat]? with
    | some line => .ok line
    | none => .error .indexOutOfRange

/-- `b.lines[b.row] = line`, of a row that was read before. -/
def setLine (line : List Char) : Buffer := { b with lines := b.lines.set b.row.toNat line }

def writePrintable (r : Char) : Except Panic Buffer := do
  let b := b.ensureRow
  let line ← b.line
  let line := line ++ replicate (b.col - line.length).toNat ' '
  if b.col < line.length then
    if b.col < 0 then .error .indexOutOfRange
    else .ok { b.setLine (line.set b.col.toNat r) with col := wrap64 (b.col + 1) }
  else .ok { b.setLine (line ++ [r]) with col := wrap64 (b.col + 1) }

/-- `b.lines[b.row] = line[:b.col]` if the line is longer than that. -/
def cutLine (line : List Char) : Except Panic Buffer :=
  if b.col < line.length then
    if b.col < 0 then .error .sliceOutOfRange else .ok (b.setLine (line.take b.col.toNat))
  else .ok b

/-- The line that mode 1 of both erase sequences builds: `b.col` new cells, with the cells
before the cursor copied into them, and the cells from the cursor on. -/
def rebuiltLine (line : List Char) : Except Panic (List Char) :=
  if b.col < 0 ∨ maxAlloc < 4 * b.col then .error .makesliceLenOutOfRange
  else
    let copied := line.take b.col.toNat
    .ok (copied ++ replicate (b.col.toNat - copied.length) '\x00' ++ line.drop b.col.toNat)

/-- The loop of `eraseDisplay` that clears the rows above the cursor. -/
def clearRows : Buffer :=
  { b with lines :=
      replicate (min b.row.toNat b.lines.length) [] ++ b.lines.drop b.row.toNat }

def eraseDisplay (mode : Int) : Except Panic Buffer := do
  let b := b.ensureRow
  if mode = 2 ∨ mode = 3 then return { b with lines := [[]], row := 0, col := 0 }
  else if mode = 0 then
    let line ← b.line
    let b ← b.cutLine line
    -- `b.lines[:b.row+1]`
    if wrap64 (b.row + 1) < 0 then .error .sliceOutOfRange
    else return { b with lines := b.lines.take (b.row + 1).toNat }
  else if mode = 1 then
    let b := b.clearRows
    let line ← b.line
    let line ← b.rebuiltLine line
    return b.setLine line
  else return b

def eraseLine (mode : Int) : Except Panic Buffer := do
  let b := b.ensureRow
  let line ← b.line
  if mode = 2 then return { b.setLine [] with col := 0 }
  else if mode = 1 then
    let line ← b.rebuiltLine line
    return b.setLine line
  else b.cutLine line

def applyCSI (rawParams : Bytes) (final : UInt8) : Except Panic Buffer :=
  if rawParams.head? = some 0x3f then .ok b
  else
    let params := parseCSIParams rawParams
    let first := params.headD 0
    if final = 0x41 then .ok { b with row := max 0 (wrap64 (b.row - max first 1)) }
    else if final = 0x42 then .ok (ensureRow { b with row := wrap64 (b.row + max first 1) })
    else if final = 0x43 then .ok { b with col := wrap64 (b.col + max first 1) }
    else if final = 0x44 then .ok { b with col := max 0 (wrap64 (b.col - max first 1)) }
    else if final = 0x47 then .ok { b with col := max 0 (max first 1 - 1) }
    else if final = 0x48 ∨ final = 0x66 then
      let row := match params with
        | row :: _ => max row 1
        | _ => 1
      let col := match params with
        | _ :: col :: _ => max col 1
        | _ => 1
      .ok (ensureRow { b with row := row - 1, col := col - 1 })
    else if final = 0x4a then b.eraseDisplay first
    else if final = 0x4b then b.eraseLine first
    else if final = 0x73 then .ok { b with savedRow := b.row, savedCol := b.col }
    else if final = 0x75 then .ok (ensureRow { b with row := b.savedRow, col := b.savedCol })
    else .ok b

/-- Print a rune a number of times. -/
def printTimes (r : Char) : Nat → Buffer → Except Panic Buffer
  | 0, b => .ok b
  | n + 1, b => b.writePrintable r >>= printTimes r n

/-- What a turn of the loop of `Write` does with its token. -/
def apply (b : Buffer) : Token → Except Panic Buffer
  | .csi params final => b.applyCSI params final
  | .rune r =>
    if r = '\r' then .ok { b with col := 0 }
    else if r = '\n' then .ok (ensureRow { b with row := wrap64 (b.row + 1), col := 0 })
    else if r = '\x08' then .ok (if 0 < b.col then { b with col := b.col - 1 } else b)
    else if r = '\t' then b.printTimes ' ' (8 - b.col.tmod 8).toNat
    else if ' ' ≤ r then b.writePrintable r
    else .ok b

def write (value : Bytes) : Except Panic Buffer := (lex value).foldlM apply b

def string : List Char := intercalate ['\n'] b.lines

end Buffer

end Cells

namespace Buffer

section Lines

variable (b : Buffer)

/-- The line of the cursor; a row that is not stored is empty. -/
def cursorLine : List Char := b.lines[b.row.toNat]?.getD []

/-- The buffer with the row of the cursor stored and set to a line. -/
def withLine (line : List Char) : Buffer := b.ensureRow.setLine line

/-- The cell at a row and a column, if it is stored. -/
def cell (r c : Nat) : Option Char := (b.lines[r]?.getD [])[c]?

@[simp] theorem ensureRow_row : b.ensureRow.row = b.row := rfl
@[simp] theorem ensureRow_col : b.ensureRow.col = b.col := rfl
@[simp] theorem withLine_row (line : List Char) : (b.withLine line).row = b.row := rfl
@[simp] theorem withLine_col (line : List Char) : (b.withLine line).col = b.col := rfl

variable {b}

theorem lt_length_ensureRow (hrow : 0 ≤ b.row) : b.row.toNat < b.ensureRow.lines.length := by
  simp only [ensureRow, length_append, length_replicate]
  omega

theorem getElem?_ensureRow (r : Nat) : b.ensureRow.lines[r]?.getD [] = b.lines[r]?.getD [] := by
  simp only [ensureRow, getElem?_append, getElem?_replicate]
  split_ifs with hr h
  · rfl
  all_goals simp [getElem?_eq_none (Nat.le_of_not_lt hr)]

theorem cell_ensureRow (r c : Nat) : b.ensureRow.cell r c = b.cell r c := by
  rw [cell, getElem?_ensureRow, cell]

theorem cell_cursorLine (c : Nat) : b.cursorLine[c]? = b.cell b.row.toNat c := rfl

theorem getElem?_cursor (hrow : 0 ≤ b.row) :
    b.ensureRow.lines[b.row.toNat]? = some b.cursorLine := by
  have hlt := lt_length_ensureRow hrow
  have hget := getElem?_ensureRow (b := b) b.row.toNat
  rw [getElem?_eq_getElem hlt, Option.getD_some] at hget
  rw [getElem?_eq_getElem hlt, hget, cursorLine]

theorem line_eq {l : List Char} (hrow : 0 ≤ b.row) (h : b.lines[b.row.toNat]? = some l) :
    b.line = .ok l := by
  rw [line, if_neg (Int.not_lt.mpr hrow), h]

theorem line_ensureRow (hrow : 0 ≤ b.row) : b.ensureRow.line = .ok b.cursorLine :=
  line_eq hrow (getElem?_cursor hrow)

theorem line_of_neg (hrow : b.row < 0) : b.line = .error .indexOutOfRange := by
  rw [line, if_pos hrow]

theorem cell_withLine (hrow : 0 ≤ b.row) (line : List Char) (r c : Nat) :
    (b.withLine line).cell r c = if r = b.row.toNat then (line)[c]? else b.cell r c := by
  have hlt := lt_length_ensureRow hrow
  rw [← cell_ensureRow (b := b)]
  simp only [withLine, setLine, cell, ensureRow_row, getElem?_set]
  by_cases hr : r = b.row.toNat
  · subst hr
    simp [hlt]
  · simp [hr, Ne.symm hr]

/-- Setting the line of the cursor to itself stores its row. -/
theorem withLine_cursorLine (hrow : 0 ≤ b.row) : b.withLine b.cursorLine = b.ensureRow := by
  obtain ⟨hlt, hget⟩ := List.getElem?_eq_some_iff.mp (getElem?_cursor hrow)
  rw [withLine, setLine, ensureRow_row, ← hget, List.set_getElem_self]
  rfl

end Lines

section Sequences

/-- What a control sequence does: it moves the cursor, with or without storing its row,
erases, or saves the cursor. -/
inductive Effect (b : Buffer) (params : Bytes) (final : UInt8) : Except Panic Buffer → Prop
  | move (row col : Int) : Effect b params final (.ok { b with row := row, col := col })
  | goto (row col : Int) : Effect b params final (.ok (ensureRow { b with row := row, col := col }))
  | eraseDisplay (hfinal : final = 0x4a) :
      Effect b params final (b.eraseDisplay ((parseCSIParams params).headD 0))
  | eraseLine (hfinal : final = 0x4b) :
      Effect b params final (b.eraseLine ((parseCSIParams params).headD 0))
  | save : Effect b params final (.ok { b with savedRow := b.row, savedCol := b.col })

theorem applyCSI_effect (b : Buffer) (params : Bytes) (final : UInt8) :
    Effect b params final (b.applyCSI params final) := by
  rw [applyCSI]
  refine iteInduction (fun _ => .move b.row b.col) fun _ => ?_
  refine iteInduction (fun _ => .move _ b.col) fun _ => ?_
  refine iteInduction (fun _ => .goto _ b.col) fun _ => ?_
  refine iteInduction (fun _ => .move b.row _) fun _ => ?_
  refine iteInduction (fun _ => .move b.row _) fun _ => ?_
  refine iteInduction (fun _ => .move b.row _) fun _ => ?_
  refine iteInduction (fun _ => .goto _ _) fun _ => ?_
  refine iteInduction (fun h => .eraseDisplay h) fun _ => ?_
  refine iteInduction (fun h => .eraseLine h) fun _ => ?_
  refine iteInduction (fun _ => .save) fun _ => ?_
  exact iteInduction (fun _ => .goto _ _) fun _ => .move b.row b.col

end Sequences

section Specifications

variable {b : Buffer}

/-- A line with a rune at a column, and spaces before it where there were no cells. -/
def put (line : List Char) (c : Nat) (r : Char) : List Char :=
  (line ++ replicate (c - line.length) ' ').take c ++ r :: line.drop (c + 1)

/-- Printing puts a rune at the cursor. -/
theorem writePrintable_eq (hrow : 0 ≤ b.row) (hcol : 0 ≤ b.col) (r : Char) :
    b.writePrintable r =
      .ok { b.withLine (put b.cursorLine b.col.toNat r) with col := wrap64 (b.col + 1) } := by
  obtain ⟨padded, hpadded⟩ :
    ∃ padded, padded = b.cursorLine ++ replicate (b.col.toNat - b.cursorLine.length) ' ' :=
    ⟨_, rfl⟩
  have hlength : padded.length = max b.cursorLine.length b.col.toNat := by
    rw [hpadded, length_append, length_replicate]
    omega
  have hreplicate : (b.ensureRow.col - b.cursorLine.length).toNat =
      b.col.toNat - b.cursorLine.length := by
    rw [ensureRow_col]
    omega
  have hdrop : b.cursorLine.drop (b.col.toNat + 1) = padded.drop (b.col.toNat + 1) := by
    rw [hpadded, drop_append, drop_replicate]
    simp
    omega
  have hcol' : ¬ b.ensureRow.col < 0 := Int.not_lt.mpr hcol
  simp only [writePrintable, line_ensureRow hrow, bind, Except.bind, hreplicate, ← hpadded, put]
  rw [hdrop]
  by_cases hlen : b.ensureRow.col < padded.length
  · rw [if_pos hlen, if_neg hcol', set_eq_take_append_cons_drop, if_pos]
    · rfl
    · rw [ensureRow_col] at hlen ⊢
      omega
  · have hle : padded.length ≤ b.col.toNat := by
      rw [ensureRow_col] at hlen
      omega
    rw [if_neg hlen, take_of_length_le hle, drop_eq_nil_of_le (by omega)]
    rfl

/-- Mode 1 gives the cells before the cursor back, with zero runes where there were none. -/
theorem rebuiltLine_eq (hcol : 0 ≤ b.col) (halloc : 4 * b.col ≤ maxAlloc) (line : List Char) :
    b.rebuiltLine line = .ok (line ++ replicate (b.col.toNat - line.length) '\x00') := by
  rw [rebuiltLine, if_neg (by omega)]
  simp only [Except.ok.injEq]
  by_cases hlen : b.col.toNat ≤ line.length
  · have htake : (line.take b.col.toNat).length = b.col.toNat := by simp [hlen]
    rw [htake, Nat.sub_self, Nat.sub_eq_zero_of_le hlen]
    simp
  · rw [take_of_length_le (by omega), drop_eq_nil_of_le (by omega), append_nil]

/-- Cutting the line leaves the cells before the cursor. -/
theorem cutLine_eq (hrow : 0 ≤ b.row) (hcol : 0 ≤ b.col) :
    b.ensureRow.cutLine b.cursorLine = .ok (b.withLine (b.cursorLine.take b.col.toNat)) := by
  have hcol' : ¬ b.ensureRow.col < 0 := Int.not_lt.mpr hcol
  by_cases hlen : b.ensureRow.col < b.cursorLine.length
  · rw [cutLine, if_pos hlen, if_neg hcol']
    rfl
  · have hle : b.cursorLine.length ≤ b.col.toNat := by
      rw [ensureRow_col] at hlen
      omega
    rw [cutLine, if_neg hlen, take_of_length_le hle, withLine_cursorLine hrow]

theorem eraseLine_two (hrow : 0 ≤ b.row) : b.eraseLine 2 = .ok { b.withLine [] with col := 0 } := by
  simp only [eraseLine, line_ensureRow hrow, bind, Except.bind, if_true]
  rfl

theorem eraseLine_one (hrow : 0 ≤ b.row) :
    b.eraseLine 1 = (b.rebuiltLine b.cursorLine).map b.withLine := by
  simp only [eraseLine, line_ensureRow hrow, bind, Except.bind]
  rw [if_neg (by decide), if_pos trivial]
  have hsame : b.ensureRow.rebuiltLine = b.rebuiltLine := rfl
  rw [hsame]
  cases b.rebuiltLine b.cursorLine <;> rfl

theorem eraseLine_of_ne {mode : Int} (h1 : mode ≠ 1) (h2 : mode ≠ 2) (hrow : 0 ≤ b.row)
    (hcol : 0 ≤ b.col) : b.eraseLine mode = .ok (b.withLine (b.cursorLine.take b.col.toNat)) := by
  simp only [eraseLine, line_ensureRow hrow, bind, Except.bind]
  rw [if_neg h2, if_neg h1, cutLine_eq hrow hcol]

theorem eraseDisplay_all {mode : Int} (h : mode = 2 ∨ mode = 3) :
    b.eraseDisplay mode = .ok { b.ensureRow with lines := [[]], row := 0, col := 0 } := by
  rw [eraseDisplay, if_pos h]
  rfl

/-- `eraseDisplay 0` cuts the line and drops the lines below it. -/
theorem eraseDisplay_zero (hrow : 0 ≤ b.row) (hcol : 0 ≤ b.col) (hnext : 0 ≤ wrap64 (b.row + 1)) :
    b.eraseDisplay 0 = .ok { b.withLine (b.cursorLine.take b.col.toNat) with
      lines := (b.withLine (b.cursorLine.take b.col.toNat)).lines.take (b.row + 1).toNat } := by
  have hnext' : ¬ wrap64 ((b.withLine (b.cursorLine.take b.col.toNat)).row + 1) < 0 :=
    Int.not_lt.mpr hnext
  simp only [eraseDisplay, line_ensureRow hrow, cutLine_eq hrow hcol, bind, Except.bind]
  rw [if_neg (by decide), if_pos trivial, if_neg hnext']
  rfl

/-- The rows after clearing those above the cursor. -/
theorem getElem?_clearRows (hrow : 0 ≤ b.row) (r : Nat) :
    b.ensureRow.clearRows.lines[r]? =
      if r < b.row.toNat then some [] else b.ensureRow.lines[r]? := by
  have hlt := lt_length_ensureRow hrow
  simp only [clearRows, ensureRow_row, min_eq_left hlt.le, getElem?_append,
    length_replicate, getElem?_replicate, getElem?_drop]
  split_ifs with hr
  · rfl
  · rw [Nat.add_sub_cancel' (Nat.le_of_not_lt hr)]

theorem getElem?_clearRows_cursor (hrow : 0 ≤ b.row) :
    b.ensureRow.clearRows.lines[b.row.toNat]? = some b.cursorLine := by
  rw [getElem?_clearRows hrow, if_neg (lt_irrefl _), getElem?_cursor hrow]

/-- `eraseDisplay 1` clears the lines above and rebuilds the line of the cursor. -/
theorem eraseDisplay_one (hrow : 0 ≤ b.row) :
    b.eraseDisplay 1 = (b.rebuiltLine b.cursorLine).map b.ensureRow.clearRows.setLine := by
  have hline : b.ensureRow.clearRows.line = .ok b.cursorLine :=
    line_eq hrow (getElem?_clearRows_cursor hrow)
  have hsame : b.ensureRow.clearRows.rebuiltLine = b.rebuiltLine := rfl
  simp only [eraseDisplay, hline, hsame, bind, Except.bind]
  rw [if_neg (by decide), if_neg (by decide), if_pos trivial]
  cases b.rebuiltLine b.cursorLine <;> rfl

/-- The cells after `eraseDisplay 1`. -/
theorem cell_clearRows_setLine (hrow : 0 ≤ b.row) (line : List Char) (r c : Nat) :
    (b.ensureRow.clearRows.setLine line).cell r c =
      if r < b.row.toNat then none else if r = b.row.toNat then (line)[c]? else b.cell r c := by
  have hrow' : b.ensureRow.clearRows.row = b.row := rfl
  have hlen := (List.getElem?_eq_some_iff.mp (getElem?_clearRows_cursor hrow)).1
  rw [← cell_ensureRow (b := b)]
  simp only [setLine, cell, hrow', List.getElem?_set, getElem?_clearRows hrow]
  obtain hr | rfl | hr := lt_trichotomy r b.row.toNat
  · simp [hr, hr.ne']
  · simp [hlen]
  · simp [hr.ne, hr.ne', Nat.not_lt_of_gt hr]

end Specifications

end Buffer

end Rstream.Transcript
