import Rstream.Command.Tables

/-!
# Tables are safe to print

A text is safe when it holds no control character but line feeds. What `terminalSafe`
returns holds none at all, so a table of such columns is safe. A path is printed as it is:
the table is safe exactly when no path brings a control character past the tab writer.
-/

namespace Rstream.Command

open Go Go.TabWriter WebTTY Transcript List

section Safety

/-- A line feed, or no C0 control character and no delete. -/
def SafeByte (b : UInt8) : Prop := b = 0x0a ∨ (0x20 ≤ b ∧ b ≠ 0x7f)

/-- Two bytes that are not the encoding of a C1 control character. -/
def NoC1 (a b : UInt8) : Prop := ¬ (a = 0xc2 ∧ 0x80 ≤ b ∧ b ≤ 0x9f)

/-- Output without control characters other than line feeds. -/
def SafeOutput (out : Bytes) : Prop := Clean SafeByte NoC1 out

theorem accepts : Accepts SafeByte NoC1 where
  space := .inr ⟨by decide, by decide⟩
  newline := .inl rfl
  ascii_left := by
    rintro a b ha ⟨rfl, -⟩
    exact absurd ha (by decide)
  ascii_right := by
    rintro a b hb ⟨-, hle, -⟩
    rw [UInt8.le_iff_toNat_le] at hle
    rw [UInt8.lt_iff_toNat_lt] at hb
    exact absurd hb (Nat.not_lt.mpr hle)

/-- A column that the tab writer passes on as it is: no control characters, and no escape
byte. -/
structure PlainColumn (column : Bytes) : Prop where
  bytes : ∀ b ∈ column, 0x20 ≤ b ∧ b ≠ 0x7f ∧ b ≠ 0xff
  pairs : column.IsChain NoC1

/-- No control character: not C0, not delete, not C1. -/
def Printable (c : Char) : Prop :=
  0x20 ≤ c.toNat ∧ c.toNat ≠ 0x7f ∧ ¬ (0x80 ≤ c.toNat ∧ c.toNat ≤ 0x9f)

instance : DecidablePred Printable := fun _ => inferInstanceAs (Decidable (_ ∧ _ ∧ _))

theorem printable_of_all (texts : List String)
    (h : texts.all (fun s => s.toList.all fun c => Printable c) = true) :
    ∀ s ∈ texts, ∀ c ∈ s.toList, Printable c := by
  simpa only [all_eq_true, decide_eq_true_eq] using h

/-- The encoding of a printable rune, and what it cannot end with. -/
theorem plainColumn_encode {c : Char} (h : Printable c) :
    PlainColumn (String.utf8EncodeChar c) ∧
      ∀ b ∈ (String.utf8EncodeChar c).getLast?, b.toNat ≠ 0xc2 := by
  obtain ⟨hlow, hdel, hc1⟩ := h
  have hbyte : ∀ b : UInt8, 0x20 ≤ b.toNat → b.toNat ≠ 0x7f → b.toNat ≠ 0xff →
      0x20 ≤ b ∧ b ≠ 0x7f ∧ b ≠ 0xff := by
    intro b h1 h2 h3
    exact ⟨UInt8.le_iff_toNat_le.mpr h1, fun h => h2 (by rw [h]; rfl), fun h => h3 (by rw [h]; rfl)⟩
  have hpair : ∀ a b : UInt8, a.toNat ≠ 0xc2 → NoC1 a b := fun a b ha h => ha (by rw [h.1]; rfl)
  have hshape := encodingShape c
  generalize String.utf8EncodeChar c = s at hshape ⊢
  cases hshape with
  | one b hc hb =>
    refine ⟨⟨?_, by simp⟩, ?_⟩
    · rw [forall_mem_singleton]
      exact hbyte b (by omega) (by omega) (by omega)
    · simp only [getLast?_singleton, Option.mem_def, Option.some.injEq, forall_eq']
      omega
  | two a b hc ha hb =>
    refine ⟨⟨?_, ?_⟩, ?_⟩
    · simp only [forall_mem_cons, not_mem_nil, false_imp_iff, implies_true, and_true]
      exact ⟨hbyte a (by omega) (by omega) (by omega), hbyte b (by omega) (by omega) (by omega)⟩
    · rw [isChain_cons_cons]
      refine ⟨?_, by simp⟩
      rintro ⟨rfl, -, hle⟩
      rw [UInt8.le_iff_toNat_le] at hle
      simp only [UInt8.toNat_ofNat] at ha hle
      omega
    · simp only [getLast?_cons_cons, getLast?_singleton, Option.mem_def,
        Option.some.injEq, forall_eq']
      omega
  | many a tail hne hc ha htail =>
    have htail' : tail.IsChain NoC1 := by
      clear hne
      induction tail with
      | nil => exact isChain_nil
      | cons b tail ih =>
        rw [forall_mem_cons] at htail
        rw [isChain_cons]
        exact ⟨fun y _ => hpair b y (by omega), ih htail.2⟩
    refine ⟨⟨?_, ?_⟩, ?_⟩
    · rw [forall_mem_cons]
      refine ⟨hbyte a (by omega) (by omega) (by omega), fun b hb => ?_⟩
      have := htail b hb
      exact hbyte b (by omega) (by omega) (by omega)
    · rw [isChain_cons]
      exact ⟨fun y _ => hpair a y (by omega), htail'⟩
    · intro b hb
      have hmem := mem_of_getLast? hb
      obtain rfl | hmem := mem_cons.mp hmem
      · omega
      · have := htail b hmem
        omega

theorem plainColumn_append {x y : Bytes} (hx : PlainColumn x) (hy : PlainColumn y)
    (hlast : ∀ b ∈ x.getLast?, b.toNat ≠ 0xc2) : PlainColumn (x ++ y) where
  bytes b hb := (mem_append.mp hb).elim (hx.bytes b) (hy.bytes b)
  pairs := isChain_append.mpr ⟨hx.pairs, hy.pairs, fun a ha _ _ h =>
    hlast a ha (by rw [h.1]; rfl)⟩

theorem plainColumn_encodeRunes {text : List Char} (h : ∀ c ∈ text, Printable c) :
    PlainColumn (encodeRunes text) := by
  induction text with
  | nil => exact ⟨by simp, isChain_nil⟩
  | cons c text ih =>
    rw [forall_mem_cons] at h
    obtain ⟨hc, hlast⟩ := plainColumn_encode h.1
    exact plainColumn_append hc (ih h.2) hlast

theorem plainColumn_utf8 {s : String} (h : ∀ c ∈ s.toList, Printable c) : PlainColumn (utf8 s) :=
  utf8_eq_encodeRunes s ▸ plainColumn_encodeRunes h

end Safety

section Columns

theorem printable_of_safeRune {r c : Char} (h : safeRune r = some c) : Printable c := by
  unfold safeRune at h
  split_ifs at h with hspace hcontrol
  · cases h
    exact ⟨by decide, by decide, by decide⟩
  · cases h
    exact ⟨by omega, by omega, by omega⟩

theorem printable_terminalSafe (value : Bytes) : ∀ c ∈ terminalSafe value, Printable c := by
  intro c hc
  obtain hc | ⟨field, hfield, hc⟩ := mem_intercalate hc
  · obtain rfl := mem_singleton.mp hc
    exact ⟨by decide, by decide, by decide⟩
  · have hmem := (mem_of_mem_splitOnP (mem_of_mem_filter hfield) hc).1
    obtain ⟨r, -, hr⟩ := mem_filterMap.mp hmem
    exact printable_of_safeRune hr

theorem plainColumn_safeColumn (value : Bytes) : PlainColumn (safeColumn value) := by
  refine plainColumn_encodeRunes fun c hc => ?_
  unfold terminalSafeDefault at hc
  dsimp only at hc
  split_ifs at hc
  · obtain rfl := mem_singleton.mp hc
    exact ⟨by decide, by decide, by decide⟩
  · exact printable_terminalSafe value c hc

end Columns

section Rows

/-- Whether bytes leave the tab writer inside an escape. -/
def escapedAfter : Bool → Bytes → Bool
  | escaped, [] => escaped
  | escaped, b :: rest => escapedAfter (if b = 0xff then !escaped else escaped) rest

theorem not_isEnd_ff : Writer.isEnd 0xff = false := by decide

theorem kept_append (ok : UInt8 → Prop) (escaped : Bool) (x y : Bytes) :
    Kept ok escaped (x ++ y) ↔ Kept ok escaped x ∧ Kept ok (escapedAfter escaped x) y := by
  induction x generalizing escaped with
  | nil => cases escaped <;> simp [Kept, escapedAfter]
  | cons b x ih =>
    rw [cons_append]
    cases escaped with
    | true =>
      have hnext : (if b = 0xff then !true else true) = decide (b ≠ 0xff) := by
        by_cases hb : b = 0xff <;> simp [hb]
      rw [Kept, Kept, escapedAfter, hnext, ih, and_assoc]
    | false =>
      have hnext : (if b = 0xff then !false else false) = decide (b = 0xff) := by
        by_cases hb : b = 0xff <;> simp [hb]
      rw [Kept, Kept, escapedAfter, hnext]
      split_ifs with hend
      · have hne : b ≠ 0xff := by
          rintro rfl
          simp [not_isEnd_ff] at hend
        rw [ih]
        simp [hne]
      · rw [ih, and_assoc]

/-- A plain column passes, and leaves the tab writer as it was. -/
theorem kept_plain {column : Bytes} (h : PlainColumn column) (rest : Bytes) :
    Kept SafeByte false (column ++ rest) ↔ Kept SafeByte false rest := by
  have hbytes := h.bytes
  clear h
  induction column with
  | nil => rfl
  | cons b column ih =>
    rw [forall_mem_cons] at hbytes
    obtain ⟨⟨hlow, hdel, hesc⟩, hrest⟩ := hbytes
    have hend : ¬ Writer.isEnd b = true := by
      simp only [Writer.isEnd, Bool.or_eq_true, beq_iff_eq]
      rintro (((rfl | rfl) | rfl) | rfl) <;> exact absurd hlow (by decide)
    rw [cons_append, Kept, if_neg hend, decide_eq_false hesc,
      and_iff_right (.inr ⟨hlow, hdel⟩)]
    exact ih hrest

/-- The columns of a row are plain. -/
def PlainRow (columns : List Bytes) : Prop := ∀ column ∈ columns, PlainColumn column

/-- A row of plain columns passes. -/
theorem kept_tableRow {columns : List Bytes} (h : PlainRow columns) (rest : Bytes) :
    Kept SafeByte false (tableRow columns ++ rest) ↔ Kept SafeByte false rest := by
  have hend : ∀ b : UInt8, Writer.isEnd b = true → ∀ rest,
      Kept SafeByte false (b :: rest) ↔ Kept SafeByte false rest := by
    intro b hb rest
    rw [Kept, if_pos hb]
  unfold tableRow
  induction columns with
  | nil => exact hend 0x0a rfl rest
  | cons column columns ih =>
    rw [PlainRow, forall_mem_cons] at h
    cases columns with
    | nil =>
      rw [show intercalate [0x09] [column] = column by simp [intercalate],
        append_assoc, kept_plain h.1]
      exact hend 0x0a rfl rest
    | cons next columns =>
      rw [intercalate_cons_cons, append_assoc, append_assoc, append_assoc,
        kept_plain h.1, singleton_append, hend 0x09 rfl, ← append_assoc]
      exact ih h.2

theorem isChain_ascii {b : UInt8} (hb : b < 0x80) (x rest : Bytes) :
    (x ++ b :: rest).IsChain NoC1 ↔ x.IsChain NoC1 ∧ rest.IsChain NoC1 := by
  rw [isChain_append, isChain_cons]
  constructor
  · exact fun h => ⟨h.1, h.2.1.2⟩
  · rintro ⟨hx, hrest⟩
    refine ⟨hx, ⟨fun y _ => accepts.ascii_left b y hb, hrest⟩, fun a _ y hy => ?_⟩
    cases hy
    exact accepts.ascii_right a b hb

theorem isChain_tableRow {columns : List Bytes} (rest : Bytes) :
    (tableRow columns ++ rest).IsChain NoC1 ↔
      (∀ column ∈ columns, column.IsChain NoC1) ∧ rest.IsChain NoC1 := by
  unfold tableRow
  induction columns with
  | nil => simpa using isChain_ascii (b := 0x0a) (by decide) [] rest
  | cons column columns ih =>
    cases columns with
    | nil =>
      rw [show intercalate [0x09] [column] = column by simp [intercalate],
        append_assoc, singleton_append, isChain_ascii (by decide),
        forall_mem_singleton]
    | cons next columns =>
      rw [intercalate_cons_cons, append_assoc, append_assoc, append_assoc,
        singleton_append, isChain_ascii (by decide), ← append_assoc, ih, ← and_assoc,
        ← forall_mem_cons]

/-- A table of plain columns is safe. -/
theorem safeOutput_printTable {header : List String} {rows : List (List Bytes)}
    (hheader : ∀ s ∈ header, ∀ c ∈ s.toList, Printable c) (hrows : ∀ row ∈ rows, PlainRow row) :
    SafeOutput (printTable header rows) := by
  have hall : ∀ row ∈ header.map utf8 :: rows, PlainRow row := by
    rw [forall_mem_cons]
    refine ⟨fun column hcolumn => ?_, hrows⟩
    obtain ⟨s, hs, rfl⟩ := mem_map.mp hcolumn
    exact plainColumn_utf8 (hheader s hs)
  refine (accepts.clean_output (by decide) _).mpr ?_
  generalize header.map utf8 :: rows = table at hall
  induction table with
  | nil => exact ⟨trivial, isChain_nil⟩
  | cons row table ih =>
    rw [forall_mem_cons] at hall
    rw [flatMap_cons, kept_tableRow hall.1, isChain_tableRow]
    exact ⟨(ih hall.2).1, fun column hcolumn => (hall.1 column hcolumn).pairs, (ih hall.2).2⟩

end Rows

section Tables

/-- A path that brings no control character past the tab writer: what it keeps of the path is
safe, the path leaves no escape open, and holds no C1 control character. -/
structure SafePath (path : Bytes) : Prop where
  kept : Kept SafeByte false path
  closed : escapedAfter false path = false
  pairs : path.IsChain NoC1

theorem printable_of_isDigit {c : Char} (h : c.isDigit = true) : Printable c := by
  simp only [Char.isDigit, Bool.and_eq_true, decide_eq_true_eq, ge_iff_le] at h
  have hlow : '0'.toNat ≤ c.toNat := h.1
  have hhigh : c.toNat ≤ '9'.toNat := h.2
  simp only [Char.reduceToNat] at hlow hhigh
  exact ⟨by omega, by omega, by omega⟩

theorem plainColumn_number (n : Int) : PlainColumn (utf8 (toString n)) := by
  have hdigits : ∀ (m : Nat), ∀ c ∈ (toString m).toList, Printable c := by
    intro m c hc
    rw [show toString m = String.ofList (Nat.toDigits 10 m) from rfl, String.toList_ofList] at hc
    exact printable_of_isDigit (Nat.isDigit_of_mem_toDigits (by decide) (by decide) hc)
  refine plainColumn_utf8 fun c hc => ?_
  cases n with
  | ofNat m => exact hdigits m c hc
  | negSucc m =>
    rw [show toString (Int.negSucc m) = "-" ++ toString (m + 1) from rfl, String.toList_append,
      mem_append] at hc
    obtain hc | hc := hc
    · obtain rfl : c = '-' := by simpa using hc
      exact ⟨by decide, by decide, by decide⟩
    · exact hdigits _ c hc

/-- The columns of an item behind its path. -/
def itemColumns (item : FSItem) : List Bytes :=
  [utf8 item.kind.name,
    match item.size with
      | some size => utf8 (toString size)
      | none => utf8 "-",
    safeColumn item.modified]

theorem plainRow_itemColumns (item : FSItem) : PlainRow (itemColumns item) := by
  have hkind : PlainColumn (utf8 item.kind.name) := by
    refine plainColumn_utf8 (printable_of_all [item.kind.name] ?_ _ mem_cons_self)
    cases item.kind <;> decide
  have hdash : PlainColumn (utf8 "-") :=
    plainColumn_utf8 (printable_of_all ["-"] (by decide) _ mem_cons_self)
  rw [PlainRow, itemColumns, forall_mem_cons, forall_mem_cons, forall_mem_singleton]
  refine ⟨hkind, ?_, plainColumn_safeColumn _⟩
  split
  · exact plainColumn_number _
  · exact hdash

/-- The row of an item passes exactly when its path does. -/
theorem kept_itemRow (item : FSItem) (rest : Bytes) :
    Kept SafeByte false (tableRow (item.path :: itemColumns item) ++ rest) ↔
      (Kept SafeByte false item.path ∧ escapedAfter false item.path = false) ∧
        Kept SafeByte false rest := by
  have hrow : tableRow (item.path :: itemColumns item) =
      item.path ++ 0x09 :: tableRow (itemColumns item) := by
    simp only [tableRow, itemColumns, intercalate_cons_cons, append_assoc,
      cons_append, nil_append]
  have htab : ¬ SafeByte 0x09 := by
    unfold SafeByte
    decide
  rw [hrow, append_assoc, kept_append, cons_append, and_assoc]
  refine and_congr_right' ?_
  cases escapedAfter false item.path with
  | true => simp [Kept, htab]
  | false => simp [Kept, Writer.isEnd, kept_tableRow (plainRow_itemColumns item)]

/-- A listing is safe to print exactly when its paths are. -/
theorem safeOutput_printFSItemsTable_iff (items : List FSItem) :
    SafeOutput (printFSItemsTable items) ↔ ∀ item ∈ items, SafePath item.path := by
  have hheader : PlainRow (["PATH", "KIND", "SIZE", "MODIFIED"].map utf8) := by
    intro column hcolumn
    obtain ⟨s, hs, rfl⟩ := mem_map.mp hcolumn
    exact plainColumn_utf8 (printable_of_all _ (by decide) s hs)
  have hitems : Kept SafeByte false
        ((items.map fun item => item.path :: itemColumns item).flatMap tableRow) ∧
      ((items.map fun item => item.path :: itemColumns item).flatMap tableRow).IsChain NoC1 ↔
      ∀ item ∈ items, SafePath item.path := by
    induction items with
    | nil => simp [Kept]
    | cons item items ih =>
      have hplain : ∀ column ∈ itemColumns item, column.IsChain NoC1 :=
        fun column hcolumn => (plainRow_itemColumns item column hcolumn).pairs
      rw [map_cons, flatMap_cons, kept_itemRow, isChain_tableRow, forall_mem_cons,
        forall_mem_cons, ← ih, and_iff_left hplain]
      constructor
      · rintro ⟨⟨⟨hkept, hclosed⟩, hrest⟩, hpairs, hchain⟩
        exact ⟨⟨hkept, hclosed, hpairs⟩, hrest, hchain⟩
      · rintro ⟨⟨hkept, hclosed, hpairs⟩, hrest, hchain⟩
        exact ⟨⟨⟨hkept, hclosed⟩, hrest⟩, hpairs, hchain⟩
  rw [← hitems]
  refine (accepts.clean_output (by decide) _).trans ?_
  rw [flatMap_cons, kept_tableRow hheader, isChain_tableRow, and_iff_right fun column hcolumn =>
    (hheader column hcolumn).pairs]
  rfl

theorem webDAVDisplayPath_ne_nil (raw : Bytes) : webDAVDisplayPath raw ≠ [] := by
  unfold webDAVDisplayPath
  dsimp only
  generalize (if defaultFSPath <+: (pathUnescape raw).getD raw then
    ((pathUnescape raw).getD raw).drop defaultFSPath.length else (pathUnescape raw).getD raw) = path
  split_ifs with hempty hslash
  · decide +kernel
  · exact hempty
  · exact cons_ne_nil _ _

theorem itemsFromMultiStatus_path (responses : List DAVResponse) (P : Bytes → Prop) :
    (∀ item ∈ webDAVItemsFromMultiStatus responses, P item.path) ↔
      ∀ response ∈ responses, P (webDAVDisplayPath response.href) := by
  have hpath : ∀ response, (webDAVItemFromResponse response).path =
    webDAVDisplayPath response.href := fun _ => rfl
  have hall : webDAVItemsFromMultiStatus responses = responses.map webDAVItemFromResponse := by
    refine filter_eq_self.mpr fun item hitem => ?_
    obtain ⟨response, -, rfl⟩ := mem_map.mp hitem
    simpa [hpath] using webDAVDisplayPath_ne_nil response.href
  simp only [hall, forall_mem_map, hpath]

/-- The tables of sessions, control requests and participants are safe to print. A WebDAV
listing is exactly when every path it displays is. -/
theorem tables_safe_iff (sessions : List SessionRow) (requests : List ControlRequestRow)
    (participants : List ParticipantRow) (responses : List DAVResponse) :
    SafeOutput (printSessionsTable sessions) ∧ SafeOutput (printControlRequestsTable requests) ∧
      SafeOutput (printParticipantsTable participants) ∧
      (SafeOutput (printFSItemsTable (webDAVItemsFromMultiStatus responses)) ↔
        ∀ response ∈ responses, SafePath (webDAVDisplayPath response.href)) := by
  have hsafe := plainColumn_safeColumn
  refine ⟨?_, ?_, ?_, ?_⟩
  · refine safeOutput_printTable (printable_of_all _ (by decide)) fun row hrow => ?_
    obtain ⟨session, -, rfl⟩ := mem_map.mp hrow
    simp only [PlainRow, forall_mem_cons, hsafe, true_and]
    simp
  · refine safeOutput_printTable (printable_of_all _ (by decide)) fun row hrow => ?_
    obtain ⟨request, -, rfl⟩ := mem_map.mp hrow
    simp only [PlainRow, forall_mem_cons, hsafe, true_and]
    simp
  · refine safeOutput_printTable (printable_of_all _ (by decide)) fun row hrow => ?_
    obtain ⟨participant, -, rfl⟩ := mem_map.mp hrow
    have hcontroller : PlainColumn (utf8 (if participant.controller then "true" else "false")) := by
      refine plainColumn_utf8 (printable_of_all ["true", "false"] (by decide) _ ?_)
      split_ifs <;> simp
    simp only [PlainRow, forall_mem_cons, hsafe, hcontroller, true_and]
    simp
  · rw [safeOutput_printFSItemsTable_iff, itemsFromMultiStatus_path]

/-- A percent-encoded escape in a path reaches the terminal. -/
theorem table_unsafe_escape :
    ¬ SafeOutput (printFSItemsTable (webDAVItemsFromMultiStatus [⟨utf8 "/fs/%1b", []⟩])) := by
  intro h
  have hmem : (0x1b : UInt8) ∈
      printFSItemsTable (webDAVItemsFromMultiStatus [⟨utf8 "/fs/%1b", []⟩]) := by decide +kernel
  have hbyte := h.bytes _ hmem
  unfold SafeByte at hbyte
  exact absurd hbyte (by decide)

end Tables

end Rstream.Command
