import Rstream.Go.JsonStruct
import Rstream.Go.TimeFormat
import Rstream.Transcript.Buffer

/-!
# Text export of a recorded session

`webTTYRenderSessionTextExport` of `cmd/webtty_sessions.go`: the payloads of the
recorded events are written to the buffer of the main screen or of the alternate screen,
with markers in between, and the buffers become the text. A rendering is a run over
acts: a switch of the screen, or one token for one of the buffers.
-/

namespace Rstream.Transcript

open Go WebTTY List

section Events

/-- The event types the export tells apart. -/
inductive EventType
  | resize
  | data
  | other
  deriving DecidableEq, Repr

/-- `WebTTYStreamType`. -/
inductive StreamType
  | stdin
  | stdout
  | stderr
  | other (name : String)
  deriving DecidableEq, Repr

/-- The text of a stream type. -/
def StreamType.name : StreamType → String
  | .stdin => "stdin"
  | .stdout => "stdout"
  | .stderr => "stderr"
  | .other name => name

/-- The fields of `WebTTYSessionEvent` the export reads. -/
structure SessionEvent where
  type : EventType
  streamType : StreamType
  /-- The time in UTC; `none` is the zero time. -/
  createdAt : Option Int := none
  metadata : Bytes := []
  deriving DecidableEq, Repr

/-- The fields of `webTTYSessionExportOptions` the text export reads. -/
structure ExportOptions where
  activeAlternateScreen : Bool := false
  includeResizeMarkers : Bool := false
  includeStderr : Bool := false
  includeStdin : Bool := false
  includeStdout : Bool := false
  includeTerminalModes : Bool := false
  includeTimestamps : Bool := false
  deriving DecidableEq, Repr

/-- `webTTYTextExportIncludesStream`. -/
def ExportOptions.includesStream (options : ExportOptions) : StreamType → Bool
  | .stdin => options.includeStdin
  | .stdout => options.includeStdout
  | .stderr => options.includeStderr
  | .other _ => false

/-- The time an event was recorded and a space; nothing for the zero time. -/
def SessionEvent.timestamp (event : SessionEvent) : String :=
  match event.createdAt with
  | some t => formatRFC3339Nano t ++ " "
  | none => ""

/-- `webTTYTextExportMarker`. -/
def exportMarker (event : Option SessionEvent) (message : String) (options : ExportOptions) :
    List Char :=
  let stamp := match event with
    | some event => if options.includeTimestamps then event.timestamp else ""
    | none => ""
  (stamp ++ "[webtty] " ++ message ++ "\n").toList

/-- `webTTYTextExportDataPrefix`. -/
def exportDataPrefix (event : SessionEvent) : List Char :=
  (event.timestamp ++ "[" ++ event.streamType.name ++ "] ").toList

/-- The terminal size in the metadata of a resize event. -/
structure TerminalSize where
  row : Nat := 0
  col : Nat := 0
  deriving DecidableEq, Repr

/-- Decode a member of the terminal size. -/
def TerminalSize.decodeMember (size : TerminalSize) (m : String × Json) : Option TerminalSize :=
  if findsField "row" m.1 then (Json.decodeUint32 size.row m.2).map ({ size with row := · })
  else if findsField "col" m.1 then (Json.decodeUint32 size.col m.2).map ({ size with col := · })
  else some size

/-- Decode the terminal size; null changes nothing. -/
def TerminalSize.decode (size : TerminalSize) : Json → Option TerminalSize
  | .null => some size
  | .object members => members.foldlM decodeMember size
  | _ => none

def decodeMetadata : Json → Option TerminalSize
  | .null => some {}
  | .object members =>
    members.foldlM (fun size m =>
      if findsField "terminal_size" m.1 then size.decode m.2 else some size) {}
  | _ => none

/-- `webTTYSessionResizeMarker`. -/
def resizeMarker (event : SessionEvent) : String :=
  match (Json.unmarshal event.metadata).bind decodeMetadata with
  | some size =>
    if 0 < size.row ∧ 0 < size.col then
      "terminal resized to " ++ toString size.col ++ "x" ++ toString size.row
    else "terminal resized"
  | none => "terminal resized"

end Events

section Markers

/-- A printable ASCII character. -/
def isPlain (c : Char) : Bool := ' ' ≤ c && c ≤ '~'

theorem length_pad (n value : Nat) : (pad n value).length = n := by
  induction n with
  | zero => rfl
  | succ n ih => simp [pad, ih]

theorem isPlain_pad {n value : Nat} {c : Char} (h : c ∈ pad n value) : isPlain c = true := by
  induction n with
  | zero => cases h
  | succ n ih =>
    obtain rfl | h := mem_cons.mp h
    · have hall : ∀ d ∈ range 10, isPlain (Nat.digitChar d) = true := by decide
      exact hall _ (mem_range.mpr (Nat.mod_lt _ (by decide)))
    · exact ih h

theorem formatRFC3339_plain (t : Int) :
    (formatRFC3339 t).toList.length = 20 ∧ ∀ c ∈ (formatRFC3339 t).toList, isPlain c = true := by
  simp only [formatRFC3339, String.toList_ofList]
  refine ⟨by simp [length_pad], fun c hc => ?_⟩
  simp only [mem_append, mem_cons, not_mem_nil, or_false] at hc
  rcases hc with (((((hc | rfl | hc) | rfl | hc) | rfl | hc) | rfl | hc) | rfl | hc) | rfl <;>
    first | exact isPlain_pad hc | rfl

theorem formatRFC3339Nano_plain (t : Int) : (formatRFC3339Nano t).toList.length ≤ 30 ∧
      ∀ c ∈ (formatRFC3339Nano t).toList, isPlain c = true := by
  obtain ⟨hlength, hplain⟩ := formatRFC3339_plain t
  obtain ⟨digits, hdigits⟩ : ∃ digits, digits =
    ((pad 9 (t % second).toNat).reverse.dropWhile (· = '0')).reverse := ⟨_, rfl⟩
  have hlengthDigits : digits.length ≤ 9 := by
    have h := (dropWhile_suffix (l := (pad 9 (t % second).toNat).reverse) (· = '0')).length_le
    rw [length_reverse, length_pad] at h
    rw [hdigits, length_reverse]
    exact h
  have hplainDigits : ∀ c ∈ digits, isPlain c = true := by
    intro c hc
    rw [hdigits, mem_reverse] at hc
    have h := (dropWhile_suffix (l := (pad 9 (t % second).toNat).reverse) (· = '0')).subset hc
    exact isPlain_pad (mem_reverse.mp h)
  simp only [formatRFC3339Nano, String.toList_ofList, ← hdigits]
  constructor
  · split_ifs
    · simp [hlength]
    · simp only [length_append, length_dropLast, hlength, length_cons,
        length_nil]
      omega
  · intro c hc
    simp only [mem_append, mem_singleton] at hc
    rcases hc with (hc | hc) | rfl
    · exact hplain c (mem_of_mem_dropLast hc)
    · split_ifs at hc
      · cases hc
      · obtain rfl | hc := mem_cons.mp hc
        · rfl
        · exact hplainDigits c hc
    · rfl

theorem SessionEvent.timestamp_plain (event : SessionEvent) :
    event.timestamp.toList.length ≤ 31 ∧ ∀ c ∈ event.timestamp.toList, isPlain c = true := by
  unfold SessionEvent.timestamp
  cases event.createdAt with
  | none => simp
  | some t =>
    obtain ⟨hlength, hplain⟩ := formatRFC3339Nano_plain t
    have hspace : " ".toList = [' '] := by decide
    simp only [String.toList_append, length_append, mem_append, hspace,
      length_singleton, mem_singleton]
    refine ⟨by omega, ?_⟩
    rintro c (hc | rfl)
    exacts [hplain c hc, rfl]

/-- A marker is one line of plain text. -/
theorem exportMarker_plain (event : Option SessionEvent) (message : String)
    (hmessage : ∀ c ∈ message.toList, isPlain c = true) (options : ExportOptions) :
    (exportMarker event message options).length ≤ message.toList.length + 41 ∧
      ∀ c ∈ exportMarker event message options, isPlain c = true ∨ c = '\n' := by
  obtain ⟨stamp, hstamp, hlength, hplain⟩ : ∃ stamp : String,
      exportMarker event message options = (stamp ++ "[webtty] " ++ message ++ "\n").toList ∧
      stamp.toList.length ≤ 31 ∧ ∀ c ∈ stamp.toList, isPlain c = true := by
    refine ⟨_, rfl, ?_⟩
    split
    next event =>
      split_ifs
      · exact event.timestamp_plain
      · simp
    next => simp
  rw [hstamp]
  simp only [String.toList_append, length_append, mem_append]
  have hlabel : ∀ c ∈ "[webtty] ".toList, isPlain c = true := all_eq_true.mp (by decide)
  refine ⟨?_, ?_⟩
  · have hfixed : "[webtty] ".toList.length = 9 ∧ "\n".toList.length = 1 := by decide
    omega
  · rintro c (((hc | hc) | hc) | hc)
    · exact .inl (hplain c hc)
    · exact .inl (hlabel c hc)
    · exact .inl (hmessage c hc)
    · exact .inr (by simpa using hc)

/-- The prefix of data of an included stream is plain text. -/
theorem exportDataPrefix_plain {event : SessionEvent} {options : ExportOptions}
    (h : options.includesStream event.streamType = true) : (exportDataPrefix event).length ≤ 40 ∧
      ∀ c ∈ exportDataPrefix event, isPlain c = true := by
  obtain ⟨hlength, hplain⟩ := event.timestamp_plain
  have hname : event.streamType.name.toList.length ≤ 6 ∧
      ∀ c ∈ event.streamType.name.toList, isPlain c = true := by
    cases hs : event.streamType with
    | other name => rw [hs] at h; cases h
    | _ => exact ⟨by decide, all_eq_true.mp (by decide)⟩
  have hopen : "[".toList = ['['] := by decide
  have hclose : "] ".toList = [']', ' '] := by decide
  simp only [exportDataPrefix, String.toList_append, length_append, mem_append, hopen,
    hclose, mem_cons, not_mem_nil, or_false, length_cons, length_nil]
  refine ⟨by omega, ?_⟩
  rintro c (((hc | rfl) | hc) | rfl | rfl)
  exacts [hplain c hc, rfl, hname.2 c hc, rfl, rfl]

end Markers

section Rendering

/-- The buffers of a rendering. -/
structure Screens where
  main : Buffer := {}
  alternate : Option Buffer := none
  detectedAlternate : Bool := false
  deriving DecidableEq, Repr

/-- The buffer of the screen that is shown. -/
def Screens.target (s : Screens) : Buffer := s.alternate.getD s.main

/-- The screens with another buffer in place of the one that is shown. -/
def Screens.setTarget (s : Screens) (b : Buffer) : Screens :=
  match s.alternate with
  | some _ => { s with alternate := some b }
  | none => { s with main := b }

/-- `b.Write(text)` under an option. -/
def Buffer.writeIf (option : Bool) (text : List Char) (b : Buffer) : Except Panic Buffer :=
  if option then b.write (encodeRunes text) else .ok b

variable (options : ExportOptions)

/-- The body of the loop over segments. -/
def renderSegment (event : SessionEvent) (s : Screens) :
    Segment → Except Panic Screens
  | .enterAlternate => do
    let main ← s.main.writeIf options.includeTerminalModes
      (exportMarker event "terminal alternate screen entered" options)
    return ⟨main, some {}, true⟩
  | .leaveAlternate => do
    let main ← s.main.writeIf options.includeTerminalModes
      (exportMarker event "terminal alternate screen left" options)
    return ⟨main, none, true⟩
  | .text value =>
    if value = [] then .ok s
    else do
      let target ← s.target.writeIf options.includeTimestamps (exportDataPrefix event)
      let target ← target.write value
      return s.setTarget target

/-- The body of the loop over events, with the plaintext that was exported for the event. -/
def renderEvent (event : SessionEvent) (plaintext : Bytes)
    (s : Screens) : Except Panic Screens :=
  if event.type = .resize then
    (s.main.writeIf options.includeResizeMarkers
      (exportMarker event (resizeMarker event) options)).map fun main => { s with main := main }
  else if event.type ≠ .data ∨ plaintext = [] ∨ ¬ options.includesStream event.streamType then .ok s
  else (terminalTextSegments plaintext).foldlM (renderSegment options event) s

/-- The loop over events; an event beyond the exported ones has no plaintext. -/
def renderEvents (options : ExportOptions) :
    List SessionEvent → List Bytes → Screens → Except Panic Screens
  | [], _, s => .ok s
  | event :: events, exported, s => do
    let s ← renderEvent options event (exported.headD []) s
    renderEvents options events exported.tail s

/-- `webTTYStripANSI`. -/
def stripANSI (value : Bytes) : List Char :=
  if h : value = [] then []
  else if value.head? = some 0x1b ∧ value.tail ≠ [] then stripANSI (consumeEscape value.tail).2
  else (decodeRune value).1 :: stripANSI (value.drop (decodeRune value).2)
termination_by value.length
decreasing_by
  · have hescape := length_consumeEscape value.tail
    have hpos := length_pos_iff.mpr h
    rw [length_tail] at hescape
    omega
  · have hwidth := decodeRune_width h
    rw [length_drop]
    omega

/-- `webTTYSessionTextExport`. -/
structure TextExport where
  detectedAlternateScreen : Bool
  text : List Char
  warnings : List String
  deriving DecidableEq, Repr

/-- The runes of the screens the text shows. -/
def Screens.shown (s : Screens) : List Char :=
  s.main.string ++
    match s.alternate with
    | some alternate =>
      if options.activeAlternateScreen then
        (if options.includeTerminalModes then
          exportMarker none "terminal alternate screen active" options else []) ++ alternate.string
      else []
    | none => []

/-- What the export makes of its screens. -/
def Screens.textExport (s : Screens) : TextExport where
  detectedAlternateScreen := s.detectedAlternate
  text := stripANSI (encodeRunes (s.shown options))
  warnings := if s.detectedAlternate then ["alternate-screen"] else []

/-- `webTTYRenderSessionTextExport`. -/
def renderSessionTextExport (events : List SessionEvent) (exported : List Bytes)
    (options : ExportOptions) : Except Panic TextExport :=
  (renderEvents options events exported {}).map (Screens.textExport options)

end Rendering

section Acts

/-- The smallest steps of a rendering. -/
inductive Act
  | enter
  | leave
  /-- A token for the main screen. -/
  | main (t : Token)
  /-- A token for the screen that is shown. -/
  | target (t : Token)
  deriving DecidableEq, Repr

/-- What an act does. -/
def Screens.act (s : Screens) : Act → Except Panic Screens
  | .enter => .ok { s with alternate := some {}, detectedAlternate := true }
  | .leave => .ok { s with alternate := none, detectedAlternate := true }
  | .main t => (s.main.apply t).map fun main => { s with main := main }
  | .target t => (s.target.apply t).map s.setTarget

/-- A run over acts. -/
def Screens.run (acts : List Act) (s : Screens) : Except Panic Screens := acts.foldlM Screens.act s

def markerActs (option : Bool) (text : List Char) : List Act :=
  if option then (lex (encodeRunes text)).map .main else []

def segmentActs (options : ExportOptions) (event : SessionEvent) : Segment → List Act
  | .enterAlternate => .enter :: markerActs options.includeTerminalModes
      (exportMarker event "terminal alternate screen entered" options)
  | .leaveAlternate => .leave :: markerActs options.includeTerminalModes
      (exportMarker event "terminal alternate screen left" options)
  | .text value =>
    if value = [] then []
    else (if options.includeTimestamps then (lex (encodeRunes (exportDataPrefix event))).map .target
      else []) ++ (lex value).map .target

def eventActs (options : ExportOptions) (event : SessionEvent) (plaintext : Bytes) : List Act :=
  if event.type = .resize then
    markerActs options.includeResizeMarkers (exportMarker event (resizeMarker event) options)
  else if event.type ≠ .data ∨ plaintext = [] ∨ ¬ options.includesStream event.streamType then []
  else (terminalTextSegments plaintext).flatMap (segmentActs options event)

def renderActs (options : ExportOptions) : List SessionEvent → List Bytes → List Act
  | [], _ => []
  | event :: events, exported =>
    eventActs options event (exported.headD []) ++ renderActs options events exported.tail

namespace Screens

@[simp] theorem target_setTarget (s : Screens) (b : Buffer) : (s.setTarget b).target = b := by
  cases h : s.alternate <;> simp [target, setTarget, h]

@[simp] theorem setTarget_setTarget (s : Screens) (b c : Buffer) :
    (s.setTarget b).setTarget c = s.setTarget c := by
  cases h : s.alternate <;> simp [setTarget, h]

@[simp] theorem setTarget_target (s : Screens) : s.setTarget s.target = s := by
  obtain ⟨main, alternate, detected⟩ := s
  cases alternate <;> rfl

theorem run_append (xs ys : List Act) (s : Screens) : s.run (xs ++ ys) = s.run xs >>= run ys :=
  foldlM_append

theorem run_cons (x : Act) (xs : List Act) (s : Screens) : s.run (x :: xs) = s.act x >>= run xs :=
  rfl

/-- Tokens for the main screen are written to it. -/
theorem run_map_main (tokens : List Token) (s : Screens) :
    s.run (tokens.map .main) =
      (tokens.foldlM Buffer.apply s.main).map fun main => { s with main := main } := by
  induction tokens generalizing s with
  | nil => rfl
  | cons t tokens ih =>
    rw [map_cons, run_cons, foldlM_cons, act]
    cases s.main.apply t with
    | error e => rfl
    | ok main => exact ih _

/-- Tokens for the screen that is shown are written to it. -/
theorem run_map_target (tokens : List Token) (s : Screens) :
    s.run (tokens.map .target) = (tokens.foldlM Buffer.apply s.target).map s.setTarget := by
  induction tokens generalizing s with
  | nil =>
    change Except.ok s = .ok (s.setTarget s.target)
    rw [setTarget_target]
  | cons t tokens ih =>
    rw [map_cons, run_cons, foldlM_cons, act]
    cases s.target.apply t with
    | error e => rfl
    | ok b =>
      refine (ih (s.setTarget b)).trans ?_
      rw [target_setTarget, show (s.setTarget b).setTarget = s.setTarget from
        funext fun c => setTarget_setTarget s b c]
      rfl

end Screens

theorem run_markerActs (option : Bool) (text : List Char) (s : Screens) :
    s.run (markerActs option text) =
      (s.main.writeIf option text).map fun main => { s with main := main } := by
  cases option
  · rfl
  · exact Screens.run_map_main _ s

theorem renderSegment_eq (options : ExportOptions) (event : SessionEvent) (s : Screens)
    (segment : Segment) :
    renderSegment options event s segment = s.run (segmentActs options event segment) := by
  cases segment with
  | enterAlternate =>
    rw [segmentActs, Screens.run_cons]
    refine Eq.trans ?_ (run_markerActs _ _ { s with alternate := some {}, detectedAlternate := true }).symm
    rw [renderSegment]
    cases s.main.writeIf _ _ <;> rfl
  | leaveAlternate =>
    rw [segmentActs, Screens.run_cons]
    refine Eq.trans ?_ (run_markerActs _ _ { s with alternate := none, detectedAlternate := true }).symm
    rw [renderSegment]
    cases s.main.writeIf _ _ <;> rfl
  | text value =>
    rw [segmentActs, renderSegment]
    split_ifs with hvalue hstamp
    · rfl
    · rw [Screens.run_append, Screens.run_map_target, Buffer.writeIf, if_pos hstamp, Buffer.write]
      cases foldlM Buffer.apply s.target (lex (encodeRunes (exportDataPrefix event))) with
      | error e => rfl
      | ok b =>
        refine Eq.trans ?_ (Screens.run_map_target (lex value) (s.setTarget b)).symm
        rw [Screens.target_setTarget]
        change (b.write value >>= _) = (b.write value).map _
        cases b.write value with
        | error e => rfl
        | ok c =>
          change Except.ok _ = Except.ok _
          rw [Screens.setTarget_setTarget]
    · rw [nil_append, Screens.run_map_target, Buffer.writeIf, if_neg hstamp]
      change (s.target.write value >>= _) = (s.target.write value).map _
      cases s.target.write value <;> rfl

theorem foldlM_run {α : Type} (acts : α → List Act) (xs : List α) (s : Screens) :
    xs.foldlM (fun s x => s.run (acts x)) s = s.run (xs.flatMap acts) := by
  induction xs generalizing s with
  | nil => rfl
  | cons x xs ih =>
    rw [foldlM_cons, flatMap_cons, Screens.run_append]
    cases s.run (acts x) with
    | error e => rfl
    | ok s' => exact ih s'

theorem renderEvent_eq (options : ExportOptions) (event : SessionEvent) (plaintext : Bytes)
    (s : Screens) :
    renderEvent options event plaintext s = s.run (eventActs options event plaintext) := by
  rw [renderEvent, eventActs]
  split_ifs
  · exact (run_markerActs _ _ s).symm
  · rfl
  · rw [← foldlM_run]
    congr 1
    funext s segment
    exact renderSegment_eq options event s segment

theorem renderEvents_eq (options : ExportOptions) (events : List SessionEvent)
    (exported : List Bytes) (s : Screens) :
    renderEvents options events exported s = s.run (renderActs options events exported) := by
  induction events generalizing exported s with
  | nil => rfl
  | cons event events ih =>
    rw [renderEvents, renderActs, Screens.run_append, renderEvent_eq]
    cases s.run (eventActs options event (exported.headD [])) with
    | error e => rfl
    | ok s' => exact ih _ s'

end Acts

end Rstream.Transcript
