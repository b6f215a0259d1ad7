import Mathlib.Data.List.TakeWhile
import Rstream.WebTTY.Message

/-!
# Segments of a recorded payload

The scanner of `cmd/webtty_sessions.go` that cuts the payload of a recorded event at
the sequences that enter or leave the alternate screen. It resumes behind every other
private mode sequence without keeping what it has passed, so the segments hold the
whole payload only when there is no such sequence, or when nothing was kept at all.
-/

namespace Rstream.Transcript

open WebTTY List

variable {value after rest before : Bytes}

section Scanner

/-- `webTTYTerminalTextSegment`. -/
inductive Segment
  | text (value : Bytes)
  | enterAlternate
  | leaveAlternate
  deriving DecidableEq, Repr

/-- The introducer of a private mode sequence, `ESC [ ?`. -/
def introducer : Bytes := [0x1b, 0x5b, 0x3f]

/-- What stands before the first introducer, and what follows it. -/
def cutIntroducer : Bytes → Option (Bytes × Bytes)
  | [] => none
  | b :: rest =>
    if introducer <+: b :: rest then some ([], rest.drop 2)
    else (cutIntroducer rest).map fun cut => (b :: cut.1, cut.2)

/-- A byte of the modes of a private sequence. -/
def isModeByte (b : UInt8) : Bool := (0x30 ≤ b && b ≤ 0x39) || b == 0x3b || b == 0x3a

/-- `strings.FieldsFunc` with the separators of parameters. -/
def fields (value : Bytes) : List Bytes :=
  (value.splitOnP fun b => b == 0x3b || b == 0x3a).filter (· ≠ [])

/-- `webTTYContainsAlternateScreenMode`: one of the modes is 47, 1047 or 1049. -/
def containsAlternateScreenMode (modes : Bytes) : Bool :=
  (fields modes).any fun part =>
    part = [0x34, 0x37] || part = [0x31, 0x30, 0x34, 0x37] || part = [0x31, 0x30, 0x34, 0x39]

/-- What an introducer introduces. -/
inductive Sequence
  /-- The modes are not followed by `h` or `l`. -/
  | malformed
  /-- Modes of no interest; `rest` follows the sequence. -/
  | mode (rest : Bytes)
  /-- A switch of the screen, the sequence as a whole, and what follows it. -/
  | switch (enter : Bool) (text rest : Bytes)
  deriving DecidableEq, Repr

/-- The sequence whose introducer precedes `after`. -/
def sequence (after : Bytes) : Sequence :=
  let modes := after.takeWhile isModeByte
  match after.dropWhile isModeByte with
  | [] => .malformed
  | final :: rest =>
    if final ≠ 0x68 ∧ final ≠ 0x6c then .malformed
    else if containsAlternateScreenMode modes then
      .switch (final = 0x68) (introducer ++ modes ++ [final]) rest
    else .mode rest

def switchSegment (enter : Bool) : Segment := if enter then .enterAlternate else .leaveAlternate

theorem length_of_cutIntroducer
    (h : cutIntroducer value = some (before, after)) : after.length + 3 ≤ value.length := by
  induction value generalizing before with
  | nil => cases h
  | cons b rest ih =>
    rw [cutIntroducer] at h
    split at h
    next hp =>
      have hlength := hp.length_le
      cases h
      simp only [introducer, length_cons, length_nil, length_drop] at hlength ⊢
      omega
    next =>
      obtain ⟨cut, hcut, heq⟩ := Option.map_eq_some_iff.mp h
      cases heq
      have := ih hcut
      simp only [length_cons]
      omega

/-- A sequence that is complete has a body without escapes. -/
theorem sequence_cases (after : Bytes) :
    sequence after = .malformed ∨
      ∃ body rest, after = body ++ rest ∧ body ≠ [] ∧ 0x1b ∉ body ∧
        (sequence after = .mode rest ∨
          ∃ enter, sequence after = .switch enter (introducer ++ body) rest) := by
  have hsplit := takeWhile_append_dropWhile (p := isModeByte) (l := after)
  have hmodes : (0x1b : UInt8) ∉ after.takeWhile isModeByte := fun hmem =>
    absurd (mem_takeWhile_imp hmem) (by decide)
  cases hdrop : after.dropWhile isModeByte with
  | nil =>
    left
    simp only [sequence, hdrop]
  | cons final rest =>
    by_cases hfinal : final ≠ 0x68 ∧ final ≠ 0x6c
    · left
      simp only [sequence, hdrop]
      rw [if_pos hfinal]
    · right
      refine ⟨after.takeWhile isModeByte ++ [final], rest, ?_, by simp, ?_, ?_⟩
      · rw [hdrop] at hsplit
        simp [hsplit]
      · rw [mem_append, not_or, mem_singleton]
        exact ⟨hmodes, fun heq => hfinal (heq ▸ by decide)⟩
      · simp only [sequence, hdrop]
        rw [if_neg hfinal]
        split_ifs
        · exact .inr ⟨_, by rw [append_assoc]⟩
        · exact .inl rfl

theorem sequence_mode (h : sequence after = .mode rest) :
    ∃ body, after = body ++ rest ∧ body ≠ [] ∧ 0x1b ∉ body := by
  obtain hm | ⟨body, rest', hafter, hne, hesc, hm | ⟨enter, hs⟩⟩ := sequence_cases after
  · rw [hm] at h
    cases h
  · rw [hm] at h
    cases h
    exact ⟨body, hafter, hne, hesc⟩
  · rw [hs] at h
    cases h

theorem sequence_switch {text : Bytes} {enter : Bool}
    (h : sequence after = .switch enter text rest) :
    ∃ body, after = body ++ rest ∧ text = introducer ++ body ∧ 0x1b ∉ body := by
  obtain hm | ⟨body, rest', hafter, -, hesc, hm | ⟨enter', hs⟩⟩ := sequence_cases after
  · rw [hm] at h
    cases h
  · rw [hm] at h
    cases h
  · rw [hs] at h
    cases h
    exact ⟨body, hafter, rfl, hesc⟩

/-- The loop of `webTTYTerminalTextSegments`: the segments it appends, and the bytes
from its last offset on. -/
def scan (value : Bytes) : List Segment × Bytes :=
  match h : cutIntroducer value with
  | none => ([], value)
  | some (before, after) =>
    match hs : sequence after with
    -- the scan goes on behind `ESC [`
    | .malformed => scan (0x3f :: after)
    | .mode rest => scan rest
    | .switch enter _ rest =>
      let kept := scan rest
      ((if before = [] then [] else [.text before]) ++ switchSegment enter :: kept.1, kept.2)
termination_by value.length
decreasing_by
  all_goals have hlength := length_of_cutIntroducer h
  · simp only [length_cons]
    omega
  · obtain ⟨text, rfl, -⟩ := sequence_mode hs
    simp only [length_append] at hlength
    omega
  · obtain ⟨body, rfl, -⟩ := sequence_switch hs
    simp only [length_append] at hlength
    omega

/-- `webTTYTerminalTextSegments`. -/
def terminalTextSegments (value : Bytes) : List Segment :=
  let kept := scan value
  let out := kept.1 ++ if kept.2 = [] then [] else [.text kept.2]
  if out = [] then [.text value] else out

end Scanner

section Switches

/-- The switches of the screen in a payload, in order. -/
def switches : Bytes → List Bytes
  | [] => []
  | b :: rest =>
    if introducer <+: b :: rest then
      match sequence (rest.drop 2) with
      | .switch _ text _ => text :: switches rest
      | _ => switches rest
    else switches rest

/-- The segments in order, with the text of its switch in place of each one that is not text. -/
def restore : List Segment → List Bytes → Bytes
  | [], _ => []
  | .text value :: rest, texts => value ++ restore rest texts
  | _ :: rest, texts => texts.headD [] ++ restore rest texts.tail

/-- An introducer occurs in the payload, and `after` follows it. -/
def Occurs (value after : Bytes) : Prop := ∃ before, value = before ++ introducer ++ after

/-- An introducer is not in the way of what starts with another byte. -/
theorem not_introducer_start {b : UInt8} (hb : b ≠ 0x1b) : ¬ introducer <+: b :: rest := by
  rw [introducer, cons_prefix_cons]
  exact fun h => hb h.1.symm

theorem occurs_cons {b : UInt8} :
    Occurs (b :: rest) after ↔
      (introducer <+: b :: rest ∧ rest.drop 2 = after) ∨ Occurs rest after := by
  constructor
  · rintro ⟨before, h⟩
    cases before with
    | nil =>
      left
      simp only [introducer, nil_append, cons_append, cons.injEq] at h
      obtain ⟨rfl, rfl⟩ := h
      exact ⟨⟨after, rfl⟩, rfl⟩
    | cons c before =>
      right
      simp only [cons_append, cons.injEq] at h
      exact ⟨before, h.2⟩
  · rintro (⟨⟨tail, htail⟩, rfl⟩ | ⟨before, rfl⟩)
    · simp only [introducer, cons_append, nil_append, cons.injEq] at htail
      obtain ⟨rfl, rfl⟩ := htail
      exact ⟨[], rfl⟩
    · exact ⟨b :: before, rfl⟩

theorem occurs_nil : ¬ Occurs [] after := by
  rintro ⟨before, h⟩
  simp [introducer] at h

/-- Bytes without an escape hide no introducer. -/
theorem occurs_append (text : Bytes) (h : 0x1b ∉ text) :
    Occurs (text ++ rest) after ↔ Occurs rest after := by
  induction text with
  | nil => rfl
  | cons b text ih =>
    rw [mem_cons, not_or] at h
    rw [cons_append, occurs_cons, ih h.2,
      or_iff_right fun hp => not_introducer_start (Ne.symm h.1) hp.1]

theorem switches_append (text : Bytes) (h : 0x1b ∉ text) :
    switches (text ++ rest) = switches rest := by
  induction text with
  | nil => rfl
  | cons b text ih =>
    rw [mem_cons, not_or] at h
    rw [cons_append, switches, if_neg (not_introducer_start (Ne.symm h.1)), ih h.2]

/-- Without a cut there is no introducer, and no switch. -/
theorem cutIntroducer_none (h : cutIntroducer value = none) :
    (∀ after, ¬ Occurs value after) ∧ switches value = [] := by
  induction value with
  | nil => exact ⟨fun _ => occurs_nil, rfl⟩
  | cons b rest ih =>
    rw [cutIntroducer] at h
    split at h
    next => cases h
    next hp =>
      obtain ⟨hnone, hswitches⟩ := ih (Option.map_eq_none_iff.mp h)
      refine ⟨fun after => ?_, by rw [switches, if_neg hp, hswitches]⟩
      rw [occurs_cons, or_iff_right fun h => hp h.1]
      exact hnone after

/-- The switches from the first introducer on. -/
def switchesFrom (after : Bytes) : List Bytes :=
  match sequence after with
  | .switch _ text _ => text :: switches after
  | _ => switches after

/-- The first introducer is the first one, and the others come after it. -/
theorem cutIntroducer_some (h : cutIntroducer value = some (before, after)) :
    value = before ++ introducer ++ after ∧
      (∀ c, Occurs value c ↔ c = after ∨ Occurs after c) ∧
      switches value = switchesFrom after := by
  induction value generalizing before with
  | nil => cases h
  | cons b rest ih =>
    rw [cutIntroducer] at h
    split at h
    next hp =>
      cases h
      obtain ⟨after, hafter⟩ := id hp
      simp only [introducer, cons_append, nil_append, cons.injEq] at hafter
      obtain ⟨rfl, rfl⟩ := hafter
      refine ⟨rfl, fun c => ?_, ?_⟩
      · rw [occurs_cons, show (0x5b :: 0x3f :: after : Bytes) = [0x5b, 0x3f] ++ after from rfl,
          occurs_append _ (by decide)]
        exact or_congr ⟨fun h => h.2.symm, fun h => ⟨hp, h.symm⟩⟩ Iff.rfl
      · have hrest : switches (0x5b :: 0x3f :: after) = switches after :=
          switches_append [0x5b, 0x3f] (by decide)
        rw [switches, if_pos hp, hrest]
        rfl
    next hp =>
      obtain ⟨⟨before', after'⟩, hcut, heq⟩ := Option.map_eq_some_iff.mp h
      cases heq
      obtain ⟨hvalue, hoccurs, hswitches⟩ := ih hcut
      refine ⟨by rw [hvalue]; rfl, fun c => ?_, by rw [switches, if_neg hp, hswitches]⟩
      rw [occurs_cons, or_iff_right fun h => hp h.1, hoccurs]

/-- One turn of the loop. -/
theorem scan_some (h : cutIntroducer value = some (before, after)) :
    scan value =
      match sequence after with
      | .malformed => scan (0x3f :: after)
      | .mode rest => scan rest
      | .switch enter _ rest =>
        ((if before = [] then [] else [.text before]) ++ switchSegment enter :: (scan rest).1,
          (scan rest).2) := by
  rw [scan]
  split
  next hnone => rw [h] at hnone; cases hnone
  next heq =>
    rw [h] at heq
    cases heq
    split <;> rename_i heq <;> simp only [heq]

theorem scan_none (h : cutIntroducer value = none) : scan value = ([], value) := by
  rw [scan]
  split
  · rfl
  · next heq => rw [h] at heq; cases heq

end Switches

section Losses

/-- An introducer is followed by a switch of the screen. -/
def IsSwitch (after : Bytes) : Prop := ∃ enter text rest, sequence after = .switch enter text rest

/-- What the loop keeps, with the switches put back. -/
def kept (value : Bytes) : Bytes := restore (scan value).1 (switches value) ++ (scan value).2

/-- The cases of a scan: where it goes on, and what it keeps of what it has passed. -/
inductive Step (value : Bytes) : Prop
  | stop (hnone : ∀ c, ¬ Occurs value c) (hscan : scan value = ([], value))
  /-- Some other sequence: the scan goes on inside it or behind it, and keeps nothing. -/
  | skip (after rest : Bytes) (hshort : rest.length < value.length)
      (hafter : ¬ IsSwitch after) (hend : rest = [] ↔ sequence after = .mode [])
      (hoccurs : ∀ c, Occurs value c ↔ c = after ∨ Occurs rest c)
      (hswitches : switches value = switches rest) (hscan : scan value = scan rest)
  | switch (before text after rest : Bytes) (enter : Bool)
      (hvalue : value = before ++ text ++ rest) (htext : text ≠ [])
      (hshort : rest.length < value.length) (hafter : IsSwitch after)
      (hoccurs : ∀ c, Occurs value c ↔ c = after ∨ Occurs rest c)
      (hswitches : switches value = text :: switches rest)
      (hscan : scan value =
        ((if before = [] then [] else [.text before]) ++ switchSegment enter :: (scan rest).1,
          (scan rest).2))

theorem scan_step (value : Bytes) : Step value := by
  cases hcut : cutIntroducer value with
  | none => exact .stop (cutIntroducer_none hcut).1 (scan_none hcut)
  | some cut =>
    obtain ⟨before, after⟩ := cut
    obtain ⟨hvalue, hoccurs, hswitches⟩ := cutIntroducer_some hcut
    have hshort := length_of_cutIntroducer hcut
    have hscan := scan_some hcut
    obtain hs | ⟨body, rest, rfl, hne, hesc, hs | ⟨enter, hs⟩⟩ := sequence_cases after
    · refine .skip after (0x3f :: after) (by simp only [length_cons]; omega) ?_ ?_ ?_ ?_ ?_
      · rintro ⟨enter, text, rest, h⟩
        rw [hs] at h
        cases h
      · rw [hs]
        exact iff_of_false (cons_ne_nil _ _) nofun
      · intro c
        rw [hoccurs c, ← occurs_append [0x3f] (by decide)]
        rfl
      · rw [hswitches, switchesFrom, hs, ← switches_append [0x3f] (by decide)]
        rfl
      · rw [hscan, hs]
    · refine .skip (body ++ rest) rest ?_ ?_ ?_ ?_ ?_ ?_
      · simp only [length_append] at hshort
        omega
      · rintro ⟨enter, text, rest, h⟩
        rw [hs] at h
        cases h
      · rw [hs]
        exact ⟨fun h => by rw [h], fun h => by cases h; rfl⟩
      · intro c
        rw [hoccurs c, occurs_append _ hesc]
      · rw [hswitches, switchesFrom, hs, switches_append _ hesc]
      · rw [hscan, hs]
    · refine .switch before (introducer ++ body) (body ++ rest) rest enter ?_ (by simp [introducer])
        ?_ ⟨_, _, _, hs⟩ ?_ ?_ ?_
      · rw [hvalue]
        simp only [append_assoc]
      · simp only [length_append] at hshort
        omega
      · intro c
        rw [hoccurs c, occurs_append _ hesc]
      · rw [hswitches, switchesFrom, hs, switches_append _ hesc]
      · rw [hscan, hs]

/-- A property of payloads that follows the scan. -/
theorem scan_induction {motive : Bytes → Prop}
    (h : ∀ value, (∀ rest : Bytes, rest.length < value.length → motive rest) → motive value)
    (value : Bytes) : motive value := by
  induction hn : value.length using Nat.strong_induction_on generalizing value with
  | _ n ih => exact h value fun rest hrest => ih rest.length (hn ▸ hrest) rest rfl

/-- A switch and the text before it are put back. -/
theorem kept_switch {text : Bytes} {enter : Bool}
    (hswitches : switches value = text :: switches rest) (hscan : scan value =
      ((if before = [] then [] else [.text before]) ++ switchSegment enter :: (scan rest).1,
        (scan rest).2)) : kept value = before ++ text ++ kept rest := by
  simp only [kept, hswitches, hscan]
  cases enter <;> by_cases hb : before = [] <;> simp [hb, restore, switchSegment]

/-- The scan keeps at most the payload, and less when it skips a sequence. -/
theorem length_kept (value : Bytes) : (kept value).length ≤ value.length ∧
      ((∃ c, Occurs value c ∧ ¬ IsSwitch c) → (kept value).length < value.length) := by
  induction value using scan_induction with
  | _ value ih =>
    cases scan_step value with
    | stop hnone hscan =>
      refine ⟨by simp [kept, hscan, restore], ?_⟩
      rintro ⟨c, hc, -⟩
      exact absurd hc (hnone c)
    | skip after rest hshort hafter hend hoccurs hswitches hscan =>
      have hkept : kept value = kept rest := by simp only [kept, hswitches, hscan]
      have hle := (ih rest hshort).1
      rw [hkept]
      exact ⟨by omega, fun _ => by omega⟩
    | switch before text after rest enter hvalue htext hshort hafter hoccurs hswitches hscan =>
      have hkept := kept_switch hswitches hscan
      obtain ⟨hle, hlt⟩ := ih rest hshort
      rw [hkept, hvalue]
      simp only [length_append]
      refine ⟨by omega, ?_⟩
      rintro ⟨c, hc, hnot⟩
      obtain rfl | hc := (hoccurs c).mp (hvalue ▸ hc)
      · exact absurd hafter hnot
      · have := hlt ⟨c, hc, hnot⟩
        omega

/-- The scan keeps the whole payload when it skips nothing. -/
theorem kept_eq (h : ∀ c, Occurs value c → IsSwitch c) : kept value = value := by
  induction value using scan_induction with
  | _ value ih =>
    cases scan_step value with
    | stop hnone hscan => simp [kept, hscan, restore]
    | skip after rest hshort hafter hend hoccurs hswitches hscan =>
      exact absurd (h after ((hoccurs after).mpr (.inl rfl))) hafter
    | switch before text after rest enter hvalue htext hshort hafter hoccurs hswitches hscan =>
      rw [kept_switch hswitches hscan,
        ih rest hshort fun c hc => h c ((hoccurs c).mpr (.inr hc)), ← hvalue]

/-- The scan keeps the payload only when it skips nothing. -/
theorem kept_eq_iff : kept value = value ↔ ∀ c, Occurs value c → IsSwitch c := by
  refine ⟨fun h c hc => ?_, kept_eq⟩
  by_contra hnot
  have hlt := (length_kept value).2 ⟨c, hc, hnot⟩
  rw [h] at hlt
  exact lt_irrefl _ hlt

/-- The scan is left with nothing when it skips every sequence and the last ends the payload. -/
theorem scan_eq_nil_iff :
    scan value = ([], []) ↔
      value = [] ∨ (∀ c, Occurs value c → ¬ IsSwitch c) ∧
        ∃ c, Occurs value c ∧ sequence c = .mode [] := by
  induction value using scan_induction with
  | _ value ih =>
    cases scan_step value with
    | stop hnone hscan =>
      rw [hscan]
      simp only [Prod.mk.injEq, true_and]
      refine ⟨.inl, ?_⟩
      rintro (h | ⟨-, c, hc, -⟩)
      · exact h
      · exact absurd hc (hnone c)
    | skip after rest hshort hafter hend hoccurs hswitches hscan =>
      have hvalue : value ≠ [] := by
        rintro rfl
        cases hshort
      rw [hscan, ih rest hshort, or_iff_right hvalue]
      simp only [hoccurs, or_imp, forall_and, forall_eq, hafter, not_false_eq_true, true_and,
        or_and_right, exists_or, exists_eq_left, ← hend]
      by_cases hrest : rest = []
      · subst hrest
        simp [occurs_nil]
      · simp [hrest]
    | switch before text after rest enter hvalue htext hshort hafter hoccurs hswitches hscan =>
      rw [hscan]
      refine ⟨fun h => by simp at h, ?_⟩
      rintro (rfl | ⟨hnot, -⟩)
      · cases hshort
      · exact absurd hafter (hnot after ((hoccurs after).mpr (.inl rfl)))

theorem restore_append_text (segments : List Segment) (texts : List Bytes) (value : Bytes) :
    restore (segments ++ [.text value]) texts = restore segments texts ++ value := by
  induction segments generalizing texts with
  | nil => simp [restore]
  | cons s rest ih => cases s <;> simp [restore, ih]

/-- The segments give back what the scan keeps, or the payload when it keeps nothing. -/
theorem restore_terminalTextSegments (value : Bytes) :
    restore (terminalTextSegments value) (switches value) =
      if scan value = ([], []) then value else kept value := by
  simp only [terminalTextSegments]
  by_cases htail : (scan value).2 = []
  · by_cases hsegments : (scan value).1 = []
    · rw [if_pos (Prod.ext hsegments htail)]
      simp [hsegments, htail, restore]
    · have hscan : scan value ≠ ([], []) := fun h => hsegments (congrArg Prod.fst h)
      simp [hsegments, htail, hscan, kept]
  · have hscan : scan value ≠ ([], []) := fun h => htail (congrArg Prod.snd h)
    simp [htail, hscan, kept, restore_append_text]

/-- Putting the switches back gives the payload exactly when every introducer belongs to
one, or when none does and the last sequence ends the payload. -/
theorem restore_terminalTextSegments_eq_iff (value : Bytes) :
    restore (terminalTextSegments value) (switches value) = value ↔
      (∀ after, Occurs value after → IsSwitch after) ∨
        ((∀ after, Occurs value after → ¬ IsSwitch after) ∧
          ∃ after, Occurs value after ∧ sequence after = .mode []) := by
  rw [restore_terminalTextSegments]
  split_ifs with hnil
  · rw [scan_eq_nil_iff] at hnil
    refine iff_of_true rfl ?_
    obtain rfl | h := hnil
    · exact .inl fun _ h => absurd h occurs_nil
    · exact .inr h
  · rw [scan_eq_nil_iff, not_or] at hnil
    rw [kept_eq_iff, or_iff_left hnil.2]

/-- The text before a cursor mode sequence is lost. -/
theorem restore_terminalTextSegments_cursor :
    let value : Bytes := [0x61, 0x62, 0x63, 0x1b, 0x5b, 0x3f, 0x32, 0x35, 0x68, 0x64]
    switches value = [] ∧ terminalTextSegments value = [.text [0x64]] ∧
      restore (terminalTextSegments value) (switches value) ≠ value := by
  decide +kernel

end Losses

end Rstream.Transcript
