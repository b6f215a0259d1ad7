import Mathlib.Tactic.IntervalCases
import Rstream.Go.JsonDecoder

/-!
# Reading written values back

The decoder reads a value without integers back from its text, whatever follows
the text, if the value does not nest too deep. So a text is written by one value
only. The decimal text of an integer is a number.
-/

namespace Rstream.Go.Json

open List Option Nat

variable {c : Char} {members : List (String × Json)} {items : List Json} {n : Nat}

section Integers

/-- The decimal text of a positive number has no leading zero. -/
theorem toDigits_head {k : Nat} (hk : 0 < k) : ∀ c ∈ (Nat.toDigits 10 k).head?, c ≠ '0' := by
  induction k using Nat.strongRecOn with
  | ind k ih =>
    by_cases hlt : k < 10
    · rw [toDigits_of_lt_base hlt]
      interval_cases k <;> simp [digitChar]
    · have hle : 10 ≤ k := not_lt.mp hlt
      rw [toDigits_of_base_le (by decide) hle,
        head?_append_of_ne_nil _ toDigits_ne_nil]
      exact ih (k / 10) (div_lt_self hk (by decide)) (div_pos hle (by decide))

theorem scanIntegral_toDigits (k : Nat) :
    scanIntegral (Nat.toDigits 10 k) = some (Nat.toDigits 10 k, []) := by
  rcases Nat.eq_zero_or_pos k with rfl | hk
  · rfl
  · have hall : ∀ c ∈ Nat.toDigits 10 k, c.isDigit = true :=
      fun c => isDigit_of_mem_toDigits (by decide) (by decide)
    have hscan : scanDigits1 (toDigits 10 k) = some (toDigits 10 k, []) := by
      obtain ⟨htake, hdrop⟩ := takeWhile_append_ends (r := []) hall nofun
      rw [append_nil] at htake hdrop
      rw [scanDigits1, scanDigits, htake, hdrop, if_neg toDigits_ne_nil]
    obtain ⟨c, t, htext⟩ := exists_cons_of_ne_nil (toDigits_ne_nil (n := k) (b := 10))
    have hc : c ≠ '0' := toDigits_head hk c (by rw [htext]; rfl)
    rw [htext] at hscan ⊢
    rw [scanIntegral_cons hc, hscan]

/-- An integral part, with or without a sign, is a number. -/
theorem scanNumber_of_integral {s : List Char}
    (h : scanSigned ['-'] scanIntegral s = some (s, [])) : scanNumber s = some (s, []) := by
  simp [scanNumber, scanThen, h, scanOptional]

theorem isNumberText_toString (n : Int) : isNumberText (toString n) = true := by
  refine decide_eq_true (scanNumber_of_integral ?_)
  cases n with
  | ofNat k =>
    change scanSigned _ _ k.repr.toList = some (k.repr.toList, [])
    rw [toList_repr]
    have hscan := scanIntegral_toDigits k
    obtain ⟨c, t, htext⟩ := exists_cons_of_ne_nil (toDigits_ne_nil (n := k) (b := 10))
    have hdigit : c.isDigit = true := isDigit_of_mem_toDigits (b := 10) (n := k) (by decide)
      (by decide) (by simp [htext])
    rw [htext] at hscan ⊢
    rw [scanSigned, if_neg, hscan]
    rintro hc
    obtain rfl : c = '-' := by simpa using hc
    exact absurd hdigit (by decide)
  | negSucc k =>
    change scanSigned _ _ ("-" ++ k.succ.repr).toList = some (("-" ++ k.succ.repr).toList, [])
    rw [String.toList_append, toList_repr]
    have hscan := scanIntegral_toDigits k.succ
    change scanSigned _ _ ('-' :: toDigits 10 k.succ) = some ('-' :: toDigits 10 k.succ, [])
    rw [scanSigned, if_pos (by decide), hscan, map_some]

/-- The decimal text of an integer has neither a fraction nor an exponent. -/
theorem toString_numerals (n : Int) : ∀ c ∈ (toString n).toList, c = '-' ∨ c.isDigit = true := by
  have hdigits : ∀ (k : Nat) (c : Char), c ∈ k.repr.toList → c.isDigit = true := by
    intro k c hc
    rw [toList_repr] at hc
    exact isDigit_of_mem_toDigits (by decide) (by decide) hc
  cases n with
  | ofNat k => exact fun c hc => .inr (hdigits k c hc)
  | negSucc k =>
    intro c hc
    change c ∈ ("-" ++ k.succ.repr).toList at hc
    rw [String.toList_append] at hc
    rcases mem_append.mp hc with hminus | hrest
    · exact .inl (by simpa using hminus)
    · exact .inr (hdigits _ c hrest)

end Integers

section Strings

theorem hexValue_hexDigit (hn : n < 16) : hexValue (hexDigit n) = some n := by
  revert n
  decide

/-- A code of four digits is read back. -/
theorem hex_digits (hn : n < 65536) :
    4096 * (n / 4096 % 16) + 256 * (n / 256 % 16) + 16 * (n / 16 % 16) + n / 1 % 16 = n := by
  omega

theorem parseUnits_unicodeEscape (hc : c.toNat < 65536) (rest : List Char) :
    parseUnits (unicodeEscape c ++ rest) =
      (parseUnits rest).map fun p => (.inr c.toNat :: p.1, p.2) := by
  simp only [unicodeEscape, cons_append, nil_append, parseUnits, codeUnit]
  rw [hexValue_hexDigit (mod_lt _ (by decide)), hexValue_hexDigit (mod_lt _ (by decide)),
    hexValue_hexDigit (mod_lt _ (by decide)), hexValue_hexDigit (mod_lt _ (by decide))]
  simp only [hex_digits hc, bind_some]

theorem parseUnits_letter {d : Char} (hc : c ≠ 'u') (hd : unescape c = some d)
    (rest : List Char) : parseUnits ('\\' :: c :: rest) =
      (parseUnits rest).map fun p => (.inl d :: p.1, p.2) := by
  rw [parseUnits, hd, bind_some]
  rintro a b c d rest heq _
  exact hc heq

theorem parseUnits_plain (hquote : c ≠ '"') (hslash : c ≠ '\\') (hc : ¬ c.toNat < 32)
    (rest : List Char) :
    parseUnits (c :: rest) = (parseUnits rest).map fun p => (.inl c :: p.1, p.2) := by
  rw [parseUnits, if_neg hquote, if_neg (by simp [hslash, hc])]
  · rintro a b c d rest heq _
    exact hslash heq
  · rintro c rest heq _
    exact hslash heq

theorem char_eq (h : c.toNat = n) : Char.ofNat n = c := by
  rw [← h, Char.ofNat_toNat]

/-- The units that stand for one character. -/
def IsUnit (c : Char) (u : Char ⊕ Nat) : Prop := u = .inl c ∨ u = .inr c.toNat

/-- A written character is read back as a unit that stands for it. -/
theorem parseUnits_quoteChar (c : Char) : ∃ u, IsUnit c u ∧ ∀ rest,
    parseUnits (quoteChar c ++ rest) = (parseUnits rest).map fun p => (u :: p.1, p.2) := by
  have hletter : ∀ letter, letter ≠ 'u' → unescape letter = some c → ∃ u, IsUnit c u ∧ ∀ rest,
      parseUnits (['\\', letter] ++ rest) =
        (parseUnits rest).map fun p => (u :: p.1, p.2) :=
    fun letter hu hc => ⟨.inl c, .inl rfl, fun rest => parseUnits_letter hu hc rest⟩
  unfold quoteChar
  split_ifs with h1 h2 h3 h4 h5 h6 h7 h8
  · exact hletter _ (by decide) (by subst h1; rfl)
  · exact hletter _ (by decide) (by subst h2; rfl)
  · exact hletter _ (by decide) (h3 ▸ rfl)
  · exact hletter _ (by decide) (h4 ▸ rfl)
  · exact hletter _ (by decide) (h5 ▸ rfl)
  · exact hletter _ (by decide) (congrArg some (char_eq h6))
  · exact hletter _ (by decide) (congrArg some (char_eq h7))
  · refine ⟨.inr c.toNat, .inr rfl, fun rest => parseUnits_unicodeEscape ?_ rest⟩
    rcases h8 with h | rfl | rfl | rfl | h | h
    · omega
    · decide
    · decide
    · decide
    · omega
    · omega
  next =>
    exact ⟨.inl c, .inl rfl, fun rest => parseUnits_plain h1 h2 (fun h => h8 (.inl h)) rest⟩

theorem isSurrogate_toNat (c : Char) : isSurrogate c.toNat = false := by
  have hvalid : c.toNat < 0xd800 ∨ 0xdfff < c.toNat ∧ c.toNat < 0x110000 := c.valid
  simp only [isSurrogate, Bool.and_eq_false_iff, decide_eq_false_iff_not]
  omega

/-- A unit that stands for a character is decoded to it. -/
theorem decodeUnits_cons {u : Char ⊕ Nat} (h : IsUnit c u)
    (rest : List (Char ⊕ Nat)) : decodeUnits (u :: rest) = c :: decodeUnits rest := by
  rcases h with rfl | rfl
  · rw [decodeUnits]
  · rcases rest with _ | ⟨_ | low, rest⟩
    all_goals simp [decodeUnits, isSurrogate_toNat, Char.ofNat_toNat]

theorem parseUnits_quoteChars (s rest : List Char) : ∃ units,
    parseUnits (s.flatMap quoteChar ++ '"' :: rest) = some (units, rest) ∧
      decodeUnits units = s := by
  induction s with
  | nil => exact ⟨[], by simp [parseUnits], rfl⟩
  | cons c s ih =>
    obtain ⟨units, hunits, hdecode⟩ := ih
    obtain ⟨u, hu, hparse⟩ := parseUnits_quoteChar c
    refine ⟨u :: units, ?_, ?_⟩
    · rw [flatMap_cons, append_assoc, hparse, hunits]
      rfl
    · rw [decodeUnits_cons hu, hdecode]

theorem parseString_quoteChars (s : String) (rest : List Char) :
    parseString (s.toList.flatMap quoteChar ++ '"' :: rest) = some (s, rest) := by
  obtain ⟨units, hunits, hdecode⟩ := parseUnits_quoteChars s.toList rest
  rw [parseString, hunits, Option.map_some, hdecode, String.ofList_toList]

end Strings

section Values

/-- The value is read back from its text, whatever follows. -/
def ReadBack (v : Json) : Prop :=
  ∀ fuel depth r, 2 * v.render.length < fuel → v.depth ≤ depth → Ends isNumeral r →
    parseValue fuel depth (v.render ++ r) = some (v, r)

theorem skipSpace_cons (hc : isJsonSpace c = false) (s : List Char) :
    skipSpace (c :: s) = c :: s := by
  simp [skipSpace, hc]

/-- A number starts with a sign or a digit. -/
theorem scanNumber_head {s t r : List Char} (h : scanNumber (c :: s) = some (t, r)) :
    c = '-' ∨ c.isDigit = true := by
  obtain ⟨p, hp, _⟩ := Option.bind_eq_some_iff.mp h
  obtain ⟨q, hq, _⟩ := Option.bind_eq_some_iff.mp hp
  rw [scanSigned] at hq
  split at hq
  next hc => exact .inl (by simpa using hc)
  · by_cases hzero : c = '0'
    · exact .inr (hzero ▸ by decide)
    · rw [scanIntegral_cons hzero] at hq
      obtain ⟨hne, heq, _⟩ := scanDigits1_eq_some hq
      by_contra hnot
      have hdigit : c.isDigit = false := Bool.eq_false_iff.mpr fun h => hnot (.inr h)
      simp [hdigit] at heq
      exact hne heq

theorem isNumberText_cons {text : String} (h : isNumberText text = true) :
    ∃ c t, text.toList = c :: t ∧ (c = '-' ∨ c.isDigit = true) := by
  have hscan := of_decide_eq_true h
  cases htext : text.toList with
  | nil => exact absurd htext (consumes_number _ _ _ hscan)
  | cons c t =>
    rw [htext] at hscan
    exact ⟨c, t, rfl, scanNumber_head hscan⟩

/-- A text starts with a character that is no space and ends nothing. -/
theorem Plain.head {v : Json} (h : Plain v) :
    ∃ c t, v.render = c :: t ∧ isJsonSpace c = false ∧ c ≠ ']' := by
  cases h with
  | null | string | array | object => exact ⟨_, _, rfl, by decide, by decide⟩
  | bool b => cases b <;> exact ⟨_, _, rfl, by decide, by decide⟩
  | number h =>
    obtain ⟨c, t, htext, hc⟩ := isNumberText_cons h
    refine ⟨c, t, by rw [render, htext], ?_, ?_⟩
    · by_contra hspace
      simp only [Bool.not_eq_false, isJsonSpace, Bool.or_eq_true, decide_eq_true_eq] at hspace
      rcases hspace with ((rfl | rfl) | rfl) | rfl <;> exact absurd hc (by decide)
    · rintro rfl
      exact absurd hc (by decide)

theorem readBack_number {text : String} (h : isNumberText text = true) :
    ReadBack (.number text) := by
  intro fuel depth r hfuel _ hr
  obtain ⟨fuel, rfl⟩ : ∃ n, fuel = n + 1 := ⟨fuel - 1, by omega⟩
  obtain ⟨c, t, htext, hc⟩ := isNumberText_cons h
  obtain ⟨d, u, hrender, hspace, _⟩ := (Plain.number h).head
  have hscan := reads_number.again (of_decide_eq_true h) r hr
  have hne : ∀ d, d ≠ '-' → d.isDigit = false → c ≠ d := by
    rintro d hminus hd rfl
    exact hc.elim hminus fun h => Bool.false_ne_true (hd.symm.trans h)
  rw [render, htext] at hrender
  cases hrender
  rw [render]
  rw [htext] at hscan ⊢
  rw [List.cons_append] at hscan ⊢
  rw [parseValue, skipSpace_cons hspace]
  simp only
  rw [if_neg (hne _ (by decide) (by decide)), if_neg (hne _ (by decide) (by decide)),
    if_neg (hne _ (by decide) (by decide)), if_neg (hne _ (by decide) (by decide)),
    if_neg (hne _ (by decide) (by decide)), if_neg (hne _ (by decide) (by decide)),
    parseNumber, hscan, Option.map_some, ← htext, String.ofList_toList]

theorem parseItems_render (hne : items ≠ []) (h : ∀ v ∈ items, ReadBack v)
    {depth : Nat} (hdepth : ∀ v ∈ items, v.depth ≤ depth) (fuel : Nat) (r : List Char)
    (hfuel : 2 * (renderItems items).length + 1 < fuel) :
    parseItems fuel depth (renderItems items ++ ']' :: r) = some (items, r) := by
  induction items generalizing fuel with
  | nil => exact absurd rfl hne
  | cons v rest ih =>
    obtain ⟨fuel, rfl⟩ : ∃ n, fuel = n + 1 := ⟨fuel - 1, by omega⟩
    simp only [List.forall_mem_cons] at h hdepth
    cases rest with
    | nil =>
      simp only [renderItems] at hfuel ⊢
      have hv := h.1 fuel depth (']' :: r) (by omega) hdepth.1 (ends_cons.mpr (by decide))
      simp (disch := decide) only [parseItems, hv, Option.bind_some, skipSpace_cons]
    | cons w rest =>
      simp only [renderItems, List.length_append, List.length_cons] at hfuel
      have hrest := ih (by simp) h.2 hdepth.2 fuel (by omega)
      have hv := h.1 fuel depth (',' :: (renderItems (w :: rest) ++ ']' :: r))
        (by omega) hdepth.1 (ends_cons.mpr (by decide))
      simp (disch := decide) only [renderItems, List.append_assoc, List.cons_append, parseItems, hv,
        Option.bind_some, skipSpace_cons, hrest, Option.map_some]

theorem expect_cons (c : Char) (s : List Char) : expect [c] (c :: s) = some s := by
  simp [expect, List.isPrefixOf]

theorem parseKey_render (key : String) (r : List Char) :
    parseKey (quoteChars key ++ ':' :: r) = some (key, r) := by
  simp (disch := decide) only [quoteChars, List.cons_append, List.append_assoc, List.nil_append,
    parseKey, skipSpace_cons, expect_cons, bind_some, parseString_quoteChars, map_some]

theorem parseMembers_render (hne : members ≠ [])
    (h : ∀ m ∈ members, ReadBack m.2) {depth : Nat} (hdepth : ∀ m ∈ members, m.2.depth ≤ depth)
    (fuel : Nat) (r : List Char) (hfuel : 2 * (renderMembers members).length + 1 < fuel) :
    parseMembers fuel depth (renderMembers members ++ '}' :: r) = some (members, r) := by
  induction members generalizing fuel with
  | nil => exact absurd rfl hne
  | cons m rest ih =>
    obtain ⟨fuel, rfl⟩ : ∃ n, fuel = n + 1 := ⟨fuel - 1, by omega⟩
    simp only [forall_mem_cons] at h hdepth
    obtain ⟨key, v⟩ := m
    have hback : ReadBack v := h.1
    cases rest with
    | nil =>
      simp only [renderMembers, length_append, length_cons] at hfuel
      have hv := hback fuel depth ('}' :: r) (by omega) hdepth.1 (ends_cons.mpr (by decide))
      simp (disch := decide) only [renderMembers, append_assoc, cons_append, parseMembers,
        parseKey_render, bind_some, hv, skipSpace_cons]
    | cons m rest =>
      simp only [renderMembers, length_append, length_cons] at hfuel
      have hrest := ih (by simp) h.2 hdepth.2 fuel (by omega)
      have hv := hback fuel depth (',' :: (renderMembers (m :: rest) ++ '}' :: r)) (by omega)
        hdepth.1 (ends_cons.mpr (by decide))
      simp (disch := decide) only [renderMembers, append_assoc, cons_append, parseMembers,
        parseKey_render, bind_some, hv, skipSpace_cons, hrest, map_some]

theorem renderItems_head (hne : items ≠ []) (h : ∀ v ∈ items, Plain v)
    (r : List Char) : (skipSpace (renderItems items ++ r)).head? ≠ some ']' := by
  have hrender : ∃ v ∈ items, ∃ u, renderItems items = v.render ++ u := by
    match items, hne with
    | [v], _ => exact ⟨v, by simp, [], by simp [renderItems]⟩
    | v :: w :: rest, _ => exact ⟨v, by simp, _, rfl⟩
  obtain ⟨v, hv, u, hu⟩ := hrender
  obtain ⟨c, t, hc, hspace, hclose⟩ := (h v hv).head
  rw [hu, hc, append_assoc, cons_append, skipSpace_cons hspace]
  simpa using hclose

theorem renderMembers_head (hne : members ≠ []) (r : List Char) :
    (skipSpace (renderMembers members ++ r)).head? ≠ some '}' := by
  have hquote : isJsonSpace '"' = false := by decide
  match members, hne with
  | [(key, v)], _ => simp [renderMembers, quoteChars, skipSpace_cons hquote]
  | (key, v) :: m :: rest, _ => simp [renderMembers, quoteChars, skipSpace_cons hquote]

theorem Plain.readBack {v : Json} (h : Plain v) : ReadBack v := by
  induction h with
  | null =>
    intro fuel depth r hfuel _ _
    obtain ⟨fuel, rfl⟩ : ∃ n, fuel = n + 1 := ⟨fuel - 1, by omega⟩
    rfl
  | bool b =>
    intro fuel depth r hfuel _ _
    obtain ⟨fuel, rfl⟩ : ∃ n, fuel = n + 1 := ⟨fuel - 1, by omega⟩
    cases b <;> rfl
  | number h => exact readBack_number h
  | string s =>
    intro fuel depth r hfuel _ _
    obtain ⟨fuel, rfl⟩ : ∃ n, fuel = n + 1 := ⟨fuel - 1, by omega⟩
    have hs := parseString_quoteChars s r
    simp (disch := decide) only [render, quoteChars, List.cons_append, List.append_assoc,
      List.nil_append, parseValue, skipSpace_cons, hs, map_some]
    rfl
  | @array items hplain ih =>
    intro fuel depth r hfuel hdepth _
    obtain ⟨fuel, rfl⟩ : ∃ n, fuel = n + 1 := ⟨fuel - 1, by omega⟩
    obtain ⟨depth, rfl⟩ : ∃ n, depth = n + 1 := ⟨depth - 1, by simp [Json.depth] at hdepth; omega⟩
    by_cases hne : items = []
    · subst hne
      rfl
    · simp only [render, length_cons, length_append] at hfuel
      have hitems := parseItems_render hne ih
        (depthItems_le.mp (le_of_succ_le_succ hdepth)) fuel r (by omega)
      have hhead := renderItems_head hne hplain (']' :: r)
      simp (disch := decide) only [render, cons_append, append_assoc, nil_append, parseValue,
        skipSpace_cons, Nat.add_sub_cancel, hitems, if_neg hhead, map_some]
      rfl
  | @object members hplain ih =>
    intro fuel depth r hfuel hdepth _
    obtain ⟨fuel, rfl⟩ : ∃ n, fuel = n + 1 := ⟨fuel - 1, by omega⟩
    obtain ⟨depth, rfl⟩ : ∃ n, depth = n + 1 := ⟨depth - 1, by simp [Json.depth] at hdepth; omega⟩
    by_cases hne : members = []
    · subst hne
      rfl
    · simp only [render, length_cons, length_append] at hfuel
      have hmembers := parseMembers_render hne ih
        (depthMembers_le.mp (le_of_succ_le_succ hdepth)) fuel r (by omega)
      have hhead := renderMembers_head hne ('}' :: r)
      simp (disch := decide) only [render, cons_append, append_assoc, nil_append, parseValue,
        skipSpace_cons, Nat.add_sub_cancel, hmembers, if_neg hhead, map_some]
      rfl

/-- A text is the text of one plain value. -/
theorem render_injOn : Set.InjOn render {v | Plain v} := by
  intro v hv w hw h
  have hend : Ends isNumeral [] := nofun
  have hv' := hv.readBack (2 * v.render.length + 1) (max v.depth w.depth) [] (by omega)
    (le_max_left _ _) hend
  have hw' := hw.readBack (2 * w.render.length + 1) (max v.depth w.depth) [] (by omega)
    (le_max_right _ _) hend
  rw [h] at hv'
  simpa using hv'.symm.trans hw'

/-- Valid UTF-8 is decoded as it is. -/
theorem decodeText_utf8 (s : String) : decodeText (utf8 s) = s.toList := by
  have hbytes : (⟨(utf8 s).toArray⟩ : ByteArray) = s.toUTF8 := by
    simp [utf8]
  have hvalid : String.fromUTF8? s.toUTF8 = some s := by
    simp only [String.fromUTF8?, String.toUTF8_eq_toByteArray, dite_none_right_eq_some]
    exact ⟨s.isValidUTF8, rfl⟩
  rw [decodeText, hbytes, hvalid]

end Values

end Rstream.Go.Json
