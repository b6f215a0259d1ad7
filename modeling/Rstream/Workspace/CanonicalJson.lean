import Mathlib.Data.List.Sort
import Mathlib.Data.String.Basic
import Rstream.Go.JsonRoundTrip

/-!
# Canonical JSON

The encoding that every signature and fingerprint of a workspace is made over. The
text of a value is that of its normal form: null members are dropped, keys are
sorted and integers are numbers. Two values with one text have the same normal
form, so the strings signed as members of an object are those in the text.
-/

namespace Rstream.Workspace

open Go List Json

variable {members : List (String × Json)} {text : String} {v : Json}
  {texts : List (Except String (List Char))} {parts : List (List Char)}

/-- The value is `nil`. -/
def isNull : Json → Bool
  | .null => true
  | _ => false

/-- Write texts with commas in between, up to the first error. -/
def writeAll : List (Except String (List Char)) → Except String (List Char)
  | [] => .ok []
  | [text] => text
  | text :: next :: rest =>
    match text with
    | .error err => .error err
    | .ok text => (writeAll (next :: rest)).map fun texts => text ++ ',' :: texts

/-- A member of an object after its key. -/
def writeMember (key : String) (text : Except String (List Char)) : Except String (List Char) :=
  text.map fun text => quoteChars key ++ ':' :: text

mutual

/-- `workspaceCanonicalJSON`, as it is written to its buffer. -/
def canonicalChars : Json → Except String (List Char)
  | .null => .ok ['n', 'u', 'l', 'l']
  | .string s => .ok (quoteChars s)
  | .bool true => .ok ['t', 'r', 'u', 'e']
  | .bool false => .ok ['f', 'a', 'l', 's', 'e']
  | .int n => .ok (toString n).toList
  | .number text =>
    if text.toList.any fun c => c = '.' || c = 'e' || c = 'E' then
      .error ("unsupported canonical JSON number " ++ quote text)
    else .ok text.toList
  | .object members =>
    (writeAll (((canonicalMembers members).insertionSort fun a b => a.1 ≤ b.1).map
      fun m => writeMember m.1 m.2)).map fun texts => '{' :: (texts ++ ['}'])
  | .array items => (writeAll (canonicalItems items)).map fun texts => '[' :: (texts ++ [']'])

/-- The texts of the items of an array. -/
def canonicalItems : List Json → List (Except String (List Char))
  | [] => []
  | v :: rest => canonicalChars v :: canonicalItems rest

/-- The texts of the members of an object that are not null. -/
def canonicalMembers : List (String × Json) → List (String × Except String (List Char))
  | [] => []
  | (key, v) :: rest =>
    if isNull v then canonicalMembers rest else (key, canonicalChars v) :: canonicalMembers rest

end

def workspaceCanonicalJSON (v : Json) : Except String String := (canonicalChars v).map String.ofList

mutual

/-- The value that the canonical text is the plain text of. -/
def normal : Json → Json
  | .int n => .number (toString n)
  | .array items => .array (normalItems items)
  | .object members => .object ((normalMembers members).insertionSort fun a b => a.1 ≤ b.1)
  | v => v

/-- The normal forms of the items of an array. -/
def normalItems : List Json → List Json
  | [] => []
  | v :: rest => normal v :: normalItems rest

/-- The normal forms of the members of an object that are not null. -/
def normalMembers : List (String × Json) → List (String × Json)
  | [] => []
  | (key, v) :: rest =>
    if isNull v then normalMembers rest else (key, normal v) :: normalMembers rest

end

/-- The members of an object that are not null. -/
def present (members : List (String × Json)) : List (String × Json) :=
  members.filter fun m => !isNull m.2

theorem present_cons (m : String × Json) (rest : List (String × Json)) :
    present (m :: rest) = if isNull m.2 then present rest else m :: present rest := by
  rw [present, filter_cons]
  cases isNull m.2 <;> rfl

theorem canonicalItems_eq (items : List Json) : canonicalItems items = items.map canonicalChars := by
  induction items with
  | nil => rfl
  | cons v rest ih => exact congrArg (canonicalChars v :: ·) ih

theorem normalItems_eq (items : List Json) : normalItems items = items.map normal := by
  induction items with
  | nil => rfl
  | cons v rest ih => exact congrArg (normal v :: ·) ih

theorem canonicalMembers_eq (members : List (String × Json)) :
    canonicalMembers members = (present members).map fun m => (m.1, canonicalChars m.2) := by
  induction members with
  | nil => rfl
  | cons m rest ih =>
    change (if isNull m.2 then canonicalMembers rest
      else (m.1, canonicalChars m.2) :: canonicalMembers rest) = _
    rw [ih, present_cons]
    split <;> rfl

theorem normalMembers_eq (members : List (String × Json)) :
    normalMembers members = (present members).map fun m => (m.1, normal m.2) := by
  induction members with
  | nil => rfl
  | cons m rest ih =>
    change (if isNull m.2 then normalMembers rest
      else (m.1, normal m.2) :: normalMembers rest) = _
    rw [ih, present_cons]
    split <;> rfl

/-- The members of an object in the order they are written. -/
def ordered (members : List (String × Json)) : List (String × Json) :=
  (present members).insertionSort fun a b => a.1 ≤ b.1

theorem mem_ordered {m : String × Json} :
    m ∈ ordered members ↔ m ∈ members ∧ isNull m.2 = false := by
  simp [ordered, present]

/-- Sorting by key does not depend on what stands for the values. -/
theorem sort_present {β : Type} (f : Json → β) (members : List (String × Json)) :
    ((present members).map fun m => (m.1, f m.2)).insertionSort (fun a b => a.1 ≤ b.1) =
      (ordered members).map fun m => (m.1, f m.2) :=
  (map_insertionSort (fun a b : String × Json => a.1 ≤ b.1)
    (fun a b : String × β => a.1 ≤ b.1) (fun m => (m.1, f m.2)) (present members)
    fun _ _ _ _ => Iff.rfl).symm

theorem canonicalChars_array (items : List Json) :
    canonicalChars (.array items) =
      (writeAll (items.map canonicalChars)).map fun texts => '[' :: (texts ++ [']']) := by
  rw [← canonicalItems_eq]
  rfl

theorem canonicalChars_object (members : List (String × Json)) :
    canonicalChars (.object members) =
      (writeAll ((ordered members).map fun m => writeMember m.1 (canonicalChars m.2))).map
        fun texts => '{' :: (texts ++ ['}']) := by
  change (writeAll (((canonicalMembers members).insertionSort _).map _)).map _ = _
  rw [canonicalMembers_eq, sort_present, map_map]
  rfl

theorem normal_array (items : List Json) : normal (.array items) = .array (items.map normal) := by
  rw [← normalItems_eq]
  rfl

theorem normal_object (members : List (String × Json)) :
    normal (.object members) = .object ((ordered members).map fun m => (m.1, normal m.2)) := by
  change object ((normalMembers members).insertionSort _) = _
  rw [normalMembers_eq, sort_present]

section Texts

open Json

/-- Texts with commas in between. -/
def commas : List (List Char) → List Char
  | [] => []
  | [text] => text
  | text :: next :: rest => text ++ ',' :: commas (next :: rest)

theorem renderItems_eq (items : List Json) : renderItems items = commas (items.map render) := by
  induction items with
  | nil => rfl
  | cons v rest ih =>
    cases rest with
    | nil => rfl
    | cons w rest =>
      rw [renderItems, ih]
      rfl

theorem renderMembers_eq (members : List (String × Json)) :
    renderMembers members = commas (members.map fun m => quoteChars m.1 ++ ':' :: m.2.render) := by
  induction members with
  | nil => rfl
  | cons m rest ih =>
    cases rest with
    | nil => rfl
    | cons m' rest =>
      rw [renderMembers, ih]
      rfl

/-- Texts that could be written had no error among them. -/
theorem writeAll_eq_ok {text : List Char}
    (h : writeAll texts = .ok text) : ∃ parts, texts = parts.map .ok ∧ text = commas parts := by
  induction texts generalizing text with
  | nil =>
    cases h
    exact ⟨[], rfl, rfl⟩
  | cons first rest ih =>
    cases rest with
    | nil => exact ⟨[text], congrArg (fun t => [t]) h, rfl⟩
    | cons next rest =>
      cases first with
      | error err => cases h
      | ok part =>
        cases hrest : writeAll (next :: rest) with
        | error err =>
          rw [writeAll, hrest] at h
          cases h
        | ok texts =>
          rw [writeAll, hrest] at h
          cases h
          obtain ⟨parts, hparts, rfl⟩ := ih hrest
          refine ⟨part :: parts, by rw [hparts, map_cons], ?_⟩
          cases parts with
          | nil => cases hparts
          | cons p parts => rfl

/-- Texts without an error among them can be written. -/
theorem writeAll_ok
    (h : ∀ text ∈ texts, ∃ part, text = .ok part) : ∃ text, writeAll texts = .ok text := by
  induction texts with
  | nil => exact ⟨[], rfl⟩
  | cons first rest ih =>
    simp only [forall_mem_cons] at h
    obtain ⟨⟨part, rfl⟩, hrest⟩ := h
    cases rest with
    | nil => exact ⟨part, rfl⟩
    | cons next rest =>
      obtain ⟨text, htext⟩ := ih hrest
      exact ⟨part ++ ',' :: text, by rw [writeAll, htext]; rfl⟩

/-- The parts of a text are the texts of what was written. -/
theorem parts_eq {α : Type} {f : α → Except String (List Char)} {g : α → List Char}
    {l : List α} (h : l.map f = parts.map .ok)
    (hf : ∀ a ∈ l, ∀ t, f a = .ok t → t = g a) : parts = l.map g := by
  induction l generalizing parts with
  | nil =>
    rw [map_nil, eq_comm, map_eq_nil_iff] at h
    exact h
  | cons a l ih =>
    cases parts with
    | nil => cases h
    | cons part parts =>
      simp only [map_cons, cons.injEq] at h
      rw [map_cons, hf a mem_cons_self part h.1,
        ih h.2 fun b hb => hf b (mem_cons_of_mem _ hb)]

/-- What could be written as a list could be written one by one. -/
theorem mem_of_map_eq {α : Type} {f : α → Except String (List Char)} {l : List α}
    (h : l.map f = parts.map .ok) {a : α} (ha : a ∈ l) : ∃ t, f a = .ok t := by
  have hmem : f a ∈ parts.map .ok := h ▸ mem_map_of_mem ha
  obtain ⟨t, _, ht⟩ := mem_map.mp hmem
  exact ⟨t, ht.symm⟩

/-- A valid value is written as the text of its normal form. -/
def Written (v : Json) : Prop :=
  ∀ text, v.valid = true → canonicalChars v = .ok text →
    text = (normal v).render ∧ (normal v).Plain

theorem written_number (text : String) : Written (.number text) := by
  intro out hvalid h
  rw [canonicalChars] at h
  split at h
  · cases h
  · cases h
    exact ⟨rfl, .number hvalid⟩

theorem written_array {items : List Json} (ih : ∀ v ∈ items, Written v) :
    Written (.array items) := by
  intro out hvalid h
  have hvalids := validItems_iff.mp hvalid
  rw [canonicalChars_array] at h
  cases htext : writeAll (items.map canonicalChars) with
  | error err =>
    rw [htext] at h
    cases h
  | ok text =>
    rw [htext] at h
    cases h
    obtain ⟨parts, hparts, rfl⟩ := writeAll_eq_ok htext
    have heq := parts_eq hparts fun v hv t ht => (ih v hv t (hvalids v hv) ht).1
    rw [normal_array]
    refine ⟨?_, .array fun v hv => ?_⟩
    · rw [render, renderItems_eq, heq, map_map]
      rfl
    · obtain ⟨w, hw, rfl⟩ := mem_map.mp hv
      obtain ⟨t, ht⟩ := mem_of_map_eq hparts hw
      exact (ih w hw t (hvalids w hw) ht).2

theorem writeMember_eq_ok {key : String} {text : Except String (List Char)} {out : List Char}
    (h : writeMember key text = .ok out) : ∃ t, text = .ok t ∧ out = quoteChars key ++ ':' :: t := by
  cases text with
  | error err => cases h
  | ok t =>
    cases h
    exact ⟨t, rfl, rfl⟩

theorem written_object (ih : ∀ m ∈ members, Written m.2) : Written (.object members) := by
  intro out hvalid h
  have hvalids : ∀ m ∈ members, m.2.valid = true := by
    simp only [valid, Bool.and_eq_true] at hvalid
    exact validMembers_iff.mp hvalid.2
  rw [canonicalChars_object] at h
  cases htext : writeAll ((ordered members).map fun m => writeMember m.1 (canonicalChars m.2)) with
  | error err =>
    rw [htext] at h
    cases h
  | ok text =>
    rw [htext] at h
    cases h
    obtain ⟨parts, hparts, rfl⟩ := writeAll_eq_ok htext
    have hone : ∀ m ∈ ordered members, ∀ out, writeMember m.1 (canonicalChars m.2) = .ok out →
        out = quoteChars m.1 ++ ':' :: (normal m.2).render ∧ (normal m.2).Plain := by
      intro m hm out hout
      obtain ⟨t, ht, rfl⟩ := writeMember_eq_ok hout
      have hmem := (mem_ordered.mp hm).1
      obtain ⟨rfl, hplain⟩ := ih m hmem t (hvalids m hmem) ht
      exact ⟨rfl, hplain⟩
    have heq := parts_eq hparts fun m hm t ht => (hone m hm t ht).1
    rw [normal_object]
    refine ⟨?_, .object fun m hm => ?_⟩
    · rw [render, renderMembers_eq, heq, map_map]
      rfl
    · obtain ⟨m', hm', rfl⟩ := mem_map.mp hm
      obtain ⟨t, ht⟩ := mem_of_map_eq hparts hm'
      exact (hone m' hm' t ht).2

/-- Every valid value is written as the text of its normal form. -/
theorem written (v : Json) : Written v := by
  induction v with
  | null =>
    rintro _ _ ⟨⟩
    exact ⟨rfl, .null⟩
  | bool b => cases b <;> (rintro _ _ ⟨⟩; exact ⟨rfl, .bool _⟩)
  | number text => exact written_number text
  | int n =>
    rintro _ _ ⟨⟩
    exact ⟨rfl, .number (isNumberText_toString n)⟩
  | string s =>
    rintro _ _ ⟨⟩
    exact ⟨rfl, .string s⟩
  | array items ih => exact written_array ih
  | object members ih => exact written_object ih

theorem canonicalChars_of_canonical
    (h : workspaceCanonicalJSON v = .ok text) : canonicalChars v = .ok text.toList := by
  unfold workspaceCanonicalJSON at h
  cases hchars : canonicalChars v with
  | error err =>
    rw [hchars] at h
    cases h
  | ok chars =>
    rw [hchars] at h
    cases h
    rw [String.toList_ofList]

/-- An object whose members have canonical texts has one. -/
theorem canonical_object (h : ∀ m ∈ members, ∃ text, workspaceCanonicalJSON m.2 = .ok text) :
    ∃ text, workspaceCanonicalJSON (.object members) = .ok text := by
  have hall : ∀ text ∈ (ordered members).map fun m => writeMember m.1 (canonicalChars m.2),
      ∃ part, text = .ok part := by
    intro text htext
    obtain ⟨m, hm, rfl⟩ := mem_map.mp htext
    obtain ⟨text, htext⟩ := h m (mem_ordered.mp hm).1
    exact ⟨_, by rw [writeMember, canonicalChars_of_canonical htext]; rfl⟩
  obtain ⟨text, htext⟩ := writeAll_ok hall
  refine ⟨String.ofList ('{' :: (text ++ ['}'])), ?_⟩
  rw [workspaceCanonicalJSON, canonicalChars_object, htext]
  rfl

/-- Values with one canonical text have the same normal form. -/
theorem normal_eq_of_canonical {w : Json} (hv : v.valid = true) (hw : w.valid = true)
    (hvtext : workspaceCanonicalJSON v = .ok text)
    (hwtext : workspaceCanonicalJSON w = .ok text) : normal v = normal w := by
  obtain ⟨hvrender, hvplain⟩ := written v _ hv (canonicalChars_of_canonical hvtext)
  obtain ⟨hwrender, hwplain⟩ := written w _ hw (canonicalChars_of_canonical hwtext)
  exact render_injOn hvplain hwplain (hvrender.symm.trans hwrender)

end Texts

section Normal

theorem isNull_normal (v : Json) : isNull (normal v) = isNull v := by
  cases v <;> rfl

/-- A normal form has the canonical text of its value. -/
theorem canonicalChars_normal (v : Json) : canonicalChars (normal v) = canonicalChars v := by
  induction v with
  | null | bool | number => rfl
  | int n =>
    rw [normal, canonicalChars, canonicalChars, if_neg]
    simp only [any_eq_true, not_exists, not_and]
    intro c hc hletter
    simp only [Bool.or_eq_true, decide_eq_true_eq] at hletter
    have hnumeral := toString_numerals n c hc
    rcases hletter with (rfl | rfl) | rfl <;> exact absurd hnumeral (by decide)
  | string s => rfl
  | array items ih =>
    have hitems : (items.map normal).map canonicalChars = items.map canonicalChars := by
      rw [map_map]
      exact map_congr_left ih
    rw [normal_array, canonicalChars_array, canonicalChars_array, hitems]
  | object members ih =>
    have hpresent : present ((ordered members).map fun m => (m.1, normal m.2)) =
        (ordered members).map fun m => (m.1, normal m.2) := by
      refine filter_eq_self.mpr fun m hm => ?_
      obtain ⟨m', hm', rfl⟩ := mem_map.mp hm
      rw [isNull_normal, (mem_ordered.mp hm').2]
      rfl
    have hmembers : ((ordered members).map fun m => (m.1, canonicalChars (normal m.2))) =
        (ordered members).map fun m => (m.1, canonicalChars m.2) :=
      map_congr_left fun m hm => by rw [ih m (mem_ordered.mp hm).1]
    have hsorted : ((ordered members).map fun m => (m.1, canonicalChars m.2)).Pairwise
        fun a b => a.1 ≤ b.1 :=
      pairwise_map.mpr (pairwise_insertionSort _ _)
    rw [normal_object, canonicalChars, canonicalChars, canonicalMembers_eq, canonicalMembers_eq,
      hpresent, map_map, sort_present]
    change ((writeAll ((((ordered members).map fun m => (m.1, canonicalChars (normal m.2))).insertionSort
      _).map _)).map _) = _
    rw [hmembers, hsorted.insertionSort_eq]

theorem normal_valid (h : v.valid = true) : (normal v).valid = true := by
  induction v with
  | null | bool | string => rfl
  | number text => exact h
  | int n => exact isNumberText_toString n
  | array items ih =>
    have hitems := validItems_iff.mp h
    rw [normal, normalItems_eq, valid, validItems_iff]
    intro v hv
    obtain ⟨w, hw, rfl⟩ := mem_map.mp hv
    exact ih w hw (hitems w hw)
  | object members ih =>
    rw [valid, Bool.and_eq_true, decide_eq_true_eq, validMembers_iff] at h
    rw [normal_object, valid, Bool.and_eq_true, decide_eq_true_eq, validMembers_iff]
    refine ⟨?_, fun m hm => ?_⟩
    · rw [map_map]
      have hperm : ((ordered members).map Prod.fst).Perm ((present members).map Prod.fst) :=
        (perm_insertionSort _ _).map _
      exact hperm.nodup_iff.mpr (h.1.sublist ((filter_sublist).map _))
    · obtain ⟨m', hm', rfl⟩ := mem_map.mp hm
      have hmem := (mem_ordered.mp hm').1
      exact ih m' hmem (h.2 m' hmem)

theorem normal_depth_le (v : Json) : (normal v).depth ≤ v.depth := by
  induction v with
  | null | bool | number | int | string => exact le_rfl
  | array items ih =>
    rw [normal, normalItems_eq, depth, depth, Nat.add_le_add_iff_right,
      depthItems_le]
    intro v hv
    obtain ⟨w, hw, rfl⟩ := mem_map.mp hv
    exact (ih w hw).trans (depthItems_le.mp le_rfl w hw)
  | object members ih =>
    rw [normal_object, depth, depth, Nat.add_le_add_iff_right, depthMembers_le]
    intro m hm
    obtain ⟨m', hm', rfl⟩ := mem_map.mp hm
    have hmem := (mem_ordered.mp hm').1
    exact (ih m' hmem).trans (depthMembers_le.mp le_rfl m' hmem)

/-- The object that a decoder makes of the canonical text of an object. -/
def normalObject (o : Object) : Object where
  members := (ordered o.members).map fun m => (m.1, normal m.2)
  valid := by
    rw [← normal_object]
    exact normal_valid o.valid

/-- A canonical text, with anything after it, is decoded to the normal form. -/
theorem decodeNext_canonical (hv : v.valid = true)
    (h : workspaceCanonicalJSON v = .ok text) (hdepth : v.depth ≤ maxNestingDepth) :
    ∃ plain, decodeNext text.toList = .value (normal v) plain [] := by
  have hchars := canonicalChars_of_canonical h
  obtain ⟨hrender, hplain⟩ := written v _ hv hchars
  obtain ⟨c, t, hcons, hspace, _⟩ := hplain.head
  have hparse := hplain.readBack (2 * text.toList.length + 1) maxNestingDepth []
    (by rw [hrender]; exact Nat.lt_succ_self _) ((normal_depth_le v).trans hdepth)
    nofun
  rw [append_nil, ← hrender] at hparse
  have hskip : skipSpace text.toList ≠ [] := by
    rw [hrender, hcons, skipSpace_cons hspace]
    exact cons_ne_nil _ _
  exact ⟨hplain, decodeNext_eq hskip hparse⟩

end Normal

section Agreement

variable {w : Json}

/-- The same value: a map has no order, `nil` members are as good as missing, and an integer is as
good as the number with its text. -/
inductive Agrees : Json → Json → Prop
  | refl (v : Json) : Agrees v v
  | symm {v w : Json} (h : Agrees v w) : Agrees w v
  | trans {u v w : Json} (h : Agrees u v) (h' : Agrees v w) : Agrees u w
  | int (n : Int) : Agrees (.int n) (.number (toString n))
  | array (pairs : List (Json × Json)) (h : ∀ p ∈ pairs, Agrees p.1 p.2) :
      Agrees (.array (pairs.map (·.1))) (.array (pairs.map (·.2)))
  | object (pairs : List (String × Json × Json)) (h : ∀ p ∈ pairs, Agrees p.2.1 p.2.2) :
      Agrees (.object (pairs.map fun p => (p.1, p.2.1))) (.object (pairs.map fun p => (p.1, p.2.2)))
  | prune (members : List (String × Json)) : Agrees (.object members) (.object (present members))
  | perm {members members' : List (String × Json)} (hkeys : (members.map Prod.fst).Nodup)
      (h : members.Perm members') : Agrees (.object members) (.object members')

theorem ordered_eq_of_perm {members' : List (String × Json)}
    (hkeys : (members.map Prod.fst).Nodup) (h : members.Perm members') :
    ordered members = ordered members' := by
  have hperm : (ordered members).Perm (ordered members') :=
    ((perm_insertionSort _ _).trans (h.filter _)).trans (perm_insertionSort _ _).symm
  refine hperm.eq_of_pairwise (fun a b ha hb hab hba => ?_) (pairwise_insertionSort _ _)
    (pairwise_insertionSort _ _)
  exact inj_on_of_nodup_map hkeys (mem_ordered.mp ha).1 (h.mem_iff.mpr (mem_ordered.mp hb).1)
    (le_antisymm hab hba)

theorem Agrees.normal_eq (h : Agrees v w) : normal v = normal w := by
  induction h with
  | refl => rfl
  | symm _ ih => exact ih.symm
  | trans _ _ ih ih' => exact ih.trans ih'
  | int => rfl
  | array pairs _ ih =>
    rw [normal_array, normal_array, map_map, map_map]
    exact congrArg _ (map_congr_left ih)
  | object pairs _ ih =>
    have hmembers : normalMembers (pairs.map fun p => (p.1, p.2.1)) =
        normalMembers (pairs.map fun p => (p.1, p.2.2)) := by
      simp only [normalMembers_eq, present, filter_map, map_map, Function.comp_def]
      rw [filter_congr fun p hp => by rw [← isNull_normal, ih p hp, isNull_normal]]
      exact map_congr_left fun p hp => by rw [ih p (mem_filter.mp hp).1]
    rw [normal, normal, hmembers]
  | prune members => simp [normal_object, ordered, present]
  | perm hkeys h => rw [normal_object, normal_object, ordered_eq_of_perm hkeys h]

theorem agrees_normal (hv : v.valid = true) : Agrees v (normal v) := by
  induction v with
  | null | bool | number | string => exact .refl _
  | int n => exact .int n
  | array items ih =>
    have hitems := Agrees.array (items.map fun v => (v, normal v)) fun p hp => by
      obtain ⟨v, hitem, rfl⟩ := mem_map.mp hp
      exact ih v hitem (validItems_iff.mp hv v hitem)
    simpa [normal_array, Function.comp_def] using hitems
  | object members ih =>
    rw [valid, Bool.and_eq_true, decide_eq_true_eq, validMembers_iff] at hv
    have hmembers := Agrees.object ((present members).map fun m => (m.1, m.2, normal m.2))
      fun p hp => by
        obtain ⟨m, hm, rfl⟩ := mem_map.mp hp
        have hmem := (mem_filter.mp hm).1
        exact ih m hmem (hv.2 m hmem)
    simp only [map_map, Function.comp_def, map_id', ← normalMembers_eq] at hmembers
    refine (Agrees.prune members).trans (hmembers.trans (.perm ?_ (perm_insertionSort _ _).symm))
    rw [normalMembers_eq, map_map]
    exact hv.1.sublist ((filter_sublist).map _)

/-- Accepted values have one text exactly if they agree, whatever the order of their members, and
the text of a value that is not nested too deep is decoded to a value that agrees with it. -/
theorem workspaceCanonicalJSON_canonical {text' : String} (hv : v.valid = true)
    (hw : w.valid = true) (htext : workspaceCanonicalJSON v = .ok text)
    (htext' : workspaceCanonicalJSON w = .ok text') :
    (text = text' ↔ Agrees v w) ∧
    (∀ v', Agrees v v' → workspaceCanonicalJSON v' = .ok text) ∧
    (v.depth ≤ maxNestingDepth → ∃ decoded plain,
      decodeNext text.toList = .value decoded plain [] ∧ Agrees v decoded.toAny) := by
  have hsame : ∀ v', Agrees v v' → workspaceCanonicalJSON v' = .ok text := by
    intro v' h
    rw [workspaceCanonicalJSON, ← canonicalChars_normal, ← h.normal_eq, canonicalChars_normal]
    exact htext
  refine ⟨⟨?_, fun h => ?_⟩, hsame, fun hdepth => ?_⟩
  · rintro rfl
    have hnormal := normal_eq_of_canonical hv hw htext htext'
    exact (agrees_normal hv).trans (hnormal ▸ (agrees_normal hw).symm)
  · cases (hsame w h).symm.trans htext'
    rfl
  · obtain ⟨plain, hdecode⟩ := decodeNext_canonical hv htext hdepth
    refine ⟨normal v, plain, hdecode, ?_⟩
    rw [toAny_of_valid (normal_valid hv)]
    exact agrees_normal hv

theorem workspaceCanonicalJSON_canonical_sample :
    Agrees (.object [("b", .null), ("a", .int 1)]) (.object [("a", .number "1")]) :=
  (workspaceCanonicalJSON_canonical (by decide +kernel) (by decide +kernel) rfl rfl).1.mp rfl

/-- Arrays inside arrays. -/
def nested : Nat → Json
  | 0 => .array []
  | n + 1 => .array [nested n]

theorem valid_nested (n : Nat) : (nested n).valid = true := by
  induction n with
  | zero => rfl
  | succ n ih => simp [nested, valid, validItems, ih]

theorem canonicalChars_nested (n : Nat) :
    canonicalChars (nested n) = .ok ('[' :: (replicate n '[' ++ replicate (n + 1) ']')) := by
  induction n with
  | zero => rfl
  | succ n ih =>
    rw [nested, canonicalChars_array, map_cons, map_nil, ih, replicate_succ' (n := n + 1)]
    simp [writeAll, Except.map, replicate_succ]

theorem parseValue_nested {n depth : Nat} (h : depth ≤ n) (fuel : Nat) (rest : List Char) :
    parseValue fuel depth ('[' :: (replicate n '[' ++ rest)) = none := by
  induction n generalizing fuel depth with
  | zero => cases fuel <;> simp [parseValue, skipSpace, isJsonSpace, Nat.le_zero.mp h]
  | succ n ih =>
    cases fuel with
    | zero => rfl
    | succ fuel =>
      cases depth with
      | zero => simp [parseValue, skipSpace, isJsonSpace]
      | succ depth =>
        have hitems : parseItems fuel depth ('[' :: (replicate n '[' ++ rest)) = none := by
          cases fuel with
          | zero => rfl
          | succ fuel => rw [parseItems, ih (Nat.le_of_succ_le_succ h), Option.bind_none]
        simp [parseValue, skipSpace, isJsonSpace, replicate_succ, hitems]

theorem nested_refused {n : Nat} (h : maxNestingDepth ≤ n) : ∃ text, (nested n).valid = true ∧
    workspaceCanonicalJSON (nested n) = .ok text ∧ decodeNext text.toList = .failed := by
  refine ⟨_, valid_nested n, by rw [workspaceCanonicalJSON, canonicalChars_nested, Except.map], ?_⟩
  rw [String.toList_ofList, decodeNext, if_neg (by simp [skipSpace, isJsonSpace])]
  split
  next hvalue => cases (parseValue_nested h _ _).symm.trans hvalue
  · rfl

/-- A value that is nested deeper than the decoder allows is accepted and not decoded again. -/
theorem deep_value_refused : ∃ v text, v.valid = true ∧ workspaceCanonicalJSON v = .ok text ∧
    decodeNext text.toList = .failed :=
  ⟨nested maxNestingDepth, nested_refused le_rfl⟩

end Agreement

section Members

/-- `workspaceTrustString`: a string member, or nothing. -/
def workspaceTrustString (payload : Object) (key : String) : String :=
  match payload.get? key with
  | some (.string s) => s
  | _ => ""

theorem normal_eq_string {s : String} (h : normal v = .string s) : v = .string s := by
  cases v with
  | string t => exact h
  | null | bool | number | int | array | object => cases h

/-- A string member is found in every object with the same normal form. -/
theorem get?_string {o o' : Object} (h : normal (.object o.members) = normal (.object o'.members))
    {key s : String} (hget : o.get? key = some (.string s)) : o'.get? key = some (.string s) := by
  rw [Object.get?_eq_some] at hget ⊢
  simp only [normal, normalMembers_eq, sort_present, object.injEq] at h
  have hmem : (key, string s) ∈ (ordered o.members).map fun m => (m.1, normal m.2) :=
    mem_map.mpr ⟨(key, .string s), mem_ordered.mpr ⟨hget, rfl⟩, rfl⟩
  rw [h] at hmem
  obtain ⟨⟨key', v⟩, hm, heq⟩ := mem_map.mp hmem
  simp only [Prod.mk.injEq] at heq
  obtain ⟨rfl, hnormal⟩ := heq
  rw [← normal_eq_string hnormal]
  exact (mem_ordered.mp hm).1

/-- Objects with one canonical text have the same string members. -/
theorem workspaceTrustString_of_canonical {o o' : Object}
    (h : workspaceCanonicalJSON (.object o.members) = .ok text)
    (h' : workspaceCanonicalJSON (.object o'.members) = .ok text) (key : String) :
    workspaceTrustString o key = workspaceTrustString o' key := by
  have hnormal := normal_eq_of_canonical o.valid o'.valid h h'
  have hiff : ∀ s, o.get? key = some (.string s) ↔ o'.get? key = some (.string s) :=
    fun s => ⟨get?_string hnormal, get?_string hnormal.symm⟩
  unfold workspaceTrustString
  split
  next s hs => rw [(hiff s).mp hs]
  next hno =>
    split
    next s hs => exact absurd ((hiff s).mpr hs) (hno s)
    · rfl

end Members

end Rstream.Workspace
