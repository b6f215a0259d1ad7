import Mathlib.Algebra.Group.Nat.Defs
import Mathlib.Data.List.Forall2

/-!
# Field sequences over bytes

A record is encoded as a sequence of fields: a fixed-width big-endian word, or
bytes behind a word with their length. Two encodings of records with the same
kinds of fields, each short enough for its length word, agree only when all
fields agree.
-/

namespace Rstream.Core

open List

variable {x y : List UInt8}

/-- The four bytes of a word, most significant first. -/
def bigEndian (n : UInt32) : List UInt8 :=
  [UInt8.ofNat (n.toNat / 2 ^ 24), UInt8.ofNat (n.toNat / 2 ^ 16),
    UInt8.ofNat (n.toNat / 2 ^ 8), UInt8.ofNat n.toNat]

@[simp] theorem bigEndian_length (n : UInt32) : (bigEndian n).length = 4 := rfl

/-- The four bytes determine the word. -/
theorem bigEndian_injective : Function.Injective bigEndian := by
  intro m n h
  simp only [bigEndian, cons.injEq, and_true] at h
  obtain ⟨h₃, h₂, h₁, h₀⟩ := h
  have hm := m.toNat_lt
  have hn := n.toNat_lt
  have e₃ := congrArg UInt8.toNat h₃
  have e₂ := congrArg UInt8.toNat h₂
  have e₁ := congrArg UInt8.toNat h₁
  have e₀ := congrArg UInt8.toNat h₀
  simp only [UInt8.toNat_ofNat'] at e₃ e₂ e₁ e₀
  apply UInt32.toNat_inj.mp
  omega

/-- A word followed by anything determines both parts. -/
theorem bigEndian_append_inj {m n : UInt32}
    (h : bigEndian m ++ x = bigEndian n ++ y) : m = n ∧ x = y := by
  obtain ⟨hhead, htail⟩ := append_inj h rfl
  exact ⟨bigEndian_injective hhead, htail⟩

/-- The number bytes stand for, most significant first. -/
def bigEndianValue (b : List UInt8) : Nat := b.foldl (fun n byte => n * 256 + byte.toNat) 0

theorem bigEndianValue_bigEndian (n : UInt32) : bigEndianValue (bigEndian n) = n.toNat := by
  have hn := n.toNat_lt
  simp only [bigEndianValue, bigEndian, foldl_cons, foldl_nil, UInt8.toNat_ofNat']
  omega

/-- Bytes behind a word with their length; the length is cut to 32 bits. -/
def lengthPrefixed (b : List UInt8) : List UInt8 := bigEndian (UInt32.ofNat b.length) ++ b

/-- Bytes that fit their length word are recovered from the front of any string. -/
theorem lengthPrefixed_append_inj {a b : List UInt8} (ha : a.length < 2 ^ 32)
    (hb : b.length < 2 ^ 32) (h : lengthPrefixed a ++ x = lengthPrefixed b ++ y) :
    a = b ∧ x = y := by
  simp only [lengthPrefixed, append_assoc] at h
  obtain ⟨hword, hrest⟩ := bigEndian_append_inj h
  have hlen : a.length = b.length := by
    have hnat := congrArg UInt32.toNat hword
    rw [UInt32.toNat_ofNat_of_lt' ha, UInt32.toNat_ofNat_of_lt' hb] at hnat
    exact hnat
  exact append_inj hrest hlen

/-- One field of a record. -/
inductive Field
  /-- A fixed-width number. -/
  | word (n : UInt32)
  /-- Bytes of any length. -/
  | bytes (b : List UInt8)
  deriving DecidableEq, Repr

variable {fields fields' : List Field}

namespace Field

/-- The bytes of one field. -/
def encode : Field → List UInt8
  | .word n => bigEndian n
  | .bytes b => lengthPrefixed b

/-- Two fields are read back by the same decoder. -/
inductive SameKind : Field → Field → Prop
  | word (m n : UInt32) : SameKind (.word m) (.word n)
  | bytes (a b : List UInt8) : SameKind (.bytes a) (.bytes b)

attribute [simp] SameKind.word SameKind.bytes

/-- The length of the field fits its length word. -/
def Fits : Field → Prop
  | .word _ => True
  | .bytes b => b.length < 2 ^ 32

instance : DecidablePred Fits := fun f => match f with
  | .word _ => inferInstanceAs (Decidable True)
  | .bytes b => inferInstanceAs (Decidable (b.length < 2 ^ 32))

/-- A field followed by anything determines both parts. -/
theorem SameKind.encode_append_inj {f g : Field} (hkind : SameKind f g) (hf : f.Fits)
    (hg : g.Fits) (h : f.encode ++ x = g.encode ++ y) : f = g ∧ x = y := by
  cases hkind with
  | word m n =>
    obtain ⟨hword, hrest⟩ := bigEndian_append_inj h
    exact ⟨congrArg Field.word hword, hrest⟩
  | bytes a b =>
    obtain ⟨hbytes, hrest⟩ := lengthPrefixed_append_inj hf hg h
    exact ⟨congrArg Field.bytes hbytes, hrest⟩

/-- The bytes of a sequence of fields. -/
def encodeAll (fields : List Field) : List UInt8 := fields.flatMap encode

/-- Two fields that the bytes of a sequence tell apart: known to be the same, or of the same kind
and short enough. -/
def Comparable (f g : Field) : Prop := f = g ∨ SameKind f g ∧ f.Fits ∧ g.Fits

@[simp] theorem encodeAll_cons (f : Field) (rest : List Field) :
    encodeAll (f :: rest) = f.encode ++ encodeAll rest := rfl

@[simp] theorem encodeAll_append (fields rest : List Field) :
    encodeAll (fields ++ rest) = encodeAll fields ++ encodeAll rest := flatMap_append

/-- Comparable fields followed by anything determine both parts. -/
theorem encodeAll_append_inj (hfields : List.Forall₂ Comparable fields fields')
    (h : encodeAll fields ++ x = encodeAll fields' ++ y) : fields = fields' ∧ x = y := by
  induction hfields with
  | nil => exact ⟨rfl, h⟩
  | @cons f g rest rest' hfg _ ih =>
    simp only [encodeAll_cons, append_assoc] at h
    have hhead : f = g ∧ encodeAll rest ++ x = encodeAll rest' ++ y := by
      rcases hfg with rfl | ⟨hkind, hf, hg⟩
      · exact ⟨rfl, append_cancel_left h⟩
      · exact hkind.encode_append_inj hf hg h
    obtain ⟨hrest, hxy⟩ := ih hhead.2
    exact ⟨by rw [hhead.1, hrest], hxy⟩

theorem encodeAll_inj_of_comparable
    (hfields : List.Forall₂ Comparable fields fields') (h : encodeAll fields = encodeAll fields') :
    fields = fields' :=
  (encodeAll_append_inj hfields (congrArg (· ++ []) h)).1

/-- Fields of the same kinds that fit are comparable. -/
theorem comparable_of_fits
    (hkind : List.Forall₂ SameKind fields fields') (hfits : ∀ f ∈ fields, f.Fits)
    (hfits' : ∀ f ∈ fields', f.Fits) : List.Forall₂ Comparable fields fields' := by
  induction hkind with
  | nil => exact .nil
  | @cons f g rest rest' hfg _ ih =>
    simp only [forall_mem_cons] at hfits hfits'
    exact .cons (.inr ⟨hfg, hfits.1, hfits'.1⟩) (ih hfits.2 hfits'.2)

theorem encodeAll_inj (hkind : List.Forall₂ SameKind fields fields') (hfits : ∀ f ∈ fields, f.Fits)
    (hfits' : ∀ f ∈ fields', f.Fits) (h : encodeAll fields = encodeAll fields') :
    fields = fields' :=
  encodeAll_inj_of_comparable (comparable_of_fits hkind hfits hfits') h

/-- A field is no longer than the encoding it is part of. -/
theorem fits_of_encodeAll (h : (encodeAll fields).length < 2 ^ 32) : ∀ f ∈ fields, f.Fits := by
  intro f hf
  obtain ⟨before, after, rfl⟩ := append_of_mem hf
  cases f with
  | word n => trivial
  | bytes b =>
    simp only [encodeAll_append, encodeAll_cons, encode, lengthPrefixed, length_append] at h
    simp only [Fits]
    omega

/-- A short encoding determines the fields of any sequence of the same kinds. -/
theorem encodeAll_inj_of_short
    (hkind : List.Forall₂ SameKind fields fields') (hshort : (encodeAll fields).length < 2 ^ 32)
    (h : encodeAll fields = encodeAll fields') : fields = fields' :=
  encodeAll_inj hkind (fits_of_encodeAll hshort) (fits_of_encodeAll (h ▸ hshort)) h

end Field

end Rstream.Core
