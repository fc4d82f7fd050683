/-
# Encodings of text

A text is a list of characters, that is of Unicode scalar values. In UTF-8 it is the bytes of its
characters, one to four for each (`String.utf8EncodeChar`); in UTF-16 a character outside the basic
plane takes two units, a surrogate pair. A text has as many UTF-16 units as characters exactly if
all of it is in the basic plane, and then so has every part of it.
-/
import Mathlib

namespace FunPvp.Lib

/-! ## 1. UTF-8 -/

def utf8Encode (cs : List Char) : List UInt8 := cs.flatMap String.utf8EncodeChar

@[simp] theorem utf8Encode_nil : utf8Encode [] = [] := rfl

@[simp] theorem utf8Encode_cons (c : Char) (cs : List Char) :
    utf8Encode (c :: cs) = String.utf8EncodeChar c ++ utf8Encode cs := rfl

theorem utf8Encode_append (cs ds : List Char) :
    utf8Encode (cs ++ ds) = utf8Encode cs ++ utf8Encode ds := List.flatMap_append

theorem utf8Encode_take_prefix (cs : List Char) (n : ℕ) :
    utf8Encode (cs.take n) <+: utf8Encode cs := by
  refine ⟨utf8Encode (cs.drop n), ?_⟩
  rw [← utf8Encode_append, List.take_append_drop]

/-! ## 2. UTF-16 -/

def IsAstral (c : Char) : Prop := 0x10000 ≤ c.toNat

instance : DecidablePred IsAstral := fun c => inferInstanceAs (Decidable (0x10000 ≤ c.toNat))

def utf16EncodeChar (c : Char) : List UInt16 :=
  if IsAstral c then
    [.ofNat (0xD800 + (c.toNat - 0x10000) / 0x400), .ofNat (0xDC00 + c.toNat % 0x400)]
  else [.ofNat c.toNat]

def utf16Encode (cs : List Char) : List UInt16 := cs.flatMap utf16EncodeChar

@[simp] theorem utf16Encode_nil : utf16Encode [] = [] := rfl

@[simp] theorem utf16Encode_cons (c : Char) (cs : List Char) :
    utf16Encode (c :: cs) = utf16EncodeChar c ++ utf16Encode cs := rfl

/-- How many characters of a text take two units. -/
def astrals (cs : List Char) : ℕ := cs.countP fun c => IsAstral c

theorem astrals_eq_zero_iff {cs : List Char} : astrals cs = 0 ↔ ∀ c ∈ cs, ¬IsAstral c := by
  simp [astrals, List.countP_eq_zero]

theorem length_utf16Encode (cs : List Char) :
    (utf16Encode cs).length = cs.length + astrals cs := by
  induction cs with
  | nil => rfl
  | cons c cs ih =>
    rw [utf16Encode_cons, List.length_append, ih]
    unfold astrals utf16EncodeChar
    by_cases h : IsAstral c
    · rw [List.countP_cons_of_pos (by simpa using h), if_pos h]
      simp only [List.length_cons, List.length_nil]
      omega
    · rw [List.countP_cons_of_neg (by simpa using h), if_neg h]
      simp only [List.length_cons, List.length_nil]
      omega

theorem take_utf16Encode {cs : List Char} (h : ∀ c ∈ cs, ¬IsAstral c) (n : ℕ) :
    (utf16Encode cs).take n = utf16Encode (cs.take n) := by
  induction cs generalizing n with
  | nil => simp
  | cons c cs ih =>
    obtain ⟨hc, hcs⟩ := List.forall_mem_cons.mp h
    cases n with
    | zero => rfl
    | succ n =>
      rw [List.take_succ_cons, utf16Encode_cons, utf16Encode_cons, utf16EncodeChar, if_neg hc,
        ← ih hcs]
      rfl

end FunPvp.Lib
