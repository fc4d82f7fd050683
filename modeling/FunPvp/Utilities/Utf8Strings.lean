/-
# UTF-8 strings and wide strings

The helpers that turn a UTF-8 string into a wide one make room for as many units as the string has
characters, and then write its UTF-16 units. A character outside the basic plane takes two units,
so there is room exactly if there is no such character; a caller's buffer may have room to spare.
`utf8truncate` goes through a wide string of that size and back. `helpers_inBounds_iff` says for
which texts they stay within the memory they have.

A write past the end has no result here. A string that is not UTF-8 is refused before anything is
written.
-/
import FunPvp.Utilities.Utf8cpp

namespace FunPvp.Utilities

open FunPvp.Lib utf8

/-! ## 1. Memory -/

section Memory

variable {α : Type}

def writeAll (buffer units : List α) : Option (List α) :=
  if units.length ≤ buffer.length then some (units ++ buffer.drop units.length) else none

def writeAt (buffer : List α) (i : ℕ) (unit : α) : Option (List α) :=
  if i < buffer.length then some (buffer.set i unit) else none

/-- `resize` of a string. -/
def resize (s : List α) (n : ℕ) (zero : α) : List α :=
  s.take n ++ List.replicate (n - s.length) zero

theorem writeAll_isSome {buffer units : List α} :
    (writeAll buffer units).isSome = true ↔ units.length ≤ buffer.length := by
  unfold writeAll
  split
  · next h => simpa using h
  · next h => simpa using h

theorem length_writeAll {buffer units buffer' : List α} (h : writeAll buffer units = some buffer') :
    buffer'.length = buffer.length := by
  unfold writeAll at h
  split at h
  · obtain rfl := Option.some.inj h
    rw [List.length_append, List.length_drop]
    omega
  · cases h

theorem writeAll_eq {buffer units : List α} (h : units.length = buffer.length) :
    writeAll buffer units = some units := by
  rw [writeAll, if_pos (by omega), List.drop_of_length_le (by omega), List.append_nil]

end Memory

/-! ## 2. The helpers -/

/-- `utf8length`: the length, and the string, which is cleared if it is not UTF-8. -/
def utf8length (utf8str : List UInt8) : ℕ × List UInt8 :=
  match distance utf8str with
  | .ok n => (n, utf8str)
  | .error _ => (0, [])

def utf8truncate (utf8str : List UInt8) (len : ℕ) : Option (List UInt8) :=
  match distance utf8str with
  | .error _ => some []
  | .ok wlen =>
    if wlen ≤ len then some utf8str
    else
      match utf8to16 utf8str with
      | .error _ => some []
      | .ok units => do
        let wstr ← writeAll (resize [] wlen 0) units
        match utf16to8 (resize wstr len 0) with
        | .error _ => some []
        | .ok octets => do
          let utf8str ← writeAll utf8str octets
          some (resize utf8str octets.length 0)

/-- `Utf8toWStr` with a caller's array `wstr`, for which the caller gives the size `wsize`: the
array and the size afterwards. -/
def utf8toWStr (utf8str : List UInt8) (wstr : List UInt16) (wsize : ℕ) :
    Option (Bool × List UInt16 × ℕ) :=
  let refuse (wsize : ℕ) := do
    let wstr ← if wsize > 0 then writeAt wstr 0 0 else some wstr
    some (false, wstr, 0)
  match distance utf8str with
  | .error _ => refuse wsize
  | .ok len =>
    if len > wsize then refuse wsize
    else
      match utf8to16 utf8str with
      | .error _ => refuse len
      | .ok units => do
        let wstr ← writeAll wstr units
        let wstr ← writeAt wstr len 0
        some (true, wstr, len)

/-- `Utf8toWStr` with a string, which keeps its old value if there is nothing to write. -/
def utf8toWString (utf8str : List UInt8) (wstr : List UInt16) : Option (Bool × List UInt16) :=
  match distance utf8str with
  | .error _ => some (false, [])
  | .ok len =>
    if len ≠ 0 then
      match utf8to16 utf8str with
      | .error _ => some (false, [])
      | .ok units => do
        let wstr ← writeAll (resize wstr len 0) units
        some (true, wstr)
    else some (true, wstr)

theorem length_resize {α : Type} (s : List α) (n : ℕ) (zero : α) :
    (resize s n zero).length = n := by
  rw [resize, List.length_append, List.length_take, List.length_replicate]
  omega

/-! ## 3. Which texts have room -/

/-- A caller's array has room for `wsize` units and the terminator. -/
def BufferSafe (utf8str : List UInt8) (wsize : ℕ) : Prop :=
  ∀ wstr : List UInt16, wsize < wstr.length → (utf8toWStr utf8str wstr wsize).isSome = true

def StringSafe (utf8str : List UInt8) : Prop :=
  ∀ wstr : List UInt16, (utf8toWString utf8str wstr).isSome = true

/-- `utf8truncate` leaves a prefix that is UTF-8 again, and not too long. -/
def TruncatesWell (utf8str : List UInt8) (len : ℕ) : Prop :=
  ∃ kept, utf8truncate utf8str len = some kept ∧ kept <+: utf8str ∧
    ∃ cs, kept = utf8Encode cs ∧ cs.length ≤ len

theorem utf8toWStr_utf8Encode (cs : List Char) (wstr : List UInt16) {wsize : ℕ}
    (h : cs.length ≤ wsize) :
    utf8toWStr (utf8Encode cs) wstr wsize =
      (writeAll wstr (utf16Encode cs)).bind fun wstr =>
        (writeAt wstr cs.length 0).bind fun wstr => some (true, wstr, cs.length) := by
  simp only [utf8toWStr, distance_utf8Encode, utf8to16_utf8Encode]
  rw [if_neg (by omega)]
  rfl

theorem utf8toWStr_long {cs : List Char} {wstr : List UInt16} {wsize : ℕ} (h : wsize < cs.length)
    (hroom : wsize < wstr.length) :
    (utf8toWStr (utf8Encode cs) wstr wsize).isSome = true := by
  have hplace : 0 < wstr.length := by omega
  simp only [utf8toWStr, distance_utf8Encode]
  rw [if_pos h, writeAt, if_pos hplace]
  split <;> rfl

theorem bufferSafe_iff (cs : List Char) (wsize : ℕ) :
    BufferSafe (utf8Encode cs) wsize ↔
      (cs.length ≤ wsize → cs.length + astrals cs ≤ wsize + 1) := by
  constructor
  · intro hsafe hlen
    have hsome := hsafe (List.replicate (wsize + 1) 0) (by simp)
    rw [utf8toWStr_utf8Encode cs _ hlen] at hsome
    have hall := writeAll_isSome.mp (Option.isSome_of_isSome_bind hsome)
    rwa [length_utf16Encode, List.length_replicate] at hall
  · intro hunits wstr hroom
    by_cases hlen : cs.length ≤ wsize
    · have hroom' : (utf16Encode cs).length ≤ wstr.length := by
        have h := hunits hlen
        rw [length_utf16Encode]
        omega
      obtain ⟨wstr', hwritten⟩ := Option.isSome_iff_exists.mp (writeAll_isSome.mpr hroom')
      have hlength := length_writeAll hwritten
      rw [utf8toWStr_utf8Encode cs _ hlen, hwritten, Option.bind_some, writeAt,
        if_pos (by omega)]
      rfl
    · exact utf8toWStr_long (by omega) hroom

theorem stringSafe_iff (cs : List Char) : StringSafe (utf8Encode cs) ↔ astrals cs = 0 := by
  have hstring : ∀ wstr, utf8toWString (utf8Encode cs) wstr =
      if cs.length ≠ 0 then
        (writeAll (resize wstr cs.length 0) (utf16Encode cs)).bind fun wstr => some (true, wstr)
      else some (true, wstr) := by
    intro wstr
    simp only [utf8toWString, distance_utf8Encode, utf8to16_utf8Encode]
    rfl
  constructor
  · intro hsafe
    have hsome := hsafe []
    rw [hstring] at hsome
    split at hsome
    · have hall := writeAll_isSome.mp (Option.isSome_of_isSome_bind hsome)
      rw [length_utf16Encode, length_resize] at hall
      omega
    · next hempty =>
      obtain rfl := List.length_eq_zero_iff.mp (not_not.mp hempty)
      rfl
  · intro hbasic wstr
    rw [hstring]
    split
    · rw [writeAll_eq (by rw [length_utf16Encode, length_resize]; omega)]
      rfl
    · rfl

theorem utf8truncate_basic {cs : List Char} {len : ℕ} (hlong : len < cs.length)
    (hbasic : astrals cs = 0) :
    utf8truncate (utf8Encode cs) len = some (utf8Encode (cs.take len)) := by
  have hunits : (utf16Encode cs).length = cs.length := by
    rw [length_utf16Encode, hbasic, Nat.add_zero]
  have hcut : resize (utf16Encode cs) len 0 = utf16Encode (cs.take len) := by
    rw [resize, take_utf16Encode (astrals_eq_zero_iff.mp hbasic), hunits,
      Nat.sub_eq_zero_of_le hlong.le, List.replicate_zero, List.append_nil]
  obtain ⟨dropped, hprefix⟩ := utf8Encode_take_prefix cs len
  simp only [utf8truncate, distance_utf8Encode, utf8to16_utf8Encode]
  rw [if_neg (by omega), writeAll_eq (by rw [hunits, length_resize])]
  simp only [bind, Option.bind_some, hcut, utf16to8_utf16Encode]
  rw [writeAll, if_pos (by rw [← hprefix, List.length_append]; omega)]
  simp [resize]

theorem truncatesWell_iff (cs : List Char) (len : ℕ) :
    TruncatesWell (utf8Encode cs) len ↔ cs.length ≤ len ∨ astrals cs = 0 := by
  constructor
  · rintro ⟨kept, hkept, -, -⟩
    by_contra hneither
    obtain ⟨hlong, hastral⟩ := not_or.mp hneither
    simp only [utf8truncate, distance_utf8Encode, utf8to16_utf8Encode] at hkept
    rw [if_neg hlong, writeAll, if_neg (by rw [length_utf16Encode, length_resize]; omega)] at hkept
    cases hkept
  · intro h
    by_cases hlong : cs.length ≤ len
    · refine ⟨utf8Encode cs, ?_, List.prefix_rfl, cs, rfl, hlong⟩
      simp only [utf8truncate, distance_utf8Encode]
      rw [if_pos hlong]
    · have hbasic := h.resolve_left hlong
      refine ⟨utf8Encode (cs.take len), utf8truncate_basic (by omega) hbasic,
        utf8Encode_take_prefix cs len, cs.take len, rfl, ?_⟩
      exact List.length_take_le len cs

/-- **When the helpers stay in bounds**, for the bytes of every text and every limit. A caller's
array holds its size and the terminator, so the units may be one more than that size; a wide string
holds the text if all of it is in the basic plane; and a text that is not cut is left alone. -/
theorem helpers_inBounds_iff (cs : List Char) (wsize len : ℕ) :
    (BufferSafe (utf8Encode cs) wsize ↔
        (cs.length ≤ wsize → cs.length + astrals cs ≤ wsize + 1)) ∧
      (StringSafe (utf8Encode cs) ↔ astrals cs = 0) ∧
      (TruncatesWell (utf8Encode cs) len ↔ cs.length ≤ len ∨ astrals cs = 0) :=
  ⟨bufferSafe_iff cs wsize, stringSafe_iff cs, truncatesWell_iff cs len⟩

def twoAstrals : List Char := [Char.ofNat 0x1F600, Char.ofNat 0x1F600]

/-- **Two characters outside the basic plane take four units**, and there is room for two. -/
theorem twoAstrals_outOfBounds :
    ¬BufferSafe (utf8Encode twoAstrals) 2 ∧ ¬StringSafe (utf8Encode twoAstrals) ∧
      ¬TruncatesWell (utf8Encode twoAstrals) 1 := by
  rw [bufferSafe_iff, stringSafe_iff, truncatesWell_iff]
  decide

end FunPvp.Utilities
