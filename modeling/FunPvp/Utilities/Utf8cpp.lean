/-
# The vendored UTF-8 functions

`utf8::next` reads one character from a string of octets: the lead octet says how many there are,
and the code point is put together from them. It throws where the string is not valid. The other
functions are loops over it: `distance` counts characters, `utf8to16` writes UTF-16 units with
surrogate pairs, and `utf16to8` goes the other way.

On the bytes of a text `next` reads its characters one after the other, so `distance` is the number
of its characters and `utf8to16` writes its UTF-16 units. A function that writes is given here by
what it writes, in order; the writing is in `Utf8Strings.lean`.
-/
import FunPvp.Lib.Unicode

namespace FunPvp.Utilities

open FunPvp.Lib

namespace utf8

/-! ## 1. Reading one character -/

inductive Thrown
  | not_enough_room
  | invalid_utf8
  | invalid_code_point
  | invalid_utf16
  deriving DecidableEq

/-- `utf_error`, but for `UTF8_OK`. -/
inductive UtfError
  | NOT_ENOUGH_ROOM
  | INVALID_LEAD
  | INCOMPLETE_SEQUENCE
  | OVERLONG_SEQUENCE
  | INVALID_CODE_POINT
  deriving DecidableEq

def LEAD_SURROGATE_MIN : ℕ := 0xd800
def LEAD_SURROGATE_MAX : ℕ := 0xdbff
def TRAIL_SURROGATE_MIN : ℕ := 0xdc00
def TRAIL_SURROGATE_MAX : ℕ := 0xdfff
def LEAD_OFFSET : ℕ := LEAD_SURROGATE_MIN - (0x10000 >>> 10)
/-- `0x10000u - (LEAD_SURROGATE_MIN << 10) - TRAIL_SURROGATE_MIN`, modulo `2 ^ 32`. -/
def SURROGATE_OFFSET : ℕ := 2 ^ 32 + 0x10000 - (LEAD_SURROGATE_MIN <<< 10) - TRAIL_SURROGATE_MIN
def CODE_POINT_MAX : ℕ := 0x10ffff

def isTrail (oc : UInt8) : Bool := oc.toNat >>> 6 = 0x2

def isLeadSurrogate (cp : ℕ) : Bool := LEAD_SURROGATE_MIN ≤ cp ∧ cp ≤ LEAD_SURROGATE_MAX

def isTrailSurrogate (cp : ℕ) : Bool := TRAIL_SURROGATE_MIN ≤ cp ∧ cp ≤ TRAIL_SURROGATE_MAX

def isSurrogate (cp : ℕ) : Bool := LEAD_SURROGATE_MIN ≤ cp ∧ cp ≤ TRAIL_SURROGATE_MAX

def isCodePointValid (cp : ℕ) : Bool := cp ≤ CODE_POINT_MAX ∧ ¬isSurrogate cp

/-- `sequence_length`: the number of octets, from the lead octet. -/
def sequenceLength (lead : UInt8) : ℕ :=
  if lead.toNat < 0x80 then 1
  else if lead.toNat >>> 5 = 0x6 then 2
  else if lead.toNat >>> 4 = 0xe then 3
  else if lead.toNat >>> 3 = 0x1e then 4
  else 0

def isOverlongSequence (cp length : ℕ) : Bool :=
  if cp < 0x80 then length ≠ 1
  else if cp < 0x800 then length ≠ 2
  else if cp < 0x10000 then length ≠ 3
  else false

/-- `increase_safely`: the next octet, which has to be a trail octet, and what follows it. -/
def increaseSafely : List UInt8 → Except UtfError (ℕ × List UInt8)
  | [] => .error .NOT_ENOUGH_ROOM
  | oc :: rest => if isTrail oc then .ok (oc.toNat, rest) else .error .INCOMPLETE_SEQUENCE

/-- `get_sequence_1`, `…_2`, `…_3` and `…_4`: the code point of a sequence of that length, given its
lead octet and what follows it, and what follows the sequence. -/
def getSequence1 (lead : ℕ) (rest : List UInt8) : Except UtfError (ℕ × List UInt8) :=
  .ok (lead, rest)

@[inherit_doc getSequence1]
def getSequence2 (lead : ℕ) (rest : List UInt8) : Except UtfError (ℕ × List UInt8) := do
  let (b, rest) ← increaseSafely rest
  .ok ((lead <<< 6 &&& 0x7ff) + (b &&& 0x3f), rest)

@[inherit_doc getSequence1]
def getSequence3 (lead : ℕ) (rest : List UInt8) : Except UtfError (ℕ × List UInt8) := do
  let (b, rest) ← increaseSafely rest
  let codePoint := (lead <<< 12 &&& 0xffff) + (b <<< 6 &&& 0xfff)
  let (c, rest) ← increaseSafely rest
  .ok (codePoint + (c &&& 0x3f), rest)

@[inherit_doc getSequence1]
def getSequence4 (lead : ℕ) (rest : List UInt8) : Except UtfError (ℕ × List UInt8) := do
  let (b, rest) ← increaseSafely rest
  let codePoint := (lead <<< 18 &&& 0x1fffff) + (b <<< 12 &&& 0x3ffff)
  let (c, rest) ← increaseSafely rest
  let codePoint := codePoint + (c <<< 6 &&& 0xfff)
  let (d, rest) ← increaseSafely rest
  .ok (codePoint + (d &&& 0x3f), rest)

/-- The `switch` of `validate_next`. -/
def getSequence (length : ℕ) (lead : ℕ) (rest : List UInt8) : Except UtfError (ℕ × List UInt8) :=
  match length with
  | 0 => .error .INVALID_LEAD
  | 1 => getSequence1 lead rest
  | 2 => getSequence2 lead rest
  | 3 => getSequence3 lead rest
  | _ => getSequence4 lead rest

/-- `validate_next`, given the lead octet and what follows it. -/
def validateNext (lead : UInt8) (rest : List UInt8) : Except UtfError (ℕ × List UInt8) := do
  let length := sequenceLength lead
  let (cp, rest) ← getSequence length lead.toNat rest
  if isCodePointValid cp then
    if ¬isOverlongSequence cp length then .ok (cp, rest) else .error .OVERLONG_SEQUENCE
  else .error .INVALID_CODE_POINT

/-- `next`: a code point and what follows it. -/
def next (lead : UInt8) (rest : List UInt8) : Except Thrown (ℕ × List UInt8) :=
  match validateNext lead rest with
  | .ok read => .ok read
  | .error .NOT_ENOUGH_ROOM => .error .not_enough_room
  | .error .INVALID_LEAD => .error .invalid_utf8
  | .error .INCOMPLETE_SEQUENCE => .error .invalid_utf8
  | .error .OVERLONG_SEQUENCE => .error .invalid_utf8
  | .error .INVALID_CODE_POINT => .error .invalid_code_point

/-! ## 2. Characters are read back -/

variable {n : ℕ} {cp : ℕ} {lead : UInt8} {rest tail : List UInt8}

theorem increaseSafely_trail (hn : n < 0x40) (rest : List UInt8) :
    increaseSafely (.ofNat (n + 0x80) :: rest) = .ok (n + 0x80, rest) := by
  have htoNat : (UInt8.ofNat (n + 0x80)).toNat = n + 0x80 := by
    rw [UInt8.toNat_ofNat']
    omega
  have htrail : isTrail (.ofNat (n + 0x80)) = true := by
    simp only [isTrail, htoNat, decide_eq_true_eq, Nat.shiftRight_eq_div_pow]
    omega
  rw [increaseSafely, if_pos htrail, htoNat]

theorem toNat_range (c : Char) :
    c.toNat < 0xd800 ∨ 0xdfff < c.toNat ∧ c.toNat < 0x110000 := c.valid

theorem isCodePointValid_iff :
    isCodePointValid cp = true ↔ cp < 0xd800 ∨ 0xdfff < cp ∧ cp < 0x110000 := by
  unfold isCodePointValid isSurrogate CODE_POINT_MAX LEAD_SURROGATE_MIN TRAIL_SURROGATE_MAX
  rw [decide_eq_true_eq, decide_eq_true_eq]
  omega

theorem next_eq_ok_iff :
    next lead rest = .ok (cp, tail) ↔
      getSequence (sequenceLength lead) lead.toNat rest = .ok (cp, tail) ∧
        isCodePointValid cp = true ∧ isOverlongSequence cp (sequenceLength lead) = false := by
  have hnext : next lead rest = .ok (cp, tail) ↔ validateNext lead rest = .ok (cp, tail) := by
    unfold next
    split
    · next h => rw [h]; simp
    all_goals (next h => rw [h]; simp)
  rw [hnext, validateNext]
  cases getSequence (sequenceLength lead) lead.toNat rest with
  | error err => simp [bind, Except.bind]
  | ok read =>
    obtain ⟨cp', tail'⟩ := read
    simp only [bind, Except.bind]
    split
    · next hvalid =>
      split
      · next hshort =>
        have hshort' : isOverlongSequence cp' (sequenceLength lead) = false := by simpa using hshort
        constructor
        · intro h
          obtain ⟨rfl, rfl⟩ := Prod.mk.inj (Except.ok.inj h)
          exact ⟨rfl, hvalid, hshort'⟩
        · exact fun h => h.1
      · next hshort =>
        refine iff_of_false (fun h => by cases h) fun h => hshort ?_
        obtain ⟨rfl, rfl⟩ := Prod.mk.inj (Except.ok.inj h.1)
        simp [h.2.2]
    · next hvalid =>
      refine iff_of_false (fun h => by cases h) fun h => hvalid ?_
      obtain ⟨rfl, rfl⟩ := Prod.mk.inj (Except.ok.inj h.1)
      exact h.2.1

theorem and_0x3f (n : ℕ) : n &&& 0x3f = n % 0x40 := Nat.and_two_pow_sub_one_eq_mod n 6

theorem and_0x7ff (n : ℕ) : n &&& 0x7ff = n % 0x800 := Nat.and_two_pow_sub_one_eq_mod n 11

theorem and_0xfff (n : ℕ) : n &&& 0xfff = n % 0x1000 := Nat.and_two_pow_sub_one_eq_mod n 12

theorem and_0xffff (n : ℕ) : n &&& 0xffff = n % 0x10000 := Nat.and_two_pow_sub_one_eq_mod n 16

theorem and_0x3ffff (n : ℕ) : n &&& 0x3ffff = n % 0x40000 := Nat.and_two_pow_sub_one_eq_mod n 18

theorem and_0x1fffff (n : ℕ) : n &&& 0x1fffff = n % 0x200000 :=
  Nat.and_two_pow_sub_one_eq_mod n 21

theorem next_utf8EncodeChar (c : Char) (tail : List UInt8) :
    ∃ lead rest, String.utf8EncodeChar c ++ tail = lead :: rest ∧
      next lead rest = .ok (c.toNat, tail) := by
  have hc : c.val.toNat = c.toNat := rfl
  have hvalid := isCodePointValid_iff.mpr (toNat_range c)
  have hmax : c.toNat < 0x110000 := by
    have h := toNat_range c
    omega
  unfold String.utf8EncodeChar
  simp only [hc]
  split
  · next h1 =>
    refine ⟨_, _, rfl, next_eq_ok_iff.mpr ?_⟩
    have hlead : (UInt8.ofNat c.toNat).toNat = c.toNat := by
      rw [UInt8.toNat_ofNat']
      omega
    have hlength : sequenceLength (.ofNat c.toNat) = 1 := by
      rw [sequenceLength, hlead, if_pos (by omega)]
    rw [hlength, hlead]
    refine ⟨rfl, hvalid, ?_⟩
    rw [isOverlongSequence, if_pos (by omega)]
    rfl
  split
  · next h1 h2 =>
    refine ⟨_, .ofNat (c.toNat % 0x40 + 0x80) :: tail, rfl, next_eq_ok_iff.mpr ?_⟩
    have hlead : (UInt8.ofNat (c.toNat / 64 % 0x20 + 0xc0)).toNat = c.toNat / 64 + 0xc0 := by
      rw [UInt8.toNat_ofNat']
      omega
    have hlength : sequenceLength (.ofNat (c.toNat / 64 % 0x20 + 0xc0)) = 2 := by
      simp only [sequenceLength, hlead, Nat.shiftRight_eq_div_pow]
      rw [if_neg (by omega), if_pos (by omega)]
    rw [hlength, hlead]
    refine ⟨?_, hvalid, ?_⟩
    · simp only [getSequence, getSequence2, bind, Except.bind,
        increaseSafely_trail (show c.toNat % 0x40 < 0x40 by omega), and_0x7ff, and_0x3f,
        Nat.shiftLeft_eq]
      congr 2
      omega
    · rw [isOverlongSequence, if_neg (by omega), if_pos (by omega)]
      rfl
  split
  · next h1 h2 h3 =>
    refine ⟨_, .ofNat (c.toNat / 64 % 0x40 + 0x80) :: .ofNat (c.toNat % 0x40 + 0x80) :: tail, rfl,
      next_eq_ok_iff.mpr ?_⟩
    have hlead : (UInt8.ofNat (c.toNat / 4096 % 0x10 + 0xe0)).toNat = c.toNat / 4096 + 0xe0 := by
      rw [UInt8.toNat_ofNat']
      omega
    have hlength : sequenceLength (.ofNat (c.toNat / 4096 % 0x10 + 0xe0)) = 3 := by
      simp only [sequenceLength, hlead, Nat.shiftRight_eq_div_pow]
      rw [if_neg (by omega), if_neg (by omega), if_pos (by omega)]
    rw [hlength, hlead]
    refine ⟨?_, hvalid, ?_⟩
    · simp only [getSequence, getSequence3, bind, Except.bind,
        increaseSafely_trail (show c.toNat / 64 % 0x40 < 0x40 by omega),
        increaseSafely_trail (show c.toNat % 0x40 < 0x40 by omega), and_0xffff, and_0xfff,
        and_0x3f, Nat.shiftLeft_eq]
      congr 2
      omega
    · rw [isOverlongSequence, if_neg (by omega), if_neg (by omega), if_pos (by omega)]
      rfl
  · next h1 h2 h3 =>
    refine ⟨_, .ofNat (c.toNat / 4096 % 0x40 + 0x80) :: .ofNat (c.toNat / 64 % 0x40 + 0x80) ::
      .ofNat (c.toNat % 0x40 + 0x80) :: tail, rfl, next_eq_ok_iff.mpr ?_⟩
    have hlead : (UInt8.ofNat (c.toNat / 262144 % 0x08 + 0xf0)).toNat =
        c.toNat / 262144 + 0xf0 := by
      rw [UInt8.toNat_ofNat']
      omega
    have hlength : sequenceLength (.ofNat (c.toNat / 262144 % 0x08 + 0xf0)) = 4 := by
      simp only [sequenceLength, hlead, Nat.shiftRight_eq_div_pow]
      rw [if_neg (by omega), if_neg (by omega), if_neg (by omega), if_pos (by omega)]
    rw [hlength, hlead]
    refine ⟨?_, hvalid, ?_⟩
    · simp only [getSequence, getSequence4, bind, Except.bind,
        increaseSafely_trail (show c.toNat / 4096 % 0x40 < 0x40 by omega),
        increaseSafely_trail (show c.toNat / 64 % 0x40 < 0x40 by omega),
        increaseSafely_trail (show c.toNat % 0x40 < 0x40 by omega), and_0x1fffff, and_0x3ffff,
        and_0xfff, and_0x3f, Nat.shiftLeft_eq]
      congr 2
      omega
    · rw [isOverlongSequence, if_neg (by omega), if_neg (by omega), if_neg (by omega)]

/-! ## 3. Only characters are read -/

theorem exists_trail {l : List UInt8} {k : ℕ × List UInt8 → Except UtfError (ℕ × List UInt8)}
    {read : ℕ × List UInt8} (h : (increaseSafely l >>= k) = .ok read) :
    ∃ oc rest, l = oc :: rest ∧ oc.toNat / 0x40 = 2 ∧ k (oc.toNat, rest) = .ok read := by
  cases l with
  | nil => cases h
  | cons oc rest =>
    rw [increaseSafely] at h
    split at h
    · next htrail =>
      rw [isTrail, decide_eq_true_eq, Nat.shiftRight_eq_div_pow] at htrail
      exact ⟨oc, rest, rfl, htrail, h⟩
    · cases h

theorem length_of_not_overlong {cp length : ℕ} (h : isOverlongSequence cp length = false) :
    (cp < 0x80 → length = 1) ∧ (0x80 ≤ cp → cp < 0x800 → length = 2) ∧
      (0x800 ≤ cp → cp < 0x10000 → length = 3) := by
  unfold isOverlongSequence at h
  split at h
  · have hlength : length = 1 := by simpa using h
    omega
  split at h
  · have hlength : length = 2 := by simpa using h
    omega
  split at h
  · have hlength : length = 3 := by simpa using h
    omega
  · omega

theorem ofNat_eq_of_eq (oc : UInt8) {n : ℕ} (h : n = oc.toNat) : UInt8.ofNat n = oc := by
  rw [h, UInt8.ofNat_toNat]

theorem eq_utf8EncodeChar_of_next (h : next lead rest = .ok (cp, tail)) :
    ∃ c : Char, c.toNat = cp ∧ lead :: rest = String.utf8EncodeChar c ++ tail := by
  obtain ⟨hread, hvalid, hshort⟩ := next_eq_ok_iff.mp h
  have hcp := isCodePointValid_iff.mp hvalid
  have hchar : (Char.ofNat cp).toNat = cp := by
    rw [Char.toNat_ofNat, if_pos hcp]
  refine ⟨Char.ofNat cp, hchar, ?_⟩
  have hval : (Char.ofNat cp).val.toNat = cp := hchar
  have hlead := lead.toNat_lt
  unfold String.utf8EncodeChar
  simp only [hval]
  unfold sequenceLength at hread hshort
  simp only [Nat.shiftRight_eq_div_pow] at hread hshort
  by_cases h1 : lead.toNat < 0x80
  · rw [if_pos h1] at hread
    obtain ⟨rfl, rfl⟩ := Prod.mk.inj (Except.ok.inj hread)
    rw [if_pos (by omega), UInt8.ofNat_toNat]
    rfl
  rw [if_neg h1] at hread hshort
  by_cases h2 : lead.toNat / 2 ^ 5 = 0x6
  · rw [if_pos h2] at hread hshort
    obtain ⟨b, rest, rfl, hb, hread⟩ := exists_trail hread
    obtain ⟨hcode, rfl⟩ := Prod.mk.inj (Except.ok.inj hread)
    rw [and_0x7ff, and_0x3f, Nat.shiftLeft_eq] at hcode
    have hlong := length_of_not_overlong hshort
    rw [if_neg (by omega), if_pos (by omega), ofNat_eq_of_eq lead (by omega),
      ofNat_eq_of_eq b (by omega)]
    rfl
  rw [if_neg h2] at hread hshort
  by_cases h3 : lead.toNat / 2 ^ 4 = 0xe
  · rw [if_pos h3] at hread hshort
    obtain ⟨b, rest, rfl, hb, hread⟩ := exists_trail hread
    obtain ⟨d, rest, rfl, hd, hread⟩ := exists_trail hread
    obtain ⟨hcode, rfl⟩ := Prod.mk.inj (Except.ok.inj hread)
    rw [and_0xffff, and_0xfff, and_0x3f, Nat.shiftLeft_eq, Nat.shiftLeft_eq] at hcode
    have hlong := length_of_not_overlong hshort
    rw [if_neg (by omega), if_neg (by omega), if_pos (by omega),
      ofNat_eq_of_eq lead (by omega), ofNat_eq_of_eq b (by omega),
      ofNat_eq_of_eq d (by omega)]
    rfl
  rw [if_neg h3] at hread hshort
  by_cases h4 : lead.toNat / 2 ^ 3 = 0x1e
  · rw [if_pos h4] at hread hshort
    obtain ⟨b, rest, rfl, hb, hread⟩ := exists_trail hread
    obtain ⟨d, rest, rfl, hd, hread⟩ := exists_trail hread
    obtain ⟨e, rest, rfl, he, hread⟩ := exists_trail hread
    obtain ⟨hcode, rfl⟩ := Prod.mk.inj (Except.ok.inj hread)
    rw [and_0x1fffff, and_0x3ffff, and_0xfff, and_0x3f, Nat.shiftLeft_eq, Nat.shiftLeft_eq,
      Nat.shiftLeft_eq] at hcode
    have hlong := length_of_not_overlong hshort
    rw [if_neg (by omega), if_neg (by omega), if_neg (by omega),
      ofNat_eq_of_eq lead (by omega), ofNat_eq_of_eq b (by omega),
      ofNat_eq_of_eq d (by omega), ofNat_eq_of_eq e (by omega)]
    rfl
  · rw [if_neg h4] at hread
    cases hread

theorem length_le_of_next (h : next lead rest = .ok (cp, tail)) : tail.length ≤ rest.length := by
  obtain ⟨c, -, hbytes⟩ := eq_utf8EncodeChar_of_next h
  have hlength := congrArg List.length hbytes
  rw [List.length_cons, List.length_append, String.length_utf8EncodeChar] at hlength
  have hpos := c.utf8Size_pos
  omega

/-! ## 4. Strings -/

def distance : List UInt8 → Except Thrown ℕ
  | [] => .ok 0
  | lead :: rest =>
    match h : next lead rest with
    | .error e => .error e
    | .ok (_, tail) => (distance tail).map (· + 1)
termination_by s => s.length
decreasing_by
  have hlength := length_le_of_next h
  simp only [List.length_cons]
  omega

/-- The units that one round of `utf8to16` writes. -/
def utf16Units (cp : ℕ) : List UInt16 :=
  if cp > 0xffff then
    [.ofNat ((cp >>> 10) + LEAD_OFFSET), .ofNat ((cp &&& 0x3ff) + TRAIL_SURROGATE_MIN)]
  else [.ofNat cp]

/-- `utf8to16`: the units it writes. -/
def utf8to16 : List UInt8 → Except Thrown (List UInt16)
  | [] => .ok []
  | lead :: rest =>
    match _h : next lead rest with
    | .error e => .error e
    | .ok (cp, tail) => (utf8to16 tail).map (utf16Units cp ++ ·)
termination_by s => s.length
decreasing_by
  have hlength := length_le_of_next _h
  simp only [List.length_cons]
  omega

/-- `append`: the octets it writes. -/
def append (cp : ℕ) : Except Thrown (List UInt8) :=
  if ¬isCodePointValid cp then .error .invalid_code_point
  else if cp < 0x80 then .ok [.ofNat cp]
  else if cp < 0x800 then .ok [.ofNat (cp >>> 6 ||| 0xc0), .ofNat ((cp &&& 0x3f) ||| 0x80)]
  else if cp < 0x10000 then
    .ok [.ofNat (cp >>> 12 ||| 0xe0), .ofNat ((cp >>> 6 &&& 0x3f) ||| 0x80),
      .ofNat ((cp &&& 0x3f) ||| 0x80)]
  else
    .ok [.ofNat (cp >>> 18 ||| 0xf0), .ofNat ((cp >>> 12 &&& 0x3f) ||| 0x80),
      .ofNat ((cp >>> 6 &&& 0x3f) ||| 0x80), .ofNat ((cp &&& 0x3f) ||| 0x80)]

/-- `utf16to8`: the octets it writes. -/
def utf16to8 : List UInt16 → Except Thrown (List UInt8)
  | [] => .ok []
  | cp :: rest =>
    if isLeadSurrogate cp.toNat then
      match rest with
      | [] => .error .invalid_utf16
      | trail :: rest =>
        if isTrailSurrogate trail.toNat then do
          let octets ← append (((cp.toNat <<< 10) + trail.toNat + SURROGATE_OFFSET) % 2 ^ 32)
          (utf16to8 rest).map (octets ++ ·)
        else .error .invalid_utf16
    else if isTrailSurrogate cp.toNat then .error .invalid_utf16
    else do
      let octets ← append cp.toNat
      (utf16to8 rest).map (octets ++ ·)

theorem distance_cons (h : next lead rest = .ok (cp, tail)) :
    distance (lead :: rest) = (distance tail).map (· + 1) := by
  rw [distance]
  split
  · next he =>
    rw [h] at he
    cases he
  · next he =>
    rw [h] at he
    obtain ⟨-, rfl⟩ := Prod.mk.inj (Except.ok.inj he)
    rfl

theorem utf8to16_cons (h : next lead rest = .ok (cp, tail)) :
    utf8to16 (lead :: rest) = (utf8to16 tail).map (utf16Units cp ++ ·) := by
  rw [utf8to16]
  split
  · next he =>
    rw [h] at he
    cases he
  · next he =>
    rw [h] at he
    obtain ⟨rfl, rfl⟩ := Prod.mk.inj (Except.ok.inj he)
    rfl

/-- **`distance`** of the bytes of a text is the number of its characters. -/
theorem distance_utf8Encode (cs : List Char) : distance (utf8Encode cs) = .ok cs.length := by
  induction cs with
  | nil => rw [utf8Encode_nil, distance, List.length_nil]
  | cons c cs ih =>
    obtain ⟨lead, rest, hbytes, hnext⟩ := next_utf8EncodeChar c (utf8Encode cs)
    rw [utf8Encode_cons, hbytes, distance_cons hnext, ih]
    rfl

theorem and_0x3ff (n : ℕ) : n &&& 0x3ff = n % 0x400 := Nat.and_two_pow_sub_one_eq_mod n 10

theorem utf16Units_toNat (c : Char) : utf16Units c.toNat = utf16EncodeChar c := by
  unfold utf16Units utf16EncodeChar
  by_cases h : IsAstral c
  · have hbig : c.toNat > 0xffff := h
    rw [if_pos h, if_pos hbig, and_0x3ff, Nat.shiftRight_eq_div_pow]
    have hlead : c.toNat / 2 ^ 10 + LEAD_OFFSET = 0xD800 + (c.toNat - 0x10000) / 0x400 := by
      simp only [LEAD_OFFSET, LEAD_SURROGATE_MIN, Nat.shiftRight_eq_div_pow]
      omega
    rw [hlead, TRAIL_SURROGATE_MIN, Nat.add_comm (c.toNat % 0x400)]
  · rw [if_neg h, if_neg (by unfold IsAstral at h; omega)]

theorem utf8to16_utf8Encode (cs : List Char) :
    utf8to16 (utf8Encode cs) = .ok (utf16Encode cs) := by
  induction cs with
  | nil => rw [utf8Encode_nil, utf8to16, utf16Encode_nil]
  | cons c cs ih =>
    obtain ⟨lead, rest, hbytes, hnext⟩ := next_utf8EncodeChar c (utf8Encode cs)
    rw [utf8Encode_cons, hbytes, utf8to16_cons hnext, ih, utf16Units_toNat]
    rfl

theorem or_0x80 (h : n < 2 ^ 6) : n ||| 0x80 = n + 0x80 := by
  rw [Nat.or_comm, Nat.add_comm]
  exact (Nat.two_pow_add_eq_or_of_lt h 2).symm

theorem or_0xc0 (h : n < 2 ^ 6) : n ||| 0xc0 = n + 0xc0 := by
  rw [Nat.or_comm, Nat.add_comm]
  exact (Nat.two_pow_add_eq_or_of_lt h 3).symm

theorem or_0xe0 (h : n < 2 ^ 5) : n ||| 0xe0 = n + 0xe0 := by
  rw [Nat.or_comm, Nat.add_comm]
  exact (Nat.two_pow_add_eq_or_of_lt h 7).symm

theorem or_0xf0 (h : n < 2 ^ 4) : n ||| 0xf0 = n + 0xf0 := by
  rw [Nat.or_comm, Nat.add_comm]
  exact (Nat.two_pow_add_eq_or_of_lt h 15).symm

theorem append_toNat (c : Char) : append c.toNat = .ok (String.utf8EncodeChar c) := by
  have hc : c.val.toNat = c.toNat := rfl
  have hrange := toNat_range c
  have hvalid := isCodePointValid_iff.mpr hrange
  unfold append String.utf8EncodeChar
  simp only [hc, hvalid, not_true_eq_false, if_false]
  by_cases h1 : c.toNat < 0x80
  · rw [if_pos h1, if_pos (by omega)]
  rw [if_neg h1, if_neg (show ¬c.toNat ≤ 0x7f by omega)]
  by_cases h2 : c.toNat < 0x800
  · rw [if_pos h2, if_pos (by omega), and_0x3f, Nat.shiftRight_eq_div_pow, or_0x80 (by omega),
      or_0xc0 (by omega)]
    congr 3
    omega
  rw [if_neg h2, if_neg (show ¬c.toNat ≤ 0x7ff by omega)]
  by_cases h3 : c.toNat < 0x10000
  · rw [if_pos h3, if_pos (by omega), and_0x3f, and_0x3f, Nat.shiftRight_eq_div_pow,
      Nat.shiftRight_eq_div_pow, or_0x80 (by omega), or_0x80 (by omega), or_0xe0 (by omega)]
    congr 3
    omega
  · rw [if_neg h3, if_neg (by omega), and_0x3f, and_0x3f, and_0x3f, Nat.shiftRight_eq_div_pow,
      Nat.shiftRight_eq_div_pow, Nat.shiftRight_eq_div_pow, or_0x80 (by omega),
      or_0x80 (by omega), or_0x80 (by omega), or_0xf0 (by omega)]
    congr 3
    omega

theorem utf16to8_pair {lead trail : UInt16} {c : Char} (rest : List UInt16)
    (hlead : lead.toNat = 0xD800 + (c.toNat - 0x10000) / 0x400)
    (htrail : trail.toNat = 0xDC00 + c.toNat % 0x400) (hc : 0x10000 ≤ c.toNat) :
    utf16to8 (lead :: trail :: rest) = (utf16to8 rest).map (String.utf8EncodeChar c ++ ·) := by
  have hrange := toNat_range c
  have hisLead : isLeadSurrogate lead.toNat = true := by
    rw [isLeadSurrogate, decide_eq_true_eq, LEAD_SURROGATE_MIN, LEAD_SURROGATE_MAX]
    omega
  have hisTrail : isTrailSurrogate trail.toNat = true := by
    rw [isTrailSurrogate, decide_eq_true_eq, TRAIL_SURROGATE_MIN, TRAIL_SURROGATE_MAX]
    omega
  have hcp : ((lead.toNat <<< 10) + trail.toNat + SURROGATE_OFFSET) % 2 ^ 32 = c.toNat := by
    simp only [SURROGATE_OFFSET, LEAD_SURROGATE_MIN, TRAIL_SURROGATE_MIN, Nat.shiftLeft_eq]
    omega
  rw [utf16to8, if_pos hisLead, if_pos hisTrail, hcp, append_toNat]
  rfl

theorem utf16to8_single {unit : UInt16} {c : Char} (rest : List UInt16)
    (hunit : unit.toNat = c.toNat) :
    utf16to8 (unit :: rest) = (utf16to8 rest).map (String.utf8EncodeChar c ++ ·) := by
  have hrange := toNat_range c
  have hnotLead : ¬isLeadSurrogate unit.toNat = true := by
    rw [isLeadSurrogate, decide_eq_true_eq, LEAD_SURROGATE_MIN, LEAD_SURROGATE_MAX]
    omega
  have hnotTrail : ¬isTrailSurrogate unit.toNat = true := by
    rw [isTrailSurrogate, decide_eq_true_eq, TRAIL_SURROGATE_MIN, TRAIL_SURROGATE_MAX]
    omega
  conv_lhs => unfold utf16to8
  rw [if_neg hnotLead, if_neg hnotTrail, hunit, append_toNat]
  rfl

theorem utf16to8_utf16Encode (cs : List Char) :
    utf16to8 (utf16Encode cs) = .ok (utf8Encode cs) := by
  induction cs with
  | nil => rfl
  | cons c cs ih =>
    have hrange := toNat_range c
    rw [utf16Encode_cons, utf16EncodeChar]
    by_cases h : IsAstral c
    · have hbig : 0x10000 ≤ c.toNat := h
      rw [if_pos h]
      refine (utf16to8_pair (utf16Encode cs) ?_ ?_ hbig).trans (by rw [ih]; rfl)
      · rw [UInt16.toNat_ofNat']
        omega
      · rw [UInt16.toNat_ofNat']
        omega
    · have hsmall : ¬0x10000 ≤ c.toNat := h
      rw [if_neg h]
      refine (utf16to8_single (c := c) (utf16Encode cs) ?_).trans (by rw [ih]; rfl)
      rw [UInt16.toNat_ofNat']
      omega

/-! ## 5. What the conversions accept -/

variable {bytes octets : List UInt8} {units : List UInt16}

theorem exists_char_of_append (h : append cp = .ok octets) : ∃ c : Char, c.toNat = cp := by
  by_cases hvalid : isCodePointValid cp = true
  · refine ⟨Char.ofNat cp, ?_⟩
    rw [Char.toNat_ofNat, if_pos (isCodePointValid_iff.mp hvalid)]
  · rw [append, if_pos hvalid] at h
    cases h

theorem exists_utf8Encode_of_utf8to16 (h : utf8to16 bytes = .ok units) :
    ∃ cs, utf8Encode cs = bytes := by
  fun_induction utf8to16 bytes generalizing units with
  | case1 => exact ⟨[], utf8Encode_nil⟩
  | case2 => cases h
  | case3 lead rest cp tail hnext ih =>
    cases htail : utf8to16 tail with
    | error e =>
      rw [htail] at h
      cases h
    | ok units' =>
      obtain ⟨cs, rfl⟩ := ih htail
      obtain ⟨c, -, hbytes⟩ := eq_utf8EncodeChar_of_next hnext
      exact ⟨c :: cs, (utf8Encode_cons c cs).trans hbytes.symm⟩

theorem utf16EncodeChar_pair {lead trail : UInt16} {c : Char}
    (hlead : isLeadSurrogate lead.toNat = true) (htrail : isTrailSurrogate trail.toNat = true)
    (hc : c.toNat = ((lead.toNat <<< 10) + trail.toNat + SURROGATE_OFFSET) % 2 ^ 32) :
    utf16EncodeChar c = [lead, trail] := by
  rw [isLeadSurrogate, decide_eq_true_eq, LEAD_SURROGATE_MIN, LEAD_SURROGATE_MAX] at hlead
  rw [isTrailSurrogate, decide_eq_true_eq, TRAIL_SURROGATE_MIN, TRAIL_SURROGATE_MAX] at htrail
  simp only [SURROGATE_OFFSET, LEAD_SURROGATE_MIN, TRAIL_SURROGATE_MIN, Nat.shiftLeft_eq] at hc
  have hfirst : 0xD800 + (c.toNat - 0x10000) / 0x400 = lead.toNat := by omega
  have hsecond : 0xDC00 + c.toNat % 0x400 = trail.toNat := by omega
  have hastral : IsAstral c := show 0x10000 ≤ c.toNat by omega
  rw [utf16EncodeChar, if_pos hastral, hfirst, hsecond, UInt16.ofNat_toNat, UInt16.ofNat_toNat]

theorem utf16EncodeChar_single {unit : UInt16} {c : Char} (hc : c.toNat = unit.toNat) :
    utf16EncodeChar c = [unit] := by
  have hunit := unit.toNat_lt
  have hbasic : ¬IsAstral c := show ¬0x10000 ≤ c.toNat by omega
  rw [utf16EncodeChar, if_neg hbasic, hc, UInt16.ofNat_toNat]

theorem exists_of_append_map {read : Except Thrown (List UInt8)}
    (h : (do let octets ← append cp; read.map (octets ++ ·)) = .ok bytes) :
    (∃ c : Char, c.toNat = cp) ∧ ∃ bytes', read = .ok bytes' := by
  cases happend : append cp with
  | error e =>
    rw [happend] at h
    cases h
  | ok octets =>
    rw [happend] at h
    cases read with
    | error e => cases h
    | ok bytes' => exact ⟨exists_char_of_append happend, bytes', rfl⟩

theorem exists_utf16Encode_of_utf16to8 (h : utf16to8 units = .ok bytes) :
    ∃ cs, utf16Encode cs = units := by
  fun_induction utf16to8 units generalizing bytes with
  | case1 => exact ⟨[], utf16Encode_nil⟩
  | case2 | case4 | case5 => cases h
  | case3 lead hlead trail rest htrail ih =>
    obtain ⟨⟨c, hc⟩, bytes', hrest⟩ := exists_of_append_map h
    obtain ⟨cs, rfl⟩ := ih hrest
    exact ⟨c :: cs, by rw [utf16Encode_cons, utf16EncodeChar_pair hlead htrail hc]; rfl⟩
  | case6 unit rest hlead htrail ih =>
    obtain ⟨⟨c, hc⟩, bytes', hrest⟩ := exists_of_append_map h
    obtain ⟨cs, rfl⟩ := ih hrest
    exact ⟨c :: cs, by rw [utf16Encode_cons, utf16EncodeChar_single hc]; rfl⟩

/-- **Each conversion accepts exactly the encodings of texts** and answers with the other encoding
of the same text: on what they accept they are inverse to each other. -/
theorem conversions_inverse (bytes : List UInt8) (units : List UInt16) :
    (utf8to16 bytes = .ok units ↔ ∃ cs, utf8Encode cs = bytes ∧ utf16Encode cs = units) ∧
      (utf16to8 units = .ok bytes ↔ ∃ cs, utf8Encode cs = bytes ∧ utf16Encode cs = units) := by
  refine ⟨⟨fun h => ?_, ?_⟩, ⟨fun h => ?_, ?_⟩⟩
  · obtain ⟨cs, rfl⟩ := exists_utf8Encode_of_utf8to16 h
    exact ⟨cs, rfl, Except.ok.inj ((utf8to16_utf8Encode cs).symm.trans h)⟩
  · rintro ⟨cs, rfl, rfl⟩
    exact utf8to16_utf8Encode cs
  · obtain ⟨cs, rfl⟩ := exists_utf16Encode_of_utf16to8 h
    exact ⟨cs, Except.ok.inj ((utf16to8_utf16Encode cs).symm.trans h), rfl⟩
  · rintro ⟨cs, rfl, rfl⟩
    exact utf16to8_utf16Encode cs

end utf8

end FunPvp.Utilities
