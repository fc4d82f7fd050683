/-
# What is written is read

The bytes of a sequence of values are those of the values one behind the other (`encode`), whatever
the byte order of the host; reading takes them off again. `unread` is what a read has before it;
every read is a function of that, and moves the position by the bytes it has used.
-/
import FunPvp.Packets.ByteBuffer

namespace FunPvp.Packets

open Lib

/-! ## 1. Steps of a function -/

section Steps

variable {α β : Type} {x : Buffered α} {f : α → Buffered β} {b b' : ByteBuffer}

theorem bind_of_ok {a : α} (h : x b = .ok a b') : (x >>= f) b = f a b' := by
  change EStateM.bind x f b = _
  rw [EStateM.bind, h]

theorem bind_of_error {fault : Fault} (h : x b = .error fault b') :
    (x >>= f) b = .error fault b' := by
  change EStateM.bind x f b = _
  rw [EStateM.bind, h]

end Steps

/-! ## 2. The bytes of an integer -/

theorem Endian.store_convert (e : Endian) (k n : ℕ) :
    e.store k (e.convert k n) = leBytes k n := by
  cases e with
  | little => rfl
  | big =>
    change (leBytes k (leNat ((leBytes k n).reverse.reverse).reverse)).reverse = _
    rw [List.reverse_reverse]
    have hback := leBytes_leNat (leBytes k n).reverse
    rw [List.length_reverse, length_leBytes] at hback
    rw [hback, List.reverse_reverse]

theorem Endian.convert_load (e : Endian) {k : ℕ} {bytes : List UInt8} (h : bytes.length = k) :
    e.convert k (e.load bytes) = leNat bytes := by
  cases e with
  | little => rfl
  | big =>
    change leNat ((leBytes k (leNat bytes.reverse)).reverse.reverse).reverse = _
    have hback := leBytes_leNat bytes.reverse
    rw [List.length_reverse, h] at hback
    rw [List.reverse_reverse, hback, List.reverse_reverse]

namespace IntType

theorem toBits_lt : ∀ (t : IntType) (v : t.Value), t.toBits v < 256 ^ t.sizeof
  | uint8, v => UInt8.toNat_lt v
  | uint16, v => UInt16.toNat_lt v
  | uint32, v => UInt32.toNat_lt v
  | uint64, v => UInt64.toNat_lt v
  | int8, v => UInt8.toNat_lt (Int8.toUInt8 v)
  | int16, v => UInt16.toNat_lt (Int16.toUInt16 v)
  | int32, v => UInt32.toNat_lt (Int32.toUInt32 v)
  | int64, v => UInt64.toNat_lt (Int64.toUInt64 v)

theorem ofBits_toBits : ∀ (t : IntType) (v : t.Value), t.ofBits (t.toBits v) = v
  | uint8, _ => UInt8.ofNat_toNat
  | uint16, _ => UInt16.ofNat_toNat
  | uint32, _ => UInt32.ofNat_toNat
  | uint64, _ => UInt64.ofNat_toNat
  | int8, v => congrArg UInt8.toInt8 (UInt8.ofNat_toNat (x := Int8.toUInt8 v))
  | int16, v => congrArg UInt16.toInt16 (UInt16.ofNat_toNat (x := Int16.toUInt16 v))
  | int32, v => congrArg UInt32.toInt32 (UInt32.ofNat_toNat (x := Int32.toUInt32 v))
  | int64, v => congrArg UInt64.toInt64 (UInt64.ofNat_toNat (x := Int64.toUInt64 v))

theorem sizeof_le (t : IntType) : 0 < t.sizeof ∧ t.sizeof ≤ 8 := by
  cases t <;> decide

end IntType

/-! ## 3. The position -/

namespace ByteBuffer

/-- The read position is in the vector, and that is of a size vectors have. -/
structure InRange (b : ByteBuffer) : Prop where
  le_size : b.rpos.toNat ≤ b.storage.length
  maxSize : b.storage.length < 2 ^ 63

def unread (b : ByteBuffer) : List UInt8 := b.storage.drop b.rpos.toNat

/-- The buffer with the read position `n` bytes further. -/
def skip (n : ℕ) (b : ByteBuffer) : ByteBuffer := { b with rpos := b.rpos + UInt64.ofNat n }

section Position

variable {b : ByteBuffer} {n m : ℕ}

theorem InRange.length_unread (h : b.InRange) :
    b.rpos.toNat + b.unread.length = b.storage.length := by
  rw [unread, List.length_drop]
  exact Nat.add_sub_of_le h.le_size

theorem InRange.toNat_size (h : b.InRange) : b.size.toNat = b.storage.length := by
  have hlt := h.maxSize
  exact UInt64.toNat_ofNat_of_lt' (by change b.storage.length < 2 ^ 64; omega)

theorem InRange.rpos_skip (h : b.InRange) (hn : n ≤ b.unread.length) :
    (b.skip n).rpos.toNat = b.rpos.toNat + n := by
  have hlength := h.length_unread
  have hmax := h.maxSize
  rw [skip, UInt64.toNat_add, UInt64.toNat_ofNat']
  omega

theorem InRange.skip (h : b.InRange) (hn : n ≤ b.unread.length) : (b.skip n).InRange where
  le_size := by
    have hlength := h.length_unread
    rw [h.rpos_skip hn]
    change _ ≤ b.storage.length
    omega
  maxSize := h.maxSize

theorem InRange.unread_skip (h : b.InRange) (hn : n ≤ b.unread.length) :
    (b.skip n).unread = b.unread.drop n := by
  rw [unread, h.rpos_skip hn, unread, List.drop_drop]
  rfl

theorem skip_skip : (b.skip n).skip m = b.skip (n + m) := by
  simp only [ByteBuffer.skip, UInt64.ofNat_add, UInt64.add_assoc]

theorem skip_zero : b.skip 0 = b := by
  rw [skip, show UInt64.ofNat 0 = 0 from rfl, UInt64.add_zero]

theorem InRange.short_iff (h : b.InRange) (len : UInt64)
    (hlen : b.rpos.toNat + len.toNat < 2 ^ 64) :
    b.rpos + len > b.size ↔ b.unread.length < len.toNat := by
  have hlength := h.length_unread
  rw [gt_iff_lt, UInt64.lt_iff_toNat_lt, h.toNat_size, UInt64.toNat_add, Nat.mod_eq_of_lt hlen]
  omega

end Position

/-! ## 4. Reads -/

section Reads

variable {b : ByteBuffer} {e : Endian}

theorem toNat_sizeof (t : IntType) : (UInt64.ofNat t.sizeof).toNat = t.sizeof := by
  cases t <;> rfl

theorem InRange.no_wrap (h : b.InRange) (t : IntType) :
    b.rpos.toNat + (UInt64.ofNat t.sizeof).toNat < 2 ^ 64 := by
  have hle := h.le_size
  have hmax := h.maxSize
  have hsize := t.sizeof_le.2
  rw [toNat_sizeof]
  omega

theorem InRange.read_eq (h : b.InRange) (t : IntType) :
    read e t b =
      if b.unread.length < t.sizeof then
        .error (.position false b.rpos (UInt64.ofNat t.sizeof) b.size) b
      else .ok (t.ofBits (leNat (b.unread.take t.sizeof))) (b.skip t.sizeof) := by
  have hshort := h.short_iff _ (h.no_wrap t)
  rw [toNat_sizeof] at hshort
  change EStateM.bind _ _ b = _
  by_cases hlt : b.unread.length < t.sizeof
  · have hread : readAt e t b.rpos b =
        .error (.position false b.rpos (UInt64.ofNat t.sizeof) b.size) b := by
      rw [readAt, if_pos (hshort.mpr hlt)]
    rw [if_pos hlt]
    exact bind_of_error hread
  · have hlength := h.length_unread
    have hinside : ¬ b.storage.length < b.rpos.toNat + t.sizeof := by omega
    have htake : (b.unread.take t.sizeof).length = t.sizeof := by
      rw [List.length_take]
      omega
    have hread : readAt e t b.rpos b = .ok (t.ofBits (leNat (b.unread.take t.sizeof))) b := by
      rw [readAt, if_neg (hshort.not.mpr hlt), if_neg hinside]
      change EStateM.Result.ok (t.ofBits (e.convert t.sizeof (e.load (b.unread.take t.sizeof)))) b
        = _
      rw [e.convert_load htake]
    rw [if_neg hlt]
    exact bind_of_ok hread

theorem InRange.read_byte (h : b.InRange) {c : UInt8} {rest : List UInt8}
    (hunread : b.unread = c :: rest) : read e .uint8 b = .ok c (b.skip 1) := by
  rw [h.read_eq, hunread, if_neg (by simp [IntType.sizeof])]
  have hc : IntType.uint8.ofBits (leNat ((c :: rest).take 1)) = c := by
    change UInt8.ofNat (c.toNat + 256 * 0) = c
    rw [Nat.mul_zero, Nat.add_zero, UInt8.ofNat_toNat]
  exact congrArg (EStateM.Result.ok · (b.skip 1)) hc

theorem InRange.needByte_eq (h : b.InRange) :
    needByte b = if b.unread = [] then .error (.position false b.rpos 1 b.size) b
      else .ok () b := by
  have hle := h.le_size
  have hmax := h.maxSize
  have hshort := h.short_iff 1 (by change b.rpos.toNat + 1 < 2 ^ 64; omega)
  have hnil : b.unread.length < (1 : UInt64).toNat ↔ b.unread = [] := by
    rw [← List.length_eq_zero_iff]
    exact Nat.lt_one_iff
  rw [needByte]
  exact if_congr (hshort.trans hnil) rfl rfl

theorem InRange.nextByte_eq {β : Type} (h : b.InRange) (f : UInt8 → Buffered β) :
    (needByte >>= fun _ => read e .uint8 >>= f) b =
      match b.unread with
      | [] => .error (.position false b.size 1 b.size) b
      | c :: _ => f c (b.skip 1) := by
  have hneed := h.needByte_eq
  cases hunread : b.unread with
  | nil =>
    have hend : b.rpos = b.size := by
      have hlength := h.length_unread
      rw [hunread, List.length_nil, Nat.add_zero] at hlength
      rw [← UInt64.toNat_inj, h.toNat_size, hlength]
    rw [if_pos hunread, hend] at hneed
    exact bind_of_error hneed
  | cons c rest =>
    rw [if_neg (hunread ▸ List.cons_ne_nil c rest)] at hneed
    exact (bind_of_ok hneed).trans (bind_of_ok (h.read_byte hunread))

theorem InRange.unread_skip_one (h : b.InRange) {c : UInt8} {rest : List UInt8}
    (hunread : b.unread = c :: rest) : (b.skip 1).InRange ∧ (b.skip 1).unread = rest := by
  have hone : 1 ≤ b.unread.length := by
    rw [hunread]
    exact Nat.succ_pos _
  refine ⟨h.skip hone, ?_⟩
  rw [h.unread_skip hone, hunread]
  rfl

/-- The characters of a string: those before the first NUL. -/
def chars (l : List UInt8) : List UInt8 := l.takeWhile (· ≠ 0)

/-- The bytes a string takes: its NUL with it, if there is one. -/
def stringSize (l : List UInt8) : ℕ := min ((chars l).length + 1) l.length

theorem InRange.readStringLoop_eq {fuel : ℕ} (h : b.InRange) (hfuel : b.unread.length < fuel)
    (value : List UInt8) :
    readStringLoop e fuel value b =
      .ok (value ++ chars b.unread) (b.skip (stringSize b.unread)) := by
  induction fuel generalizing b value with
  | zero => exact absurd hfuel (Nat.not_lt_zero _)
  | succ fuel ih =>
    have hlength := h.length_unread
    have hmore : b.rpos < b.size ↔ b.unread ≠ [] := by
      rw [UInt64.lt_iff_toNat_lt, h.toNat_size, ne_eq, ← List.length_eq_zero_iff]
      omega
    rw [readStringLoop]
    change (if b.rpos < b.size then _ else _ : Buffered (List UInt8)) b = _
    cases hunread : b.unread with
    | nil =>
      rw [if_neg (hmore.not.mpr (not_not.mpr hunread))]
      change EStateM.Result.ok value b = .ok (value ++ []) (b.skip 0)
      rw [List.append_nil, skip_zero]
    | cons c rest =>
      have hone : 1 ≤ b.unread.length := by
        rw [hunread]
        exact Nat.succ_pos _
      rw [if_pos (hmore.mpr (hunread ▸ List.cons_ne_nil c rest))]
      refine (bind_of_ok (h.read_byte hunread)).trans ?_
      by_cases hc : c = 0
      · subst hc
        rw [if_pos rfl]
        change EStateM.Result.ok value (b.skip 1) = _
        have hchars : chars (0 :: rest) = [] := List.takeWhile_cons_of_neg (by decide)
        rw [stringSize, hchars, List.append_nil, List.length_cons]
        congr 2
      · rw [if_neg hc]
        have hrest : (b.skip 1).unread = rest := by
          rw [h.unread_skip hone, hunread]
          rfl
        have hchars : chars (c :: rest) = c :: chars rest :=
          List.takeWhile_cons_of_pos (decide_eq_true hc)
        have hfuel' : (b.skip 1).unread.length < fuel := by
          rw [hunread, List.length_cons] at hfuel
          rw [hrest]
          omega
        rw [ih (h.skip hone) hfuel', hrest, skip_skip, stringSize, stringSize, hchars,
          List.append_assoc, List.singleton_append]
        congr 2
        simp only [List.length_cons]
        omega

theorem InRange.readString_eq (h : b.InRange) :
    readString e b = .ok (chars b.unread) (b.skip (stringSize b.unread)) := by
  have hlength := h.length_unread
  exact h.readStringLoop_eq (by omega) []

def marked (guidmark : UInt8) (bits : List ℕ) : List ℕ :=
  bits.filter fun i => guidmark &&& 1 <<< UInt8.ofNat i ≠ 0

theorem marked_cons {mark : UInt8} {i : ℕ} (hbit : mark &&& 1 <<< UInt8.ofNat i ≠ 0)
    (bits : List ℕ) : marked mark (i :: bits) = i :: marked mark bits :=
  List.filter_cons_of_pos (decide_eq_true hbit)

theorem marked_cons_of_not {mark : UInt8} {i : ℕ} (hbit : ¬ mark &&& 1 <<< UInt8.ofNat i ≠ 0)
    (bits : List ℕ) : marked mark (i :: bits) = marked mark bits :=
  List.filter_cons_of_neg fun h => hbit (of_decide_eq_true h)

/-- The guid, when there are bytes for the bits that are set. -/
def assemble : List ℕ → List UInt8 → UInt64 → UInt64
  | i :: is, bit :: bytes, guid =>
    assemble is bytes (guid ||| bit.toUInt64 <<< UInt64.ofNat (i * 8))
  | _, _, guid => guid

theorem InRange.unpackLoop_eq (h : b.InRange) (guidmark : UInt8) (bits : List ℕ)
    (guid : UInt64) :
    unpackLoop e guidmark bits guid b =
      if b.unread.length < (marked guidmark bits).length then
        .error (.position false b.size 1 b.size) (b.skip b.unread.length)
      else .ok (assemble (marked guidmark bits) b.unread guid)
        (b.skip (marked guidmark bits).length) := by
  induction bits generalizing b guid with
  | nil =>
    have hnone : ¬ b.unread.length < (marked guidmark []).length := Nat.not_lt_zero _
    rw [if_neg hnone]
    change EStateM.Result.ok guid b = .ok guid (b.skip 0)
    rw [skip_zero]
  | cons i bits ih =>
    rw [unpackLoop]
    by_cases hbit : guidmark &&& 1 <<< UInt8.ofNat i ≠ 0
    · rw [if_pos hbit, marked_cons hbit]
      refine (h.nextByte_eq _).trans ?_
      cases hunread : b.unread with
      | nil =>
        have hlt : ([] : List UInt8).length < (i :: marked guidmark bits).length :=
          Nat.succ_pos _
        rw [if_pos hlt, List.length_nil, skip_zero]
      | cons c rest =>
        obtain ⟨hskip, hrest⟩ := h.unread_skip_one hunread
        refine (ih hskip _).trans ?_
        rw [hrest, skip_skip, skip_skip, List.length_cons, List.length_cons, Nat.add_comm 1,
          Nat.add_comm 1]
        exact if_congr Nat.succ_lt_succ_iff.symm rfl rfl
    · rw [if_neg hbit, marked_cons_of_not hbit]
      exact ih h guid

theorem InRange.readPackGUID_eq (h : b.InRange) :
    readPackGUID e b =
      match b.unread with
      | [] => .error (.position false b.size 1 b.size) b
      | guidmark :: rest =>
        if rest.length < (marked guidmark (List.range 8)).length then
          .error (.position false b.size 1 b.size) (b.skip b.unread.length)
        else .ok (assemble (marked guidmark (List.range 8)) rest 0)
          (b.skip (1 + (marked guidmark (List.range 8)).length)) := by
  refine (h.nextByte_eq _).trans ?_
  cases hunread : b.unread with
  | nil => rfl
  | cons guidmark rest =>
    obtain ⟨hskip, hrest⟩ := h.unread_skip_one hunread
    refine (hskip.unpackLoop_eq guidmark (List.range 8) 0).trans ?_
    rw [hrest, skip_skip, skip_skip, List.length_cons, Nat.add_comm rest.length]
    rfl

end Reads

/-! ## 5. Appending -/

def push (src : List UInt8) (b : ByteBuffer) : ByteBuffer :=
  { b with storage := b.storage ++ src, wpos := b.wpos + UInt64.ofNat src.length }

def AtEnd (b : ByteBuffer) : Prop := b.wpos.toNat = b.storage.length

section Append

variable {b : ByteBuffer} {src src' : List UInt8}

theorem AtEnd.push (h : b.AtEnd) (hfit : b.storage.length + src.length < 2 ^ 63) :
    (b.push src).AtEnd := by
  change (b.wpos + UInt64.ofNat src.length).toNat = (b.storage ++ src).length
  have hend : b.wpos.toNat = b.storage.length := h
  rw [UInt64.toNat_add, UInt64.toNat_ofNat', List.length_append]
  omega

theorem push_push : (b.push src).push src' = b.push (src ++ src') := by
  simp only [ByteBuffer.push, List.append_assoc, List.length_append, UInt64.ofNat_add,
    UInt64.add_assoc]

theorem AtEnd.append_eq (h : b.AtEnd) (hne : src ≠ [])
    (hfit : b.storage.length + src.length < 2 ^ 63) :
    append src b =
      if b.storage.length < 10000000 then .ok () (b.push src) else .error .assertSize b := by
  have hend : b.wpos.toNat = b.storage.length := h
  have hpos := List.length_pos_of_ne_nil hne
  have hcnt : (UInt64.ofNat src.length).toNat = src.length :=
    UInt64.toNat_ofNat_of_lt' (by change src.length < 2 ^ 64; omega)
  have hsize : b.size.toNat = b.storage.length :=
    UInt64.toNat_ofNat_of_lt' (by change b.storage.length < 2 ^ 64; omega)
  have hsum : (b.wpos + UInt64.ofNat src.length).toNat = b.storage.length + src.length := by
    rw [UInt64.toNat_add, hcnt, hend]
    omega
  have hzero : ¬ UInt64.ofNat src.length = 0 := by
    intro h0
    rw [h0] at hcnt
    exact hpos.ne hcnt
  have hassert : b.size < 10000000 ↔ b.storage.length < 10000000 := by
    rw [UInt64.lt_iff_toNat_lt, hsize]
    rfl
  have hgrow : b.size < b.wpos + UInt64.ofNat src.length := by
    rw [UInt64.lt_iff_toNat_lt, hsize, hsum]
    omega
  have hresized : resized b.storage (b.wpos + UInt64.ofNat src.length) =
      b.storage ++ List.replicate src.length 0 := by
    rw [resized, hsum, List.take_of_length_le (Nat.le_add_right _ _), Nat.add_sub_cancel_left]
  have hinside : ¬ (b.storage ++ List.replicate src.length 0).length <
      b.wpos.toNat + (UInt64.ofNat src.length).toNat := by
    rw [List.length_append, List.length_replicate, hend, hcnt]
    exact Nat.lt_irrefl _
  rw [append]
  simp only [if_neg hzero, if_pos hgrow, hresized, if_neg hinside]
  by_cases hlt : b.storage.length < 10000000
  · rw [if_neg (not_not.mpr (hassert.mpr hlt)), if_pos hlt, hend, hcnt]
    have hfront : (b.storage ++ List.replicate src.length 0).take b.storage.length = b.storage :=
      List.take_left' rfl
    have hback : (b.storage ++ List.replicate src.length 0).drop
        (b.storage.length + src.length) = [] := by
      refine List.drop_of_length_le ?_
      rw [List.length_append, List.length_replicate]
    rw [hfront, hback, List.append_nil]
    rfl
  · rw [if_pos (hassert.not.mpr hlt), if_neg hlt]

end Append

/-! ## 6. Packed guids -/

theorem or_and (x y m : UInt8) : (x ||| y) &&& m = (x &&& m) ||| (y &&& m) :=
  UInt8.toBitVec_inj.mp BitVec.and_or_distrib_right

theorem bit_and_bit {i j : ℕ} (hi : i < 8) (hj : j < 8) :
    (1 <<< UInt8.ofNat i : UInt8) &&& 1 <<< UInt8.ofNat j ≠ 0 ↔ i = j := by
  have hall : ∀ i j : Fin 8, (1 <<< UInt8.ofNat i : UInt8) &&& 1 <<< UInt8.ofNat j ≠ 0 ↔
      (i : ℕ) = j := by decide +kernel
  exact hall ⟨i, hi⟩ ⟨j, hj⟩

/-- The mark of bytes, the first of them at the bit `i`. -/
def marksOf : UInt8 → List UInt8 → UInt8
  | _, [] => 0
  | i, c :: l => (if c ≠ 0 then 1 <<< i else 0) ||| marksOf (i + 1) l

/-- A mark has the bits of the bytes that are not zero, the first byte at the bit `i`. -/
def Marks (mark : UInt8) : ℕ → List UInt8 → Prop
  | _, [] => True
  | i, c :: l => (mark &&& 1 <<< UInt8.ofNat i ≠ 0 ↔ c ≠ 0) ∧ Marks mark (i + 1) l

theorem marksOf_and_bit {i j : ℕ} {l : List UInt8} (hj : j < i) (hl : i + l.length ≤ 8) :
    marksOf (UInt8.ofNat i) l &&& 1 <<< UInt8.ofNat j = 0 := by
  induction l generalizing i with
  | nil => exact UInt8.zero_and
  | cons c l ih =>
    rw [List.length_cons] at hl
    have hrest := ih (i := i + 1) (by omega) (by omega)
    rw [UInt8.ofNat_add] at hrest
    rw [marksOf, or_and]
    have hbit : (1 <<< UInt8.ofNat i : UInt8) &&& 1 <<< UInt8.ofNat j = 0 := by
      by_contra hne
      exact hj.ne' ((bit_and_bit (by omega) (by omega)).mp hne)
    rw [show UInt8.ofNat i + 1 = UInt8.ofNat i + UInt8.ofNat 1 from rfl, hrest, UInt8.or_zero]
    split
    · exact hbit
    · exact UInt8.zero_and

theorem marks_marksOf {i : ℕ} {l : List UInt8} (low : UInt8) (hl : i + l.length ≤ 8)
    (hlow : ∀ j, i ≤ j → j < 8 → low &&& 1 <<< UInt8.ofNat j = 0) :
    Marks (low ||| marksOf (UInt8.ofNat i) l) i l := by
  induction l generalizing i low with
  | nil => exact trivial
  | cons c l ih =>
    rw [List.length_cons] at hl
    have hi : i < 8 := by omega
    have hrest := marksOf_and_bit (Nat.lt_succ_self i) (by omega : i + 1 + l.length ≤ 8)
    have hown : (if c ≠ 0 then 1 <<< UInt8.ofNat i else 0 : UInt8) &&& 1 <<< UInt8.ofNat i ≠ 0 ↔
        c ≠ 0 := by
      split
      · next hc => exact iff_of_true ((bit_and_bit hi hi).mpr rfl) hc
      · next hc => exact iff_of_false (fun h0 => h0 UInt8.zero_and) hc
    have hmark : low ||| marksOf (UInt8.ofNat i) (c :: l) =
        (low ||| if c ≠ 0 then 1 <<< UInt8.ofNat i else 0) ||| marksOf (UInt8.ofNat (i + 1)) l := by
      rw [marksOf, UInt8.or_assoc, UInt8.ofNat_add]
      rfl
    rw [hmark]
    refine ⟨?_, ih _ (by omega) fun j hij hj => ?_⟩
    · rw [or_and, or_and, hlow i le_rfl hi, hrest, UInt8.zero_or, UInt8.or_zero]
      exact hown
    · rw [or_and, hlow j (by omega) hj, UInt8.zero_or]
      split
      · by_contra hne
        have heq := (bit_and_bit hi hj).mp hne
        omega
      · exact UInt8.zero_and

def nonzero (l : List UInt8) : List UInt8 := l.filter (· ≠ 0)

theorem nonzero_cons {c : UInt8} (hc : c ≠ 0) (l : List UInt8) :
    nonzero (c :: l) = c :: nonzero l :=
  List.filter_cons_of_pos (decide_eq_true hc)

theorem nonzero_cons_zero (l : List UInt8) : nonzero (0 :: l) = nonzero l :=
  List.filter_cons_of_neg (by decide)

def packed (guid : UInt64) : List UInt8 :=
  marksOf 0 (leBytes 8 guid.toNat) :: nonzero (leBytes 8 guid.toNat)

theorem leBytes_zero (n : ℕ) : leBytes n 0 = List.replicate n 0 := by
  induction n with
  | zero => rfl
  | succ n ih => rw [leBytes, Nat.zero_div, ih, List.replicate_succ]; rfl

theorem marksOf_zeros (i : UInt8) (n : ℕ) : marksOf i (List.replicate n 0) = 0 := by
  induction n generalizing i with
  | zero => rfl
  | succ n ih =>
    rw [List.replicate_succ, marksOf, ih, if_neg (not_not.mpr rfl), UInt8.or_zero]

theorem packLoop_eq {n : ℕ} {guid : UInt64} (h : guid.toNat < 256 ^ n) (i mark : UInt8)
    (data : List UInt8) :
    packLoop (n + 1) i guid mark data =
      some (mark ||| marksOf i (leBytes n guid.toNat),
        data ++ nonzero (leBytes n guid.toNat)) := by
  induction n generalizing guid i mark data with
  | zero =>
    have h0 : guid = 0 := UInt64.toNat_inj.mp (Nat.lt_one_iff.mp h)
    rw [packLoop, if_pos h0, leBytes, marksOf, UInt8.or_zero, nonzero, List.filter_nil,
      List.append_nil]
  | succ n ih =>
    rw [packLoop]
    by_cases h0 : guid = 0
    · rw [if_pos h0, h0, UInt64.toNat_zero, leBytes_zero, marksOf_zeros, UInt8.or_zero]
      simp [nonzero]
    · have hshift : (guid >>> 8).toNat = guid.toNat / 256 := by
        rw [UInt64.toNat_shiftRight]
        exact Nat.shiftRight_eq_div_pow _ _
      have hnext : (guid >>> 8).toNat < 256 ^ n := by
        rw [hshift]
        rw [pow_succ] at h
        omega
      have hmask : (guid &&& 0xFF).toNat = guid.toNat % 256 := by
        rw [UInt64.toNat_and]
        exact Nat.and_two_pow_sub_one_eq_mod guid.toNat 8
      have hlow : (guid &&& 0xFF).toUInt8 = UInt8.ofNat guid.toNat := by
        rw [← UInt8.toNat_inj, UInt64.toNat_toUInt8, hmask, UInt8.toNat_ofNat']
        omega
      have hbyte : guid &&& 0xFF ≠ 0 ↔ UInt8.ofNat guid.toNat ≠ 0 := by
        rw [ne_eq, ne_eq, ← UInt64.toNat_inj, ← UInt8.toNat_inj, hmask, UInt8.toNat_ofNat']
        rfl
      rw [if_neg h0, ih hnext, ih hnext, hshift, leBytes, marksOf]
      by_cases hb : UInt8.ofNat guid.toNat ≠ 0
      · rw [if_pos (hbyte.mpr hb), if_pos hb, nonzero_cons hb, hlow, UInt8.or_assoc,
          List.append_assoc, List.singleton_append]
      · rw [if_neg (hbyte.not.mpr hb), if_neg hb, UInt8.zero_or, not_not.mp hb,
          nonzero_cons_zero]

theorem appendPackGUID_eq (guid : UInt64) : appendPackGUID guid = append (packed guid) := by
  have hlt : guid.toNat < 256 ^ 8 := guid.toNat_lt
  rw [appendPackGUID, packLoop_eq hlt, UInt8.zero_or, List.nil_append]
  rfl

theorem shiftLeft_toNat {c : UInt8} {i : ℕ} (hi : i < 8) :
    (c.toUInt64 <<< UInt64.ofNat (i * 8)).toNat = c.toNat * 256 ^ i := by
  have hc := c.toNat_lt
  have hpow : c.toNat * 256 ^ i < 2 ^ 64 := by
    have hle : 256 ^ i ≤ 256 ^ 7 := Nat.pow_le_pow_right (by decide) (by omega)
    nlinarith
  have hi8 : (UInt64.ofNat (i * 8)).toNat % 64 = i * 8 := by
    rw [UInt64.toNat_ofNat']
    omega
  rw [UInt64.toNat_shiftLeft, hi8, UInt8.toNat_toUInt64, Nat.shiftLeft_eq,
    show 2 ^ (i * 8) = 256 ^ i by rw [Nat.mul_comm, Nat.pow_mul], Nat.mod_eq_of_lt hpow]

theorem assemble_marked {mark : UInt8} {l : List UInt8} {i : ℕ} (hl : i + l.length ≤ 8)
    (hmark : Marks mark i l) (guid : UInt64) (hguid : guid.toNat < 256 ^ i)
    (rest : List UInt8) :
    (marked mark (List.range' i l.length)).length = (nonzero l).length ∧
      (assemble (marked mark (List.range' i l.length)) (nonzero l ++ rest) guid).toNat =
        guid.toNat + 256 ^ i * leNat l := by
  induction l generalizing i guid with
  | nil => exact ⟨rfl, by rw [leNat, Nat.mul_zero]; rfl⟩
  | cons c l ih =>
    rw [List.length_cons] at hl
    obtain ⟨hbit, hmark⟩ := hmark
    rw [List.length_cons, List.range'_succ]
    by_cases hc : c ≠ 0
    · have hor : (guid ||| c.toUInt64 <<< UInt64.ofNat (i * 8)).toNat =
          guid.toNat + 256 ^ i * c.toNat := by
        have hdisjoint := Nat.two_pow_add_eq_or_of_lt
          (show guid.toNat < 2 ^ (8 * i) by rw [Nat.pow_mul]; exact hguid) c.toNat
        rw [UInt64.toNat_or, shiftLeft_toNat (by omega), Nat.mul_comm, Nat.lor_comm]
        rw [Nat.pow_mul] at hdisjoint
        exact hdisjoint.symm.trans (Nat.add_comm _ _)
      have hlt : (guid ||| c.toUInt64 <<< UInt64.ofNat (i * 8)).toNat < 256 ^ (i + 1) := by
        have hc' := c.toNat_lt
        rw [hor, pow_succ]
        nlinarith
      obtain ⟨hlength, hvalue⟩ := ih (by omega) hmark _ hlt
      rw [marked_cons (hbit.mpr hc), nonzero_cons hc]
      refine ⟨congrArg Nat.succ hlength, hvalue.trans ?_⟩
      rw [hor, leNat, pow_succ]
      ring
    · obtain ⟨hlength, hvalue⟩ := ih (by omega) hmark guid
        (hguid.trans_le (Nat.pow_le_pow_right (by decide) (Nat.le_succ i)))
      have hzero : c = 0 := not_not.mp hc
      rw [marked_cons_of_not (hbit.not.mpr hc), hzero, nonzero_cons_zero]
      refine ⟨hlength, hvalue.trans ?_⟩
      rw [leNat, pow_succ, UInt8.toNat_zero]
      ring

end ByteBuffer

def Fault.Thrown : Fault → Prop
  | .position .. | .source .. => True
  | _ => False

/-! ## 7. Sequences of values -/

/-- A value that is written and read. -/
inductive Field
  | int (t : IntType) (value : t.Value)
  | string (value : List UInt8)
  | packGUID (guid : UInt64)

inductive Kind
  | int (t : IntType)
  | string
  | packGUID
deriving DecidableEq

namespace Field

def kind : Field → Kind
  | int t _ => .int t
  | string _ => .string
  | packGUID _ => .packGUID

def NulFree : Field → Prop
  | string value => ∀ c ∈ value, c ≠ 0
  | _ => True

def encode : Field → List UInt8
  | int t value => leBytes t.sizeof (t.toBits value)
  | string value => value ++ [0]
  | packGUID guid => ByteBuffer.packed guid

theorem encode_length_pos (f : Field) : 0 < f.encode.length := by
  cases f with
  | int t value => rw [encode, length_leBytes]; exact t.sizeof_le.1
  | string value => simp [encode]
  | packGUID guid => exact Nat.succ_pos _

end Field

def encodeAll (fields : List Field) : List UInt8 := fields.flatMap Field.encode

namespace ByteBuffer

/-- `operator<<`, or `appendPackGUID`. -/
def writeField (e : Endian) : Field → Buffered Unit
  | .int t value => appendValue e t value
  | .string value => writeString e value
  | .packGUID guid => appendPackGUID guid

/-- `operator>>`, or `readPackGUID`. -/
def readField (e : Endian) : Kind → Buffered Field
  | .int t => do return .int t (← read e t)
  | .string => do return .string (← readString e)
  | .packGUID => do return .packGUID (← readPackGUID e)

def writeAll (e : Endian) : List Field → Buffered Unit
  | [] => return
  | f :: fields => do
    writeField e f
    writeAll e fields

def readAll (e : Endian) : List Kind → Buffered (List Field)
  | [] => return []
  | k :: kinds => do
    let f ← readField e k
    let fields ← readAll e kinds
    return f :: fields

section Sequences

variable {b b' : ByteBuffer} {e : Endian}

theorem AtEnd.writeField_eq (h : b.AtEnd) (f : Field)
    (hfit : b.storage.length + f.encode.length < 2 ^ 63) :
    writeField e f b = .ok () (b.push f.encode) ∨
      10000000 < b.storage.length + f.encode.length ∧
        ∃ b', writeField e f b = .error .assertSize b' := by
  have hplain : f.encode ≠ [] → writeField e f = append f.encode →
      writeField e f b = .ok () (b.push f.encode) ∨
        10000000 < b.storage.length + f.encode.length ∧
          ∃ b', writeField e f b = .error .assertSize b' := by
    intro hne heq
    rw [heq, h.append_eq hne hfit]
    by_cases hlt : b.storage.length < 10000000
    · rw [if_pos hlt]
      exact .inl rfl
    · have hpos := f.encode_length_pos
      rw [if_neg hlt]
      exact .inr ⟨by omega, _, rfl⟩
  have hne : f.encode ≠ [] := List.ne_nil_of_length_pos f.encode_length_pos
  have hint : ∀ (t : IntType) (value : t.Value),
      appendValue e t value = append (leBytes t.sizeof (t.toBits value)) := by
    intro t value
    rw [appendValue, e.store_convert]
  cases f with
  | int t value => exact hplain hne (hint t value)
  | packGUID guid => exact hplain hne (appendPackGUID_eq guid)
  | string value =>
    have hnul : appendValue e .uint8 (0 : UInt8) = append [0] := hint .uint8 (0 : UInt8)
    change b.storage.length + (value ++ [0]).length < 2 ^ 63 at hfit
    rw [List.length_append, List.length_singleton] at hfit
    by_cases hvalue : value = []
    · refine hplain hne ?_
      change writeString e value = append (value ++ [0])
      rw [writeString, if_neg (not_not.mpr hvalue), hnul, hvalue]
      rfl
    · change writeString e value b = .ok () (b.push (value ++ [0])) ∨
        10000000 < b.storage.length + (value ++ [0]).length ∧
          ∃ b', writeString e value b = .error .assertSize b'
      have happend := h.append_eq hvalue (by omega : b.storage.length + value.length < 2 ^ 63)
      rw [writeString, if_pos hvalue, hnul, List.length_append, List.length_singleton]
      by_cases hlt : b.storage.length < 10000000
      · rw [if_pos hlt] at happend
        have hend := h.push (by omega : b.storage.length + value.length < 2 ^ 63)
        have hlength : (b.push value).storage.length = b.storage.length + value.length :=
          List.length_append
        have hlast := hend.append_eq (List.cons_ne_nil (0 : UInt8) []) (by
          rw [hlength, List.length_singleton]
          omega)
        rw [push_push, hlength] at hlast
        by_cases hlt' : b.storage.length + value.length < 10000000
        · rw [if_pos hlt'] at hlast
          exact .inl ((bind_of_ok happend).trans hlast)
        · rw [if_neg hlt'] at hlast
          exact .inr ⟨by omega, _, (bind_of_ok happend).trans hlast⟩
      · rw [if_neg hlt] at happend
        exact .inr ⟨by omega, _, bind_of_error happend⟩

theorem AtEnd.writeAll_eq (h : b.AtEnd) (fields : List Field)
    (hfit : b.storage.length + (encodeAll fields).length < 2 ^ 63) :
    writeAll e fields b = .ok () (b.push (encodeAll fields)) ∨
      10000000 < b.storage.length + (encodeAll fields).length ∧
        ∃ b', writeAll e fields b = .error .assertSize b' := by
  induction fields generalizing b with
  | nil =>
    refine .inl ?_
    change EStateM.Result.ok () b = .ok () (b.push [])
    rw [ByteBuffer.push, List.append_nil, List.length_nil, show UInt64.ofNat 0 = 0 from rfl,
      UInt64.add_zero]
  | cons f fields ih =>
    have hall : encodeAll (f :: fields) = f.encode ++ encodeAll fields := List.flatMap_cons
    rw [hall, List.length_append] at hfit ⊢
    have hlength : (b.push f.encode).storage.length = b.storage.length + f.encode.length :=
      List.length_append
    have hfit' : b.storage.length + f.encode.length < 2 ^ 63 := by omega
    rcases h.writeField_eq f hfit' with hok | ⟨hbig, b', herror⟩
    · rcases ih (h.push hfit') (by rw [hlength]; omega) with hrest | ⟨hbig, b', hrest⟩
      · rw [push_push] at hrest
        exact .inl ((bind_of_ok hok).trans hrest)
      · rw [hlength] at hbig
        exact .inr ⟨by omega, b', (bind_of_ok hok).trans hrest⟩
    · exact .inr ⟨by omega, b', bind_of_error herror⟩

theorem InRange.readField_eq (h : b.InRange) {f : Field} (hf : f.NulFree) {rest : List UInt8}
    (hunread : b.unread = f.encode ++ rest) :
    readField e f.kind b = .ok f (b.skip f.encode.length) := by
  cases f with
  | int t value =>
    change b.unread = leBytes t.sizeof (t.toBits value) ++ rest at hunread
    have hread := h.read_eq (e := e) t
    have henough : ¬ b.unread.length < t.sizeof := by
      rw [hunread, List.length_append, length_leBytes]
      omega
    rw [if_neg henough, hunread, List.take_left' (length_leBytes _ _),
      leNat_leBytes (t.toBits_lt value), t.ofBits_toBits] at hread
    rw [Field.encode, length_leBytes]
    exact bind_of_ok hread
  | string value =>
    change b.unread = (value ++ [0]) ++ rest at hunread
    have hchars : chars b.unread = value := by
      rw [hunread, chars, List.append_assoc,
        List.takeWhile_append_of_pos fun c hc => decide_eq_true (hf c hc)]
      change value ++ List.takeWhile _ (0 :: rest) = value
      rw [List.takeWhile_cons_of_neg (by decide), List.append_nil]
    have hread := h.readString_eq (e := e)
    have hsize : stringSize b.unread = (value ++ [0]).length := by
      rw [stringSize, hchars, hunread, List.length_append, List.length_append,
        List.length_singleton]
      omega
    rw [hchars, hsize] at hread
    exact bind_of_ok hread
  | packGUID guid =>
    change b.unread = packed guid ++ rest at hunread
    have hmark : Marks (marksOf 0 (leBytes 8 guid.toNat)) 0 (leBytes 8 guid.toNat) := by
      have hmarks := marks_marksOf (i := 0) (l := leBytes 8 guid.toNat) 0
        (by rw [length_leBytes]) fun j _ _ => UInt8.zero_and
      rw [UInt8.zero_or] at hmarks
      exact hmarks
    have hassemble := assemble_marked (i := 0) (by rw [length_leBytes]) hmark 0
      Nat.one_pos rest
    rw [length_leBytes, ← List.range_eq_range'] at hassemble
    obtain ⟨hlength, hvalue⟩ := hassemble
    have hguid : assemble (marked (marksOf 0 (leBytes 8 guid.toNat)) (List.range 8))
        (nonzero (leBytes 8 guid.toNat) ++ rest) 0 = guid := by
      rw [← UInt64.toNat_inj, hvalue, pow_zero, one_mul, UInt64.toNat_zero, zero_add]
      exact leNat_leBytes guid.toNat_lt
    have hread := h.readPackGUID_eq (e := e)
    have henough : ¬ (nonzero (leBytes 8 guid.toNat) ++ rest).length <
        (nonzero (leBytes 8 guid.toNat)).length := by
      rw [List.length_append]
      omega
    rw [hunread, packed, List.cons_append] at hread
    simp only [hlength, if_neg henough, hguid] at hread
    rw [Field.encode, packed, List.length_cons, Nat.add_comm]
    exact bind_of_ok hread

theorem InRange.readAll_eq (h : b.InRange) {fields : List Field}
    (hfields : ∀ f ∈ fields, f.NulFree) {rest : List UInt8}
    (hunread : b.unread = encodeAll fields ++ rest) :
    readAll e (fields.map Field.kind) b = .ok fields (b.skip (encodeAll fields).length) := by
  induction fields generalizing b with
  | nil =>
    change EStateM.Result.ok [] b = .ok [] (b.skip 0)
    rw [skip_zero]
  | cons f fields ih =>
    obtain ⟨hf, hfields⟩ := List.forall_mem_cons.mp hfields
    have hall : encodeAll (f :: fields) = f.encode ++ encodeAll fields := List.flatMap_cons
    rw [hall, List.append_assoc] at hunread
    have henough : f.encode.length ≤ b.unread.length := by
      rw [hunread, List.length_append]
      exact Nat.le_add_right _ _
    have hnext : (b.skip f.encode.length).unread = encodeAll fields ++ rest := by
      rw [h.unread_skip henough, hunread, List.drop_left' rfl]
    have hrest := ih (h.skip henough) hfields hnext
    rw [skip_skip] at hrest
    rw [hall, List.length_append]
    exact (bind_of_ok (h.readField_eq hf hunread)).trans (bind_of_ok hrest)

end Sequences

/-! ## 8. What a read does -/

/-- A read has used `bytes`: they are the next ones of the buffer, and the position has moved
over them. -/
structure Consumed (b b' : ByteBuffer) (bytes : List UInt8) : Prop where
  storage : b'.storage = b.storage
  wpos : b'.wpos = b.wpos
  unread : b.unread = bytes ++ b'.unread
  rpos : b'.rpos.toNat = b.rpos.toNat + bytes.length
  le_size : b'.rpos.toNat ≤ b'.storage.length

/-- A read either returns what `P` says of the bytes it has used, or it throws and has used
none. -/
def AllOrNothing {α : Type} (P : α → List UInt8 → Prop) (b : ByteBuffer) :
    EStateM.Result Fault ByteBuffer α → Prop
  | .ok a b' => ∃ bytes, Consumed b b' bytes ∧ P a bytes
  | .error fault b' => fault.Thrown ∧ b' = b

/-- **The reads of a buffer.**  A packed guid is the only value of which a part is used before the
read throws; then nothing is left. The number of bytes of the last two is the caller's, and must
not take the sum with the position beyond a `size_t`. -/
structure ReadsInRange (e : Endian) (b : ByteBuffer) : Prop where
  int : ∀ t, AllOrNothing
    (fun value bytes => bytes.length = t.sizeof ∧ value = t.ofBits (leNat bytes)) b (read e t b)
  string : ∃ value b' bytes, readString e b = .ok value b' ∧ Consumed b b' bytes ∧
    (∀ c ∈ value, c ≠ 0) ∧ (bytes = value ++ [0] ∨ bytes = value ∧ b'.unread = [])
  packGUID : match readPackGUID e b with
    | .ok _ b' => ∃ guidmark bytes, Consumed b b' (guidmark :: bytes) ∧
      bytes.length = (marked guidmark (List.range 8)).length
    | .error fault b' => fault.Thrown ∧ Consumed b b' b.unread
  bytes : ∀ len : UInt64, b.rpos.toNat + len.toNat < 2 ^ 64 → AllOrNothing
    (fun value bytes => bytes.length = len.toNat ∧ value = bytes) b (readBytes len b)
  skip : ∀ len : UInt64, b.rpos.toNat + len.toNat < 2 ^ 64 → AllOrNothing
    (fun _ bytes => bytes.length = len.toNat) b (readSkip len b)

section Law

variable {b : ByteBuffer} {e : Endian}

theorem InRange.consumed_skip (h : b.InRange) {n : ℕ} (hn : n ≤ b.unread.length) :
    Consumed b (b.skip n) (b.unread.take n) where
  storage := rfl
  wpos := rfl
  unread := by rw [h.unread_skip hn, List.take_append_drop]
  rpos := by rw [h.rpos_skip hn, List.length_take, Nat.min_eq_left hn]
  le_size := (h.skip hn).le_size

theorem InRange.consumed_all (h : b.InRange) : Consumed b (b.skip b.unread.length) b.unread := by
  have hall := h.consumed_skip (Nat.le_refl b.unread.length)
  rwa [List.take_length] at hall

theorem take_stringSize (l : List UInt8) :
    l.take (stringSize l) = chars l ++ [0] ∨
      l.take (stringSize l) = chars l ∧ l.drop (stringSize l) = [] := by
  induction l with
  | nil => exact .inr ⟨rfl, rfl⟩
  | cons c l ih =>
    by_cases hc : c = 0
    · subst hc
      have hchars : chars (0 :: l) = [] := List.takeWhile_cons_of_neg (by decide)
      have hsize : stringSize (0 :: l) = 1 := by
        rw [stringSize, hchars, List.length_cons]
        exact Nat.min_eq_left (Nat.le_add_left 1 _)
      rw [hchars, hsize]
      exact .inl rfl
    · have hchars : chars (c :: l) = c :: chars l :=
        List.takeWhile_cons_of_pos (decide_eq_true hc)
      have hsize : stringSize (c :: l) = stringSize l + 1 := by
        rw [stringSize, stringSize, hchars, List.length_cons, List.length_cons]
        omega
      rw [hchars, hsize, List.take_succ_cons, List.drop_succ_cons]
      rcases ih with hnul | ⟨hend, hrest⟩
      · exact .inl (congrArg (c :: ·) hnul)
      · exact .inr ⟨congrArg (c :: ·) hend, hrest⟩

theorem InRange.packGUID_law (h : b.InRange) :
    match readPackGUID e b with
    | .ok _ b' => ∃ guidmark bytes, Consumed b b' (guidmark :: bytes) ∧
      bytes.length = (marked guidmark (List.range 8)).length
    | .error fault b' => fault.Thrown ∧ Consumed b b' b.unread := by
  have hall := h.consumed_all
  rw [h.readPackGUID_eq]
  cases hunread : b.unread with
  | nil =>
    rw [hunread, List.length_nil, skip_zero] at hall
    exact ⟨trivial, hall⟩
  | cons guidmark rest =>
    dsimp only
    by_cases hlt : rest.length < (marked guidmark (List.range 8)).length
    · rw [if_pos hlt]
      rw [hunread] at hall
      exact ⟨trivial, hall⟩
    · rw [if_neg hlt]
      have henough : 1 + (marked guidmark (List.range 8)).length ≤ b.unread.length := by
        rw [hunread, List.length_cons]
        omega
      have hused := h.consumed_skip henough
      rw [hunread, Nat.add_comm, List.take_succ_cons, Nat.add_comm] at hused
      refine ⟨guidmark, _, hused, ?_⟩
      rw [List.length_take]
      omega

theorem InRange.readsInRange (h : b.InRange) : ReadsInRange e b where
  int t := by
    rw [h.read_eq]
    split
    · exact ⟨trivial, rfl⟩
    · next henough =>
      have hn := not_lt.mp henough
      exact ⟨_, h.consumed_skip hn, by rw [List.length_take, Nat.min_eq_left hn], rfl⟩
  string := by
    have hn : stringSize b.unread ≤ b.unread.length := Nat.min_le_right _ _
    refine ⟨_, _, _, h.readString_eq, h.consumed_skip hn, fun c hc => ?_, ?_⟩
    · exact of_decide_eq_true (List.mem_takeWhile_imp (p := fun c => decide (c ≠ 0)) hc)
    · rw [h.unread_skip hn]
      exact take_stringSize b.unread
  packGUID := h.packGUID_law
  bytes len hlen := by
    have hshort := h.short_iff len hlen
    have hlength := h.length_unread
    rw [readBytes]
    by_cases hlt : b.unread.length < len.toNat
    · rw [if_pos (hshort.mpr hlt)]
      exact ⟨trivial, rfl⟩
    · have hinside : ¬ b.storage.length < b.rpos.toNat + len.toNat := by omega
      have hused := h.consumed_skip (not_lt.mp hlt)
      rw [ByteBuffer.skip, UInt64.ofNat_toNat] at hused
      rw [if_neg (hshort.not.mpr hlt), if_neg hinside]
      exact ⟨_, hused, by rw [List.length_take, Nat.min_eq_left (not_lt.mp hlt)], rfl⟩
  skip len hlen := by
    have hshort := h.short_iff len hlen
    rw [readSkip]
    by_cases hlt : b.unread.length < len.toNat
    · rw [if_pos (hshort.mpr hlt)]
      exact ⟨trivial, rfl⟩
    · have hused := h.consumed_skip (not_lt.mp hlt)
      rw [ByteBuffer.skip, UInt64.ofNat_toNat] at hused
      have htake : (b.unread.take len.toNat).length = len.toNat := by
        rw [List.length_take, Nat.min_eq_left (not_lt.mp hlt)]
      rw [if_neg (hshort.not.mpr hlt)]
      exact ⟨_, hused, htake⟩

end Law

/-! ## 9. The codec -/

/-- **What is written is read.**  Values that have been written into an empty buffer are read back,
to the end of the buffer; below the bound of the assertion they can be written. A packed guid takes
a byte and one for each of its bytes that are not zero. And whatever the bytes of a buffer are, its
reads stay in range. -/
theorem byteBuffer_codec (e : Endian) :
    (∀ fields b, (∀ f ∈ fields, f.NulFree) → (encodeAll fields).length < 2 ^ 63 →
      writeAll e fields {} = .ok () b →
      ∃ b', readAll e (fields.map Field.kind) b = .ok fields b' ∧ b'.storage = b.storage ∧
        b'.rpos = b'.size) ∧
    (∀ fields, (encodeAll fields).length ≤ 10000000 → ∃ b, writeAll e fields {} = .ok () b) ∧
    (∀ guid, ∃ bytes, appendPackGUID guid = append bytes ∧
      bytes.length = 1 + (leBytes 8 guid.toNat).countP (· ≠ 0)) ∧
    ∀ b, b.InRange → ReadsInRange e b := by
  have hempty : AtEnd {} := rfl
  refine ⟨fun fields b hfields hfit hwrite => ?_, fun fields hfit => ?_, fun guid => ?_,
    fun b h => h.readsInRange⟩
  · have hfit' : ([] : List UInt8).length + (encodeAll fields).length < 2 ^ 63 := by
      rw [List.length_nil, Nat.zero_add]
      exact hfit
    rcases hempty.writeAll_eq (e := e) fields hfit' with hok | ⟨-, b', herror⟩
    · rw [hok] at hwrite
      cases hwrite
      have hrange : (push (encodeAll fields) {}).InRange := ⟨Nat.zero_le _, hfit⟩
      have hread := hrange.readAll_eq (e := e) hfields (List.append_nil _).symm
      exact ⟨_, hread, rfl, UInt64.zero_add _⟩
    · rw [herror] at hwrite
      cases hwrite
  · have hfit' : ([] : List UInt8).length + (encodeAll fields).length < 2 ^ 63 := by
      rw [List.length_nil, Nat.zero_add]
      omega
    rcases hempty.writeAll_eq (e := e) fields hfit' with hok | ⟨hbig, -⟩
    · exact ⟨_, hok⟩
    · change 10000000 < 0 + _ at hbig
      omega
  · refine ⟨packed guid, appendPackGUID_eq guid, ?_⟩
    rw [packed, List.length_cons, nonzero, List.countP_eq_length_filter, Nat.add_comm]

/-- A number, a string, a guid and a negative number, on a big-endian host. -/
def sampleFields : List Field :=
  [.int .uint16 (0xBEEF : UInt16), .string [104, 105], .packGUID 0x0000010000000002,
    .int .int32 (-5 : Int32)]

theorem byteBuffer_codec_sample :
    (∃ b, writeAll .big sampleFields {} = .ok () b) ∧
      ∀ b, writeAll .big sampleFields {} = .ok () b → ∃ b',
        readAll .big (sampleFields.map Field.kind) b = .ok sampleFields b' ∧
          b'.storage = b.storage ∧ b'.rpos = b'.size := by
  have hfields : ∀ f ∈ sampleFields, f.NulFree := by
    simp [sampleFields, Field.NulFree]
  have hlength : (encodeAll sampleFields).length = 12 := by decide +kernel
  refine ⟨(byteBuffer_codec .big).2.1 sampleFields (by omega), fun b => ?_⟩
  exact (byteBuffer_codec .big).1 sampleFields b hfields (by omega)

/-- A packed guid that ends behind its mark: the mark has been read. And a number of bytes that
takes the sum beyond a `size_t`: the position goes back. -/
theorem readPackGUID_moves :
    InRange { storage := [1] } ∧
      readPackGUID .little { storage := [1] } =
        .error (.position false 1 1 1) { rpos := 1, storage := [1] } ∧
      InRange { rpos := 1, storage := [0, 0] } ∧
      readSkip 0xFFFFFFFFFFFFFFFF { rpos := 1, storage := [0, 0] } =
        .ok () { rpos := 0, storage := [0, 0] } :=
  ⟨⟨by decide, by decide⟩, rfl, ⟨by decide, by decide⟩, rfl⟩

end ByteBuffer

end FunPvp.Packets
