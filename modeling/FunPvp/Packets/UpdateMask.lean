/-
# Update masks

A mask keeps one byte for each bit, in an array that is rounded up to blocks of 32. `operator&=`
and `operator|=` go over as many bits as the left mask has, in both arrays. The right mask may have
fewer bits, and then the array of the right one may be shorter.

`exact_iff` says that the operations stay in their arrays, and are those of the bits, exactly if the
two arrays have the same number of blocks; and that for a count near `2 ^ 32`, for which the number
of blocks overflows, nothing works.
-/
import FunPvp.Packets.Codec

namespace FunPvp.Packets

open Lib ByteBuffer

/-! ## 1. The mask -/

def CLIENT_UPDATE_MASK_BITS : UInt32 := 32

structure UpdateMask where
  _fieldCount : UInt32
  _blockCount : UInt32
  _bits : List UInt8

namespace UpdateMask

def init : UpdateMask := ⟨0, 0, []⟩

def setCount (valuesCount : UInt32) : UpdateMask :=
  let blockCount := (valuesCount + CLIENT_UPDATE_MASK_BITS - 1) / CLIENT_UPDATE_MASK_BITS
  ⟨valuesCount, blockCount, List.replicate (blockCount * CLIENT_UPDATE_MASK_BITS).toNat 0⟩

/-- A byte is written; outside the array there is no result. -/
def write (m : UpdateMask) (index : ℕ) (byte : UInt8) : Option UpdateMask :=
  if index < m._bits.length then some { m with _bits := m._bits.set index byte } else none

def setBit (m : UpdateMask) (index : ℕ) : Option UpdateMask := m.write index 1

def unsetBit (m : UpdateMask) (index : ℕ) : Option UpdateMask := m.write index 0

def getBit (m : UpdateMask) (index : ℕ) : Option Bool := (m._bits[index]?).map (· ≠ 0)

def clear (m : UpdateMask) : UpdateMask :=
  { m with _bits := List.replicate (m._blockCount * CLIENT_UPDATE_MASK_BITS).toNat 0 }

/-- `operator=`, and the copy constructor. -/
def assign (right : UpdateMask) : Option UpdateMask :=
  let m := setCount right._fieldCount
  let n := (m._blockCount * CLIENT_UPDATE_MASK_BITS).toNat
  if n ≤ right._bits.length then some { m with _bits := right._bits.take n } else none

def combineBit (f : UInt8 → UInt8 → UInt8) (right bits : List UInt8) (i : ℕ) :
    Option (List UInt8) := do
  let l ← bits[i]?
  let r ← right[i]?
  return bits.set i (f l r)

/-- `operator&=` and `operator|=`. -/
def combine (f : UInt8 → UInt8 → UInt8) (left right : UpdateMask) : Option UpdateMask :=
  if right._fieldCount ≤ left._fieldCount then
    ((List.range left._fieldCount.toNat).foldlM (combineBit f right._bits) left._bits).map
      fun bits => { left with _bits := bits }
  else none

def andAssign (left right : UpdateMask) : Option UpdateMask := left.combine (· &&& ·) right

def orAssign (left right : UpdateMask) : Option UpdateMask := left.combine (· ||| ·) right

/-- `operator|`. -/
def or (left right : UpdateMask) : Option UpdateMask := do
  (← left.assign).orAssign right

/-- `maskPart` after the first rounds of its loop. -/
def maskPart (m : UpdateMask) (i rounds : ℕ) : Option UInt32 :=
  (List.range rounds).foldlM (fun maskPart j =>
    (m.getBit (CLIENT_UPDATE_MASK_BITS.toNat * i + j)).map fun bit =>
      if bit then maskPart ||| 1 <<< UInt32.ofNat j else maskPart) 0

/-- The loop of `AppendToPacket`. -/
def appendBlocks (e : Endian) (m : UpdateMask) : List ℕ → Buffered Unit
  | [] => return
  | i :: is =>
    match m.maskPart i CLIENT_UPDATE_MASK_BITS.toNat with
    | none => throw .outside
    | some maskPart => do
      appendValue e .uint32 maskPart
      m.appendBlocks e is

def appendToPacket (e : Endian) (m : UpdateMask) : Buffered Unit :=
  m.appendBlocks e (List.range m._blockCount.toNat)

/-! ## 2. Masks that are built with the operations -/

def bit (m : UpdateMask) (i : ℕ) : Bool := (m.getBit i).getD false

/-- A mask that has come from the operations, with indices below the count. -/
inductive Built : UpdateMask → Prop
  | init : Built init
  | setCount (valuesCount : UInt32) : Built (setCount valuesCount)
  | setBit {m m' : UpdateMask} {index : ℕ} (hm : Built m) (hindex : index < m._fieldCount.toNat)
      (h : m.setBit index = some m') : Built m'
  | unsetBit {m m' : UpdateMask} {index : ℕ} (hm : Built m) (hindex : index < m._fieldCount.toNat)
      (h : m.unsetBit index = some m') : Built m'
  | clear {m : UpdateMask} (hm : Built m) : Built m.clear
  | assign {m m' : UpdateMask} (hm : Built m) (h : m.assign = some m') : Built m'
  | andAssign {left right m : UpdateMask} (hleft : Built left) (hright : Built right)
      (h : left.andAssign right = some m) : Built m
  | orAssign {left right m : UpdateMask} (hleft : Built left) (hright : Built right)
      (h : left.orAssign right = some m) : Built m

/-- The array has whole blocks of zeros and ones, with zeros behind the last bit. -/
structure Sound (m : UpdateMask) : Prop where
  blocks : m._blockCount.toNat = (m._fieldCount.toNat + 31) % 2 ^ 32 / 32
  length : m._bits.length = 32 * m._blockCount.toNat
  binary : ∀ (i : ℕ) b, m._bits[i]? = some b → b = 0 ∨ b = 1
  padding : ∀ (i : ℕ) b, m._fieldCount.toNat ≤ i → m._bits[i]? = some b → b = 0

variable {m m' left right : UpdateMask} {f : UInt8 → UInt8 → UInt8} {g : Bool → Bool → Bool}

theorem toNat_blockCount (n : UInt32) :
    (setCount n)._blockCount.toNat = (n.toNat + 31) % 2 ^ 32 / 32 := by
  change ((n + 32 - 1) / 32).toNat = _
  rw [UInt32.toNat_div, UInt32.toNat_sub, UInt32.toNat_add]
  change (2 ^ 32 - 1 + (n.toNat + 32) % 2 ^ 32) % 2 ^ 32 / 32 = _
  omega

theorem toNat_blockCount_mul {count blocks : UInt32}
    (h : blocks.toNat = (count.toNat + 31) % 2 ^ 32 / 32) :
    (blocks * CLIENT_UPDATE_MASK_BITS).toNat = 32 * blocks.toNat := by
  rw [UInt32.toNat_mul]
  change blocks.toNat * 32 % 2 ^ 32 = _
  omega

theorem Sound.zeros {count blocks : UInt32}
    (h : blocks.toNat = (count.toNat + 31) % 2 ^ 32 / 32) :
    Sound ⟨count, blocks, List.replicate (blocks * CLIENT_UPDATE_MASK_BITS).toNat 0⟩ where
  blocks := h
  length := by rw [List.length_replicate, toNat_blockCount_mul h]
  binary i b hb := .inl (List.eq_of_mem_replicate (List.mem_of_getElem? hb))
  padding i b _ hb := List.eq_of_mem_replicate (List.mem_of_getElem? hb)

theorem Sound.write (h : m.Sound) {index : ℕ} {byte : UInt8} (hbyte : byte = 0 ∨ byte = 1)
    (hindex : index < m._fieldCount.toNat) (hm' : m.write index byte = some m') : m'.Sound := by
  rw [UpdateMask.write] at hm'
  split_ifs at hm' with hin
  obtain rfl := Option.some.inj hm'
  refine ⟨h.blocks, List.length_set.trans h.length, fun i b hb => ?_, fun i b hi hb => ?_⟩
  · rw [List.getElem?_set] at hb
    split_ifs at hb with heq
    · exact Option.some.inj hb ▸ hbyte
    · exact h.binary i b hb
  · rw [List.getElem?_set, if_neg (hindex.trans_le hi).ne] at hb
    exact h.padding i b hi hb

theorem Sound.assign (h : m.Sound) (hm' : m.assign = some m') : m'.Sound := by
  rw [UpdateMask.assign] at hm'
  split_ifs at hm' with hin
  obtain rfl := Option.some.inj hm'
  have hblocks := toNat_blockCount m._fieldCount
  have htake : ∀ (i n : ℕ) b, (m._bits.take n)[i]? = some b → m._bits[i]? = some b := by
    intro i n b hb
    rw [List.getElem?_take] at hb
    split_ifs at hb
    exact hb
  refine ⟨hblocks, ?_, fun i b hb => h.binary i b (htake i _ b hb),
    fun i b hi hb => h.padding i b hi (htake i _ b hb)⟩
  rw [List.length_take_of_le hin, toNat_blockCount_mul hblocks]

/-! ## 3. `operator&=` and `operator|=` -/

theorem combineLoop_cases (f : UInt8 → UInt8 → UInt8) (rbits bits : List UInt8) (n : ℕ) :
    (∃ bits', (List.range n).foldlM (combineBit f rbits) bits = some bits' ∧ n ≤ bits.length ∧
      n ≤ rbits.length ∧ bits'.length = bits.length ∧ ∀ i, bits'[i]? =
        if i < n then bits[i]?.bind fun l => (rbits[i]?).map fun r => f l r else bits[i]?) ∨
    (List.range n).foldlM (combineBit f rbits) bits = none ∧
      ¬ (n ≤ bits.length ∧ n ≤ rbits.length) := by
  induction n with
  | zero => exact .inl ⟨bits, rfl, Nat.zero_le _, Nat.zero_le _, rfl, fun i => by simp⟩
  | succ n ih =>
    rw [List.range_succ, List.foldlM_append]
    rcases ih with ⟨bits', hloop, hn, hn', hlength, hget⟩ | ⟨hloop, hshort⟩
    · rw [hloop]
      by_cases hin : n < bits.length ∧ n < rbits.length
      · have hl : bits'[n]? = some bits[n] := by
          rw [hget, if_neg (Nat.lt_irrefl n), List.getElem?_eq_getElem hin.1]
        have hr : rbits[n]? = some rbits[n] := List.getElem?_eq_getElem hin.2
        refine .inl ⟨bits'.set n (f bits[n] rbits[n]), ?_, hin.1, hin.2,
          List.length_set.trans hlength, fun i => ?_⟩
        · simp [combineBit, hl, hr]
        · rw [List.getElem?_set, hlength, hget]
          rcases lt_trichotomy i n with hlt | rfl | hgt
          · rw [if_neg hlt.ne', if_pos hlt, if_pos (hlt.trans (Nat.lt_succ_self n))]
          · rw [if_pos rfl, if_pos hin.1, if_pos (Nat.lt_succ_self i),
              List.getElem?_eq_getElem hin.1, hr]
            rfl
          · rw [if_neg hgt.ne, if_neg (by omega), if_neg (by omega)]
      · refine .inr ⟨?_, fun h => hin ⟨h.1, h.2⟩⟩
        have hnone : bits'[n]? = none ∨ rbits[n]? = none := by
          rw [List.getElem?_eq_none_iff, List.getElem?_eq_none_iff, hlength]
          omega
        rcases hnone with hl | hr
        · simp [combineBit, hl]
        · cases bits'[n]? <;> simp [combineBit, hr]
    · rw [hloop]
      exact .inr ⟨rfl, fun h => hshort ⟨by omega, by omega⟩⟩

/-- The operation of the bytes that stand for bits. -/
def BitOp (f : UInt8 → UInt8 → UInt8) (g : Bool → Bool → Bool) : Prop :=
  ∀ l r : UInt8, (l = 0 ∨ l = 1) → (r = 0 ∨ r = 1) →
    (f l r = 0 ∨ f l r = 1) ∧ decide (f l r ≠ 0) = g (l ≠ 0) (r ≠ 0)

theorem bitOp_and : BitOp (· &&& ·) (· && ·) := by
  rintro l r (rfl | rfl) (rfl | rfl) <;> decide

theorem bitOp_or : BitOp (· ||| ·) (· || ·) := by
  rintro l r (rfl | rfl) (rfl | rfl) <;> decide

/-- The loop over the bits of the left mask stays in both arrays. -/
def Fits (left right : UpdateMask) : Prop :=
  left._fieldCount.toNat ≤ left._bits.length ∧ left._fieldCount.toNat ≤ right._bits.length

theorem combine_cases (f : UInt8 → UInt8 → UInt8) (hle : right._fieldCount ≤ left._fieldCount) :
    (∃ bits', left.combine f right = some { left with _bits := bits' } ∧ left.Fits right ∧
      bits'.length = left._bits.length ∧ ∀ i, bits'[i]? =
        if i < left._fieldCount.toNat then
          left._bits[i]?.bind fun l => (right._bits[i]?).map fun r => f l r
        else left._bits[i]?) ∨
    left.combine f right = none ∧ ¬ left.Fits right := by
  rw [combine, if_pos hle]
  rcases combineLoop_cases f right._bits left._bits left._fieldCount.toNat with
    ⟨bits', hloop, hn, hn', hrest⟩ | ⟨hloop, hshort⟩
  · exact .inl ⟨bits', by rw [hloop, Option.map_some], ⟨hn, hn'⟩, hrest⟩
  · exact .inr ⟨by rw [hloop, Option.map_none], hshort⟩

theorem Sound.combine (hf : BitOp f g) (hleft : left.Sound) (hright : right.Sound)
    (h : left.combine f right = some m) : m.Sound := by
  have hle : right._fieldCount ≤ left._fieldCount := by
    by_contra hgt
    rw [UpdateMask.combine, if_neg hgt] at h
    exact nomatch h
  rcases combine_cases f hle with ⟨bits', heq, -, hlength, hget⟩ | ⟨heq, -⟩
  · obtain rfl := Option.some.inj (heq.symm.trans h)
    refine ⟨hleft.blocks, hlength.trans hleft.length, fun i b hb => ?_, fun i b hi hb => ?_⟩
    · rw [hget] at hb
      split_ifs at hb
      · obtain ⟨l, hl, hb⟩ := Option.bind_eq_some_iff.mp hb
        obtain ⟨r, hr, rfl⟩ := Option.map_eq_some_iff.mp hb
        exact (hf l r (hleft.binary i l hl) (hright.binary i r hr)).1
      · exact hleft.binary i b hb
    · rw [hget, if_neg (not_lt.mpr hi)] at hb
      exact hleft.padding i b hi hb
  · exact nomatch heq.symm.trans h

theorem Built.sound (h : m.Built) : m.Sound := by
  induction h with
  | init => exact ⟨rfl, rfl, fun i b hb => (nomatch hb), fun i b _ hb => (nomatch hb)⟩
  | setCount valuesCount => exact .zeros (toNat_blockCount valuesCount)
  | setBit _ hindex h ih => exact ih.write (.inr rfl) hindex h
  | unsetBit _ hindex h ih => exact ih.write (.inl rfl) hindex h
  | clear _ ih => exact .zeros ih.blocks
  | assign _ h ih => exact ih.assign h
  | andAssign _ _ h ihl ihr => exact .combine bitOp_and ihl ihr h
  | orAssign _ _ h ihl ihr => exact .combine bitOp_or ihl ihr h

def extended (m : UpdateMask) (i : ℕ) : Bool := i < m._fieldCount.toNat && m.bit i

theorem bit_of_getElem? {i : ℕ} {b : UInt8} (h : m._bits[i]? = some b) :
    m.bit i = decide (b ≠ 0) := by
  rw [bit, getBit, h]
  rfl

theorem Sound.extended_eq (h : m.Sound) {i : ℕ} {b : UInt8} (hb : m._bits[i]? = some b) :
    m.extended i = decide (b ≠ 0) := by
  rw [extended, bit_of_getElem? hb]
  by_cases hi : i < m._fieldCount.toNat
  · rw [decide_eq_true hi, Bool.true_and]
  · rw [h.padding i b (not_lt.mp hi) hb]
    exact Bool.and_false _

/-- The operation comes back, with the bits that `g` gives. -/
def Combines (f : UInt8 → UInt8 → UInt8) (g : Bool → Bool → Bool) (left right : UpdateMask) :
    Prop :=
  ∃ m, left.combine f right = some m ∧ m._fieldCount = left._fieldCount ∧
    ∀ i < left._fieldCount.toNat, m.getBit i = some (g (left.bit i) (right.extended i))

theorem combines_iff (hf : BitOp f g) (hleft : left.Sound) (hright : right.Sound)
    (hle : right._fieldCount ≤ left._fieldCount) :
    left.Combines f g right ↔ left.Fits right := by
  constructor
  · rintro ⟨m, heq, -⟩
    rcases combine_cases f hle with ⟨_, -, hfits, -⟩ | ⟨hnone, -⟩
    · exact hfits
    · exact nomatch heq.symm.trans hnone
  · intro hfits
    rcases combine_cases f hle with ⟨bits', heq, -, -, hget⟩ | ⟨-, hshort⟩
    · refine ⟨_, heq, rfl, fun i hi => ?_⟩
      obtain ⟨l, hl⟩ : ∃ l, left._bits[i]? = some l :=
        ⟨_, List.getElem?_eq_getElem (hi.trans_le hfits.1)⟩
      obtain ⟨r, hr⟩ : ∃ r, right._bits[i]? = some r :=
        ⟨_, List.getElem?_eq_getElem (hi.trans_le hfits.2)⟩
      rw [getBit, hget, if_pos hi, bit_of_getElem? hl, hright.extended_eq hr,
        ← (hf l r (hleft.binary i l hl) (hright.binary i r hr)).2, hl, hr]
      rfl
    · exact absurd hfits hshort

theorem fits_iff (hleft : left.Sound) (hright : right.Sound)
    (hle : right._fieldCount ≤ left._fieldCount) : left.Fits right ↔
      left._fieldCount.toNat ≤ 2 ^ 32 - 32 ∧ left._blockCount = right._blockCount := by
  have hcount : right._fieldCount.toNat ≤ left._fieldCount.toNat := UInt32.le_iff_toNat_le.mp hle
  have hlt := left._fieldCount.toNat_lt
  rw [Fits, hleft.length, hright.length, ← UInt32.toNat_inj, hleft.blocks, hright.blocks]
  omega

/-! ## 4. `AppendToPacket` -/

theorem toNat_one_shiftLeft {k : ℕ} (hk : k < 32) :
    ((1 : UInt32) <<< UInt32.ofNat k).toNat = 2 ^ k := by
  have hpow : 2 ^ k < 2 ^ 32 := Nat.pow_lt_pow_right (by decide) hk
  have hsize : k < UInt32.size := hk.trans (by decide)
  rw [UInt32.toNat_shiftLeft, UInt32.toNat_ofNat_of_lt' hsize, Nat.mod_eq_of_lt hk,
    Nat.shiftLeft_eq]
  change 1 * 2 ^ k % 2 ^ 32 = _
  rw [Nat.one_mul, Nat.mod_eq_of_lt hpow]

theorem exists_maskPart {i rounds : ℕ} (hrounds : rounds ≤ 32)
    (hin : 32 * i + rounds ≤ m._bits.length) : ∃ word, m.maskPart i rounds = some word ∧
      ∀ j, word.toNat.testBit j = (decide (j < rounds) && m.bit (32 * i + j)) := by
  induction rounds with
  | zero => exact ⟨0, rfl, fun j => by simp⟩
  | succ k ih =>
    obtain ⟨word, hword, hbits⟩ := ih (by omega) (by omega)
    obtain ⟨b, hb⟩ : ∃ b, m._bits[32 * i + k]? = some b :=
      ⟨_, List.getElem?_eq_getElem (by omega)⟩
    have hbit : m.getBit (CLIENT_UPDATE_MASK_BITS.toNat * i + k) = some (m.bit (32 * i + k)) := by
      rw [bit_of_getElem? hb]
      exact congrArg (Option.map _) hb
    rw [maskPart] at hword
    rw [maskPart, List.range_succ, List.foldlM_append, hword]
    refine ⟨if m.bit (32 * i + k) then word ||| 1 <<< UInt32.ofNat k else word, ?_, fun j => ?_⟩
    · simp [hbit]
    · have hlt : decide (j < k + 1) = (decide (j < k) || decide (j = k)) := by
        rw [← Bool.decide_or]
        exact decide_eq_decide.mpr Nat.lt_succ_iff_lt_or_eq
      rw [hlt, Bool.and_or_distrib_right, ← hbits]
      split_ifs with hset
      · rw [UInt32.toNat_or, toNat_one_shiftLeft (by omega), Nat.testBit_or, Nat.testBit_two_pow]
        rcases eq_or_ne k j with rfl | hj
        · simp [hset]
        · simp [hj, hj.symm]
      · by_cases hj : j = k
        · simp [hj, hset]
        · simp [hj]

def word (m : UpdateMask) (i : ℕ) : UInt32 := (m.maskPart i 32).getD 0

theorem Sound.maskPart_eq (h : m.Sound) {i : ℕ} (hi : i < m._blockCount.toNat) :
    m.maskPart i 32 = some (m.word i) ∧
      ∀ j < 32, (m.word i).toNat.testBit j = m.bit (32 * i + j) := by
  have hlength := h.length
  obtain ⟨word, hword, hbits⟩ := exists_maskPart (m := m) (i := i) le_rfl (by omega)
  rw [UpdateMask.word, hword]
  exact ⟨rfl, fun j hj => by rw [Option.getD_some, hbits, decide_eq_true hj, Bool.true_and]⟩

theorem appendBlocks_eq (e : Endian) {is : List ℕ}
    (h : ∀ i ∈ is, m.maskPart i 32 = some (m.word i)) :
    m.appendBlocks e is = writeAll e (is.map fun i => .int .uint32 (m.word i)) := by
  induction is with
  | nil => rfl
  | cons i is ih =>
    rw [appendBlocks, show CLIENT_UPDATE_MASK_BITS.toNat = 32 from rfl, h i List.mem_cons_self]
    dsimp only
    rw [ih fun j hj => h j (List.mem_cons_of_mem i hj)]
    rfl

/-- The mask can be written into a packet, and all its bits be read back from the words. -/
def Readable (m : UpdateMask) : Prop :=
  ∃ words : List UInt32, words.length = (m._fieldCount.toNat + 31) / 32 ∧
    (∀ i < m._fieldCount.toNat,
      (words[i / 32]?).map (fun word => word.toNat.testBit (i % 32)) = some (m.bit i)) ∧
    ∀ e data, AtEnd data → data.storage.length + 4 * words.length ≤ 10000000 →
      m.appendToPacket e data = .ok () (data.push (words.flatMap fun word => leBytes 4 word.toNat))

theorem Sound.readable (h : m.Sound) (hcount : m._fieldCount.toNat ≤ 2 ^ 32 - 32) :
    m.Readable := by
  have hblocks := h.blocks
  refine ⟨(List.range m._blockCount.toNat).map m.word, ?_, fun i hi => ?_,
    fun e data hend hroom => ?_⟩
  · rw [List.length_map, List.length_range]
    omega
  · have hin : i / 32 < m._blockCount.toNat := by omega
    rw [List.getElem?_map, List.getElem?_range hin, Option.map_some, Option.map_some,
      (h.maskPart_eq hin).2 _ (Nat.mod_lt _ (by decide)), Nat.div_add_mod]
  · rw [List.length_map, List.length_range] at hroom
    rw [appendToPacket, appendBlocks_eq e fun i hi => (h.maskPart_eq (List.mem_range.mp hi)).1]
    have hbytes : encodeAll ((List.range m._blockCount.toNat).map fun i =>
        .int .uint32 (m.word i)) =
        ((List.range m._blockCount.toNat).map m.word).flatMap fun word => leBytes 4 word.toNat := by
      rw [encodeAll, List.flatMap_map, List.flatMap_map]
      rfl
    have hlength : (encodeAll ((List.range m._blockCount.toNat).map fun i =>
        Field.int .uint32 (m.word i))).length = 4 * m._blockCount.toNat := by
      rw [hbytes]
      simp [List.length_flatMap, Function.comp_def, Nat.mul_comm]
    rcases hend.writeAll_eq (e := e) _ (by rw [hlength]; omega) with hok | ⟨hbig, -⟩
    · rw [hok, hbytes]
    · omega

/-! ## 5. The algebra of masks -/

structure Exact (left right : UpdateMask) : Prop where
  and : left.Combines (· &&& ·) (· && ·) right
  or : left.Combines (· ||| ·) (· || ·) right
  setBit : ∀ index < left._fieldCount.toNat, ∃ m, left.setBit index = some m ∧
    m._fieldCount = left._fieldCount ∧ m.Readable ∧
    ∀ i < left._fieldCount.toNat, m.getBit i = some (decide (i = index) || left.bit i)
  readable : left.Readable

theorem Built.setBit_spec (h : m.Built) (hcount : m._fieldCount.toNat ≤ 2 ^ 32 - 32) {index : ℕ}
    (hindex : index < m._fieldCount.toNat) : ∃ m', m.setBit index = some m' ∧
      m'._fieldCount = m._fieldCount ∧ m'.Readable ∧
      ∀ i < m._fieldCount.toNat, m'.getBit i = some (decide (i = index) || m.bit i) := by
  have hlength := h.sound.length
  have hblocks := h.sound.blocks
  have hset : m.setBit index = some { m with _bits := m._bits.set index 1 } :=
    if_pos (by omega)
  refine ⟨_, hset, rfl, (h.setBit hindex hset).sound.readable hcount, fun i hi => ?_⟩
  obtain ⟨b, hb⟩ : ∃ b, m._bits[i]? = some b := ⟨_, List.getElem?_eq_getElem (by omega)⟩
  rw [getBit, List.getElem?_set, bit_of_getElem? hb]
  rcases eq_or_ne index i with rfl | hne
  · simp [show index < m._bits.length by omega]
  · simp [hne, hne.symm, hb]

/-- **When the operations on two masks are exact**: when both have the same number of blocks, and
the number of blocks has not overflowed. -/
theorem exact_iff (hleft : left.Built) (hright : right.Built)
    (hle : right._fieldCount ≤ left._fieldCount) : left.Exact right ↔
      left._fieldCount.toNat ≤ 2 ^ 32 - 32 ∧ left._blockCount = right._blockCount := by
  rw [← fits_iff hleft.sound hright.sound hle]
  constructor
  · exact fun h => (combines_iff bitOp_and hleft.sound hright.sound hle).mp h.and
  · intro hfits
    have hcount := ((fits_iff hleft.sound hright.sound hle).mp hfits).1
    exact ⟨(combines_iff bitOp_and hleft.sound hright.sound hle).mpr hfits,
      (combines_iff bitOp_or hleft.sound hright.sound hle).mpr hfits,
      fun index hindex => hleft.setBit_spec hcount hindex, hleft.sound.readable hcount⟩

/-- Two masks of two blocks. -/
theorem exact_two_blocks : (setCount 40).Exact (setCount 33) :=
  (exact_iff (.setCount 40) (.setCount 33) (by decide)).mpr ⟨by decide, by decide⟩

/-- A mask of 33 bits and one of 32: the last bit is looked for behind the right array. -/
theorem not_exact_33_32 : ¬ (setCount 33).Exact (setCount 32) := fun h =>
  absurd ((combines_iff bitOp_and (Built.setCount 33).sound (Built.setCount 32).sound
    (by decide)).mp h.and) (by simp [Fits, setCount, CLIENT_UPDATE_MASK_BITS])

end UpdateMask

end FunPvp.Packets
