/-
# The byte buffer

`ByteBuffer` is a byte vector with a read and a write position of type `size_t`. The operators
append a value behind the write position, or take one at the read position and move that on; a read
that does not find enough bytes throws, and leaves the buffer as it is at that moment.

A position may be any number. `Fault.outside` is what the code does where it reaches for bytes
that the vector does not have; the bounds tests are there to keep it from that.
-/
import FunPvp.Lib.LittleEndian

namespace FunPvp.Packets

open Lib

/-! ## 1. The buffer -/

structure ByteBuffer where
  rpos : UInt64 := 0
  wpos : UInt64 := 0
  storage : List UInt8 := []
deriving DecidableEq

/-- What a function ends with that does not return. -/
inductive Fault
  /-- `ByteBufferPositionException`. -/
  | position (add : Bool) (pos size valueSize : UInt64)
  /-- `ByteBufferSourceException`. -/
  | source (pos size valueSize : UInt64)
  /-- `ASSERT(size() < 10000000)`. -/
  | assertSize
  /-- Memory outside of the vector is read or written. -/
  | outside
  /-- A loop has not come to its end. -/
  | unfinished
deriving DecidableEq

/-- What works on a buffer; a throw leaves the buffer at hand. -/
abbrev Buffered := EStateM Fault ByteBuffer

def ByteBuffer.size (b : ByteBuffer) : UInt64 := UInt64.ofNat b.storage.length

/-! ## 2. Integers -/

/-- `TRINITY_ENDIAN`. -/
inductive Endian
  | little
  | big
deriving DecidableEq

namespace Endian

/-- The bytes of a value of the size `k` in memory. -/
def store (k n : ℕ) : Endian → List UInt8
  | little => leBytes k n
  | big => (leBytes k n).reverse

/-- The value that bytes in memory are. -/
def load (bytes : List UInt8) : Endian → ℕ
  | little => leNat bytes
  | big => leNat bytes.reverse

/-- `EndianConvert`: on a big-endian host the bytes change places. -/
def convert (k n : ℕ) : Endian → ℕ
  | little => n
  | big => load (store k n big).reverse big

end Endian

inductive IntType
  | uint8
  | uint16
  | uint32
  | uint64
  | int8
  | int16
  | int32
  | int64
deriving DecidableEq

namespace IntType

abbrev Value : IntType → Type
  | uint8 => UInt8
  | uint16 => UInt16
  | uint32 => UInt32
  | uint64 => UInt64
  | int8 => Int8
  | int16 => Int16
  | int32 => Int32
  | int64 => Int64

def sizeof : IntType → ℕ
  | uint8 | int8 => 1
  | uint16 | int16 => 2
  | uint32 | int32 => 4
  | uint64 | int64 => 8

/-- The bits of a value, as a number; signed ones are in two's complement. -/
def toBits : (t : IntType) → t.Value → ℕ
  | uint8, v => UInt8.toNat v
  | uint16, v => UInt16.toNat v
  | uint32, v => UInt32.toNat v
  | uint64, v => UInt64.toNat v
  | int8, v => (Int8.toUInt8 v).toNat
  | int16, v => (Int16.toUInt16 v).toNat
  | int32, v => (Int32.toUInt32 v).toNat
  | int64, v => (Int64.toUInt64 v).toNat

def ofBits : (t : IntType) → ℕ → t.Value
  | uint8, n => UInt8.ofNat n
  | uint16, n => UInt16.ofNat n
  | uint32, n => UInt32.ofNat n
  | uint64, n => UInt64.ofNat n
  | int8, n => (UInt8.ofNat n).toInt8
  | int16, n => (UInt16.ofNat n).toInt16
  | int32, n => (UInt32.ofNat n).toInt32
  | int64, n => (UInt64.ofNat n).toInt64

end IntType

namespace ByteBuffer

/-! ## 3. Writing -/

/-- The vector with zeros behind it up to the size `n`. -/
def resized (storage : List UInt8) (n : UInt64) : List UInt8 :=
  storage.take n.toNat ++ List.replicate (n.toNat - storage.length) 0

def append (src : List UInt8) : Buffered Unit := fun b =>
  let cnt := UInt64.ofNat src.length
  if cnt = 0 then .error (.source b.wpos b.size cnt) b
  else if ¬ b.size < 10000000 then .error .assertSize b
  else
    let storage := if b.size < b.wpos + cnt then resized b.storage (b.wpos + cnt) else b.storage
    if storage.length < b.wpos.toNat + cnt.toNat then .error .outside { b with storage := storage }
    else
      .ok () { b with
        storage := storage.take b.wpos.toNat ++ src ++ storage.drop (b.wpos.toNat + cnt.toNat)
        wpos := b.wpos + cnt }

def appendValue (e : Endian) (t : IntType) (value : t.Value) : Buffered Unit :=
  append (e.store t.sizeof (e.convert t.sizeof (t.toBits value)))

/-- `operator<<` for `std::string`. -/
def writeString (e : Endian) (value : List UInt8) : Buffered Unit := do
  if value ≠ [] then append value
  appendValue e .uint8 (0 : UInt8)

/-- The loop of `appendPackGUID`: `packGUID[0]` and what stands behind it. -/
def packLoop : ℕ → UInt8 → UInt64 → UInt8 → List UInt8 → Option (UInt8 × List UInt8)
  | 0, _, _, _, _ => none
  | fuel + 1, i, guid, mark, data =>
    if guid = 0 then some (mark, data)
    else if guid &&& 0xFF ≠ 0 then
      packLoop fuel (i + 1) (guid >>> 8) (mark ||| 1 <<< i) (data ++ [(guid &&& 0xFF).toUInt8])
    else packLoop fuel (i + 1) (guid >>> 8) mark data

def appendPackGUID (guid : UInt64) : Buffered Unit :=
  match packLoop 9 0 guid 0 [] with
  | some (mark, data) => append (mark :: data)
  | none => throw .unfinished

/-! ## 4. Reading -/

def readAt (e : Endian) (t : IntType) (pos : UInt64) : Buffered t.Value := fun b =>
  if pos + UInt64.ofNat t.sizeof > b.size then
    .error (.position false pos (UInt64.ofNat t.sizeof) b.size) b
  else if b.storage.length < pos.toNat + t.sizeof then .error .outside b
  else
    .ok (t.ofBits (e.convert t.sizeof (e.load ((b.storage.drop pos.toNat).take t.sizeof)))) b

def advance (n : UInt64) : Buffered Unit := modify fun b => { b with rpos := b.rpos + n }

def read (e : Endian) (t : IntType) : Buffered t.Value := do
  let b ← get
  let r ← readAt e t b.rpos
  advance (UInt64.ofNat t.sizeof)
  return r

/-- The loop of `operator>>` for `std::string`. -/
def readStringLoop (e : Endian) : ℕ → List UInt8 → Buffered (List UInt8)
  | 0, _ => throw .unfinished
  | fuel + 1, value => do
    let b ← get
    if b.rpos < b.size then
      let c : UInt8 ← read e .uint8
      if c = 0 then return value
      else readStringLoop e fuel (value ++ [c])
    else return value

/-- `operator>>` for `std::string`. -/
def readString (e : Endian) : Buffered (List UInt8) := do
  let b ← get
  readStringLoop e (b.storage.length + 1) []

/-- The test of `readPackGUID`. -/
def needByte : Buffered Unit := fun b =>
  if b.rpos + 1 > b.size then .error (.position false b.rpos 1 b.size) b else .ok () b

def unpackLoop (e : Endian) (guidmark : UInt8) : List ℕ → UInt64 → Buffered UInt64
  | [], guid => return guid
  | i :: rest, guid => do
    if guidmark &&& 1 <<< UInt8.ofNat i ≠ 0 then
      needByte
      let bit : UInt8 ← read e .uint8
      unpackLoop e guidmark rest (guid ||| bit.toUInt64 <<< UInt64.ofNat (i * 8))
    else unpackLoop e guidmark rest guid

def readPackGUID (e : Endian) : Buffered UInt64 := do
  needByte
  let guidmark : UInt8 ← read e .uint8
  unpackLoop e guidmark (List.range 8) 0

def readBytes (len : UInt64) : Buffered (List UInt8) := fun b =>
  if b.rpos + len > b.size then .error (.position false b.rpos len b.size) b
  else if b.storage.length < b.rpos.toNat + len.toNat then .error .outside b
  else
    .ok ((b.storage.drop b.rpos.toNat).take len.toNat) { b with rpos := b.rpos + len }

def readSkip (skip : UInt64) : Buffered Unit := fun b =>
  if b.rpos + skip > b.size then .error (.position false b.rpos skip b.size) b
  else .ok () { b with rpos := b.rpos + skip }

end ByteBuffer

end FunPvp.Packets
