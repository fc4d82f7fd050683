/-
# The packets of a game client

`WorldSocket::ReadHandler` takes apart what a client sends. It keeps three buffers: what has been
read from the socket, the header of the packet it is in, and the payload so far. A read can end
anywhere, in the middle of a header or of a payload, and the next call goes on from there.

A header is six bytes, deciphered as soon as they are there; what it says about the length of
the payload is then kept in the header buffer itself, and in the size of the packet buffer.
-/
import FunPvp.Lib.Framing
import FunPvp.Lib.LittleEndian
import FunPvp.Network.MessageBuffer

namespace FunPvp.Network

open FunPvp.Lib

/-! ## 1. Headers -/

structure ClientPktHeader where
  size : UInt16
  cmd : UInt32
deriving DecidableEq

def NUM_MSG_TYPES : ℕ := 0x51F

/-- `sizeof(ClientPktHeader)`, which is packed. -/
def sizeofHeader : ℕ := 6

namespace ClientPktHeader

def isValidSize (header : ClientPktHeader) : Bool :=
  decide (header.size ≥ 4) && decide (header.size < 10240)

def isValidOpcode (header : ClientPktHeader) : Bool := decide (header.cmd.toNat < NUM_MSG_TYPES)

/-- The header at an address, on a little-endian machine. -/
def ofMemory (mem : List UInt8) : ClientPktHeader :=
  ⟨UInt16.ofNat (leNat (mem.take 2)), UInt32.ofNat (leNat ((mem.drop 2).take 4))⟩

def toMemory (header : ClientPktHeader) : List UInt8 :=
  leBytes 2 header.size.toNat ++ leBytes 4 header.cmd.toNat

end ClientPktHeader

def endianConvertReverse (val : UInt16) : UInt16 :=
  UInt16.ofNat (leNat (leBytes 2 val.toNat).reverse)

/-- What `AuthCrypt` does to the bytes of the headers: to each at its own place in their
stream. -/
abbrev AuthCrypt := ℕ → Equiv.Perm UInt8

/-- `DecryptRecv`, when `pos` bytes have gone through it. -/
def AuthCrypt.decryptRecv (crypt : AuthCrypt) (pos : ℕ) (data : List UInt8) : List UInt8 :=
  data.mapIdx fun i b => crypt (pos + i) b

/-! ## 2. The socket -/

/-- `WorldPacket`, as the handlers get it. -/
structure WorldPacket where
  opcode : UInt16
  contents : List UInt8
deriving DecidableEq

inductive ReadDataHandlerResult
  | Ok | Error | WaitingForQuery
deriving DecidableEq

/-- `WorldSocket`: its buffers, how many bytes `_authCrypt` has deciphered, and the packets that
have been handed to the handlers. -/
structure WorldSocket where
  _closed : Bool
  _readBuffer : MessageBuffer
  _headerBuffer : MessageBuffer
  _packetBuffer : MessageBuffer
  deciphered : ℕ
  dispatched : List WorldPacket

def READ_BLOCK_SIZE : ℕ := 4096

/-- What the handlers answer, given all packets so far, the new one last. -/
abbrev Handlers := List WorldPacket → ReadDataHandlerResult

namespace WorldSocket

def new : WorldSocket where
  _closed := false
  _readBuffer := .ofSize READ_BLOCK_SIZE
  _headerBuffer := (MessageBuffer.ofSize 4096).resize sizeofHeader
  _packetBuffer := .ofSize 4096
  deciphered := 0
  dispatched := []

inductive Exit
  /-- An `ASSERT` that does not hold. -/
  | assertion
  /-- `break`. -/
  | leaves (k : WorldSocket)
  /-- `return`. -/
  | returns (k : WorldSocket)

def closeSocket (k : WorldSocket) : WorldSocket := { k with _closed := true }

def asyncRead (k : WorldSocket) : WorldSocket :=
  if k._closed then k else { k with _readBuffer := k._readBuffer.normalize.ensureFreeSpace }

/-- `ReadHeaderHandler`: nothing when its `ASSERT` does not hold. -/
def readHeaderHandler (crypt : AuthCrypt) (k : WorldSocket) : Option (Bool × WorldSocket) :=
  if k._headerBuffer.getActiveSize ≠ sizeofHeader then none
  else
    let mem := crypt.decryptRecv k.deciphered (k._headerBuffer.memory.take sizeofHeader)
    let header := ClientPktHeader.ofMemory mem
    let header := { header with size := endianConvertReverse header.size }
    let k := { k with deciphered := k.deciphered + sizeofHeader }
    if !header.isValidSize || !header.isValidOpcode then
      some (false, { k with _headerBuffer := k._headerBuffer.overwrite header.toMemory })
    else
      let header := { header with size := header.size - 4 }
      some (true, { k with
        _headerBuffer := k._headerBuffer.overwrite header.toMemory
        _packetBuffer := k._packetBuffer.resize header.size.toNat })

def readDataHandler (handlers : Handlers) (k : WorldSocket) :
    ReadDataHandlerResult × WorldSocket :=
  let header := ClientPktHeader.ofMemory (k._headerBuffer.memory.take sizeofHeader)
  let packet : WorldPacket := ⟨header.cmd.toUInt16, k._packetBuffer._storage⟩
  let dispatched := k.dispatched ++ [packet]
  (handlers dispatched, { k with _packetBuffer := .moved, dispatched := dispatched })

/-- The first part of the loop's body: "need to receive the header". -/
def headerPart (crypt : AuthCrypt) (k : WorldSocket) : Except Exit WorldSocket :=
  if k._headerBuffer.getRemainingSpace > 0 then
    let readHeaderSize := min k._readBuffer.getActiveSize k._headerBuffer.getRemainingSpace
    let k := { k with
      _headerBuffer := k._headerBuffer.write (k._readBuffer.memory.take readHeaderSize)
      _readBuffer := k._readBuffer.readCompleted readHeaderSize }
    if k._headerBuffer.getRemainingSpace > 0 then
      .error (if k._readBuffer.getActiveSize = 0 then .leaves k else .assertion)
    else
      match k.readHeaderHandler crypt with
      | none => .error .assertion
      | some (false, k) => .error (.returns k.closeSocket)
      | some (true, k) => .ok k
  else .ok k

/-- The second part: "need more data in the payload". -/
def dataPart (k : WorldSocket) : Except Exit WorldSocket :=
  if k._packetBuffer.getRemainingSpace > 0 then
    let readDataSize := min k._readBuffer.getActiveSize k._packetBuffer.getRemainingSpace
    let k := { k with
      _packetBuffer := k._packetBuffer.write (k._readBuffer.memory.take readDataSize)
      _readBuffer := k._readBuffer.readCompleted readDataSize }
    if k._packetBuffer.getRemainingSpace > 0 then
      .error (if k._readBuffer.getActiveSize = 0 then .leaves k else .assertion)
    else .ok k
  else .ok k

/-- The loop of `ReadHandler`, and what follows it; `none` when an `ASSERT` does not hold, or
when there is not a unit of fuel for each round. -/
def readLoop (crypt : AuthCrypt) (handlers : Handlers) : ℕ → WorldSocket → Option WorldSocket
  | 0, _ => none
  | fuel + 1, k =>
    if k._readBuffer.getActiveSize = 0 then some k.asyncRead
    else
      match k.headerPart crypt >>= dataPart with
      | .error .assertion => none
      | .error (.leaves k) => some k.asyncRead
      | .error (.returns k) => some k
      | .ok k =>
        let r := k.readDataHandler handlers
        let k := { r.2 with _headerBuffer := r.2._headerBuffer.reset }
        match r.1 with
        | .Ok => readLoop crypt handlers fuel k
        | .Error => some k.closeSocket
        | .WaitingForQuery => some k

/-- `ReadHandlerInternal` and `ReadHandler`, with the chunk that has been read. No read is under
way on a closed socket. -/
def receive (crypt : AuthCrypt) (handlers : Handlers) (k : WorldSocket) (chunk : List UInt8) :
    Option WorldSocket :=
  if k._closed then some k
  else
    let k := { k with _readBuffer := k._readBuffer.write chunk }
    readLoop crypt handlers (k._readBuffer.getActiveSize + 1) k

def receiveAll (crypt : AuthCrypt) (handlers : Handlers) (k : WorldSocket)
    (chunks : List (List UInt8)) : Option WorldSocket :=
  chunks.foldlM (receive crypt handlers) k

end WorldSocket

/-! ## 3. A stream, parsed at once -/

def decodeHeader (crypt : AuthCrypt) (pos : ℕ) (bytes : List UInt8) : ClientPktHeader :=
  let header := ClientPktHeader.ofMemory (crypt.decryptRecv pos bytes)
  { header with size := endianConvertReverse header.size }

def ClientPktHeader.valid (header : ClientPktHeader) : Bool :=
  header.isValidSize && header.isValidOpcode

def ClientPktHeader.payloadSize (header : ClientPktHeader) : ℕ := (header.size - 4).toNat

/-- The packets so far, and how many header bytes have been deciphered. -/
structure StreamState where
  packets : List WorldPacket
  pos : ℕ

/-- What the stream has at its front: the head of a packet that is not all there, a packet, or a
header that nobody can send. -/
def nextPacket (crypt : AuthCrypt) (s : StreamState) (xs : List UInt8) : Verdict StreamState :=
  if xs.length < sizeofHeader then .more
  else
    let header := decodeHeader crypt s.pos (xs.take sizeofHeader)
    if header.valid = false then .stop { s with pos := s.pos + sizeofHeader }
    else if xs.length < sizeofHeader + header.payloadSize then .more
    else
      .frame (sizeofHeader + header.payloadSize)
        ⟨s.packets ++ [⟨header.cmd.toUInt16, (xs.drop sizeofHeader).take header.payloadSize⟩],
          s.pos + sizeofHeader⟩

/-- The whole stream at once: its packets, what is left of it, and whether all headers were
valid. -/
def parseStream (crypt : AuthCrypt) (s : StreamState) (xs : List UInt8) :
    Drained StreamState UInt8 :=
  drain (nextPacket crypt) (xs.length + 1) s xs

end FunPvp.Network
