/-
# What is sent to a client

`WorldSocket::Update` takes the packets that wait to be sent and copies them into a buffer, one
behind the other, each with its header in front. A packet that does not fit sends the buffer to
the write queue of the socket and goes into an empty one; a packet that is too large for an empty
one gets a buffer of its own.

The headers are enciphered in the order in which the packets are dequeued, so a client can read
them only if they are sent in this order, whole and once. `update_sends` says that they are,
whatever the sizes of the packets and of the buffer, and that nothing is written outside of a
buffer; `readSent_encodeSent_iff` says when a client reads them back.
-/
import FunPvp.Network.WorldSocket

namespace FunPvp.Network

/-! ## 1. The source -/

structure EncryptablePacket where
  opcode : UInt16
  contents : List UInt8
  needsEncryption : Bool

namespace ServerPktHeader

def isLargePacket (size : UInt32) : Bool := decide (0x7FFF < size)

/-- The bytes of the header: two or three for the size, and two for the opcode. -/
def header (size : UInt32) (cmd : UInt16) : List UInt8 :=
  (if isLargePacket size then [(size >>> 16 &&& 0xFF).toUInt8 ||| 0x80] else []) ++
    [(size >>> 8 &&& 0xFF).toUInt8, (size &&& 0xFF).toUInt8, (cmd &&& 0xFF).toUInt8,
      (cmd >>> 8 &&& 0xFF).toUInt8]

def getHeaderLength (size : UInt32) : ℕ := 2 + if isLargePacket size then 3 else 2

theorem length_header (size : UInt32) (cmd : UInt16) :
    (header size cmd).length = getHeaderLength size := by
  rw [header, getHeaderLength]
  split <;> rfl

end ServerPktHeader

/-- `EncryptSend`, when `pos` bytes have gone through it. -/
def AuthCrypt.encryptSend (crypt : AuthCrypt) (pos : ℕ) (data : List UInt8) : List UInt8 :=
  data.mapIdx fun i b => crypt (pos + i) b

@[simp] theorem length_encryptSend (crypt : AuthCrypt) (pos : ℕ) (data : List UInt8) :
    (crypt.encryptSend pos data).length = data.length :=
  List.length_mapIdx

/-- A `Write` inside the storage; outside of it, it is undefined. -/
def MessageBuffer.writeInside (m : MessageBuffer) (data : List UInt8) : Option MessageBuffer :=
  if data = [] ∨ m._wpos + data.length ≤ m._storage.length then some (m.write data) else none

namespace EncryptablePacket

variable (queued : EncryptablePacket)

/-- What the header says: the size of the contents and of the opcode. -/
def pktSize : UInt32 := UInt32.ofNat (queued.contents.length + 2)

def sentSize : ℕ := queued.contents.length + ServerPktHeader.getHeaderLength queued.pktSize

def sentHeader (crypt : AuthCrypt) (pos : ℕ) : List UInt8 :=
  let header := ServerPktHeader.header queued.pktSize queued.opcode
  if queued.needsEncryption then crypt.encryptSend pos header else header

/-- How many bytes have gone through the cipher after the packet. -/
def posAfter (pos : ℕ) : ℕ :=
  if queued.needsEncryption then pos + ServerPktHeader.getHeaderLength queued.pktSize else pos

def writeTo (header : List UInt8) (m : MessageBuffer) : Option MessageBuffer := do
  let m ← m.writeInside header
  if queued.contents ≠ [] then m.writeInside queued.contents else some m

end EncryptablePacket

/-- The loop of `Update`: its buffer, the write queue of the socket, and the position of the
cipher. -/
structure Sending where
  buffer : MessageBuffer
  writeQueue : List MessageBuffer
  enciphered : ℕ

namespace Sending

def queuePacket (s : Sending) (buffer : MessageBuffer) : Sending :=
  { s with writeQueue := s.writeQueue ++ [buffer] }

/-- `QueuePacket(std::move(buffer))`, and a `Resize` of what is left of it. -/
def flush (bufferSize : ℕ) (s : Sending) : Sending :=
  { s.queuePacket s.buffer with buffer := MessageBuffer.moved.resize bufferSize }

def sendPacket (bufferSize : ℕ) (crypt : AuthCrypt) (s : Sending) (queued : EncryptablePacket) :
    Option Sending :=
  let header := queued.sentHeader crypt s.enciphered
  let s := { s with enciphered := queued.posAfter s.enciphered }
  let s := if s.buffer.getRemainingSpace < queued.sentSize then s.flush bufferSize else s
  if queued.sentSize ≤ s.buffer.getRemainingSpace then
    (queued.writeTo header s.buffer).map fun buffer => { s with buffer }
  else
    (queued.writeTo header (.ofSize queued.sentSize)).map s.queuePacket

/-- `Update`, with the packets it dequeues. The size of its buffer is 4096 in the source. -/
def update (bufferSize : ℕ) (crypt : AuthCrypt) (writeQueue : List MessageBuffer) (enciphered : ℕ)
    (packets : List EncryptablePacket) : Option Sending := do
  let s ← packets.foldlM (sendPacket bufferSize crypt) ⟨.ofSize bufferSize, writeQueue, enciphered⟩
  if 0 < s.buffer.getActiveSize then
    some { s.queuePacket s.buffer with buffer := .moved }
  else some s

end Sending

/-! ## 2. One packet -/

/-- The packets as they are sent: header and contents of each. -/
def encodeSent (crypt : AuthCrypt) : ℕ → List EncryptablePacket → List (List UInt8)
  | _, [] => []
  | pos, queued :: packets =>
    (queued.sentHeader crypt pos ++ queued.contents) ::
      encodeSent crypt (queued.posAfter pos) packets

theorem EncryptablePacket.length_sentHeader (queued : EncryptablePacket) (crypt : AuthCrypt)
    (pos : ℕ) :
    (queued.sentHeader crypt pos).length = ServerPktHeader.getHeaderLength queued.pktSize := by
  rw [sentHeader]
  split
  · rw [length_encryptSend, ServerPktHeader.length_header]
  · exact ServerPktHeader.length_header _ _

theorem ne_nil_of_mem_encodeSent {crypt : AuthCrypt} {packets : List EncryptablePacket}
    {bytes : List UInt8} {pos : ℕ} (h : bytes ∈ encodeSent crypt pos packets) : bytes ≠ [] := by
  induction packets generalizing pos with
  | nil => cases h
  | cons queued packets ih =>
    rcases List.mem_cons.mp h with rfl | h
    · intro hnil
      have hlength := congrArg List.length (List.append_eq_nil_iff.mp hnil).1
      rw [EncryptablePacket.length_sentHeader, ServerPktHeader.getHeaderLength] at hlength
      simp at hlength
    · exact ih h

namespace EncryptablePacket

variable {queued : EncryptablePacket} {m : MessageBuffer}

theorem exists_writeTo (crypt : AuthCrypt) (pos : ℕ) (hm : m.Wf)
    (hfits : queued.sentSize ≤ m.getRemainingSpace) :
    ∃ m', queued.writeTo (queued.sentHeader crypt pos) m = some m' ∧ m'.Wf ∧
      m'.active = m.active ++ (queued.sentHeader crypt pos ++ queued.contents) ∧
      m'._rpos = m._rpos := by
  have hsize : (queued.sentHeader crypt pos).length + queued.contents.length ≤
      m.getRemainingSpace := by
    rw [length_sentHeader]
    rw [sentSize] at hfits
    omega
  have hstep (m : MessageBuffer) (hm : m.Wf) (data : List UInt8)
      (h : data.length ≤ m.getRemainingSpace) : m.writeInside data = some (m.write data) := by
    have hle := hm.wpos_le
    rw [hm.getRemainingSpace] at h
    exact if_pos (Or.inr (by omega))
  have hrpos (m : MessageBuffer) (data : List UInt8) : (m.write data)._rpos = m._rpos := by
    rw [MessageBuffer.write]
    split <;> rfl
  have hfirst : (queued.sentHeader crypt pos).length ≤ m.getRemainingSpace := by omega
  obtain ⟨hm₁, hactive₁, hlength₁⟩ := hm.write hfirst
  have hroom : queued.contents.length ≤
      (m.write (queued.sentHeader crypt pos)).getRemainingSpace := by
    have hle := hm.wpos_le
    rw [hm.getRemainingSpace] at hsize
    have hwpos : (m.write (queued.sentHeader crypt pos))._wpos =
        m._wpos + (queued.sentHeader crypt pos).length := by
      rw [MessageBuffer.write]
      split
      · next hnil => rw [hnil]; rfl
      · rfl
    rw [hm₁.getRemainingSpace, hlength₁, hwpos]
    omega
  obtain ⟨hm₂, hactive₂, -⟩ := hm₁.write hroom
  rw [writeTo, hstep m hm _ hfirst]
  by_cases hempty : queued.contents = []
  · refine ⟨m.write (queued.sentHeader crypt pos), if_neg (not_not.mpr hempty), hm₁, ?_, hrpos _ _⟩
    rw [hactive₁, hempty, List.append_nil]
  · refine ⟨_, (if_pos hempty).trans (hstep _ hm₁ _ hroom), hm₂, ?_, ?_⟩
    · rw [hactive₂, hactive₁, List.append_assoc]
    · rw [hrpos, hrpos]

end EncryptablePacket

namespace Sending

/-- The buffer holds the given packets and nothing else. -/
structure Holds (s : Sending) (current : List (List UInt8)) : Prop where
  wf : s.buffer.Wf
  rpos : s.buffer._rpos = 0
  active : s.buffer.active = current.flatten

/-- From one state to the other buffers have been queued that hold the given groups of packets. -/
def Queues (s s' : Sending) (groups : List (List (List UInt8))) : Prop :=
  ∃ queued, s'.writeQueue = s.writeQueue ++ queued ∧
    queued.map MessageBuffer.active = groups.map List.flatten ∧
    ∀ buffer ∈ queued, buffer.Wf ∧ buffer._rpos = 0

section Packet

variable {s s' s'' : Sending} {current : List (List UInt8)}
  {groups groups' : List (List (List UInt8))}

theorem Queues.refl (h : s'.writeQueue = s.writeQueue) : s.Queues s' [] :=
  ⟨[], by rw [h, List.append_nil], rfl, fun buffer h => absurd h List.not_mem_nil⟩

theorem Queues.trans (h : s.Queues s' groups) (h' : s'.Queues s'' groups') :
    s.Queues s'' (groups ++ groups') := by
  obtain ⟨queued, hqueue, hactive, hwf⟩ := h
  obtain ⟨queued', hqueue', hactive', hwf'⟩ := h'
  refine ⟨queued ++ queued', ?_, ?_, fun buffer hbuffer => ?_⟩
  · rw [hqueue', hqueue, List.append_assoc]
  · rw [List.map_append, List.map_append, hactive, hactive']
  · rcases List.mem_append.mp hbuffer with hbuffer | hbuffer
    · exact hwf buffer hbuffer
    · exact hwf' buffer hbuffer

theorem Queues.single {buffer : MessageBuffer} (hqueue : s'.writeQueue = s.writeQueue ++ [buffer])
    (hwf : buffer.Wf) (hrpos : buffer._rpos = 0) (hactive : buffer.active = current.flatten) :
    s.Queues s' [current] := by
  refine ⟨[buffer], hqueue, ?_, List.forall_mem_singleton.mpr ⟨hwf, hrpos⟩⟩
  rw [List.map_singleton, List.map_singleton, hactive]

theorem Holds.flush (bufferSize : ℕ) (hs : s.Holds current) :
    s.Queues (s.flush bufferSize) [current] ∧ (s.flush bufferSize).Holds [] := by
  obtain ⟨hwf, hactive, -⟩ := MessageBuffer.wf_resize_of_empty
    (m := MessageBuffer.moved) rfl rfl bufferSize
  exact ⟨.single rfl hs.wf hs.rpos hs.active, hwf, rfl, hactive⟩

/-- **A packet is sent whole, behind those before it**: it is put into the buffer, maybe after a
flush, or queued in a buffer of its own. -/
theorem Holds.sendPacket (bufferSize : ℕ) (crypt : AuthCrypt) (hs : s.Holds current)
    (queued : EncryptablePacket) :
    ∃ s' groups current', s.sendPacket bufferSize crypt queued = some s' ∧ s'.Holds current' ∧
      s.Queues s' groups ∧ s'.enciphered = queued.posAfter s.enciphered ∧
      groups.flatten ++ current' =
        current ++ [queued.sentHeader crypt s.enciphered ++ queued.contents] := by
  -- the state after the flush, if there is one, and what it has queued
  obtain ⟨s₁, groups₁, current₁, hs₁, hheld, hqueues, henciphered, hflat, hempty⟩ :
      ∃ s₁ groups₁ current₁,
        (if s.buffer.getRemainingSpace < queued.sentSize then
            ({ s with enciphered := queued.posAfter s.enciphered } : Sending).flush bufferSize
          else { s with enciphered := queued.posAfter s.enciphered }) = s₁ ∧
        s₁.Holds current₁ ∧ s.Queues s₁ groups₁ ∧
        s₁.enciphered = queued.posAfter s.enciphered ∧ groups₁.flatten ++ current₁ = current ∧
        (¬queued.sentSize ≤ s₁.buffer.getRemainingSpace → current₁ = []) := by
    split
    · obtain ⟨hqueues, hheld⟩ :=
        Holds.flush (s := { s with enciphered := queued.posAfter s.enciphered }) bufferSize
          ⟨hs.wf, hs.rpos, hs.active⟩
      exact ⟨_, [current], [], rfl, hheld, hqueues, rfl, by simp, fun _ => rfl⟩
    · next hfits =>
      refine ⟨_, [], current, rfl, ⟨hs.wf, hs.rpos, hs.active⟩, .refl rfl, rfl, rfl, ?_⟩
      exact fun hlarge => absurd (Nat.not_lt.mp hfits) hlarge
  rw [Sending.sendPacket]
  dsimp only
  rw [hs₁]
  split
  · next hfits =>
    obtain ⟨m', hm', hwf, hactive, hrpos⟩ :=
      EncryptablePacket.exists_writeTo crypt s.enciphered hheld.wf hfits
    refine ⟨_, groups₁, current₁ ++ [queued.sentHeader crypt s.enciphered ++ queued.contents],
      Option.map_eq_some_iff.mpr ⟨m', hm', rfl⟩, ⟨hwf, hrpos.trans hheld.rpos, ?_⟩, hqueues,
      henciphered, ?_⟩
    · rw [hactive, hheld.active]
      simp
    · rw [← List.append_assoc, hflat]
  · next hlarge =>
    obtain rfl := hempty hlarge
    have hroom := MessageBuffer.getRemainingSpace_ofSize queued.sentSize
    obtain ⟨m', hm', hwf, hactive, hrpos⟩ := EncryptablePacket.exists_writeTo crypt s.enciphered
      (MessageBuffer.wf_ofSize queued.sentSize) hroom.ge
    rw [MessageBuffer.active_ofSize, List.nil_append] at hactive
    refine ⟨_, groups₁ ++ [[queued.sentHeader crypt s.enciphered ++ queued.contents]], [],
      Option.map_eq_some_iff.mpr ⟨m', hm', rfl⟩, ⟨hheld.wf, hheld.rpos, hheld.active⟩,
      hqueues.trans (.single rfl hwf hrpos ?_), henciphered, ?_⟩
    · rw [hactive, List.flatten_singleton]
    · rw [← hflat]
      simp

end Packet

/-! ## 3. All packets -/

theorem Holds.foldlM (bufferSize : ℕ) (crypt : AuthCrypt) {s : Sending}
    {current : List (List UInt8)} (hs : s.Holds current) (packets : List EncryptablePacket) :
    ∃ s' groups current', packets.foldlM (Sending.sendPacket bufferSize crypt) s = some s' ∧
      s'.Holds current' ∧ s.Queues s' groups ∧
      groups.flatten ++ current' = current ++ encodeSent crypt s.enciphered packets := by
  induction packets generalizing s current with
  | nil => exact ⟨s, [], current, rfl, hs, .refl rfl, by rw [encodeSent, List.append_nil]; rfl⟩
  | cons queued packets ih =>
    obtain ⟨s₁, groups₁, current₁, hs₁, hheld₁, hqueues₁, henciphered, hflat₁⟩ :=
      hs.sendPacket bufferSize crypt queued
    obtain ⟨s', groups', current', hs', hheld, hqueues, hflat⟩ := ih hheld₁
    refine ⟨s', groups₁ ++ groups', current', ?_, hheld, hqueues₁.trans hqueues, ?_⟩
    · rw [List.foldlM_cons, hs₁]
      exact hs'
    · rw [List.flatten_append, List.append_assoc, hflat, ← List.append_assoc, hflat₁, henciphered,
        encodeSent, List.append_assoc, List.singleton_append]

/-- **What is handed to the write queue.**  For every size of the buffer, every packet is in one of
the buffers that are queued, whole, once, and in the order of the queue; so together they hold the
headers and contents of the packets one after another. Nothing is written outside of a buffer. -/
theorem update_sends (bufferSize : ℕ) (crypt : AuthCrypt) (writeQueue : List MessageBuffer)
    (enciphered : ℕ) (packets : List EncryptablePacket) :
    ∃ (s' : Sending) (queued : List MessageBuffer) (groups : List (List (List UInt8))),
      update bufferSize crypt writeQueue enciphered packets = some s' ∧
      s'.writeQueue = writeQueue ++ queued ∧
      queued.map MessageBuffer.active = groups.map List.flatten ∧
      groups.flatten = encodeSent crypt enciphered packets ∧
      (queued.map MessageBuffer.active).flatten = (encodeSent crypt enciphered packets).flatten ∧
      ∀ buffer ∈ queued, buffer.Wf := by
  have hstart : (⟨.ofSize bufferSize, writeQueue, enciphered⟩ : Sending).Holds [] :=
    ⟨MessageBuffer.wf_ofSize bufferSize, rfl, MessageBuffer.active_ofSize bufferSize⟩
  obtain ⟨s₁, groups₁, current, hs₁, hheld, hqueues₁, hflat⟩ :=
    hstart.foldlM bufferSize crypt packets
  -- what is left in the buffer is queued as well
  obtain ⟨s', groups, hs', ⟨queued, hqueue, hactive, hwf⟩, hgroups⟩ :
      ∃ s' groups, update bufferSize crypt writeQueue enciphered packets = some s' ∧
        Queues ⟨.ofSize bufferSize, writeQueue, enciphered⟩ s' groups ∧
        groups.flatten = encodeSent crypt enciphered packets := by
    rw [update, hs₁]
    by_cases hrest : 0 < s₁.buffer.getActiveSize
    · refine ⟨_, groups₁ ++ [current], if_pos hrest,
        hqueues₁.trans (.single rfl hheld.wf hheld.rpos hheld.active), ?_⟩
      rw [List.flatten_append, List.flatten_singleton]
      exact hflat
    · refine ⟨s₁, groups₁, if_neg hrest, hqueues₁, ?_⟩
      rw [hheld.wf.getActiveSize, hheld.active] at hrest
      have hempty : current = [] := by
        refine List.eq_nil_iff_forall_not_mem.mpr fun bytes hbytes => ?_
        have hsent : bytes ∈ encodeSent crypt enciphered packets := by
          have hmem := List.mem_append_right groups₁.flatten hbytes
          rw [hflat] at hmem
          exact hmem
        have hle := (List.sublist_flatten_of_mem hbytes).length_le
        have hpos := List.length_pos_of_ne_nil (ne_nil_of_mem_encodeSent hsent)
        omega
      rw [hempty, List.append_nil] at hflat
      exact hflat
  refine ⟨s', queued, groups, hs', hqueue, hactive, hgroups, ?_, fun b hb => (hwf b hb).1⟩
  rw [hactive, ← hgroups, List.flatten_flatten]

end Sending

/-! ## 4. The client reads it -/

namespace ServerPktHeader

/-- The length of a header, the size and the opcode: the first byte says whether the packet is
large. -/
def read : List UInt8 → Option (ℕ × ℕ × UInt16)
  | b₀ :: b₁ :: b₂ :: b₃ :: tail =>
    if 0x80 ≤ b₀.toNat then
      some (5, 65536 * (b₀.toNat - 0x80) + 256 * b₁.toNat + b₂.toNat,
        UInt16.ofNat (b₃.toNat + 256 * (tail.headD 0).toNat))
    else some (4, 256 * b₀.toNat + b₁.toNat, UInt16.ofNat (b₂.toNat + 256 * b₃.toNat))
  | _ => none

theorem toNat_byte (n : UInt32) : (n &&& 0xFF).toUInt8.toNat = n.toNat % 256 := by
  simp [Nat.and_two_pow_sub_one_eq_mod _ 8]

theorem toNat_shift (n : UInt32) : (n >>> 8).toNat = n.toNat / 256 := by
  simp [Nat.shiftRight_eq_div_pow]

theorem toNat_top {size : UInt32} (h : size.toNat < 2 ^ 23) :
    ((size >>> 16 &&& 0xFF).toUInt8 ||| 0x80).toNat = size.toNat / 65536 + 0x80 := by
  have hlt : size.toNat / 65536 < 2 ^ 7 := by omega
  have hor : size.toNat / 65536 ||| 0x80 = size.toNat / 65536 + 0x80 := by
    rw [Nat.or_comm, Nat.add_comm]
    exact (Nat.two_pow_add_eq_or_of_lt hlt 1).symm
  rw [← hor, UInt8.toNat_or, toNat_byte]
  simp [Nat.shiftRight_eq_div_pow, Nat.mod_eq_of_lt (show size.toNat / 65536 < 256 by omega)]

theorem ofNat_opcode (cmd : UInt16) :
    UInt16.ofNat ((cmd &&& 0xFF).toUInt8.toNat + 256 * (cmd >>> 8 &&& 0xFF).toUInt8.toNat) =
      cmd := by
  have hcmd := cmd.toNat_lt
  apply UInt16.toNat_inj.mp
  simp [Nat.shiftRight_eq_div_pow, Nat.and_two_pow_sub_one_eq_mod _ 8]
  omega

theorem read_header {size : UInt32} (h : size.toNat < 2 ^ 23) (cmd : UInt16) (tail : List UInt8) :
    read (header size cmd ++ tail) = some (getHeaderLength size, size.toNat, cmd) := by
  cases hlarge : isLargePacket size with
  | true =>
    have hread : 65536 * (size.toNat / 65536 + 0x80 - 0x80) + 256 * (size.toNat / 256 % 256) +
        size.toNat % 256 = size.toNat := by omega
    simp only [header, getHeaderLength, hlarge, if_true, List.cons_append, List.nil_append, read,
      toNat_top h, toNat_byte, toNat_shift, Nat.le_add_left, hread, List.headD_cons, ofNat_opcode]
  | false =>
    have hle : ¬0x7FFF < size.toNat := of_decide_eq_false hlarge
    have hhigh : ¬0x80 ≤ size.toNat / 256 % 256 := by omega
    have hread : 256 * (size.toNat / 256 % 256) + size.toNat % 256 = size.toNat := by omega
    simp only [header, getHeaderLength, hlarge, Bool.false_eq_true, if_false, List.cons_append,
      List.nil_append, read, toNat_byte, toNat_shift, hhigh, hread, ofNat_opcode]

theorem size_lt_of_read {s : List UInt8} {n size : ℕ} {opcode : UInt16}
    (h : read s = some (n, size, opcode)) : size < 2 ^ 23 := by
  unfold read at h
  split at h
  · next b₀ b₁ b₂ _ _ =>
    have hb₀ := b₀.toNat_lt
    have hb₁ := b₁.toNat_lt
    have hb₂ := b₂.toNat_lt
    split at h <;> cases h <;> omega
  · cases h

end ServerPktHeader

/-- A packet at the front of the stream, the place in the cipher after it, and the stream behind
it. -/
def readPacket (crypt : AuthCrypt) (pos : ℕ) (encrypted : Bool) (s : List UInt8) :
    Option ((UInt16 × List UInt8) × ℕ × List UInt8) := do
  let (n, size, opcode) ← ServerPktHeader.read
    (s.mapIdx fun i b => if encrypted then (crypt (pos + i)).symm b else b)
  some ((opcode, (s.drop n).take (size - 2)), if encrypted then pos + n else pos,
    s.drop (n + (size - 2)))

/-- The whole stream, by a client that knows which headers are enciphered. -/
def readSent (crypt : AuthCrypt) : ℕ → List Bool → List UInt8 → Option (List (UInt16 × List UInt8))
  | _, [], s => if s = [] then some [] else none
  | pos, encrypted :: flags, s => do
    let (packet, pos, s) ← readPacket crypt pos encrypted s
    let packets ← readSent crypt pos flags s
    some (packet :: packets)

theorem EncryptablePacket.deciphered (q : EncryptablePacket) (crypt : AuthCrypt) (pos : ℕ) :
    (q.sentHeader crypt pos).mapIdx
        (fun i b => if q.needsEncryption then (crypt (pos + i)).symm b else b) =
      ServerPktHeader.header q.pktSize q.opcode := by
  rw [sentHeader]
  cases hq : q.needsEncryption with
  | false => exact List.ext_getElem (by simp) fun i _ _ => by simp
  | true =>
    rw [if_pos rfl, AuthCrypt.encryptSend, List.mapIdx_mapIdx]
    exact List.ext_getElem (by simp) fun i _ _ => by simp

theorem readPacket_sent {q : EncryptablePacket} (h : q.contents.length + 2 < 2 ^ 23)
    (crypt : AuthCrypt) (pos : ℕ) (rest : List UInt8) :
    readPacket crypt pos q.needsEncryption (q.sentHeader crypt pos ++ (q.contents ++ rest)) =
      some ((q.opcode, q.contents), q.posAfter pos, rest) := by
  have hsize : q.pktSize.toNat = q.contents.length + 2 :=
    UInt32.toNat_ofNat_of_lt' (by simp only [UInt32.size]; omega)
  rw [readPacket, List.mapIdx_append, q.deciphered, ServerPktHeader.read_header (hsize ▸ h), hsize,
    EncryptablePacket.posAfter, ← q.length_sentHeader crypt pos]
  simp [← List.drop_drop]

theorem readPacket_length {crypt : AuthCrypt} {pos pos' : ℕ} {encrypted : Bool}
    {s s' : List UInt8} {packet : UInt16 × List UInt8}
    (h : readPacket crypt pos encrypted s = some (packet, pos', s')) :
    packet.2.length + 2 < 2 ^ 23 := by
  obtain ⟨⟨n, size, opcode⟩, hread, h⟩ := Option.bind_eq_some_iff.mp h
  have hsize := ServerPktHeader.size_lt_of_read hread
  rw [← (Prod.mk.inj (Option.some.inj h)).1, List.length_take]
  omega

/-- **When the stream can be read**: from the bytes that are sent for a queue of packets, the client
gets the opcodes and contents of all of them exactly if every size is within the 23 bits of a
header. -/
theorem readSent_encodeSent_iff (crypt : AuthCrypt) (pos : ℕ) (packets : List EncryptablePacket) :
    readSent crypt pos (packets.map EncryptablePacket.needsEncryption)
          (encodeSent crypt pos packets).flatten =
        some (packets.map fun q => (q.opcode, q.contents)) ↔
      ∀ q ∈ packets, q.contents.length + 2 < 2 ^ 23 := by
  induction packets generalizing pos with
  | nil => simp [readSent, encodeSent]
  | cons q packets ih =>
    rw [List.map_cons, readSent, encodeSent, List.flatten_cons, List.append_assoc,
      List.forall_mem_cons, List.map_cons]
    by_cases hq : q.contents.length + 2 < 2 ^ 23
    · rw [readPacket_sent hq, ← ih (q.posAfter pos), and_iff_right hq]
      simp [Option.bind_eq_some_iff]
    · -- no packet that is read is as long as this one
      refine iff_of_false (fun h => hq ?_) (fun h => hq h.1)
      obtain ⟨⟨packet, pos', s'⟩, hread, h⟩ := Option.bind_eq_some_iff.mp h
      obtain ⟨packets', -, h⟩ := Option.bind_eq_some_iff.mp h
      have hpacket := (List.cons.inj (Option.some.inj h)).1
      rw [hpacket] at hread
      exact readPacket_length hread

end FunPvp.Network
