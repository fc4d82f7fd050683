/-
# The cuts of a client's stream do not matter

`ReadHandler` is compared with a parser that has the whole stream (`parseStream`). In between
stands where the socket is in the stream: how much of the current packet it has taken (`InHeader`,
`InPayload`). A round of the loop comes to the next such place, so a whole read drains the stream
up to its end (`readLoop_drains`), and the reads together drain it as one (`Drains.feeds`).

The parser in turn is a bijection: what it has taken is the packets, enciphered, and what is left
(`parseStream_accounts`). So no byte is skipped and none is used twice.
-/
import FunPvp.Network.WorldSocket

namespace FunPvp.Network

open FunPvp.Lib

/-! ## 1. Headers and bytes -/

@[simp] theorem length_decryptRecv (crypt : AuthCrypt) (pos : ℕ) (data : List UInt8) :
    (crypt.decryptRecv pos data).length = data.length :=
  List.length_mapIdx

namespace ClientPktHeader

@[simp] theorem length_toMemory (header : ClientPktHeader) :
    header.toMemory.length = sizeofHeader := by
  simp [toMemory, sizeofHeader]

theorem ofMemory_toMemory (header : ClientPktHeader) : ofMemory header.toMemory = header := by
  have hsize : header.size.toNat < 256 ^ 2 := header.size.toNat_lt
  have hcmd : header.cmd.toNat < 256 ^ 4 := header.cmd.toNat_lt
  have h2 : (leBytes 2 header.size.toNat).length = 2 := length_leBytes _ _
  have h4 : (leBytes 4 header.cmd.toNat).length = 4 := length_leBytes _ _
  rw [ofMemory, toMemory, List.take_left' h2, List.drop_left' h2, List.take_of_length_le (by omega),
    leNat_leBytes hsize, leNat_leBytes hcmd, UInt16.ofNat_toNat, UInt32.ofNat_toNat]

theorem payloadSize_add {header : ClientPktHeader} (h : header.valid = true) :
    header.payloadSize + 4 = header.size.toNat := by
  simp only [valid, isValidSize, Bool.and_eq_true, decide_eq_true_eq] at h
  have h4 := UInt16.le_iff_toNat_le.mp h.1.1
  rw [payloadSize, UInt16.toNat_sub_of_le _ _ h.1.1]
  exact Nat.sub_add_cancel h4

theorem toNat_opcode {header : ClientPktHeader} (h : header.valid = true) :
    header.cmd.toUInt16.toNat = header.cmd.toNat := by
  have hcmd : header.cmd.toNat < 0x51F := of_decide_eq_true (Bool.and_eq_true_iff.mp h).2
  rw [UInt32.toNat_toUInt16]
  omega

end ClientPktHeader

/-! ## 2. The parser -/

theorem nextPacket_short (crypt : AuthCrypt) (s : StreamState) {xs : List UInt8}
    (h : xs.length < sizeofHeader) : nextPacket crypt s xs = .more := if_pos h

theorem nextPacket_append (crypt : AuthCrypt) (s : StreamState) {raw : List UInt8}
    (hraw : raw.length = sizeofHeader) (ys : List UInt8) :
    nextPacket crypt s (raw ++ ys) =
      let header := decodeHeader crypt s.pos raw
      if header.valid = false then .stop { s with pos := s.pos + sizeofHeader }
      else if ys.length < header.payloadSize then .more
      else
        .frame (sizeofHeader + header.payloadSize)
          ⟨s.packets ++ [⟨header.cmd.toUInt16, ys.take header.payloadSize⟩],
            s.pos + sizeofHeader⟩ := by
  have hlen : ¬ (raw ++ ys).length < sizeofHeader := by
    rw [List.length_append]
    omega
  have hsize : ∀ n, (raw ++ ys).length < sizeofHeader + n ↔ ys.length < n := fun n => by
    rw [List.length_append]
    omega
  simp only [nextPacket, if_neg hlen, List.take_left' hraw, List.drop_left' hraw, hsize]

theorem exists_raw {xs : List UInt8} (h : ¬ xs.length < sizeofHeader) :
    ∃ raw ys, xs = raw ++ ys ∧ raw.length = sizeofHeader := by
  refine ⟨xs.take sizeofHeader, xs.drop sizeofHeader, (List.take_append_drop _ _).symm, ?_⟩
  rw [List.length_take]
  omega

theorem progress_nextPacket (crypt : AuthCrypt) :
    Progress (nextPacket crypt) fun _ _ => True := by
  intro s xs n s' _ hn
  by_cases hlen : xs.length < sizeofHeader
  · rw [nextPacket_short crypt s hlen] at hn
    exact absurd hn (by simp)
  · obtain ⟨raw, ys, rfl, hraw⟩ := exists_raw hlen
    rw [nextPacket_append crypt s hraw] at hn
    dsimp only at hn
    split at hn
    · exact absurd hn (by simp)
    · split at hn
      · exact absurd hn (by simp)
      · next hys =>
        obtain ⟨rfl, -⟩ := Verdict.frame.inj hn
        rw [List.length_append, hraw]
        have hpos : 0 < sizeofHeader := by decide
        omega

theorem stable_nextPacket (crypt : AuthCrypt) : Stable (nextPacket crypt) fun _ _ => True where
  verdict := by
    intro s xs zs _ hmore
    by_cases hlen : xs.length < sizeofHeader
    · exact absurd (nextPacket_short crypt s hlen) hmore
    · obtain ⟨raw, ys, rfl, hraw⟩ := exists_raw hlen
      rw [nextPacket_append crypt s hraw] at hmore
      rw [List.append_assoc, nextPacket_append crypt s hraw, nextPacket_append crypt s hraw]
      dsimp only at hmore ⊢
      split
      · rfl
      · next hvalid =>
        rw [if_neg hvalid] at hmore
        by_cases hys : ys.length < (decodeHeader crypt s.pos raw).payloadSize
        · exact absurd (if_pos hys) hmore
        · have hyz : ¬ (ys ++ zs).length < (decodeHeader crypt s.pos raw).payloadSize := by
            rw [List.length_append]
            omega
          rw [if_neg hys, if_neg hyz, List.take_append_of_le_length (by omega)]
  head := fun _ _ _ _ _ => trivial
  noDrop := by
    intro s xs _ hn
    by_cases hlen : xs.length < sizeofHeader
    · rw [nextPacket_short crypt s hlen] at hn
      exact absurd hn (by simp)
    · obtain ⟨raw, ys, rfl, hraw⟩ := exists_raw hlen
      rw [nextPacket_append crypt s hraw] at hn
      dsimp only at hn
      split at hn
      · exact absurd hn (by simp)
      · split at hn
        · exact absurd hn (by simp)
        · exact absurd hn (by simp)

/-! ## 3. What the parser has taken -/

/-- The header of a packet, as a client enciphers it. -/
def encodeHeader (crypt : AuthCrypt) (pos : ℕ) (packet : WorldPacket) : List UInt8 :=
  ((leBytes 2 (packet.contents.length + 4)).reverse ++ leBytes 4 packet.opcode.toNat).mapIdx
    fun i b => (crypt (pos + i)).symm b

def encodePackets (crypt : AuthCrypt) : ℕ → List WorldPacket → List UInt8
  | _, [] => []
  | pos, packet :: packets =>
    encodeHeader crypt pos packet ++ packet.contents ++
      encodePackets crypt (pos + sizeofHeader) packets

theorem encodeHeader_of_decode {crypt : AuthCrypt} {pos : ℕ} {raw : List UInt8}
    (hraw : raw.length = sizeofHeader) (hvalid : (decodeHeader crypt pos raw).valid = true)
    {contents : List UInt8} (hlen : contents.length = (decodeHeader crypt pos raw).payloadSize) :
    encodeHeader crypt pos ⟨(decodeHeader crypt pos raw).cmd.toUInt16, contents⟩ = raw := by
  have hmem : (crypt.decryptRecv pos raw).length = 6 := (length_decryptRecv crypt pos raw).trans hraw
  have h2 : ((crypt.decryptRecv pos raw).take 2).length = 2 := by
    rw [List.length_take]
    omega
  have h4 : ((crypt.decryptRecv pos raw).drop 2).length = 4 := by
    rw [List.length_drop]
    omega
  have hlt2 : leNat ((crypt.decryptRecv pos raw).take 2) < 2 ^ 16 := by
    have hlt := leNat_lt ((crypt.decryptRecv pos raw).take 2)
    rwa [h2] at hlt
  have hlt2' : leNat ((crypt.decryptRecv pos raw).take 2).reverse < 2 ^ 16 := by
    have hlt := leNat_lt ((crypt.decryptRecv pos raw).take 2).reverse
    rwa [List.length_reverse, h2] at hlt
  have hlt4 : leNat ((crypt.decryptRecv pos raw).drop 2) < 2 ^ 32 := by
    have hlt := leNat_lt ((crypt.decryptRecv pos raw).drop 2)
    rwa [h4] at hlt
  have hback : leBytes 2 (leNat ((crypt.decryptRecv pos raw).take 2))
      = (crypt.decryptRecv pos raw).take 2 := by
    have hb := leBytes_leNat ((crypt.decryptRecv pos raw).take 2)
    rwa [h2] at hb
  have hsize : (decodeHeader crypt pos raw).size.toNat
      = leNat ((crypt.decryptRecv pos raw).take 2).reverse := by
    simp only [decodeHeader, ClientPktHeader.ofMemory, endianConvertReverse]
    rw [UInt16.toNat_ofNat_of_lt' hlt2, hback, UInt16.toNat_ofNat_of_lt' hlt2']
  have hcmd : (decodeHeader crypt pos raw).cmd.toNat
      = leNat ((crypt.decryptRecv pos raw).drop 2) := by
    simp only [decodeHeader, ClientPktHeader.ofMemory]
    rw [List.take_of_length_le (by omega), UInt32.toNat_ofNat_of_lt' hlt4]
  have hbytes2 : (leBytes 2 (contents.length + 4)).reverse
      = (crypt.decryptRecv pos raw).take 2 := by
    rw [hlen, ClientPktHeader.payloadSize_add hvalid, hsize]
    have hb := leBytes_leNat ((crypt.decryptRecv pos raw).take 2).reverse
    rw [List.length_reverse, h2] at hb
    rw [hb, List.reverse_reverse]
  have hbytes4 : leBytes 4 (decodeHeader crypt pos raw).cmd.toUInt16.toNat
      = (crypt.decryptRecv pos raw).drop 2 := by
    have hb := leBytes_leNat ((crypt.decryptRecv pos raw).drop 2)
    rw [h4] at hb
    rw [ClientPktHeader.toNat_opcode hvalid, hcmd, hb]
  rw [encodeHeader, hbytes2, hbytes4, List.take_append_drop, AuthCrypt.decryptRecv,
    List.mapIdx_mapIdx]
  exact List.ext_getElem (by simp) fun i _ _ => by simp

/-- Every byte of the stream is accounted for. -/
structure Accounts (crypt : AuthCrypt) (s : StreamState) (xs : List UInt8)
    (d : Drained StreamState UInt8) (new : List WorldPacket) : Prop where
  packets : d.state.packets = s.packets ++ new
  /-- While all headers are valid: the new packets, and what is left. -/
  live : d.live = true → d.state.pos = s.pos + sizeofHeader * new.length ∧
    encodePackets crypt s.pos new ++ d.rest = xs
  /-- The first header that is not follows the new packets. -/
  stopped : d.live = false → d.state.pos = s.pos + sizeofHeader * (new.length + 1) ∧
    ∃ raw tail, raw.length = sizeofHeader ∧
      (decodeHeader crypt (s.pos + sizeofHeader * new.length) raw).valid = false ∧
      encodePackets crypt s.pos new ++ raw ++ tail = xs

theorem drains_accounts {crypt : AuthCrypt} {s : StreamState} {xs : List UInt8}
    {d : Drained StreamState UInt8} (h : Drains (nextPacket crypt) (fun _ _ => True) s xs d) :
    ∃ new, Accounts crypt s xs d new := by
  induction h with
  | @more s xs _ hn =>
    exact ⟨[], by simp, fun _ => ⟨rfl, rfl⟩, fun hl => absurd hl (by simp)⟩
  | @stop s s' xs _ hn =>
    have hlen : ¬ xs.length < sizeofHeader := fun hlen => by
      rw [nextPacket_short crypt s hlen] at hn
      exact absurd hn (by simp)
    obtain ⟨raw, ys, rfl, hraw⟩ := exists_raw hlen
    rw [nextPacket_append crypt s hraw] at hn
    dsimp only at hn
    split at hn
    · next hvalid =>
      obtain rfl := Verdict.stop.inj hn
      exact ⟨[], by simp, fun hl => absurd hl (by simp),
        fun _ => ⟨rfl, raw, ys, hraw, hvalid, rfl⟩⟩
    · split at hn
      · exact absurd hn (by simp)
      · exact absurd hn (by simp)
  | @drop s xs _ hn => exact absurd hn ((stable_nextPacket crypt).noDrop s xs trivial)
  | @frame s s' xs n d _ hn _ ih =>
    have hlen : ¬ xs.length < sizeofHeader := fun hlen => by
      rw [nextPacket_short crypt s hlen] at hn
      exact absurd hn (by simp)
    obtain ⟨raw, ys, rfl, hraw⟩ := exists_raw hlen
    rw [nextPacket_append crypt s hraw] at hn
    dsimp only at hn
    split at hn
    · exact absurd hn (by simp)
    · next hvalid =>
      split at hn
      · exact absurd hn (by simp)
      · next hys =>
        obtain ⟨rfl, rfl⟩ := Verdict.frame.inj hn
        obtain ⟨new, ih⟩ := ih
        have hcontents : (ys.take (decodeHeader crypt s.pos raw).payloadSize).length
            = (decodeHeader crypt s.pos raw).payloadSize := by
          rw [List.length_take]
          omega
        have hheader := encodeHeader_of_decode hraw (by simpa using hvalid) hcontents
        have hdrop : (raw ++ ys).drop (sizeofHeader + (decodeHeader crypt s.pos raw).payloadSize)
            = ys.drop (decodeHeader crypt s.pos raw).payloadSize := by
          rw [← List.drop_drop, List.drop_left' hraw]
        have hpos : ∀ m, s.pos + sizeofHeader + sizeofHeader * m
            = s.pos + sizeofHeader * (m + 1) := fun m => by ring
        rw [hdrop] at ih
        refine ⟨⟨(decodeHeader crypt s.pos raw).cmd.toUInt16,
          ys.take (decodeHeader crypt s.pos raw).payloadSize⟩ :: new, ?_, fun hl => ?_,
          fun hl => ?_⟩
        · rw [ih.packets, List.append_assoc]
          rfl
        · obtain ⟨hp, hrest⟩ := ih.live hl
          refine ⟨hp.trans (hpos _), ?_⟩
          rw [encodePackets, hheader, List.append_assoc, hrest, List.append_assoc,
            List.take_append_drop]
        · obtain ⟨hp, raw', tail, hraw', hvalid', hrest⟩ := ih.stopped hl
          refine ⟨hp.trans (hpos _), raw', tail, hraw', ?_, ?_⟩
          · rw [List.length_cons, ← hpos]
            exact hvalid'
          · rw [List.append_assoc] at hrest ⊢
            rw [encodePackets, hheader, List.append_assoc, hrest, List.append_assoc,
              List.take_append_drop]

/-! ## 4. Where the socket is -/

namespace WorldSocket

variable {crypt : AuthCrypt} {handlers : Handlers} {k k' : WorldSocket} {s : StreamState}
  {rest bs raw payload : List UInt8}

/-- An open socket that has `bs` still to look at. -/
structure Reading (k : WorldSocket) (s : StreamState) (bs : List UInt8) : Prop where
  opened : k._closed = false
  packets : k.dispatched = s.packets
  read : k._readBuffer.Wf
  read_active : k._readBuffer.active = bs
  read_length : k._readBuffer._storage.length = READ_BLOCK_SIZE
  header : k._headerBuffer.Wf
  header_rpos : k._headerBuffer._rpos = 0
  header_length : k._headerBuffer._storage.length = sizeofHeader

structure InHeader (k : WorldSocket) (s : StreamState) (rest bs : List UInt8) : Prop
    extends Reading k s bs where
  deciphered : k.deciphered = s.pos
  header_active : k._headerBuffer.active = rest
  short : rest.length < sizeofHeader
  packet_wpos : k._packetBuffer._wpos = 0
  packet_rpos : k._packetBuffer._rpos = 0

/-- It has taken a whole header, `raw`, and of its payload `payload`. -/
structure InPayload (crypt : AuthCrypt) (k : WorldSocket) (s : StreamState)
    (raw payload bs : List UInt8) : Prop extends Reading k s bs where
  raw_length : raw.length = sizeofHeader
  valid : (decodeHeader crypt s.pos raw).valid = true
  deciphered : k.deciphered = s.pos + sizeofHeader
  header_active : k._headerBuffer.active =
    ClientPktHeader.toMemory { decodeHeader crypt s.pos raw with
      size := (decodeHeader crypt s.pos raw).size - 4 }
  packet : k._packetBuffer.Wf
  packet_rpos : k._packetBuffer._rpos = 0
  packet_active : k._packetBuffer.active = payload
  packet_length : k._packetBuffer._storage.length = (decodeHeader crypt s.pos raw).payloadSize

theorem Reading.take (h : Reading k s bs) {n : ℕ} (hn : n ≤ bs.length) :
    k._readBuffer.memory.take n = bs.take n ∧ (k._readBuffer.readCompleted n).Wf ∧
      (k._readBuffer.readCompleted n).active = bs.drop n ∧
      (k._readBuffer.readCompleted n)._storage.length = READ_BLOCK_SIZE := by
  have hactive := h.read_active
  rw [← hactive] at hn
  refine ⟨?_, h.read.readCompleted hn, ?_, h.read_length⟩
  · rw [h.read.take_memory hn, hactive]
  · rw [MessageBuffer.active_readCompleted, hactive]

theorem Reading.getActiveSize (h : Reading k s bs) :
    k._readBuffer.getActiveSize = bs.length := by
  rw [h.read.getActiveSize, h.read_active]

theorem remaining_of_active {m : MessageBuffer} (hm : m.Wf) (hr : m._rpos = 0) :
    m.getRemainingSpace = m._storage.length - m.active.length := by
  have h := hm.active_add_room hr
  omega

theorem InHeader.remaining (h : InHeader k s rest bs) :
    k._headerBuffer.getRemainingSpace = sizeofHeader - rest.length := by
  rw [remaining_of_active h.header h.header_rpos, h.header_length, h.header_active]

theorem InPayload.header_remaining (h : InPayload crypt k s raw payload bs) :
    k._headerBuffer.getRemainingSpace = 0 := by
  rw [remaining_of_active h.header h.header_rpos, h.header_length, h.header_active,
    ClientPktHeader.length_toMemory, Nat.sub_self]

theorem InPayload.remaining (h : InPayload crypt k s raw payload bs) :
    k._packetBuffer.getRemainingSpace
      = (decodeHeader crypt s.pos raw).payloadSize - payload.length := by
  rw [remaining_of_active h.packet h.packet_rpos, h.packet_length, h.packet_active]

theorem InPayload.length_le (h : InPayload crypt k s raw payload bs) :
    payload.length ≤ (decodeHeader crypt s.pos raw).payloadSize := by
  have hroom := h.packet.active_add_room h.packet_rpos
  rw [h.packet_active, h.packet_length] at hroom
  omega

theorem write_rpos (m : MessageBuffer) (data : List UInt8) : (m.write data)._rpos = m._rpos := by
  unfold MessageBuffer.write
  split
  · rfl
  · rfl

/-! ## 5. One round -/

theorem InHeader.taken (h : InHeader k s rest bs) {n : ℕ} (hn : n ≤ bs.length)
    (hroom : n ≤ sizeofHeader - rest.length) :
    Reading { k with
        _headerBuffer := k._headerBuffer.write (k._readBuffer.memory.take n)
        _readBuffer := k._readBuffer.readCompleted n } s (bs.drop n) ∧
      (k._headerBuffer.write (k._readBuffer.memory.take n)).active = rest ++ bs.take n := by
  obtain ⟨hmem, hread, hactive, hlen⟩ := h.toReading.take hn
  have hfits : (bs.take n).length ≤ k._headerBuffer.getRemainingSpace := by
    rw [h.remaining, List.length_take]
    omega
  obtain ⟨hw, ha, hl⟩ := h.header.write hfits
  rw [hmem]
  rw [h.header_active] at ha
  exact ⟨⟨h.opened, h.packets, hread, hactive, hlen, hw, (write_rpos _ _).trans h.header_rpos,
    hl.trans h.header_length⟩, ha⟩

theorem InHeader.headerPart_short (crypt : AuthCrypt) (h : InHeader k s rest bs)
    (hlen : rest.length + bs.length < sizeofHeader) :
    ∃ k', k.headerPart crypt = .error (.leaves k') ∧ InHeader k' s (rest ++ bs) [] := by
  have hmin : min k._readBuffer.getActiveSize k._headerBuffer.getRemainingSpace = bs.length := by
    rw [h.getActiveSize, h.remaining]
    omega
  obtain ⟨hreading, hactive⟩ := h.taken (Nat.le_refl bs.length) (by omega)
  rw [List.take_length] at hactive
  rw [List.drop_length] at hreading
  have hin : InHeader { k with
      _headerBuffer := k._headerBuffer.write (k._readBuffer.memory.take bs.length)
      _readBuffer := k._readBuffer.readCompleted bs.length } s (rest ++ bs) [] :=
    ⟨hreading, h.deciphered, hactive, by rw [List.length_append]; exact hlen, h.packet_wpos,
      h.packet_rpos⟩
  refine ⟨_, ?_, hin⟩
  have hbefore : k._headerBuffer.getRemainingSpace > 0 := by
    have hshort := h.short
    rw [h.remaining]
    omega
  have hafter := hin.remaining
  have hsize := hin.getActiveSize
  dsimp only at hafter hsize
  have hpos : (k._headerBuffer.write (k._readBuffer.memory.take bs.length)).getRemainingSpace > 0 := by
    rw [hafter, List.length_append]
    omega
  simp only [headerPart, if_pos hbefore, hmin, if_pos hpos, hsize, List.length_nil, if_true]

theorem readHeaderHandler_eq (h : Reading k s bs) (hpos : k.deciphered = s.pos)
    (hactive : k._headerBuffer.active = raw) (hraw : raw.length = sizeofHeader) :
    k.readHeaderHandler crypt =
      let header := decodeHeader crypt s.pos raw
      if header.valid = false then
        some (false, { k with
          deciphered := s.pos + sizeofHeader
          _headerBuffer := k._headerBuffer.overwrite header.toMemory })
      else
        some (true, { k with
          deciphered := s.pos + sizeofHeader
          _headerBuffer := k._headerBuffer.overwrite
            (ClientPktHeader.toMemory { header with size := header.size - 4 })
          _packetBuffer := k._packetBuffer.resize header.payloadSize }) := by
  have hsize : k._headerBuffer.getActiveSize = sizeofHeader := by
    rw [h.header.getActiveSize, hactive, hraw]
  have hmem : k._headerBuffer.memory.take sizeofHeader = raw := by
    rw [h.header.take_memory (by rw [hactive, hraw]), hactive, ← hraw, List.take_length]
  have hinvalid : ∀ header : ClientPktHeader,
      (!header.isValidSize || !header.isValidOpcode) = true ↔ header.valid = false := fun header => by
    rw [ClientPktHeader.valid, ← Bool.not_and, Bool.not_eq_true']
  have hheader : { ClientPktHeader.ofMemory (crypt.decryptRecv s.pos raw) with
      size := endianConvertReverse (ClientPktHeader.ofMemory (crypt.decryptRecv s.pos raw)).size }
        = decodeHeader crypt s.pos raw := rfl
  simp only [readHeaderHandler, hsize, ne_eq, not_true_eq_false, if_false, hmem, hpos, hheader,
    hinvalid, ClientPktHeader.payloadSize]
  rfl

theorem InHeader.headerPart_full (crypt : AuthCrypt) (h : InHeader k s rest bs)
    (hlen : sizeofHeader ≤ rest.length + bs.length) {n : ℕ} (hn : n = sizeofHeader - rest.length) :
    ((decodeHeader crypt s.pos (rest ++ bs.take n)).valid = false →
      ∃ k', k.headerPart crypt = .error (.returns k') ∧ k'._closed = true ∧
        k'.dispatched = s.packets ∧ k'.deciphered = s.pos + sizeofHeader) ∧
    ((decodeHeader crypt s.pos (rest ++ bs.take n)).valid = true →
      ∃ k', k.headerPart crypt = .ok k' ∧
        InPayload crypt k' s (rest ++ bs.take n) [] (bs.drop n)) := by
  have hshort := h.short
  have hmin : min k._readBuffer.getActiveSize k._headerBuffer.getRemainingSpace = n := by
    rw [h.getActiveSize, h.remaining]
    omega
  obtain ⟨hreading, hactive⟩ := h.taken (show n ≤ bs.length by omega) (by omega)
  have hraw : (rest ++ bs.take n).length = sizeofHeader := by
    rw [List.length_append, List.length_take]
    omega
  have hbefore : k._headerBuffer.getRemainingSpace > 0 := by
    rw [h.remaining]
    omega
  have hafter : ¬ (k._headerBuffer.write (k._readBuffer.memory.take n)).getRemainingSpace > 0 := by
    rw [remaining_of_active hreading.header hreading.header_rpos, hreading.header_length, hactive,
      hraw]
    omega
  rw [headerPart, if_pos hbefore, hmin]
  dsimp only
  rw [if_neg hafter, readHeaderHandler_eq hreading h.deciphered hactive hraw]
  constructor
  · intro hinvalid
    rw [if_pos hinvalid]
    exact ⟨_, rfl, rfl, h.packets, rfl⟩
  · intro hvalid
    rw [if_neg (by rw [hvalid]; simp)]
    have hstored : (ClientPktHeader.toMemory { decodeHeader crypt s.pos (rest ++ bs.take n) with
        size := (decodeHeader crypt s.pos (rest ++ bs.take n)).size - 4 }).length
          = (k._headerBuffer.write (k._readBuffer.memory.take n)).active.length := by
      rw [hactive, hraw, ClientPktHeader.length_toMemory]
    obtain ⟨hw, ha, hl⟩ := hreading.header.overwrite hstored
    obtain ⟨hpw, hpa, hpl⟩ := MessageBuffer.wf_resize_of_empty h.packet_wpos h.packet_rpos
      (decodeHeader crypt s.pos (rest ++ bs.take n)).payloadSize
    exact ⟨_, rfl, ⟨⟨h.opened, h.packets, hreading.read, hreading.read_active,
      hreading.read_length, hw, hreading.header_rpos, hl.trans hreading.header_length⟩, hraw, hvalid,
      rfl, ha, hpw, h.packet_rpos, hpa, hpl⟩⟩

theorem InPayload.headerPart_eq (h : InPayload crypt k s raw payload bs) :
    k.headerPart crypt = .ok k := by
  rw [headerPart, if_neg (by rw [h.header_remaining]; omega)]

theorem InPayload.dataPart_eq (h : InPayload crypt k s raw payload bs) {n : ℕ}
    (hn : n = min bs.length ((decodeHeader crypt s.pos raw).payloadSize - payload.length)) :
    ∃ k', InPayload crypt k' s raw (payload ++ bs.take n) (bs.drop n) ∧ k.dataPart =
      if payload.length + bs.length < (decodeHeader crypt s.pos raw).payloadSize then
        .error (.leaves k')
      else .ok k' := by
  have hle := h.length_le
  by_cases hpos : k._packetBuffer.getRemainingSpace > 0
  · obtain ⟨hmem, hread, hactive, hlen⟩ := h.toReading.take (show n ≤ bs.length by omega)
    have hfits : (bs.take n).length ≤ k._packetBuffer.getRemainingSpace := by
      rw [h.remaining, List.length_take]
      omega
    obtain ⟨hw, ha, hl⟩ := h.packet.write hfits
    rw [h.packet_active] at ha
    have hin : InPayload crypt { k with
        _packetBuffer := k._packetBuffer.write (k._readBuffer.memory.take n)
        _readBuffer := k._readBuffer.readCompleted n } s raw (payload ++ bs.take n) (bs.drop n) := by
      rw [hmem]
      exact ⟨⟨h.opened, h.packets, hread, hactive, hlen, h.header, h.header_rpos, h.header_length⟩,
        h.raw_length, h.valid, h.deciphered, h.header_active, hw,
        (write_rpos _ _).trans h.packet_rpos, ha, hl.trans h.packet_length⟩
    have hmin : min k._readBuffer.getActiveSize k._packetBuffer.getRemainingSpace = n := by
      rw [h.getActiveSize, h.remaining, hn]
    have hafter := hin.remaining
    have hsize := hin.getActiveSize
    dsimp only at hafter hsize
    rw [List.length_append, List.length_take] at hafter
    rw [List.length_drop] at hsize
    refine ⟨_, hin, ?_⟩
    rw [dataPart, if_pos hpos]
    simp only [hmin]
    by_cases hmore : payload.length + bs.length < (decodeHeader crypt s.pos raw).payloadSize
    · rw [if_pos hmore, if_pos (by omega), if_pos (by omega)]
    · rw [if_neg hmore, if_neg (by omega)]
  · have hfull := h.remaining
    have hzero : n = 0 := by omega
    refine ⟨k, ?_, ?_⟩
    · rw [hzero, List.take_zero, List.append_nil, List.drop_zero]
      exact h
    · rw [dataPart, if_neg hpos, if_neg (by omega)]

theorem InPayload.dispatch (handlers : Handlers) (h : InPayload crypt k s raw payload bs)
    (hfull : payload.length = (decodeHeader crypt s.pos raw).payloadSize) :
    let r := k.readDataHandler handlers
    InHeader { r.2 with _headerBuffer := r.2._headerBuffer.reset }
      ⟨s.packets ++ [⟨(decodeHeader crypt s.pos raw).cmd.toUInt16, payload⟩],
        s.pos + sizeofHeader⟩ [] bs ∧
      r.1 = handlers (s.packets ++ [⟨(decodeHeader crypt s.pos raw).cmd.toUInt16, payload⟩]) := by
  have hmem : k._headerBuffer.memory.take sizeofHeader = k._headerBuffer.active := by
    rw [h.header.take_memory (by rw [h.header_active, ClientPktHeader.length_toMemory]),
      List.take_of_length_le (by rw [h.header_active, ClientPktHeader.length_toMemory])]
  have hstorage : k._packetBuffer._storage = payload := by
    have hzero := h.remaining
    rw [hfull, Nat.sub_self] at hzero
    rw [h.packet.storage_of_full h.packet_rpos hzero, h.packet_active]
  have hpacket : ClientPktHeader.ofMemory (k._headerBuffer.memory.take sizeofHeader)
      = { decodeHeader crypt s.pos raw with
          size := (decodeHeader crypt s.pos raw).size - 4 } := by
    rw [hmem, h.header_active, ClientPktHeader.ofMemory_toMemory]
  simp only [readDataHandler, hpacket, hstorage, h.packets, and_true]
  exact ⟨⟨h.opened, rfl, h.read, h.read_active, h.read_length, MessageBuffer.Wf.reset _, rfl,
    h.header_length⟩, h.deciphered, MessageBuffer.active_reset _, by decide, rfl, rfl⟩

/-! ## 6. One read -/

/-- Where an open socket is between two rounds: in a header, or in a payload that is not all there.
`rest` is what it has taken of the packet, as it was sent. -/
inductive At (crypt : AuthCrypt) (k : WorldSocket) (s : StreamState) :
    List UInt8 → List UInt8 → Prop
  | header {rest bs : List UInt8} : InHeader k s rest bs → At crypt k s rest bs
  | payload {raw payload bs : List UInt8} : InPayload crypt k s raw payload bs →
      payload.length < (decodeHeader crypt s.pos raw).payloadSize →
      At crypt k s (raw ++ payload) bs

theorem At.next (h : At crypt k s rest bs) : nextPacket crypt s rest = .more := by
  cases h with
  | header h => exact nextPacket_short crypt s h.short
  | payload h hmore =>
    rw [nextPacket_append crypt s h.raw_length]
    dsimp only
    rw [if_neg (by rw [h.valid]; simp), if_pos hmore]

theorem At.reading (h : At crypt k s rest bs) : Reading k s bs := by
  cases h with
  | header h => exact h.toReading
  | payload h _ => exact h.toReading

theorem At.setRead (h : At crypt k s rest bs) {m : MessageBuffer} {bs' : List UInt8} (hm : m.Wf)
    (hactive : m.active = bs') (hlen : m._storage.length = READ_BLOCK_SIZE) :
    At crypt { k with _readBuffer := m } s rest bs' := by
  cases h with
  | header h =>
    exact .header ⟨⟨h.opened, h.packets, hm, hactive, hlen, h.header, h.header_rpos,
      h.header_length⟩, h.deciphered, h.header_active, h.short, h.packet_wpos, h.packet_rpos⟩
  | payload h hmore =>
    exact .payload ⟨⟨h.opened, h.packets, hm, hactive, hlen, h.header, h.header_rpos,
      h.header_length⟩, h.raw_length, h.valid, h.deciphered, h.header_active, h.packet,
      h.packet_rpos, h.packet_active, h.packet_length⟩ hmore

/-- What the socket shows of a stream that has been parsed to `d`: it waits at the same place, or
it has closed at the same header. -/
structure Shows (crypt : AuthCrypt) (k : WorldSocket) (d : Drained StreamState UInt8) : Prop where
  live : d.live = true → At crypt k d.state d.rest [] ∧
    k._readBuffer.getRemainingSpace = READ_BLOCK_SIZE
  stopped : d.live = false → k._closed = true ∧ k.dispatched = d.state.packets ∧
    k.deciphered = d.state.pos

theorem At.asyncRead (h : At crypt k s rest []) :
    Shows crypt k.asyncRead ⟨s, rest, true⟩ := by
  have hreading := h.reading
  obtain ⟨hw, ha, hl⟩ := hreading.read.normalize
  rw [hreading.read_active] at ha
  rw [hreading.read_length] at hl
  have hroom := hw.active_add_room (MessageBuffer.normalize_rpos _)
  rw [ha, hl, List.length_nil, Nat.zero_add] at hroom
  have hfree : k._readBuffer.normalize.ensureFreeSpace = k._readBuffer.normalize := by
    rw [MessageBuffer.ensureFreeSpace, if_neg (by rw [hroom]; decide)]
  have heq : k.asyncRead = { k with _readBuffer := k._readBuffer.normalize } := by
    rw [WorldSocket.asyncRead, if_neg (by rw [hreading.opened]; simp), hfree]
  rw [heq]
  exact ⟨fun _ => ⟨h.setRead hw ha hl, hroom⟩, fun hl => absurd hl (by simp)⟩

/-- The loop comes to an end, no `ASSERT` fires, and what it leaves is what the parser says. -/
def LoopOk (crypt : AuthCrypt) (handlers : Handlers) (fuel : ℕ) (k : WorldSocket)
    (s : StreamState) (xs : List UInt8) : Prop :=
  ∃ k' d, readLoop crypt handlers fuel k = some k' ∧
    Drains (nextPacket crypt) (fun _ _ => True) s xs d ∧ Shows crypt k' d

theorem readLoop_payload (hok : ∀ packets, handlers packets = .Ok) {fuel : ℕ}
    (ih : ∀ {k : WorldSocket} {s : StreamState} {rest bs : List UInt8}, At crypt k s rest bs →
      bs.length < fuel → LoopOk crypt handlers fuel k s (rest ++ bs))
    (hsize : k._readBuffer.getActiveSize ≠ 0) (hpart : k.headerPart crypt = .ok k')
    (h : InPayload crypt k' s raw payload bs)
    (hfuel : (bs.drop ((decodeHeader crypt s.pos raw).payloadSize - payload.length)).length < fuel) :
    LoopOk crypt handlers (fuel + 1) k s (raw ++ (payload ++ bs)) := by
  have hle := h.length_le
  obtain ⟨k₂, hin, hdata⟩ := h.dataPart_eq rfl
  have hbind : (k.headerPart crypt >>= dataPart) = k'.dataPart := by
    rw [hpart]
    rfl
  by_cases hmore : payload.length + bs.length < (decodeHeader crypt s.pos raw).payloadSize
  · rw [min_eq_left (by omega), List.take_length, List.drop_length] at hin
    have hat : At crypt k₂ s (raw ++ (payload ++ bs)) [] :=
      .payload hin (by rw [List.length_append]; exact hmore)
    refine ⟨k₂.asyncRead, _, ?_, .more trivial hat.next, hat.asyncRead⟩
    rw [readLoop, if_neg hsize, hbind, hdata, if_pos hmore]
  · rw [min_eq_right (by omega)] at hin
    have hfull : (payload ++ bs.take ((decodeHeader crypt s.pos raw).payloadSize
        - payload.length)).length = (decodeHeader crypt s.pos raw).payloadSize := by
      rw [List.length_append, List.length_take]
      omega
    obtain ⟨hnext, hanswer⟩ := hin.dispatch handlers hfull
    obtain ⟨k₃, d, hrun, hdrains, hshows⟩ := ih (.header hnext) hfuel
    have hframe : nextPacket crypt s (raw ++ (payload ++ bs)) = _ :=
      nextPacket_append crypt s h.raw_length _
    dsimp only at hframe
    rw [if_neg (by rw [h.valid]; simp), if_neg (by rw [List.length_append]; exact hmore),
      List.take_append, List.take_of_length_le hle] at hframe
    refine ⟨k₃, d, ?_, .frame trivial hframe ?_, hshows⟩
    · rw [readLoop, if_neg hsize, hbind, hdata, if_neg hmore]
      dsimp only
      rw [hanswer, hok]
      exact hrun
    · rw [← List.drop_drop, List.drop_left' h.raw_length, List.drop_append,
        List.drop_of_length_le hle]
      exact hdrains

theorem readLoop_drains (hok : ∀ packets, handlers packets = .Ok) {fuel : ℕ} (h : At crypt k s rest bs)
    (hfuel : bs.length < fuel) : LoopOk crypt handlers fuel k s (rest ++ bs) := by
  induction fuel generalizing k s rest bs with
  | zero => exact absurd hfuel (Nat.not_lt_zero _)
  | succ fuel ih =>
    by_cases hnil : bs = []
    · subst hnil
      have hsize : k._readBuffer.getActiveSize = 0 := h.reading.getActiveSize
      refine ⟨k.asyncRead, _, by rw [readLoop, if_pos hsize], ?_, h.asyncRead⟩
      rw [List.append_nil]
      exact .more trivial h.next
    · have hbs : 0 < bs.length := List.length_pos_iff.mpr hnil
      have hsize : k._readBuffer.getActiveSize ≠ 0 := by
        rw [h.reading.getActiveSize]
        omega
      cases h with
      | header h =>
        by_cases hlen : rest.length + bs.length < sizeofHeader
        · obtain ⟨k', hpart, hin⟩ := h.headerPart_short crypt hlen
          have hat : At crypt k' s (rest ++ bs) [] := .header hin
          refine ⟨k'.asyncRead, _, ?_, .more trivial hat.next, hat.asyncRead⟩
          rw [readLoop, if_neg hsize, hpart]
          rfl
        · have hshort := h.short
          obtain ⟨hstop, hgo⟩ := h.headerPart_full crypt (Nat.le_of_not_lt hlen) rfl
          have hraw : (rest ++ bs.take (sizeofHeader - rest.length)).length = sizeofHeader := by
            rw [List.length_append, List.length_take]
            omega
          have hsplit : rest ++ bs = rest ++ bs.take (sizeofHeader - rest.length) ++
              bs.drop (sizeofHeader - rest.length) := by
            rw [List.append_assoc, List.take_append_drop]
          cases hvalid : (decodeHeader crypt s.pos
              (rest ++ bs.take (sizeofHeader - rest.length))).valid with
          | false =>
            obtain ⟨k', hpart, hclosed, hpackets, hpos⟩ := hstop hvalid
            refine ⟨k', ⟨{ s with pos := s.pos + sizeofHeader }, [], false⟩, ?_, ?_,
              fun hl => absurd hl (by simp), fun _ => ⟨hclosed, hpackets, hpos⟩⟩
            · rw [readLoop, if_neg hsize, hpart]
              rfl
            · refine .stop trivial ?_
              rw [hsplit, nextPacket_append crypt s hraw]
              dsimp only
              rw [if_pos hvalid]
          | true =>
            obtain ⟨k', hpart, hin⟩ := hgo hvalid
            have hround := readLoop_payload hok ih hsize hpart hin (by
              rw [List.length_drop, List.length_drop]
              omega)
            rw [List.nil_append, ← hsplit] at hround
            exact hround
      | @payload raw payload _ h hmore =>
        rw [List.append_assoc]
        refine readLoop_payload hok ih hsize h.headerPart_eq h ?_
        rw [List.length_drop]
        omega

/-! ## 7. All reads -/

theorem receive_drains (hok : ∀ packets, handlers packets = .Ok) {d : Drained StreamState UInt8}
    (h : Shows crypt k d) (hlive : d.live = true) {chunk : List UInt8}
    (hfit : chunk.length ≤ READ_BLOCK_SIZE) :
    ∃ k' d', receive crypt handlers k chunk = some k' ∧
      Drains (nextPacket crypt) (fun _ _ => True) d.state (d.rest ++ chunk) d' ∧
        Shows crypt k' d' := by
  obtain ⟨hat, hroom⟩ := h.live hlive
  have hreading := hat.reading
  obtain ⟨hw, ha, hl⟩ := hreading.read.write (hroom ▸ hfit)
  rw [hreading.read_active, List.nil_append] at ha
  have hat' := hat.setRead hw ha (hl.trans hreading.read_length)
  have hsize := hat'.reading.getActiveSize
  dsimp only at hsize
  obtain ⟨k', d', hrun, hdrains, hshows⟩ := readLoop_drains hok hat' (Nat.lt_succ_self _)
  refine ⟨k', d', ?_, hdrains, hshows⟩
  rw [receive, if_neg (by rw [hreading.opened]; simp)]
  simp only [hsize]
  exact hrun

theorem receiveAll_feeds (hok : ∀ packets, handlers packets = .Ok) {d : Drained StreamState UInt8}
    (h : Shows crypt k d) {chunks : List (List UInt8)}
    (hfit : ∀ chunk ∈ chunks, chunk.length ≤ READ_BLOCK_SIZE) :
    ∃ k' d', receiveAll crypt handlers k chunks = some k' ∧
      Feeds (nextPacket crypt) (fun _ _ => True) d chunks d' ∧ Shows crypt k' d' := by
  induction chunks generalizing k d with
  | nil => exact ⟨k, d, rfl, .nil d, h⟩
  | cons chunk chunks ih =>
    have hfit' : ∀ c ∈ chunks, c.length ≤ READ_BLOCK_SIZE :=
      fun c hc => hfit c (List.mem_cons_of_mem chunk hc)
    cases hlive : d.live with
    | false =>
      obtain ⟨hclosed, -, -⟩ := h.stopped hlive
      obtain ⟨k', d', hrun, hfeeds, hshows⟩ := ih h hfit'
      refine ⟨k', d', ?_, .skip hlive hfeeds, hshows⟩
      rw [receiveAll, List.foldlM_cons, receive, if_pos hclosed]
      exact hrun
    | true =>
      obtain ⟨k₁, d₁, hchunk, hdrains, hshows₁⟩ :=
        receive_drains hok h hlive (hfit chunk List.mem_cons_self)
      obtain ⟨k', d', hrun, hfeeds, hshows⟩ := ih hshows₁ hfit'
      refine ⟨k', d', ?_, .chunk hlive hdrains hfeeds, hshows⟩
      rw [receiveAll, List.foldlM_cons, hchunk]
      exact hrun

theorem shows_new (crypt : AuthCrypt) : Shows crypt new ⟨⟨[], 0⟩, [], true⟩ := by
  have hheader : new._headerBuffer.Wf ∧ new._headerBuffer.active = [] ∧
      new._headerBuffer._storage.length = sizeofHeader :=
    MessageBuffer.wf_resize_of_empty rfl rfl _
  obtain ⟨hw, ha, hl⟩ := hheader
  refine ⟨fun _ => ⟨.header ⟨⟨rfl, rfl, MessageBuffer.wf_ofSize _, MessageBuffer.active_ofSize _,
    List.length_replicate, hw, rfl, hl⟩, rfl, ha, by decide, rfl, rfl⟩,
    MessageBuffer.getRemainingSpace_ofSize _⟩, fun hl => absurd hl (by simp)⟩

/-- **Framing.**  Wherever a socket is in its stream, take any chunks that fit into the read
buffer, and handlers that answer `Ok`. Then no `ASSERT` fires and every call returns; the
packets that are dispatched, the header and payload taken so far, and the header at which the socket
closes are those of the whole stream, parsed at once; and the stream is the packets and what is
left of it. -/
theorem readHandler_partition (crypt : AuthCrypt) (handlers : Handlers)
    (hok : ∀ packets, handlers packets = .Ok) (k : WorldSocket) (s : StreamState)
    (rest : List UInt8) (hk : Shows crypt k ⟨s, rest, true⟩) (chunks : List (List UInt8))
    (hfit : ∀ chunk ∈ chunks, chunk.length ≤ READ_BLOCK_SIZE) :
    ∃ k', receiveAll crypt handlers k chunks = some k' ∧
      Shows crypt k' (parseStream crypt s (rest ++ chunks.flatten)) ∧
      ∃ new, Accounts crypt s (rest ++ chunks.flatten)
        (parseStream crypt s (rest ++ chunks.flatten)) new := by
  obtain ⟨k', d, hrun, hfeeds, hshows⟩ := receiveAll_feeds hok hk hfit
  have hstart : Drains (nextPacket crypt) (fun _ _ => True) s rest ⟨s, rest, true⟩ :=
    .more trivial (hk.live rfl).1.next
  have hdrains := hstart.feeds (stable_nextPacket crypt) (progress_nextPacket crypt) hfeeds
  have hparse : parseStream crypt s (rest ++ chunks.flatten) = d :=
    hdrains.eq_drain (progress_nextPacket crypt) (Nat.lt_succ_self _)
  rw [hparse]
  exact ⟨k', hrun, hshows, drains_accounts hdrains⟩

/-- A stream of two packets, the first without a payload, cut inside both headers. -/
theorem readHandler_partition_two :
    ∃ k', receiveAll (fun _ => Equiv.refl _) (fun _ => .Ok) new
        [[0, 4, 55, 1], [0, 0, 0], [6, 220, 1, 0, 0, 7], [8]] = some k' ∧
      Shows (fun _ => Equiv.refl _) k' ⟨⟨[⟨311, []⟩, ⟨476, [7, 8]⟩], 12⟩, [], true⟩ := by
  obtain ⟨k', hrun, hshows, -⟩ := readHandler_partition (fun _ => Equiv.refl _) (fun _ => .Ok)
    (fun _ => rfl) new ⟨[], 0⟩ [] (shows_new _)
    [[0, 4, 55, 1], [0, 0, 0], [6, 220, 1, 0, 0, 7], [8]] (by decide)
  exact ⟨k', hrun, hshows⟩

end WorldSocket

end FunPvp.Network
