/-
# The read handler

`ReadHandler` looks at the front of the read buffer: the first byte names the handler, the
handler's `packetSize` and, for a challenge, a size that the client sends say how long the packet
is. A complete packet is handled and left behind; then the next one.

A byte without a handler throws away the whole buffer ("we dont handle this, lets just ignore
it"), so how much is lost depends on how much has arrived (`unknown_opcode_depends_on_cuts`).
Apart from that the chunks do not matter (`readHandler_framing`), as long as what a handler reads
behind its frame has arrived: two handlers rely on that.
-/
import FunPvp.Lib.Framing
import FunPvp.Network.MessageBuffer
import FunPvp.Auth.Session

namespace FunPvp.Auth

open FunPvp.Lib FunPvp.Network

/-! ## 1. Packets on the wire -/

/-- The commands of `InitHandlers`. -/
def handlers : List AuthCmd :=
  [.AUTH_LOGON_CHALLENGE, .AUTH_LOGON_PROOF, .AUTH_RECONNECT_CHALLENGE, .AUTH_RECONNECT_PROOF,
    .REALM_LIST]

def findHandler (cmd : UInt8) : Option AuthCmd := handlers.find? fun c => c.code = cmd

def AUTH_LOGON_CHALLENGE_INITIAL_SIZE : ℕ := 4

def REALM_LIST_PACKET_SIZE : ℕ := 5

def sizeofLogonProof : ℕ := 75

def sizeofReconnectProof : ℕ := 58

/-- `MAX_ACCEPTED_CHALLENGE_SIZE`, 16 more than the size of `AUTH_LOGON_CHALLENGE_C`. -/
def MAX_ACCEPTED_CHALLENGE_SIZE : ℕ := 35 + 16

namespace AuthCmd

def packetSize : AuthCmd → ℕ
  | .AUTH_LOGON_CHALLENGE | .AUTH_RECONNECT_CHALLENGE => AUTH_LOGON_CHALLENGE_INITIAL_SIZE
  | .AUTH_LOGON_PROOF => sizeofLogonProof
  | .AUTH_RECONNECT_PROOF => sizeofReconnectProof
  | .REALM_LIST => REALM_LIST_PACKET_SIZE

def isChallenge : AuthCmd → Bool
  | .AUTH_LOGON_CHALLENGE | .AUTH_RECONNECT_CHALLENGE => true
  | _ => false

end AuthCmd

/-- A little-endian `uint16`. -/
def uint16At (mem : List UInt8) (i : ℕ) : UInt16 :=
  UInt16.ofNat ((mem.getD i 0).toNat + 256 * (mem.getD (i + 1) 0).toNat)

namespace AuthCmd

/-- `size`: a `uint16`, to which the size in a challenge is added. -/
def frameSize (cmd : AuthCmd) (mem : List UInt8) : ℕ :=
  if cmd.isChallenge then (cmd.packetSize + (uint16At mem 2).toNat) % 2 ^ 16 else cmd.packetSize

/-- How far `ReadHandler` itself looks. -/
def headReads (cmd : AuthCmd) : ℕ :=
  if cmd.isChallenge then AUTH_LOGON_CHALLENGE_INITIAL_SIZE else 1

def readChallenge (mem : List UInt8) (size : ℕ) : AuthLogonChallenge :=
  ⟨uint16At mem 2, uint16At mem 11, mem.getD 33 0, (mem.take size).drop 34⟩

def read (mem : List UInt8) (size : ℕ) : AuthCmd → ClientPacket
  | .AUTH_LOGON_CHALLENGE => .logonChallenge (readChallenge mem size)
  | .AUTH_RECONNECT_CHALLENGE => .reconnectChallenge (readChallenge mem size)
  | .AUTH_LOGON_PROOF => .logonProof ⟨(mem.take 33).drop 1, (mem.take 53).drop 33, mem.getD 74 0⟩
  | .AUTH_RECONNECT_PROOF => .reconnectProof ⟨(mem.take 17).drop 1, (mem.take 37).drop 17⟩
  | .REALM_LIST => .realmList

end AuthCmd

/-- How far the handler of a packet looks, the `behind` bytes of a token included. -/
def ClientPacket.reads (a : AuthSession) (behind : ℕ) : ClientPacket → ℕ
  | .logonChallenge challenge | .reconnectChallenge challenge =>
    if a._sentChallenge then 4
    else if challenge.sizeFits then 34 + challenge.I_len.toNat
    else 34
  | .logonProof _ => sizeofLogonProof + behind
  | .reconnectProof _ => 37
  | .realmList => 1

/-! ## 2. The loop -/

/-- An answer of the database, not a packet. -/
def AuthEvent.IsAnswer : AuthEvent → Prop
  | .packet _ _ => False
  | _ => True

/-- What the session meets besides the stream: the answers that `Update` finds after the `k`-th
packet and before the next, and the token that is valid for it. -/
structure ReadEnv where
  env : AuthEnv
  generateToken : ℕ → String → ℕ
  answers : ℕ → List AuthEvent
  isAnswer : ∀ k, ∀ e ∈ answers k, e.IsAnswer

/-- The session, and the packets that have been handled. -/
structure ReadState where
  session : AuthSession
  handled : List (List UInt8) := []

def ReadState.closeSocket (s : ReadState) : ReadState := { s with session := s.session.closeSocket }

/-- One turn of the loop: how far it looks, and what comes of it. -/
structure Round where
  reads : ℕ
  verdict : Verdict ReadState

namespace ReadEnv

/-- What `Update` does before the next packet. -/
def update (r : ReadEnv) (s : ReadState) : ReadState :=
  { s with session := exec (AuthSession.step r.env) s.session (r.answers s.handled.length) }

/-- A complete frame: the handler, and the two `ReadCompleted`, the handler's own and the one of
`ReadHandler`. -/
def dispatch (r : ReadEnv) (s : ReadState) (cmd : AuthCmd) (mem : List UInt8) : Round :=
  let size := cmd.frameSize mem
  let packet := cmd.read mem size
  let token : TokenEnv := ⟨mem.drop sizeofLogonProof, r.generateToken s.handled.length⟩
  let h := s.session.handle r.env token packet
  let handled := s.handled ++ [mem.take (size + h.behind)]
  ⟨packet.reads s.session h.behind,
    if h.result then .frame (size + h.behind) (r.update ⟨h.session, handled⟩)
    else .stop ⟨h.session.closeSocket, handled⟩⟩

/-- The body of the loop in `ReadHandler`, with `mem` at the read pointer. -/
def headStep (r : ReadEnv) (s : ReadState) (mem : List UInt8) (activeSize : ℕ) : Round :=
  if activeSize = 0 then ⟨0, .more⟩
  else
    match findHandler (mem.getD 0 0) with
    | none => ⟨1, .drop⟩
    | some cmd =>
      if s.session._status ≠ cmd.status then ⟨1, .stop s.closeSocket⟩
      else if activeSize < cmd.packetSize then ⟨1, .more⟩
      else if cmd.isChallenge ∧ MAX_ACCEPTED_CHALLENGE_SIZE < cmd.frameSize mem then
        ⟨cmd.headReads, .stop s.closeSocket⟩
      else if activeSize < cmd.frameSize mem then ⟨cmd.headReads, .more⟩
      else r.dispatch s cmd mem

end ReadEnv

inductive Fault
  /-- A byte was read that has not been received. -/
  | read
  /-- The read position was moved past the write position. -/
  | position
  /-- The loop did not end. -/
  | loop
deriving DecidableEq

/-- `AuthSocket`: the session with its read buffer, and the first fault. -/
structure AuthSocket where
  state : ReadState
  _readBuffer : MessageBuffer
  fault : Option Fault := none

def READ_BLOCK_SIZE : ℕ := 4096

namespace AuthSocket

def isOpen (k : AuthSocket) : Bool := k.state.session.isOpen

/-- Only the first fault is kept; what comes after it has no meaning. -/
def check (k : AuthSocket) (ok : Bool) (fault : Fault) : AuthSocket :=
  { k with fault := k.fault.or (if ok then none else some fault) }

def asyncRead (k : AuthSocket) : AuthSocket :=
  if k.isOpen then { k with _readBuffer := k._readBuffer.normalize.ensureFreeSpace } else k

def readHandler (r : ReadEnv) : ℕ → AuthSocket → AuthSocket
  | 0, k => k.check false .loop
  | fuel + 1, k =>
    let round := r.headStep k.state k._readBuffer.memory k._readBuffer.getActiveSize
    let k := k.check (decide (round.reads ≤ k._readBuffer.getActiveSize)) .read
    match round.verdict with
    | .more => k.asyncRead
    | .drop => { k with _readBuffer := k._readBuffer.reset }.asyncRead
    | .stop s => { k with state := s }
    | .frame n s =>
      let k := { k with state := s, _readBuffer := k._readBuffer.readCompleted n }
      readHandler r fuel (k.check (decide (k._readBuffer._rpos ≤ k._readBuffer._wpos)) .position)

/-- `ReadHandlerInternal`, with the chunk that has been read. No read is under way on a closed
socket. -/
def receive (r : ReadEnv) (k : AuthSocket) (chunk : List UInt8) : AuthSocket :=
  if k.isOpen then
    let buffer := k._readBuffer.write chunk
    readHandler r (buffer.getActiveSize + 1) { k with _readBuffer := buffer }
  else k

end AuthSocket

/-! ## 3. What has to have arrived -/

namespace AuthSession

/-- The proof is right, and a token has to come with it. -/
def TakesToken (env : AuthEnv) (a : AuthSession) (proof : AuthLogonProof) : Prop :=
  a._sentProof = false ∧ a._expversion ≠ NO_VALID_EXP_FLAG ∧ setBinary proof.A ≠ 0 ∧
  env.crypto.expectedM1 a._accountInfo.Login a.s a.v a.b a.B (setBinary proof.A) = proof.M1 ∧
  (proof.securityFlags &&& 0x04 ≠ 0 ∨ a._tokenKey ≠ "")

end AuthSession

/-- The challenge declares at least its fixed part, so that its frame ends behind `I_len`, and not
so much that `size` wraps. -/
def AuthLogonChallenge.DeclaresFixedPart (challenge : AuthLogonChallenge) : Prop :=
  30 ≤ challenge.size.toNat ∧ challenge.size.toNat < 65532

/-- The two things that `ReadHandler` leaves to its handlers: a challenge that is looked into
declares its fixed part, and the token that a proof needs has arrived with it. -/
def ClientPacket.Arrived (env : AuthEnv) (a : AuthSession) (bs : List UInt8) : ClientPacket → Prop
  | .logonChallenge challenge | .reconnectChallenge challenge =>
    a._sentChallenge = true ∨ challenge.DeclaresFixedPart
  | .logonProof proof => a.TakesToken env proof →
    sizeofLogonProof + 1 + (bs.getD sizeofLogonProof 0).toNat ≤ bs.length
  | _ => True

/-- The head of the buffer is one of which that is true. -/
def HeadOk (r : ReadEnv) (s : ReadState) (bs : List UInt8) : Prop :=
  ∀ cmd, findHandler (bs.getD 0 0) = some cmd → s.session._status = cmd.status →
    cmd.packetSize ≤ bs.length →
    (cmd.read bs (cmd.frameSize bs)).Arrived r.env s.session bs

/-- The head of the buffer has a handler. -/
def KnownHead (_ : ReadState) (bs : List UInt8) : Prop :=
  bs ≠ [] → findHandler (bs.getD 0 0) ≠ none

namespace AuthSession

variable {env : AuthEnv} {a : AuthSession}

theorem sendPacket_isOpen (a : AuthSession) (pkt : List UInt8) :
    (a.sendPacket pkt).isOpen = a.isOpen := by
  rw [sendPacket_eq]

theorem handleChallenge_isOpen (a : AuthSession) (busy : List UInt8)
    (query : List UInt8 → AuthQuery) (challenge : AuthLogonChallenge) :
    (a.handleChallenge busy query challenge).session.isOpen = a.isOpen := by
  unfold handleChallenge
  split
  · rfl
  · dsimp only
    split
    · rfl
    · split
      · exact sendPacket_isOpen _ _
      · rfl

theorem handleLogonProof_isOpen (token : TokenEnv) (a : AuthSession) (proof : AuthLogonProof) :
    (a.handleLogonProof env token proof).session.isOpen = a.isOpen := by
  unfold handleLogonProof
  split
  · rfl
  · dsimp only
    split
    · rfl
    · split
      · rfl
      · split
        · split
          · split
            · exact sendPacket_isOpen _ _
            · exact sendPacket_isOpen _ _
          · exact sendPacket_isOpen _ _
        · exact sendPacket_isOpen _ _

theorem handleReconnectProof_isOpen (a : AuthSession) (proof : AuthReconnectProof) :
    (a.handleReconnectProof env proof).session.isOpen = a.isOpen := by
  unfold handleReconnectProof
  split
  · rfl
  · dsimp only
    split
    · rfl
    · split
      · exact sendPacket_isOpen _ _
      · rfl

theorem handle_isOpen (token : TokenEnv) (a : AuthSession) (p : ClientPacket) :
    (a.handle env token p).session.isOpen = a.isOpen := by
  cases p with
  | logonChallenge challenge => exact handleChallenge_isOpen a _ _ challenge
  | logonProof proof => exact handleLogonProof_isOpen token a proof
  | reconnectChallenge challenge => exact handleChallenge_isOpen a _ _ challenge
  | reconnectProof proof => exact handleReconnectProof_isOpen a proof
  | realmList =>
    show a.handleRealmList.session.isOpen = a.isOpen
    unfold handleRealmList
    split
    · rfl
    · rfl

theorem step_isOpen {e : AuthEvent} (he : e.IsAnswer) (a : AuthSession) :
    (a.step env e).isOpen = a.isOpen := by
  unfold step
  split
  · rfl
  · split
    · exact he.elim
    · unfold checkIpCallback
      dsimp only
      split
      · exact sendPacket_isOpen _ _
      · rfl
    · next row _ _ _ =>
      cases row with
      | none => exact sendPacket_isOpen _ _
      | some row =>
        unfold logonChallengeCallback
        dsimp only
        split
        · exact sendPacket_isOpen _ _
        · exact sendPacket_isOpen _ _
    · next row _ _ _ =>
      cases row with
      | none => exact sendPacket_isOpen _ _
      | some row => exact sendPacket_isOpen _ _
    · rfl
    · rfl

theorem exec_isOpen {answers : List AuthEvent} (h : ∀ e ∈ answers, e.IsAnswer) (a : AuthSession) :
    (exec (step env) a answers).isOpen = a.isOpen := by
  induction answers generalizing a with
  | nil => rfl
  | cons e answers ih =>
    rw [exec_cons, ih fun e he => h e (List.mem_cons_of_mem _ he)]
    exact step_isOpen (h e List.mem_cons_self) a

theorem handleChallenge_behind (a : AuthSession) (busy : List UInt8)
    (query : List UInt8 → AuthQuery) (challenge : AuthLogonChallenge) :
    (a.handleChallenge busy query challenge).behind = 0 := by
  unfold handleChallenge
  split
  · rfl
  · dsimp only
    split
    · rfl
    · split
      · rfl
      · rfl

theorem handleChallenge_of_sent (h : a._sentChallenge = true) (busy : List UInt8)
    (query : List UInt8 → AuthQuery) (challenge : AuthLogonChallenge) :
    a.handleChallenge busy query challenge = ⟨false, a, 0⟩ := by
  unfold handleChallenge
  rw [if_pos h]

theorem handleReconnectProof_behind (a : AuthSession) (proof : AuthReconnectProof) :
    (a.handleReconnectProof env proof).behind = 0 := by
  unfold handleReconnectProof
  split
  · rfl
  · dsimp only
    split
    · rfl
    · split
      · rfl
      · rfl

variable {proof : AuthLogonProof}

theorem handleLogonProof_of_not_takesToken (h : ¬ a.TakesToken env proof)
    (token token' : TokenEnv) :
    a.handleLogonProof env token proof = a.handleLogonProof env token' proof ∧
      (a.handleLogonProof env token proof).behind = 0 := by
  unfold handleLogonProof
  split
  · exact ⟨rfl, rfl⟩
  · next hproof =>
    dsimp only
    split
    · exact ⟨rfl, rfl⟩
    · next hversion =>
      split
      · exact ⟨rfl, rfl⟩
      · next hA =>
        split
        · next hM =>
          split
          · next htoken =>
            exact absurd ⟨Bool.eq_false_iff.mpr hproof, hversion, hA, hM, htoken⟩ h
          · exact ⟨rfl, rfl⟩
        · exact ⟨rfl, rfl⟩

theorem TakesToken.behind (h : a.TakesToken env proof) (token : TokenEnv) :
    (a.handleLogonProof env token proof).behind = 1 + (token.behind.getD 0 0).toNat := by
  obtain ⟨hproof, hversion, hA, hM, htoken⟩ := h
  rw [Crypto.expectedM1] at hM
  unfold handleLogonProof
  rw [if_neg (by simp [hproof])]
  dsimp only
  rw [if_neg hversion, if_neg hA, if_pos hM, if_pos htoken]
  split
  · rfl
  · rfl

theorem handleLogonProof_append {l : List UInt8} {g : String → ℕ}
    (h : a.TakesToken env proof → 1 + (l.getD 0 0).toNat ≤ l.length) (ys : List UInt8) :
    a.handleLogonProof env ⟨l ++ ys, g⟩ proof = a.handleLogonProof env ⟨l, g⟩ proof := by
  by_cases htakes : a.TakesToken env proof
  · have hl := h htakes
    have hsize : (l ++ ys).getD 0 0 = l.getD 0 0 := List.getD_append _ _ _ _ (by omega)
    have hbytes : ((l ++ ys).drop 1).take (l.getD 0 0).toNat
        = (l.drop 1).take (l.getD 0 0).toNat := by
      rw [List.drop_append_of_le_length (by omega),
        List.take_append_of_le_length (by rw [List.length_drop]; omega)]
    unfold handleLogonProof
    dsimp only
    rw [hsize, hbytes]
  · exact (handleLogonProof_of_not_takesToken htakes _ _).1

end AuthSession

/-! ## 4. One turn of the loop -/

theorem uint16At_append {bs : List UInt8} {i : ℕ} (h : i + 2 ≤ bs.length) (ys : List UInt8) :
    uint16At (bs ++ ys) i = uint16At bs i := by
  unfold uint16At
  rw [List.getD_append _ _ _ _ (by omega), List.getD_append _ _ _ _ (by omega)]

namespace AuthCmd

variable {cmd : AuthCmd} {bs : List UInt8} {size : ℕ}

theorem packetSize_of_isChallenge (h : cmd.isChallenge = true) :
    cmd.packetSize = AUTH_LOGON_CHALLENGE_INITIAL_SIZE := by
  cases cmd with
  | AUTH_LOGON_CHALLENGE | AUTH_RECONNECT_CHALLENGE => rfl
  | AUTH_LOGON_PROOF | AUTH_RECONNECT_PROOF | REALM_LIST => exact absurd h (by decide)

theorem frameSize_append (h : cmd.packetSize ≤ bs.length) (ys : List UInt8) :
    cmd.frameSize (bs ++ ys) = cmd.frameSize bs := by
  unfold frameSize
  split
  · next hchallenge =>
    rw [packetSize_of_isChallenge hchallenge, AUTH_LOGON_CHALLENGE_INITIAL_SIZE] at h
    rw [uint16At_append h]
  · rfl

theorem readChallenge_append (hfixed : 34 ≤ bs.length) (hsize : size ≤ bs.length)
    (ys : List UInt8) : readChallenge (bs ++ ys) size = readChallenge bs size := by
  unfold readChallenge
  rw [uint16At_append (by omega), uint16At_append (by omega),
    List.getD_append _ _ _ _ (by omega), List.take_append_of_le_length hsize]

theorem read_logonProof_append (hlen : sizeofLogonProof ≤ bs.length) (ys : List UInt8) :
    AUTH_LOGON_PROOF.read (bs ++ ys) size = AUTH_LOGON_PROOF.read bs size := by
  rw [sizeofLogonProof] at hlen
  unfold AuthCmd.read
  dsimp only
  rw [List.take_append_of_le_length (by omega), List.take_append_of_le_length (by omega),
    List.getD_append _ _ _ _ (by omega)]

theorem headReads_le_packetSize (cmd : AuthCmd) : cmd.headReads ≤ cmd.packetSize := by
  cases cmd <;> decide

end AuthCmd

theorem AuthLogonChallenge.sizeFits_iff {challenge : AuthLogonChallenge}
    (h : 30 ≤ challenge.size.toNat) :
    challenge.sizeFits = true ↔ challenge.size.toNat = challenge.I_len.toNat + 30 := by
  have hle : (30 : UInt64) ≤ challenge.size.toUInt64 := by
    rw [UInt64.le_iff_toNat_le]
    simpa using h
  unfold AuthLogonChallenge.sizeFits
  rw [decide_eq_true_iff, ← UInt64.toNat_inj, UInt64.toNat_sub_of_le _ _ hle]
  simp only [UInt16.toNat_toUInt64, UInt8.toNat_toUInt64]
  show challenge.size.toNat - 30 = _ ↔ _
  omega

/-- A frame that `dispatch` gets. -/
structure Frame (env : AuthEnv) (a : AuthSession) (cmd : AuthCmd) (bs : List UInt8) : Prop where
  packetSize_le : cmd.packetSize ≤ bs.length
  frameSize_le : cmd.frameSize bs ≤ bs.length
  arrived : (cmd.read bs (cmd.frameSize bs)).Arrived env a bs

namespace Frame

variable {env : AuthEnv} {a : AuthSession} {cmd : AuthCmd} {bs : List UInt8}

theorem fixedPart (h : Frame env a cmd bs) (hcmd : cmd.isChallenge = true) :
    a._sentChallenge = true ∨
      30 ≤ (uint16At bs 2).toNat ∧ cmd.frameSize bs = 4 + (uint16At bs 2).toNat := by
  have harrived : a._sentChallenge = true ∨
      (AuthCmd.readChallenge bs (cmd.frameSize bs)).DeclaresFixedPart := by
    have := h.arrived
    cases cmd with
    | AUTH_LOGON_CHALLENGE | AUTH_RECONNECT_CHALLENGE => exact this
    | AUTH_LOGON_PROOF | AUTH_RECONNECT_PROOF | REALM_LIST => exact absurd hcmd (by decide)
  refine harrived.imp_right fun ⟨hlow, hhigh⟩ => ⟨hlow, ?_⟩
  have hhigh' : (uint16At bs 2).toNat < 65532 := hhigh
  unfold AuthCmd.frameSize
  rw [if_pos hcmd, AuthCmd.packetSize_of_isChallenge hcmd, AUTH_LOGON_CHALLENGE_INITIAL_SIZE]
  omega

theorem readChallenge_append (h : Frame env a cmd bs) (hcmd : cmd.isChallenge = true)
    (ys : List UInt8) :
    a._sentChallenge = true ∨ AuthCmd.readChallenge (bs ++ ys) (cmd.frameSize bs)
      = AuthCmd.readChallenge bs (cmd.frameSize bs) := by
  refine (h.fixedPart hcmd).imp_right fun ⟨hlow, hsize⟩ => ?_
  have hle := h.frameSize_le
  exact AuthCmd.readChallenge_append (by omega) hle ys

theorem handleChallenge_append (h : Frame env a cmd bs) (hcmd : cmd.isChallenge = true)
    (busy : List UInt8) (query : List UInt8 → AuthQuery) (ys : List UInt8) :
    a.handleChallenge busy query (AuthCmd.readChallenge (bs ++ ys) (cmd.frameSize bs))
      = a.handleChallenge busy query (AuthCmd.readChallenge bs (cmd.frameSize bs)) := by
  rcases h.readChallenge_append hcmd ys with hsent | hread
  · rw [AuthSession.handleChallenge_of_sent hsent, AuthSession.handleChallenge_of_sent hsent]
  · rw [hread]

theorem challengeReads_append (h : Frame env a cmd bs) (hcmd : cmd.isChallenge = true)
    (behind : ℕ) (ys : List UInt8) :
    (ClientPacket.logonChallenge
        (AuthCmd.readChallenge (bs ++ ys) (cmd.frameSize bs))).reads a behind
      = (ClientPacket.logonChallenge
        (AuthCmd.readChallenge bs (cmd.frameSize bs))).reads a behind := by
  rcases h.readChallenge_append hcmd ys with hsent | hread
  · simp only [ClientPacket.reads, hsent, if_true]
  · rw [hread]

theorem challengeReads_le (h : Frame env a cmd bs) (hcmd : cmd.isChallenge = true)
    (behind : ℕ) :
    (ClientPacket.logonChallenge
      (AuthCmd.readChallenge bs (cmd.frameSize bs))).reads a behind ≤ bs.length := by
  have hframe := h.frameSize_le
  have hpacket : 4 ≤ bs.length := by
    have := h.packetSize_le
    rwa [AuthCmd.packetSize_of_isChallenge hcmd] at this
  unfold ClientPacket.reads
  dsimp only
  split
  · exact hpacket
  · next hsent =>
    obtain ⟨hlow, hsize⟩ := (h.fixedPart hcmd).resolve_left hsent
    split
    · next hfits =>
      have hI := (AuthLogonChallenge.sizeFits_iff hlow).mp hfits
      have hsize' : (AuthCmd.readChallenge bs (cmd.frameSize bs)).size = uint16At bs 2 := rfl
      rw [hsize'] at hI
      omega
    · omega

theorem tokenSize (bs : List UInt8) :
    (bs.drop sizeofLogonProof).getD 0 0 = bs.getD sizeofLogonProof 0 := by
  rw [List.getD_eq_getElem?_getD, List.getElem?_drop, ← List.getD_eq_getElem?_getD, Nat.add_zero]

theorem handle_append (h : Frame env a cmd bs) (g : String → ℕ) (ys : List UInt8) :
    a.handle env ⟨(bs ++ ys).drop sizeofLogonProof, g⟩ (cmd.read (bs ++ ys) (cmd.frameSize bs))
      = a.handle env ⟨bs.drop sizeofLogonProof, g⟩ (cmd.read bs (cmd.frameSize bs)) := by
  cases cmd with
  | AUTH_LOGON_CHALLENGE => exact h.handleChallenge_append rfl _ _ ys
  | AUTH_RECONNECT_CHALLENGE => exact h.handleChallenge_append rfl _ _ ys
  | AUTH_LOGON_PROOF =>
    have hlen : sizeofLogonProof ≤ bs.length := h.packetSize_le
    rw [AuthCmd.read_logonProof_append hlen, List.drop_append_of_le_length hlen]
    refine AuthSession.handleLogonProof_append (fun htakes => ?_) ys
    have htoken := h.arrived htakes
    rw [tokenSize, List.length_drop]
    omega
  | AUTH_RECONNECT_PROOF =>
    have hlen : 58 ≤ bs.length := h.packetSize_le
    unfold AuthCmd.read
    dsimp only
    rw [List.take_append_of_le_length (by omega), List.take_append_of_le_length (by omega)]
    rfl
  | REALM_LIST => rfl

theorem reads_append (h : Frame env a cmd bs) (behind : ℕ) (ys : List UInt8) :
    (cmd.read (bs ++ ys) (cmd.frameSize bs)).reads a behind
      = (cmd.read bs (cmd.frameSize bs)).reads a behind := by
  cases cmd with
  | AUTH_LOGON_CHALLENGE => exact h.challengeReads_append rfl behind ys
  | AUTH_RECONNECT_CHALLENGE => exact h.challengeReads_append rfl behind ys
  | AUTH_LOGON_PROOF | AUTH_RECONNECT_PROOF | REALM_LIST => rfl

theorem size_le (h : Frame env a cmd bs) (g : String → ℕ) :
    cmd.frameSize bs + (a.handle env ⟨bs.drop sizeofLogonProof, g⟩
      (cmd.read bs (cmd.frameSize bs))).behind ≤ bs.length := by
  have hframe := h.frameSize_le
  cases cmd with
  | AUTH_LOGON_CHALLENGE => exact (AuthSession.handleChallenge_behind a _ _ _).symm ▸ hframe
  | AUTH_RECONNECT_CHALLENGE => exact (AuthSession.handleChallenge_behind a _ _ _).symm ▸ hframe
  | AUTH_LOGON_PROOF =>
    show sizeofLogonProof + (a.handleLogonProof env _ _).behind ≤ bs.length
    by_cases htakes : a.TakesToken env ⟨(bs.take 33).drop 1, (bs.take 53).drop 33, bs.getD 74 0⟩
    · have htoken := h.arrived htakes
      rw [htakes.behind, tokenSize]
      omega
    · rw [(AuthSession.handleLogonProof_of_not_takesToken htakes _ ⟨[], g⟩).2]
      exact hframe
  | AUTH_RECONNECT_PROOF => exact (AuthSession.handleReconnectProof_behind a _).symm ▸ hframe
  | REALM_LIST =>
    show _ + a.handleRealmList.behind ≤ _
    unfold AuthSession.handleRealmList
    split
    · exact hframe
    · exact hframe

theorem reads_le (h : Frame env a cmd bs) (g : String → ℕ) :
    (cmd.read bs (cmd.frameSize bs)).reads a (a.handle env ⟨bs.drop sizeofLogonProof, g⟩
      (cmd.read bs (cmd.frameSize bs))).behind ≤ bs.length := by
  have hsize := h.size_le g
  cases cmd with
  | AUTH_LOGON_CHALLENGE => exact h.challengeReads_le rfl 0
  | AUTH_RECONNECT_CHALLENGE => exact h.challengeReads_le rfl 0
  | AUTH_LOGON_PROOF => exact hsize
  | AUTH_RECONNECT_PROOF => exact Nat.le_trans (by decide : 37 ≤ 58) h.packetSize_le
  | REALM_LIST => exact Nat.le_trans (by decide : 1 ≤ 5) h.packetSize_le

theorem size_pos (h : Frame env a cmd bs) (token : TokenEnv)
    (hresult : (a.handle env token (cmd.read bs (cmd.frameSize bs))).result = true) :
    0 < cmd.frameSize bs := by
  have hchallenge : cmd.isChallenge = true → a._sentChallenge = false → 0 < cmd.frameSize bs := by
    intro hcmd hsent
    obtain ⟨-, hsize⟩ := (h.fixedPart hcmd).resolve_left (by simp [hsent])
    omega
  have hunsent : ∀ busy query challenge,
      (a.handleChallenge busy query challenge).result = true → a._sentChallenge = false := by
    intro busy query challenge hres
    by_contra hsent
    rw [AuthSession.handleChallenge_of_sent ((Bool.not_eq_false _).mp hsent)] at hres
    exact absurd hres (by simp)
  cases cmd with
  | AUTH_LOGON_CHALLENGE =>
    exact hchallenge rfl (hunsent _ _ _ hresult)
  | AUTH_RECONNECT_CHALLENGE =>
    exact hchallenge rfl (hunsent _ _ _ hresult)
  | AUTH_LOGON_PROOF => exact (by decide : 0 < 75)
  | AUTH_RECONNECT_PROOF => exact (by decide : 0 < 58)
  | REALM_LIST => exact (by decide : 0 < 5)

end Frame

namespace ReadEnv

variable {r : ReadEnv} {s : ReadState} {cmd : AuthCmd} {bs : List UInt8}

theorem dispatch_append (h : Frame r.env s.session cmd bs) (ys : List UInt8) :
    r.dispatch s cmd (bs ++ ys) = r.dispatch s cmd bs := by
  unfold dispatch
  dsimp only
  rw [AuthCmd.frameSize_append h.packetSize_le, h.handle_append, h.reads_append,
    List.take_append_of_le_length (h.size_le _)]

theorem headStep_cases (r : ReadEnv) (s : ReadState) (bs : List UInt8) :
    (∃ n ≤ bs.length, r.headStep s bs bs.length = ⟨n, .more⟩) ∨
    (bs ≠ [] ∧ findHandler (bs.getD 0 0) = none ∧ r.headStep s bs bs.length = ⟨1, .drop⟩) ∨
    (∃ n ≤ bs.length, r.headStep s bs bs.length = ⟨n, .stop s.closeSocket⟩) ∨
    ∃ cmd, findHandler (bs.getD 0 0) = some cmd ∧ s.session._status = cmd.status ∧
      cmd.packetSize ≤ bs.length ∧ cmd.frameSize bs ≤ bs.length ∧
      r.headStep s bs bs.length = r.dispatch s cmd bs := by
  unfold headStep
  split
  · exact Or.inl ⟨0, Nat.zero_le _, rfl⟩
  · next hlen =>
    split
    · next hnone => exact Or.inr (Or.inl ⟨fun hnil => hlen (by rw [hnil]; rfl), hnone, rfl⟩)
    · next cmd hcmd =>
      split
      · exact Or.inr (Or.inr (Or.inl ⟨1, by omega, rfl⟩))
      · next hstatus =>
        split
        · exact Or.inl ⟨1, by omega, rfl⟩
        · next hpacket =>
          have hreads := cmd.headReads_le_packetSize
          split
          · exact Or.inr (Or.inr (Or.inl ⟨_, by omega, rfl⟩))
          · split
            · exact Or.inl ⟨_, by omega, rfl⟩
            · next hframe =>
              exact Or.inr (Or.inr (Or.inr
                ⟨cmd, hcmd, not_not.mp hstatus, not_lt.mp hpacket, not_lt.mp hframe, rfl⟩))

/-- **More bytes**, whether they have been received or are only in the memory behind: a verdict
does not change. -/
theorem headStep_append (h : HeadOk r s bs) (ys : List UInt8) {n : ℕ} (hn : bs.length ≤ n)
    (hmore : n = bs.length ∨ (r.headStep s bs bs.length).verdict ≠ .more) :
    r.headStep s (bs ++ ys) n = r.headStep s bs bs.length := by
  rcases eq_or_ne bs [] with rfl | hbs
  · rcases hmore with rfl | hmore
    · rfl
    · exact absurd rfl hmore
  · have hlen : bs.length ≠ 0 := fun hnil => hbs (List.length_eq_zero_iff.mp hnil)
    have hhead : (bs ++ ys).getD 0 0 = bs.getD 0 0 := List.getD_append _ _ _ _ (by omega)
    unfold headStep at hmore ⊢
    rw [hhead, if_neg hlen, if_neg (by omega)]
    rw [if_neg hlen] at hmore
    cases hcmd : findHandler (bs.getD 0 0) with
    | none => rfl
    | some cmd =>
      rw [hcmd] at hmore
      dsimp only at hmore ⊢
      split
      · rfl
      · next hstatus =>
        rw [if_neg hstatus] at hmore
        by_cases hpacket : bs.length < cmd.packetSize
        · obtain rfl := hmore.resolve_right (by simp [hpacket])
          rw [if_pos hpacket, if_pos hpacket]
        · rw [AuthCmd.frameSize_append (not_lt.mp hpacket), if_neg hpacket, if_neg (by omega)]
          rw [if_neg hpacket] at hmore
          split
          · rfl
          · next hsize =>
            rw [if_neg hsize] at hmore
            by_cases hframe : bs.length < cmd.frameSize bs
            · obtain rfl := hmore.resolve_right (by simp [hframe])
              rw [if_pos hframe, if_pos hframe]
            · rw [if_neg hframe, if_neg (by omega)]
              exact dispatch_append ⟨not_lt.mp hpacket, not_lt.mp hframe,
                h cmd hcmd (not_not.mp hstatus) (not_lt.mp hpacket)⟩ ys

theorem headStep_reads_le (h : HeadOk r s bs) : (r.headStep s bs bs.length).reads ≤ bs.length := by
  rcases headStep_cases r s bs with ⟨n, hn, heq⟩ | ⟨hbs, -, heq⟩ | ⟨n, hn, heq⟩ |
    ⟨cmd, hcmd, hstatus, hpacket, hframe, heq⟩
  · rw [heq]
    exact hn
  · rw [heq]
    exact List.length_pos_iff.mpr hbs
  · rw [heq]
    exact hn
  · rw [heq]
    exact Frame.reads_le ⟨hpacket, hframe, h cmd hcmd hstatus hpacket⟩ _

theorem headStep_frame (h : HeadOk r s bs) {n : ℕ} {s' : ReadState}
    (hv : (r.headStep s bs bs.length).verdict = .frame n s') :
    0 < n ∧ n ≤ bs.length ∧ s'.session.isOpen = s.session.isOpen := by
  rcases headStep_cases r s bs with ⟨m, -, heq⟩ | ⟨-, -, heq⟩ | ⟨m, -, heq⟩ |
    ⟨cmd, hcmd, hstatus, hpacket, hframe, heq⟩
  · exact absurd (heq ▸ hv) (by simp)
  · exact absurd (heq ▸ hv) (by simp)
  · exact absurd (heq ▸ hv) (by simp)
  · have hF : Frame r.env s.session cmd bs := ⟨hpacket, hframe, h cmd hcmd hstatus hpacket⟩
    rw [heq, dispatch] at hv
    dsimp only at hv
    split at hv
    · next hresult =>
      obtain ⟨rfl, rfl⟩ := Verdict.frame.inj hv
      refine ⟨Nat.add_pos_left (hF.size_pos _ hresult) _, hF.size_le _, ?_⟩
      exact (AuthSession.exec_isOpen (r.isAnswer _) _).trans (AuthSession.handle_isOpen _ _ _)
    · exact absurd hv (by simp)

theorem headStep_stop {s' : ReadState} (hv : (r.headStep s bs bs.length).verdict = .stop s') :
    s'.session.isOpen = false := by
  rcases headStep_cases r s bs with ⟨m, -, heq⟩ | ⟨-, -, heq⟩ | ⟨m, -, heq⟩ |
    ⟨cmd, -, -, -, -, heq⟩
  · exact absurd (heq ▸ hv) (by simp)
  · exact absurd (heq ▸ hv) (by simp)
  · rw [heq] at hv
    obtain rfl := Verdict.stop.inj hv
    rfl
  · rw [heq, dispatch] at hv
    dsimp only at hv
    split at hv
    · exact absurd hv (by simp)
    · obtain rfl := Verdict.stop.inj hv
      rfl

theorem headStep_drop (hv : (r.headStep s bs bs.length).verdict = .drop) :
    bs ≠ [] ∧ findHandler (bs.getD 0 0) = none := by
  rcases headStep_cases r s bs with ⟨m, -, heq⟩ | ⟨hbs, hnone, -⟩ | ⟨m, -, heq⟩ |
    ⟨cmd, -, -, -, -, heq⟩
  · exact absurd (heq ▸ hv) (by simp)
  · exact ⟨hbs, hnone⟩
  · exact absurd (heq ▸ hv) (by simp)
  · rw [heq, dispatch] at hv
    dsimp only at hv
    split at hv
    · exact absurd hv (by simp)
    · exact absurd hv (by simp)

/-! ## 5. The decoder -/

/-- The verdict on the bytes that have been received. -/
def next (r : ReadEnv) (s : ReadState) (bs : List UInt8) : Verdict ReadState :=
  (r.headStep s bs bs.length).verdict

theorem packetSize_le_of_next (hmore : r.next s bs ≠ .more)
    (hcmd : findHandler (bs.getD 0 0) = some cmd) (hstatus : s.session._status = cmd.status) :
    cmd.packetSize ≤ bs.length := by
  by_contra hshort
  refine hmore ?_
  unfold next headStep
  rw [hcmd]
  dsimp only
  rw [if_neg (not_not.mpr hstatus), if_pos (not_le.mp hshort)]
  split
  · rfl
  · rfl

theorem ne_nil_of_next (hmore : r.next s bs ≠ .more) : bs ≠ [] := by
  rintro rfl
  exact hmore rfl

theorem headOk_append (h : HeadOk r s bs) (hmore : r.next s bs ≠ .more) (ys : List UInt8) :
    HeadOk r s (bs ++ ys) := by
  intro cmd hcmd hstatus _
  have hlen : 0 < bs.length := List.length_pos_iff.mpr (ne_nil_of_next hmore)
  rw [List.getD_append _ _ _ _ hlen] at hcmd
  have hpacket := packetSize_le_of_next hmore hcmd hstatus
  have harrived := h cmd hcmd hstatus hpacket
  have hsize : cmd.isChallenge = true → uint16At (bs ++ ys) 2 = uint16At bs 2 := by
    intro hchallenge
    rw [AuthCmd.packetSize_of_isChallenge hchallenge] at hpacket
    exact uint16At_append hpacket ys
  cases cmd with
  | AUTH_LOGON_CHALLENGE | AUTH_RECONNECT_CHALLENGE =>
    refine harrived.imp_right fun hdeclares => ?_
    unfold AuthLogonChallenge.DeclaresFixedPart
    rw [show (AuthCmd.readChallenge (bs ++ ys) _).size = uint16At bs 2 from hsize rfl]
    exact hdeclares
  | AUTH_LOGON_PROOF =>
    rw [AuthCmd.read_logonProof_append hpacket]
    intro htakes
    have htoken := harrived htakes
    rw [List.getD_append _ _ _ _ (by omega), List.length_append]
    omega
  | AUTH_RECONNECT_PROOF | REALM_LIST => exact trivial

theorem headOk_nil (r : ReadEnv) (s : ReadState) : HeadOk r s [] := by
  intro cmd _ _ hpacket
  exact absurd hpacket (by cases cmd <;> decide)

theorem progress_next {P : ReadState → List UInt8 → Prop} (hP : ∀ s bs, P s bs → HeadOk r s bs) :
    Progress r.next P := by
  intro s bs n s' h hn
  obtain ⟨hpos, hle, -⟩ := headStep_frame (hP s bs h) hn
  exact ⟨hpos, hle⟩

theorem stable_next (r : ReadEnv) : Stable r.next fun s bs => HeadOk r s bs ∧ KnownHead s bs where
  verdict s bs ys h hmore := by
    unfold next
    rw [headStep_append h.1 ys (by simp) (Or.inr hmore)]
  head s bs ys h hmore := by
    have hbs := ne_nil_of_next hmore
    refine ⟨headOk_append h.1 hmore ys, fun _ => ?_⟩
    rw [List.getD_append _ _ _ _ (List.length_pos_iff.mpr hbs)]
    exact h.2 hbs
  noDrop s bs h hdrop := by
    obtain ⟨hbs, hnone⟩ := headStep_drop hdrop
    exact h.2 hbs hnone

end ReadEnv

/-! ## 6. The loop and the stream -/

namespace AuthSocket

def drained (k : AuthSocket) : Drained ReadState UInt8 :=
  ⟨k.state, if k.isOpen then k._readBuffer.active else [], k.isOpen⟩

/-- Nothing has gone wrong in the buffer. -/
structure Sound (k : AuthSocket) : Prop where
  noFault : k.fault = none
  wf : k._readBuffer.Wf
  size : READ_BLOCK_SIZE ≤ k._readBuffer._storage.length

/-- **Safety**: no fault so far, the read position is not past the write position, and the next
read has room. -/
structure Safe (k : AuthSocket) : Prop extends Sound k where
  room : k.isOpen = true → 0 < k._readBuffer.getRemainingSpace ∧
    READ_BLOCK_SIZE ≤ k._readBuffer.active.length + k._readBuffer.getRemainingSpace

/-- The socket when it starts to read. -/
structure Fresh (k : AuthSocket) : Prop where
  isOpen : k.isOpen = true
  noFault : k.fault = none
  buffer : ∃ initialSize, READ_BLOCK_SIZE ≤ initialSize ∧ k._readBuffer = .ofSize initialSize

/-- The chunk fits in the space that `async_read_some` was given, and `P` holds of every head
that the handler comes to. -/
def Fits (r : ReadEnv) (P : ReadState → List UInt8 → Prop) (k : AuthSocket) (chunk : List UInt8) :
    Prop :=
  k.isOpen = true → chunk.length ≤ k._readBuffer.getRemainingSpace ∧
    AllHeads r.next P k.state (k._readBuffer.active ++ chunk)

variable {r : ReadEnv} {k : AuthSocket}

theorem Fresh.active (h : k.Fresh) : k._readBuffer.active = [] := by
  obtain ⟨n, -, hbuffer⟩ := h.buffer
  rw [hbuffer]
  exact MessageBuffer.active_ofSize n

theorem Fresh.safe (h : k.Fresh) : k.Safe := by
  obtain ⟨n, hn, hbuffer⟩ := h.buffer
  have hlen : (MessageBuffer.ofSize n)._storage.length = n := List.length_replicate
  refine ⟨⟨h.noFault, ?_, ?_⟩, fun _ => ?_⟩
  · rw [hbuffer]
    exact MessageBuffer.wf_ofSize n
  · rw [hbuffer, hlen]
    exact hn
  · rw [hbuffer, MessageBuffer.getRemainingSpace_ofSize]
    exact ⟨Nat.lt_of_lt_of_le (by decide) hn, Nat.le_add_left_of_le hn⟩

theorem Fresh.drained (h : k.Fresh) : k.drained = ⟨k.state, [], true⟩ := by
  rw [AuthSocket.drained, h.active, h.isOpen]
  rfl

theorem of_drained {s : ReadState} {bs : List UInt8} (h : k.drained = ⟨s, bs, true⟩) :
    k.state = s ∧ k.isOpen = true ∧ k._readBuffer.active = bs := by
  obtain ⟨hstate, hactive, hopen⟩ := Drained.mk.inj h
  rw [hopen, if_pos rfl] at hactive
  exact ⟨hstate, hopen, hactive⟩

theorem check_eq_self {ok : Bool} (hok : ok = true) (h : k.fault = none) (fault : Fault) :
    k.check ok fault = k := by
  obtain ⟨state, buffer, fault'⟩ := k
  obtain rfl : fault' = none := h
  rw [check, if_pos hok]
  rfl

theorem Sound.asyncRead (h : k.Sound) (hopen : k.isOpen = true) :
    k.asyncRead.Safe ∧ k.asyncRead.drained = ⟨k.state, k._readBuffer.active, true⟩ := by
  obtain ⟨hwf, hactive, hlen⟩ := h.wf.normalize
  obtain ⟨hwf', hactive'⟩ := hwf.ensureFreeSpace
  have hsize : READ_BLOCK_SIZE ≤ k._readBuffer.normalize.ensureFreeSpace._storage.length :=
    Nat.le_trans (hlen ▸ h.size) (MessageBuffer.length_le_ensureFreeSpace _)
  have hroom := hwf.room (Nat.le_trans (by decide) (hlen ▸ h.size : READ_BLOCK_SIZE ≤ _))
  have hall := hwf'.active_add_room (by
    rw [MessageBuffer.ensureFreeSpace_rpos, MessageBuffer.normalize_rpos])
  have heq : k.asyncRead = { k with _readBuffer := k._readBuffer.normalize.ensureFreeSpace } := by
    rw [AuthSocket.asyncRead, if_pos hopen]
  rw [heq]
  constructor
  · exact ⟨⟨h.noFault, hwf', hsize⟩, fun _ => ⟨hroom, hall ▸ hsize⟩⟩
  · show (⟨k.state, if k.isOpen then _ else [], k.isOpen⟩ : Drained ReadState UInt8) = _
    rw [hopen, if_pos rfl, hactive', hactive]

theorem readHandler_succ (hk : k.Sound) (h : HeadOk r k.state k._readBuffer.active) (fuel : ℕ) :
    readHandler r (fuel + 1) k = match r.next k.state k._readBuffer.active with
      | .more => k.asyncRead
      | .drop => { k with _readBuffer := k._readBuffer.reset }.asyncRead
      | .stop s => { k with state := s }
      | .frame n s =>
        let k := { k with state := s, _readBuffer := k._readBuffer.readCompleted n }
        readHandler r fuel (k.check (decide (k._readBuffer._rpos ≤ k._readBuffer._wpos)) .position)
    := by
  have hround : r.headStep k.state k._readBuffer.memory k._readBuffer.getActiveSize
      = r.headStep k.state k._readBuffer.active k._readBuffer.active.length := by
    rw [hk.wf.memory, hk.wf.getActiveSize]
    exact ReadEnv.headStep_append h _ (Nat.le_refl _) (Or.inl rfl)
  have hreads := ReadEnv.headStep_reads_le h
  rw [readHandler, hround, hk.wf.getActiveSize]
  dsimp only
  rw [check_eq_self (decide_eq_true hreads) hk.noFault]
  rfl

variable {P : ReadState → List UInt8 → Prop}

/-- **`ReadHandler` drains the buffer**: it ends, within its fuel, where the decoder does, and
nothing goes wrong on the way. The induction is on the draining, so each step is one turn of the
loop. -/
theorem readHandler_drains (hP : ∀ s bs, P s bs → HeadOk r s bs) {s : ReadState} {bs : List UInt8}
    {d : Drained ReadState UInt8} (h : Drains r.next P s bs d) {fuel : ℕ} (hk : k.Sound)
    (hopen : k.isOpen = true) (hs : k.state = s) (hbs : k._readBuffer.active = bs)
    (hfuel : bs.length < fuel) :
    (readHandler r fuel k).Safe ∧ (readHandler r fuel k).drained = d := by
  induction h generalizing k fuel with
  | @more s bs hhead hn =>
    subst hs hbs
    obtain ⟨fuel, rfl⟩ := Nat.exists_eq_add_one_of_ne_zero (by omega : fuel ≠ 0)
    rw [readHandler_succ hk (hP _ _ hhead), hn]
    exact hk.asyncRead hopen
  | @stop s s' bs hhead hn =>
    subst hs hbs
    obtain ⟨fuel, rfl⟩ := Nat.exists_eq_add_one_of_ne_zero (by omega : fuel ≠ 0)
    rw [readHandler_succ hk (hP _ _ hhead), hn]
    have hclosed : s'.session.isOpen = false := ReadEnv.headStep_stop hn
    constructor
    · refine ⟨⟨hk.noFault, hk.wf, hk.size⟩, fun hopen' => ?_⟩
      exact absurd (hclosed.symm.trans hopen') (by decide)
    · show (⟨s', if s'.session.isOpen then _ else [], s'.session.isOpen⟩ :
        Drained ReadState UInt8) = _
      rw [hclosed]
      rfl
  | @drop s bs hhead hn =>
    subst hs hbs
    obtain ⟨fuel, rfl⟩ := Nat.exists_eq_add_one_of_ne_zero (by omega : fuel ≠ 0)
    rw [readHandler_succ hk (hP _ _ hhead), hn]
    have hreset : AuthSocket.Sound { k with _readBuffer := k._readBuffer.reset } :=
      ⟨hk.noFault, .reset _, hk.size⟩
    obtain ⟨hsafe, hdrained⟩ := hreset.asyncRead hopen
    exact ⟨hsafe, hdrained.trans (by rw [MessageBuffer.active_reset])⟩
  | @frame s s' bs n d hhead hn _ ih =>
    subst hs hbs
    obtain ⟨fuel, rfl⟩ := Nat.exists_eq_add_one_of_ne_zero (by omega : fuel ≠ 0)
    rw [readHandler_succ hk (hP _ _ hhead), hn]
    obtain ⟨hpos, hle, hopen'⟩ := ReadEnv.headStep_frame (hP _ _ hhead) hn
    have hwf := hk.wf.readCompleted hle
    have hnext : AuthSocket.Sound
        { k with state := s', _readBuffer := k._readBuffer.readCompleted n } :=
      ⟨hk.noFault, hwf, hk.size⟩
    dsimp only
    rw [check_eq_self (decide_eq_true hwf.rpos_le) hnext.noFault]
    refine ih hnext (hopen'.trans hopen) rfl (MessageBuffer.active_readCompleted _ _) ?_
    rw [List.length_drop]
    omega

theorem receive_drains (hP : ∀ s bs, P s bs → HeadOk r s bs)
    {chunk : List UInt8} {d : Drained ReadState UInt8} (hk : k.Safe) (hopen : k.isOpen = true)
    (hroom : chunk.length ≤ k._readBuffer.getRemainingSpace)
    (h : Drains r.next P k.state (k._readBuffer.active ++ chunk) d) :
    (k.receive r chunk).Safe ∧ (k.receive r chunk).drained = d := by
  obtain ⟨hwf, hactive, hlen⟩ := hk.wf.write hroom
  have hsize : READ_BLOCK_SIZE ≤ (k._readBuffer.write chunk)._storage.length := by
    rw [hlen]
    exact hk.size
  rw [receive, if_pos hopen]
  dsimp only
  refine readHandler_drains hP h ⟨hk.noFault, hwf, hsize⟩ hopen rfl hactive ?_
  rw [hwf.getActiveSize, hactive]
  exact Nat.lt_succ_self _

theorem receive_closed (hclosed : k.isOpen = false) (chunk : List UInt8) :
    k.receive r chunk = k := by
  rw [receive, hclosed]
  rfl

theorem run_feeds (hP : ∀ s bs, P s bs → HeadOk r s bs)
    {chunks : List (List UInt8)} (hk : k.Safe) (h : Steps (receive r) (Fits r P) k chunks) :
    States (receive r) Safe k chunks ∧
      Feeds r.next P k.drained chunks (exec (receive r) k chunks).drained := by
  induction chunks generalizing k with
  | nil => exact ⟨hk, .nil _⟩
  | cons chunk chunks ih =>
    obtain ⟨hfits, h⟩ := h
    cases hopen : k.isOpen with
    | false =>
      rw [receive_closed hopen] at h
      obtain ⟨hstates, hfeeds⟩ := ih hk h
      rw [exec_cons, States, receive_closed hopen]
      exact ⟨⟨hk, hstates⟩, .skip hopen hfeeds⟩
    | true =>
      obtain ⟨hroom, hheads⟩ := hfits hopen
      obtain ⟨d, hd⟩ := hheads.drains (ReadEnv.progress_next hP)
      obtain ⟨hsafe, hdrained⟩ := receive_drains hP hk hopen hroom hd
      obtain ⟨hstates, hfeeds⟩ := ih hsafe h
      refine ⟨⟨hk, hstates⟩, .chunk hopen ?_ hfeeds⟩
      rw [hdrained]
      show Drains _ _ _ ((if k.isOpen then _ else []) ++ chunk) d
      rw [hopen, if_pos rfl]
      exact hd

end AuthSocket

/-- **Framing.**  Take any chunks that fit, and assume that every head `ReadHandler` comes to is
all right. Then nothing is read that has not been received, the read position stays behind the
write position, every call returns, and an unknown byte drops what there is and nothing else. If
moreover every head has a handler, the packets that are handled, the session and what is left in
the buffer are those of the whole stream in one chunk. -/
theorem readHandler_framing (r : ReadEnv) (k : AuthSocket) (hk : k.Fresh)
    (chunks : List (List UInt8)) :
    (Steps (AuthSocket.receive r) (AuthSocket.Fits r (HeadOk r)) k chunks →
      States (AuthSocket.receive r) AuthSocket.Safe k chunks ∧
      Feeds r.next (HeadOk r) ⟨k.state, [], true⟩ chunks
        (exec (AuthSocket.receive r) k chunks).drained) ∧
    (Steps (AuthSocket.receive r)
        (AuthSocket.Fits r fun s bs => HeadOk r s bs ∧ KnownHead s bs) k chunks →
      ∀ whole : AuthSocket, whole.Fresh → whole.state = k.state →
        chunks.flatten.length ≤ whole._readBuffer.getRemainingSpace →
        (whole.receive r chunks.flatten).Safe ∧
        (whole.receive r chunks.flatten).drained
          = (exec (AuthSocket.receive r) k chunks).drained) := by
  constructor
  · intro h
    rw [← hk.drained]
    exact AuthSocket.run_feeds (fun _ _ hP => hP) hk.safe h
  · intro h whole hwhole hstate hroom
    have hP : ∀ s bs, HeadOk r s bs ∧ KnownHead s bs → HeadOk r s bs := fun _ _ hP => hP.1
    obtain ⟨-, hfeeds⟩ := AuthSocket.run_feeds hP hk.safe h
    rw [hk.drained] at hfeeds
    have hnil : Drains r.next (fun s bs => HeadOk r s bs ∧ KnownHead s bs) k.state []
        ⟨k.state, [], true⟩ :=
      .more ⟨ReadEnv.headOk_nil r _, fun hne => absurd rfl hne⟩ rfl
    have hdrains := hnil.feeds (ReadEnv.stable_next r) (ReadEnv.progress_next hP) hfeeds
    refine AuthSocket.receive_drains hP hwhole.safe hwhole.isOpen hroom ?_
    rw [hwhole.active, hstate]
    exact hdrains

/-! ## 7. A challenge in two chunks -/

def quietEnv : ReadEnv where
  env := plainEnv
  generateToken _ _ := 0
  answers _ := []
  isAnswer _ _ h := absurd h (by simp)

def newSocket : AuthSocket where
  state := ⟨(AuthSession.init "").step plainEnv (.ipResult []), []⟩
  _readBuffer := .ofSize READ_BLOCK_SIZE

def someChallenge : List UInt8 :=
  [0x00, 8, 31, 0] ++ List.replicate 7 0 ++ [0x34, 0x30] ++ List.replicate 20 0 ++ [1, 65]

theorem fresh_newSocket : newSocket.Fresh := ⟨rfl, rfl, _, Nat.le_refl _, rfl⟩

theorem room_newSocket : newSocket._readBuffer.getRemainingSpace = READ_BLOCK_SIZE :=
  MessageBuffer.getRemainingSpace_ofSize _

theorem headOk_someChallenge {s : ReadState} {bs : List UInt8} (hcode : bs.getD 0 0 = 0)
    (hsize : uint16At bs 2 = 31) : HeadOk quietEnv s bs := by
  intro cmd hcmd _ _
  rw [hcode] at hcmd
  obtain rfl : AuthCmd.AUTH_LOGON_CHALLENGE = cmd := Option.some.inj hcmd
  refine Or.inr ?_
  show 30 ≤ (uint16At bs 2).toNat ∧ (uint16At bs 2).toNat < 65532
  rw [hsize]
  decide

def challengedState : ReadState :=
  ⟨(newSocket.state.session.handle plainEnv noToken
    (.logonChallenge (AuthCmd.readChallenge someChallenge 35))).session, [someChallenge]⟩

theorem next_someChallenge :
    quietEnv.next newSocket.state someChallenge = .frame 35 challengedState := rfl

/-- The challenge waits for its last byte, and then it is handled. -/
theorem challenge_framed :
    (newSocket.receive quietEnv [someChallenge.take 34, someChallenge.drop 34].flatten).drained
      = (exec (AuthSocket.receive quietEnv) newSocket
          [someChallenge.take 34, someChallenge.drop 34]).drained := by
  have hP : ∀ s bs, HeadOk quietEnv s bs ∧ KnownHead s bs → HeadOk quietEnv s bs :=
    fun _ _ h => h.1
  have hwait : Drains quietEnv.next (fun s bs => HeadOk quietEnv s bs ∧ KnownHead s bs)
      newSocket.state (newSocket._readBuffer.active ++ someChallenge.take 34)
      ⟨newSocket.state, someChallenge.take 34, true⟩ := by
    rw [fresh_newSocket.active]
    exact .more ⟨headOk_someChallenge rfl (by decide), fun _ => by decide⟩ rfl
  have hroom : (someChallenge.take 34).length ≤ newSocket._readBuffer.getRemainingSpace := by
    rw [room_newSocket]
    decide
  obtain ⟨hsafe, hdrained⟩ := AuthSocket.receive_drains hP fresh_newSocket.safe rfl hroom hwait
  obtain ⟨hstate, hopen, hactive⟩ := AuthSocket.of_drained hdrained
  have htaken : Drains quietEnv.next (fun s bs => HeadOk quietEnv s bs ∧ KnownHead s bs)
      newSocket.state someChallenge ⟨challengedState, [], true⟩ :=
    .frame ⟨headOk_someChallenge rfl (by decide), fun _ => by decide⟩ next_someChallenge
      (.more ⟨ReadEnv.headOk_nil quietEnv _, fun hne => absurd rfl hne⟩ rfl)
  have hfirst : AuthSocket.Fits quietEnv (fun s bs => HeadOk quietEnv s bs ∧ KnownHead s bs)
      newSocket (someChallenge.take 34) := fun _ => ⟨hroom, hwait.allHeads⟩
  have hsecond : AuthSocket.Fits quietEnv (fun s bs => HeadOk quietEnv s bs ∧ KnownHead s bs)
      (newSocket.receive quietEnv (someChallenge.take 34)) (someChallenge.drop 34) := by
    intro _
    refine ⟨(hsafe.room hopen).1, ?_⟩
    rw [hstate, hactive, List.take_append_drop]
    exact htaken.allHeads
  exact ((readHandler_framing quietEnv newSocket fresh_newSocket
    [someChallenge.take 34, someChallenge.drop 34]).2 ⟨hfirst, hsecond, trivial⟩ newSocket
    fresh_newSocket rfl (by rw [room_newSocket]; decide)).2

/-- **How much an unknown byte drops depends on the chunks.**  In one chunk the challenge behind
it is lost; in two it is handled. -/
theorem unknown_opcode_depends_on_cuts :
    (newSocket.receive quietEnv [[5], someChallenge].flatten).state.handled = [] ∧
      (exec (AuthSocket.receive quietEnv) newSocket [[5], someChallenge]).state.handled
        = [someChallenge] := by
  have hbad : ∀ bs : List UInt8, bs.getD 0 0 = 5 → HeadOk quietEnv newSocket.state bs := by
    intro bs hcode cmd hcmd
    rw [hcode] at hcmd
    exact absurd (show none = some cmd from hcmd) (by simp)
  have hdrop : ∀ chunk : List UInt8, chunk.length ≤ 100 → chunk.getD 0 0 = 5 →
      quietEnv.next newSocket.state chunk = .drop →
      (newSocket.receive quietEnv chunk).Safe ∧
        (newSocket.receive quietEnv chunk).drained = ⟨newSocket.state, [], true⟩ := by
    intro chunk hlen hcode hn
    refine AuthSocket.receive_drains (fun _ _ h => h) fresh_newSocket.safe rfl ?_ ?_
    · rw [room_newSocket, READ_BLOCK_SIZE]
      omega
    · rw [fresh_newSocket.active]
      exact .drop (hbad chunk hcode) hn
  constructor
  · obtain ⟨-, hdrained⟩ := hdrop [[5], someChallenge].flatten (by decide) rfl rfl
    rw [(AuthSocket.of_drained hdrained).1]
    rfl
  · obtain ⟨hsafe, hdrained⟩ := hdrop [5] (by decide) rfl rfl
    obtain ⟨hstate, hopen, hactive⟩ := AuthSocket.of_drained hdrained
    have hroom := (hsafe.room hopen).2
    rw [hactive, READ_BLOCK_SIZE, List.length_nil, Nat.zero_add] at hroom
    have htaken : Drains quietEnv.next (HeadOk quietEnv)
        (newSocket.receive quietEnv [5]).state
        ((newSocket.receive quietEnv [5])._readBuffer.active ++ someChallenge)
        ⟨challengedState, [], true⟩ := by
      rw [hstate, hactive]
      exact .frame (headOk_someChallenge rfl (by decide)) next_someChallenge
        (.more (ReadEnv.headOk_nil quietEnv _) rfl)
    obtain ⟨-, hlast⟩ := AuthSocket.receive_drains (fun _ _ h => h) hsafe hopen
      (Nat.le_trans (by decide : someChallenge.length ≤ 4096) hroom) htaken
    rw [exec_cons, exec_cons, exec_nil, (AuthSocket.of_drained hlast).1, challengedState]

end FunPvp.Auth
