/-
# The message buffer

`MessageBuffer` is a byte vector with a read and a write position. The bytes between the two
are the ACTIVE ones; those behind the write position are stale, but they are there, and a reader
that goes too far reads them.

Nothing in the class checks the positions. `Wf` is what its users have to keep, and under it the
operations are ones on the list of active bytes.
-/
import Mathlib

namespace FunPvp.Network

/-! ## 1. The buffer -/

structure MessageBuffer where
  _wpos : ℕ
  _rpos : ℕ
  _storage : List UInt8

/-- A difference of `size_type`. -/
def sizeDiff (x y : ℕ) : ℕ := if y ≤ x then x - y else x + 2 ^ 64 - y

namespace MessageBuffer

def ofSize (initialSize : ℕ) : MessageBuffer := ⟨0, 0, List.replicate initialSize 0⟩

def reset (m : MessageBuffer) : MessageBuffer := { m with _wpos := 0, _rpos := 0 }

def resize (m : MessageBuffer) (bytes : ℕ) : MessageBuffer :=
  { m with _storage := m._storage.take bytes ++ List.replicate (bytes - m._storage.length) 0 }

def readCompleted (m : MessageBuffer) (bytes : ℕ) : MessageBuffer :=
  { m with _rpos := m._rpos + bytes }

def writeCompleted (m : MessageBuffer) (bytes : ℕ) : MessageBuffer :=
  { m with _wpos := m._wpos + bytes }

def getActiveSize (m : MessageBuffer) : ℕ := sizeDiff m._wpos m._rpos

def getRemainingSpace (m : MessageBuffer) : ℕ := sizeDiff m._storage.length m._wpos

/-- What a reader finds from `GetReadPointer` on. -/
def memory (m : MessageBuffer) : List UInt8 := m._storage.drop m._rpos

def normalize (m : MessageBuffer) : MessageBuffer :=
  if m._rpos = 0 then m
  else
    let storage := if m._rpos = m._wpos then m._storage
      else m.memory.take m.getActiveSize ++ m._storage.drop m.getActiveSize
    ⟨sizeDiff m._wpos m._rpos, 0, storage⟩

def ensureFreeSpace (m : MessageBuffer) : MessageBuffer :=
  if m.getRemainingSpace = 0 then m.resize (m._storage.length * 3 / 2) else m

/-- Bytes copied to `GetWritePointer`. -/
def copyIn (m : MessageBuffer) (data : List UInt8) : MessageBuffer :=
  { m with
    _storage := m._storage.take m._wpos ++ data ++ m._storage.drop (m._wpos + data.length) }

def write (m : MessageBuffer) (data : List UInt8) : MessageBuffer :=
  if data = [] then m else (m.copyIn data).writeCompleted data.length

/-- Bytes written through `GetReadPointer`. -/
def overwrite (m : MessageBuffer) (data : List UInt8) : MessageBuffer :=
  { m with
    _storage := m._storage.take m._rpos ++ data ++ m._storage.drop (m._rpos + data.length) }

/-- What `Move` leaves behind, once its result has been used to construct another vector. -/
def moved : MessageBuffer := ⟨0, 0, []⟩

/-! ## 2. Active bytes -/

/-- The bytes that have been written and not yet read. -/
def active (m : MessageBuffer) : List UInt8 := (m._storage.take m._wpos).drop m._rpos

structure Wf (m : MessageBuffer) : Prop where
  rpos_le : m._rpos ≤ m._wpos
  wpos_le : m._wpos ≤ m._storage.length

variable {m : MessageBuffer}

theorem wf_ofSize (initialSize : ℕ) : (ofSize initialSize).Wf :=
  ⟨Nat.le_refl 0, Nat.zero_le _⟩

theorem active_ofSize (initialSize : ℕ) : (ofSize initialSize).active = [] := by
  simp [active, ofSize]

theorem Wf.getActiveSize (h : m.Wf) : m.getActiveSize = m.active.length := by
  have hwrite := h.wpos_le
  rw [MessageBuffer.getActiveSize, sizeDiff, if_pos h.rpos_le, active, List.length_drop,
    List.length_take, min_eq_left hwrite]

theorem Wf.getRemainingSpace (h : m.Wf) :
    m.getRemainingSpace = m._storage.length - m._wpos := by
  rw [MessageBuffer.getRemainingSpace, sizeDiff, if_pos h.wpos_le]

theorem getRemainingSpace_ofSize (initialSize : ℕ) :
    (ofSize initialSize).getRemainingSpace = initialSize := by
  rw [(wf_ofSize initialSize).getRemainingSpace]
  exact List.length_replicate

theorem Wf.memory (h : m.Wf) : m.memory = m.active ++ m._storage.drop m._wpos := by
  have hread := h.rpos_le
  have hwrite := h.wpos_le
  have hlen : m._rpos ≤ (m._storage.take m._wpos).length := by
    rw [List.length_take]
    omega
  rw [MessageBuffer.memory, active, ← List.drop_append_of_le_length hlen, List.take_append_drop]

theorem Wf.reset (m : MessageBuffer) : m.reset.Wf := ⟨Nat.le_refl 0, Nat.zero_le _⟩

theorem active_reset (m : MessageBuffer) : m.reset.active = [] := by
  simp [active, MessageBuffer.reset]

theorem Wf.readCompleted (h : m.Wf) {bytes : ℕ} (hbytes : bytes ≤ m.active.length) :
    (m.readCompleted bytes).Wf := by
  have hread := h.rpos_le
  have hsize := h.getActiveSize
  rw [MessageBuffer.getActiveSize, sizeDiff, if_pos hread] at hsize
  refine ⟨?_, h.wpos_le⟩
  show m._rpos + bytes ≤ m._wpos
  omega

theorem active_readCompleted (m : MessageBuffer) (bytes : ℕ) :
    (m.readCompleted bytes).active = m.active.drop bytes := by
  rw [active, active, List.drop_drop]
  rfl

theorem Wf.normalize (h : m.Wf) : m.normalize.Wf ∧ m.normalize.active = m.active ∧
    m.normalize._storage.length = m._storage.length := by
  have hread := h.rpos_le
  have hwrite := h.wpos_le
  have hsize := h.getActiveSize
  have hdiff : sizeDiff m._wpos m._rpos = m.active.length := hsize
  have hle : m.active.length ≤ m._storage.length := by
    rw [active, List.length_drop, List.length_take]
    omega
  unfold MessageBuffer.normalize
  split
  · exact ⟨h, rfl, rfl⟩
  · split
    · next heq =>
      have hnil : m.active = [] := by
        rw [active, heq]
        simp
      rw [hdiff, hnil]
      exact ⟨⟨Nat.le_refl 0, Nat.zero_le _⟩, by simp [active], rfl⟩
    · have hmove : m.memory.take m.getActiveSize = m.active := by
        rw [hsize, h.memory, List.take_left']
        rfl
      rw [hdiff, hmove, hsize]
      have hlen : (m.active ++ m._storage.drop m.active.length).length = m._storage.length := by
        rw [List.length_append, List.length_drop]
        omega
      refine ⟨⟨Nat.zero_le _, ?_⟩, ?_, hlen⟩
      · rw [hlen]
        exact hle
      · simp [active]

theorem Wf.ensureFreeSpace (h : m.Wf) :
    m.ensureFreeSpace.Wf ∧ m.ensureFreeSpace.active = m.active := by
  have hwrite := h.wpos_le
  unfold MessageBuffer.ensureFreeSpace
  split
  · have htake : m._storage.take (m._storage.length * 3 / 2) = m._storage :=
      List.take_of_length_le (by omega)
    rw [resize, htake]
    refine ⟨⟨h.rpos_le, ?_⟩, ?_⟩
    · show m._wpos ≤ _
      rw [List.length_append]
      omega
    · simp only [active]
      rw [List.take_append_of_le_length hwrite]
  · exact ⟨h, rfl⟩

theorem normalize_rpos (m : MessageBuffer) : m.normalize._rpos = 0 := by
  unfold normalize
  split
  · next h => exact h
  · rfl

theorem ensureFreeSpace_rpos (m : MessageBuffer) : m.ensureFreeSpace._rpos = m._rpos := by
  unfold ensureFreeSpace
  split
  · rfl
  · rfl

theorem length_le_ensureFreeSpace (m : MessageBuffer) :
    m._storage.length ≤ m.ensureFreeSpace._storage.length := by
  unfold ensureFreeSpace
  split
  · simp only [resize, List.length_append, List.length_take, List.length_replicate]
    omega
  · exact Nat.le_refl _

theorem Wf.room (h : m.Wf) (hsize : 2 ≤ m._storage.length) :
    0 < m.ensureFreeSpace.getRemainingSpace := by
  have hwrite := h.wpos_le
  rw [h.ensureFreeSpace.1.getRemainingSpace]
  unfold MessageBuffer.ensureFreeSpace
  rw [h.getRemainingSpace]
  split
  · simp only [resize, List.length_append, List.length_take, List.length_replicate]
    omega
  · omega

theorem Wf.active_add_room (h : m.Wf) (hrpos : m._rpos = 0) :
    m.active.length + m.getRemainingSpace = m._storage.length := by
  have hwrite := h.wpos_le
  rw [h.getRemainingSpace, ← h.getActiveSize, MessageBuffer.getActiveSize, sizeDiff,
    if_pos h.rpos_le, hrpos]
  omega

theorem Wf.write (h : m.Wf) {data : List UInt8} (hroom : data.length ≤ m.getRemainingSpace) :
    (m.write data).Wf ∧ (m.write data).active = m.active ++ data ∧
      (m.write data)._storage.length = m._storage.length := by
  have hread := h.rpos_le
  have hwrite := h.wpos_le
  rw [h.getRemainingSpace] at hroom
  unfold MessageBuffer.write
  split
  · next hnil => exact ⟨h, by simp [hnil], rfl⟩
  · have htake : (m._storage.take m._wpos).length = m._wpos := by
      rw [List.length_take]
      omega
    have hlen : (m._storage.take m._wpos ++ data ++
        m._storage.drop (m._wpos + data.length)).length = m._storage.length := by
      rw [List.length_append, List.length_append, htake, List.length_drop]
      omega
    refine ⟨⟨?_, ?_⟩, ?_, hlen⟩
    · show m._rpos ≤ m._wpos + data.length
      omega
    · calc m._wpos + data.length ≤ m._storage.length := by omega
        _ = ((m.copyIn data).writeCompleted data.length)._storage.length := hlen.symm
    · show ((m._storage.take m._wpos ++ data ++
        m._storage.drop (m._wpos + data.length)).take (m._wpos + data.length)).drop m._rpos = _
      rw [List.take_left' (by rw [List.length_append, htake]),
        List.drop_append_of_le_length (by omega)]
      rfl

theorem Wf.take_memory (h : m.Wf) {n : ℕ} (hn : n ≤ m.active.length) :
    m.memory.take n = m.active.take n := by
  rw [h.memory, List.take_append_of_le_length hn]

theorem Wf.overwrite (h : m.Wf) {data : List UInt8} (hlen : data.length = m.active.length) :
    (m.overwrite data).Wf ∧ (m.overwrite data).active = data ∧
      (m.overwrite data)._storage.length = m._storage.length := by
  have hread := h.rpos_le
  have hwrite := h.wpos_le
  have hsize := h.getActiveSize
  rw [MessageBuffer.getActiveSize, sizeDiff, if_pos hread, ← hlen] at hsize
  have htake : (m._storage.take m._rpos).length = m._rpos := by
    rw [List.length_take]
    omega
  have hend : m._rpos + data.length = m._wpos := by omega
  have hstorage : (m._storage.take m._rpos ++ data ++
      m._storage.drop (m._rpos + data.length)).length = m._storage.length := by
    rw [List.length_append, List.length_append, htake, List.length_drop]
    omega
  refine ⟨⟨hread, ?_⟩, ?_, hstorage⟩
  · calc m._wpos ≤ m._storage.length := hwrite
      _ = (m.overwrite data)._storage.length := hstorage.symm
  · have hfront : (m.overwrite data).active = ((m._storage.take m._rpos ++ data ++
        m._storage.drop (m._rpos + data.length)).take m._wpos).drop m._rpos := rfl
    rw [hfront, List.take_left' (by rw [List.length_append, htake, hend]),
      List.drop_left' htake]

theorem wf_resize_of_empty (hw : m._wpos = 0) (hr : m._rpos = 0) (bytes : ℕ) :
    (m.resize bytes).Wf ∧ (m.resize bytes).active = [] ∧
      (m.resize bytes)._storage.length = bytes := by
  refine ⟨⟨?_, ?_⟩, ?_, ?_⟩
  · simp [resize, hw, hr]
  · simp [resize, hw]
  · simp [active, resize, hw]
  · simp only [resize, List.length_append, List.length_take, List.length_replicate]
    omega

theorem Wf.storage_of_full (h : m.Wf) (hr : m._rpos = 0) (hfull : m.getRemainingSpace = 0) :
    m._storage = m.active := by
  have hwrite := h.wpos_le
  rw [h.getRemainingSpace] at hfull
  rw [active, hr, List.drop_zero, List.take_of_length_le (by omega)]

end MessageBuffer

end FunPvp.Network
