/-
# The timers of a script

`EventMap` keeps the events a script has scheduled in a multimap from the time an event is due to
a word that has the id of the event, its group and its phase in it: `0xPPGGEEEE`. The time is that
of an own timer, which `Update` drives on and `DelayEvents` turns back.
-/
import FunPvp.Lib.Multimap

namespace FunPvp.Utilities

open Lib

/-! ## 1. The map -/

/-- `EventStore`, in the order of the times; entries of one time are in the order in which they
have been inserted. -/
abbrev EventStore := List (UInt32 × UInt32)

def EventStore.insert (store : EventStore) (value : UInt32 × UInt32) : EventStore :=
  put (fun e => e.1.toNat) value store

structure EventMap where
  time : UInt32 := 0
  phase : UInt8 := 0
  eventMap : EventStore := []
  lastEvent : UInt32 := 0
deriving DecidableEq

def groupBit (group : UInt32) : UInt32 := 1 <<< (group + 15)

def phaseBit (phase : UInt8) : UInt32 := 1 <<< (phase.toUInt32 + 23)

/-- The word of an event: the bits of a group or a phase that is none of the eight are not set. -/
def eventData (eventId group : UInt32) (phase : UInt8) : UInt32 :=
  let eventId := if group ≠ 0 ∧ group ≤ 8 then eventId ||| groupBit group else eventId
  if phase ≠ 0 ∧ phase ≤ 8 then eventId ||| phaseBit phase else eventId

/-! ## 2. Its functions -/

namespace EventMap

def reset (m : EventMap) : EventMap := { m with eventMap := [], time := 0, phase := 0 }

def update (time : UInt32) (m : EventMap) : EventMap := { m with time := m.time + time }

def setPhase (phase : UInt8) (m : EventMap) : EventMap :=
  if phase = 0 then { m with phase := 0 }
  else if phase ≤ 8 then { m with phase := 1 <<< (phase - 1) }
  else m

def scheduleEvent (eventId time group : UInt32) (phase : UInt8) (m : EventMap) : EventMap :=
  { m with eventMap := m.eventMap.insert (m.time + time, eventData eventId group phase) }

def repeatEvent (time : UInt32) (m : EventMap) : EventMap :=
  { m with eventMap := m.eventMap.insert (m.time + time, m.lastEvent) }

/-- The event is of phases of which none is active. -/
def ofOtherPhase (phase : UInt8) (e : UInt32 × UInt32) : Bool :=
  phase ≠ 0 && e.2 &&& 0xFF000000 ≠ 0 && (e.2 >>> 24) &&& phase.toUInt32 = 0

/-- The loop of `ExecuteEvent`: the entry it ends with, and what is left of the map. -/
def executeLoop (time : UInt32) (phase : UInt8) :
    EventStore → Option (UInt32 × UInt32) × EventStore
  | [] => (none, [])
  | e :: rest =>
    if e.1 > time then (none, e :: rest)
    else if ofOtherPhase phase e then executeLoop time phase rest
    else (some e, rest)

def executeEvent (m : EventMap) : UInt32 × EventMap :=
  match executeLoop m.time m.phase m.eventMap with
  | (none, rest) => (0, { m with eventMap := rest })
  | (some e, rest) => (e.2 &&& 0x0000FFFF, { m with lastEvent := e.2, eventMap := rest })

/-- `DelayEvents` for all events: it is the timer that goes back. -/
def delayEvents (delay : UInt32) (m : EventMap) : EventMap :=
  { m with time := if delay < m.time then m.time - delay else 0 }

def delayEventsOfGroup (delay group : UInt32) (m : EventMap) : EventMap :=
  if group = 0 ∨ group > 8 ∨ m.eventMap = [] then m
  else
    let delayed : EventStore :=
      (m.eventMap.filter fun e => e.2 &&& groupBit group ≠ 0).foldl
        (fun delayed e => delayed.insert (e.1 + delay, e.2)) []
    let kept : EventStore := m.eventMap.filter fun e => ¬ e.2 &&& groupBit group ≠ 0
    { m with eventMap := delayed.foldl EventStore.insert kept }

def cancelEvent (eventId : UInt32) (m : EventMap) : EventMap :=
  { m with eventMap := m.eventMap.filter fun e => ¬ eventId = e.2 &&& 0x0000FFFF }

def cancelEventGroup (group : UInt32) (m : EventMap) : EventMap :=
  if group = 0 ∨ group > 8 ∨ m.eventMap = [] then m
  else { m with eventMap := m.eventMap.filter fun e => ¬ e.2 &&& groupBit group ≠ 0 }

end EventMap

inductive Action
  | reset
  | update (time : UInt32)
  | setPhase (phase : UInt8)
  | scheduleEvent (eventId time group : UInt32) (phase : UInt8)
  | repeatEvent (time : UInt32)
  | executeEvent
  | delayEvents (delay : UInt32)
  | delayEventsOfGroup (delay group : UInt32)
  | cancelEvent (eventId : UInt32)
  | cancelEventGroup (group : UInt32)
deriving DecidableEq

/-- What a call returns, 0 where it returns nothing, and the map after it. -/
def EventMap.step (m : EventMap) : Action → UInt32 × EventMap
  | .reset => (0, m.reset)
  | .update time => (0, m.update time)
  | .setPhase phase => (0, m.setPhase phase)
  | .scheduleEvent eventId time group phase => (0, m.scheduleEvent eventId time group phase)
  | .repeatEvent time => (0, m.repeatEvent time)
  | .executeEvent => m.executeEvent
  | .delayEvents delay => (0, m.delayEvents delay)
  | .delayEventsOfGroup delay group => (0, m.delayEventsOfGroup delay group)
  | .cancelEvent eventId => (0, m.cancelEvent eventId)
  | .cancelEventGroup group => (0, m.cancelEventGroup group)

/-! ## 3. The word of an event -/

/-- A group or a phase that stands for one. -/
def IsGroup (group : UInt32) : Prop := group ≠ 0 ∧ group ≤ 8

def IsPhase (phase : UInt8) : Prop := phase ≠ 0 ∧ phase ≤ 8

instance (group : UInt32) : Decidable (IsGroup group) := inferInstanceAs (Decidable (_ ∧ _))

instance (phase : UInt8) : Decidable (IsPhase phase) := inferInstanceAs (Decidable (_ ∧ _))

theorem not_isGroup {group : UInt32} : ¬ IsGroup group ↔ group = 0 ∨ group > 8 := by
  rw [IsGroup, not_and_or, not_not, UInt32.not_le]

theorem IsGroup.eq_ofNat {group : UInt32} (h : IsGroup group) :
    ∃ n : Fin 8, group = UInt32.ofNat (n + 1) := by
  have hpos : 0 < group.toNat := Nat.pos_of_ne_zero fun h0 => h.1 (UInt32.toNat_inj.mp h0)
  have hle : group.toNat ≤ 8 := UInt32.le_iff_toNat_le.mp h.2
  refine ⟨⟨group.toNat - 1, by omega⟩, ?_⟩
  rw [Nat.sub_add_cancel hpos, UInt32.ofNat_toNat]

theorem IsPhase.eq_ofNat {phase : UInt8} (h : IsPhase phase) :
    ∃ n : Fin 8, phase = UInt8.ofNat (n + 1) := by
  have hpos : 0 < phase.toNat := Nat.pos_of_ne_zero fun h0 => h.1 (UInt8.toNat_inj.mp h0)
  have hle : phase.toNat ≤ 8 := UInt8.le_iff_toNat_le.mp h.2
  refine ⟨⟨phase.toNat - 1, by omega⟩, ?_⟩
  rw [Nat.sub_add_cancel hpos, UInt8.ofNat_toNat]

def groupMark (group : UInt32) : UInt32 := if IsGroup group then groupBit group else 0

def phaseMark (phase : UInt8) : UInt32 := if IsPhase phase then phaseBit phase else 0

theorem eventData_eq (eventId group : UInt32) (phase : UInt8) :
    eventData eventId group phase = eventId ||| (groupMark group ||| phaseMark phase) := by
  change (if IsPhase phase then (if IsGroup group then eventId ||| groupBit group else eventId) |||
    phaseBit phase else if IsGroup group then eventId ||| groupBit group else eventId) = _
  unfold groupMark phaseMark
  split <;> split <;> simp [UInt32.or_assoc]

theorem groupMark_and (group : UInt32) : groupMark group &&& 0xFF00FFFF = 0 := by
  unfold groupMark
  split
  · next h =>
    obtain ⟨n, rfl⟩ := h.eq_ofNat
    revert n
    decide
  · rfl

theorem groupMark_and_groupBit (group : UInt32) {g : UInt32} (hg : IsGroup g) :
    groupMark group &&& groupBit g ≠ 0 ↔ group = g := by
  unfold groupMark
  split
  · next h =>
    obtain ⟨n, rfl⟩ := h.eq_ofNat
    obtain ⟨k, rfl⟩ := hg.eq_ofNat
    revert n k
    decide
  · next h =>
    refine iff_of_false (fun h0 => h0 (UInt32.zero_and)) fun h0 => h (h0 ▸ hg)

theorem phaseMark_and (phase : UInt8) : phaseMark phase &&& 0x00FFFFFF = 0 := by
  unfold phaseMark
  split
  · next h =>
    obtain ⟨n, rfl⟩ := h.eq_ofNat
    revert n
    decide
  · rfl

theorem phaseMark_and_high (phase : UInt8) :
    phaseMark phase &&& 0xFF000000 ≠ 0 ↔ IsPhase phase := by
  unfold phaseMark
  split
  · next h =>
    refine iff_of_true ?_ h
    obtain ⟨n, rfl⟩ := h.eq_ofNat
    revert n
    decide
  · next h => exact iff_of_false (fun h0 => h0 (UInt32.zero_and)) h

theorem phaseMark_and_active (phase : UInt8) {p : UInt8} (hp : IsPhase p) :
    (phaseMark phase >>> 24) &&& (1 <<< (p - 1) : UInt8).toUInt32 ≠ 0 ↔ phase = p := by
  unfold phaseMark
  split
  · next h =>
    obtain ⟨n, rfl⟩ := h.eq_ofNat
    obtain ⟨k, rfl⟩ := hp.eq_ofNat
    revert n k
    decide
  · next h => exact iff_of_false (fun h0 => h0 (by simp)) fun h0 => h (h0 ▸ hp)

theorem or_and (a b m : UInt32) : (a ||| b) &&& m = (a &&& m) ||| (b &&& m) :=
  UInt32.toBitVec_inj.mp BitVec.and_or_distrib_right

theorem and_eq_zero_of_part {a mask part : UInt32} (h : a &&& mask = 0)
    (hpart : mask &&& part = part) : a &&& part = 0 := by
  rw [← hpart, ← UInt32.and_assoc, h, UInt32.zero_and]

theorem groupBit_part {g : UInt32} (hg : IsGroup g) :
    (0x00FFFFFF : UInt32) &&& groupBit g = groupBit g ∧
      (0x0000FFFF : UInt32) &&& groupBit g = 0 := by
  obtain ⟨k, rfl⟩ := hg.eq_ofNat
  revert k
  decide

section Fields

variable {eventId : UInt32} (hid : eventId.toNat < 2 ^ 16) (group : UInt32) (phase : UInt8)

include hid

theorem id_and_low : eventId &&& 0x0000FFFF = eventId := by
  refine UInt32.toNat_inj.mp ?_
  rw [UInt32.toNat_and]
  change eventId.toNat &&& (2 ^ 16 - 1) = eventId.toNat
  rw [Nat.and_two_pow_sub_one_eq_mod, Nat.mod_eq_of_lt hid]

theorem id_and_eq_zero {mask : UInt32} (h : 0x0000FFFF &&& mask = 0) : eventId &&& mask = 0 := by
  rw [← id_and_low hid, UInt32.and_assoc, h, UInt32.and_zero]

theorem eventData_and_low : eventData eventId group phase &&& 0x0000FFFF = eventId := by
  rw [eventData_eq, or_and, or_and, id_and_low hid,
    and_eq_zero_of_part (groupMark_and group) (by decide),
    and_eq_zero_of_part (phaseMark_and phase) (by decide), UInt32.or_zero, UInt32.or_zero]

theorem eventData_and_groupBit {g : UInt32} (hg : IsGroup g) :
    eventData eventId group phase &&& groupBit g ≠ 0 ↔ group = g := by
  rw [eventData_eq, or_and, or_and, id_and_eq_zero hid (groupBit_part hg).2,
    and_eq_zero_of_part (phaseMark_and phase) (groupBit_part hg).1, UInt32.zero_or,
    UInt32.or_zero]
  exact groupMark_and_groupBit group hg

theorem eventData_and_high :
    eventData eventId group phase &&& 0xFF000000 ≠ 0 ↔ IsPhase phase := by
  rw [eventData_eq, or_and, or_and, id_and_eq_zero hid (by decide),
    and_eq_zero_of_part (groupMark_and group) (by decide), UInt32.zero_or, UInt32.zero_or]
  exact phaseMark_and_high phase

theorem eventData_and_active {p : UInt8} (hp : IsPhase p) :
    (eventData eventId group phase >>> 24) &&& (1 <<< (p - 1) : UInt8).toUInt32 ≠ 0 ↔
      phase = p := by
  have hlow : eventId >>> 24 = 0 := by
    refine UInt32.toNat_inj.mp ?_
    change eventId.toNat >>> 24 = 0
    rw [Nat.shiftRight_eq_div_pow]
    omega
  have hgroup : groupMark group >>> 24 = 0 := by
    unfold groupMark
    split
    · next h =>
      obtain ⟨n, rfl⟩ := h.eq_ofNat
      revert n
      decide
    · rfl
  rw [eventData_eq, UInt32.shiftRight_or, UInt32.shiftRight_or, hlow, hgroup, UInt32.zero_or,
    UInt32.zero_or]
  exact phaseMark_and_active phase hp

end Fields

end FunPvp.Utilities
