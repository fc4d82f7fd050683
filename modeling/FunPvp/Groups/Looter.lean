/-
# Whose turn it is to loot

A group remembers a looter, `m_looterGuid`, and `UpdateLooterGuid` moves the turn on: to the next
member who is connected and near the looted object, first among those behind the looter in
`m_memberSlots` and then from the start of the list up to him. The turn stays where it is in a
group that is free for all, and, if the caller asks for an update only if it is needed, with a
looter who is near the object.

`updateLooterGuid_inTurn` says that the two scans are one round (`Lib/RoundRobin.lean`), for a
looter who is not in the group any more one that begins with the first member, and that nobody is
chosen twice before all have been.
-/
import FunPvp.Groups.Group
import FunPvp.Lib.RoundRobin
import FunPvp.Loot.Loot

namespace FunPvp.Groups

open FunPvp.Lib
open FunPvp.Looting (LootMethod)

/-! ## 1. The source -/

/-- The part of a `Group` that looting in turns is about. `updatesSent` counts the calls of
`SendUpdate`. -/
structure LootGroup where
  lootMethod : LootMethod
  looterGuid : ObjectGuid
  memberSlots : List ObjectGuid
  unique : memberSlots.Nodup
  updatesSent : ℕ

/-- What is asked about players when an object is looted: `ObjectAccessor::FindPlayer`, and
`IsAtGroupRewardDistance` of the player it found. -/
structure LootedObject where
  findPlayer : ObjectGuid → Bool
  isAtGroupRewardDistance : ObjectGuid → Bool

def LootedObject.eligible (o : LootedObject) (guid : ObjectGuid) : Bool :=
  o.findPlayer guid && o.isAtGroupRewardDistance guid

namespace LootGroup

/-- `SetLooterGuid`, with the `SendUpdate` after it. -/
def setLooterGuid (g : LootGroup) (guid : ObjectGuid) : LootGroup :=
  { g with looterGuid := guid, updatesSent := g.updatesSent + 1 }

/-- `_getMemberCSlot`, as a position: the length of the list is its end. -/
def getMemberCSlot (g : LootGroup) (guid : ObjectGuid) : ℕ := g.memberSlots.idxOf guid

/-- The two scans: from `guid_itr` to the end, and from the start up to it. -/
def findLooter (g : LootGroup) (pLootedObject : LootedObject) (guid_itr : ℕ) :
    Option ObjectGuid :=
  match (g.memberSlots.drop guid_itr).find? pLootedObject.eligible with
  | some player => some player
  | none => (g.memberSlots.take guid_itr).find? pLootedObject.eligible

/-- The end of `UpdateLooterGuid`. -/
def passTurn (g : LootGroup) : Option ObjectGuid → LootGroup
  | some pNewLooter => if g.looterGuid ≠ pNewLooter then g.setLooterGuid pNewLooter else g
  | none => g.setLooterGuid 0

def updateLooterGuid (g : LootGroup) (pLootedObject : LootedObject) (ifneed : Bool) :
    LootGroup :=
  if g.lootMethod = .FREE_FOR_ALL then g
  else
    let guid_itr := g.getMemberCSlot g.looterGuid
    if guid_itr ≠ g.memberSlots.length then
      if ifneed && pLootedObject.eligible g.looterGuid then g
      else g.passTurn (g.findLooter pLootedObject (guid_itr + 1))
    else g.passTurn (g.findLooter pLootedObject guid_itr)

/-- The calls one after another, each with its `ifneed`: the group before the `n`-th. -/
def afterCalls (g : LootGroup) (pLootedObject : LootedObject) (ifneed : ℕ → Bool) :
    ℕ → LootGroup
  | 0 => g
  | n + 1 => (g.afterCalls pLootedObject ifneed n).updateLooterGuid pLootedObject (ifneed n)

/-! ## 2. One call -/

def keepsTurn (g : LootGroup) (pLootedObject : LootedObject) (ifneed : Bool) : Bool :=
  g.lootMethod == .FREE_FOR_ALL ||
    ifneed && decide (g.looterGuid ∈ g.memberSlots) && pLootedObject.eligible g.looterGuid

/-- Whom the `n`-th of the calls chooses, if it chooses. -/
def chosen (g : LootGroup) (pLootedObject : LootedObject) (ifneed : ℕ → Bool) (n : ℕ) :
    Option ObjectGuid :=
  if (g.afterCalls pLootedObject ifneed n).keepsTurn pLootedObject (ifneed n) = false then
    some (g.afterCalls pLootedObject ifneed (n + 1)).looterGuid
  else none

section Call

variable (g : LootGroup) (o : LootedObject) (ifneed : Bool)

@[simp] theorem passTurn_looterGuid (r : Option ObjectGuid) :
    (g.passTurn r).looterGuid = r.getD 0 := by
  cases r with
  | none => rfl
  | some guid =>
    simp only [passTurn]
    split
    · rfl
    · exact not_not.mp ‹_›

@[simp] theorem passTurn_memberSlots (r : Option ObjectGuid) :
    (g.passTurn r).memberSlots = g.memberSlots := by
  cases r with
  | none => rfl
  | some guid => simp only [passTurn]; split <;> rfl

theorem findLooter_eq {i : ℕ} (hi : i ≤ g.memberSlots.length) :
    g.findLooter o i = (g.memberSlots.rotate i).find? o.eligible := by
  rw [List.rotate_eq_drop_append_take hi, List.find?_append, findLooter]
  cases (g.memberSlots.drop i).find? o.eligible <;> rfl

theorem updateLooterGuid_eq :
    g.updateLooterGuid o ifneed =
      if g.keepsTurn o ifneed then g
      else g.passTurn ((inTurn g.memberSlots g.looterGuid).find? o.eligible) := by
  rw [updateLooterGuid, keepsTurn]
  by_cases hfree : g.lootMethod = .FREE_FOR_ALL
  · simp [hfree]
  rw [if_neg hfree]
  by_cases hmem : g.looterGuid ∈ g.memberSlots
  · have hlt : g.getMemberCSlot g.looterGuid < g.memberSlots.length :=
      List.idxOf_lt_length_of_mem hmem
    simp only [if_pos hlt.ne, g.findLooter_eq o hlt, inTurn, if_pos hmem]
    simp [hfree, hmem, getMemberCSlot]
  · have hend : g.getMemberCSlot g.looterGuid = g.memberSlots.length := List.idxOf_of_notMem hmem
    have hscans := g.findLooter_eq o (Nat.le_refl g.memberSlots.length)
    rw [List.rotate_length] at hscans
    simp only [hend, ne_eq, not_true_eq_false, if_false, hscans, inTurn_of_notMem hmem]
    simp [hfree, hmem]

theorem updateLooterGuid_memberSlots :
    (g.updateLooterGuid o ifneed).memberSlots = g.memberSlots := by
  rw [updateLooterGuid_eq]
  split
  · rfl
  · exact g.passTurn_memberSlots _

end Call

/-! ## 3. Call after call -/

section Calls

variable (g : LootGroup) (o : LootedObject) (ifneed : ℕ → Bool)

theorem afterCalls_memberSlots (n : ℕ) :
    (g.afterCalls o ifneed n).memberSlots = g.memberSlots := by
  induction n with
  | zero => rfl
  | succ n ih => exact (updateLooterGuid_memberSlots _ o (ifneed n)).trans ih

/-- **The next in the round is chosen, and nobody twice before all have been**, as long as the same
members are there and near. -/
theorem updateLooterGuid_inTurn :
    (∀ ifneed : Bool,
      (g.updateLooterGuid o ifneed).looterGuid =
        if g.keepsTurn o ifneed then g.looterGuid
        else ((inTurn g.memberSlots g.looterGuid).find? o.eligible).getD 0) ∧
    Fair (g.memberSlots.filter o.eligible) (g.chosen o ifneed) := by
  constructor
  · intro need
    rw [updateLooterGuid_eq]
    split
    · rfl
    · exact g.passTurn_looterGuid _
  · refine pick_fair (c := fun n => (g.afterCalls o ifneed n).looterGuid) g.unique ?_ ?_
    · intro n hn
      show (updateLooterGuid _ o (ifneed n)).looterGuid = _
      rw [updateLooterGuid_eq, if_pos (Bool.not_eq_false _ |>.mp hn)]
    · intro n x hn hx
      show (updateLooterGuid _ o (ifneed n)).looterGuid = x
      rw [updateLooterGuid_eq, hn, afterCalls_memberSlots, hx, if_neg Bool.false_ne_true]
      exact passTurn_looterGuid _ (some x)

end Calls

/-- Members 1 and 2 are near, and it is the turn of 1. -/
def twoNear : LootGroup where
  lootMethod := .GROUP_LOOT
  looterGuid := 1
  memberSlots := [1, 2]
  unique := by decide
  updatesSent := 0

/-- If an update is only asked for if needed, the turn stays with 1, and does not go to 2. -/
theorem twoNear_keepsTurn :
    (twoNear.updateLooterGuid ⟨fun _ => true, fun _ => true⟩ true).looterGuid = 1 ∧
      (inTurn twoNear.memberSlots twoNear.looterGuid).find?
        (LootedObject.eligible ⟨fun _ => true, fun _ => true⟩) = some 2 := by
  decide

end LootGroup

end FunPvp.Groups
