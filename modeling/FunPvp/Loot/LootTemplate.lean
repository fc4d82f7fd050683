/-
# Loot templates

A loot template has plain entries, references to other templates, and groups of entries of which at
most one drops. Templates are loaded from tables, row by row; whatever they refer to is looked up
in the table of reference templates when loot is made. `Process` goes over the entries of a
template, processes a template that is referred to as often as its entry says, and then lets each
group drop.

Chances are floating point numbers, of which only an order and operations are used, so any type with
these may stand for them. What is random is given by `Dice`, a sequence of everything that is
drawn. `Process` calls itself without a bound and is run with a depth.
-/
import FunPvp.Loot.Loot

namespace FunPvp.Looting

/-! ## 1. Templates -/

structure LootRow (F : Type) extends LootStoreItem where
  reference : UInt32
  chance : F
  lootmode : UInt16
  groupid : UInt8
  mincount : UInt8
  maxcount : UInt8

/-- At most one entry of a group drops. -/
structure LootGroup (F : Type) where
  explicitlyChanced : List (LootRow F)
  equalChanced : List (LootRow F)

structure LootTemplate (F : Type) where
  entries : List (LootRow F)
  groups : List (Option (LootGroup F))

abbrev LootStore (F : Type) := List (UInt32 × LootTemplate F)

/-- What `Process` reads of the world, and what it is called with. `toUInt32` is the conversion of
a `float`. -/
structure Processing (F : Type) where
  getItemTemplate : UInt32 → Option ItemTemplate
  /-- The rate for the quality of an item. -/
  qualityRate : UInt32 → F
  rateDropItemReferenced : F
  rateDropItemReferencedAmount : F
  toUInt32 : F → UInt32
  lootTemplatesReference : LootStore F
  rate : Bool
  lootMode : UInt16
  maxDuplicates : UInt8

structure Dice (F : Type) [LE F] [Zero F] where
  /-- `rand_chance`. -/
  chance : ℕ → F
  chance_nonneg : ∀ n, 0 ≤ chance n
  /-- What `urand` brings into its range. -/
  number : ℕ → ℕ
  suffix : ℕ → ℕ → UInt32
  property : ℕ → ℕ → UInt32

variable {F : Type} [LinearOrder F] [Zero F] [One F] [Sub F] [Mul F] [NatCast F] [OfScientific F]

def Dice.urand (d : Dice F) (n : ℕ) (min max : ℕ) : ℕ := min + d.number n % (max - min + 1)

/-! ## 2. Loading -/

namespace LootStore

def getLootFor (store : LootStore F) (lootId : UInt32) : Option (LootTemplate F) :=
  (store.find? fun tab => tab.1 == lootId).map Prod.snd

end LootStore

def LootGroup.addEntry (group : LootGroup F) (item : LootRow F) : LootGroup F :=
  if item.chance ≠ 0 then
    { group with explicitlyChanced := group.explicitlyChanced ++ [item] }
  else { group with equalChanced := group.equalChanced ++ [item] }

/-- `Groups.resize(groupid, NULL)`, if the template has not got more groups. -/
def LootTemplate.resizeGroups (t : LootTemplate F) (groupid : ℕ) : List (Option (LootGroup F)) :=
  if t.groups.length ≤ groupid then
    t.groups.take groupid ++ List.replicate (groupid - t.groups.length) none
  else t.groups

def LootTemplate.addEntry (t : LootTemplate F) (item : LootRow F) : LootTemplate F :=
  if 0 < item.groupid ∧ item.reference = 0 then
    { t with
      groups := (t.resizeGroups item.groupid.toNat).modify (item.groupid.toNat - 1) fun group =>
        some ((group.getD ⟨[], []⟩).addEntry item) }
  else { t with entries := t.entries ++ [item] }

namespace LootStore

/-- The template of the row, made if it is not there, gets the entry. -/
def addEntry (store : LootStore F) (entry : UInt32) (item : LootRow F) : LootStore F :=
  match store with
  | [] => [(entry, LootTemplate.addEntry ⟨[], []⟩ item)]
  | tab :: store =>
    if tab.1 = entry then (tab.1, tab.2.addEntry item) :: store
    else tab :: addEntry store entry item

def isValid (getItemTemplate : UInt32 → Option ItemTemplate) (item : LootRow F) : Bool :=
  if item.mincount = 0 then false
  else if item.reference = 0 then
    if (getItemTemplate item.itemid).isNone then false
    else if item.chance = 0 ∧ item.groupid = 0 then false
    else if item.chance ≠ 0 ∧ item.chance < 0.000001 then false
    else if item.maxcount < item.mincount then false
    else true
  else if item.needsQuest then true
  else if item.chance = 0 then false
  else true

/-- `LoadLootTable`: a row with a group id that does not fit ends the loading. -/
def loadLootTable (getItemTemplate : UInt32 → Option ItemTemplate) :
    LootStore F → List (UInt32 × LootRow F) → LootStore F
  | store, [] => store
  | store, (entry, item) :: rows =>
    if 128 ≤ item.groupid then store
    else if isValid getItemTemplate item then
      loadLootTable getItemTemplate (store.addEntry entry item) rows
    else loadLootTable getItemTemplate store rows

end LootStore

/-! ## 3. Processing -/

namespace LootRow

/-- `LootStoreItem::Roll`, where `roll` is what `rand_chance` returns. -/
def roll (item : LootRow F) (p : Processing F) (roll : F) : Bool :=
  if ((100 : ℕ) : F) ≤ item.chance then true
  else if 0 < item.reference then
    decide (roll < item.chance * if p.rate then p.rateDropItemReferenced else 1)
  else
    let qualityModifier :=
      if (p.getItemTemplate item.itemid).isSome && p.rate then p.qualityRate item.itemid else 1
    decide (roll < item.chance * qualityModifier)

/-- `maxcount` of a reference, with the rate. -/
def referencedAmount (item : LootRow F) (p : Processing F) : ℕ :=
  (p.toUInt32 (((item.maxcount.toNat : ℕ) : F) * p.rateDropItemReferencedAmount)).toNat

end LootRow

/-- Whether the count of the items with this id gets to `maxDuplicates`. -/
def foundDuplicates (maxDuplicates : UInt8) (itemid : UInt32) : UInt8 → List LootItem → Bool
  | _, [] => false
  | n, item :: items =>
    if item.itemid = itemid then
      if n + 1 = maxDuplicates then true
      else foundDuplicates maxDuplicates itemid (n + 1) items
    else foundDuplicates maxDuplicates itemid n items

def lootGroupInvalidSelector (p : Processing F) (loot : Loot) (item : LootRow F) : Bool :=
  if item.lootmode &&& p.lootMode = 0 then true
  else foundDuplicates p.maxDuplicates item.itemid 0 loot.items

namespace LootGroup

/-- What is left of the list after `remove_if`. -/
def possibleLoot (p : Processing F) (loot : Loot) (items : List (LootRow F)) :
    List (LootRow F) :=
  items.filter fun item => !lootGroupInvalidSelector p loot item

def pickByChance : F → List (LootRow F) → Option (LootRow F)
  | _, [] => none
  | roll, item :: items =>
    if ((100 : ℕ) : F) ≤ item.chance then some item
    else if roll - item.chance < 0 then some item
    else pickByChance (roll - item.chance) items

def roll (group : LootGroup F) (p : Processing F) (loot : Loot) (chance : F) (number : ℕ) :
    Option (LootRow F) :=
  match pickByChance chance (possibleLoot p loot group.explicitlyChanced) with
  | some item => some item
  | none =>
    let possible := possibleLoot p loot group.equalChanced
    possible[number % possible.length]?

end LootGroup

/-- The loot, and how much has been drawn. -/
structure Generated where
  loot : Loot
  drawn : ℕ

namespace Generated

def next (s : Generated) : Generated := { s with drawn := s.drawn + 1 }

def addItem (p : Processing F) (d : Dice F) (s : Generated) (item : LootRow F) : Generated where
  loot := s.loot.addItem p.getItemTemplate
    { item := item.toLootStoreItem
      count := UInt32.ofNat (d.urand s.drawn item.mincount.toNat item.maxcount.toNat)
      suffix := d.suffix s.drawn
      property := d.property s.drawn }
  drawn := s.drawn + 1

end Generated

def LootGroup.process (group : LootGroup F) (p : Processing F) (d : Dice F) (s : Generated) :
    Generated :=
  match group.roll p s.loot (d.chance s.drawn) (d.number s.drawn) with
  | some item => s.next.addItem p d item
  | none => s.next

namespace LootTemplate

def processGroup (t : LootTemplate F) (p : Processing F) (d : Dice F) (s : Generated)
    (groupId : UInt8) : Generated :=
  match t.groups[groupId.toNat - 1]? with
  | some (some group) => group.process p d s
  | _ => s

def processGroups (t : LootTemplate F) (p : Processing F) (d : Dice F) (s : Generated) :
    Generated :=
  t.groups.foldl (fun s group => group.elim s fun group => group.process p d s) s

/-- A round of the loop over the entries, where `processReferenced` is the call for a template that
is referred to. -/
def processEntry (p : Processing F) (d : Dice F)
    (processReferenced : LootTemplate F → Generated → UInt8 → Option Generated) (s : Generated)
    (item : LootRow F) : Option Generated :=
  if item.lootmode &&& p.lootMode = 0 then some s
  else if !item.roll p (d.chance s.drawn) then some s.next
  else if 0 < item.reference then
    match p.lootTemplatesReference.getLootFor item.reference with
    | none => some s.next
    | some referenced =>
      (List.replicate (item.referencedAmount p) ()).foldlM
        (fun s _ => processReferenced referenced s item.groupid) s.next
  else some (s.next.addItem p d item)

def process (p : Processing F) (d : Dice F) :
    ℕ → LootTemplate F → Generated → UInt8 → Option Generated
  | 0, _, _, _ => none
  | depth + 1, t, s, groupId =>
    if groupId ≠ 0 then some (t.processGroup p d s groupId)
    else
      (t.entries.foldlM (processEntry p d (process p d depth)) s).map (t.processGroups p d)

end LootTemplate

end FunPvp.Looting
