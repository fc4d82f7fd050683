/-
# The cooldowns of a unit

`SpellHistory` keeps the cooldown of each spell in `_spellCooldowns`, and for each category a
pointer to the entry of the spell that set the category's cooldown last, in `_categoryCooldowns`.
The entries are nodes of an `unordered_map`, so a pointer stays good while its node is in the map,
whatever else is put in or taken out. A node has an address here, and a pointer is an address;
reading one that no node of the map has is a fault.

An operation reads the clock once. What is sent to the client is left out.
-/
import Mathlib

namespace FunPvp.Spells

/-! ## 1. The store -/

/-- `Clock::time_point`, in nanoseconds. -/
abbrev TimePoint := ℤ

/-- `std::chrono::milliseconds`, as a duration of the clock. -/
def milliseconds (n : ℤ) : ℤ := n * 1000000

def fromTimeT (seconds : ℕ) : TimePoint := seconds * 1000000000

abbrev SpellId := ℕ

abbrev CategoryId := ℕ

/-- `CooldownEntry*`. -/
abbrev EntryPtr := ℕ

/-- `SpellHistory::CooldownEntry`. -/
structure CooldownEntry where
  SpellId : SpellId := 0
  CooldownEnd : TimePoint := 0
  ItemId : ℕ := 0
  CategoryId : CategoryId := 0
  CategoryEnd : TimePoint := 0
  OnHold : Bool := false
deriving DecidableEq

structure CooldownNode where
  addr : EntryPtr
  entry : CooldownEntry
deriving DecidableEq

/-- `_spellCooldownsBeforeDuel`, which nothing points into. -/
abbrev CooldownStorageType := AList fun _ : SpellId => CooldownEntry

/-- `SpellHistory`. The address `next` is that of the next node. -/
structure SpellHistory where
  spellCooldowns : AList fun _ : SpellId => CooldownNode
  spellCooldownsBeforeDuel : CooldownStorageType
  categoryCooldowns : AList fun _ : CategoryId => EntryPtr
  schoolLockouts : Fin 7 → TimePoint
  next : EntryPtr

/-- What ends the process: a pointer to a node that is gone is read, or there is no such spell. -/
inductive Fault
  | dangling
  | assertSpellInfo
deriving DecidableEq

structure SpellInfo where
  Id : SpellId
  /-- `GetCategory()`. -/
  Category : CategoryId
  RecoveryTime : ℕ := 0
  CategoryRecoveryTime : ℕ := 0
  /-- `GetSchoolMask()`. -/
  SchoolMask : ℕ := 1
  /-- `PreventionType == SPELL_PREVENTION_TYPE_SILENCE`. -/
  preventedBySilence : Bool := true
  isCooldownStartedOnEvent : Bool := false

/-- An entry of `ItemTemplate::Spells`. -/
structure ItemSpell where
  SpellId : SpellId
  SpellCooldown : ℤ
  SpellCategory : CategoryId
  SpellCategoryCooldown : ℤ

/-- The spells and the items of the server. -/
structure SpellEnv where
  getSpellInfo : SpellId → Option SpellInfo
  getItemTemplate : ℕ → Option (List ItemSpell)

namespace SpellHistory

def new : SpellHistory where
  spellCooldowns := ∅
  spellCooldownsBeforeDuel := ∅
  categoryCooldowns := ∅
  schoolLockouts := fun _ => 0
  next := 0

def deref (s : SpellHistory) (ptr : EntryPtr) : Except Fault CooldownEntry :=
  match s.spellCooldowns.entries.find? fun node => decide (node.2.addr = ptr) with
  | some node => .ok node.2.entry
  | none => .error .dangling

/-- `_spellCooldowns[spellId] = entry`: into the node of the spell, or into a new one. -/
def assign (s : SpellHistory) (spellId : SpellId) (entry : CooldownEntry) :
    SpellHistory × EntryPtr :=
  match s.spellCooldowns.lookup spellId with
  | some node =>
    ({ s with spellCooldowns := s.spellCooldowns.insert spellId ⟨node.addr, entry⟩ }, node.addr)
  | none =>
    ({ s with
        spellCooldowns := s.spellCooldowns.insert spellId ⟨s.next, entry⟩
        next := s.next + 1 }, s.next)

/-- The entry is stored, and is the one of its category if it has one: the common part of
`AddCooldown` and `LoadFromDB`. -/
def store (s : SpellHistory) (entry : CooldownEntry) : SpellHistory :=
  let (s, ptr) := s.assign entry.SpellId entry
  if entry.CategoryId ≠ 0 then
    { s with categoryCooldowns := s.categoryCooldowns.insert entry.CategoryId ptr }
  else s

def eraseCooldown (s : SpellHistory) (spellId : SpellId) : SpellHistory :=
  match s.spellCooldowns.lookup spellId with
  | none => s
  | some node =>
    { s with
      categoryCooldowns := s.categoryCooldowns.erase node.entry.CategoryId
      spellCooldowns := s.spellCooldowns.erase spellId }

/-- The round of `Update` and of `ResetCooldowns` for one spell. -/
def eraseIf (predicate : SpellId → CooldownEntry → Bool) (s : SpellHistory) (spellId : SpellId) :
    SpellHistory :=
  match s.spellCooldowns.lookup spellId with
  | none => s
  | some node => if predicate spellId node.entry then s.eraseCooldown spellId else s

/-! ## 2. The operations -/

def addCooldown (s : SpellHistory) (spellId : SpellId) (itemId : ℕ) (cooldownEnd : TimePoint)
    (categoryId : CategoryId) (categoryEnd : TimePoint) (onHold : Bool) : SpellHistory :=
  s.store ⟨spellId, cooldownEnd, itemId, categoryId, categoryEnd, onHold⟩

def resetCooldowns (predicate : SpellId → CooldownEntry → Bool) (s : SpellHistory) :
    SpellHistory :=
  s.spellCooldowns.keys.foldl (eraseIf predicate) s

def resetCooldown (s : SpellHistory) (spellId : SpellId) : SpellHistory := s.eraseCooldown spellId

def resetAllCooldowns (s : SpellHistory) : SpellHistory :=
  { s with categoryCooldowns := ∅, spellCooldowns := ∅ }

def modifyCooldown (now : TimePoint) (s : SpellHistory) (spellId : SpellId)
    (cooldownModMs : ℤ) : SpellHistory :=
  match s.spellCooldowns.lookup spellId with
  | none => s
  | some node =>
    if cooldownModMs = 0 then s
    else
      let offset := milliseconds cooldownModMs
      if node.entry.CooldownEnd + offset > now then
        (s.assign spellId
          { node.entry with CooldownEnd := node.entry.CooldownEnd + offset }).1
      else s.eraseCooldown spellId

/-- The first loop of `Update` for one category. -/
def expireCategory (now : TimePoint) (s : SpellHistory) (categoryId : CategoryId) :
    Except Fault SpellHistory :=
  match s.categoryCooldowns.lookup categoryId with
  | none => .ok s
  | some ptr => do
    let entry ← s.deref ptr
    if entry.CategoryEnd < now then
      .ok { s with categoryCooldowns := s.categoryCooldowns.erase categoryId }
    else .ok s

def update (now : TimePoint) (s : SpellHistory) : Except Fault SpellHistory := do
  let s ← s.categoryCooldowns.keys.foldlM (expireCategory now) s
  .ok (s.spellCooldowns.keys.foldl (eraseIf fun _ entry => entry.CooldownEnd < now) s)

/-- `GetCooldownDurations`: the cooldown, the category, and the category's cooldown. -/
def getCooldownDurations (env : SpellEnv) (spellInfo : SpellInfo) (itemId : ℕ) :
    ℤ × CategoryId × ℤ :=
  let item :=
    if itemId ≠ 0 then
      (env.getItemTemplate itemId).bind fun spells =>
        spells.find? fun spell => decide (spell.SpellId = spellInfo.Id)
    else none
  let ofInfo :=
    ((spellInfo.RecoveryTime : ℤ), spellInfo.Category, (spellInfo.CategoryRecoveryTime : ℤ))
  match item with
  | none => ofInfo
  | some spell =>
    if spell.SpellCooldown < 0 ∧ spell.SpellCategoryCooldown < 0 then ofInfo
    else (spell.SpellCooldown, spell.SpellCategory, spell.SpellCategoryCooldown)

def hasCooldown (env : SpellEnv) (s : SpellHistory) (spellInfo : SpellInfo) (itemId : ℕ)
    (ignoreCategoryCooldown : Bool) : Bool :=
  if (s.spellCooldowns.lookup spellInfo.Id).isSome then true
  else if ignoreCategoryCooldown then false
  else
    let category := (getCooldownDurations env spellInfo itemId).2.1
    if category = 0 then false else (s.categoryCooldowns.lookup category).isSome

/-- `GetRemainingCooldown`: a number of milliseconds, as a `uint32`. -/
def getRemainingCooldown (now : TimePoint) (s : SpellHistory) (spellInfo : SpellInfo) :
    Except Fault ℕ :=
  let remaining := fun till : TimePoint =>
    if till < now then 0 else ((till - now) / 1000000).toNat % 2 ^ 32
  match s.spellCooldowns.lookup spellInfo.Id with
  | some node => .ok (remaining node.entry.CooldownEnd)
  | none =>
    match s.categoryCooldowns.lookup spellInfo.Category with
    | none => .ok 0
    | some ptr => do
      let entry ← s.deref ptr
      .ok (remaining entry.CategoryEnd)

/-- Whether `LockSpellSchool` gives a known spell a cooldown. -/
def locks (now : TimePoint) (s : SpellHistory) (schoolMask lockoutTime : ℕ)
    (spellInfo : SpellInfo) : Except Fault Bool :=
  if spellInfo.isCooldownStartedOnEvent then .ok false
  else if !spellInfo.preventedBySilence then .ok false
  else if schoolMask &&& spellInfo.SchoolMask = 0 then .ok false
  else do
    let remaining ← s.getRemainingCooldown now spellInfo
    .ok (remaining < lockoutTime)

def lockSpell (now : TimePoint) (schoolMask lockoutTime : ℕ) (s : SpellHistory)
    (spellInfo : SpellInfo) : Except Fault SpellHistory := do
  let locked ← s.locks now schoolMask lockoutTime spellInfo
  if locked then
    .ok (s.addCooldown spellInfo.Id 0 (now + milliseconds lockoutTime) 0 now false)
  else .ok s

/-- `LockSpellSchool`; `knownSpells` are the spells of the `std::set`, in order. -/
def lockSpellSchool (now : TimePoint) (schoolMask lockoutTime : ℕ)
    (knownSpells : List SpellInfo) (s : SpellHistory) : Except Fault SpellHistory :=
  knownSpells.foldlM (lockSpell now schoolMask lockoutTime)
    { s with
      schoolLockouts := fun i =>
        if schoolMask.testBit i then now + milliseconds lockoutTime else s.schoolLockouts i }

inductive OwnerType
  | Player
  | Pet
deriving DecidableEq

/-- A row of the table of cooldowns; the one of the pets has no item. -/
structure CooldownRow where
  spell : SpellId
  item : ℕ
  time : ℕ
  categoryId : CategoryId
  categoryEnd : ℕ
deriving DecidableEq

def readCooldown (env : SpellEnv) (owner : OwnerType) (row : CooldownRow) :
    Option CooldownEntry :=
  if (env.getSpellInfo row.spell).isSome then
    some
      { SpellId := row.spell
        CooldownEnd := fromTimeT row.time
        ItemId := if owner = .Player then row.item else 0
        CategoryId := row.categoryId
        CategoryEnd := fromTimeT row.categoryEnd }
  else none

def loadFromDB (env : SpellEnv) (owner : OwnerType) (rows : List CooldownRow) (s : SpellHistory) :
    SpellHistory :=
  (rows.filterMap (readCooldown env owner)).foldl store s

def saveCooldownStateBeforeDuel (s : SpellHistory) : SpellHistory :=
  { s with
    spellCooldownsBeforeDuel :=
      s.spellCooldowns.foldl (fun before spellId node => before.insert spellId node.entry) ∅ }

/-- "add all profession CDs created while in duel": cooldowns over ten minutes. -/
def isProfession (spellInfo : SpellInfo) : Bool :=
  decide (spellInfo.RecoveryTime > 600000) || decide (spellInfo.CategoryRecoveryTime > 600000)

/-- The first loop of `RestoreCooldownStateAfterDuel` for one spell. -/
def keepProfession (env : SpellEnv) (s : SpellHistory) (spellId : SpellId) :
    Except Fault SpellHistory :=
  match env.getSpellInfo spellId, s.spellCooldowns.lookup spellId with
  | none, _ => .error .assertSpellInfo
  | some _, none => .ok s
  | some spellInfo, some node =>
    if isProfession spellInfo then
      .ok { s with
        spellCooldownsBeforeDuel := s.spellCooldownsBeforeDuel.insert spellId node.entry }
    else .ok s

/-- The second loop for one spell: the index operator makes an entry where there is none. -/
def restoreSpell (s : SpellHistory) (spellId : SpellId) : SpellHistory :=
  match s.spellCooldownsBeforeDuel.lookup spellId with
  | none => s
  | some before =>
    let onHold := ((s.spellCooldowns.lookup spellId).map fun node => node.entry.OnHold).getD false
    if !before.OnHold && !onHold then (s.assign spellId before).1 else s

def restoreCooldownStateAfterDuel (env : SpellEnv) (s : SpellHistory) :
    Except Fault SpellHistory := do
  let s ← s.spellCooldowns.keys.foldlM (keepProfession env) s
  .ok (s.spellCooldownsBeforeDuel.keys.foldl restoreSpell s)

end SpellHistory

end FunPvp.Spells
