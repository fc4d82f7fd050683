/-
# A creature's threat manager

A creature keeps a `HostileReference` for every unit it hates, in the online list, from which it
picks its victim, or in the offline list of the units it cannot get at now. The current victim is a
pointer to a reference. A reference moves between the lists by an event that it fires itself when
its status changes, and its status is looked at again inside other operations.

Three things end the process, and each is an error here: a pointer to a reference that is gone, the
assertion of `selectNextVictim`, and a chain of owners deeper than the stack. Threat is a `float`,
of which nothing is assumed but that it can be added and compared (`ThreatNumber`). Packets to the
client are left out.
-/
import Mathlib

namespace FunPvp.Combat

/-! ## 1. References -/

/-- The arithmetic on `float` that the threat lists use. -/
class ThreatNumber (F : Type) where
  zero : F
  neg : F → F
  add : F → F → F
  sub : F → F → F
  /-- `c * x` for a constant `c`. -/
  scale : ℚ → F → F
  /-- `CalculatePct`. -/
  calculatePct : F → ℤ → F
  eq : F → F → Bool
  lt : F → F → Bool
  le : F → F → Bool

abbrev Guid := ℕ

abbrev RefId := ℕ

/-- `HostileReference`. `isValid` says that it is linked to its unit; `GetSource()` stays set when
the link is cut. -/
structure HostileReference (F : Type) where
  iThreat : F
  iTempThreatModifier : F
  iUnitGuid : Guid
  iOnline : Bool
  iAccessible : Bool
  isValid : Bool

inductive Fault
  | stackOverflow
  | dangling
  | assertion
  deriving DecidableEq

/-- What the world says about the units while one operation runs; `stack` is how many calls of
`addThreat` can be nested. -/
structure World (F : Type) where
  isPlayer : Guid → Bool
  isGameMaster : Guid → Bool
  isAlive : Guid → Bool
  isInFlight : Guid → Bool
  isInMap : Guid → Bool
  inSamePhase : Guid → Bool
  isInAccessiblePlaceFor : Guid → Bool
  isWithinCombatRange : Guid → Bool
  isWithinMeleeRange : Guid → Bool
  isSecondChoice : Guid → Bool
  canCreatureAttack : Guid → Bool
  getUnit : Guid → Bool
  getCharmerOrOwner : Guid → Option Guid
  getRedirectThreatPercent : Guid → ℕ
  getRedirectThreatTarget : Guid → Option Guid
  /-- `SPELL_ATTR1_NO_THREAT`. -/
  noThreat : ℕ → Bool
  calcThreat : Guid → F → ℕ → Option ℕ → F
  stack : ℕ

def SPELL_SCHOOL_MASK_NORMAL : ℕ := 1

/-- `ThreatRefStatusChangeEvent`, by its type. -/
inductive StatusChange (F : Type)
  | UEV_THREAT_REF_ONLINE_STATUS
  | UEV_THREAT_REF_THREAT_CHANGE (value : F)
  | UEV_THREAT_REF_REMOVE_FROM_LIST
  | UEV_THREAT_REF_ASSECCIBLE_STATUS

/-! ## 2. The manager -/

/-- `ThreatManager`, with the references that are allocated. -/
structure ThreatManager (F : Type) where
  iOwner : Guid
  refs : RefId → Option (HostileReference F)
  nextRef : RefId
  iThreatContainer : List RefId
  iDirty : Bool
  iThreatOfflineContainer : List RefId
  iCurrentVictim : Option RefId

/-- What a piece of code returns, or what ended the process. -/
abbrev Result := Except Fault

namespace ThreatManager

variable {F : Type}

def new (owner : Guid) : ThreatManager F := ⟨owner, fun _ => none, 0, [], false, [], none⟩

def deref (m : ThreatManager F) (p : RefId) : Result (HostileReference F) :=
  match m.refs p with
  | some ref => .ok ref
  | none => .error .dangling

def setRef (m : ThreatManager F) (p : RefId) (ref : HostileReference F) : ThreatManager F :=
  { m with refs := Function.update m.refs p (some ref) }

/-- `delete`. -/
def free (m : ThreatManager F) (p : RefId) : ThreatManager F :=
  { m with refs := Function.update m.refs p none }

def setDirty (m : ThreatManager F) (isDirty : Bool) : ThreatManager F :=
  { m with iDirty := isDirty }

def setCurrentVictim (m : ThreatManager F) (ref : Option RefId) : ThreatManager F :=
  { m with iCurrentVictim := ref }

def removeOnline (m : ThreatManager F) (p : RefId) : ThreatManager F :=
  { m with iThreatContainer := m.iThreatContainer.filter (· ≠ p) }

def removeOffline (m : ThreatManager F) (p : RefId) : ThreatManager F :=
  { m with iThreatOfflineContainer := m.iThreatOfflineContainer.filter (· ≠ p) }

/-- `ThreatContainer::addReference` on the online list. -/
def addOnline (m : ThreatManager F) (p : RefId) : ThreatManager F :=
  { m with iThreatContainer := m.iThreatContainer ++ [p] }

/-- `ThreatContainer::addReference` on the offline list. -/
def addOffline (m : ThreatManager F) (p : RefId) : ThreatManager F :=
  { m with iThreatOfflineContainer := m.iThreatOfflineContainer ++ [p] }

/-- What the manager does when a reference that may be the victim goes away. -/
def dropVictim (m : ThreatManager F) (p : RefId) : ThreatManager F :=
  if m.iCurrentVictim = some p then (m.setCurrentVictim none).setDirty true else m

def getReferenceByTarget (m : ThreatManager F) (victim : Guid) :
    List RefId → Result (Option RefId)
  | [] => .ok none
  | p :: rest => do
    let ref ← m.deref p
    if ref.iUnitGuid = victim then .ok (some p) else m.getReferenceByTarget victim rest

variable [ThreatNumber F]

open ThreatNumber

def processThreatEvent (m : ThreatManager F) (event : StatusChange F) (hostilRef : RefId) :
    Result (ThreatManager F) :=
  match event with
  | .UEV_THREAT_REF_THREAT_CHANGE value =>
    if (m.iCurrentVictim = some hostilRef ∧ lt value zero) ∨
        (m.iCurrentVictim ≠ some hostilRef ∧ lt zero value) then .ok (m.setDirty true)
    else .ok m
  | .UEV_THREAT_REF_ONLINE_STATUS => do
    let ref ← m.deref hostilRef
    if ref.iOnline then
      match m.iCurrentVictim with
      | some victim =>
        let victim ← m.deref victim
        let m := if lt (scale (11 / 10) victim.iThreat) ref.iThreat then m.setDirty true else m
        .ok ((m.addOnline hostilRef).removeOffline hostilRef)
      | none => .ok ((m.addOnline hostilRef).removeOffline hostilRef)
    else .ok (((m.dropVictim hostilRef).removeOnline hostilRef).addOffline hostilRef)
  | .UEV_THREAT_REF_REMOVE_FROM_LIST => do
    let ref ← m.deref hostilRef
    let m := m.dropVictim hostilRef
    .ok (if ref.iOnline then m.removeOnline hostilRef else m.removeOffline hostilRef)
  | .UEV_THREAT_REF_ASSECCIBLE_STATUS => .ok m

/-! ## 3. What a reference does -/

def setAccessibleState (m : ThreatManager F) (p : RefId) (isAccessible : Bool) :
    Result (ThreatManager F) := do
  let ref ← m.deref p
  if ref.iAccessible ≠ isAccessible then
    (m.setRef p { ref with iAccessible := isAccessible }).processThreatEvent
      .UEV_THREAT_REF_ASSECCIBLE_STATUS p
  else .ok m

def setOnlineOfflineState (m : ThreatManager F) (p : RefId) (isOnline : Bool) :
    Result (ThreatManager F) := do
  let ref ← m.deref p
  if ref.iOnline ≠ isOnline then
    let m := m.setRef p { ref with iOnline := isOnline }
    let m ← (if isOnline then .ok m else m.setAccessibleState p false)
    m.processThreatEvent .UEV_THREAT_REF_ONLINE_STATUS p
  else .ok m

def updateOnlineStatus (w : World F) (m : ThreatManager F) (p : RefId) :
    Result (ThreatManager F) := do
  let ref ← m.deref p
  let unit := ref.iUnitGuid
  let ref := if ¬ ref.isValid ∧ w.getUnit unit then { ref with isValid := true } else ref
  let m := m.setRef p ref
  let reachable := ref.isValid && (!w.isPlayer unit || !w.isGameMaster unit) &&
    !w.isInFlight unit && w.isInMap unit && w.inSamePhase unit
  let accessible := reachable && w.isInAccessiblePlaceFor unit
  let online := reachable && (w.isInAccessiblePlaceFor unit || w.isWithinCombatRange unit)
  let m ← m.setAccessibleState p accessible
  m.setOnlineOfflineState p online

/-- `HostileReference::addThreat`; `addOwner` is the call `GetSource()->addThreat(victimOwner,
0.0f)`. -/
def refAddThreat (w : World F) (addOwner : ThreatManager F → Guid → Result (ThreatManager F))
    (m : ThreatManager F) (p : RefId) (modThreat : F) : Result (ThreatManager F) := do
  let ref ← m.deref p
  let m := m.setRef p { ref with iThreat := add ref.iThreat modThreat }
  -- if the link was cut before relink it again
  let m ← (if ref.iOnline then .ok m else m.updateOnlineStatus w p)
  let m ← (if eq modThreat zero then .ok m
    else m.processThreatEvent (.UEV_THREAT_REF_THREAT_CHANGE modThreat) p)
  let ref ← m.deref p
  if ref.isValid ∧ le zero modThreat then
    match w.getCharmerOrOwner ref.iUnitGuid with
    | some victimOwner => if w.isAlive victimOwner then addOwner m victimOwner else .ok m
    | none => .ok m
  else .ok m

/-! ## 4. Adding threat -/

/-- The rest of `_addThreat` on a reference just made. -/
def newReference (w : World F) (addOwner : ThreatManager F → Guid → Result (ThreatManager F))
    (m : ThreatManager F) (victim : Guid) (threat : F) : Result (ThreatManager F) := do
  let isFirst := m.iThreatContainer.isEmpty
  let p := m.nextRef
  let m := { m.setRef p ⟨zero, zero, victim, true, true, true⟩ with nextRef := p + 1 }
  let m ← (m.addOnline p).refAddThreat w addOwner p threat
  if w.isPlayer victim ∧ w.isGameMaster victim then m.setOnlineOfflineState p false
  else .ok (if isFirst then m.setCurrentVictim (some p) else m)

def addThreatTo (w : World F) (addOwner : ThreatManager F → Guid → Result (ThreatManager F))
    (m : ThreatManager F) (victim : Guid) (threat : F) : Result (ThreatManager F) := do
  match ← m.getReferenceByTarget victim m.iThreatContainer with
  | some p => m.refAddThreat w addOwner p threat
  | none =>
    match ← m.getReferenceByTarget victim m.iThreatOfflineContainer with
    | some p => m.refAddThreat w addOwner p threat
    | none => m.newReference w addOwner victim threat

def doAddThreatWith (w : World F) (addOwner : ThreatManager F → Guid → Result (ThreatManager F))
    (m : ThreatManager F) (victim : Guid) (threat : F) : Result (ThreatManager F) :=
  let redirectThreadPct := w.getRedirectThreatPercent victim
  -- must check > 0.0f, otherwise dead loop
  if lt zero threat ∧ redirectThreadPct ≠ 0 then
    match w.getRedirectThreatTarget victim with
    | some redirectTarget => do
      let redirectThreat := calculatePct threat redirectThreadPct
      let m ← m.addThreatTo w addOwner redirectTarget redirectThreat
      m.addThreatTo w addOwner victim (sub threat redirectThreat)
    | none => m.addThreatTo w addOwner victim threat
  else m.addThreatTo w addOwner victim threat

/-- `ThreatCalcHelper::isValidProcess`, for a creature that hates. -/
def isValidProcess (w : World F) (m : ThreatManager F) (hatedUnit : Guid)
    (threatSpell : Option ℕ) : Bool :=
  hatedUnit ≠ m.iOwner && !(w.isPlayer hatedUnit && w.isGameMaster hatedUnit) &&
    w.isAlive hatedUnit && w.isAlive m.iOwner && w.isInMap hatedUnit && w.inSamePhase hatedUnit &&
    !threatSpell.any w.noThreat

def addThreatWith (w : World F) (addOwner : ThreatManager F → Guid → Result (ThreatManager F))
    (m : ThreatManager F) (victim : Guid) (threat : F) (schoolMask : ℕ)
    (threatSpell : Option ℕ) : Result (ThreatManager F) :=
  if m.isValidProcess w victim threatSpell then
    m.doAddThreatWith w addOwner victim (w.calcThreat victim threat schoolMask threatSpell)
  else .ok m

/-- The nested call `addThreat(victimOwner, 0.0f)`, with `depth` calls left on the stack. -/
def addOwner (w : World F) : ℕ → ThreatManager F → Guid → Result (ThreatManager F)
  | 0, _, _ => .error .stackOverflow
  | depth + 1, m, victimOwner =>
    m.addThreatWith w (addOwner w depth) victimOwner zero SPELL_SCHOOL_MASK_NORMAL none

def doAddThreat (w : World F) (m : ThreatManager F) (victim : Guid) (threat : F) :
    Result (ThreatManager F) :=
  m.doAddThreatWith w (addOwner w w.stack) victim threat

/-- `addThreat`, as it is called from outside. -/
def addThreat (w : World F) (m : ThreatManager F) (victim : Guid) (threat : F) (schoolMask : ℕ)
    (threatSpell : Option ℕ) : Result (ThreatManager F) :=
  m.addThreatWith w (addOwner w w.stack) victim threat schoolMask threatSpell

/-- `HostileReference::addThreat`, as it is called from outside. -/
def addThreatRef (w : World F) (m : ThreatManager F) (p : RefId) (modThreat : F) :
    Result (ThreatManager F) :=
  m.refAddThreat w (addOwner w w.stack) p modThreat

/-! ## 5. Percentages and taunts -/

def addThreatPercentRef (w : World F) (m : ThreatManager F) (percent : ℤ) (p : RefId) :
    Result (ThreatManager F) := do
  let ref ← m.deref p
  let tmpThreat := add ref.iThreat (calculatePct ref.iThreat percent)
  m.addThreatRef w p (sub tmpThreat ref.iThreat)

def addTempThreatRef (w : World F) (m : ThreatManager F) (threat : F) (p : RefId) :
    Result (ThreatManager F) := do
  let ref ← m.deref p
  let m := m.setRef p { ref with iTempThreatModifier := threat }
  if eq threat zero then .ok m else m.addThreatRef w p threat

def resetTempThreatRef (w : World F) (m : ThreatManager F) (p : RefId) :
    Result (ThreatManager F) := do
  let ref ← m.deref p
  if eq ref.iTempThreatModifier zero then .ok m
  else
    let m ← m.addThreatRef w p (neg ref.iTempThreatModifier)
    let ref ← m.deref p
    .ok (m.setRef p { ref with iTempThreatModifier := zero })

def modifyThreatPercent (w : World F) (m : ThreatManager F) (victim : Guid) (percent : ℤ) :
    Result (ThreatManager F) := do
  match ← m.getReferenceByTarget victim m.iThreatContainer with
  | some p => m.addThreatPercentRef w percent p
  | none => .ok m

def tauntApply (w : World F) (m : ThreatManager F) (taunter : Guid) : Result (ThreatManager F) := do
  match m.iCurrentVictim, ← m.getReferenceByTarget taunter m.iThreatContainer with
  | some victim, some p =>
    let ref ← m.deref p
    let victim ← m.deref victim
    -- temp threat is unused
    if lt ref.iThreat victim.iThreat ∧ eq ref.iTempThreatModifier zero then
      m.addTempThreatRef w (sub victim.iThreat ref.iThreat) p
    else .ok m
  | _, _ => .ok m

def tauntFadeOut (w : World F) (m : ThreatManager F) (taunter : Guid) :
    Result (ThreatManager F) := do
  match ← m.getReferenceByTarget taunter m.iThreatContainer with
  | some p => m.resetTempThreatRef w p
  | none => .ok m

def getThreat (m : ThreatManager F) (victim : Guid) : Result F := do
  match ← m.getReferenceByTarget victim m.iThreatContainer with
  | some p =>
    let ref ← m.deref p
    .ok ref.iThreat
  | none => .ok zero

/-- What `Spell::EffectTaunt` does to the threat of its target. -/
def effectTaunt (w : World F) (m : ThreatManager F) (caster : Guid) : Result (ThreatManager F) :=
  match m.iThreatContainer with
  | [] => .ok m
  | mostHated :: _ => do
    let myThreat ← m.getThreat caster
    let top ← m.deref mostHated
    let m ← (if lt myThreat top.iThreat then m.doAddThreat w caster (sub top.iThreat myThreat)
      else .ok m)
    match ← m.getReferenceByTarget caster m.iThreatContainer with
    | some forcedVictim => .ok (m.setCurrentVictim (some forcedVictim))
    | none => .ok m

/-! ## 6. Status changes and removals from outside -/

/-- `HostileReference::removeReference` and the `delete` after it. -/
def removeReference (m : ThreatManager F) (p : RefId) : Result (ThreatManager F) := do
  -- `invalidate`: the link is cut, the source remains
  let m ← m.setOnlineOfflineState p false
  let ref ← m.deref p
  let m := m.setRef p { ref with isValid := false }
  let m ← m.processThreatEvent .UEV_THREAT_REF_REMOVE_FROM_LIST p
  .ok (m.free p)

/-- The references to a unit that its `HostileRefManager` holds of this creature. -/
def linksOf (m : ThreatManager F) (unit : Guid) : List RefId :=
  (List.range m.nextRef).filter fun p =>
    (m.refs p).any fun ref => ref.isValid && ref.iUnitGuid == unit

def clearReferences (m : ThreatManager F) : Result (ThreatManager F) := do
  let drop (m : ThreatManager F) (p : RefId) : Result (ThreatManager F) := do
    let _ ← m.deref p
    .ok (m.free p)
  let m ← m.iThreatContainer.foldlM drop m
  let m := { m with iThreatContainer := [] }
  let m ← m.iThreatOfflineContainer.foldlM drop m
  .ok { m with iThreatOfflineContainer := [], iCurrentVictim := none }

/-! ## 7. Choosing the victim -/

def update (m : ThreatManager F) : Result (ThreatManager F) := do
  if m.iDirty ∧ m.iThreatContainer.length > 1 then
    let _ ← m.iThreatContainer.mapM m.deref
    let threat (p : RefId) : F := (m.refs p).elim zero (·.iThreat)
    .ok { m with
      iThreatContainer :=
        m.iThreatContainer.insertionSort fun a b => ¬ lt (threat a) (threat b) = true
      iDirty := false }
  else .ok { m with iDirty := false }

/-- One pass of the loop in `selectNextVictim`. `restart` is what follows when everyone turned out
to be a second choice. -/
def selectPass (w : World F) (m : ThreatManager F) (noPriorityTargetFound : Bool)
    (restart : Option RefId → Result (Option RefId)) :
    List RefId → Option RefId → Result (Option RefId)
  | [], _ => .ok none
  | currentRef :: rest, currentVictim => do
    let ref ← m.deref currentRef
    if ¬ ref.isValid then .error .assertion
    else
      let target := ref.iUnitGuid
      if ¬ noPriorityTargetFound ∧ w.isSecondChoice target then
        match rest with
        | [] => restart currentVictim
        | _ :: _ =>
          selectPass w m noPriorityTargetFound restart rest
            (if currentVictim = some currentRef then none else currentVictim)
      else if w.canCreatureAttack target then
        match currentVictim with
        | some victim =>
          let victimRef ← m.deref victim
          if victim = currentRef ∨ le ref.iThreat (scale (11 / 10) victimRef.iThreat) then
            -- for second case, if currentvictim is attackable
            if victim ≠ currentRef ∧ w.canCreatureAttack victimRef.iUnitGuid then
              .ok (some victim)
            else .ok (some currentRef)
          else if lt (scale (13 / 10) victimRef.iThreat) ref.iThreat ∨
              (lt (scale (11 / 10) victimRef.iThreat) ref.iThreat ∧
                w.isWithinMeleeRange target) then .ok (some currentRef)
          else selectPass w m noPriorityTargetFound restart rest currentVictim
        | none => .ok (some currentRef)
      else selectPass w m noPriorityTargetFound restart rest currentVictim

def selectNextVictim (w : World F) (m : ThreatManager F) (currentVictim : Option RefId) :
    Result (Option RefId) :=
  m.selectPass w false
    (fun currentVictim => m.selectPass w true (fun _ => .ok none) m.iThreatContainer currentVictim)
    m.iThreatContainer currentVictim

def getHostilTarget (w : World F) (m : ThreatManager F) : Result (ThreatManager F) := do
  let m ← m.update
  let nextVictim ← m.selectNextVictim w m.iCurrentVictim
  .ok (m.setCurrentVictim nextVictim)

end ThreatManager

/-! ## 8. Runs -/

inductive Operation (F : Type)
  | addThreat (victim : Guid) (threat : F) (schoolMask : ℕ) (threatSpell : Option ℕ)
  | doAddThreat (victim : Guid) (threat : F)
  | modifyThreatPercent (victim : Guid) (percent : ℤ)
  | addThreatPercent (unit : Guid) (percent : ℤ)
  | tauntApply (taunter : Guid)
  | tauntFadeOut (taunter : Guid)
  | effectTaunt (caster : Guid)
  | addTempThreat (unit : Guid) (threat : F) (apply : Bool)
  | setOnlineOfflineState (unit : Guid) (isOnline : Bool)
  | updateThreatTables (unit : Guid)
  | deleteReference (unit : Guid)
  | clearReferences
  | getHostilTarget

namespace ThreatManager

variable {F : Type} [ThreatNumber F]

open ThreatNumber

/-- One operation. Those that name a unit's `HostileRefManager` go through its links to this
creature. -/
def run (w : World F) (m : ThreatManager F) : Operation F → Result (ThreatManager F)
  | .addThreat victim threat schoolMask threatSpell =>
    m.addThreat w victim threat schoolMask threatSpell
  | .doAddThreat victim threat => m.doAddThreat w victim threat
  | .modifyThreatPercent victim percent => m.modifyThreatPercent w victim percent
  | .addThreatPercent unit percent =>
    (m.linksOf unit).foldlM (fun m p => m.addThreatPercentRef w percent p) m
  | .tauntApply taunter => m.tauntApply w taunter
  | .tauntFadeOut taunter => m.tauntFadeOut w taunter
  | .effectTaunt caster => m.effectTaunt w caster
  | .addTempThreat unit threat apply =>
    (m.linksOf unit).foldlM (fun m p => do
      if apply then
        let ref ← m.deref p
        if eq ref.iTempThreatModifier zero then m.addTempThreatRef w threat p else .ok m
      else m.resetTempThreatRef w p) m
  | .setOnlineOfflineState unit isOnline =>
    (m.linksOf unit).foldlM (fun m p => m.setOnlineOfflineState p isOnline) m
  | .updateThreatTables unit => (m.linksOf unit).foldlM (fun m p => m.updateOnlineStatus w p) m
  | .deleteReference unit => (m.linksOf unit).foldlM (fun m p => m.removeReference p) m
  | .clearReferences => m.clearReferences
  | .getHostilTarget => m.getHostilTarget w

/-- One operation in the world as it is then; nothing follows the end of the process. -/
def step (r : Result (ThreatManager F)) (e : World F × Operation F) :
    Result (ThreatManager F) :=
  r.bind fun m => m.run e.1 e.2

end ThreatManager

end FunPvp.Combat
