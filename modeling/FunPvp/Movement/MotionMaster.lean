/-
# The motion master of a unit

`MotionMaster` keeps the movement generators of a unit in three slots, and updates the one in the
highest slot that is occupied. A generator is replaced by `Mutate`, and goes with `Clear` or
`MovementExpired`; while the top generator is updating itself these put it on a list of expired
ones, and otherwise delete it at once.

The four hooks of a generator are code of others, and may call the master again. So the master is
a machine with a stack of statements here: a statement takes the place of what is left of a
function after a call of a hook, and of what is left of a loop. A hook that is running is on the
stack too, and what it does next, a call or its return, is an input.
-/
import Mathlib

namespace FunPvp.Movement

/-! ## 1. Generators and slots -/

/-- A movement generator: the one all units share, or one made by `new`. -/
inductive MovementGenerator
  | si_idleMovement
  | made (id : ℕ)
deriving DecidableEq

/-- `isStatic`, of a pointer. -/
def isStatic (mv : Option MovementGenerator) : Bool := decide (mv = some .si_idleMovement)

inductive MovementSlot
  | MOTION_SLOT_IDLE
  | MOTION_SLOT_ACTIVE
  | MOTION_SLOT_CONTROLLED
deriving DecidableEq

def MovementSlot.index : MovementSlot → ℤ
  | .MOTION_SLOT_IDLE => 0
  | .MOTION_SLOT_ACTIVE => 1
  | .MOTION_SLOT_CONTROLLED => 2

/-- The virtual functions of a generator that the master calls. -/
inductive Hook
  | Initialize
  | Update
  | Reset
  | Finalize
deriving DecidableEq

inductive Fault
  | nullDereference
  | assertNotEmpty
  | usedAfterDelete (g : MovementGenerator)
  | updateBeforeInitialize (g : MovementGenerator)
deriving DecidableEq

/-! ## 2. The master -/

/-- `MotionMaster`. The bits of `_cleanFlag` are `update` and `reset`. -/
structure MotionMaster where
  expList : Option (List MovementGenerator) := none
  impl : ℤ → Option MovementGenerator := fun _ => none
  top : ℤ := -1
  needInit : ℤ → Bool := fun _ => true
  update : Bool := false
  reset : Bool := false
  /-- How many generators were made. -/
  created : ℕ := 0
  /-- Whose `Initialize` has returned since they were put in a slot. -/
  initialized : MovementGenerator → Bool := fun _ => false
  finalized : List MovementGenerator := []
  deleted : List MovementGenerator := []

/-- What is left to do of a function that was interrupted. -/
inductive Statement
  /-- A hook, which is running. -/
  | running (g : MovementGenerator) (k : Hook)
  /-- `DirectDelete`. -/
  | directDelete (curr : MovementGenerator)
  /-- `delete curr`, in `DirectDelete`. -/
  | deletes (curr : MovementGenerator)
  /-- `Mutate`, from `Impl[slot] = m` on. -/
  | store (m : MovementGenerator) (slot : MovementSlot)
  /-- The second line of `InitTop`. -/
  | markTop
  /-- The loop of `DirectClean`, and what follows it. -/
  | directClean (reset : Bool)
  /-- `DirectExpire`, from its loop on. -/
  | afterExpire (reset : Bool)
  /-- The loop of `Initialize`, and what follows it. -/
  | clearAll
  /-- `UpdateMotion`, after `Update` has returned. -/
  | updated (result : Bool)
  /-- `UpdateMotion`, from `if (_expList)` on. -/
  | expireList
  /-- The loop over the expired generators, and what follows it. -/
  | expireFrom (i : ℕ)
  /-- `_cleanFlag &= ~MMCF_RESET`. -/
  | clearReset
deriving DecidableEq

namespace MotionMaster

def empty (s : MotionMaster) : Bool := decide (s.top < 0)

def size (s : MotionMaster) : ℤ := s.top + 1

def topGenerator (s : MotionMaster) : Option MovementGenerator := s.impl s.top

def needInitTop (s : MotionMaster) : Bool := !s.empty && s.needInit s.top

def setSlot (s : MotionMaster) (slot : ℤ) (m : Option MovementGenerator) : MotionMaster :=
  { s with impl := Function.update s.impl slot m }

def setNeedInit (s : MotionMaster) (slot : ℤ) (b : Bool) : MotionMaster :=
  { s with needInit := Function.update s.needInit slot b }

/-- The first slot that is occupied, from below `n` downwards. -/
def highest (impl : ℤ → Option MovementGenerator) : ℕ → ℤ
  | 0 => -1
  | n + 1 => if (impl n).isSome then n else highest impl n

/-- `while (!empty() && !top()) --_top`. -/
def lowerTop (s : MotionMaster) : MotionMaster :=
  { s with top := highest s.impl s.size.toNat }

def pop (s : MotionMaster) : MotionMaster :=
  if s.empty then s else (s.setSlot s.top none).lowerTop

/-- A hook is called, and `rest` is what the caller does afterwards. -/
def enter (s : MotionMaster) (g : Option MovementGenerator) (k : Hook) (rest : List Statement) :
    Except Fault (MotionMaster × List Statement) :=
  match g with
  | none => .error .nullDereference
  | some g =>
    if g ∈ s.deleted then .error (.usedAfterDelete g)
    else if k = .Update ∧ s.initialized g = false then .error (.updateBeforeInitialize g)
    else if k = .Finalize then
      .ok ({ s with finalized := g :: s.finalized }, .running g k :: rest)
    else .ok (s, .running g k :: rest)

def initTop (s : MotionMaster) (rest : List Statement) :
    Except Fault (MotionMaster × List Statement) :=
  s.enter s.topGenerator .Initialize (.markTop :: rest)

/-- `if (needInitTop()) InitTop(); else if (reset) top()->Reset(_owner)`. -/
def settle (s : MotionMaster) (reset : Bool) (rest : List Statement) :
    Except Fault (MotionMaster × List Statement) :=
  if s.needInitTop then s.initTop rest
  else if reset then s.enter s.topGenerator .Reset rest
  else .ok (s, rest)

def directDelete (s : MotionMaster) (curr : MovementGenerator) :
    Except Fault (MotionMaster × List Statement) :=
  if isStatic (some curr) then .ok (s, [])
  else s.enter (some curr) .Finalize [.deletes curr]

/-- `DelayedDelete`, of a pointer that is not null. -/
def delayedDelete (s : MotionMaster) (curr : MovementGenerator) : MotionMaster :=
  if isStatic (some curr) then s
  else { s with expList := some (s.expList.getD [] ++ [curr]) }

/-- `Mutate`, from `Impl[slot] = m` on. -/
def store (s : MotionMaster) (m : MovementGenerator) (slot : MovementSlot) :
    Except Fault (MotionMaster × List Statement) :=
  let s := { s.setSlot slot.index (some m) with
    initialized := Function.update s.initialized m false }
  if s.top > slot.index then .ok (s.setNeedInit slot.index true, [])
  else (s.setNeedInit slot.index false).enter (some m) .Initialize []

def mutate (s : MotionMaster) (m : MovementGenerator) (slot : MovementSlot) :
    Except Fault (MotionMaster × List Statement) :=
  match s.impl slot.index with
  | some curr =>
    -- "in case a new one is generated in this slot during directdelete"
    let s' := s.setSlot slot.index none
    if s.top = slot.index ∧ s.update = true then (s'.delayedDelete curr).store m slot
    else .ok (s', [.directDelete curr, .store m slot])
  | none =>
    if s.top < slot.index then { s with top := slot.index }.store m slot
    else s.store m slot

/-- `Mutate` of a generator that was just made. -/
def mutateNew (s : MotionMaster) (slot : MovementSlot) :
    Except Fault (MotionMaster × List Statement) :=
  { s with created := s.created + 1 }.mutate (.made s.created) slot

/-- `InitDefault`. `own` says whether the owner is a creature whose movement type has a
generator. -/
def initDefault (s : MotionMaster) (own : Bool) : Except Fault (MotionMaster × List Statement) :=
  if own then s.mutateNew .MOTION_SLOT_IDLE
  else s.mutate .si_idleMovement .MOTION_SLOT_IDLE

def directDeletes (curr : Option MovementGenerator) : List Statement :=
  match curr with
  | some curr => [.directDelete curr]
  | none => []

def directExpire (s : MotionMaster) (reset : Bool) :
    Except Fault (MotionMaster × List Statement) :=
  if s.size > 1 then
    match s.topGenerator with
    | none => .error .nullDereference
    | some curr => .ok (s.pop, [.directDelete curr, .afterExpire reset])
  else .ok (s, [.afterExpire reset])

def delayedExpire (s : MotionMaster) : Except Fault (MotionMaster × List Statement) :=
  if s.size > 1 then
    match s.topGenerator with
    | none => .error .nullDereference
    | some curr => .ok ((s.pop.delayedDelete curr).lowerTop, [])
  else .ok (s.lowerTop, [])

def delayedCleanLoop : ℕ → MotionMaster → MotionMaster
  | 0, s => s
  | n + 1, s =>
    if s.size > 1 then
      match s.topGenerator with
      | some curr => delayedCleanLoop n (s.pop.delayedDelete curr)
      | none => delayedCleanLoop n s.pop
    else s

/-- `DelayedClean`. Every round makes `size()` smaller. -/
def delayedClean (s : MotionMaster) : MotionMaster := delayedCleanLoop s.size.toNat s

def clear (s : MotionMaster) (reset : Bool) : Except Fault (MotionMaster × List Statement) :=
  if s.update then .ok ({ s with reset := reset }.delayedClean, [])
  else .ok (s, [.directClean reset])

def movementExpired (s : MotionMaster) (reset : Bool) :
    Except Fault (MotionMaster × List Statement) :=
  if s.update then { s with reset := reset }.delayedExpire
  else s.directExpire reset

def moveIdle (s : MotionMaster) : Except Fault (MotionMaster × List Statement) :=
  if s.empty || !isStatic s.topGenerator then s.mutate .si_idleMovement .MOTION_SLOT_IDLE
  else .ok (s, [])

/-- `UpdateMotion`. `rooted` says whether the owner is rooted or stunned. -/
def updateMotion (s : MotionMaster) (rooted : Bool) :
    Except Fault (MotionMaster × List Statement) :=
  if rooted then .ok (s, [])
  else if s.empty then .error .assertNotEmpty
  else { s with update := true }.enter s.topGenerator .Update []

/-! ## 3. The machine -/

/-- A statement is executed: what it leaves of the master, and what it leaves to do first. -/
def execute (s : MotionMaster) (own : Bool) :
    Statement → Except Fault (MotionMaster × List Statement)
  | .running g k => .ok (s, [.running g k])
  | .directDelete curr => s.directDelete curr
  | .deletes curr =>
    if curr ∈ s.deleted then .error (.usedAfterDelete curr)
    else .ok ({ s with deleted := curr :: s.deleted }, [])
  | .store m slot => s.store m slot
  | .markTop => .ok (s.setNeedInit s.top false, [])
  | .directClean reset =>
    if s.size > 1 then .ok (s.pop, directDeletes s.topGenerator ++ [.directClean reset])
    else if s.empty then .ok (s, [])
    else s.settle reset []
  | .afterExpire reset =>
    if s.lowerTop.empty then .ok (s.lowerTop, [.clearAll])
    else s.lowerTop.settle reset []
  | .clearAll =>
    if s.empty then s.initDefault own
    else .ok (s.pop, directDeletes s.topGenerator ++ [.clearAll])
  | .updated result =>
    let s := { s with update := false }
    if result then .ok (s, [.expireList])
    else do
      let (s, code) ← s.movementExpired true
      .ok (s, code ++ [.expireList])
  | .expireList =>
    match s.expList with
    | none => .ok (s, [])
    | some _ => .ok (s, [.expireFrom 0])
  | .expireFrom i =>
    match s.expList with
    | none => .error .nullDereference
    | some list =>
      match list[i]? with
      | some mg => .ok (s, [.directDelete mg, .expireFrom (i + 1)])
      | none =>
        let s := { s with expList := none }
        if s.empty then .ok (s, [.clearAll, .clearReset])
        else s.settle s.reset [.clearReset]
  | .clearReset => .ok ({ s with reset := false }, [])

end MotionMaster

/-- The calls of the master, from outside or from a hook. -/
inductive Call
  | mutate (slot : MovementSlot)
  | clear (reset : Bool)
  | movementExpired (reset : Bool)
  | moveIdle
  | updateMotion (rooted : Bool)
deriving DecidableEq

def Call.perform (s : MotionMaster) : Call → Except Fault (MotionMaster × List Statement)
  | .mutate slot => s.mutateNew slot
  | .clear reset => s.clear reset
  | .movementExpired reset => s.movementExpired reset
  | .moveIdle => s.moveIdle
  | .updateMotion rooted => s.updateMotion rooted

/-- The master, and the statements it has still to execute. -/
structure Machine where
  master : MotionMaster
  code : List Statement

/-- What happens next: the master goes on, somebody calls it, or the hook that is running
returns. -/
inductive Input
  | go (own : Bool)
  | call (call : Call)
  | returns (result : Bool)
deriving DecidableEq

def MotionMaster.leave (s : MotionMaster) (g : MovementGenerator) (k : Hook) (result : Bool) :
    MotionMaster × List Statement :=
  match k with
  | .Initialize => ({ s with initialized := Function.update s.initialized g true }, [])
  | .Update => (s, [.updated result])
  | _ => (s, [])

/-- One step. An input that nobody waits for changes nothing. -/
def Machine.step (c : Machine) (input : Input) : Except Fault Machine :=
  match c.code, input with
  | [], .call call => do
    let (s, code) ← call.perform c.master
    .ok ⟨s, code⟩
  | .running g k :: rest, .call call =>
    if g ∈ c.master.deleted then .error (.usedAfterDelete g)
    else do
      let (s, code) ← call.perform c.master
      .ok ⟨s, code ++ .running g k :: rest⟩
  | .running g k :: rest, .returns result =>
    if g ∈ c.master.deleted then .error (.usedAfterDelete g)
    else .ok ⟨(c.master.leave g k result).1, (c.master.leave g k result).2 ++ rest⟩
  | statement :: rest, .go own => do
    let (s, code) ← c.master.execute own statement
    .ok ⟨s, code ++ rest⟩
  | _, _ => .ok c

def step (r : Except Fault Machine) (input : Input) : Except Fault Machine :=
  match r with
  | .ok c => c.step input
  | .error fault => .error fault

/-- The constructor, and the call of `Initialize`. -/
def Machine.initial : Machine := ⟨{}, [.clearAll]⟩

end FunPvp.Movement
