/-
# Vehicles and their passengers

A unit boards a vehicle in two steps: `AddPassenger` chooses a seat and schedules a join event, which
the event queue of the unit executes later, or aborts. The vehicle keeps a list of its join events
that are pending; whoever takes an event off the list has it aborted.

A passenger leaves a vehicle with its control aura: the aura's handler cancels the passenger's
pending events and takes it out of its seat. Here a vehicle has the casters of these auras. A unit
has one vehicle pointer, whatever the number of vehicles, so the state holds all of them.

The list `boarded` is bookkeeping: it says what the executed events found.
-/
import Mathlib

namespace FunPvp.Vehicles

abbrev UnitId := ℕ
abbrev VehicleId := ℕ
abbrev EventId := ℕ

/-- The key of a seat, an `int8`. -/
abbrev SeatId := ℤ

/-! ## 1. Seats -/

structure VehicleSeatEntry where
  m_flags : BitVec 32
  m_flagsB : BitVec 32
deriving DecidableEq

def VEHICLE_SEAT_FLAG_HAS_LOWER_ANIM_FOR_ENTER : BitVec 32 := 0x00000001
def VEHICLE_SEAT_FLAG_HAS_LOWER_ANIM_FOR_RIDE : BitVec 32 := 0x00000002
def VEHICLE_SEAT_FLAG_UNCONTROLLED : BitVec 32 := 0x00002000
def VEHICLE_SEAT_FLAG_UNK18 : BitVec 32 := 0x00020000
def VEHICLE_SEAT_FLAG_CAN_ENTER_OR_EXIT : BitVec 32 := 0x02000000
def VEHICLE_SEAT_FLAG_B_USABLE_FORCED : BitVec 32 := 0x00000002
def VEHICLE_SEAT_FLAG_B_USABLE_FORCED_2 : BitVec 32 := 0x00000040
def VEHICLE_SEAT_FLAG_B_USABLE_FORCED_3 : BitVec 32 := 0x00000100
def VEHICLE_SEAT_FLAG_B_USABLE_FORCED_4 : BitVec 32 := 0x02000000

def VehicleSeatEntry.canEnterOrExit (seat : VehicleSeatEntry) : Bool :=
  seat.m_flags &&& VEHICLE_SEAT_FLAG_CAN_ENTER_OR_EXIT != 0 ||
    seat.m_flags &&& (VEHICLE_SEAT_FLAG_HAS_LOWER_ANIM_FOR_ENTER |||
      VEHICLE_SEAT_FLAG_HAS_LOWER_ANIM_FOR_RIDE) != 0

def VehicleSeatEntry.isUsableByOverride (seat : VehicleSeatEntry) : Bool :=
  seat.m_flags &&& (VEHICLE_SEAT_FLAG_UNCONTROLLED ||| VEHICLE_SEAT_FLAG_UNK18) != 0 ||
    seat.m_flagsB &&& (VEHICLE_SEAT_FLAG_B_USABLE_FORCED |||
      VEHICLE_SEAT_FLAG_B_USABLE_FORCED_2 ||| VEHICLE_SEAT_FLAG_B_USABLE_FORCED_3 |||
      VEHICLE_SEAT_FLAG_B_USABLE_FORCED_4) != 0

/-! ## 2. The state -/

/-- `Vehicle::Status`. -/
inductive Status
  | STATUS_NONE
  | STATUS_INSTALLED
  | STATUS_UNINSTALLING
deriving DecidableEq

/-- `VehicleJoinEvent`. No seat is `Seats.end()`. -/
structure VehicleJoinEvent where
  Target : Option VehicleId
  Passenger : UnitId
  Seat : Option SeatId := none
  to_Abort : Bool := false
deriving DecidableEq

/-- `Vehicle`. `passenger` is the `Passenger.Guid` of each seat. -/
structure Vehicle where
  Seats : List (SeatId × VehicleSeatEntry)
  passenger : SeatId → Option UnitId := fun _ => none
  UsableSeatNum : ℕ
  status : Status := .STATUS_NONE
  pendingJoinEvents : List EventId := []
  /-- Who has cast an aura with `SPELL_AURA_CONTROL_VEHICLE` on the base. -/
  auras : List UnitId := []
  /-- The base has `UNIT_MASK_MINION`. -/
  minion : Bool := false

structure Boarding where
  event : EventId
  /-- The status of its target. -/
  status : Status
  /-- Who was in the seat. -/
  before : Option UnitId
deriving DecidableEq

/-- All vehicles, the vehicle pointers of the units, and the join events in their queues. -/
structure World where
  vehicles : VehicleId → Vehicle
  m_vehicle : UnitId → Option VehicleId := fun _ => none
  events : EventId → Option VehicleJoinEvent := fun _ => none
  next : EventId := 0
  boarded : List Boarding := []

inductive Fault
  | assertTarget
  | assertAura
  | assertUsableSeatNum
  | assertPassengerSeat
  | assertSeatEmpty
  | endOfSeats
  | deadEvent
deriving DecidableEq

/-- The constructor, with the entry of each of the eight seats. `Install` sets the status. -/
def Vehicle.create (m_seatID : Fin 8 → Option VehicleSeatEntry) (minion : Bool) : Vehicle :=
  let seats := (List.finRange 8).filterMap fun i =>
    (m_seatID i).map fun entry => ((i.val : SeatId), entry)
  { Seats := seats
    UsableSeatNum := seats.countP fun seat => seat.2.canEnterOrExit
    minion := minion
    status := .STATUS_INSTALLED }

namespace World

def modify (w : World) (v : VehicleId) (f : Vehicle → Vehicle) : World :=
  { w with vehicles := Function.update w.vehicles v (f (w.vehicles v)) }

/-! ## 3. Pending events -/

/-- A pending event is taken off the list, to be aborted. -/
def cancel (w : World) (v : VehicleId) (id : EventId) (e : VehicleJoinEvent)
    (target : Option VehicleId) : World :=
  { w.modify v fun vehicle =>
      { vehicle with pendingJoinEvents := vehicle.pendingJoinEvents.erase id } with
    events := Function.update w.events id (some { e with to_Abort := true, Target := target }) }

/-- The loop of `RemovePendingEventsForSeat` and `RemovePendingEventsForPassenger`: the events for
which `chosen` holds are cancelled. -/
def removePendingEvents (w : World) (v : VehicleId)
    (chosen : VehicleJoinEvent → Except Fault Bool) : Except Fault World :=
  (w.vehicles v).pendingJoinEvents.foldlM (fun w id =>
    match w.events id with
    | none => .error .deadEvent
    | some e => do
      let b ← chosen e
      if b then .ok (w.cancel v id e e.Target) else .ok w) w

def removePendingEventsForSeat (w : World) (v : VehicleId) (seatId : SeatId) :
    Except Fault World :=
  w.removePendingEvents v fun e =>
    match e.Seat with
    | none => .error .endOfSeats
    | some seat => .ok (decide (seat = seatId))

def removePendingEventsForPassenger (w : World) (v : VehicleId) (passenger : UnitId) :
    Except Fault World :=
  w.removePendingEvents v fun e => .ok (decide (e.Passenger = passenger))

/-! ## 4. Leaving a vehicle -/

def getSeatForPassenger (w : World) (v : VehicleId) (passenger : UnitId) :
    Option (SeatId × VehicleSeatEntry) :=
  (w.vehicles v).Seats.find? fun seat => decide ((w.vehicles v).passenger seat.1 = some passenger)

def removePassenger (w : World) (v : VehicleId) (u : UnitId) : Except Fault World :=
  if w.m_vehicle u ≠ some v then .ok w
  else
    match w.getSeatForPassenger v u with
    | none => .error .assertPassengerSeat
    | some seat =>
      .ok { w.modify v fun vehicle =>
          { vehicle with
            UsableSeatNum :=
              if seat.2.canEnterOrExit then vehicle.UsableSeatNum + 1 else vehicle.UsableSeatNum
            passenger := Function.update vehicle.passenger seat.1 none } with
        m_vehicle := Function.update w.m_vehicle u none }

def leaveVehicle (w : World) (u : UnitId) : Except Fault World :=
  match w.m_vehicle u with
  | none => .ok w
  | some v => w.removePassenger v u

/-- `RemoveAurasByType(SPELL_AURA_CONTROL_VEHICLE, u)` on the base of the vehicle: the auras are
unregistered, and `HandleAuraControlVehicle` is called. -/
def removeControlAuras (w : World) (v : VehicleId) (u : UnitId) : Except Fault World :=
  if u ∈ (w.vehicles v).auras then do
    let w := w.modify v fun vehicle =>
      { vehicle with auras := vehicle.auras.filter fun caster => decide (caster ≠ u) }
    let w ← w.removePendingEventsForPassenger v u
    w.leaveVehicle u
  else .ok w

def exitVehicle (w : World) (u : UnitId) : Except Fault World :=
  match w.m_vehicle u with
  | none => .ok w
  | some v => w.removeControlAuras v u

def removeAllPassengers (w : World) (v : VehicleId) : Except Fault World := do
  let eventVehicle :=
    if (w.vehicles v).status ≠ .STATUS_UNINSTALLING then some v else none
  let w ← (w.vehicles v).pendingJoinEvents.foldlM (fun w id =>
    match w.events id with
    | none => .error .deadEvent
    | some e => .ok (w.cancel v id e eventVehicle)) w
  (w.vehicles v).auras.foldlM (fun w u => w.removeControlAuras v u) w

def uninstall (w : World) (v : VehicleId) : Except Fault World :=
  if (w.vehicles v).status = .STATUS_UNINSTALLING ∧ (w.vehicles v).minion = false then .ok w
  else
    (w.modify v fun vehicle => { vehicle with status := .STATUS_UNINSTALLING }).removeAllPassengers v

/-! ## 5. Boarding a vehicle -/

/-- A join event that was just made, in the queue of its passenger. -/
def schedule (w : World) (e : VehicleJoinEvent) : World :=
  { w with events := Function.update w.events w.next (some e), next := w.next + 1 }

/-- `e->Seat = seat; _pendingJoinEvents.push_back(e)`, of an event that is made for it. -/
def schedulePending (w : World) (v : VehicleId) (u : UnitId) (seat : SeatId) : World :=
  (w.schedule { Target := some v, Passenger := u, Seat := some seat }).modify v fun vehicle =>
    { vehicle with pendingJoinEvents := vehicle.pendingJoinEvents ++ [w.next] }

/-- `e->to_Abort = true`, of an event for which there is no seat. -/
def scheduleAborted (w : World) (v : VehicleId) (u : UnitId) : World :=
  w.schedule { Target := some v, Passenger := u, to_Abort := true }

/-- `AddPassenger`. `arena` says whether the unit is a player in an arena, and `dismiss` whether
the vehicle is uninstalled when the passenger that is kicked off leaves. -/
def addPassenger (w : World) (v : VehicleId) (u : UnitId) (seatId : SeatId)
    (arena dismiss : Bool) : Except Fault World :=
  if arena then .ok w
  else if (w.vehicles v).status = .STATUS_UNINSTALLING then .ok w
  else if seatId < 0 then
    match (w.vehicles v).Seats.find? fun seat => ((w.vehicles v).passenger seat.1).isNone &&
        (seat.2.canEnterOrExit || seat.2.isUsableByOverride) with
    | none => .ok (w.scheduleAborted v u)
    | some seat => .ok (w.schedulePending v u seat.1)
  else
    match (w.vehicles v).Seats.find? fun seat => decide (seat.1 = seatId) with
    | none => .ok (w.scheduleAborted v u)
    | some seat => do
      let w := w.schedulePending v u seat.1
      let w ←
        match (w.vehicles v).passenger seat.1 with
        | none => .ok w
        | some passenger => do
          let w ← w.exitVehicle passenger
          if dismiss then w.uninstall v else .ok w
      if ((w.vehicles v).passenger seat.1).isNone then .ok w else .error .assertSeatEmpty

/-- The control aura is applied, of a unit that is on no vehicle: `_EnterVehicle`. -/
def enterVehicle (w : World) (v : VehicleId) (u : UnitId) (seatId : SeatId)
    (arena dismiss : Bool) : Except Fault World :=
  if w.m_vehicle u ≠ none then .ok w
  else
    (w.modify v fun vehicle => { vehicle with auras := u :: vehicle.auras }).addPassenger v u seatId
      arena dismiss

/-! ## 6. The event queue -/

/-- The passenger takes its seat: the vehicle pointer, the seat and the count of usable seats. -/
def takeSeat (w : World) (id : EventId) (v : VehicleId) (u : UnitId) (seat : SeatId) :
    Except Fault World :=
  match (w.vehicles v).Seats.find? fun s => decide (s.1 = seat) with
  | none => .error .endOfSeats
  | some s =>
    let w' := { w.modify v fun vehicle =>
        { vehicle with passenger := Function.update vehicle.passenger seat (some u) } with
      m_vehicle := Function.update w.m_vehicle u (some v)
      boarded := ⟨id, (w.vehicles v).status, (w.vehicles v).passenger seat⟩ :: w.boarded }
    if s.2.canEnterOrExit then
      if (w.vehicles v).UsableSeatNum = 0 then .error .assertUsableSeatNum
      else .ok (w'.modify v fun vehicle =>
        { vehicle with UsableSeatNum := vehicle.UsableSeatNum - 1 })
    else .ok w'

def execute (w : World) (id : EventId) (e : VehicleJoinEvent) : Except Fault World :=
  match e.Target with
  | none => .error .assertTarget
  | some v =>
    if e.Passenger ∉ (w.vehicles v).auras then .error .assertAura
    else
      match e.Seat with
      | none => .error .endOfSeats
      | some seat => do
        let w ← w.removePendingEventsForSeat v seat
        let w ← w.removePendingEventsForPassenger v e.Passenger
        w.takeSeat id v e.Passenger seat

def abort (w : World) (e : VehicleJoinEvent) : Except Fault World :=
  match e.Target with
  | none => .ok w
  | some v => w.removeControlAuras v e.Passenger

/-- `delete Event`, with `RemovePendingEvent` in the destructor. -/
def deleteEvent (w : World) (id : EventId) : World :=
  match w.events id with
  | none => w
  | some e =>
    let w :=
      match e.Target with
      | none => w
      | some v => w.modify v fun vehicle =>
          { vehicle with pendingJoinEvents := vehicle.pendingJoinEvents.erase id }
    { w with events := Function.update w.events id none }

def updateEvent (w : World) (id : EventId) : Except Fault World :=
  match w.events id with
  | none => .ok w
  | some e => do
    let w ← if e.to_Abort then w.abort e else w.execute id e
    .ok (w.deleteEvent id)

def killEvent (w : World) (id : EventId) : Except Fault World :=
  match w.events id with
  | none => .ok w
  | some e => do
    let w := { w with events := Function.update w.events id (some { e with to_Abort := true }) }
    let w ← w.abort e
    .ok (w.deleteEvent id)

end World

/-! ## 7. Runs -/

inductive Op
  | addPassenger (v : VehicleId) (u : UnitId) (seatId : SeatId) (arena dismiss : Bool)
  | updateEvent (id : EventId)
  | killEvent (id : EventId)
  | removePassenger (v : VehicleId) (u : UnitId)
  | exitVehicle (u : UnitId)
  | removeAllPassengers (v : VehicleId)
  | uninstall (v : VehicleId)
deriving DecidableEq

def Op.perform (w : World) : Op → Except Fault World
  | .addPassenger v u seatId arena dismiss => w.enterVehicle v u seatId arena dismiss
  | .updateEvent id => w.updateEvent id
  | .killEvent id => w.killEvent id
  | .removePassenger v u => w.removePassenger v u
  | .exitVehicle u => w.exitVehicle u
  | .removeAllPassengers v => w.removeAllPassengers v
  | .uninstall v => w.uninstall v

def step (r : Except Fault World) (op : Op) : Except Fault World :=
  match r with
  | .ok w => op.perform w
  | .error fault => .error fault

/-- Vehicles that were just made and installed, by the entries of their seats. -/
def World.installed (seats : VehicleId → Fin 8 → Option VehicleSeatEntry)
    (minion : VehicleId → Bool) : World :=
  { vehicles := fun v => .create (seats v) (minion v) }

end FunPvp.Vehicles
