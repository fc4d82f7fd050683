/-
# The calendar

`CalendarMgr` keeps the events and the invites of the calendar, and two pools of recycled ids. An
id goes back to its pool when the object that carries it is destroyed: `~CalendarInvite` calls
`FreeInviteId`, `~CalendarEvent` calls `FreeEventId`. Two handlers build an invite on the stack, one
with id 0 and one with an id from the packet, and these are destroyed as well.

Ids are natural numbers below `2 ^ 64`; what the tables and the packets hold is `uint64`. Of an
event and of an invite the model has what the handlers read.
-/
import FunPvp.Lib.IdPool
import FunPvp.Groups.Group

namespace FunPvp.Calendar

open FunPvp.Lib
open FunPvp.Groups (ObjectGuid)

/-! ## 1. Events, invites and the two pools -/

structure CalendarEvent where
  eventId : ℕ
  creatorGUID : ObjectGuid
  guildId : UInt32
  flags : UInt32
deriving DecidableEq

def CalendarEvent.isGuildEvent (e : CalendarEvent) : Bool := e.flags &&& 0x400 != 0

/-- `CALENDAR_FLAG_WITHOUT_INVITES`. -/
def CalendarEvent.isGuildAnnouncement (e : CalendarEvent) : Bool := e.flags &&& 0x040 != 0

structure CalendarInvite where
  inviteId : ℕ
  eventId : ℕ
  invitee : ObjectGuid
  senderGUID : ObjectGuid
deriving DecidableEq

/-- `CalendarMgr`. `_invites` maps an event id to a vector of invites, which all carry that id; here
the vectors are one list. -/
structure CalendarMgr where
  events : List CalendarEvent
  invites : List CalendarInvite
  eventIds : IdPool
  inviteIds : IdPool
deriving DecidableEq

namespace CalendarMgr

def getFreeEventId (m : CalendarMgr) : ℕ × CalendarMgr :=
  ((m.eventIds.take (2 ^ 64)).1, { m with eventIds := (m.eventIds.take (2 ^ 64)).2 })

def freeEventId (m : CalendarMgr) (id : ℕ) : CalendarMgr :=
  { m with eventIds := m.eventIds.release (2 ^ 64) id }

def getFreeInviteId (m : CalendarMgr) : ℕ × CalendarMgr :=
  ((m.inviteIds.take (2 ^ 64)).1, { m with inviteIds := (m.inviteIds.take (2 ^ 64)).2 })

def freeInviteId (m : CalendarMgr) (id : ℕ) : CalendarMgr :=
  { m with inviteIds := m.inviteIds.release (2 ^ 64) id }

def getEvent (m : CalendarMgr) (eventId : ℕ) : Option CalendarEvent :=
  m.events.find? fun e => e.eventId = eventId

def getEventInvites (m : CalendarMgr) (eventId : ℕ) : List CalendarInvite :=
  m.invites.filter fun i => i.eventId = eventId

def addEvent (m : CalendarMgr) (calendarEvent : CalendarEvent) : CalendarMgr :=
  { m with events := m.events ++ [calendarEvent] }

def addInvite (m : CalendarMgr) (calendarEvent : CalendarEvent) (invite : CalendarInvite) :
    CalendarMgr :=
  if calendarEvent.isGuildAnnouncement then m else { m with invites := m.invites ++ [invite] }

/-- `new CalendarInvite(GetFreeInviteId(), …)`, and `AddInvite` with it. -/
def inviteTo (m : CalendarMgr) (calendarEvent : CalendarEvent) (invitee senderGUID : ObjectGuid) :
    CalendarMgr :=
  m.getFreeInviteId.2.addInvite calendarEvent
    ⟨m.getFreeInviteId.1, calendarEvent.eventId, invitee, senderGUID⟩

/-- A loop of invites to one event, given by their invitees and senders. -/
def inviteAll (m : CalendarMgr) (calendarEvent : CalendarEvent)
    (invites : List (ObjectGuid × ObjectGuid)) : CalendarMgr :=
  invites.foldl (fun m i => m.inviteTo calendarEvent i.1 i.2) m

/-- `RemoveEvent`: every invite of the event is destroyed, and then the event. -/
def removeEvent (m : CalendarMgr) (eventId : ℕ) : CalendarMgr :=
  match m.getEvent eventId with
  | none => m
  | some _ =>
    let freed := (m.getEventInvites eventId).foldl (fun m i => m.freeInviteId i.inviteId) m
    { freed.freeEventId eventId with
      invites := m.invites.filter fun i => ¬ i.eventId = eventId
      events := m.events.eraseP fun e => e.eventId = eventId }

def removeInvite (m : CalendarMgr) (inviteId eventId : ℕ) : CalendarMgr :=
  match m.getEvent eventId with
  | none => m
  | some _ =>
    let isInvite := fun i : CalendarInvite => i.eventId = eventId ∧ i.inviteId = inviteId
    match m.invites.find? (isInvite ·) with
    | none => m
    | some invite =>
      { m.freeInviteId invite.inviteId with invites := m.invites.eraseP (isInvite ·) }

/-- A row of `calendar_events`, with the guild that `LoadFromDB` looks up for its creator. -/
structure EventRow where
  id : UInt64
  creator : ObjectGuid
  guildId : UInt32
  flags : UInt32

structure InviteRow where
  id : UInt64
  event : UInt64
  invitee : ObjectGuid
  sender : ObjectGuid

/-- `LoadFromDB`: the maximum of the ids is the highest one, and the ids below it that no row has
are free. -/
def loadFromDB (events : List EventRow) (invites : List InviteRow) : CalendarMgr where
  events := events.map fun r =>
    ⟨r.id.toNat, r.creator, if r.flags &&& 0x400 != 0 || r.flags &&& 0x040 != 0 then r.guildId else 0,
      r.flags⟩
  invites := invites.map fun r => ⟨r.id.toNat, r.event.toNat, r.invitee, r.sender⟩
  eventIds := .ofList (events.map (·.id.toNat))
  inviteIds := .ofList (invites.map (·.id.toNat))

/-! ## 2. The handlers -/

/-- What the handlers read of the player that sent the packet, and of an invitee. -/
structure Player where
  guid : ObjectGuid
  guildId : UInt32

/-- `HandleCalendarAddEvent`. `invitees` is `none` when the packet ends before its invites do; the
exception is thrown once the event is deleted. -/
def handleCalendarAddEvent (m : CalendarMgr) (player : Player) (inPast : Bool) (flags : UInt32)
    (invitees : Option (List ObjectGuid)) : CalendarMgr :=
  if inPast then m
  else
    let created := m.getFreeEventId
    let plain : CalendarEvent := ⟨created.1, player.guid, 0, flags⟩
    let calendarEvent : CalendarEvent :=
      if plain.isGuildEvent || plain.isGuildAnnouncement then
        { plain with guildId := player.guildId }
      else plain
    if calendarEvent.isGuildAnnouncement then
      -- the local invite has id 0, and its destructor runs at the end of the block
      ((created.2.addInvite calendarEvent ⟨0, created.1, 0, player.guid⟩).freeInviteId 0).addEvent
        calendarEvent
    else
      match invitees with
      | none => created.2.freeEventId created.1
      | some invitees =>
        (created.2.inviteAll calendarEvent
          ((invitees.take 100).map fun i => (i, player.guid))).addEvent calendarEvent

def handleCalendarUpdateEvent (m : CalendarMgr) (inPast : Bool) (eventId : ℕ) (flags : UInt32) :
    CalendarMgr :=
  if inPast then m
  else
    { m with
      events := m.events.map fun e =>
        if m.getEvent eventId = some e then { e with flags := flags } else e }

def handleCalendarCopyEvent (m : CalendarMgr) (inPast : Bool) (eventId : ℕ) : CalendarMgr :=
  if inPast then m
  else
    match m.getEvent eventId with
    | none => m
    | some oldEvent =>
      let newEvent : CalendarEvent := { oldEvent with eventId := m.getFreeEventId.1 }
      let added := m.getFreeEventId.2.addEvent newEvent
      added.inviteAll newEvent
        ((added.getEventInvites eventId).map fun i => (i.invitee, i.senderGUID))

/-- `HandleCalendarEventInvite`. `invitee` is `none` when the invitee is not found, is of the other
team or ignores the player. -/
def handleCalendarEventInvite (m : CalendarMgr) (player : Player) (eventId inviteId : ℕ)
    (invitee : Option Player) (isPreInvite isGuildEvent : Bool) : CalendarMgr :=
  match invitee with
  | none => m
  | some invitee =>
    if !isPreInvite then
      match m.getEvent eventId with
      | none => m
      | some calendarEvent =>
        if calendarEvent.isGuildEvent && calendarEvent.guildId == invitee.guildId then m
        else m.inviteTo calendarEvent invitee.guid player.guid
    else if isGuildEvent && invitee.guildId == player.guildId then m
    else
      -- the local invite has the id of the packet
      m.freeInviteId inviteId

def handleCalendarEventSignup (m : CalendarMgr) (player : Player) (eventId : ℕ) : CalendarMgr :=
  match m.getEvent eventId with
  | none => m
  | some calendarEvent =>
    if calendarEvent.isGuildEvent && calendarEvent.guildId != player.guildId then m
    else m.inviteTo calendarEvent player.guid player.guid

def handleCalendarEventRemoveInvite (m : CalendarMgr) (invitee : ObjectGuid)
    (inviteId eventId : ℕ) : CalendarMgr :=
  match m.getEvent eventId with
  | none => m
  | some calendarEvent =>
    if calendarEvent.creatorGUID = invitee then m else m.removeInvite inviteId eventId

inductive Request
  | addEvent (player : Player) (inPast : Bool) (flags : UInt32) (invitees : Option (List ObjectGuid))
  | updateEvent (inPast : Bool) (eventId : UInt64) (flags : UInt32)
  | removeEvent (eventId : UInt64)
  | copyEvent (inPast : Bool) (eventId : UInt64)
  | eventInvite (player : Player) (eventId inviteId : UInt64) (invitee : Option Player)
      (isPreInvite isGuildEvent : Bool)
  | eventSignup (player : Player) (eventId : UInt64)
  | eventRemoveInvite (invitee : ObjectGuid) (inviteId eventId : UInt64)

def step (m : CalendarMgr) : Request → CalendarMgr
  | .addEvent player inPast flags invitees =>
    m.handleCalendarAddEvent player inPast flags invitees
  | .updateEvent inPast eventId flags => m.handleCalendarUpdateEvent inPast eventId.toNat flags
  | .removeEvent eventId => m.removeEvent eventId.toNat
  | .copyEvent inPast eventId => m.handleCalendarCopyEvent inPast eventId.toNat
  | .eventInvite player eventId inviteId invitee isPreInvite isGuildEvent =>
    m.handleCalendarEventInvite player eventId.toNat inviteId.toNat invitee isPreInvite isGuildEvent
  | .eventSignup player eventId => m.handleCalendarEventSignup player eventId.toNat
  | .eventRemoveInvite invitee inviteId eventId =>
    m.handleCalendarEventRemoveInvite invitee inviteId.toNat eventId.toNat

end CalendarMgr

end FunPvp.Calendar
