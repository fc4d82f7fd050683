/-
# No two live events and no two live invites share an id

The pools hand out distinct ids as long as they get back only ids that were handed out and are not
in use any more (`IdPool.Sound`). Of all the places where an invite dies, two do not keep to it:
the local invite of a guild announcement gives back the id 0, and the local invite of a pre-invite
gives back whatever id the client has written into the packet. `announcement_wraps` is a run in which
the first of them makes the highest id wrap, and the next invite is stored under the id 0.

`run_idsUnshared` is the exact rest: in every run in which such an id happens to be spare, and in
which the ids do not run out, nothing is ever shared.
-/
import FunPvp.Lib.Run
import FunPvp.Calendar.CalendarMgr

namespace FunPvp.Calendar

open FunPvp.Lib
open FunPvp.Groups (ObjectGuid)

namespace CalendarMgr

/-! ## 1. What is not shared -/

def liveEventIds (m : CalendarMgr) : List ℕ := m.events.map (·.eventId)

def liveInviteIds (m : CalendarMgr) : List ℕ := m.invites.map (·.inviteId)

/-- Live ids are distinct, 0 is not the id of an invite, and the free ids are neither live nor above
the highest. -/
structure IdsUnshared (m : CalendarMgr) : Prop where
  events_nodup : m.liveEventIds.Nodup
  invites_nodup : m.liveInviteIds.Nodup
  zero_notMem : 0 ∉ m.liveInviteIds
  free_event : ∀ x ∈ m.eventIds.free, x ∉ m.liveEventIds ∧ x ≤ m.eventIds.top
  free_invite : ∀ x ∈ m.inviteIds.free, x ∉ m.liveInviteIds ∧ x ≤ m.inviteIds.top

/-- Both pools are sound for the live ids. -/
structure Sound (m : CalendarMgr) : Prop where
  events : m.eventIds.Sound (2 ^ 64) m.liveEventIds
  invites : m.inviteIds.Sound (2 ^ 64) m.liveInviteIds

theorem Sound.idsUnshared {m : CalendarMgr} (h : m.Sound) : m.IdsUnshared := by
  have hfree : ∀ {live : List ℕ} {p : IdPool}, p.Sound (2 ^ 64) live →
      ∀ x ∈ p.free, x ∉ live ∧ x ≤ p.top := by
    intro live p hp x hx
    refine ⟨fun hlive => ?_, hp.le_top x (List.mem_append_right _ hx)⟩
    exact (List.nodup_append.mp hp.nodup).2.2 x hlive x hx rfl
  refine ⟨h.events.nodup.of_append_left, h.invites.nodup.of_append_left, fun hzero => ?_,
    hfree h.events, hfree h.invites⟩
  exact absurd (h.invites.pos 0 (List.mem_append_left _ hzero)) (lt_irrefl 0)

/-! ## 2. What a request gives back and takes -/

/-- The id of the local invite that a request builds and destroys. -/
def localInvite : Request → Option ℕ
  | .addEvent _ inPast flags _ => if !inPast && flags &&& 0x040 != 0 then some 0 else none
  | .eventInvite player _ inviteId (some invitee) true isGuildEvent =>
    if isGuildEvent && invitee.guildId == player.guildId then none else some inviteId.toNat
  | _ => none

def eventIdsTaken (m : CalendarMgr) : Request → ℕ
  | .addEvent _ inPast _ _ => if inPast then 0 else 1
  | .copyEvent inPast eventId =>
    if inPast || (m.getEvent eventId.toNat).isNone then 0 else 1
  | _ => 0

def inviteIdsTaken (m : CalendarMgr) : Request → ℕ
  | .addEvent _ inPast flags invitees =>
    if inPast || flags &&& 0x040 != 0 then 0 else ((invitees.getD []).take 100).length
  | .copyEvent inPast eventId =>
    if inPast || (m.getEvent eventId.toNat).isNone then 0
    else (m.getEventInvites eventId.toNat).length
  | .eventInvite _ eventId _ (some invitee) false _ =>
    match m.getEvent eventId.toNat with
    | none => 0
    | some e => if e.isGuildEvent && e.guildId == invitee.guildId then 0 else 1
  | .eventSignup player eventId =>
    match m.getEvent eventId.toNat with
    | none => 0
    | some e => if e.isGuildEvent && e.guildId != player.guildId then 0 else 1
  | _ => 0

/-- A request recycles properly: the id of its local invite, if it builds one, has been handed out
and is neither live nor free, and there are enough ids for it. -/
structure Recycles (m : CalendarMgr) (r : Request) : Prop where
  spare : ∀ x ∈ localInvite r, m.inviteIds.Spare m.liveInviteIds x
  room_events : m.eventIds.Room (2 ^ 64) (m.eventIdsTaken r)
  room_invites : m.inviteIds.Room (2 ^ 64) (m.inviteIdsTaken r)

/-! ## 3. Invites -/

variable {m : CalendarMgr} {calendarEvent : CalendarEvent} {n : ℕ}

@[simp] theorem addInvite_events (invite : CalendarInvite) :
    (m.addInvite calendarEvent invite).events = m.events := by
  unfold addInvite
  split <;> rfl

@[simp] theorem addInvite_eventIds (invite : CalendarInvite) :
    (m.addInvite calendarEvent invite).eventIds = m.eventIds := by
  unfold addInvite
  split <;> rfl

@[simp] theorem addInvite_inviteIds (invite : CalendarInvite) :
    (m.addInvite calendarEvent invite).inviteIds = m.inviteIds := by
  unfold addInvite
  split <;> rfl

/-- What the loops of invites leave alone, and what they keep. -/
structure OnlyInvites (m m' : CalendarMgr) : Prop where
  events : m'.events = m.events
  eventIds : m'.eventIds = m.eventIds

theorem OnlyInvites.sound {m' : CalendarMgr} (h : OnlyInvites m m') (hm : m.Sound)
    (hinvites : m'.inviteIds.Sound (2 ^ 64) m'.liveInviteIds) : m'.Sound := by
  refine ⟨?_, hinvites⟩
  simpa [liveEventIds, h.events, h.eventIds] using hm.events

theorem inviteTo_sound (invitee senderGUID : ObjectGuid)
    (h : m.inviteIds.Sound (2 ^ 64) m.liveInviteIds)
    (hroom : m.inviteIds.Room (2 ^ 64) (n + 1)) :
    (m.inviteTo calendarEvent invitee senderGUID).inviteIds.Sound (2 ^ 64)
      (m.inviteTo calendarEvent invitee senderGUID).liveInviteIds := by
  have htaken := h.take hroom
  simp only [inviteTo, addInvite_inviteIds]
  unfold addInvite
  split
  · exact htaken.leak
  · refine htaken.perm ?_
    simpa [liveInviteIds, getFreeInviteId] using (List.perm_append_singleton _ _).symm

theorem onlyInvites_inviteTo (m : CalendarMgr) (calendarEvent : CalendarEvent)
    (invitee senderGUID : ObjectGuid) :
    OnlyInvites m (m.inviteTo calendarEvent invitee senderGUID) := by
  constructor <;> simp [inviteTo, getFreeInviteId]

theorem inviteAll_sound (calendarEvent : CalendarEvent) (invites : List (ObjectGuid × ObjectGuid))
    (h : m.inviteIds.Sound (2 ^ 64) m.liveInviteIds)
    (hroom : m.inviteIds.Room (2 ^ 64) invites.length) :
    (m.inviteAll calendarEvent invites).inviteIds.Sound (2 ^ 64)
        (m.inviteAll calendarEvent invites).liveInviteIds ∧
      OnlyInvites m (m.inviteAll calendarEvent invites) := by
  induction invites generalizing m with
  | nil => exact ⟨h, rfl, rfl⟩
  | cons i invites ih =>
    have hroom' : (m.inviteTo calendarEvent i.1 i.2).inviteIds.Room (2 ^ 64) invites.length := by
      simpa [inviteTo, getFreeInviteId] using hroom.take
    obtain ⟨hsound, hrest⟩ := ih (inviteTo_sound i.1 i.2 h hroom) hroom'
    have hone := onlyInvites_inviteTo m calendarEvent i.1 i.2
    exact ⟨hsound, hrest.events.trans hone.events, hrest.eventIds.trans hone.eventIds⟩

theorem Sound.freeInviteId {x : ℕ} (h : m.Sound)
    (hx : m.inviteIds.Spare m.liveInviteIds x) : (m.freeInviteId x).Sound :=
  ⟨h.events, h.invites.release hx⟩

/-! ## 4. Events -/

theorem foldl_freeInviteId (invites : List CalendarInvite) :
    invites.foldl (fun m i => m.freeInviteId i.inviteId) m =
      { m with inviteIds :=
          (invites.map (·.inviteId)).foldl (IdPool.release (2 ^ 64)) m.inviteIds } := by
  induction invites generalizing m with
  | nil => rfl
  | cons i invites ih => rw [List.foldl_cons, ih]; rfl

theorem perm_cons_eraseP {α : Type*} {p : α → Bool} {a : α} {l : List α}
    (h : l.find? p = some a) : l.Perm (a :: l.eraseP p) := by
  obtain ⟨hp, as, bs, rfl, has⟩ := List.find?_eq_some_iff_append.mp h
  rw [List.eraseP_append_right _ (by simpa using has), List.eraseP_cons_of_pos hp]
  exact List.perm_middle

theorem Sound.removeEvent (h : m.Sound) (eventId : ℕ) : (m.removeEvent eventId).Sound := by
  unfold CalendarMgr.removeEvent
  split
  · exact h
  · next e he =>
    obtain rfl : e.eventId = eventId := by simpa using List.find?_some he
    have hevents := (perm_cons_eraseP he).map (·.eventId)
    have hsplit := (List.filter_append_perm (fun i : CalendarInvite => i.eventId = e.eventId)
      m.invites).symm.map (·.inviteId)
    rw [List.map_append] at hsplit
    have htaken := h.events.perm hevents
    rw [foldl_freeInviteId]
    refine ⟨htaken.leak.release htaken.spare, ?_⟩
    simpa [liveInviteIds, freeEventId, getEventInvites] using (h.invites.perm hsplit).releaseAll

theorem Sound.removeInvite (h : m.Sound) (inviteId eventId : ℕ) :
    (m.removeInvite inviteId eventId).Sound := by
  unfold CalendarMgr.removeInvite
  split
  · exact h
  · dsimp only
    split
    · exact h
    · next i hi =>
      have hids := (perm_cons_eraseP hi).map fun i : CalendarInvite => i.inviteId
      have htaken := h.invites.perm hids
      exact ⟨h.events, htaken.leak.release htaken.spare⟩

theorem Sound.addEvent {m' : CalendarMgr} (h : m.Sound)
    (hroom : m.eventIds.Room (2 ^ 64) (n + 1)) (honly : OnlyInvites m.getFreeEventId.2 m')
    (hinvites : m'.inviteIds.Sound (2 ^ 64) m'.liveInviteIds)
    (hid : calendarEvent.eventId = m.getFreeEventId.1) : (m'.addEvent calendarEvent).Sound := by
  refine ⟨?_, hinvites⟩
  have htaken := h.events.take hroom
  have hids : (m'.addEvent calendarEvent).liveEventIds =
      m.liveEventIds ++ [m.getFreeEventId.1] := by
    simp [liveEventIds, CalendarMgr.addEvent, honly.events, getFreeEventId, hid]
  have hpool : (m'.addEvent calendarEvent).eventIds = m.getFreeEventId.2.eventIds := honly.eventIds
  rw [hids, hpool]
  exact htaken.perm (List.perm_append_singleton _ _).symm

/-! ## 5. Every request that recycles properly keeps the pools sound -/

theorem Sound.handleCalendarAddEvent (h : m.Sound) {player : Player} {inPast : Bool}
    {flags : UInt32} {invitees : Option (List ObjectGuid)}
    (hr : m.Recycles (.addEvent player inPast flags invitees)) :
    (m.handleCalendarAddEvent player inPast flags invitees).Sound := by
  obtain ⟨hspare, hevents, hinvites⟩ := hr
  cases inPast with
  | true => exact h
  | false =>
    have hann : (flags &&& 0x040 != 0) = false := by
      by_contra hflag
      have hzero := (hspare 0 (by simpa [localInvite] using hflag)).1
      exact lt_irrefl 0 hzero
    have hroom : m.inviteIds.Room (2 ^ 64) ((invitees.getD []).take 100).length := by
      simpa [inviteIdsTaken, hann] using hinvites
    simp only [CalendarMgr.handleCalendarAddEvent, Bool.false_eq_true, if_false]
    rw [if_neg (by split <;> simp [CalendarEvent.isGuildAnnouncement, hann])]
    cases invitees with
    | none =>
      have htaken := h.events.take (n := 0) hevents
      exact ⟨htaken.leak.release htaken.spare, h.invites⟩
    | some invitees =>
      obtain ⟨hsound, honly⟩ := inviteAll_sound (m := m.getFreeEventId.2) _
        ((invitees.take 100).map fun i => (i, player.guid)) h.invites (by simpa [getFreeEventId] using hroom)
      exact h.addEvent (n := 0) hevents honly hsound (by split <;> rfl)

theorem Sound.handleCalendarUpdateEvent (h : m.Sound) (inPast : Bool) (eventId : ℕ)
    (flags : UInt32) : (m.handleCalendarUpdateEvent inPast eventId flags).Sound := by
  unfold CalendarMgr.handleCalendarUpdateEvent
  split
  · exact h
  · refine ⟨?_, h.invites⟩
    have hids : ∀ e : CalendarEvent,
        (if m.getEvent eventId = some e then { e with flags := flags } else e).eventId =
          e.eventId := fun e => by split <;> rfl
    simpa [liveEventIds, Function.comp_def, hids] using h.events

theorem Sound.handleCalendarCopyEvent (h : m.Sound) {inPast : Bool} {eventId : UInt64}
    (hr : m.Recycles (.copyEvent inPast eventId)) :
    (m.handleCalendarCopyEvent inPast eventId.toNat).Sound := by
  obtain ⟨-, hevents, hinvites⟩ := hr
  unfold CalendarMgr.handleCalendarCopyEvent
  cases inPast with
  | true => exact h
  | false =>
    simp only [Bool.false_eq_true, if_false]
    cases hold : m.getEvent eventId.toNat with
    | none => exact h
    | some oldEvent =>
      simp only [eventIdsTaken, inviteIdsTaken, hold, Bool.false_or, Option.isNone_some,
        Bool.false_eq_true, if_false] at hevents hinvites
      have hadded : (m.getFreeEventId.2.addEvent
          { oldEvent with eventId := m.getFreeEventId.1 }).Sound :=
        h.addEvent (n := 0) hevents ⟨rfl, rfl⟩ h.invites rfl
      obtain ⟨hsound, honly⟩ := inviteAll_sound { oldEvent with eventId := m.getFreeEventId.1 }
        ((m.getEventInvites eventId.toNat).map fun i => (i.invitee, i.senderGUID))
        hadded.invites (by simpa [getFreeEventId, CalendarMgr.addEvent] using hinvites)
      exact honly.sound hadded hsound

theorem Sound.inviteTo (h : m.Sound) (invitee senderGUID : ObjectGuid)
    (hroom : m.inviteIds.Room (2 ^ 64) 1) :
    (m.inviteTo calendarEvent invitee senderGUID).Sound :=
  (onlyInvites_inviteTo m calendarEvent invitee senderGUID).sound h
    (inviteTo_sound (n := 0) invitee senderGUID h.invites hroom)

theorem Sound.handleCalendarEventInvite (h : m.Sound) {player : Player}
    {eventId inviteId : UInt64} {invitee : Option Player} {isPreInvite isGuildEvent : Bool}
    (hr : m.Recycles (.eventInvite player eventId inviteId invitee isPreInvite isGuildEvent)) :
    (m.handleCalendarEventInvite player eventId.toNat inviteId.toNat invitee isPreInvite
      isGuildEvent).Sound := by
  obtain ⟨hspare, -, hinvites⟩ := hr
  unfold CalendarMgr.handleCalendarEventInvite
  cases invitee with
  | none => exact h
  | some invitee =>
    cases isPreInvite with
    | false =>
      simp only [Bool.not_false, if_true]
      cases hevent : m.getEvent eventId.toNat with
      | none => exact h
      | some calendarEvent =>
        simp only [inviteIdsTaken, hevent] at hinvites
        dsimp only
        split
        · exact h
        · next hguild =>
          rw [if_neg hguild] at hinvites
          exact h.inviteTo _ _ hinvites
    | true =>
      simp only [Bool.not_true, Bool.false_eq_true, if_false]
      split
      · exact h
      · next hguild => exact h.freeInviteId (hspare _ (by simp only [localInvite, if_neg hguild]; rfl))

theorem Sound.handleCalendarEventSignup (h : m.Sound) {player : Player} {eventId : UInt64}
    (hr : m.Recycles (.eventSignup player eventId)) :
    (m.handleCalendarEventSignup player eventId.toNat).Sound := by
  obtain ⟨-, -, hinvites⟩ := hr
  unfold CalendarMgr.handleCalendarEventSignup
  cases hevent : m.getEvent eventId.toNat with
  | none => exact h
  | some calendarEvent =>
    simp only [inviteIdsTaken, hevent] at hinvites
    dsimp only
    split
    · exact h
    · next hguild =>
      rw [if_neg hguild] at hinvites
      exact h.inviteTo _ _ hinvites

theorem Sound.handleCalendarEventRemoveInvite (h : m.Sound) (invitee : ObjectGuid)
    (inviteId eventId : ℕ) : (m.handleCalendarEventRemoveInvite invitee inviteId eventId).Sound := by
  unfold CalendarMgr.handleCalendarEventRemoveInvite
  split
  · exact h
  · split
    · exact h
    · exact h.removeInvite inviteId eventId

theorem Sound.step (h : m.Sound) {r : Request} (hr : m.Recycles r) : (m.step r).Sound := by
  cases r with
  | addEvent player inPast flags invitees => exact h.handleCalendarAddEvent hr
  | updateEvent inPast eventId flags => exact h.handleCalendarUpdateEvent inPast _ flags
  | removeEvent eventId => exact h.removeEvent _
  | copyEvent inPast eventId => exact h.handleCalendarCopyEvent hr
  | eventInvite player eventId inviteId invitee isPreInvite isGuildEvent =>
    exact h.handleCalendarEventInvite hr
  | eventSignup player eventId => exact h.handleCalendarEventSignup hr
  | eventRemoveInvite invitee inviteId eventId =>
    exact h.handleCalendarEventRemoveInvite invitee _ _

/-! ## 6. Runs -/

theorem loadFromDB_sound {events : List EventRow} {invites : List InviteRow}
    (hevents : (events.map (·.id)).Nodup ∧ 0 ∉ events.map (·.id))
    (hinvites : (invites.map (·.id)).Nodup ∧ 0 ∉ invites.map (·.id)) :
    (loadFromDB events invites).Sound := by
  have hids : ∀ ids : List UInt64, ids.Nodup ∧ 0 ∉ ids →
      (IdPool.ofList (ids.map UInt64.toNat)).Sound (2 ^ 64) (ids.map UInt64.toNat) := by
    rintro ids ⟨hnodup, hzero⟩
    refine IdPool.sound_ofList (hnodup.map fun a b => UInt64.toNat_inj.mp) ?_ ?_ (by simp)
    · intro x hx
      obtain ⟨id, hid, rfl⟩ := List.mem_map.mp hx
      refine Nat.pos_of_ne_zero fun h0 => hzero ?_
      rwa [← UInt64.toNat_inj.mp (show id.toNat = (0 : UInt64).toNat by simpa using h0)]
    · intro x hx
      obtain ⟨id, -, rfl⟩ := List.mem_map.mp hx
      exact id.toNat_lt
  have he := hids _ hevents
  have hi := hids _ hinvites
  rw [List.map_map] at he hi
  constructor
  · simpa [loadFromDB, liveEventIds, Function.comp_def] using he
  · simpa [loadFromDB, liveInviteIds, Function.comp_def] using hi

/-- **Ids are never shared as long as no local invite gives back an id that is not spare.**  From
tables with distinct and positive ids, in every run of requests that recycle properly. -/
theorem run_idsUnshared (events : List EventRow) (invites : List InviteRow)
    (hevents : (events.map (·.id)).Nodup ∧ 0 ∉ events.map (·.id))
    (hinvites : (invites.map (·.id)).Nodup ∧ 0 ∉ invites.map (·.id)) (reqs : List Request)
    (hreqs : Steps step Recycles (loadFromDB events invites) reqs) :
    States step IdsUnshared (loadFromDB events invites) reqs :=
  (States.of_steps (fun _ _ h hr => h.step hr) (loadFromDB_sound hevents hinvites) hreqs).imp
    fun _ h => h.idsUnshared

instance (live : List ℕ) (p : IdPool) (x : ℕ) : Decidable (p.Spare live x) :=
  inferInstanceAs (Decidable (_ ∧ _ ∧ _ ∧ _))

/-- An event with two invites becomes an announcement, so that the id of a sign-up is lost; a
pre-invite that names it gives it back, and the event is copied and removed. -/
theorem lostId_idsUnshared :
    States step IdsUnshared (loadFromDB [⟨1, 7, 0, 0⟩] [⟨1, 1, 7, 7⟩, ⟨2, 1, 8, 7⟩])
      [.updateEvent false 1 0x040, .eventSignup ⟨9, 0⟩ 1,
        .eventInvite ⟨7, 0⟩ 1 3 (some ⟨9, 0⟩) true false, .updateEvent false 1 0,
        .copyEvent false 1, .removeEvent 1] := by
  refine run_idsUnshared _ _ (by decide) (by decide) _ ?_
  refine ⟨⟨?_, ?_, ?_⟩, ⟨?_, ?_, ?_⟩, ⟨?_, ?_, ?_⟩, ⟨?_, ?_, ?_⟩, ⟨?_, ?_, ?_⟩, ⟨?_, ?_, ?_⟩,
    trivial⟩ <;> decide +kernel

/-- **A guild announcement makes the highest invite id wrap.**  Nothing is in the tables; its local
invite gives back 0, which is the highest id, and the next invite is stored with the id 0. -/
theorem announcement_wraps :
    ¬ ∀ (events : List EventRow) (invites : List InviteRow) (reqs : List Request),
      (events.map (·.id)).Nodup ∧ 0 ∉ events.map (·.id) →
      (invites.map (·.id)).Nodup ∧ 0 ∉ invites.map (·.id) →
      States step IdsUnshared (loadFromDB events invites) reqs := by
  intro h
  have hrun := (h [] [] [.addEvent ⟨7, 1⟩ false 0x040 none, .addEvent ⟨7, 1⟩ false 0 (some [8])]
    (by decide) (by decide)).exec
  exact hrun.zero_notMem (by decide +kernel)

end CalendarMgr

end FunPvp.Calendar
