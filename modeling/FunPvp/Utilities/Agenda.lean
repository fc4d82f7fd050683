/-
# What the timers of a script are for

An agenda has the events of an `EventMap` as they were scheduled: each with a ticket of its own,
its id, group and phase apart, and the time it is due as a number. `Lawful` says what a call may do
with them. The map refines the agenda (`Represents`): its words are those of the events that are
pending, and `ExecuteEvent` returns the id of the event the agenda takes.

That a run of lawful calls returns no event twice, and a drain returns its events in the order in
which they are due, is a matter of the agenda alone.
-/
import FunPvp.Lib.Run
import FunPvp.Utilities.EventMap

namespace FunPvp.Utilities

open Lib

/-! ## 1. The agenda -/

/-- An event that has been scheduled. -/
structure Event where
  ticket : ℕ
  id : UInt32
  group : UInt32
  phase : UInt8
  due : ℕ
deriving DecidableEq

/-- The events of a script: `pending` are still to come, in the order in which they are due,
`returned` has those that `ExecuteEvent` has returned, the last one at the end. -/
structure Agenda where
  timer : ℕ := 0
  phase : UInt8 := 0
  pending : List Event := []
  returned : List Event := []
  tickets : ℕ := 0
deriving DecidableEq

namespace Event

/-- The event belongs to phases of which none is active. -/
def Foreign (phase : UInt8) (e : Event) : Prop := IsPhase phase ∧ IsPhase e.phase ∧ e.phase ≠ phase

instance (phase : UInt8) (e : Event) : Decidable (e.Foreign phase) :=
  inferInstanceAs (Decidable (_ ∧ _))

def InGroup (group : UInt32) (e : Event) : Prop := IsGroup group ∧ e.group = group

instance (group : UInt32) (e : Event) : Decidable (e.InGroup group) :=
  inferInstanceAs (Decidable (_ ∧ _))

def later (delay : ℕ) (e : Event) : Event := { e with due := e.due + delay }

end Event

namespace Agenda

def add (id group : UInt32) (phase : UInt8) (due : ℕ) (a : Agenda) : Agenda :=
  { a with
    pending := put Event.due ⟨a.tickets, id, group, phase, due⟩ a.pending
    tickets := a.tickets + 1 }

/-- The first event that is due and not foreign, and what is left when those before it are
dropped. -/
def next (timer : ℕ) (phase : UInt8) : List Event → Option Event × List Event
  | [] => (none, [])
  | e :: rest =>
    if timer < e.due then (none, e :: rest)
    else if e.Foreign phase then next timer phase rest
    else (some e, rest)

def step (a : Agenda) : Action → Agenda
  | .reset => { a with timer := 0, phase := 0, pending := [] }
  | .update time => { a with timer := a.timer + time.toNat }
  | .setPhase phase => if phase ≤ 8 then { a with phase := phase } else a
  | .scheduleEvent id time group phase => a.add id group phase (a.timer + time.toNat)
  | .repeatEvent time =>
    match a.returned.getLast? with
    | some e => a.add e.id e.group e.phase (a.timer + time.toNat)
    | none => a
  | .executeEvent =>
    { a with
      pending := (next a.timer a.phase a.pending).2
      returned := a.returned ++ (next a.timer a.phase a.pending).1.toList }
  | .delayEvents delay => { a with timer := a.timer - delay.toNat }
  | .delayEventsOfGroup delay group =>
    { a with
      pending := putAll Event.due
        (putAll Event.due ((a.pending.filter (·.InGroup group)).map (·.later delay.toNat)) [])
        (a.pending.filter (¬ ·.InGroup group)) }
  | .cancelEvent id => { a with pending := a.pending.filter (¬ id = ·.id) }
  | .cancelEventGroup group => { a with pending := a.pending.filter (¬ ·.InGroup group) }

end Agenda

/-! ## 2. The law -/

namespace Action

def timerAfter (timer : ℕ) : Action → ℕ
  | reset => 0
  | update time => timer + time.toNat
  | delayEvents delay => timer - delay.toNat
  | _ => timer

/-- The phase that is active after a call; 0 is none. -/
def phaseAfter (phase : UInt8) : Action → UInt8
  | reset => 0
  | setPhase p => if p ≤ 8 then p else phase
  | _ => phase

/-- The event as a call leaves it: only the delay of its group makes it due later. -/
def delayed (e : Event) : Action → Event
  | delayEventsOfGroup delay group => if e.InGroup group then e.later delay.toNat else e
  | _ => e

def Cancels (e : Event) : Action → Prop
  | reset => True
  | cancelEvent id => e.id = id
  | cancelEventGroup group => e.InGroup group
  | _ => False

def scheduled (a : Agenda) : Action → Option Event
  | scheduleEvent id time group phase =>
    some ⟨a.tickets, id, group, phase, a.timer + time.toNat⟩
  | repeatEvent time =>
    a.returned.getLast?.map fun e => ⟨a.tickets, e.id, e.group, e.phase, a.timer + time.toNat⟩
  | _ => none

def TurnsBack : Action → Prop
  | reset => True
  | delayEvents _ => True
  | _ => False

end Action

/-- What a call may do that returns `result`. -/
structure Lawful (a : Agenda) (action : Action) (result : UInt32) (a' : Agenda) : Prop where
  timer : a'.timer = action.timerAfter a.timer
  phase : a'.phase = action.phaseAfter a.phase
  tickets : a'.tickets = a.tickets + (action.scheduled a).toList.length
  /-- An event is returned when it is due and not foreign, for good, and before all others. -/
  returned : (result = 0 ∧ a'.returned = a.returned) ∨
    ∃ e ∈ a.pending, action = .executeEvent ∧ result = e.id ∧ result ≠ 0 ∧
      a'.returned = a.returned ++ [e] ∧ e.due ≤ a.timer ∧ ¬ e.Foreign a.phase ∧
      ∀ e' ∈ a'.pending, e'.ticket ≠ e.ticket ∧ e.due ≤ e'.due
  /-- What is pending was so before, or has just been scheduled. -/
  pending : ∀ e' ∈ a'.pending, (∃ e ∈ a.pending, e' = action.delayed e) ∨
    action.scheduled a = some e'
  scheduled : ∀ e', action.scheduled a = some e' → e' ∈ a'.pending
  /-- What was pending is so still, unless it is returned, cancelled, or foreign when it is due. -/
  kept : ∀ e ∈ a.pending, action.delayed e ∈ a'.pending ∨ a'.returned = a.returned ++ [e] ∨
    action.Cancels e ∨ action = .executeEvent ∧ e.due ≤ a.timer ∧ e.Foreign a.phase

/-! ## 3. The two together -/

namespace Event

def entry (e : Event) : UInt32 × UInt32 :=
  (UInt32.ofNat e.due, eventData e.id e.group e.phase)

end Event

/-- A map and the agenda of its events. -/
structure Watched where
  map : EventMap := {}
  agenda : Agenda := {}

def Watched.step (s : Watched) (action : Action) : Watched :=
  { map := (s.map.step action).2, agenda := s.agenda.step action }

/-- The call does not make a time wrap, and the ids are those that have room in the word. -/
def Fits (m : EventMap) : Action → Prop
  | .update time => m.time.toNat + time.toNat < 2 ^ 32
  | .scheduleEvent id time _ _ =>
    (0 < id.toNat ∧ id.toNat ≤ 65535) ∧ m.time.toNat + time.toNat < 2 ^ 32
  | .repeatEvent time => m.lastEvent ≠ 0 ∧ m.time.toNat + time.toNat < 2 ^ 32
  | .delayEventsOfGroup delay group =>
    ∀ e ∈ m.eventMap, IsGroup group → e.2 &&& groupBit group ≠ 0 →
      e.1.toNat + delay.toNat < 2 ^ 32
  | _ => True

instance (m : EventMap) : ∀ action, Decidable (Fits m action)
  | .update _ => inferInstanceAs (Decidable (_ < _))
  | .scheduleEvent .. => inferInstanceAs (Decidable (_ ∧ _))
  | .repeatEvent _ => inferInstanceAs (Decidable (_ ∧ _))
  | .delayEventsOfGroup .. => inferInstanceAs (Decidable (∀ e ∈ m.eventMap, _))
  | .reset | .setPhase _ | .executeEvent | .delayEvents _ | .cancelEvent _
  | .cancelEventGroup _ => isTrue trivial

/-! ## 4. What is kept -/

/-- The events of an agenda can be told apart and have room in the words of a map. -/
structure Agenda.Good (a : Agenda) : Prop where
  ids : ∀ e ∈ a.pending ++ a.returned, 0 < e.id.toNat ∧ e.id.toNat ≤ 65535
  due : ∀ e ∈ a.pending, e.due < 2 ^ 32
  ordered : Ordered Event.due a.pending
  nodup : (a.pending.map Event.ticket).Nodup
  fresh : ∀ e ∈ a.pending, e.ticket < a.tickets

def active (phase : UInt8) : UInt8 := if phase = 0 then 0 else 1 <<< (phase - 1)

def Agenda.lastWord (a : Agenda) : UInt32 :=
  match a.returned.getLast? with
  | some e => e.entry.2
  | none => 0

/-- **The map stands for the agenda.** -/
structure Represents (m : EventMap) (a : Agenda) : Prop where
  time : m.time.toNat = a.timer
  phaseLe : a.phase ≤ 8
  phase : m.phase = active a.phase
  eventMap : m.eventMap = a.pending.map Event.entry
  lastEvent : m.lastEvent = a.lastWord

section Words

variable {e : Event}

theorem entry_time (h : e.due < 2 ^ 32) : e.entry.1.toNat = e.due :=
  UInt32.toNat_ofNat_of_lt' h

theorem keyIso_entry :
    KeyIso Event.due (fun e : UInt32 × UInt32 => e.1.toNat) Event.entry {e | e.due < 2 ^ 32} := by
  intro a ha b hb
  change a.due < b.due ↔ a.entry.1.toNat < b.entry.1.toNat
  rw [entry_time ha, entry_time hb]

theorem entry_inGroup (hid : e.id.toNat ≤ 65535) {group : UInt32} (hgroup : IsGroup group) :
    e.entry.2 &&& groupBit group ≠ 0 ↔ e.InGroup group := by
  rw [Event.entry, eventData_and_groupBit (by omega) e.group e.phase hgroup, Event.InGroup,
    and_iff_right hgroup]

theorem active_ne_zero {phase : UInt8} (h : IsPhase phase) : active phase ≠ 0 := by
  obtain ⟨n, rfl⟩ := h.eq_ofNat
  revert n
  decide +kernel

theorem entry_foreign (hid : e.id.toNat ≤ 65535) {phase : UInt8} (hle : phase ≤ 8) :
    EventMap.ofOtherPhase (active phase) e.entry = true ↔ e.Foreign phase := by
  by_cases h0 : phase = 0
  · subst h0
    exact iff_of_false (by simp [EventMap.ofOtherPhase, active]) fun h => h.1.1 rfl
  · have hphase : IsPhase phase := ⟨h0, hle⟩
    have hactive := eventData_and_active (by omega : e.id.toNat < 2 ^ 16) e.group e.phase hphase
    have hhigh := eventData_and_high (by omega : e.id.toNat < 2 ^ 16) e.group e.phase
    rw [EventMap.ofOtherPhase, Bool.and_eq_true, Bool.and_eq_true, decide_eq_true_iff,
      decide_eq_true_iff, decide_eq_true_iff, Event.Foreign, and_iff_right (active_ne_zero hphase),
      and_iff_right hphase]
    refine and_congr hhigh ?_
    rw [active, if_neg h0, ← not_iff_not, not_not]
    exact hactive

end Words

/-! ## 5. `ExecuteEvent` -/

section Next

variable {timer : ℕ} {phase : UInt8} {l : List Event}

/-- **What the loop does**: it drops what is due and foreign, and ends with an event that is due
and not foreign. -/
theorem next_spec (timer : ℕ) (phase : UInt8) (l : List Event) :
    ∃ dropped, l = dropped ++ ((Agenda.next timer phase l).1.toList ++
        (Agenda.next timer phase l).2) ∧
      (∀ e ∈ dropped, e.due ≤ timer ∧ e.Foreign phase) ∧
      ∀ e ∈ (Agenda.next timer phase l).1, e.due ≤ timer ∧ ¬ e.Foreign phase := by
  induction l with
  | nil => exact ⟨[], rfl, nofun, nofun⟩
  | cons e rest ih =>
    by_cases hlater : timer < e.due
    · rw [Agenda.next, if_pos hlater]
      exact ⟨[], rfl, nofun, nofun⟩
    · by_cases hforeign : e.Foreign phase
      · rw [Agenda.next, if_neg hlater, if_pos hforeign]
        obtain ⟨dropped, hrest, hdropped, hreturned⟩ := ih
        refine ⟨e :: dropped, congrArg (e :: ·) hrest, ?_, hreturned⟩
        exact List.forall_mem_cons.mpr ⟨⟨not_lt.mp hlater, hforeign⟩, hdropped⟩
      · rw [Agenda.next, if_neg hlater, if_neg hforeign]
        refine ⟨[], rfl, nofun, fun e' he' => ?_⟩
        cases he'
        exact ⟨not_lt.mp hlater, hforeign⟩

theorem executeLoop_entry {time : UInt32} (htime : time.toNat = timer) (hle : phase ≤ 8)
    (hl : ∀ e ∈ l, e.id.toNat ≤ 65535 ∧ e.due < 2 ^ 32) :
    EventMap.executeLoop time (active phase) (l.map Event.entry) =
      ((Agenda.next timer phase l).1.map Event.entry,
        (Agenda.next timer phase l).2.map Event.entry) := by
  induction l with
  | nil => rfl
  | cons e rest ih =>
    obtain ⟨⟨hid, hdue⟩, hrest⟩ := List.forall_mem_cons.mp hl
    have hlater : e.entry.1 > time ↔ timer < e.due := by
      rw [gt_iff_lt, UInt32.lt_iff_toNat_lt, entry_time hdue, htime]
    rw [List.map_cons, EventMap.executeLoop, Agenda.next]
    by_cases h : timer < e.due
    · rw [if_pos (hlater.mpr h), if_pos h]
      rfl
    · rw [if_neg (hlater.not.mpr h), if_neg h, ih hrest]
      by_cases hforeign : e.Foreign phase
      · rw [if_pos ((entry_foreign hid hle).mpr hforeign), if_pos hforeign]
      · rw [if_neg ((entry_foreign hid hle).not.mpr hforeign), if_neg hforeign]
        rfl

end Next

/-! ## 6. A call keeps the agenda in order -/

theorem Agenda.mem_delay {a : Agenda} {delay group : UInt32} {e' : Event} :
    e' ∈ (a.step (.delayEventsOfGroup delay group)).pending ↔
      ∃ e ∈ a.pending, e' = (Action.delayEventsOfGroup delay group).delayed e := by
  simp only [Agenda.step, Action.delayed, mem_putAll, List.mem_map, List.mem_filter,
    decide_eq_true_iff, List.not_mem_nil, or_false]
  constructor
  · rintro (⟨e, ⟨he, hgroup⟩, rfl⟩ | ⟨he, hgroup⟩)
    · exact ⟨e, he, (if_pos hgroup).symm⟩
    · exact ⟨e', he, (if_neg hgroup).symm⟩
  · rintro ⟨e, he, rfl⟩
    by_cases hgroup : e.InGroup group
    · rw [if_pos hgroup]
      exact .inl ⟨e, ⟨he, hgroup⟩, rfl⟩
    · rw [if_neg hgroup]
      exact .inr ⟨he, hgroup⟩

theorem Action.delayed_keeps (action : Action) (e : Event) :
    (action.delayed e).id = e.id ∧ (action.delayed e).ticket = e.ticket ∧
      e.due ≤ (action.delayed e).due := by
  unfold Action.delayed
  split
  · split
    · exact ⟨rfl, rfl, Nat.le_add_right _ _⟩
    · exact ⟨rfl, rfl, Nat.le_refl _⟩
  · exact ⟨rfl, rfl, Nat.le_refl _⟩

namespace Agenda.Good

variable {a a' : Agenda}

theorem shrink (h : a.Good) (hpending : a'.pending.Sublist a.pending)
    (hreturned : ∀ e ∈ a'.returned, e ∈ a.pending ++ a.returned)
    (htickets : a'.tickets = a.tickets) : a'.Good where
  ids e he := by
    refine h.ids e ?_
    rcases List.mem_append.mp he with he | he
    · exact List.mem_append_left _ (hpending.subset he)
    · exact hreturned e he
  due e he := h.due e (hpending.subset he)
  ordered := h.ordered.sublist hpending
  nodup := h.nodup.sublist (hpending.map _)
  fresh e he := htickets ▸ h.fresh e (hpending.subset he)

theorem add (h : a.Good) {id group : UInt32} {phase : UInt8} {due : ℕ}
    (hid : 0 < id.toNat ∧ id.toNat ≤ 65535) (hdue : due < 2 ^ 32) :
    (a.add id group phase due).Good where
  ids e he := by
    rcases List.mem_append.mp he with he | he
    · rcases mem_put.mp he with rfl | he
      · exact hid
      · exact h.ids e (List.mem_append_left _ he)
    · exact h.ids e (List.mem_append_right _ he)
  due e he := by
    rcases mem_put.mp he with rfl | he
    · exact hdue
    · exact h.due e he
  ordered := h.ordered.put _
  nodup := by
    refine ((perm_put _ _ _).map Event.ticket).nodup_iff.mpr (List.nodup_cons.mpr ⟨?_, h.nodup⟩)
    intro hmem
    obtain ⟨e, he, heq⟩ := List.mem_map.mp hmem
    have hlt := h.fresh e he
    rw [heq] at hlt
    exact Nat.lt_irrefl _ hlt
  fresh e he := by
    rcases mem_put.mp he with rfl | he
    · exact Nat.lt_succ_self _
    · exact Nat.lt_succ_of_lt (h.fresh e he)

theorem delay (h : a.Good) {delay group : UInt32}
    (hdue : ∀ e ∈ a.pending, e.InGroup group → e.due + delay.toNat < 2 ^ 32) :
    (a.step (.delayEventsOfGroup delay group)).Good where
  ids e' he' := by
    rcases List.mem_append.mp he' with he' | he'
    · obtain ⟨e, he, rfl⟩ := Agenda.mem_delay.mp he'
      rw [(Action.delayed_keeps _ e).1]
      exact h.ids e (List.mem_append_left _ he)
    · exact h.ids e' (List.mem_append_right _ he')
  due e' he' := by
    obtain ⟨e, he, rfl⟩ := Agenda.mem_delay.mp he'
    change (if e.InGroup group then e.later delay.toNat else e).due < 2 ^ 32
    split
    · next hgroup => exact hdue e he hgroup
    · exact h.due e he
  ordered := Ordered.putAll (List.Pairwise.sublist List.filter_sublist h.ordered) _
  nodup := by
    have hlater : ∀ l : List Event, (l.map (·.later delay.toNat)).map Event.ticket =
        l.map Event.ticket := fun l => by rw [List.map_map]; rfl
    have hperm := ((perm_putAll Event.due _ _).trans ((perm_putAll Event.due
      ((a.pending.filter (·.InGroup group)).map (·.later delay.toNat)) []).append_right
        (a.pending.filter (¬ ·.InGroup group)))).map Event.ticket
    refine hperm.nodup_iff.mpr ?_
    rw [List.append_nil, List.map_append, hlater, ← List.map_append]
    have hparts := (List.filter_append_perm (fun e : Event => e.InGroup group) a.pending).map
      Event.ticket
    simp only [decide_not] at hparts ⊢
    exact hparts.nodup_iff.mpr h.nodup
  fresh e' he' := by
    obtain ⟨e, he, rfl⟩ := Agenda.mem_delay.mp he'
    rw [(Action.delayed_keeps _ e).2.1]
    exact h.fresh e he

end Agenda.Good

/-! ## 7. A call keeps the map at the agenda -/

/-- The events are in order, and the map stands for them. -/
structure Watched.Inv (s : Watched) : Prop where
  good : s.agenda.Good
  represents : Represents s.map s.agenda

theorem Watched.inv_init : Watched.Inv {} where
  good := ⟨nofun, nofun, .nil, List.nodup_nil, nofun⟩
  represents := ⟨rfl, by decide, rfl, rfl, rfl⟩

section Represents

variable {m : EventMap} {a : Agenda}

theorem Represents.lastWord_ne_zero (h : Represents m a) (hne : m.lastEvent ≠ 0) :
    ∃ e, a.returned.getLast? = some e := by
  rw [h.lastEvent, Agenda.lastWord] at hne
  split at hne
  · next e he => exact ⟨e, he⟩
  · exact absurd rfl hne

theorem Represents.time_add (h : Represents m a) {time : UInt32}
    (hfits : m.time.toNat + time.toNat < 2 ^ 32) :
    (m.time + time).toNat = a.timer + time.toNat := by
  rw [UInt32.toNat_add, Nat.mod_eq_of_lt hfits, h.time]

theorem Represents.insert (h : Represents m a) (hgood : a.Good) {id group time : UInt32}
    {phase : UInt8} (hfits : m.time.toNat + time.toNat < 2 ^ 32) :
    Represents { m with
        eventMap := m.eventMap.insert (m.time + time, eventData id group phase) }
      (a.add id group phase (a.timer + time.toNat)) where
  time := h.time
  phaseLe := h.phaseLe
  phase := h.phase
  eventMap := by
    have hsum := h.time_add hfits
    have hdue : a.timer + time.toNat < 2 ^ 32 := h.time ▸ hfits
    have hentry : (m.time + time, eventData id group phase) =
        Event.entry ⟨a.tickets, id, group, phase, a.timer + time.toNat⟩ := by
      rw [Event.entry, ← hsum, UInt32.ofNat_toNat]
    change put _ _ m.eventMap = (put Event.due _ a.pending).map Event.entry
    rw [map_put keyIso_entry hdue hgood.due, ← hentry, h.eventMap]
  lastEvent := h.lastEvent

theorem Represents.filter (h : Represents m a) {p : UInt32 × UInt32 → Bool} {q : Event → Bool}
    (hpq : ∀ e ∈ a.pending, p e.entry = q e) :
    m.eventMap.filter p = (a.pending.filter q).map Event.entry := by
  rw [h.eventMap, List.filter_map]
  exact congrArg _ (List.filter_congr hpq)

theorem Represents.inGroup (hgood : a.Good) {group : UInt32} (hgroup : IsGroup group) :
    ∀ e ∈ a.pending, decide (e.entry.2 &&& groupBit group ≠ 0) = decide (e.InGroup group) :=
  fun e he => decide_eq_decide.mpr
    (entry_inGroup (hgood.ids e (List.mem_append_left _ he)).2 hgroup)

theorem Represents.notInGroup (hgood : a.Good) {group : UInt32} (hgroup : IsGroup group) :
    ∀ e ∈ a.pending, decide (¬ e.entry.2 &&& groupBit group ≠ 0) =
      decide (¬ e.InGroup group) :=
  fun e he => decide_eq_decide.mpr
    (entry_inGroup (hgood.ids e (List.mem_append_left _ he)).2 hgroup).not

theorem Represents.noGroup (h : Represents m a) {group : UInt32}
    (hnone : group = 0 ∨ group > 8 ∨ m.eventMap = []) :
    ∀ e ∈ a.pending, ¬ e.InGroup group := by
  rintro e he ⟨hgroup, -⟩
  rcases hnone with hzero | hgreat | hempty
  · exact not_isGroup.mpr (.inl hzero) hgroup
  · exact not_isGroup.mpr (.inr hgreat) hgroup
  · rw [h.eventMap, List.map_eq_nil_iff] at hempty
    rw [hempty] at he
    cases he

theorem Represents.delay (h : Represents m a) (hgood : a.Good) {delay group : UInt32}
    (hdue : ∀ e ∈ a.pending, e.InGroup group → e.due + delay.toNat < 2 ^ 32) :
    (m.delayEventsOfGroup delay group).eventMap =
      (a.step (.delayEventsOfGroup delay group)).pending.map Event.entry := by
  unfold EventMap.delayEventsOfGroup
  change _ = (putAll Event.due (putAll Event.due _ []) _).map Event.entry
  split
  · next hnone =>
    have hfree := h.noGroup hnone
    have hin : a.pending.filter (·.InGroup group) = [] :=
      List.filter_eq_nil_iff.mpr fun e he => by simpa using hfree e he
    have hout : a.pending.filter (¬ ·.InGroup group) = a.pending :=
      List.filter_eq_self.mpr fun e he => by simpa using hfree e he
    rw [hin, hout]
    exact h.eventMap
  · next hsome =>
    have hgroup : IsGroup group := by
      by_contra hno
      exact hsome ((not_isGroup.mp hno).imp_right .inl)
    have hlater : ∀ e ∈ (a.pending.filter (·.InGroup group)).map (·.later delay.toNat),
        e ∈ {e : Event | e.due < 2 ^ 32} := by
      intro e he
      obtain ⟨e', he', rfl⟩ := List.mem_map.mp he
      obtain ⟨he', hin⟩ := List.mem_filter.mp he'
      exact hdue e' he' (of_decide_eq_true hin)
    have hshift : (m.eventMap.filter fun e => e.2 &&& groupBit group ≠ 0).map
        (fun e => (e.1 + delay, e.2)) =
        ((a.pending.filter (·.InGroup group)).map (·.later delay.toNat)).map Event.entry := by
      rw [h.filter (Represents.inGroup hgood hgroup), List.map_map, List.map_map]
      refine List.map_congr_left fun e _ => Prod.ext ?_ rfl
      change UInt32.ofNat e.due + delay = UInt32.ofNat (e.due + delay.toNat)
      rw [UInt32.ofNat_add, UInt32.ofNat_toNat]
    have hout : (m.eventMap.filter fun e => ¬ e.2 &&& groupBit group ≠ 0) =
        (a.pending.filter (¬ ·.InGroup group)).map Event.entry :=
      h.filter (Represents.notInGroup hgood hgroup)
    have hkept : ∀ e ∈ a.pending.filter (¬ ·.InGroup group),
        e ∈ {e : Event | e.due < 2 ^ 32} := fun e he => hgood.due e (List.mem_of_mem_filter he)
    have hnil : ∀ e ∈ ([] : List Event), e ∈ {e : Event | e.due < 2 ^ 32} := nofun
    have hdelayed : ∀ e ∈ putAll Event.due
        ((a.pending.filter (·.InGroup group)).map (·.later delay.toNat)) [],
        e ∈ {e : Event | e.due < 2 ^ 32} := by
      intro e he
      exact hlater e ((mem_putAll.mp he).resolve_right List.not_mem_nil)
    rw [map_putAll keyIso_entry hdelayed hkept, map_putAll keyIso_entry hlater hnil, ← hshift,
      ← hout, putAll, putAll, List.foldl_map]
    rfl

theorem Represents.executeEvent (h : Represents m a) (hgood : a.Good) :
    m.executeEvent =
      match (Agenda.next a.timer a.phase a.pending).1 with
      | none =>
        (0, { m with eventMap := (Agenda.next a.timer a.phase a.pending).2.map Event.entry })
      | some e =>
        (e.id, { m with
          lastEvent := e.entry.2
          eventMap := (Agenda.next a.timer a.phase a.pending).2.map Event.entry }) := by
  have hids : ∀ e ∈ a.pending, e.id.toNat ≤ 65535 := fun e he =>
    (hgood.ids e (List.mem_append_left _ he)).2
  have hloop := executeLoop_entry h.time h.phaseLe fun e he => ⟨hids e he, hgood.due e he⟩
  obtain ⟨dropped, hsplit, -, -⟩ := next_spec a.timer a.phase a.pending
  rw [EventMap.executeEvent, h.phase, h.eventMap, hloop]
  cases hnext : (Agenda.next a.timer a.phase a.pending).1 with
  | none => rfl
  | some e =>
    have he : e ∈ a.pending := by
      rw [hsplit, hnext]
      simp
    have hid : e.id.toNat < 2 ^ 16 := Nat.lt_succ_of_le (hids e he)
    exact Prod.ext (eventData_and_low hid e.group e.phase) rfl

end Represents

variable {s : Watched} {a a' : Agenda} {action : Action}

theorem Watched.Inv.step (h : s.Inv) {action : Action} (hfits : Fits s.map action) :
    (s.step action).Inv := by
  obtain ⟨hgood, hrep⟩ := h
  cases action with
  | reset =>
    exact ⟨hgood.shrink (List.nil_sublist _) (fun e he => List.mem_append_right _ he) rfl,
      rfl, (by decide : (0 : UInt8) ≤ 8), rfl, rfl, hrep.lastEvent⟩
  | update time =>
    exact ⟨hgood.shrink (.refl _) (fun e he => List.mem_append_right _ he) rfl,
      hrep.time_add hfits, hrep.phaseLe, hrep.phase, hrep.eventMap, hrep.lastEvent⟩
  | setPhase phase =>
    refine ⟨?_, ?_⟩
    · change (if phase ≤ 8 then _ else s.agenda).Good
      split
      · exact hgood.shrink (.refl _) (fun e he => List.mem_append_right _ he) rfl
      · exact hgood
    · change Represents (s.map.setPhase phase) (if phase ≤ 8 then _ else s.agenda)
      unfold EventMap.setPhase
      by_cases h0 : phase = 0
      · subst h0
        exact ⟨hrep.time, (by decide : (0 : UInt8) ≤ 8), rfl, hrep.eventMap, hrep.lastEvent⟩
      · rw [if_neg h0]
        by_cases hle : phase ≤ 8
        · rw [if_pos hle, if_pos hle]
          exact ⟨hrep.time, hle, (if_neg h0).symm, hrep.eventMap, hrep.lastEvent⟩
        · rw [if_neg hle, if_neg hle]
          exact hrep
  | scheduleEvent id time group phase =>
    exact ⟨hgood.add hfits.1 (hrep.time ▸ hfits.2), hrep.insert hgood hfits.2⟩
  | repeatEvent time =>
    obtain ⟨e, he⟩ := hrep.lastWord_ne_zero hfits.1
    have hagenda : s.agenda.step (.repeatEvent time) =
        s.agenda.add e.id e.group e.phase (s.agenda.timer + time.toNat) := by
      rw [Agenda.step, he]
    have hmem : e ∈ s.agenda.pending ++ s.agenda.returned :=
      List.mem_append_right _ (List.mem_of_getLast? he)
    have hword : s.map.lastEvent = eventData e.id e.group e.phase := by
      rw [hrep.lastEvent, Agenda.lastWord, he]
      rfl
    refine ⟨?_, ?_⟩
    · change (s.agenda.step (.repeatEvent time)).Good
      rw [hagenda]
      exact hgood.add (hgood.ids e hmem) (hrep.time ▸ hfits.2)
    · change Represents (s.map.repeatEvent time) (s.agenda.step (.repeatEvent time))
      have hinsert := @Represents.insert _ _ hrep hgood e.id e.group time e.phase hfits.2
      rw [← hword] at hinsert
      rw [hagenda]
      exact hinsert
  | executeEvent =>
    obtain ⟨dropped, hsplit, -, -⟩ := next_spec s.agenda.timer s.agenda.phase s.agenda.pending
    have hrun := hrep.executeEvent hgood
    refine ⟨hgood.shrink ?_ (fun e he => ?_) rfl, ?_⟩
    · change (Agenda.next _ _ _).2.Sublist _
      conv_rhs => rw [hsplit]
      exact (List.sublist_append_right _ _).trans (List.sublist_append_right _ _)
    · change e ∈ s.agenda.returned ++ _ at he
      rcases List.mem_append.mp he with he | he
      · exact List.mem_append_right _ he
      · refine List.mem_append_left _ ?_
        rw [hsplit]
        exact List.mem_append_right _ (List.mem_append_left _ he)
    · change Represents s.map.executeEvent.2 (s.agenda.step .executeEvent)
      rw [hrun, Agenda.step]
      cases hnext : (Agenda.next s.agenda.timer s.agenda.phase s.agenda.pending).1 with
      | none =>
        refine ⟨hrep.time, hrep.phaseLe, hrep.phase, rfl, ?_⟩
        rw [Agenda.lastWord, Option.toList_none, List.append_nil]
        exact hrep.lastEvent
      | some e =>
        refine ⟨hrep.time, hrep.phaseLe, hrep.phase, rfl, ?_⟩
        rw [Agenda.lastWord, Option.toList_some, List.getLast?_concat]
  | delayEvents delay =>
    refine ⟨hgood.shrink (.refl _) (fun e he => List.mem_append_right _ he) rfl,
      ?_, hrep.phaseLe, hrep.phase, hrep.eventMap, hrep.lastEvent⟩
    change (if delay < s.map.time then s.map.time - delay else 0).toNat = _ - _
    split
    · next hlt => rw [UInt32.toNat_sub_of_le _ _ (UInt32.le_of_lt hlt), hrep.time]
    · next hle =>
      have hle' : s.map.time.toNat ≤ delay.toNat :=
        UInt32.le_iff_toNat_le.mp (UInt32.not_lt.mp hle)
      rw [hrep.time] at hle'
      exact (Nat.sub_eq_zero_of_le hle').symm
  | delayEventsOfGroup delay group =>
    have hdue : ∀ e ∈ s.agenda.pending, e.InGroup group → e.due + delay.toNat < 2 ^ 32 := by
      intro e he hin
      have hid := (hgood.ids e (List.mem_append_left _ he)).2
      have hmem : e.entry ∈ s.map.eventMap := hrep.eventMap ▸ List.mem_map_of_mem he
      have hlt := hfits e.entry hmem hin.1 ((entry_inGroup hid hin.1).mpr hin)
      rwa [entry_time (hgood.due e he)] at hlt
    have hframe : (s.map.delayEventsOfGroup delay group).time = s.map.time ∧
        (s.map.delayEventsOfGroup delay group).phase = s.map.phase ∧
        (s.map.delayEventsOfGroup delay group).lastEvent = s.map.lastEvent := by
      unfold EventMap.delayEventsOfGroup
      split <;> exact ⟨rfl, rfl, rfl⟩
    exact ⟨hgood.delay hdue, hframe.1 ▸ hrep.time, hrep.phaseLe, hframe.2.1.trans hrep.phase,
      hrep.delay hgood hdue, hframe.2.2.trans hrep.lastEvent⟩
  | cancelEvent id =>
    refine ⟨hgood.shrink List.filter_sublist (fun e he => List.mem_append_right _ he) rfl,
      hrep.time, hrep.phaseLe, hrep.phase, hrep.filter fun e he => decide_eq_decide.mpr ?_,
      hrep.lastEvent⟩
    have hid := (hgood.ids e (List.mem_append_left _ he)).2
    rw [Event.entry, eventData_and_low (by omega)]
  | cancelEventGroup group =>
    refine ⟨hgood.shrink List.filter_sublist (fun e he => List.mem_append_right _ he) rfl, ?_⟩
    change Represents (s.map.cancelEventGroup group) _
    unfold EventMap.cancelEventGroup
    split
    · next hnone =>
      have hfree := hrep.noGroup hnone
      have hout : s.agenda.pending.filter (¬ ·.InGroup group) = s.agenda.pending :=
        List.filter_eq_self.mpr fun e he => by simpa using hfree e he
      refine ⟨hrep.time, hrep.phaseLe, hrep.phase, ?_, hrep.lastEvent⟩
      exact hrep.eventMap.trans (congrArg _ hout.symm)
    · next hsome =>
      have hgroup : IsGroup group := by
        by_contra hno
        exact hsome ((not_isGroup.mp hno).imp_right .inl)
      exact ⟨hrep.time, hrep.phaseLe, hrep.phase,
        hrep.filter (Represents.notInGroup hgood hgroup), hrep.lastEvent⟩

/-! ## 8. A call is lawful -/

theorem Lawful.quiet
    (timer : a'.timer = action.timerAfter a.timer) (phase : a'.phase = action.phaseAfter a.phase)
    (tickets : a'.tickets = a.tickets + (action.scheduled a).toList.length)
    (returned : a'.returned = a.returned)
    (pending : ∀ e' ∈ a'.pending, (∃ e ∈ a.pending, e' = action.delayed e) ∨
      action.scheduled a = some e')
    (scheduled : ∀ e', action.scheduled a = some e' → e' ∈ a'.pending)
    (kept : ∀ e ∈ a.pending, action.delayed e ∈ a'.pending ∨ action.Cancels e) :
    Lawful a action 0 a' where
  timer := timer
  phase := phase
  tickets := tickets
  returned := .inl ⟨rfl, returned⟩
  pending := pending
  scheduled := scheduled
  kept e he := (kept e he).imp_right fun h => .inr (.inl h)

theorem Lawful.add {a : Agenda} {id group : UInt32} {phase : UInt8} {due : ℕ}
    (hscheduled : action.scheduled a = some ⟨a.tickets, id, group, phase, due⟩)
    (htimer : action.timerAfter a.timer = a.timer)
    (hphase : action.phaseAfter a.phase = a.phase) (hdelayed : ∀ e, action.delayed e = e) :
    Lawful a action 0 (a.add id group phase due) := by
  refine .quiet htimer.symm hphase.symm ?_ rfl (fun e' he' => ?_) (fun e' he' => ?_)
    fun e he => .inl ?_
  · rw [hscheduled]
    rfl
  · rcases mem_put.mp he' with rfl | he'
    · exact .inr hscheduled
    · exact .inl ⟨e', he', (hdelayed e').symm⟩
  · rw [hscheduled, Option.some_inj] at he'
    exact mem_put.mpr (.inl he'.symm)
  · rw [hdelayed]
    exact mem_put.mpr (.inr he)

theorem Watched.Inv.executeEvent_lawful (h : s.Inv) :
    Lawful s.agenda .executeEvent s.map.executeEvent.1 (s.agenda.step .executeEvent) := by
  obtain ⟨hgood, hrep⟩ := h
  obtain ⟨dropped, hsplit, hdropped, hreturned⟩ :=
    next_spec s.agenda.timer s.agenda.phase s.agenda.pending
  have hrun := hrep.executeEvent hgood
  have hordered := hgood.ordered
  have hnodup := hgood.nodup
  generalize hl : Agenda.next s.agenda.timer s.agenda.phase s.agenda.pending = out
    at hsplit hreturned hrun
  obtain ⟨found, rest⟩ := out
  have hafter : s.agenda.step .executeEvent =
      { s.agenda with pending := rest, returned := s.agenda.returned ++ found.toList } := by
    rw [Agenda.step, hl]
  rw [hafter, hrun]
  refine ⟨rfl, rfl, rfl, ?_, fun e' he' => .inl ⟨e', ?_, rfl⟩, nofun, fun e he => ?_⟩
  · cases found with
    | none => exact .inl ⟨rfl, List.append_nil _⟩
    | some e =>
      obtain ⟨hdue, hforeign⟩ := hreturned e rfl
      have he : e ∈ s.agenda.pending := by
        rw [hsplit]
        exact List.mem_append_right _ List.mem_cons_self
      have hid := (hgood.ids e (List.mem_append_left _ he)).1
      refine .inr ⟨e, he, rfl, rfl, fun h0 => ?_, rfl, hdue, hforeign, fun e' he' => ?_⟩
      · have h0' : e.id = 0 := h0
        rw [h0'] at hid
        exact Nat.lt_irrefl 0 hid
      · rw [hsplit] at hordered hnodup
        rw [List.map_append] at hnodup
        have hrest := (List.pairwise_append.mp hordered).2.1
        have hrest' := (List.nodup_append.mp hnodup).2.1
        exact ⟨fun heq => (List.nodup_cons.mp hrest').1 (heq ▸ List.mem_map_of_mem he'),
          (List.pairwise_cons.mp hrest).1 e' he'⟩
  · rw [hsplit]
    exact List.mem_append_right _ (List.mem_append_right _ he')
  · rw [hsplit] at he
    rcases List.mem_append.mp he with he | he
    · exact .inr (.inr (.inr ⟨rfl, hdropped e he⟩))
    · rcases List.mem_append.mp he with he | he
      · refine .inr (.inl ?_)
        cases found with
        | none => cases he
        | some e' => rw [List.mem_singleton.mp he, Option.toList_some]
      · exact .inl he

theorem Watched.Inv.lawful (h : s.Inv) {action : Action} (hfits : Fits s.map action) :
    Lawful s.agenda action (s.map.step action).1 (s.step action).agenda := by
  have hsame : ∀ e' ∈ s.agenda.pending, ∃ e ∈ s.agenda.pending, e' = e :=
    fun e' he' => ⟨e', he', rfl⟩
  cases action with
  | reset => exact .quiet rfl rfl rfl rfl nofun nofun fun e _ => .inr trivial
  | update time =>
    exact .quiet rfl rfl rfl rfl (fun e he => .inl (hsame e he)) nofun fun e he => .inl he
  | setPhase phase =>
    have hstep : (s.step (.setPhase phase)).agenda =
        { s.agenda with phase := if phase ≤ 8 then phase else s.agenda.phase } := by
      change (if phase ≤ 8 then _ else s.agenda) = _
      split <;> rfl
    rw [hstep]
    exact .quiet rfl rfl rfl rfl (fun e he => .inl (hsame e he)) nofun fun e he => .inl he
  | scheduleEvent id time group phase => exact .add rfl rfl rfl fun _ => rfl
  | repeatEvent time =>
    obtain ⟨e, he⟩ := h.represents.lastWord_ne_zero hfits.1
    have hstep : (s.step (.repeatEvent time)).agenda =
        s.agenda.add e.id e.group e.phase (s.agenda.timer + time.toNat) := by
      change s.agenda.step (.repeatEvent time) = _
      rw [Agenda.step, he]
    rw [hstep]
    refine .add ?_ rfl rfl fun _ => rfl
    rw [Action.scheduled, he]
    rfl
  | executeEvent => exact h.executeEvent_lawful
  | delayEvents delay =>
    exact .quiet rfl rfl rfl rfl (fun e he => .inl (hsame e he)) nofun fun e he => .inl he
  | delayEventsOfGroup delay group =>
    exact .quiet rfl rfl rfl rfl (fun e' he' => .inl (Agenda.mem_delay.mp he')) nofun
      fun e he => .inl (Agenda.mem_delay.mpr ⟨e, he, rfl⟩)
  | cancelEvent id =>
    refine .quiet rfl rfl rfl rfl (fun e he => .inl (hsame e (List.mem_of_mem_filter he))) nofun
      fun e he => ?_
    by_cases hid : id = e.id
    · exact .inr hid.symm
    · exact .inl (List.mem_filter.mpr ⟨he, decide_eq_true hid⟩)
  | cancelEventGroup group =>
    refine .quiet rfl rfl rfl rfl (fun e he => .inl (hsame e (List.mem_of_mem_filter he))) nofun
      fun e he => ?_
    by_cases hgroup : e.InGroup group
    · exact .inr hgroup
    · exact .inl (List.mem_filter.mpr ⟨he, decide_eq_true hgroup⟩)

/-! ## 9. Runs -/

/-- The call of a run is lawful for the agenda. -/
def Watched.Obeys (s : Watched) (action : Action) : Prop :=
  Lawful s.agenda action (s.map.step action).1 (s.step action).agenda

/-- What has been returned has been returned once, and is pending no more. -/
structure Agenda.Once (a : Agenda) : Prop where
  nodup : (a.returned.map Event.ticket).Nodup
  returnedFresh : ∀ e ∈ a.returned, e.ticket < a.tickets
  pendingFresh : ∀ e ∈ a.pending, e.ticket < a.tickets
  apart : ∀ e ∈ a.returned, ∀ e' ∈ a.pending, e'.ticket ≠ e.ticket

theorem Agenda.Once.step {result : UInt32} (h : a.Once)
    (hlaw : Lawful a action result a') : a'.Once := by
  have hle : a.tickets ≤ a'.tickets := hlaw.tickets ▸ Nat.le_add_right _ _
  have hticket : ∀ e', action.scheduled a = some e' → e'.ticket = a.tickets ∧
      a.tickets < a'.tickets := by
    intro e' he'
    rw [hlaw.tickets, he']
    refine ⟨?_, Nat.lt_succ_self _⟩
    cases action with
    | scheduleEvent => cases he'; rfl
    | repeatEvent =>
      obtain ⟨e, -, rfl⟩ := Option.map_eq_some_iff.mp he'
      rfl
    | _ => cases he'
  have hpending : ∀ e' ∈ a'.pending, (∃ e ∈ a.pending, e'.ticket = e.ticket) ∨
      e'.ticket = a.tickets ∧ a.tickets < a'.tickets := by
    intro e' he'
    rcases hlaw.pending e' he' with ⟨e, he, rfl⟩ | hnew
    · exact .inl ⟨e, he, (Action.delayed_keeps action e).2.1⟩
    · exact .inr (hticket e' hnew)
  have hfresh : ∀ e' ∈ a'.pending, e'.ticket < a'.tickets := by
    intro e' he'
    rcases hpending e' he' with ⟨e, he, heq⟩ | ⟨heq, hlt⟩
    · exact heq ▸ (h.pendingFresh e he).trans_le hle
    · exact heq ▸ hlt
  have hapart : ∀ e ∈ a.returned, ∀ e' ∈ a'.pending, e'.ticket ≠ e.ticket := by
    intro e he e' he'
    rcases hpending e' he' with ⟨e'', he'', heq⟩ | ⟨heq, -⟩
    · exact heq ▸ h.apart e he e'' he''
    · exact heq ▸ (h.returnedFresh e he).ne'
  rcases hlaw.returned with ⟨-, hsame⟩ | ⟨e, he, -, -, -, hreturned, -, -, hlast⟩
  · exact ⟨hsame ▸ h.nodup, fun e he => (h.returnedFresh e (hsame ▸ he)).trans_le hle, hfresh,
      fun e he => hapart e (hsame ▸ he)⟩
  · refine ⟨?_, fun e' he' => ?_, hfresh, fun e' he' => ?_⟩
    · rw [hreturned, List.map_append, List.map_singleton]
      refine List.nodup_append.mpr ⟨h.nodup, List.nodup_singleton _, ?_⟩
      intro t ht t' ht' heq
      obtain ⟨e', he', rfl⟩ := List.mem_map.mp ht
      exact h.apart e' he' e he (heq.trans (List.mem_singleton.mp ht')).symm
    · rw [hreturned] at he'
      rcases List.mem_append.mp he' with he' | he'
      · exact (h.returnedFresh e' he').trans_le hle
      · rw [List.mem_singleton.mp he']
        exact (h.pendingFresh e he).trans_le hle
    · rw [hreturned] at he'
      rcases List.mem_append.mp he' with he' | he'
      · exact hapart e' he'
      · rw [List.mem_singleton.mp he']
        exact fun e'' he'' => (hlast e'' he'').1

/-- The events of a drain: they come in the order in which they are due, and what is pending or
yet to be scheduled is not due before them. -/
structure Agenda.Drained (a : Agenda) (before drained : List Event) : Prop where
  returned : a.returned = before ++ drained
  sorted : drained.Pairwise fun e e' => e.due ≤ e'.due
  timer : ∀ e ∈ drained, e.due ≤ a.timer
  pending : ∀ e ∈ drained, ∀ e' ∈ a.pending, e.due ≤ e'.due

theorem Agenda.Drained.step {result : UInt32}
    {before drained : List Event} (h : a.Drained before drained)
    (hlaw : Lawful a action result a') (hdrain : ¬ action.TurnsBack) :
    ∃ drained', a'.Drained before drained' := by
  have htimer : a.timer ≤ a'.timer := by
    rw [hlaw.timer]
    cases action with
    | reset => exact absurd trivial hdrain
    | delayEvents => exact absurd trivial hdrain
    | update => exact Nat.le_add_right _ _
    | _ => exact Nat.le_refl _
  have hnew : ∀ e', action.scheduled a = some e' → a.timer ≤ e'.due := by
    intro e' he'
    cases action with
    | scheduleEvent => cases he'; exact Nat.le_add_right _ _
    | repeatEvent =>
      obtain ⟨e, -, rfl⟩ := Option.map_eq_some_iff.mp he'
      exact Nat.le_add_right _ _
    | _ => cases he'
  have hpending : ∀ e ∈ drained, ∀ e' ∈ a'.pending, e.due ≤ e'.due := by
    intro e he e' he'
    rcases hlaw.pending e' he' with ⟨e'', he'', rfl⟩ | hscheduled
    · exact (h.pending e he e'' he'').trans (Action.delayed_keeps action e'').2.2
    · exact (h.timer e he).trans (hnew e' hscheduled)
  rcases hlaw.returned with ⟨-, hsame⟩ | ⟨e, he, -, -, -, hreturned, hdue, -, hlast⟩
  · exact ⟨drained, hsame.trans h.returned, h.sorted, fun e he => (h.timer e he).trans htimer,
      hpending⟩
  · refine ⟨drained ++ [e], ?_, ?_, fun e' he' => ?_, fun e' he' => ?_⟩
    · rw [hreturned, h.returned, List.append_assoc]
    · refine List.pairwise_append.mpr ⟨h.sorted, List.pairwise_singleton _ _, ?_⟩
      intro e' he' e'' he''
      rw [List.mem_singleton.mp he'']
      exact h.pending e' he' e he
    · rcases List.mem_append.mp he' with he' | he'
      · exact (h.timer e' he').trans htimer
      · rw [List.mem_singleton.mp he']
        exact hdue.trans htimer
    · rcases List.mem_append.mp he' with he' | he'
      · exact hpending e' he'
      · rw [List.mem_singleton.mp he']
        exact fun e'' he'' => (hlast e'' he'').2

theorem drained_of_steps {calls : List Action}
    (h : Steps Watched.step Watched.Obeys s calls) (hdrain : ∀ action ∈ calls, ¬ action.TurnsBack)
    {before drained : List Event} (hs : s.agenda.Drained before drained) :
    ∃ drained', (exec Watched.step s calls).agenda.Drained before drained' := by
  induction calls generalizing s drained with
  | nil => exact ⟨drained, hs⟩
  | cons action calls ih =>
    obtain ⟨hfirst, hrest⟩ := List.forall_mem_cons.mp hdrain
    obtain ⟨drained', hnext⟩ := hs.step h.1 hfirst
    exact ih h.2 hrest hnext

/-- **The events of a script**: in every run whose times do not wrap the map stands for the agenda,
every call is lawful for it, no event is returned twice, and as long as the timer is not turned
back events are returned in the order in which they are due. -/
theorem eventMap_runs (calls : List Action)
    (h : Steps Watched.step (fun s action => Fits s.map action) {} calls) :
    States Watched.step (fun s => Represents s.map s.agenda) {} calls ∧
    Steps Watched.step Watched.Obeys {} calls ∧
    ((exec Watched.step {} calls).agenda.returned.map Event.ticket).Nodup ∧
    ∀ before drain after, calls = before ++ drain ++ after →
      (∀ action ∈ drain, ¬ action.TurnsBack) →
      ∃ drained, (exec Watched.step {} (before ++ drain)).agenda.returned =
          (exec Watched.step {} before).agenda.returned ++ drained ∧
        drained.Pairwise fun e e' => e.due ≤ e'.due := by
  have hinv := States.of_steps (I := Watched.Inv) (fun _ _ hs hfits => hs.step hfits)
    Watched.inv_init h
  have hobeys : Steps Watched.step Watched.Obeys {} calls :=
    Steps.of_inv (I := Watched.Inv) (fun _ _ hs hfits => hs.step hfits)
      (fun _ _ hs hfits => hs.lawful hfits) Watched.inv_init h
  have honce : Agenda.Once {} := ⟨List.nodup_nil, nofun, nofun, nofun⟩
  refine ⟨hinv.imp fun s hs => hs.represents, hobeys, ?_, ?_⟩
  · exact (States.of_steps (I := fun s : Watched => s.agenda.Once)
      (fun _ _ hs hlaw => hs.step hlaw) honce hobeys).exec.nodup
  · intro before drain after hcalls hdrain
    rw [hcalls, Steps.append_iff, Steps.append_iff] at hobeys
    have hstart : (exec Watched.step {} before).agenda.Drained
        (exec Watched.step {} before).agenda.returned [] :=
      ⟨(List.append_nil _).symm, .nil, nofun, nofun⟩
    obtain ⟨drained, hend⟩ := drained_of_steps hobeys.1.2 hdrain hstart
    rw [exec_append]
    exact ⟨drained, hend.returned, hend.sorted⟩

/-- Two events, and the phase of one of them is active. -/
def sampleCalls : List Action :=
  [.scheduleEvent 7 1000 0 0, .scheduleEvent 9 500 1 2, .setPhase 2, .update 1200, .executeEvent,
    .executeEvent]

theorem eventMap_runs_sample :
    Steps Watched.step Watched.Obeys {} sampleCalls ∧
      (exec Watched.step {} sampleCalls).agenda.returned.map (fun e => (e.id, e.due)) =
        [(9, 500), (7, 1000)] :=
  ⟨(eventMap_runs sampleCalls (by decide +kernel)).2.1, by decide +kernel⟩

end FunPvp.Utilities
