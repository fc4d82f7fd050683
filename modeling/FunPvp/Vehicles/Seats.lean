/-
# The seats of a vehicle

What holds of all vehicles, whatever is done to them and in whatever order the join events are
executed: the count of usable seats, who sits where, and the pending events. Two things are kept
apart from the invariant, because they fail for a moment while a vehicle is being left: that whoever
sits in a vehicle, or is about to board it, has an aura on it, and that a vehicle with pending events
is not being uninstalled.
-/
import FunPvp.Lib.Loop
import FunPvp.Lib.Run
import FunPvp.Vehicles.Vehicle

namespace FunPvp.Vehicles

open FunPvp.Lib

/-! ## 1. The invariant -/

def Vehicle.usable (vehicle : Vehicle) : ℕ :=
  vehicle.Seats.countP fun seat => seat.2.canEnterOrExit && (vehicle.passenger seat.1).isNone

/-- **The invariant.**  The event `x` may be pending for a seat that is not empty yet. -/
structure Inv (w : World) (x : Option EventId) : Prop where
  seats : ∀ v, ((w.vehicles v).Seats.map Prod.fst).Nodup
  usable : ∀ v, (w.vehicles v).UsableSeatNum = (w.vehicles v).usable
  seated : ∀ v seat u, (w.vehicles v).passenger seat = some u →
    w.m_vehicle u = some v ∧ seat ∈ (w.vehicles v).Seats.map Prod.fst
  once : ∀ v seat seat' u, (w.vehicles v).passenger seat = some u →
    (w.vehicles v).passenger seat' = some u → seat = seat'
  rides : ∀ u v, w.m_vehicle u = some v → ∃ seat, (w.vehicles v).passenger seat = some u
  nodup : ∀ v, (w.vehicles v).pendingJoinEvents.Nodup
  pending : ∀ v, ∀ id ∈ (w.vehicles v).pendingJoinEvents, ∃ e seat, w.events id = some e ∧
    e.to_Abort = false ∧ e.Target = some v ∧ e.Seat = some seat ∧
    seat ∈ (w.vehicles v).Seats.map Prod.fst ∧
    ((w.vehicles v).passenger seat = none ∨ x = some id) ∧ w.m_vehicle e.Passenger ≠ some v
  waiting : ∀ id e, w.events id = some e → e.to_Abort = false →
    ∃ v, e.Target = some v ∧ id ∈ (w.vehicles v).pendingJoinEvents
  fresh : ∀ id, w.next ≤ id → w.events id = none
  boarded : ∀ b ∈ w.boarded, b.status ≠ .STATUS_UNINSTALLING ∧ b.before = none ∧
    b.event < w.next ∧ ∀ e, w.events b.event = some e → e.to_Abort = true

/-- Who sits in a vehicle, or is about to board it, has an aura on it. -/
structure AuraSound (w : World) : Prop where
  seated : ∀ v seat u, (w.vehicles v).passenger seat = some u → u ∈ (w.vehicles v).auras
  pending : ∀ v, ∀ id ∈ (w.vehicles v).pendingJoinEvents, ∀ e, w.events id = some e →
    e.Passenger ∈ (w.vehicles v).auras

/-- A vehicle with pending events is not being uninstalled. -/
def StatusSound (w : World) : Prop :=
  ∀ v, (w.vehicles v).pendingJoinEvents ≠ [] → (w.vehicles v).status ≠ .STATUS_UNINSTALLING

/-- What is only left, not entered, between two states. -/
structure Shrinks (w w' : World) : Prop where
  seats : ∀ v, (w'.vehicles v).Seats = (w.vehicles v).Seats
  status : ∀ v, (w'.vehicles v).pendingJoinEvents ≠ [] →
    (w'.vehicles v).status = (w.vehicles v).status
  passenger : ∀ v seat u, (w'.vehicles v).passenger seat = some u →
    (w.vehicles v).passenger seat = some u
  pending : ∀ v, ∀ id ∈ (w'.vehicles v).pendingJoinEvents,
    id ∈ (w.vehicles v).pendingJoinEvents ∧ w'.events id = w.events id
  next : w'.next = w.next
  boarded : w'.boarded = w.boarded

theorem Shrinks.refl (w : World) : Shrinks w w :=
  ⟨fun _ => rfl, fun _ _ => rfl, fun _ _ _ => id, fun _ _ hid => ⟨hid, rfl⟩, rfl, rfl⟩

theorem Shrinks.ne_nil {w w' : World} (h : Shrinks w w') {v : VehicleId}
    (hne : (w'.vehicles v).pendingJoinEvents ≠ []) : (w.vehicles v).pendingJoinEvents ≠ [] := by
  intro hnil
  refine hne (List.eq_nil_iff_forall_not_mem.mpr fun id hid => ?_)
  have hmem := (h.pending v id hid).1
  rw [hnil] at hmem
  exact absurd hmem List.not_mem_nil

theorem Shrinks.trans {w w' w'' : World} (h : Shrinks w w') (h' : Shrinks w' w'') :
    Shrinks w w'' := by
  refine ⟨fun v => (h'.seats v).trans (h.seats v),
    fun v hne => (h'.status v hne).trans (h.status v (h'.ne_nil hne)),
    fun v seat u hu => h.passenger v seat u (h'.passenger v seat u hu), fun v id hid => ?_,
    h'.next.trans h.next, h'.boarded.trans h.boarded⟩
  obtain ⟨hid', hevents'⟩ := h'.pending v id hid
  obtain ⟨hid'', hevents⟩ := h.pending v id hid'
  exact ⟨hid'', hevents'.trans hevents⟩

theorem StatusSound.shrinks {w w' : World} (h : StatusSound w) (hs : Shrinks w w') :
    StatusSound w' := by
  intro v hne
  rw [hs.status v hne]
  exact h v (hs.ne_nil hne)

/-! ## 2. Pending events -/

section Cancel

variable {w w' : World} {v : VehicleId} {id : EventId} {e : VehicleJoinEvent}
  {x : Option EventId} {target : Option VehicleId}

theorem modify_vehicles (w : World) (v : VehicleId) (f : Vehicle → Vehicle) (v' : VehicleId) :
    (w.modify v f).vehicles v' = if v' = v then f (w.vehicles v') else w.vehicles v' := by
  unfold World.modify
  dsimp only
  rw [Function.update_apply]
  split
  · next h => rw [h]
  · rfl

theorem cancel_vehicles (v' : VehicleId) : (w.cancel v id e target).vehicles v' =
    if v' = v then
      { w.vehicles v' with pendingJoinEvents := (w.vehicles v').pendingJoinEvents.erase id }
    else w.vehicles v' := by
  change (w.modify v fun vehicle =>
    { vehicle with pendingJoinEvents := vehicle.pendingJoinEvents.erase id }).vehicles v' = _
  rw [modify_vehicles]

theorem cancel_field {α : Type} (field : Vehicle → α)
    (h : ∀ vehicle l, field { vehicle with pendingJoinEvents := l } = field vehicle)
    (v' : VehicleId) : field ((w.cancel v id e target).vehicles v') = field (w.vehicles v') := by
  rw [cancel_vehicles]
  split
  · exact h _ _
  · rfl

theorem mem_cancel_pending (hnodup : ((w.vehicles v).pendingJoinEvents).Nodup) {v' : VehicleId}
    {id' : EventId} (hmem : id' ∈ ((w.cancel v id e target).vehicles v').pendingJoinEvents) :
    id' ∈ (w.vehicles v').pendingJoinEvents ∧ (v' = v → id' ≠ id) := by
  rw [cancel_vehicles] at hmem
  split at hmem
  · next hv =>
    subst hv
    obtain ⟨hne, hmem⟩ := hnodup.mem_erase_iff.mp hmem
    exact ⟨hmem, fun _ => hne⟩
  · next hv => exact ⟨hmem, fun heq => absurd heq hv⟩

theorem Inv.cancel (h : Inv w x) (hid : id ∈ (w.vehicles v).pendingJoinEvents)
    (he : w.events id = some e) (target : Option VehicleId) :
    Inv (w.cancel v id e target) x ∧ Shrinks w (w.cancel v id e target) := by
  have hseats : ∀ v', ((w.cancel v id e target).vehicles v').Seats = (w.vehicles v').Seats :=
    cancel_field Vehicle.Seats fun _ _ => rfl
  have hpassenger : ∀ v', ((w.cancel v id e target).vehicles v').passenger =
      (w.vehicles v').passenger := cancel_field Vehicle.passenger fun _ _ => rfl
  have htarget : ∀ v' id', id' ∈ (w.vehicles v').pendingJoinEvents → id' = id → v' = v := by
    rintro v' _ hmem rfl
    obtain ⟨e', _, he', -, ht', -⟩ := h.pending v' _ hmem
    obtain ⟨e'', _, he'', -, ht'', -⟩ := h.pending v _ hid
    obtain rfl := Option.some.inj (he'.symm.trans he'')
    exact Option.some.inj (ht'.symm.trans ht'')
  have hpending : ∀ v' id', id' ∈ ((w.cancel v id e target).vehicles v').pendingJoinEvents →
      id' ∈ (w.vehicles v').pendingJoinEvents ∧ id' ≠ id := by
    intro v' id' hmem
    obtain ⟨hmem', hne⟩ := mem_cancel_pending (h.nodup v) hmem
    exact ⟨hmem', fun heq => hne (htarget v' id' hmem' heq) heq⟩
  have hevents : ∀ id', id' ≠ id → (w.cancel v id e target).events id' = w.events id' :=
    fun id' hne => Function.update_of_ne hne ..
  refine ⟨⟨fun v' => ?_, fun v' => ?_, fun v' seat u hu => ?_, fun v' seat seat' u hu hu' => ?_,
    fun u v' hu => ?_, fun v' => ?_, fun v' id' hmem => ?_, fun id' e' he' habort => ?_,
    fun id' hle => ?_, fun b hb => ?_⟩,
    hseats, fun v' _ => cancel_field Vehicle.status (fun _ _ => rfl) v', fun v' seat u hu => ?_,
    fun v' id' hmem => ?_, rfl, rfl⟩
  · rw [hseats]
    exact h.seats v'
  · rw [cancel_field Vehicle.UsableSeatNum fun _ _ => rfl, cancel_field Vehicle.usable fun _ _ => rfl]
    exact h.usable v'
  · rw [hpassenger] at hu
    rw [hseats]
    exact h.seated v' seat u hu
  · rw [hpassenger] at hu hu'
    exact h.once v' seat seat' u hu hu'
  · rw [hpassenger]
    exact h.rides u v' hu
  · rw [cancel_vehicles]
    split
    · exact (h.nodup v').erase id
    · exact h.nodup v'
  · obtain ⟨hmem', hne⟩ := hpending v' id' hmem
    obtain ⟨e', seat, he', hrest⟩ := h.pending v' id' hmem'
    rw [hseats, hpassenger]
    exact ⟨e', seat, (hevents id' hne).trans he', hrest⟩
  · have hne : id' ≠ id := by
      rintro rfl
      have hself : (w.cancel v id' e target).events id' =
          some { e with to_Abort := true, Target := target } := Function.update_self ..
      obtain rfl := Option.some.inj (hself.symm.trans he')
      exact absurd habort nofun
    obtain ⟨v', ht, hmem⟩ := h.waiting id' e' ((hevents id' hne).symm.trans he') habort
    refine ⟨v', ht, ?_⟩
    rw [cancel_vehicles]
    split
    · exact (List.mem_erase_of_ne hne).mpr hmem
    · exact hmem
  · have hne : id' ≠ id := by
      rintro rfl
      exact absurd ((h.fresh id' hle).symm.trans he) nofun
    exact (hevents id' hne).trans (h.fresh id' hle)
  · obtain ⟨hstatus, hbefore, hlt, hdone⟩ := h.boarded b hb
    refine ⟨hstatus, hbefore, hlt, fun e' he' => ?_⟩
    by_cases heq : b.event = id
    · rw [heq] at he'
      have hself : (w.cancel v id e target).events id =
          some { e with to_Abort := true, Target := target } := Function.update_self ..
      obtain rfl := Option.some.inj (hself.symm.trans he')
      rfl
    · exact hdone e' ((hevents _ heq).symm.trans he')
  · rw [hpassenger] at hu
    exact hu
  · obtain ⟨hmem', hne⟩ := hpending v' id' hmem
    exact ⟨hmem', hevents id' hne⟩

/-- Nobody enters or leaves a seat, and the auras and the status stay. -/
structure SameSeats (w w' : World) : Prop where
  passenger : ∀ v, (w'.vehicles v).passenger = (w.vehicles v).passenger
  m_vehicle : w'.m_vehicle = w.m_vehicle
  auras : ∀ v, (w'.vehicles v).auras = (w.vehicles v).auras
  status : ∀ v, (w'.vehicles v).status = (w.vehicles v).status

theorem SameSeats.refl (w : World) : SameSeats w w :=
  ⟨fun _ => rfl, rfl, fun _ => rfl, fun _ => rfl⟩

theorem SameSeats.trans {w'' : World} (h : SameSeats w w') (h' : SameSeats w' w'') :
    SameSeats w w'' :=
  ⟨fun v => (h'.passenger v).trans (h.passenger v), h'.m_vehicle.trans h.m_vehicle,
    fun v => (h'.auras v).trans (h.auras v), fun v => (h'.status v).trans (h.status v)⟩

theorem sameSeats_cancel (w : World) (v : VehicleId) (id : EventId) (e : VehicleJoinEvent)
    (target : Option VehicleId) : SameSeats w (w.cancel v id e target) :=
  ⟨cancel_field Vehicle.passenger fun _ _ => rfl, rfl, cancel_field Vehicle.auras fun _ _ => rfl,
    cancel_field Vehicle.status fun _ _ => rfl⟩

theorem Inv.cancelLoop (h : Inv w x) (v : VehicleId)
    (body : World → EventId → Except Fault World) (keep : VehicleJoinEvent → Prop)
    (hbody : ∀ w₁ id e, id ∈ (w₁.vehicles v).pendingJoinEvents → w₁.events id = some e →
      id ∈ (w.vehicles v).pendingJoinEvents → w.events id = some e →
      (∃ target, body w₁ id = .ok (w₁.cancel v id e target)) ∨ body w₁ id = .ok w₁ ∧ keep e) :
    ∃ w', (w.vehicles v).pendingJoinEvents.foldlM body w = .ok w' ∧ Inv w' x ∧ Shrinks w w' ∧
      SameSeats w w' ∧
      ∀ id ∈ (w'.vehicles v).pendingJoinEvents, ∀ e, w'.events id = some e → keep e := by
  have hloop : Outcome (fun w' => Inv w' x ∧ Shrinks w w' ∧ SameSeats w w' ∧
      ∀ id ∈ (w.vehicles v).pendingJoinEvents, id ∈ (w'.vehicles v).pendingJoinEvents →
        ∀ e, w'.events id = some e → keep e) (fun _ : Fault => False)
      ((w.vehicles v).pendingJoinEvents.foldlM body w) := by
    refine Outcome.foldlM (I := fun done w₁ => Inv w₁ x ∧ Shrinks w w₁ ∧ SameSeats w w₁ ∧
      (∀ id ∈ (w.vehicles v).pendingJoinEvents, id ∉ done →
        id ∈ (w₁.vehicles v).pendingJoinEvents) ∧
      ∀ id ∈ done, id ∈ (w₁.vehicles v).pendingJoinEvents → ∀ e, w₁.events id = some e →
        keep e) ?_ ?_ |>.imp fun w' hw' => ?_
    · exact ⟨h, Shrinks.refl w, SameSeats.refl w, fun _ hid _ => hid,
        fun id hid => absurd hid List.not_mem_nil⟩
    · rintro done id rest w₁ hlist ⟨hinv, hshrinks, hsame, hwait, hdone⟩
      have hnodup := h.nodup v
      rw [hlist] at hnodup
      have hmem : id ∈ (w.vehicles v).pendingJoinEvents := by rw [hlist]; simp
      have hnew : id ∉ done := fun hid =>
        (List.nodup_append.mp hnodup).2.2 id hid id List.mem_cons_self rfl
      have hmem₁ := hwait id hmem hnew
      obtain ⟨e, _, he, -⟩ := h.pending v id hmem
      have he₁ := (hshrinks.pending v id hmem₁).2.trans he
      rcases hbody w₁ id e hmem₁ he₁ hmem he with ⟨target, hok⟩ | ⟨hok, hkeep⟩
      · rw [hok]
        obtain ⟨hinv', hshrinks'⟩ := hinv.cancel hmem₁ he₁ target
        refine ⟨hinv', hshrinks.trans hshrinks', hsame.trans (sameSeats_cancel ..),
          fun id' hid' hnot => ?_, fun id' hid' hmem' e' he' => ?_⟩
        · rw [cancel_vehicles, if_pos rfl]
          refine (List.mem_erase_of_ne ?_).mpr (hwait id' hid' fun hd => hnot (by simp [hd]))
          rintro rfl
          exact hnot (by simp)
        · obtain ⟨hin, hne⟩ := mem_cancel_pending (hinv.nodup v) hmem'
          rcases List.mem_append.mp hid' with hd | hd
          · refine hdone id' hd hin e' ?_
            exact (Function.update_of_ne (hne rfl) ..).symm.trans he'
          · exact absurd (List.mem_singleton.mp hd) (hne rfl)
      · rw [hok]
        refine ⟨hinv, hshrinks, hsame, fun id' hid' hnot => hwait id' hid' fun hd => hnot (by simp [hd]),
          fun id' hid' hmem' e' he' => ?_⟩
        rcases List.mem_append.mp hid' with hd | hd
        · exact hdone id' hd hmem' e' he'
        · obtain rfl := List.mem_singleton.mp hd
          rw [← Option.some.inj (he₁.symm.trans he')]
          exact hkeep
    · obtain ⟨hinv, hshrinks, hsame, -, hdone⟩ := hw'
      exact ⟨hinv, hshrinks, hsame, hdone⟩
  cases hfold : (w.vehicles v).pendingJoinEvents.foldlM body w with
  | error fault =>
    rw [hfold] at hloop
    exact absurd hloop id
  | ok w' =>
    rw [hfold] at hloop
    obtain ⟨hinv, hshrinks, hsame, hdone⟩ := hloop
    exact ⟨w', rfl, hinv, hshrinks, hsame, fun id hid => hdone id (hshrinks.pending v id hid).1 hid⟩

theorem Inv.removePendingEvents (h : Inv w x) (v : VehicleId)
    (chosen : VehicleJoinEvent → Except Fault Bool)
    (hchosen : ∀ id ∈ (w.vehicles v).pendingJoinEvents, ∀ e, w.events id = some e →
      ∃ b, chosen e = .ok b) :
    ∃ w', w.removePendingEvents v chosen = .ok w' ∧ Inv w' x ∧ Shrinks w w' ∧ SameSeats w w' ∧
      ∀ id ∈ (w'.vehicles v).pendingJoinEvents, ∀ e, w'.events id = some e →
        chosen e = .ok false := by
  refine h.cancelLoop v _ (fun e => chosen e = .ok false) fun w₁ id e _ he₁ hmem he => ?_
  obtain ⟨b, hb⟩ := hchosen id hmem e he
  rw [he₁]
  dsimp only
  rw [hb]
  cases b with
  | true => exact Or.inl ⟨e.Target, rfl⟩
  | false => exact Or.inr ⟨rfl, rfl⟩

def sitsAt (seatId : SeatId) (e : VehicleJoinEvent) : Except Fault Bool :=
  match e.Seat with
  | none => .error .endOfSeats
  | some seat => .ok (decide (seat = seatId))

theorem Inv.removePendingEventsForSeat (h : Inv w x) (v : VehicleId) (seatId : SeatId) :
    ∃ w', w.removePendingEventsForSeat v seatId = .ok w' ∧ Inv w' x ∧ Shrinks w w' ∧
      SameSeats w w' ∧
      ∀ id ∈ (w'.vehicles v).pendingJoinEvents, ∀ e, w'.events id = some e →
        e.Seat ≠ some seatId := by
  obtain ⟨w', hok, hinv, hshrinks, hsame, hkeep⟩ := h.removePendingEvents v
    (sitsAt seatId) fun id hid e he => by
        obtain ⟨e', seat, he', -, -, hseat, -⟩ := h.pending v id hid
        obtain rfl := Option.some.inj (he.symm.trans he')
        rw [sitsAt, hseat]
        exact ⟨_, rfl⟩
  refine ⟨w', hok, hinv, hshrinks, hsame, fun id hid e he hseat => ?_⟩
  have hfalse := hkeep id hid e he
  rw [sitsAt, hseat] at hfalse
  simp at hfalse

theorem Inv.removePendingEventsForPassenger (h : Inv w x) (v : VehicleId) (u : UnitId) :
    ∃ w', w.removePendingEventsForPassenger v u = .ok w' ∧ Inv w' x ∧ Shrinks w w' ∧
      SameSeats w w' ∧
      ∀ id ∈ (w'.vehicles v).pendingJoinEvents, ∀ e, w'.events id = some e →
        e.Passenger ≠ u := by
  obtain ⟨w', hok, hinv, hshrinks, hsame, hkeep⟩ := h.removePendingEvents v
    (fun e => .ok (decide (e.Passenger = u))) fun _ _ _ _ => ⟨_, rfl⟩
  refine ⟨w', hok, hinv, hshrinks, hsame, fun id hid e he hu => ?_⟩
  have hfalse := hkeep id hid e he
  rw [hu] at hfalse
  simp at hfalse

end Cancel

/-! ## 3. Leaving a vehicle -/

section Leave

variable {w w' : World} {v : VehicleId} {u : UnitId} {x : Option EventId}

theorem countP_update {l : List (SeatId × VehicleSeatEntry)} (hnodup : (l.map Prod.fst).Nodup)
    {s : SeatId × VehicleSeatEntry} (hs : s ∈ l) (p : SeatId → Option UnitId)
    (b : Option UnitId) :
    (l.countP fun seat => seat.2.canEnterOrExit && (Function.update p s.1 b seat.1).isNone) +
        (if s.2.canEnterOrExit && (p s.1).isNone then 1 else 0) =
      (l.countP fun seat => seat.2.canEnterOrExit && (p seat.1).isNone) +
        if s.2.canEnterOrExit && b.isNone then 1 else 0 := by
  induction l with
  | nil => exact absurd hs List.not_mem_nil
  | cons a l ih =>
    obtain ⟨hnew, hnodup⟩ := List.nodup_cons.mp hnodup
    rw [List.countP_cons, List.countP_cons]
    rcases List.mem_cons.mp hs with rfl | hs
    · have hrest : (l.countP fun seat =>
          seat.2.canEnterOrExit && (Function.update p s.1 b seat.1).isNone) =
          l.countP fun seat => seat.2.canEnterOrExit && (p seat.1).isNone := by
        refine List.countP_congr fun seat hseat => ?_
        have hne : seat.1 ≠ s.1 := fun heq => hnew (heq ▸ List.mem_map_of_mem hseat)
        rw [Function.update_of_ne hne]
      rw [hrest, Function.update_self]
      omega
    · have hne : a.1 ≠ s.1 := fun heq => hnew (heq ▸ List.mem_map_of_mem hs)
      have hold := ih hnodup hs
      rw [Function.update_of_ne hne]
      omega

def World.vacate (w : World) (v : VehicleId) (u : UnitId) (s : SeatId × VehicleSeatEntry) : World :=
  { w.modify v fun vehicle =>
      { vehicle with
        UsableSeatNum :=
          if s.2.canEnterOrExit then vehicle.UsableSeatNum + 1 else vehicle.UsableSeatNum
        passenger := Function.update vehicle.passenger s.1 none } with
    m_vehicle := Function.update w.m_vehicle u none }

theorem vacate_vehicles (s : SeatId × VehicleSeatEntry) (v' : VehicleId) :
    (w.vacate v u s).vehicles v' = if v' = v then
      { w.vehicles v' with
        UsableSeatNum := if s.2.canEnterOrExit then (w.vehicles v').UsableSeatNum + 1
          else (w.vehicles v').UsableSeatNum
        passenger := Function.update (w.vehicles v').passenger s.1 none }
      else w.vehicles v' := by
  simp only [World.vacate, modify_vehicles]

theorem Inv.vacate (h : Inv w x) {s : SeatId × VehicleSeatEntry}
    (hs : s ∈ (w.vehicles v).Seats) (hsits : (w.vehicles v).passenger s.1 = some u) :
    Inv (w.vacate v u s) x ∧ Shrinks w (w.vacate v u s) ∧
      (∀ v', ((w.vacate v u s).vehicles v').auras = (w.vehicles v').auras) := by
  have hfield : ∀ {α : Type} (field : Vehicle → α), (∀ vehicle n p, field
      { vehicle with UsableSeatNum := n, passenger := p } = field vehicle) →
      ∀ v', field ((w.vacate v u s).vehicles v') = field (w.vehicles v') := by
    intro α field hkeep v'
    rw [vacate_vehicles]
    split
    · exact hkeep _ _ _
    · rfl
  have hseats := hfield Vehicle.Seats fun _ _ _ => rfl
  have hpending := hfield Vehicle.pendingJoinEvents fun _ _ _ => rfl
  have hpassenger : ∀ v' seat, ((w.vacate v u s).vehicles v').passenger seat =
      if v' = v ∧ seat = s.1 then none else (w.vehicles v').passenger seat := by
    intro v' seat
    rw [vacate_vehicles]
    by_cases hv : v' = v
    · rw [if_pos hv]
      by_cases hseat : seat = s.1
      · refine Eq.trans ?_ (if_pos ⟨hv, hseat⟩).symm
        rw [hseat]
        exact Function.update_self ..
      · refine Eq.trans ?_ (if_neg fun hboth => hseat hboth.2).symm
        exact Function.update_of_ne hseat ..
    · rw [if_neg hv, if_neg fun hboth => hv hboth.1]
  have hstill : ∀ v' seat u', ((w.vacate v u s).vehicles v').passenger seat = some u' →
      (w.vehicles v').passenger seat = some u' ∧ u' ≠ u := by
    intro v' seat u' hu'
    rw [hpassenger] at hu'
    split at hu'
    · exact absurd hu' nofun
    · next hother =>
      refine ⟨hu', ?_⟩
      rintro rfl
      obtain rfl := Option.some.inj ((h.seated v' seat u' hu').1.symm.trans (h.seated v _ u' hsits).1)
      exact hother ⟨rfl, h.once v' seat s.1 u' hu' hsits⟩
  have hvehicle : ∀ u', u' ≠ u → (w.vacate v u s).m_vehicle u' = w.m_vehicle u' :=
    fun u' hne => Function.update_of_ne hne ..
  have hshrinks : ∀ u' v', (w.vacate v u s).m_vehicle u' = some v' →
      u' ≠ u ∧ w.m_vehicle u' = some v' := by
    intro u' v' hu'
    have hne : u' ≠ u := by
      rintro rfl
      exact absurd ((Function.update_self ..).symm.trans hu') nofun
    exact ⟨hne, (hvehicle u' hne).symm.trans hu'⟩
  refine ⟨⟨fun v' => ?_, fun v' => ?_, fun v' seat u' hu' => ?_, fun v' seat seat' u' hu' hu'' => ?_,
    fun u' v' hu' => ?_, fun v' => ?_, fun v' id hid => ?_, fun id e he habort => ?_, h.fresh,
    h.boarded⟩, ⟨hseats, fun v' _ => hfield Vehicle.status (fun _ _ _ => rfl) v',
      fun v' seat u' hu' => (hstill v' seat u' hu').1, fun v' id hid => ?_, rfl, rfl⟩,
    hfield Vehicle.auras fun _ _ _ => rfl⟩
  · rw [hseats]
    exact h.seats v'
  · by_cases hv : v' = v
    · subst hv
      have hcount := countP_update (h.seats v') hs (w.vehicles v').passenger none
      have hold := h.usable v'
      unfold Vehicle.usable at hold ⊢
      rw [vacate_vehicles, if_pos rfl]
      dsimp only
      rw [hsits] at hcount
      simp only [Option.isNone_some, Option.isNone_none, Bool.and_false, Bool.and_true] at hcount
      rw [hold]
      split
      · next hcan =>
        rw [if_pos hcan] at hcount
        simpa using hcount.symm
      · next hcan =>
        rw [if_neg hcan] at hcount
        simpa using hcount.symm
    · rw [vacate_vehicles, if_neg hv]
      exact h.usable v'
  · obtain ⟨hold, hne⟩ := hstill v' seat u' hu'
    rw [hseats, hvehicle u' hne]
    exact h.seated v' seat u' hold
  · exact h.once v' seat seat' u' (hstill v' seat u' hu').1 (hstill v' seat' u' hu'').1
  · obtain ⟨hne, hold⟩ := hshrinks u' v' hu'
    obtain ⟨seat, hseat⟩ := h.rides u' v' hold
    refine ⟨seat, ?_⟩
    rw [hpassenger, if_neg]
    · exact hseat
    · rintro ⟨rfl, rfl⟩
      exact hne (Option.some.inj (hseat.symm.trans hsits))
  · rw [hpending]
    exact h.nodup v'
  · rw [hpending] at hid
    obtain ⟨e, seat, he, habort, ht, hseat, hkey, hempty, hride⟩ := h.pending v' id hid
    rw [hseats]
    refine ⟨e, seat, he, habort, ht, hseat, hkey, hempty.imp_left ?_,
      fun hon => hride (hshrinks _ _ hon).2⟩
    intro hnone
    rw [hpassenger]
    split
    · rfl
    · exact hnone
  · obtain ⟨v', ht, hmem⟩ := h.waiting id e he habort
    exact ⟨v', ht, by rw [hpending]; exact hmem⟩
  · rw [hpending] at hid
    exact ⟨hid, rfl⟩

theorem Inv.removePassenger (h : Inv w x) (v : VehicleId) (u : UnitId) :
    ∃ w', w.removePassenger v u = .ok w' ∧ Inv w' x ∧ Shrinks w w' ∧ w'.m_vehicle u ≠ some v ∧
      (∀ u' v', w'.m_vehicle u' = some v' → w.m_vehicle u' = some v') ∧
      ∀ v', (w'.vehicles v').auras = (w.vehicles v').auras := by
  unfold World.removePassenger
  by_cases hon : w.m_vehicle u = some v
  · rw [if_neg (not_not.mpr hon)]
    obtain ⟨seat, hseat⟩ := h.rides u v hon
    cases hfind : w.getSeatForPassenger v u with
    | none =>
      obtain ⟨⟨_, entry⟩, hmem, rfl⟩ := List.mem_map.mp (h.seated v seat u hseat).2
      have hno := List.find?_eq_none.mp hfind _ hmem
      exact absurd (by simpa using hseat) hno
    | some s =>
      have hmem : s ∈ (w.vehicles v).Seats := List.mem_of_find?_eq_some hfind
      have hsits : (w.vehicles v).passenger s.1 = some u := by
        have hsome := List.find?_some hfind
        exact of_decide_eq_true hsome
      obtain ⟨hinv, hshrinks, hauras⟩ := h.vacate hmem hsits
      have hgone : (w.vacate v u s).m_vehicle u = none := Function.update_self ..
      refine ⟨w.vacate v u s, rfl, hinv, hshrinks, by rw [hgone]; exact nofun,
        fun u' v' hu' => ?_, hauras⟩
      by_cases hne : u' = u
      · rw [hne, hgone] at hu'
        exact absurd hu' nofun
      · exact (Function.update_of_ne hne ..).symm.trans hu'
  · rw [if_pos hon]
    exact ⟨w, rfl, h, Shrinks.refl w, hon, fun _ _ => id, fun _ => rfl⟩

theorem Inv.congr (h : Inv w x) (hseats : ∀ v, (w'.vehicles v).Seats = (w.vehicles v).Seats)
    (hpassenger : ∀ v, (w'.vehicles v).passenger = (w.vehicles v).passenger)
    (husable : ∀ v, (w'.vehicles v).UsableSeatNum = (w.vehicles v).UsableSeatNum)
    (hpending : ∀ v, (w'.vehicles v).pendingJoinEvents = (w.vehicles v).pendingJoinEvents)
    (hvehicle : w'.m_vehicle = w.m_vehicle) (hevents : w'.events = w.events)
    (hnext : w'.next = w.next) (hboarded : w'.boarded = w.boarded) : Inv w' x := by
  refine ⟨fun v => ?_, fun v => ?_, fun v => ?_, fun v => ?_, fun u v => ?_, fun v => ?_,
    fun v => ?_, fun id e => ?_, fun id => ?_, fun b => ?_⟩
  · rw [hseats]
    exact h.seats v
  · unfold Vehicle.usable
    rw [hseats, hpassenger, husable]
    exact h.usable v
  · rw [hseats, hpassenger, hvehicle]
    exact h.seated v
  · rw [hpassenger]
    exact h.once v
  · rw [hpassenger, hvehicle]
    exact h.rides u v
  · rw [hpending]
    exact h.nodup v
  · rw [hpending, hevents, hseats, hpassenger, hvehicle]
    exact h.pending v
  · rw [hevents]
    intro he habort
    obtain ⟨v, ht, hmem⟩ := h.waiting id e he habort
    exact ⟨v, ht, by rw [hpending]; exact hmem⟩
  · rw [hevents, hnext]
    exact h.fresh id
  · rw [hevents, hnext, hboarded]
    exact h.boarded b

theorem modify_field {α : Type} (w : World) (v : VehicleId) (f : Vehicle → Vehicle)
    (field : Vehicle → α) (hkeep : ∀ vehicle, field (f vehicle) = field vehicle)
    (v' : VehicleId) : field ((w.modify v f).vehicles v') = field (w.vehicles v') := by
  rw [modify_vehicles]
  split
  · exact hkeep _
  · rfl

theorem Inv.modify (h : Inv w x) (v : VehicleId) (f : Vehicle → Vehicle)
    (hf : ∀ vehicle, ∃ auras status,
      f vehicle = { vehicle with auras := auras, status := status }) : Inv (w.modify v f) x := by
  have hfield : ∀ {α : Type} (field : Vehicle → α), (∀ vehicle auras status,
      field { vehicle with auras := auras, status := status } = field vehicle) →
      ∀ v', field ((w.modify v f).vehicles v') = field (w.vehicles v') := by
    intro α field hkeep
    refine modify_field w v f field fun vehicle => ?_
    obtain ⟨auras, status, heq⟩ := hf vehicle
    rw [heq, hkeep]
  exact h.congr (hfield Vehicle.Seats fun _ _ _ => rfl) (hfield Vehicle.passenger fun _ _ _ => rfl)
    (hfield Vehicle.UsableSeatNum fun _ _ _ => rfl)
    (hfield Vehicle.pendingJoinEvents fun _ _ _ => rfl) rfl rfl rfl rfl

/-- What is left after a unit has lost its auras on a vehicle. -/
structure Left (w w' : World) (v : VehicleId) (u : UnitId) : Prop where
  aura : AuraSound w'
  shrinks : Shrinks w w'
  gone : w'.m_vehicle u ≠ some v
  m_vehicle : ∀ u' v', w'.m_vehicle u' = some v' → w.m_vehicle u' = some v'
  auras : ∀ v', ∀ u' ∈ (w'.vehicles v').auras, u' ∈ (w.vehicles v').auras
  free : u ∉ (w'.vehicles v).auras

theorem Inv.removeControlAuras (h : Inv w x) (haura : AuraSound w) (v : VehicleId) (u : UnitId) :
    ∃ w', w.removeControlAuras v u = .ok w' ∧ Inv w' x ∧ Left w w' v u := by
  unfold World.removeControlAuras
  by_cases hmem : u ∈ (w.vehicles v).auras
  · rw [if_pos hmem]
    dsimp only
    let f : Vehicle → Vehicle := fun vehicle =>
      { vehicle with auras := vehicle.auras.filter fun caster => decide (caster ≠ u) }
    have hfield : ∀ {α : Type} (field : Vehicle → α), (∀ vehicle l,
        field { vehicle with auras := l } = field vehicle) →
        ∀ v', field ((w.modify v f).vehicles v') = field (w.vehicles v') :=
      fun field hkeep => modify_field w v f field fun vehicle => hkeep vehicle _
    have hinv₁ : Inv (w.modify v f) x := h.modify v f fun vehicle => ⟨_, vehicle.status, rfl⟩
    have hshrinks₁ : Shrinks w (w.modify v f) := by
      have hpassenger := hfield Vehicle.passenger fun _ _ => rfl
      have hpending := hfield Vehicle.pendingJoinEvents fun _ _ => rfl
      exact ⟨hfield Vehicle.Seats fun _ _ => rfl,
        fun v' _ => hfield Vehicle.status (fun _ _ => rfl) v',
        fun v' seat u' hu' => hpassenger v' ▸ hu', fun v' id hid => ⟨hpending v' ▸ hid, rfl⟩,
        rfl, rfl⟩
    have hauras₁ : ∀ v' u', u' ∈ ((w.modify v f).vehicles v').auras ↔
        u' ∈ (w.vehicles v').auras ∧ (v' = v → u' ≠ u) := by
      intro v' u'
      rw [modify_vehicles]
      split
      · next hv =>
        rw [List.mem_filter, decide_eq_true_eq]
        exact and_congr_right fun _ => ⟨fun hne _ => hne, fun hne => hne hv⟩
      · next hv => exact ⟨fun hin => ⟨hin, fun heq => absurd heq hv⟩, fun hin => hin.1⟩
    obtain ⟨w₂, hok₂, hinv₂, hshrinks₂, hsame₂, hfree₂⟩ :=
      hinv₁.removePendingEventsForPassenger v u
    change ∃ w', ((w.modify v f).removePendingEventsForPassenger v u >>= fun w =>
      w.leaveVehicle u) = .ok w' ∧ _
    rw [hok₂]
    change ∃ w', w₂.leaveVehicle u = .ok w' ∧ _
    have hleave : ∃ w', w₂.leaveVehicle u = .ok w' ∧ Inv w' x ∧ Shrinks w₂ w' ∧
        w'.m_vehicle u ≠ some v ∧
        (∀ u' v', w'.m_vehicle u' = some v' → w₂.m_vehicle u' = some v') ∧
        ∀ v', (w'.vehicles v').auras = (w₂.vehicles v').auras := by
      unfold World.leaveVehicle
      cases hon : w₂.m_vehicle u with
      | none =>
        exact ⟨w₂, rfl, hinv₂, Shrinks.refl w₂, by rw [hon]; exact nofun, fun _ _ => id,
          fun _ => rfl⟩
      | some v₁ =>
        obtain ⟨w₃, hok₃, hinv₃, hshrinks₃, hgone₃, hvehicle₃, hauras₃⟩ :=
          hinv₂.removePassenger v₁ u
        refine ⟨w₃, hok₃, hinv₃, hshrinks₃, fun hv => ?_, hvehicle₃, hauras₃⟩
        obtain rfl := Option.some.inj (hon.symm.trans (hvehicle₃ u v hv))
        exact hgone₃ hv
    obtain ⟨w₃, hok₃, hinv₃, hshrinks₃, hgone₃, hvehicle₃, hauras₃⟩ := hleave
    have hshrinks := (hshrinks₁.trans hshrinks₂).trans hshrinks₃
    have hauras : ∀ v' u', u' ∈ (w₃.vehicles v').auras ↔
        u' ∈ (w.vehicles v').auras ∧ (v' = v → u' ≠ u) := fun v' u' => by
      rw [hauras₃, hsame₂.auras]
      exact hauras₁ v' u'
    refine ⟨w₃, hok₃, hinv₃, ⟨fun v' seat u' hu' => ?_, fun v' id hid e he => ?_⟩, hshrinks, hgone₃,
      fun u' v' hu' => ?_, fun v' u' hu' => ((hauras v' u').mp hu').1,
      fun hu => ((hauras v u).mp hu).2 rfl rfl⟩
    · refine (hauras v' u').mpr ⟨haura.seated v' seat u' (hshrinks.passenger v' seat u' hu'), ?_⟩
      rintro rfl rfl
      exact hgone₃ (hinv₃.seated v' seat u' hu').1
    · obtain ⟨hid', hsame⟩ := hshrinks.pending v' id hid
      refine (hauras v' _).mpr ⟨haura.pending v' id hid' e (hsame.symm.trans he), ?_⟩
      rintro rfl
      obtain ⟨hid₂, hsame₂'⟩ := hshrinks₃.pending v' id hid
      exact hfree₂ id hid₂ e (hsame₂'.symm.trans he)
    · have hold := hvehicle₃ u' v' hu'
      rw [hsame₂.m_vehicle] at hold
      exact hold
  · rw [if_neg hmem]
    refine ⟨w, rfl, h, haura, Shrinks.refl w, fun hon => ?_, fun _ _ => id, fun _ _ => id, hmem⟩
    obtain ⟨seat, hseat⟩ := h.rides u v hon
    exact hmem (haura.seated v seat u hseat)

theorem Inv.exitVehicle (h : Inv w x) (haura : AuraSound w) (u : UnitId) :
    ∃ w', w.exitVehicle u = .ok w' ∧ Inv w' x ∧ AuraSound w' ∧ Shrinks w w' ∧
      (∀ u' v', w'.m_vehicle u' = some v' → w.m_vehicle u' = some v') ∧
      ∀ v, w.m_vehicle u = some v → w'.m_vehicle u = none := by
  unfold World.exitVehicle
  cases hon : w.m_vehicle u with
  | none => exact ⟨w, rfl, h, haura, Shrinks.refl w, fun _ _ => id, fun v hv => absurd hv nofun⟩
  | some v =>
    obtain ⟨w', hok, hinv, hleft⟩ := h.removeControlAuras haura v u
    refine ⟨w', hok, hinv, hleft.aura, hleft.shrinks, hleft.m_vehicle, fun v' _ => ?_⟩
    cases hafter : w'.m_vehicle u with
    | none => rfl
    | some v₁ =>
      have hbefore := hleft.m_vehicle u v₁ hafter
      rw [hon] at hbefore
      rw [Option.some.inj hbefore] at hleft
      exact absurd hafter hleft.gone

theorem AuraSound.sameSeats (haura : AuraSound w) (hs : Shrinks w w') (hsame : SameSeats w w') :
    AuraSound w' := by
  refine ⟨fun v seat u hu => ?_, fun v id hid e he => ?_⟩
  · rw [hsame.auras]
    exact haura.seated v seat u (hs.passenger v seat u hu)
  · obtain ⟨hid', hevents⟩ := hs.pending v id hid
    rw [hsame.auras]
    exact haura.pending v id hid' e (hevents.symm.trans he)

theorem Inv.removeAllAuras (v : VehicleId) (l : List UnitId) (h : Inv w x) (haura : AuraSound w) :
    ∃ w', l.foldlM (fun w u => w.removeControlAuras v u) w = .ok w' ∧ Inv w' x ∧ AuraSound w' ∧
      Shrinks w w' := by
  induction l generalizing w with
  | nil => exact ⟨w, rfl, h, haura, Shrinks.refl w⟩
  | cons u l ih =>
    obtain ⟨w₁, hok₁, hinv₁, hleft₁⟩ := h.removeControlAuras haura v u
    obtain ⟨w', hok, hinv, haura', hshrinks⟩ := ih hinv₁ hleft₁.aura
    refine ⟨w', ?_, hinv, haura', hleft₁.shrinks.trans hshrinks⟩
    rw [List.foldlM_cons, hok₁]
    exact hok

def cancelAs (v : VehicleId) (target : Option VehicleId) (w : World) (id : EventId) :
    Except Fault World :=
  match w.events id with
  | none => .error .deadEvent
  | some e => .ok (w.cancel v id e target)

theorem Inv.removeAllPassengers (h : Inv w x) (haura : AuraSound w) (v : VehicleId) :
    ∃ w', w.removeAllPassengers v = .ok w' ∧ Inv w' x ∧ AuraSound w' ∧ Shrinks w w' ∧
      (w'.vehicles v).pendingJoinEvents = [] := by
  obtain ⟨target, htarget⟩ : ∃ target, target =
      if (w.vehicles v).status ≠ .STATUS_UNINSTALLING then some v else none := ⟨_, rfl⟩
  obtain ⟨w₁, hok₁, hinv₁, hshrinks₁, hsame₁, hnone₁⟩ := h.cancelLoop v
    (cancelAs v target) (fun _ => False)
    fun w₁ id e _ he₁ _ _ => by
      refine Or.inl ⟨target, ?_⟩
      rw [cancelAs, he₁]
  obtain ⟨w', hok, hinv, haura', hshrinks⟩ :=
    hinv₁.removeAllAuras v (w₁.vehicles v).auras (haura.sameSeats hshrinks₁ hsame₁)
  have hempty : (w₁.vehicles v).pendingJoinEvents = [] := by
    refine List.eq_nil_iff_forall_not_mem.mpr fun id hid => ?_
    obtain ⟨e, _, he, -⟩ := hinv₁.pending v id hid
    exact hnone₁ id hid e he
  refine ⟨w', ?_, hinv, haura', hshrinks₁.trans hshrinks, ?_⟩
  · unfold World.removeAllPassengers
    dsimp only
    rw [← htarget]
    change ((w.vehicles v).pendingJoinEvents.foldlM (cancelAs v target) w >>= fun w =>
      (w.vehicles v).auras.foldlM (fun w u => w.removeControlAuras v u) w) = _
    rw [hok₁]
    exact hok
  · by_contra hne
    exact hshrinks.ne_nil hne hempty

theorem Inv.uninstall (h : Inv w x) (haura : AuraSound w) (hstatus : StatusSound w)
    (v : VehicleId) :
    ∃ w', w.uninstall v = .ok w' ∧ Inv w' x ∧ AuraSound w' ∧ StatusSound w' ∧ Shrinks w w' := by
  unfold World.uninstall
  by_cases hagain : (w.vehicles v).status = .STATUS_UNINSTALLING ∧ (w.vehicles v).minion = false
  · rw [if_pos hagain]
    exact ⟨w, rfl, h, haura, hstatus, Shrinks.refl w⟩
  · rw [if_neg hagain]
    let f : Vehicle → Vehicle := fun vehicle => { vehicle with status := .STATUS_UNINSTALLING }
    have hfield : ∀ {α : Type} (field : Vehicle → α), (∀ vehicle status,
        field { vehicle with status := status } = field vehicle) →
        ∀ v', field ((w.modify v f).vehicles v') = field (w.vehicles v') :=
      fun field hkeep => modify_field w v f field fun vehicle => hkeep vehicle _
    have hpassenger := hfield Vehicle.passenger fun _ _ => rfl
    have hauras := hfield Vehicle.auras fun _ _ => rfl
    have hpending := hfield Vehicle.pendingJoinEvents fun _ _ => rfl
    have haura₁ : AuraSound (w.modify v f) := by
      refine ⟨fun v' seat u hu => ?_, fun v' id hid e he => ?_⟩
      · rw [hpassenger] at hu
        rw [hauras]
        exact haura.seated v' seat u hu
      · rw [hpending] at hid
        rw [hauras]
        exact haura.pending v' id hid e he
    obtain ⟨w', hok, hinv, haura', hshrinks, hempty⟩ :=
      (h.modify v f fun vehicle => ⟨vehicle.auras, _, rfl⟩).removeAllPassengers haura₁ v
    have hother : ∀ v', (w'.vehicles v').pendingJoinEvents ≠ [] →
        (w'.vehicles v').status = (w.vehicles v').status := by
      intro v' hne
      rw [hshrinks.status v' hne, modify_vehicles]
      by_cases hv : v' = v
      · exact absurd (hv ▸ hempty) hne
      · rw [if_neg hv]
    have hshrinks' : Shrinks w w' := by
      refine ⟨fun v' => (hshrinks.seats v').trans (hfield Vehicle.Seats (fun _ _ => rfl) v'),
        hother, fun v' seat u hu => ?_, fun v' id hid => ?_, hshrinks.next, hshrinks.boarded⟩
      · exact hpassenger v' ▸ hshrinks.passenger v' seat u hu
      · obtain ⟨hid', hevents⟩ := hshrinks.pending v' id hid
        exact ⟨hpending v' ▸ hid', hevents⟩
    exact ⟨w', hok, hinv, haura', hstatus.shrinks hshrinks', hshrinks'⟩

end Leave

/-! ## 4. Boarding a vehicle -/

/-- **What holds between two operations.** -/
structure Sound (w : World) : Prop where
  inv : Inv w none
  aura : AuraSound w
  status : StatusSound w

section Board

variable {w w' : World} {v : VehicleId} {u : UnitId} {seat : SeatId}

theorem Inv.ne_next {x : Option EventId} {id : EventId} {e : VehicleJoinEvent} (h : Inv w x)
    (he : w.events id = some e) : id ≠ w.next := by
  rintro rfl
  exact absurd ((h.fresh _ le_rfl).symm.trans he) nofun

theorem Sound.scheduleAborted (h : Sound w) (v : VehicleId) (u : UnitId) :
    Sound (w.scheduleAborted v u) := by
  have hold : ∀ id, id ≠ w.next → (w.scheduleAborted v u).events id = w.events id :=
    fun id hne => Function.update_of_ne hne ..
  have hnew : (w.scheduleAborted v u).events w.next =
      some { Target := some v, Passenger := u, to_Abort := true } := Function.update_self ..
  have hne : ∀ id e, w.events id = some e → id ≠ w.next := fun _ _ => h.inv.ne_next
  refine ⟨⟨h.inv.seats, h.inv.usable, h.inv.seated, h.inv.once, h.inv.rides, h.inv.nodup,
    fun v' id hid => ?_, fun id e he habort => ?_, fun id hle => ?_, fun b hb => ?_⟩,
    ⟨h.aura.seated, fun v' id hid e he => ?_⟩, h.status⟩
  · obtain ⟨e, seat, he, hrest⟩ := h.inv.pending v' id hid
    exact ⟨e, seat, (hold id (hne id e he)).trans he, hrest⟩
  · by_cases heq : id = w.next
    · rw [heq, hnew] at he
      obtain rfl := Option.some.inj he
      exact absurd habort nofun
    · exact h.inv.waiting id e ((hold id heq).symm.trans he) habort
  · have hlt : w.next < id := hle
    exact (hold id hlt.ne').trans (h.inv.fresh id hlt.le)
  · obtain ⟨hstatus, hbefore, hlt, hdone⟩ := h.inv.boarded b hb
    refine ⟨hstatus, hbefore, Nat.lt_succ_of_lt hlt, fun e he => hdone e ?_⟩
    exact (hold _ hlt.ne).symm.trans he
  · obtain ⟨e', _, he', -⟩ := h.inv.pending v' id hid
    exact h.aura.pending v' id hid e ((hold id (hne id e' he')).symm.trans he)

theorem schedulePending_vehicles (v' : VehicleId) : (w.schedulePending v u seat).vehicles v' =
    if v' = v then { w.vehicles v' with
      pendingJoinEvents := (w.vehicles v').pendingJoinEvents ++ [w.next] }
    else w.vehicles v' :=
  modify_vehicles (w.schedule { Target := some v, Passenger := u, Seat := some seat }) v
    (fun vehicle => { vehicle with pendingJoinEvents := vehicle.pendingJoinEvents ++ [w.next] }) v'

theorem schedulePending_field {α : Type} (field : Vehicle → α)
    (h : ∀ vehicle l, field { vehicle with pendingJoinEvents := l } = field vehicle)
    (v' : VehicleId) :
    field ((w.schedulePending v u seat).vehicles v') = field (w.vehicles v') := by
  rw [schedulePending_vehicles]
  split
  · exact h _ _
  · rfl

theorem mem_schedulePending {v' : VehicleId} {id : EventId}
    (hid : id ∈ ((w.schedulePending v u seat).vehicles v').pendingJoinEvents) :
    id ∈ (w.vehicles v').pendingJoinEvents ∨ v' = v ∧ id = w.next := by
  rw [schedulePending_vehicles] at hid
  split at hid
  · next hv =>
    rcases List.mem_append.mp hid with hold | hnew
    · exact Or.inl hold
    · exact Or.inr ⟨hv, List.mem_singleton.mp hnew⟩
  · exact Or.inl hid

theorem Sound.schedulePending (h : Sound w) (hseat : seat ∈ (w.vehicles v).Seats.map Prod.fst)
    (hfree : w.m_vehicle u ≠ some v) (haura : u ∈ (w.vehicles v).auras)
    (hstatus : (w.vehicles v).status ≠ .STATUS_UNINSTALLING) :
    Inv (w.schedulePending v u seat) (some w.next) ∧ AuraSound (w.schedulePending v u seat) ∧
      StatusSound (w.schedulePending v u seat) := by
  have hseats : ∀ v', ((w.schedulePending v u seat).vehicles v').Seats = (w.vehicles v').Seats :=
    schedulePending_field Vehicle.Seats fun _ _ => rfl
  have hpassenger : ∀ v', ((w.schedulePending v u seat).vehicles v').passenger =
      (w.vehicles v').passenger := schedulePending_field Vehicle.passenger fun _ _ => rfl
  have hauras : ∀ v', ((w.schedulePending v u seat).vehicles v').auras = (w.vehicles v').auras :=
    schedulePending_field Vehicle.auras fun _ _ => rfl
  have hold : ∀ id, id ≠ w.next → (w.schedulePending v u seat).events id = w.events id :=
    fun id hne => Function.update_of_ne hne ..
  have hnew : (w.schedulePending v u seat).events w.next =
      some { Target := some v, Passenger := u, Seat := some seat } := Function.update_self ..
  have hne : ∀ id e, w.events id = some e → id ≠ w.next := fun _ _ => h.inv.ne_next
  have hnotmem : ∀ v', w.next ∉ (w.vehicles v').pendingJoinEvents := by
    intro v' hmem
    obtain ⟨e, _, he, -⟩ := h.inv.pending v' _ hmem
    exact hne _ e he rfl
  refine ⟨⟨fun v' => ?_, fun v' => ?_, fun v' => ?_, fun v' => ?_, fun u' v' => ?_, fun v' => ?_,
    fun v' id hid => ?_, fun id e he habort => ?_, fun id hle => ?_, fun b hb => ?_⟩,
    ⟨fun v' => ?_, fun v' id hid e he => ?_⟩, fun v' hnil => ?_⟩
  · rw [hseats]
    exact h.inv.seats v'
  · rw [schedulePending_field Vehicle.UsableSeatNum fun _ _ => rfl,
      schedulePending_field Vehicle.usable fun _ _ => rfl]
    exact h.inv.usable v'
  · rw [hpassenger, hseats]
    exact h.inv.seated v'
  · rw [hpassenger]
    exact h.inv.once v'
  · rw [hpassenger]
    exact h.inv.rides u' v'
  · rw [schedulePending_vehicles]
    split
    · refine List.nodup_append.mpr ⟨h.inv.nodup v', List.nodup_singleton _, ?_⟩
      rintro id hid _ hlast rfl
      exact hnotmem v' (List.mem_singleton.mp hlast ▸ hid)
    · exact h.inv.nodup v'
  · rw [hseats, hpassenger]
    rcases mem_schedulePending hid with hmem | ⟨rfl, rfl⟩
    · obtain ⟨e, seat', he, habort, ht, hseat', hkey, hempty, hride⟩ := h.inv.pending v' id hmem
      exact ⟨e, seat', (hold id (hne id e he)).trans he, habort, ht, hseat', hkey,
        hempty.imp_right nofun, hride⟩
    · exact ⟨_, seat, hnew, rfl, rfl, rfl, hseat, Or.inr rfl, hfree⟩
  · by_cases heq : id = w.next
    · rw [heq, hnew] at he
      obtain rfl := Option.some.inj he
      refine ⟨v, rfl, ?_⟩
      rw [heq, schedulePending_vehicles, if_pos rfl]
      exact List.mem_append_right _ (List.mem_singleton_self _)
    · obtain ⟨v', ht, hmem⟩ := h.inv.waiting id e ((hold id heq).symm.trans he) habort
      refine ⟨v', ht, ?_⟩
      rw [schedulePending_vehicles]
      split
      · exact List.mem_append_left _ hmem
      · exact hmem
  · have hlt : w.next < id := hle
    exact (hold id hlt.ne').trans (h.inv.fresh id hlt.le)
  · obtain ⟨hnot, hbefore, hlt, hdone⟩ := h.inv.boarded b hb
    refine ⟨hnot, hbefore, Nat.lt_succ_of_lt hlt, fun e he => hdone e ?_⟩
    exact (hold _ hlt.ne).symm.trans he
  · rw [hpassenger, hauras]
    exact h.aura.seated v'
  · rw [hauras]
    rcases mem_schedulePending hid with hmem | ⟨rfl, rfl⟩
    · obtain ⟨e', _, he', -⟩ := h.inv.pending v' id hmem
      exact h.aura.pending v' id hmem e ((hold id (hne id e' he')).symm.trans he)
    · rw [hnew] at he
      obtain rfl := Option.some.inj he
      exact haura
  · rw [schedulePending_field Vehicle.status fun _ _ => rfl]
    by_cases hv : v' = v
    · rw [hv]
      exact hstatus
    · rw [schedulePending_vehicles, if_neg hv] at hnil
      exact h.status v' hnil

theorem Inv.settled {id : EventId} (h : Inv w (some id))
    (hempty : ∀ v e seat, id ∈ (w.vehicles v).pendingJoinEvents → w.events id = some e →
      e.Target = some v → e.Seat = some seat → (w.vehicles v).passenger seat = none) :
    Inv w none := by
  refine ⟨h.seats, h.usable, h.seated, h.once, h.rides, h.nodup, fun v id' hid => ?_, h.waiting,
    h.fresh, h.boarded⟩
  obtain ⟨e, seat, he, habort, ht, hseat, hkey, hnone, hride⟩ := h.pending v id' hid
  refine ⟨e, seat, he, habort, ht, hseat, hkey, Or.inl ?_, hride⟩
  rcases hnone with hnone | hlast
  · exact hnone
  · obtain rfl := Option.some.inj hlast
    exact hempty v e seat hid he ht hseat

theorem Inv.boardable (hinv : Inv w' (some w.next))
    (hshrinks : Shrinks (w.schedulePending v u seat) w')
    (hempty : (w'.vehicles v).passenger seat = none) : Inv w' none := by
  refine hinv.settled fun v' e seat' hid he ht hseat => ?_
  obtain ⟨-, hsame⟩ := hshrinks.pending v' _ hid
  have hnew : (w.schedulePending v u seat).events w.next =
      some { Target := some v, Passenger := u, Seat := some seat } := Function.update_self ..
  obtain rfl := Option.some.inj (hnew.symm.trans (hsame.symm.trans he))
  obtain rfl := Option.some.inj ht
  obtain rfl := Option.some.inj hseat
  exact hempty

theorem Sound.addPassenger (h : Sound w) (hfree : w.m_vehicle u ≠ some v)
    (haura : u ∈ (w.vehicles v).auras) (seatId : SeatId) (arena dismiss : Bool) :
    ∃ w', w.addPassenger v u seatId arena dismiss = .ok w' ∧ Sound w' := by
  unfold World.addPassenger
  by_cases harena : arena = true
  · rw [if_pos harena]
    exact ⟨w, rfl, h⟩
  rw [if_neg harena]
  by_cases hstatus : (w.vehicles v).status = .STATUS_UNINSTALLING
  · rw [if_pos hstatus]
    exact ⟨w, rfl, h⟩
  rw [if_neg hstatus]
  by_cases hneg : seatId < 0
  · rw [if_pos hneg]
    split
    · exact ⟨_, rfl, h.scheduleAborted v u⟩
    · next s hfind =>
      have hkey : s.1 ∈ (w.vehicles v).Seats.map Prod.fst :=
        List.mem_map_of_mem (List.mem_of_find?_eq_some hfind)
      have hempty : (w.vehicles v).passenger s.1 = none := by
        have hsome := List.find?_some hfind
        rw [Bool.and_eq_true, Option.isNone_iff_eq_none] at hsome
        exact hsome.1
      obtain ⟨hinv, haura', hstatus'⟩ := h.schedulePending hkey hfree haura hstatus
      refine ⟨_, rfl, hinv.boardable (Shrinks.refl _) ?_, haura', hstatus'⟩
      rw [schedulePending_field Vehicle.passenger fun _ _ => rfl]
      exact hempty
  · rw [if_neg hneg]
    split
    · exact ⟨_, rfl, h.scheduleAborted v u⟩
    · next s hfind =>
      have hkey : s.1 ∈ (w.vehicles v).Seats.map Prod.fst :=
        List.mem_map_of_mem (List.mem_of_find?_eq_some hfind)
      obtain ⟨hinv₁, haura₁, hstatus₁⟩ := h.schedulePending hkey hfree haura hstatus
      have hend : ∀ w₂, Inv w₂ (some w.next) → AuraSound w₂ → StatusSound w₂ →
          Shrinks (w.schedulePending v u s.1) w₂ → (w₂.vehicles v).passenger s.1 = none →
          ∃ w', (if ((w₂.vehicles v).passenger s.1).isNone = true then Except.ok w₂
            else Except.error Fault.assertSeatEmpty) = .ok w' ∧ Sound w' := by
        intro w₂ hinv₂ haura₂ hstatus₂ hshrinks₂ hempty₂
        rw [hempty₂]
        exact ⟨w₂, rfl, hinv₂.boardable hshrinks₂ hempty₂, haura₂, hstatus₂⟩
      dsimp only
      cases hsits : ((w.schedulePending v u s.1).vehicles v).passenger s.1 with
      | none => exact hend _ hinv₁ haura₁ hstatus₁ (Shrinks.refl _) hsits
      | some p =>
        -- whoever sits there is kicked off
        obtain ⟨w₂, hok₂, hinv₂, haura₂, hshrinks₂, -, hgone₂⟩ := hinv₁.exitVehicle haura₁ p
        have hstatus₂ := hstatus₁.shrinks hshrinks₂
        have hempty₂ : (w₂.vehicles v).passenger s.1 = none := by
          cases hstill : (w₂.vehicles v).passenger s.1 with
          | none => rfl
          | some p' =>
            have hsame := hshrinks₂.passenger v s.1 p' hstill
            obtain rfl := Option.some.inj (hsits.symm.trans hsame)
            have hon := (hinv₂.seated v s.1 p hstill).1
            exact absurd (hon.symm.trans (hgone₂ v (hinv₁.seated v s.1 p hsits).1)) nofun
        dsimp only
        rw [hok₂]
        by_cases hdismiss : dismiss = true
        · obtain ⟨w₃, hok₃, hinv₃, haura₃, hstatus₃, hshrinks₃⟩ :=
            hinv₂.uninstall haura₂ hstatus₂ v
          have hempty₃ : (w₃.vehicles v).passenger s.1 = none := by
            cases hstill : (w₃.vehicles v).passenger s.1 with
            | none => rfl
            | some p' =>
              exact absurd (hempty₂.symm.trans (hshrinks₃.passenger v s.1 p' hstill)) nofun
          obtain ⟨w', hok, hsound⟩ := hend w₃ hinv₃ haura₃ hstatus₃ (hshrinks₂.trans hshrinks₃) hempty₃
          refine ⟨w', ?_, hsound⟩
          refine (if_pos hdismiss).trans ?_
          rw [hok₃]
          exact hok
        · obtain ⟨w', hok, hsound⟩ := hend w₂ hinv₂ haura₂ hstatus₂ hshrinks₂ hempty₂
          exact ⟨w', (if_neg hdismiss).trans hok, hsound⟩

theorem Sound.enterVehicle (h : Sound w) (v : VehicleId) (u : UnitId) (seatId : SeatId)
    (arena dismiss : Bool) :
    ∃ w', w.enterVehicle v u seatId arena dismiss = .ok w' ∧ Sound w' := by
  unfold World.enterVehicle
  by_cases hon : w.m_vehicle u = none
  · rw [if_neg (not_not.mpr hon)]
    let f : Vehicle → Vehicle := fun vehicle => { vehicle with auras := u :: vehicle.auras }
    have hfield : ∀ {α : Type} (field : Vehicle → α), (∀ vehicle l,
        field { vehicle with auras := l } = field vehicle) →
        ∀ v', field ((w.modify v f).vehicles v') = field (w.vehicles v') :=
      fun field hkeep => modify_field w v f field fun vehicle => hkeep vehicle _
    have hpassenger := hfield Vehicle.passenger fun _ _ => rfl
    have hpending := hfield Vehicle.pendingJoinEvents fun _ _ => rfl
    have hmore : ∀ v' u', u' ∈ (w.vehicles v').auras → u' ∈ ((w.modify v f).vehicles v').auras := by
      intro v' u' hmem
      rw [modify_vehicles]
      split
      · exact List.mem_cons_of_mem u hmem
      · exact hmem
    have hsound : Sound (w.modify v f) := by
      refine ⟨h.inv.modify v f fun vehicle => ⟨_, vehicle.status, rfl⟩,
        ⟨fun v' seat u' hu' => hmore v' u' ?_, fun v' id hid e he => hmore v' _ ?_⟩,
        fun v' hne => ?_⟩
      · rw [hpassenger] at hu'
        exact h.aura.seated v' seat u' hu'
      · rw [hpending] at hid
        exact h.aura.pending v' id hid e he
      · rw [hpending] at hne
        rw [hfield Vehicle.status fun _ _ => rfl]
        exact h.status v' hne
    refine hsound.addPassenger (by change w.m_vehicle u ≠ _; rw [hon]; exact nofun) ?_ seatId arena
      dismiss
    rw [modify_vehicles, if_pos rfl]
    exact List.mem_cons_self
  · rw [if_pos hon]
    exact ⟨w, rfl, h⟩

end Board

/-! ## 5. The event queue -/

section Queue

variable {w w' : World} {v : VehicleId} {u : UnitId} {id : EventId} {e : VehicleJoinEvent}
  {s : SeatId × VehicleSeatEntry}

/-- The world after a passenger has taken its seat. -/
def World.board (w : World) (id : EventId) (v : VehicleId) (u : UnitId)
    (s : SeatId × VehicleSeatEntry) : World :=
  { w.modify v fun vehicle =>
      { vehicle with
        UsableSeatNum :=
          if s.2.canEnterOrExit then vehicle.UsableSeatNum - 1 else vehicle.UsableSeatNum
        passenger := Function.update vehicle.passenger s.1 (some u) } with
    m_vehicle := Function.update w.m_vehicle u (some v)
    boarded := ⟨id, (w.vehicles v).status, (w.vehicles v).passenger s.1⟩ :: w.boarded }

theorem board_vehicles (v' : VehicleId) :
    (w.board id v u s).vehicles v' = if v' = v then
      { w.vehicles v' with
        UsableSeatNum := if s.2.canEnterOrExit then (w.vehicles v').UsableSeatNum - 1
          else (w.vehicles v').UsableSeatNum
        passenger := Function.update (w.vehicles v').passenger s.1 (some u) }
      else w.vehicles v' := by
  simp only [World.board, modify_vehicles]

theorem board_passenger (v' : VehicleId) (seat : SeatId) :
    ((w.board id v u s).vehicles v').passenger seat =
      if v' = v ∧ seat = s.1 then some u else (w.vehicles v').passenger seat := by
  rw [board_vehicles]
  by_cases hv : v' = v
  · rw [if_pos hv]
    by_cases hseat : seat = s.1
    · refine Eq.trans ?_ (if_pos ⟨hv, hseat⟩).symm
      rw [hseat]
      exact Function.update_self ..
    · refine Eq.trans ?_ (if_neg fun hboth => hseat hboth.2).symm
      exact Function.update_of_ne hseat ..
  · rw [if_neg hv, if_neg fun hboth => hv hboth.1]

theorem Inv.usable_pos {x : Option EventId} (h : Inv w x) (hs : s ∈ (w.vehicles v).Seats)
    (hempty : (w.vehicles v).passenger s.1 = none) (hcan : s.2.canEnterOrExit = true) :
    0 < (w.vehicles v).UsableSeatNum := by
  rw [h.usable v]
  refine List.countP_pos_iff.mpr ⟨s, hs, ?_⟩
  rw [hcan, hempty]
  rfl

theorem Inv.takeSeat {x : Option EventId} (h : Inv w x) {seat : SeatId}
    (hkey : seat ∈ (w.vehicles v).Seats.map Prod.fst)
    (hempty : (w.vehicles v).passenger seat = none) (id : EventId) (u : UnitId) :
    ∃ s ∈ (w.vehicles v).Seats, s.1 = seat ∧
      w.takeSeat id v u seat = .ok (w.board id v u s) := by
  unfold World.takeSeat
  split
  · next hnone =>
    obtain ⟨s, hs, rfl⟩ := List.mem_map.mp hkey
    exact absurd rfl (of_decide_eq_false (Bool.eq_false_of_not_eq_true
      (List.find?_eq_none.mp hnone s hs)))
  · next s hfind =>
    have hs := List.mem_of_find?_eq_some hfind
    have hsome := List.find?_some hfind
    obtain rfl : s.1 = seat := of_decide_eq_true hsome
    refine ⟨s, hs, rfl, ?_⟩
    unfold World.board
    dsimp only
    by_cases hcan : s.2.canEnterOrExit = true
    · rw [if_pos hcan, if_neg (h.usable_pos hs hempty hcan).ne']
      simp [World.modify, hcan]
    · rw [if_neg hcan]
      simp [World.modify, hcan]

/-- **A unit that is on no vehicle takes its seat**, after the other events for the seat and for
the unit are cancelled. -/
theorem Sound.board (h : Sound w) (hs : s ∈ (w.vehicles v).Seats)
    (hempty : (w.vehicles v).passenger s.1 = none) (hfree : w.m_vehicle u = none)
    (hseat : ∀ id ∈ (w.vehicles v).pendingJoinEvents, ∀ e, w.events id = some e →
      e.Seat ≠ some s.1)
    (hother : ∀ id ∈ (w.vehicles v).pendingJoinEvents, ∀ e, w.events id = some e →
      e.Passenger ≠ u)
    (haura : u ∈ (w.vehicles v).auras) (hstatus : (w.vehicles v).status ≠ .STATUS_UNINSTALLING)
    (hlt : id < w.next) (hdone : ∀ e, w.events id = some e → e.to_Abort = true) :
    Sound (w.board id v u s) := by
  have hfield : ∀ {α : Type} (field : Vehicle → α), (∀ vehicle n p, field
      { vehicle with UsableSeatNum := n, passenger := p } = field vehicle) →
      ∀ v', field ((w.board id v u s).vehicles v') = field (w.vehicles v') := by
    intro α field hkeep v'
    rw [board_vehicles]
    split
    · exact hkeep _ _ _
    · rfl
  have hseats := hfield Vehicle.Seats fun _ _ _ => rfl
  have hpending := hfield Vehicle.pendingJoinEvents fun _ _ _ => rfl
  have hauras := hfield Vehicle.auras fun _ _ _ => rfl
  have hself : (w.board id v u s).m_vehicle u = some v := Function.update_self ..
  have hrest : ∀ u', u' ≠ u → (w.board id v u s).m_vehicle u' = w.m_vehicle u' :=
    fun u' hne => Function.update_of_ne hne ..
  have hnowhere : ∀ v' seat, (w.vehicles v').passenger seat ≠ some u := by
    intro v' seat hsits
    exact absurd (hfree.symm.trans (h.inv.seated v' seat u hsits).1) nofun
  have hsits : ∀ v' seat u', ((w.board id v u s).vehicles v').passenger seat = some u' →
      (v' = v ∧ seat = s.1 ∧ u' = u) ∨ (w.vehicles v').passenger seat = some u' ∧ u' ≠ u := by
    intro v' seat u' hu'
    rw [board_passenger] at hu'
    split at hu'
    · next hboth => exact Or.inl ⟨hboth.1, hboth.2, (Option.some.inj hu').symm⟩
    · refine Or.inr ⟨hu', ?_⟩
      rintro rfl
      exact hnowhere v' seat hu'
  refine ⟨⟨fun v' => ?_, fun v' => ?_, fun v' seat u' hu' => ?_,
    fun v' seat seat' u' hu' hu'' => ?_, fun u' v' hu' => ?_, fun v' => ?_, fun v' id' hid => ?_,
    fun id' e he habort => ?_, h.inv.fresh, fun b hb => ?_⟩,
    ⟨fun v' seat u' hu' => ?_, fun v' id' hid e he => ?_⟩, fun v' hne => ?_⟩
  · rw [hseats]
    exact h.inv.seats v'
  · by_cases hv : v' = v
    · subst hv
      have hcount := countP_update (h.inv.seats v') hs (w.vehicles v').passenger (some u)
      have hold := h.inv.usable v'
      have hpos := h.inv.usable_pos hs hempty
      unfold Vehicle.usable at hold ⊢
      rw [board_vehicles, if_pos rfl]
      dsimp only
      rw [hempty] at hcount
      simp only [Option.isNone_some, Option.isNone_none, Bool.and_false, Bool.and_true] at hcount
      rw [hold] at hpos ⊢
      split
      · next hcan =>
        rw [if_pos hcan] at hcount
        simp only [Bool.false_eq_true, if_false] at hcount
        omega
      · next hcan =>
        rw [if_neg hcan] at hcount
        simpa using hcount.symm
    · rw [board_vehicles, if_neg hv]
      exact h.inv.usable v'
  · rw [hseats]
    rcases hsits v' seat u' hu' with ⟨rfl, rfl, rfl⟩ | ⟨hold, hne⟩
    · exact ⟨hself, List.mem_map_of_mem hs⟩
    · rw [hrest u' hne]
      exact h.inv.seated v' seat u' hold
  · rcases hsits v' seat u' hu' with ⟨rfl, rfl, rfl⟩ | ⟨hold, hne⟩
    · rcases hsits v' seat' u' hu'' with ⟨-, rfl, -⟩ | ⟨-, hne⟩
      · rfl
      · exact absurd rfl hne
    · rcases hsits v' seat' u' hu'' with ⟨-, -, rfl⟩ | ⟨hold', -⟩
      · exact absurd rfl hne
      · exact h.inv.once v' seat seat' u' hold hold'
  · by_cases hne : u' = u
    · rw [hne, hself] at hu'
      obtain rfl := Option.some.inj hu'
      exact ⟨s.1, by rw [board_passenger, if_pos ⟨rfl, rfl⟩, hne]⟩
    · rw [hrest u' hne] at hu'
      obtain ⟨seat, hsit⟩ := h.inv.rides u' v' hu'
      refine ⟨seat, ?_⟩
      rw [board_passenger, if_neg]
      · exact hsit
      · rintro ⟨rfl, rfl⟩
        exact absurd (hempty.symm.trans hsit) nofun
  · rw [hpending]
    exact h.inv.nodup v'
  · rw [hpending] at hid
    obtain ⟨e, seat, he, habort, ht, hseat', hkey, hnone, hride⟩ := h.inv.pending v' id' hid
    rw [hseats]
    refine ⟨e, seat, he, habort, ht, hseat', hkey, Or.inl ?_, fun hon => ?_⟩
    · rw [board_passenger, if_neg]
      · exact hnone.resolve_right nofun
      · rintro ⟨rfl, rfl⟩
        exact hseat id' hid e he hseat'
    · by_cases hne : e.Passenger = u
      · rw [hne, hself] at hon
        obtain rfl := Option.some.inj hon
        exact hother id' hid e he hne
      · rw [hrest _ hne] at hon
        exact hride hon
  · obtain ⟨v', ht, hmem⟩ := h.inv.waiting id' e he habort
    exact ⟨v', ht, by rw [hpending]; exact hmem⟩
  · rcases List.mem_cons.mp hb with rfl | hb
    · exact ⟨hstatus, hempty, hlt, hdone⟩
    · exact h.inv.boarded b hb
  · rw [hauras]
    rcases hsits v' seat u' hu' with ⟨rfl, rfl, rfl⟩ | ⟨hold, hne⟩
    · exact haura
    · exact h.aura.seated v' seat u' hold
  · rw [hpending] at hid
    rw [hauras]
    exact h.aura.pending v' id' hid e he
  · rw [hpending] at hne
    rw [hfield Vehicle.status fun _ _ _ => rfl]
    exact h.status v' hne

/-- **`VehicleJoinEvent::Execute`**: the passenger takes a seat that is empty, in a vehicle that is
not being uninstalled, and nothing else is pending for the seat or the passenger. -/
theorem Sound.execute (h : Sound w) (he : w.events id = some e) (habort : e.to_Abort = false) :
    ∃ v s w', e.Target = some v ∧ w.execute id e = .ok (w'.board id v e.Passenger s) ∧
      w.m_vehicle e.Passenger ≠ some v ∧ SameSeats w w' ∧
      (w.m_vehicle e.Passenger = none → Sound (w'.board id v e.Passenger s)) := by
  obtain ⟨v, ht, hid⟩ := h.inv.waiting id e he habort
  obtain ⟨e', seat, he', -, -, hseat, hkey, hempty, hride⟩ := h.inv.pending v id hid
  obtain rfl := Option.some.inj (he.symm.trans he')
  have haura := h.aura.pending v id hid e he
  have hnot : (w.vehicles v).status ≠ .STATUS_UNINSTALLING :=
    h.status v (List.ne_nil_of_mem hid)
  obtain ⟨w₁, hok₁, hinv₁, hshrinks₁, hsame₁, hseat₁⟩ := h.inv.removePendingEventsForSeat v seat
  obtain ⟨w₂, hok₂, hinv₂, hshrinks₂, hsame₂, hother₂⟩ :=
    hinv₁.removePendingEventsForPassenger v e.Passenger
  have hshrinks := hshrinks₁.trans hshrinks₂
  have hsame := hsame₁.trans hsame₂
  have hempty₂ : (w₂.vehicles v).passenger seat = none := by
    rw [hsame.passenger]
    exact hempty.resolve_right nofun
  have hkey₂ : seat ∈ (w₂.vehicles v).Seats.map Prod.fst := by rw [hshrinks.seats]; exact hkey
  obtain ⟨s, hs, rfl, hok⟩ := hinv₂.takeSeat hkey₂ hempty₂ id e.Passenger
  refine ⟨v, s, w₂, ht, ?_, hride, hsame, fun hfree => ?_⟩
  · unfold World.execute
    rw [ht]
    dsimp only
    rw [if_neg (not_not.mpr haura), hseat]
    dsimp only
    rw [hok₁]
    change (w₁.removePendingEventsForPassenger v e.Passenger >>= fun w =>
      w.takeSeat id v e.Passenger s.1) = _
    rw [hok₂]
    exact hok
  · -- the executed event is among those that were cancelled
    have hdone : ∀ e', w₂.events id = some e' → e'.to_Abort = true := by
      intro e' he'
      by_contra hwait
      obtain ⟨v', ht', hmem⟩ := hinv₂.waiting id e' he' (Bool.eq_false_of_not_eq_true hwait)
      obtain ⟨-, hsameEvent⟩ := hshrinks.pending v' id hmem
      obtain rfl := Option.some.inj (he.symm.trans (hsameEvent.symm.trans he'))
      obtain rfl := Option.some.inj (ht.symm.trans ht')
      exact hother₂ id hmem e he' rfl
    have hlt : id < w₂.next := by
      by_contra hle
      rw [hshrinks.next] at hle
      exact absurd ((h.inv.fresh id (not_lt.mp hle)).symm.trans he) nofun
    have hsound : Sound w₂ :=
      ⟨hinv₂, h.aura.sameSeats hshrinks hsame, h.status.shrinks hshrinks⟩
    refine hsound.board hs hempty₂ (by rw [hsame.m_vehicle]; exact hfree) (fun id' hid' e' he' => ?_)
      hother₂ (by rw [hsame.auras]; exact haura) (by rw [hsame.status]; exact hnot) hlt hdone
    obtain ⟨hid₁, hevents⟩ := hshrinks₂.pending v id' hid'
    exact hseat₁ id' hid₁ e' (hevents.symm.trans he')

theorem Sound.abort (h : Sound w) (e : VehicleJoinEvent) :
    ∃ w', w.abort e = .ok w' ∧ Sound w' := by
  unfold World.abort
  split
  · exact ⟨w, rfl, h⟩
  · next v _ =>
    obtain ⟨w', hok, hinv, hleft⟩ := h.inv.removeControlAuras h.aura v e.Passenger
    exact ⟨w', hok, hinv, hleft.aura, h.status.shrinks hleft.shrinks⟩

theorem deleteEvent_vehicles (he : w.events id = some e) (v' : VehicleId) :
    (w.deleteEvent id).vehicles v' = { w.vehicles v' with
      pendingJoinEvents := if e.Target = some v' then (w.vehicles v').pendingJoinEvents.erase id
        else (w.vehicles v').pendingJoinEvents } := by
  unfold World.deleteEvent
  rw [he]
  dsimp only
  cases ht : e.Target with
  | none => rfl
  | some v =>
    dsimp only
    rw [modify_vehicles]
    by_cases hv : v' = v
    · rw [if_pos hv, if_pos (congrArg some hv.symm)]
    · rw [if_neg hv, if_neg fun heq => hv (Option.some.inj heq).symm]

theorem deleteEvent_rest (he : w.events id = some e) :
    (w.deleteEvent id).m_vehicle = w.m_vehicle ∧
      (w.deleteEvent id).events = Function.update w.events id none ∧
      (w.deleteEvent id).next = w.next ∧ (w.deleteEvent id).boarded = w.boarded := by
  unfold World.deleteEvent
  rw [he]
  dsimp only
  cases e.Target <;> exact ⟨rfl, rfl, rfl, rfl⟩

theorem deleteEvent_seats (v' : VehicleId) :
    ((w.deleteEvent id).vehicles v').passenger = (w.vehicles v').passenger ∧
      (w.deleteEvent id).m_vehicle = w.m_vehicle := by
  cases he : w.events id with
  | none =>
    unfold World.deleteEvent
    rw [he]
    exact ⟨rfl, rfl⟩
  | some e => exact ⟨by rw [deleteEvent_vehicles he], (deleteEvent_rest he).1⟩

theorem Sound.deleteEvent (h : Sound w) (id : EventId) : Sound (w.deleteEvent id) := by
  cases he : w.events id with
  | none =>
    have hsame : w.deleteEvent id = w := by
      unfold World.deleteEvent
      rw [he]
    rw [hsame]
    exact h
  | some e =>
    obtain ⟨hvehicle, hevents, hnext, hboarded⟩ := deleteEvent_rest he
    have hstill : ∀ id' e', (w.deleteEvent id).events id' = some e' →
        id' ≠ id ∧ w.events id' = some e' := by
      intro id' e' he'
      rw [hevents] at he'
      have hne : id' ≠ id := by
        rintro rfl
        exact absurd ((Function.update_self ..).symm.trans he') nofun
      exact ⟨hne, (Function.update_of_ne hne ..).symm.trans he'⟩
    have hpending : ∀ v' id', id' ∈ ((w.deleteEvent id).vehicles v').pendingJoinEvents →
        id' ∈ (w.vehicles v').pendingJoinEvents ∧ id' ≠ id := by
      intro v' id' hid
      rw [deleteEvent_vehicles he] at hid
      dsimp only at hid
      split at hid
      · exact (((h.inv.nodup v').mem_erase_iff).mp hid).symm
      · next hother =>
        refine ⟨hid, ?_⟩
        rintro rfl
        obtain ⟨e', _, he', -, ht', -⟩ := h.inv.pending v' id' hid
        obtain rfl := Option.some.inj (he.symm.trans he')
        exact hother ht'
    refine ⟨⟨fun v' => ?_, fun v' => ?_, fun v' => ?_, fun v' => ?_, fun u v' => ?_, fun v' => ?_,
      fun v' id' hid => ?_, fun id' e' he' habort => ?_, fun id' hle => ?_, fun b hb => ?_⟩,
      ⟨fun v' => ?_, fun v' id' hid e' he' => ?_⟩, fun v' hne => ?_⟩
    · rw [deleteEvent_vehicles he]
      exact h.inv.seats v'
    · rw [deleteEvent_vehicles he]
      exact h.inv.usable v'
    · rw [deleteEvent_vehicles he, hvehicle]
      exact h.inv.seated v'
    · rw [deleteEvent_vehicles he]
      exact h.inv.once v'
    · rw [deleteEvent_vehicles he, hvehicle]
      exact h.inv.rides u v'
    · rw [deleteEvent_vehicles he]
      dsimp only
      split
      · exact (h.inv.nodup v').erase id
      · exact h.inv.nodup v'
    · obtain ⟨hid', hne⟩ := hpending v' id' hid
      obtain ⟨e', seat, he', hrest⟩ := h.inv.pending v' id' hid'
      rw [deleteEvent_vehicles he, hvehicle, hevents]
      exact ⟨e', seat, (Function.update_of_ne hne ..).trans he', hrest⟩
    · obtain ⟨hne, hold⟩ := hstill id' e' he'
      obtain ⟨v', ht, hmem⟩ := h.inv.waiting id' e' hold habort
      refine ⟨v', ht, ?_⟩
      rw [deleteEvent_vehicles he]
      dsimp only
      split
      · exact (List.mem_erase_of_ne hne).mpr hmem
      · exact hmem
    · rw [hnext] at hle
      have hne : id' ≠ id := by
        rintro rfl
        exact absurd ((h.inv.fresh id' hle).symm.trans he) nofun
      rw [hevents]
      exact (Function.update_of_ne hne ..).trans (h.inv.fresh id' hle)
    · rw [hboarded] at hb
      rw [hnext]
      obtain ⟨hnot, hbefore, hlt, hdone⟩ := h.inv.boarded b hb
      exact ⟨hnot, hbefore, hlt, fun e' he' => hdone e' (hstill _ e' he').2⟩
    · rw [deleteEvent_vehicles he]
      exact h.aura.seated v'
    · rw [deleteEvent_vehicles he]
      exact h.aura.pending v' id' (hpending v' id' hid).1 e' (hstill id' e' he').2
    · rw [deleteEvent_vehicles he]
      refine h.status v' fun hnil => hne ?_
      rw [deleteEvent_vehicles he]
      dsimp only
      rw [hnil]
      split <;> rfl

theorem Sound.updateEvent (h : Sound w) (id : EventId)
    (hfree : ∀ e, w.events id = some e → e.to_Abort = false →
      ∀ v, w.m_vehicle e.Passenger = some v → e.Target = some v) :
    ∃ w', w.updateEvent id = .ok w' ∧ Sound w' := by
  unfold World.updateEvent
  split
  · exact ⟨w, rfl, h⟩
  · next e he =>
    by_cases habort : e.to_Abort = true
    · obtain ⟨w', hok, hsound⟩ := h.abort e
      refine ⟨w'.deleteEvent id, ?_, hsound.deleteEvent id⟩
      refine (if_pos habort).trans ?_
      rw [hok]
      rfl
    · have hwait := Bool.eq_false_of_not_eq_true habort
      obtain ⟨v, s, w', ht, hok, hride, -, hsound⟩ := h.execute he hwait
      have hnone : w.m_vehicle e.Passenger = none := by
        cases hon : w.m_vehicle e.Passenger with
        | none => rfl
        | some v' =>
          have hsame := hfree e he hwait v' hon
          rw [ht] at hsame
          exact absurd (Option.some.inj hsame ▸ hon) hride
      refine ⟨(w'.board id v e.Passenger s).deleteEvent id, ?_, (hsound hnone).deleteEvent id⟩
      refine (if_neg habort).trans ?_
      rw [hok]
      rfl

def World.mark (w : World) (id : EventId) (e : VehicleJoinEvent) : World :=
  { w with events := Function.update w.events id (some { e with to_Abort := true }) }

theorem mark_cancel_self (target : Option VehicleId) :
    (w.mark id e).cancel v id { e with to_Abort := true } target = w.cancel v id e target := by
  unfold World.cancel World.mark World.modify
  simp

theorem mark_cancel_of_ne {id' : EventId} (hne : id' ≠ id) (e' : VehicleJoinEvent)
    (target : Option VehicleId) :
    (w.mark id e).cancel v id' e' target = (w.cancel v id' e' target).mark id e := by
  unfold World.cancel World.mark World.modify
  dsimp only
  rw [Function.update_comm hne]

/-- One round of `RemovePendingEventsForPassenger`. -/
def cancelPassenger (v : VehicleId) (u : UnitId) (w : World) (id : EventId) :
    Except Fault World :=
  match w.events id with
  | none => .error .deadEvent
  | some e => do
    let b ← (.ok (decide (e.Passenger = u)) : Except Fault Bool)
    if b then .ok (w.cancel v id e e.Target) else .ok w

theorem foldlM_mark (l : List EventId) (hid : id ∈ l) (he : w.events id = some e)
    (hu : e.Passenger = u) :
    l.foldlM (cancelPassenger v u) (w.mark id e) = l.foldlM (cancelPassenger v u) w := by
  induction l generalizing w with
  | nil => exact absurd hid List.not_mem_nil
  | cons a l ih =>
    rw [List.foldlM_cons, List.foldlM_cons]
    by_cases ha : a = id
    · subst ha
      have hmark : (w.mark a e).events a = some { e with to_Abort := true } :=
        Function.update_self ..
      have hround : cancelPassenger v u (w.mark a e) a = cancelPassenger v u w a := by
        unfold cancelPassenger
        rw [hmark, he]
        dsimp only
        rw [decide_eq_true hu]
        exact congrArg Except.ok (mark_cancel_self e.Target)
      rw [hround]
    · have hin := (List.mem_cons.mp hid).resolve_left (Ne.symm ha)
      have hmark : (w.mark id e).events a = w.events a := Function.update_of_ne ha ..
      unfold cancelPassenger
      rw [hmark]
      cases w.events a with
      | none => rfl
      | some e' =>
        dsimp only
        by_cases hp : e'.Passenger = u
        · rw [decide_eq_true hp]
          change List.foldlM _ ((w.mark id e).cancel v a e' e'.Target) l =
            List.foldlM _ (w.cancel v a e' e'.Target) l
          rw [mark_cancel_of_ne ha]
          exact ih hin ((Function.update_of_ne (Ne.symm ha) ..).trans he)
        · rw [decide_eq_false hp]
          exact ih hin he

theorem Sound.abort_mark (h : Sound w) (he : w.events id = some e) :
    (w.mark id e).abort e = w.abort e := by
  by_cases habort : e.to_Abort = true
  · have hsame : w.mark id e = w := by
      have hself : ({ e with to_Abort := true } : VehicleJoinEvent) = e := by
        rw [← habort]
      unfold World.mark
      rw [hself, ← he, Function.update_eq_self]
    rw [hsame]
  · obtain ⟨v, ht, hid⟩ := h.inv.waiting id e he (Bool.eq_false_of_not_eq_true habort)
    have haura := h.aura.pending v id hid e he
    unfold World.abort
    rw [ht]
    dsimp only
    have haura' : e.Passenger ∈ ((w.mark id e).vehicles v).auras := haura
    unfold World.removeControlAuras
    rw [if_pos haura, if_pos haura']
    dsimp only
    let f : Vehicle → Vehicle := fun vehicle =>
      { vehicle with auras := vehicle.auras.filter fun caster => decide (caster ≠ e.Passenger) }
    have hloop : ((w.mark id e).modify v f).removePendingEventsForPassenger v e.Passenger =
        (w.modify v f).removePendingEventsForPassenger v e.Passenger := by
      have hpending : ((w.modify v f).vehicles v).pendingJoinEvents =
          (w.vehicles v).pendingJoinEvents :=
        modify_field w v f Vehicle.pendingJoinEvents (fun _ => rfl) v
      refine foldlM_mark (w := w.modify v f) _ ?_ he rfl
      change id ∈ ((w.modify v f).vehicles v).pendingJoinEvents
      rw [hpending]
      exact hid
    change (((w.mark id e).modify v f).removePendingEventsForPassenger v e.Passenger >>= _) = _
    rw [hloop]

theorem Sound.killEvent (h : Sound w) (id : EventId) :
    ∃ w', w.killEvent id = .ok w' ∧ Sound w' := by
  unfold World.killEvent
  split
  · exact ⟨w, rfl, h⟩
  · next e he =>
    obtain ⟨w', hok, hsound⟩ := h.abort e
    refine ⟨w'.deleteEvent id, ?_, hsound.deleteEvent id⟩
    change ((w.mark id e).abort e >>= fun w => .ok (w.deleteEvent id)) = _
    rw [h.abort_mark he, hok]
    rfl

end Queue

/-! ## 6. Runs -/

/-- **What the seats promise**, in one state. -/
structure SeatsAgree (w : World) : Prop where
  usable : ∀ v, (w.vehicles v).UsableSeatNum =
    (w.vehicles v).Seats.countP fun seat =>
      seat.2.canEnterOrExit && ((w.vehicles v).passenger seat.1).isNone
  seats : ∀ v seat u, (w.vehicles v).passenger seat = some u →
    seat ∈ (w.vehicles v).Seats.map Prod.fst
  seated : ∀ u v, w.m_vehicle u = some v ↔ ∃ seat, (w.vehicles v).passenger seat = some u
  once : ∀ u v v' seat seat', (w.vehicles v).passenger seat = some u →
    (w.vehicles v').passenger seat' = some u → v = v' ∧ seat = seat'
  pending : ∀ v, ∀ id ∈ (w.vehicles v).pendingJoinEvents, ∃ e, w.events id = some e ∧
    e.to_Abort = false ∧ ∀ b ∈ w.boarded, b.event ≠ id
  boarded : ∀ b ∈ w.boarded, b.status ≠ .STATUS_UNINSTALLING ∧ b.before = none

/-- A unit that is seated is on no other vehicle. -/
def Reseats (r : Except Fault World) (op : Op) : Prop :=
  match r, op with
  | .ok w, .updateEvent id => ∀ e, w.events id = some e → e.to_Abort = false →
      ∀ v, w.m_vehicle e.Passenger = some v → e.Target = some v
  | _, _ => True

theorem Sound.agree {w : World} (h : Sound w) : SeatsAgree w := by
  refine ⟨h.inv.usable, fun v seat u hu => (h.inv.seated v seat u hu).2,
    fun u v => ⟨h.inv.rides u v, ?_⟩, fun u v v' seat seat' hu hu' => ?_, fun v id hid => ?_,
    fun b hb => ?_⟩
  · rintro ⟨seat, hseat⟩
    exact (h.inv.seated v seat u hseat).1
  · obtain rfl := Option.some.inj
      ((h.inv.seated v seat u hu).1.symm.trans (h.inv.seated v' seat' u hu').1)
    exact ⟨rfl, h.inv.once v seat seat' u hu hu'⟩
  · obtain ⟨e, _, he, habort, -⟩ := h.inv.pending v id hid
    refine ⟨e, he, habort, ?_⟩
    rintro b hb rfl
    obtain ⟨-, -, -, hdone⟩ := h.inv.boarded b hb
    exact absurd ((hdone e he).symm.trans habort) nofun
  · obtain ⟨hstatus, hbefore, -⟩ := h.inv.boarded b hb
    exact ⟨hstatus, hbefore⟩

theorem Sound.perform {w : World} (h : Sound w) (op : Op) (hop : Reseats (.ok w) op) :
    ∃ w', op.perform w = .ok w' ∧ Sound w' := by
  cases op with
  | addPassenger v u seatId arena dismiss => exact h.enterVehicle v u seatId arena dismiss
  | updateEvent id => exact h.updateEvent id hop
  | killEvent id => exact h.killEvent id
  | removePassenger v u =>
    obtain ⟨w', hok, hinv, hshrinks, -, -, hauras⟩ := h.inv.removePassenger v u
    refine ⟨w', hok, hinv, ⟨fun v' seat u' hu' => ?_, fun v' id hid e he => ?_⟩,
      h.status.shrinks hshrinks⟩
    · rw [hauras]
      exact h.aura.seated v' seat u' (hshrinks.passenger v' seat u' hu')
    · obtain ⟨hid', hevents⟩ := hshrinks.pending v' id hid
      rw [hauras]
      exact h.aura.pending v' id hid' e (hevents.symm.trans he)
  | exitVehicle u =>
    obtain ⟨w', hok, hinv, haura, hshrinks, -, -⟩ := h.inv.exitVehicle h.aura u
    exact ⟨w', hok, hinv, haura, h.status.shrinks hshrinks⟩
  | removeAllPassengers v =>
    obtain ⟨w', hok, hinv, haura, hshrinks, -⟩ := h.inv.removeAllPassengers h.aura v
    exact ⟨w', hok, hinv, haura, h.status.shrinks hshrinks⟩
  | uninstall v =>
    obtain ⟨w', hok, hinv, haura, hstatus, -⟩ := h.inv.uninstall h.aura h.status v
    exact ⟨w', hok, hinv, haura, hstatus⟩

theorem Sound.reseated {w : World} (h : Sound w) {op : Op} (hop : ¬ Reseats (.ok w) op) :
    ¬ Outcome SeatsAgree (fun _ => False) (op.perform w) := by
  cases op with
  | updateEvent id =>
    obtain ⟨e, he, habort, v₁, hon, hother⟩ : ∃ e, w.events id = some e ∧ e.to_Abort = false ∧
        ∃ v₁, w.m_vehicle e.Passenger = some v₁ ∧ e.Target ≠ some v₁ := by
      by_contra hno
      refine hop fun e he habort v₁ hon => ?_
      by_contra hother
      exact hno ⟨e, he, habort, v₁, hon, hother⟩
    obtain ⟨v, s, w', ht, hok, -, hsame, -⟩ := h.execute he habort
    have hne : v₁ ≠ v := by
      rintro rfl
      exact hother ht
    obtain ⟨seat, hseat⟩ := h.inv.rides _ _ hon
    have hperform : Op.perform w (.updateEvent id) =
        .ok ((w'.board id v e.Passenger s).deleteEvent id) := by
      change w.updateEvent id = _
      unfold World.updateEvent
      rw [he]
      refine (if_neg (by rw [habort]; exact nofun)).trans ?_
      rw [hok]
      rfl
    rw [hperform]
    intro hagree
    have hstill : (((w'.board id v e.Passenger s).deleteEvent id).vehicles v₁).passenger seat =
        some e.Passenger := by
      rw [(deleteEvent_seats _).1, board_passenger, if_neg fun hboth => hne hboth.1,
        hsame.passenger]
      exact hseat
    have hmoved : ((w'.board id v e.Passenger s).deleteEvent id).m_vehicle e.Passenger =
        some v := by
      rw [(deleteEvent_seats v₁).2]
      exact Function.update_self ..
    have hback := (hagree.seated e.Passenger v₁).mpr ⟨seat, hstill⟩
    exact hne (Option.some.inj (hback.symm.trans hmoved))
  | _ => exact absurd trivial hop

theorem create_nodup (m_seatID : Fin 8 → Option VehicleSeatEntry) (minion : Bool) :
    ((Vehicle.create m_seatID minion).Seats.map Prod.fst).Nodup := by
  unfold Vehicle.create
  rw [List.map_filterMap]
  refine List.Nodup.filterMap (fun i j seat hi hj => ?_) (List.nodup_finRange 8)
  rw [Option.map_map] at hi hj
  obtain ⟨_, -, rfl⟩ := Option.map_eq_some_iff.mp hi
  obtain ⟨_, -, heq⟩ := Option.map_eq_some_iff.mp hj
  exact Fin.ext (Int.ofNat.inj heq).symm

theorem installed_sound (seats : VehicleId → Fin 8 → Option VehicleSeatEntry)
    (minion : VehicleId → Bool) : Sound (World.installed seats minion) := by
  refine ⟨⟨fun v => create_nodup (seats v) (minion v), fun v => ?_, nofun, nofun, nofun,
    fun _ => List.nodup_nil, nofun, nofun, fun _ _ => rfl, nofun⟩, ⟨nofun, nofun⟩,
    fun _ hne => absurd rfl hne⟩
  refine List.countP_congr fun seat _ => ?_
  simp [World.installed, Vehicle.create]

/-- **The seats of all vehicles**: whatever is done, in whatever order, they agree with the counts,
the vehicle pointers and the pending events as long as no unit is seated that is still on another
vehicle, and no longer. -/
theorem seats_agree (seats : VehicleId → Fin 8 → Option VehicleSeatEntry)
    (minion : VehicleId → Bool) (ops : List Op) :
    States step (Outcome SeatsAgree fun _ => False) (.ok (World.installed seats minion)) ops ↔
      Steps step Reseats (.ok (World.installed seats minion)) ops := by
  refine States.iff_steps (I := Outcome Sound fun _ => False)
    (fun r hr => hr.imp fun w hw => hw.agree) (fun r op hr hop => ?_) (fun r op hr hop => ?_) ?_ ops
  · cases r with
    | error fault => exact absurd hr id
    | ok w =>
      obtain ⟨w', hok, hsound⟩ := Sound.perform hr op hop
      change Outcome _ _ (op.perform w)
      rw [hok]
      exact hsound
  · cases r with
    | error fault => exact absurd hr id
    | ok w => exact Sound.reseated hr hop
  · exact installed_sound seats minion

/-- A unit that is about to board two vehicles boards both. -/
theorem seated_twice :
    let seats : VehicleId → Fin 8 → Option VehicleSeatEntry :=
      fun _ i => if i = 0 then some ⟨VEHICLE_SEAT_FLAG_CAN_ENTER_OR_EXIT, 0⟩ else none
    ¬ States step (Outcome SeatsAgree fun _ => False)
      (.ok (World.installed seats fun _ => false))
      [.addPassenger 0 7 0 false false, .addPassenger 1 7 0 false false, .updateEvent 0,
        .updateEvent 1] := by
  intro seats h
  have hlast := h.exec
  obtain ⟨w, hok, hsits, hvehicle⟩ : ∃ w, exec step (.ok (World.installed seats fun _ => false))
      [.addPassenger 0 7 0 false false, .addPassenger 1 7 0 false false, .updateEvent 0,
        .updateEvent 1] = .ok w ∧ (w.vehicles 0).passenger 0 = some 7 ∧
        w.m_vehicle 7 = some 1 := ⟨_, rfl, rfl, rfl⟩
  rw [hok] at hlast
  have hfirst := (hlast.seated 7 0).mpr ⟨0, hsits⟩
  exact absurd (hfirst.symm.trans hvehicle) (by decide)

end FunPvp.Vehicles
