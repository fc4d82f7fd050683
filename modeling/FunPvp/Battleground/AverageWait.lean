/-
# The average waiting time of a queue

For each of two team indices and each bracket, `PlayerInvitedToBGUpdateAverageWaitTime` keeps the
waiting times of the last ten players that were invited, in ten slots that are written round, and
their sum. `GetAverageQueueWaitTime` takes the sum for that of ten players if the last slot is not
0: "we always add values > 0".

But a player can be invited in the millisecond in which he has joined. When he is the tenth, or the
twentieth, and so on, the last slot is 0, and there is no average until ten more have been invited.
`averages_iff` says when the average is right; a sum that does not fit in a `uint32` is the other
exception.
-/
import FunPvp.Lib.Ring
import FunPvp.Lib.Run
import FunPvp.Battleground.Queue

namespace FunPvp.Battleground

open FunPvp.Lib

/-! ## 1. The slots and their sum -/

def COUNT_OF_PLAYERS_TO_AVERAGE_WAIT_TIME : ℕ := 10

def getMSTimeDiff (oldMSTime newMSTime : UInt32) : UInt32 :=
  if oldMSTime > newMSTime then (0xFFFFFFFF - oldMSTime) + newMSTime else newMSTime - oldMSTime

/-- A group, with the field that the other functions of the queue do not read. -/
structure WaitingGroup extends GroupQueueInfo where
  ArenaType : UInt8

/-- `team_index`: for rated arenas that of the HORDE, for the other arenas that of the ALLIANCE. -/
def WaitingGroup.team_index (ginfo : WaitingGroup) : Team :=
  if ginfo.ArenaType = 0 then
    if ginfo.Team = .HORDE then .HORDE else .ALLIANCE
  else if ginfo.IsRated then .HORDE else .ALLIANCE

/-- The entries of `m_WaitTimes`, `m_WaitTimeLastPlayer` and `m_SumOfWaitTimes` for one team index
and bracket. -/
structure WaitTimes where
  m_WaitTimes : List UInt32
  m_WaitTimeLastPlayer : UInt32
  m_SumOfWaitTimes : UInt32

abbrev WaitTimeArrays := Team → ℕ → WaitTimes

namespace WaitTimes

def init : WaitTimes := ⟨List.replicate COUNT_OF_PLAYERS_TO_AVERAGE_WAIT_TIME 0, 0, 0⟩

/-- A waiting time takes the place of the one that was written ten players ago. -/
def add (w : WaitTimes) (timeInQueue : UInt32) : WaitTimes :=
  let lastPlayer := w.m_WaitTimeLastPlayer.toNat
  { m_SumOfWaitTimes :=
      w.m_SumOfWaitTimes - w.m_WaitTimes.getD lastPlayer 0 + timeInQueue
    m_WaitTimes := w.m_WaitTimes.set lastPlayer timeInQueue
    m_WaitTimeLastPlayer :=
      (w.m_WaitTimeLastPlayer + 1) % UInt32.ofNat COUNT_OF_PLAYERS_TO_AVERAGE_WAIT_TIME }

end WaitTimes

namespace WaitTimeArrays

def playerInvitedToBGUpdateAverageWaitTime (q : WaitTimeArrays) (ginfo : WaitingGroup)
    (bracket_id : ℕ) (now : UInt32) : WaitTimeArrays := fun team_index bracket =>
  if ginfo.team_index = team_index ∧ bracket_id = bracket then
    (q team_index bracket).add (getMSTimeDiff ginfo.JoinTime now)
  else q team_index bracket

def getAverageQueueWaitTime (q : WaitTimeArrays) (ginfo : WaitingGroup) (bracket_id : ℕ) : UInt32 :=
  let w := q ginfo.team_index bracket_id
  if w.m_WaitTimes.getD (COUNT_OF_PLAYERS_TO_AVERAGE_WAIT_TIME - 1) 0 ≠ 0 then
    w.m_SumOfWaitTimes / UInt32.ofNat COUNT_OF_PLAYERS_TO_AVERAGE_WAIT_TIME
  else 0

end WaitTimeArrays

structure WaitEvent where
  ginfo : WaitingGroup
  bracket_id : ℕ
  now : UInt32

def waitTimesAfter (events : List WaitEvent) : WaitTimeArrays :=
  exec (fun q e => q.playerInvitedToBGUpdateAverageWaitTime e.ginfo e.bracket_id e.now)
    (fun _ _ => .init) events

/-- How long the players of a team index and bracket have waited, in their order. -/
def timesInQueue (events : List WaitEvent) (team_index : Team) (bracket : ℕ) : List UInt32 :=
  (events.filter fun e => e.ginfo.team_index = team_index ∧ e.bracket_id = bracket).map fun e =>
    getMSTimeDiff e.ginfo.JoinTime e.now

theorem exec_apply (events : List WaitEvent) (q : WaitTimeArrays) (team_index : Team)
    (bracket : ℕ) :
    exec (fun q e => q.playerInvitedToBGUpdateAverageWaitTime e.ginfo e.bracket_id e.now) q events
      team_index bracket =
        (timesInQueue events team_index bracket).foldl WaitTimes.add (q team_index bracket) := by
  induction events generalizing q with
  | nil => rfl
  | cons e events ih =>
    refine (ih _).trans ?_
    unfold timesInQueue WaitTimeArrays.playerInvitedToBGUpdateAverageWaitTime
    by_cases he : e.ginfo.team_index = team_index ∧ e.bracket_id = bracket
    · simp [he]
    · simp [he]

/-! ## 2. The last ten -/

/-- The last ten of a history, which begins with ten zeros. -/
def window (H : List UInt32) : List UInt32 :=
  (List.replicate COUNT_OF_PLAYERS_TO_AVERAGE_WAIT_TIME 0 ++ H).drop H.length

theorem window_concat (H : List UInt32) (t : UInt32) :
    window (H ++ [t]) = (window H).tail ++ [t] := by
  unfold window
  rw [List.tail_drop, ← List.append_assoc, List.length_append, List.length_singleton,
    List.drop_append_of_le_length]
  rw [List.length_append, List.length_replicate, COUNT_OF_PLAYERS_TO_AVERAGE_WAIT_TIME]
  omega

theorem window_of_le {H : List UInt32} (h : 10 ≤ H.length) : window H = H.drop (H.length - 10) := by
  unfold window
  rw [List.drop_append, List.length_replicate, List.drop_eq_nil_of_le, List.nil_append]
  · rfl
  · rwa [List.length_replicate]

/-- What the slots hold after a history of waiting times. -/
structure WaitTimes.Holds (w : WaitTimes) (H : List UInt32) : Prop where
  length : w.m_WaitTimes.length = COUNT_OF_PLAYERS_TO_AVERAGE_WAIT_TIME
  index : w.m_WaitTimeLastPlayer.toNat = H.length % COUNT_OF_PLAYERS_TO_AVERAGE_WAIT_TIME
  slots : Round w.m_WaitTimes w.m_WaitTimeLastPlayer.toNat (window H)
  sum : w.m_SumOfWaitTimes.toNat = (w.m_WaitTimes.map UInt32.toNat).sum % 2 ^ 32

namespace WaitTimes.Holds

variable {w : WaitTimes} {H : List UInt32}

theorem init : WaitTimes.init.Holds [] where
  length := rfl
  index := rfl
  slots := ⟨by decide, rfl⟩
  sum := by decide

theorem add (h : w.Holds H) (timeInQueue : UInt32) :
    (w.add timeInQueue).Holds (H ++ [timeInQueue]) := by
  obtain ⟨hget, hround⟩ := h.slots.write (a := timeInQueue)
  have hlt := h.slots.lt
  have hindex : (w.add timeInQueue).m_WaitTimeLastPlayer.toNat =
      (w.m_WaitTimeLastPlayer.toNat + 1) % w.m_WaitTimes.length := by
    have hten := h.length
    rw [COUNT_OF_PLAYERS_TO_AVERAGE_WAIT_TIME] at hten
    change ((w.m_WaitTimeLastPlayer + 1) % 10).toNat = _
    rw [UInt32.toNat_mod, UInt32.toNat_add, hten]
    change (w.m_WaitTimeLastPlayer.toNat + 1) % 2 ^ 32 % 10 = _
    omega
  constructor
  · exact (List.length_set ..).trans h.length
  · rw [hindex, h.index, h.length, List.length_append, List.length_singleton, Nat.mod_add_mod]
  · rw [hindex, window_concat]
    exact hround
  · have hsum := h.sum
    obtain ⟨front, x, back, hslots, hfront⟩ : ∃ front x back,
        w.m_WaitTimes = front ++ x :: back ∧ front.length = w.m_WaitTimeLastPlayer.toNat :=
      ⟨_, w.m_WaitTimes[w.m_WaitTimeLastPlayer.toNat], _,
        by rw [List.getElem_cons_drop, List.take_append_drop], List.length_take_of_le hlt.le⟩
    have hx : w.m_WaitTimes.getD w.m_WaitTimeLastPlayer.toNat 0 = x := by
      simp [hslots, ← hfront]
    have hset : w.m_WaitTimes.set w.m_WaitTimeLastPlayer.toNat timeInQueue =
        front ++ timeInQueue :: back := by
      simp [hslots, ← hfront]
    change (w.m_SumOfWaitTimes - w.m_WaitTimes.getD w.m_WaitTimeLastPlayer.toNat 0 +
      timeInQueue).toNat = ((w.m_WaitTimes.set w.m_WaitTimeLastPlayer.toNat timeInQueue).map
        UInt32.toNat).sum % 2 ^ 32
    rw [hx, hset, UInt32.toNat_add, UInt32.toNat_sub, hsum, hslots]
    simp only [List.map_append, List.map_cons, List.sum_append, List.sum_cons]
    have := x.toNat_lt
    omega

theorem foldl (h : w.Holds H) (times : List UInt32) :
    (times.foldl WaitTimes.add w).Holds (H ++ times) := by
  induction times generalizing w H with
  | nil => rwa [List.append_nil]
  | cons t times ih =>
    have hrest := ih (h.add t)
    rwa [List.append_assoc] at hrest

end WaitTimes.Holds

theorem waitTimesAfter_holds (events : List WaitEvent) (team_index : Team) (bracket : ℕ) :
    (waitTimesAfter events team_index bracket).Holds (timesInQueue events team_index bracket) := by
  rw [waitTimesAfter, exec_apply]
  exact WaitTimes.Holds.init.foldl _

/-! ## 3. The average -/

def lastTenSum (times : List UInt32) : ℕ :=
  ((times.drop (times.length - 10)).map UInt32.toNat).sum

/-- How long the latest of the tenth, the twentieth, and so on, has waited. -/
def lastTenth (times : List UInt32) : UInt32 := times.getD (times.length - 1 - times.length % 10) 0

/-- **What the average is for**: the sum is that of the ten slots, and once ten players have been
invited the average is the mean of the last ten waiting times. -/
def Averages (events : List WaitEvent) (ginfo : WaitingGroup) (bracket_id : ℕ) : Prop :=
  let q := waitTimesAfter events
  let w := q ginfo.team_index bracket_id
  let times := timesInQueue events ginfo.team_index bracket_id
  w.m_WaitTimes.length = 10 ∧
    w.m_SumOfWaitTimes.toNat = (w.m_WaitTimes.map UInt32.toNat).sum % 2 ^ 32 ∧
    (10 ≤ times.length →
      (q.getAverageQueueWaitTime ginfo bracket_id).toNat = lastTenSum times / 10)

theorem WaitTimes.Holds.sum_eq {w : WaitTimes} {H : List UInt32} (h : w.Holds H)
    (hten : 10 ≤ H.length) : w.m_SumOfWaitTimes.toNat = lastTenSum H % 2 ^ 32 := by
  rw [h.sum, (h.slots.perm.map UInt32.toNat).sum_eq, window_of_le hten]
  rfl

theorem WaitTimes.Holds.last_eq {w : WaitTimes} {H : List UInt32} (h : w.Holds H)
    (hten : 10 ≤ H.length) :
    w.m_WaitTimes.getD (COUNT_OF_PLAYERS_TO_AVERAGE_WAIT_TIME - 1) 0 = lastTenth H := by
  have hlast := h.slots.getElem?_last
  have hindex := h.index
  rw [h.length, COUNT_OF_PLAYERS_TO_AVERAGE_WAIT_TIME, window_of_le hten,
    List.getElem?_drop] at hlast
  rw [COUNT_OF_PLAYERS_TO_AVERAGE_WAIT_TIME] at hindex
  rw [lastTenth, List.getD_eq_getElem?_getD, List.getD_eq_getElem?_getD,
    COUNT_OF_PLAYERS_TO_AVERAGE_WAIT_TIME, hlast]
  congr 2
  omega

/-- **When the average is right**: until there are ten, or if the last tenth player has waited and
the sum fits in its type, or if all ten together have waited less than ten milliseconds. -/
theorem averages_iff (events : List WaitEvent) (ginfo : WaitingGroup) (bracket_id : ℕ) :
    Averages events ginfo bracket_id ↔
      let times := timesInQueue events ginfo.team_index bracket_id
      10 ≤ times.length →
        if lastTenth times = 0 then lastTenSum times < 10 else lastTenSum times < 2 ^ 32 := by
  have h := waitTimesAfter_holds events ginfo.team_index bracket_id
  refine (and_iff_right h.length).trans ((and_iff_right h.sum).trans ?_)
  refine forall_congr' fun hten => ?_
  unfold WaitTimeArrays.getAverageQueueWaitTime
  dsimp only
  rw [h.last_eq hten]
  by_cases hzero : lastTenth (timesInQueue events ginfo.team_index bracket_id) = 0
  · rw [if_pos hzero, if_neg (not_not.mpr hzero)]
    change 0 = _ ↔ _
    omega
  · rw [if_neg hzero, if_pos hzero, UInt32.toNat_div, h.sum_eq hten]
    change _ % 2 ^ 32 / 10 = _ ↔ _
    omega

/-- A player of the ALLIANCE who has joined the queue of a battleground at a time. -/
def queuedPlayer (JoinTime : UInt32) : WaitingGroup :=
  { Players := OrderedSet.empty, Team := .ALLIANCE, JoinTime := JoinTime, ArenaType := 0 }

/-- Nine players have waited a second and the tenth not at all. -/
theorem tenthAtOnce_not_averages :
    ¬ Averages (List.replicate 9 ⟨queuedPlayer 0, 0, 1000⟩ ++ [⟨queuedPlayer 1000, 0, 1000⟩])
      (queuedPlayer 0) 0 := by
  intro h
  have haverage := h.2.2 (by decide)
  exact absurd haverage (by decide)

end FunPvp.Battleground
