/-
# The scheduler of queue updates

`BattlegroundMgr::ScheduleQueueUpdate` packs its six arguments into one `uint64`, and
`BattlegroundMgr::Update` takes the words apart again. `dynamicMMRindex << 4` shares a byte with
four bits of `bgTypeId`, for which the decoder takes off the constant 96; `scheduleId_codec` says
for which arguments that gives back what was packed. The pending words are walked with a `uint8`
counter, and `dispatchesPending_iff` says that the walk ends, having called every pending update
exactly once, if and only if fewer than 256 words are pending.
-/
import Mathlib

namespace FunPvp.Battleground

/-! ## 1. Packing and unpacking -/

/-- `BATTLEGROUND_AA`, the id of "All Arenas". -/
def BATTLEGROUND_AA : ℕ := 6

/-- The arguments of `ScheduleQueueUpdate`: a `uint32`, a `uint8`, three ids that fit their
field of the word, and one of the seven indices of the dynamic matchmaking. -/
structure ScheduleArgs where
  arenaMatchmakerRating : Fin (2 ^ 32)
  arenaType : Fin 256
  bgQueueTypeId : Fin 256
  bgTypeId : Fin 256
  bracket_id : Fin 16
  dynamicMMRindex : Fin 7
deriving DecidableEq

/-- What `Update` hands to `m_BattlegroundQueues[bgQueueTypeId].BattlegroundQueueUpdate`. -/
structure QueueUpdateCall where
  bgQueueTypeId : ℕ
  bgTypeId : ℕ
  bracket_id : ℕ
  arenaType : ℕ
  isRated : Bool
  arenaRating : ℕ
  dynamicMMRindex : ℕ
deriving DecidableEq

def ScheduleArgs.requested (a : ScheduleArgs) : QueueUpdateCall where
  bgQueueTypeId := a.bgQueueTypeId
  bgTypeId := a.bgTypeId
  bracket_id := a.bracket_id
  arenaType := a.arenaType
  isRated := decide (0 < (a.arenaMatchmakerRating : ℕ))
  arenaRating := a.arenaMatchmakerRating
  dynamicMMRindex := a.dynamicMMRindex

def scheduleId (a : ScheduleArgs) : ℕ :=
  (a.arenaMatchmakerRating : ℕ) <<< 32 ||| (a.arenaType : ℕ) <<< 24 |||
    (a.bgQueueTypeId : ℕ) <<< 16 ||| (a.bgTypeId : ℕ) <<< 8 |||
    (a.dynamicMMRindex : ℕ) <<< 4 ||| (a.bracket_id : ℕ)

/-- `ScheduleQueueUpdate`: a word that is already pending is not pushed again. -/
def scheduleQueueUpdate (m_QueueUpdateScheduler : List ℕ) (a : ScheduleArgs) : List ℕ :=
  if scheduleId a ∈ m_QueueUpdateScheduler then m_QueueUpdateScheduler
  else m_QueueUpdateScheduler ++ [scheduleId a]

/-- The index as `Update` reads it: a `uint8`, 0 outside the arenas. -/
def decodeDynamicMMRindex (scheduled : ℕ) : ℕ :=
  if (scheduled >>> 24) &&& 255 ≠ 0 then (((scheduled >>> 4) &&& 255) + 2 ^ 8 - 96) % 2 ^ 8
  else 0

/-- One round of the loop of `Update`: the fields of a pending word. -/
def decodeScheduled (scheduled : ℕ) : QueueUpdateCall where
  bgQueueTypeId := (scheduled >>> 16) &&& 255
  bgTypeId := (scheduled >>> 8) &&& 255
  bracket_id := if decodeDynamicMMRindex scheduled > 0 then 14 else scheduled &&& 255
  arenaType := (scheduled >>> 24) &&& 255
  isRated := decide ((scheduled >>> 32) % 2 ^ 32 > 0)
  arenaRating := (scheduled >>> 32) % 2 ^ 32
  dynamicMMRindex := decodeDynamicMMRindex scheduled

/-! ## 2. The word as a number -/

theorem scheduleId_eq_sum (a : ScheduleArgs) :
    scheduleId a = a.arenaMatchmakerRating * 2 ^ 32 + (a.arenaType * 2 ^ 24 +
      (a.bgQueueTypeId * 2 ^ 16 + (a.bgTypeId * 2 ^ 8 +
        (a.dynamicMMRindex * 2 ^ 4 + a.bracket_id)))) := by
  have h1 := a.arenaType.isLt
  have h2 := a.bgQueueTypeId.isLt
  have h3 := a.bgTypeId.isLt
  have h4 := a.bracket_id.isLt
  have h5 := a.dynamicMMRindex.isLt
  simp only [scheduleId, Nat.or_assoc]
  rw [← Nat.shiftLeft_add_eq_or_of_lt (by omega : (a.bracket_id : ℕ) < 2 ^ 4)]
  simp only [Nat.shiftLeft_eq]
  rw [← Nat.shiftLeft_eq _ 8, ← Nat.shiftLeft_add_eq_or_of_lt (by omega), Nat.shiftLeft_eq,
    ← Nat.shiftLeft_eq _ 16, ← Nat.shiftLeft_add_eq_or_of_lt (by omega), Nat.shiftLeft_eq,
    ← Nat.shiftLeft_eq _ 24, ← Nat.shiftLeft_add_eq_or_of_lt (by omega), Nat.shiftLeft_eq,
    ← Nat.shiftLeft_eq _ 32, ← Nat.shiftLeft_add_eq_or_of_lt (by omega), Nat.shiftLeft_eq]

theorem and_255 (n : ℕ) : n &&& 255 = n % 2 ^ 8 := Nat.and_two_pow_sub_one_eq_mod n 8

theorem decodeDynamicMMRindex_scheduleId (a : ScheduleArgs) :
    decodeDynamicMMRindex (scheduleId a) =
      if (a.arenaType : ℕ) = 0 then 0
      else ((a.bgTypeId : ℕ) % 16 * 16 + a.dynamicMMRindex + 160) % 256 := by
  have h0 := a.arenaMatchmakerRating.isLt
  have h1 := a.arenaType.isLt
  have h2 := a.bgQueueTypeId.isLt
  have h3 := a.bgTypeId.isLt
  have h4 := a.bracket_id.isLt
  have h5 := a.dynamicMMRindex.isLt
  simp only [decodeDynamicMMRindex, and_255, Nat.shiftRight_eq_div_pow, scheduleId_eq_sum]
  split <;> split <;> omega

theorem decodeScheduled_scheduleId (a : ScheduleArgs) :
    decodeScheduled (scheduleId a) =
      { a.requested with
        bracket_id := if decodeDynamicMMRindex (scheduleId a) > 0 then 14
          else (a.dynamicMMRindex : ℕ) * 16 + a.bracket_id
        dynamicMMRindex := decodeDynamicMMRindex (scheduleId a) } := by
  have h0 := a.arenaMatchmakerRating.isLt
  have h1 := a.arenaType.isLt
  have h2 := a.bgQueueTypeId.isLt
  have h3 := a.bgTypeId.isLt
  have h4 := a.bracket_id.isLt
  have h5 := a.dynamicMMRindex.isLt
  have hmmr : scheduleId a >>> 32 % 2 ^ 32 = a.arenaMatchmakerRating := by
    rw [Nat.shiftRight_eq_div_pow, scheduleId_eq_sum]; omega
  have hlow : scheduleId a % 2 ^ 8 = (a.dynamicMMRindex : ℕ) * 16 + a.bracket_id := by
    rw [scheduleId_eq_sum]; omega
  simp only [decodeScheduled, ScheduleArgs.requested, and_255, hmmr, hlow]
  simp only [Nat.shiftRight_eq_div_pow, scheduleId_eq_sum, QueueUpdateCall.mk.injEq, and_true,
    true_and, gt_iff_lt]
  refine ⟨by omega, by omega, by omega⟩

/-! ## 3. The codec -/

/-- The argument tuples the decoder is made for: outside the arenas no index; in an arena the
low half of `bgTypeId` is that of `BATTLEGROUND_AA`, and a non-zero index comes with bracket 14,
the only one `DynamicMMR` schedules. -/
def ScheduleArgs.Supported (a : ScheduleArgs) : Prop :=
  if (a.arenaType : ℕ) = 0 then (a.dynamicMMRindex : ℕ) = 0
  else (a.bgTypeId : ℕ) % 16 = BATTLEGROUND_AA ∧
    ((a.dynamicMMRindex : ℕ) = 0 ∨ (a.bracket_id : ℕ) = 14)

instance (a : ScheduleArgs) : Decidable a.Supported := by
  unfold ScheduleArgs.Supported; infer_instance

theorem decode_eq_requested_iff (a : ScheduleArgs) :
    decodeScheduled (scheduleId a) = a.requested ↔ a.Supported := by
  have h3 := a.bgTypeId.isLt
  have h4 := a.bracket_id.isLt
  have h5 := a.dynamicMMRindex.isLt
  rw [decodeScheduled_scheduleId, decodeDynamicMMRindex_scheduleId]
  simp only [ScheduleArgs.requested, QueueUpdateCall.mk.injEq, true_and,
    ScheduleArgs.Supported, BATTLEGROUND_AA]
  by_cases hat : (a.arenaType : ℕ) = 0
  · simp only [hat, if_true]
    split <;> omega
  · simp only [hat, if_false]
    split <;> omega

theorem scheduleId_injective : Function.Injective scheduleId := by
  intro a b h
  have h1 := a.arenaType.isLt
  have h1' := b.arenaType.isLt
  have h2 := a.bgQueueTypeId.isLt
  have h2' := b.bgQueueTypeId.isLt
  have h3 := a.bgTypeId.isLt
  have h3' := b.bgTypeId.isLt
  have h4 := a.bracket_id.isLt
  have h4' := b.bracket_id.isLt
  have h5 := a.dynamicMMRindex.isLt
  have h5' := b.dynamicMMRindex.isLt
  rw [scheduleId_eq_sum, scheduleId_eq_sum] at h
  obtain ⟨a1, a2, a3, a4, a5, a6⟩ := a
  obtain ⟨b1, b2, b3, b4, b5, b6⟩ := b
  simp only [ScheduleArgs.mk.injEq, Fin.ext_iff] at *
  refine ⟨?_, ?_, ?_, ?_, ?_, ?_⟩ <;> omega

/-- **The codec.**  What was scheduled is pending, it is decoded to the requested call exactly
for the supported argument tuples, and distinct tuples have distinct words. -/
theorem scheduleId_codec :
    (∀ pending a, scheduleId a ∈ scheduleQueueUpdate pending a) ∧
      (∀ a, decodeScheduled (scheduleId a) = a.requested ↔ a.Supported) ∧
      Function.Injective scheduleId := by
  refine ⟨?_, decode_eq_requested_iff, scheduleId_injective⟩
  intro pending a
  unfold scheduleQueueUpdate
  split
  · assumption
  · simp

/-- A rated 2v2 update scheduled for Nagrand Arena (`BATTLEGROUND_NA = 4`) instead of "All
Arenas" is dispatched with index 224 and, because of it, on bracket 14 instead of 13. -/
theorem scheduleId_nagrand_misread :
    decodeScheduled (scheduleId ⟨1500, 2, 8, 4, 13, 0⟩) ≠
      (ScheduleArgs.requested ⟨1500, 2, 8, 4, 13, 0⟩) := by
  decide

/-! ## 4. The dispatch loop -/

/-- What the loop works on: the pending words, the rest of the world, and two traces, of the
updates called and of the updates scheduled since the tick began. -/
structure Tick (σ : Type) where
  m_QueueUpdateScheduler : List ℕ
  world : σ
  called : List QueueUpdateCall
  scheduledNow : List ScheduleArgs

section Dispatch

variable {σ : Type} (battlegroundQueueUpdate : σ → QueueUpdateCall → σ × List ScheduleArgs)

/-- One call of `BattlegroundQueueUpdate`, which may itself schedule updates. They go to
`m_QueueUpdateScheduler`, not to the swapped-out vector that is being walked. -/
def dispatchOne (t : Tick σ) (scheduled : ℕ) : Tick σ :=
  let r := battlegroundQueueUpdate t.world (decodeScheduled scheduled)
  { m_QueueUpdateScheduler := r.2.foldl scheduleQueueUpdate t.m_QueueUpdateScheduler
    world := r.1
    called := t.called ++ [decodeScheduled scheduled]
    scheduledNow := t.scheduledNow ++ r.2 }

/-- `for (uint8 i = 0; i < scheduled.size(); i++)`; `none` when the fuel runs out. -/
def dispatchLoop (scheduled : List ℕ) : ℕ → UInt8 → Tick σ → Option (Tick σ)
  | 0, _, _ => none
  | fuel + 1, i, t =>
    if h : i.toNat < scheduled.length then
      dispatchLoop scheduled fuel (i + 1) (dispatchOne battlegroundQueueUpdate t scheduled[i.toNat])
    else some t

/-- "update scheduled queues": the pending words are swapped out and walked. -/
def updateScheduledQueues (fuel : ℕ) (t : Tick σ) : Option (Tick σ) :=
  if t.m_QueueUpdateScheduler.isEmpty then some t
  else dispatchLoop battlegroundQueueUpdate t.m_QueueUpdateScheduler fuel 0
    { t with m_QueueUpdateScheduler := [] }

/-- The tick does its job: the loop ends; it has called `BattlegroundQueueUpdate` once for each
pending word, in order; and what is pending afterwards is what was scheduled meanwhile. -/
def DispatchesPending (pending : List ℕ) (world : σ) : Prop :=
  ∃ fuel t', updateScheduledQueues battlegroundQueueUpdate fuel ⟨pending, world, [], []⟩ = some t' ∧
    t'.called = pending.map decodeScheduled ∧
    t'.m_QueueUpdateScheduler.Nodup ∧
    ∀ id, id ∈ t'.m_QueueUpdateScheduler ↔ ∃ a ∈ t'.scheduledNow, scheduleId a = id

end Dispatch

theorem mem_scheduleQueueUpdate {l : List ℕ} {a : ScheduleArgs} {id : ℕ} :
    id ∈ scheduleQueueUpdate l a ↔ id ∈ l ∨ scheduleId a = id := by
  unfold scheduleQueueUpdate
  split
  · next h => exact ⟨Or.inl, fun h' => h'.elim (fun hm => hm) (fun e => e ▸ h)⟩
  · simp [eq_comm]

theorem nodup_scheduleQueueUpdate {l : List ℕ} (a : ScheduleArgs) (h : l.Nodup) :
    (scheduleQueueUpdate l a).Nodup := by
  unfold scheduleQueueUpdate
  split
  · exact h
  · next hmem => exact h.append (List.nodup_singleton _) (List.disjoint_singleton.mpr hmem)

theorem foldl_scheduleQueueUpdate (reqs : List ScheduleArgs) (l : List ℕ) (h : l.Nodup) :
    (reqs.foldl scheduleQueueUpdate l).Nodup ∧
      ∀ id, id ∈ reqs.foldl scheduleQueueUpdate l ↔ id ∈ l ∨ ∃ a ∈ reqs, scheduleId a = id := by
  induction reqs generalizing l with
  | nil => simpa using h
  | cons a reqs ih =>
    obtain ⟨hnd, hmem⟩ := ih (scheduleQueueUpdate l a) (nodup_scheduleQueueUpdate a h)
    refine ⟨hnd, fun id => ?_⟩
    rw [List.foldl_cons, hmem, mem_scheduleQueueUpdate]
    simp only [List.mem_cons, exists_eq_or_imp, or_assoc]

section Dispatch

variable {σ : Type} (battlegroundQueueUpdate : σ → QueueUpdateCall → σ × List ScheduleArgs)

/-- What one dispatch preserves: the new pending words are those scheduled since the tick
began, each once. -/
def Tick.Coherent (t : Tick σ) : Prop :=
  t.m_QueueUpdateScheduler.Nodup ∧
    ∀ id, id ∈ t.m_QueueUpdateScheduler ↔ ∃ a ∈ t.scheduledNow, scheduleId a = id

theorem dispatchOne_coherent {t : Tick σ} (h : t.Coherent) (id : ℕ) :
    (dispatchOne battlegroundQueueUpdate t id).Coherent := by
  obtain ⟨hnd, hmem⟩ := foldl_scheduleQueueUpdate
    (battlegroundQueueUpdate t.world (decodeScheduled id)).2 t.m_QueueUpdateScheduler h.1
  refine ⟨hnd, fun id' => ?_⟩
  simp only [dispatchOne, hmem, h.2, List.mem_append, or_and_right, exists_or]

theorem dispatchLoop_eq_foldl {scheduled : List ℕ} (hlen : scheduled.length ≤ 255) :
    ∀ (fuel : ℕ) (i : UInt8) (t : Tick σ), scheduled.length < fuel + i.toNat →
      i.toNat ≤ scheduled.length →
      dispatchLoop battlegroundQueueUpdate scheduled fuel i t =
        some ((scheduled.drop i.toNat).foldl (dispatchOne battlegroundQueueUpdate) t)
  | 0, i, t, hfuel, hi => by omega
  | fuel + 1, i, t, hfuel, hi => by
    unfold dispatchLoop
    split
    · next hlt =>
      have hsucc : (i + 1).toNat = i.toNat + 1 := by
        rw [UInt8.toNat_add, show (1 : UInt8).toNat = 1 from rfl]; omega
      rw [dispatchLoop_eq_foldl hlen fuel (i + 1) _ (by omega) (by omega), hsucc,
        List.drop_eq_getElem_cons hlt, List.foldl_cons]
    · next hge => rw [List.drop_of_length_le (by omega), List.foldl_nil]

theorem dispatchLoop_diverges {scheduled : List ℕ} (hlen : 256 ≤ scheduled.length) :
    ∀ (fuel : ℕ) (i : UInt8) (t : Tick σ),
      dispatchLoop battlegroundQueueUpdate scheduled fuel i t = none
  | 0, _, _ => rfl
  | fuel + 1, i, t => by
    have hi : i.toNat < 256 := i.toNat_lt
    rw [dispatchLoop, dif_pos (by omega)]
    exact dispatchLoop_diverges hlen fuel _ _

theorem updateScheduledQueues_diverges {t : Tick σ}
    (hlen : 256 ≤ t.m_QueueUpdateScheduler.length) (fuel : ℕ) :
    updateScheduledQueues battlegroundQueueUpdate fuel t = none := by
  have hne : t.m_QueueUpdateScheduler.isEmpty ≠ true := by
    intro h
    rw [List.isEmpty_iff.mp h] at hlen
    exact absurd hlen (by decide)
  rw [updateScheduledQueues, if_neg hne]
  exact dispatchLoop_diverges battlegroundQueueUpdate hlen fuel 0 _

theorem foldl_dispatchOne (ids : List ℕ) (t : Tick σ) (h : t.Coherent) :
    (ids.foldl (dispatchOne battlegroundQueueUpdate) t).Coherent ∧
      (ids.foldl (dispatchOne battlegroundQueueUpdate) t).called
        = t.called ++ ids.map decodeScheduled := by
  induction ids generalizing t with
  | nil => exact ⟨h, by simp⟩
  | cons id ids ih =>
    obtain ⟨hc, hcalled⟩ := ih _ (dispatchOne_coherent battlegroundQueueUpdate h id)
    refine ⟨hc, ?_⟩
    rw [List.foldl_cons, hcalled]
    simp [dispatchOne]

/-- **The dispatch loop ends, and does its job, exactly when at most 255 words are pending.** -/
theorem dispatchesPending_iff (pending : List ℕ) (world : σ) :
    DispatchesPending battlegroundQueueUpdate pending world ↔ pending.length ≤ 255 := by
  constructor
  · rintro ⟨fuel, t', hrun, -⟩
    by_contra hlen
    have hlen' : 256 ≤ pending.length := by omega
    rw [updateScheduledQueues_diverges battlegroundQueueUpdate hlen'] at hrun
    exact absurd hrun (by simp)
  · intro hlen
    have hstart : (⟨[], world, [], []⟩ : Tick σ).Coherent := by simp [Tick.Coherent]
    by_cases hempty : pending = []
    · subst hempty
      exact ⟨0, _, rfl, rfl, hstart.1, hstart.2⟩
    · obtain ⟨hc, hcalled⟩ := foldl_dispatchOne battlegroundQueueUpdate pending _ hstart
      refine ⟨pending.length + 1, _, ?_, hcalled, hc.1, hc.2⟩
      rw [updateScheduledQueues, if_neg (by simpa using hempty)]
      exact dispatchLoop_eq_foldl battlegroundQueueUpdate hlen _ 0 _ (by simp) (by simp)

end Dispatch

/-- 256 rated 2v2 teams with different ratings, each with a pending update of its own. -/
theorem dispatch_hangs_at_256 :
    ¬ DispatchesPending (fun (_ : Unit) _ => ((), []))
      ((List.range 256).map fun mmr => scheduleId ⟨Fin.ofNat _ mmr, 2, 8, 6, 14, 0⟩) () := by
  rintro ⟨fuel, t', hrun, -⟩
  rw [updateScheduledQueues_diverges _ (by rw [List.length_map, List.length_range])] at hrun
  exact absurd hrun (by simp)

end FunPvp.Battleground
