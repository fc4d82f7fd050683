/-
# The counters of a character's reputation

A counter says how many factions of the reputation list there are of a kind. Every change of a
faction's state is a step from one state to another of one faction, and a counter agrees afterwards
if it is adjusted by what the faction was and what it is now (`Tally.put`). The rank before the
change is a fixed low rank where the list is made, the rank that the player begins with where it is
loaded, and the current rank later on; each of them is the one that was counted.

The counters have eight bits. They agree modulo 256 in every state of every run
(`agrees_of_run`), and a table that lists 256 factions shows that they can be wrong
(`manyFactions_miscounted`).
-/
import FunPvp.Reputation.ReputationMgr
import FunPvp.Lib.Loop
import FunPvp.Lib.Run

namespace FunPvp.Reputation

open Lib ReputationRank

variable {F : Type}

/-! ## 1. What is counted -/

def HasRank (w : World F) (rank : ReputationRank) (e : FactionEntry F) (s : FactionState) : Bool :=
  rank ≤ reputationToRank (getBaseReputation w e + s.Standing)

def IsVisible (_ : FactionEntry F) (s : FactionState) : Bool := s.has FACTION_FLAG_VISIBLE

def InList (factions : ℤ → Option FactionState) (kind : FactionEntry F → FactionState → Bool)
    (e : FactionEntry F) : Bool :=
  e.CanHaveReputation ∧ (factions e.reputationListID).any (kind e)

/-- What is asked of the faction table: no two factions have one place in the list, and what a
faction grants is within the bounds. -/
structure Proper (w : World F) : Prop where
  distinct : ∀ e ∈ w.sFactionStore.rows, ∀ e' ∈ w.sFactionStore.rows, e.CanHaveReputation →
    e.reputationListID = e'.reputationListID → e = e'
  base : ∀ e ∈ w.sFactionStore.rows, ∀ i, InBounds (e.BaseRepValue i)

/-- The states of the factions are counted by these numbers, and within the bounds; a state is that
of a faction. -/
structure Tally (w : World F) (factions : ℤ → Option FactionState)
    (honored revered exalted visible : UInt8) : Prop where
  honored : Counts (InList factions (HasRank w REP_HONORED)) w.sFactionStore.rows honored
  revered : Counts (InList factions (HasRank w REP_REVERED)) w.sFactionStore.rows revered
  exalted : Counts (InList factions (HasRank w REP_EXALTED)) w.sFactionStore.rows exalted
  visible : Counts (InList factions IsVisible) w.sFactionStore.rows visible
  inBounds : ∀ e ∈ w.sFactionStore.rows, ∀ s, factions e.reputationListID = some s →
    InBounds (getBaseReputation w e + s.Standing)
  listed : ∀ id s, factions id = some s →
    ∃ e ∈ w.sFactionStore.rows, e.CanHaveReputation ∧ e.reputationListID = id

/-- **What a manager's counters have to say.** -/
def ReputationMgr.Agrees (w : World F) (m : ReputationMgr) : Prop :=
  Tally w m.factions m.honoredFactionCount m.reveredFactionCount m.exaltedFactionCount
    m.visibleFactionCount

section Tally

variable {w : World F} {factions : ℤ → Option FactionState} {h r x v : UInt8}
  {e : FactionEntry F} {s : FactionState}

theorem rows_nodup (w : World F) : w.sFactionStore.rows.Nodup :=
  w.sFactionStore.sorted.imp fun hlt heq => absurd (congrArg FactionEntry.ID heq) hlt.ne

theorem counts_put {kind : FactionEntry F → FactionState → Bool} {n : UInt8} (hw : Proper w)
    (hn : Counts (InList factions kind) w.sFactionStore.rows n) (he : e ∈ w.sFactionStore.rows)
    (hlist : e.CanHaveReputation) (s' : FactionState) :
    Counts (InList (Function.update factions e.reputationListID (some s')) kind)
      w.sFactionStore.rows
      (adjust n ((factions e.reputationListID).any (kind e)) (kind e s')) := by
  have hadjust := hn.adjust
    (q := InList (Function.update factions e.reputationListID (some s')) kind) (rows_nodup w) he
    fun b hb hbe => by
      have hkey : b.CanHaveReputation → b.reputationListID ≠ e.reputationListID := fun hb' heq =>
        hbe (hw.distinct b hb e he hb' heq)
      by_cases hb' : b.CanHaveReputation
      · simp [InList, hb', Function.update_of_ne (hkey hb')]
      · simp [InList, hb']
  simpa [InList, hlist] using hadjust

theorem Tally.put (hw : Proper w) (ht : Tally w factions h r x v) (he : e ∈ w.sFactionStore.rows)
    (hlist : e.CanHaveReputation) (s' : FactionState)
    (hbounds : InBounds (getBaseReputation w e + s'.Standing)) :
    Tally w (Function.update factions e.reputationListID (some s'))
      (adjust h ((factions e.reputationListID).any (HasRank w REP_HONORED e))
        (HasRank w REP_HONORED e s'))
      (adjust r ((factions e.reputationListID).any (HasRank w REP_REVERED e))
        (HasRank w REP_REVERED e s'))
      (adjust x ((factions e.reputationListID).any (HasRank w REP_EXALTED e))
        (HasRank w REP_EXALTED e s'))
      (adjust v ((factions e.reputationListID).any (IsVisible e)) (IsVisible e s')) where
  honored := counts_put hw ht.honored he hlist s'
  revered := counts_put hw ht.revered he hlist s'
  exalted := counts_put hw ht.exalted he hlist s'
  visible := counts_put hw ht.visible he hlist s'
  inBounds e' he' t ht' := by
    by_cases hid : e'.reputationListID = e.reputationListID
    · obtain rfl := hw.distinct e he e' he' hlist hid.symm
      rw [Function.update_self] at ht'
      obtain rfl := Option.some.inj ht'
      exact hbounds
    · rw [Function.update_of_ne hid] at ht'
      exact ht.inBounds e' he' t ht'
  listed id t ht' := by
    by_cases hid : id = e.reputationListID
    · exact ⟨e, he, hlist, hid.symm⟩
    · rw [Function.update_of_ne hid] at ht'
      exact ht.listed id t ht'

theorem Tally.reflag (hw : Proper w) (ht : Tally w factions h r x v) {id : ℤ}
    (hs : factions id = some s) (s' : FactionState) (hstanding : s'.Standing = s.Standing) :
    Tally w (Function.update factions id (some s')) h r x
      (adjust v (s.has FACTION_FLAG_VISIBLE) (s'.has FACTION_FLAG_VISIBLE)) := by
  obtain ⟨e, he, hlist, rfl⟩ := ht.listed id s hs
  have hput := ht.put hw he hlist s' (hstanding ▸ ht.inBounds e he s hs)
  have hrank : ∀ rank, HasRank w rank e s' = HasRank w rank e s := fun rank => by
    simp only [HasRank, hstanding]
  simp only [hs, Option.any_some, hrank, adjust_self] at hput
  exact hput

/-- A change of a state that no counter sees. -/
def Uncounted (f : FactionState → FactionState) : Prop :=
  ∀ s, (f s).Standing = s.Standing ∧ (f s).has FACTION_FLAG_VISIBLE = s.has FACTION_FLAG_VISIBLE

theorem flip_and_visible (flags : UInt8) {flag : UInt8} (hset : flag &&& FACTION_FLAG_VISIBLE = 0)
    (hclear : ~~~flag &&& FACTION_FLAG_VISIBLE = FACTION_FLAG_VISIBLE) (b : Bool) :
    (if b then flags ||| flag else flags &&& ~~~flag) &&& FACTION_FLAG_VISIBLE =
      flags &&& FACTION_FLAG_VISIBLE := by
  cases b with
  | true =>
    have hor : (flags ||| flag) &&& FACTION_FLAG_VISIBLE =
        (flags &&& FACTION_FLAG_VISIBLE) ||| (flag &&& FACTION_FLAG_VISIBLE) :=
      UInt8.toBitVec_inj.1 BitVec.and_or_distrib_right
    simpa [hset] using hor
  | false =>
    have hand := UInt8.and_assoc flags (~~~flag) FACTION_FLAG_VISIBLE
    rw [hclear] at hand
    exact hand

theorem or_visible (flags : UInt8) :
    (flags ||| FACTION_FLAG_VISIBLE) &&& FACTION_FLAG_VISIBLE ≠ 0 := by
  have hself : (flags ||| FACTION_FLAG_VISIBLE) &&& FACTION_FLAG_VISIBLE = FACTION_FLAG_VISIBLE :=
    UInt8.toBitVec_inj.1 (BitVec.eq_of_getElem_eq (by simp; grind))
  rw [hself]
  decide

theorem uncounted_setAtWar (atWar : Bool) : Uncounted fun s => s.setAtWar atWar := by
  intro s
  dsimp only
  unfold FactionState.setAtWar
  split
  · exact ⟨rfl, rfl⟩
  split
  · exact ⟨rfl, rfl⟩
  · refine ⟨rfl, ?_⟩
    unfold FactionState.has
    rw [flip_and_visible s.Flags rfl rfl atWar]

theorem uncounted_setInactive (inactive : Bool) : Uncounted fun s => s.setInactive inactive := by
  intro s
  dsimp only
  unfold FactionState.setInactive
  split
  · exact ⟨rfl, rfl⟩
  split
  · exact ⟨rfl, rfl⟩
  · refine ⟨rfl, ?_⟩
    unfold FactionState.has
    rw [flip_and_visible s.Flags rfl rfl inactive]

theorem Tally.modify {m : ReputationMgr} (hw : Proper w) (ht : Tally w m.factions h r x v) (id : ℤ)
    {f : FactionState → FactionState} (hf : Uncounted f) :
    Tally w (m.modify id f).factions h r x v := by
  unfold ReputationMgr.modify
  split
  · next s hs =>
    have hflag := ht.reflag hw hs (f s) (hf s).1
    rwa [(hf s).2, adjust_self] at hflag
  · exact ht

theorem inList_map {kind : FactionEntry F → FactionState → Bool} {f : FactionState → FactionState}
    (hkind : ∀ e s, kind e (f s) = kind e s) :
    InList (fun id => (factions id).map f) kind = InList factions kind := by
  funext e
  have hany : ((factions e.reputationListID).map f).any (kind e) =
      (factions e.reputationListID).any (kind e) := by
    cases factions e.reputationListID with
    | none => rfl
    | some s => exact hkind e s
  simp only [InList, hany]

theorem Tally.map (ht : Tally w factions h r x v) {f : FactionState → FactionState}
    (hf : Uncounted f) : Tally w (fun id => (factions id).map f) h r x v := by
  have hrank : ∀ rank, InList (fun id => (factions id).map f) (HasRank w rank) =
      InList factions (HasRank w rank) := fun rank => inList_map fun e s => by
    simp only [HasRank, (hf s).1]
  have hvisible : InList (F := F) (fun id => (factions id).map f) IsVisible =
      InList factions IsVisible := inList_map fun e s => (hf s).2
  refine ⟨?_, ?_, ?_, ?_, fun e he s hs => ?_, fun id s hs => ?_⟩
  · rw [hrank]
    exact ht.honored
  · rw [hrank]
    exact ht.revered
  · rw [hrank]
    exact ht.exalted
  · rw [hvisible]
    exact ht.visible
  · obtain ⟨t, ht', rfl⟩ := Option.map_eq_some_iff.mp hs
    rw [(hf t).1]
    exact ht.inBounds e he t ht'
  · obtain ⟨t, ht', -⟩ := Option.map_eq_some_iff.mp hs
    exact ht.listed id t ht'

theorem Tally.setVisibleState {m : ReputationMgr} (hw : Proper w)
    (ht : Tally w m.factions h r x m.visibleFactionCount) (id : ℤ) :
    Tally w (m.setVisibleState id).factions h r x (m.setVisibleState id).visibleFactionCount := by
  unfold ReputationMgr.setVisibleState
  split
  · exact ht
  · next s hs =>
    split
    · exact ht
    split
    · exact ht
    · next hnot =>
      have hold : s.has FACTION_FLAG_VISIBLE = false := by simpa using hnot
      have hflag := ht.reflag hw hs { s with
        Flags := s.Flags ||| FACTION_FLAG_VISIBLE
        needSend := true
        needSave := true } rfl
      rw [hold, show FactionState.has _ FACTION_FLAG_VISIBLE = true from
        decide_eq_true (or_visible s.Flags)] at hflag
      exact hflag

end Tally

/-! ## 2. Operations -/

section Operations

variable {w : World F} {m : ReputationMgr} {e : FactionEntry F}

namespace ReputationMgr

/-- Two managers with the same counters of ranks. -/
def SameRanks (m m' : ReputationMgr) : Prop :=
  m'.honoredFactionCount = m.honoredFactionCount ∧
    m'.reveredFactionCount = m.reveredFactionCount ∧
    m'.exaltedFactionCount = m.exaltedFactionCount

theorem sameRanks_setVisibleState (m : ReputationMgr) (id : ℤ) :
    SameRanks m (m.setVisibleState id) := by
  unfold setVisibleState
  split
  · exact ⟨rfl, rfl, rfl⟩
  split
  · exact ⟨rfl, rfl, rfl⟩
  split
  · exact ⟨rfl, rfl, rfl⟩
  · exact ⟨rfl, rfl, rfl⟩

theorem modify_eq (m : ReputationMgr) (id : ℤ) (f : FactionState → FactionState) :
    ∃ factions, m.modify id f = { m with factions := factions } := by
  unfold modify
  split
  · exact ⟨_, rfl⟩
  · exact ⟨m.factions, rfl⟩

theorem SameRanks.modify {m m' : ReputationMgr} (h : SameRanks m m') (id : ℤ)
    (f : FactionState → FactionState) : SameRanks m (m'.modify id f) := by
  obtain ⟨factions, heq⟩ := modify_eq m' id f
  rw [heq]
  exact h

theorem tally_modify {m : ReputationMgr} {h r x : UInt8} (hw : Proper w)
    (ht : Tally w m.factions h r x m.visibleFactionCount) (id : ℤ)
    {f : FactionState → FactionState} (hf : Uncounted f) :
    Tally w (m.modify id f).factions h r x (m.modify id f).visibleFactionCount := by
  have hfactions := ht.modify hw id hf
  obtain ⟨factions, heq⟩ := modify_eq m id f
  rw [heq] at hfactions ⊢
  exact hfactions

theorem agrees_updateRankCounters {m m' : ReputationMgr} (old new : ℤ)
    {old_rank new_rank : ReputationRank} (hold : old_rank = reputationToRank old)
    (hnew : new_rank = reputationToRank new)
    (hranks : SameRanks m m')
    (ht : Tally w m'.factions
      (adjust m.honoredFactionCount (REP_HONORED ≤ reputationToRank old)
        (REP_HONORED ≤ reputationToRank new))
      (adjust m.reveredFactionCount (REP_REVERED ≤ reputationToRank old)
        (REP_REVERED ≤ reputationToRank new))
      (adjust m.exaltedFactionCount (REP_EXALTED ≤ reputationToRank old)
        (REP_EXALTED ≤ reputationToRank new)) m'.visibleFactionCount) :
    (m'.updateRankCounters old_rank new_rank).Agrees w := by
  subst hold hnew
  obtain ⟨hhonored, hrevered, hexalted⟩ := hranks
  unfold Agrees updateRankCounters
  dsimp only
  rw [hhonored, hrevered, hexalted]
  exact ht

theorem Agrees.setOneFactionReputation (hw : Proper w) (hm : m.Agrees w)
    (he : e ∈ w.sFactionStore.rows) (standing : ℤ) (incremental : Bool) :
    (m.setOneFactionReputation w e standing incremental).2.Agrees w := by
  unfold ReputationMgr.setOneFactionReputation
  split
  · exact hm
  · next s hs =>
    obtain ⟨e', he', hlist, hid⟩ := hm.listed _ s hs
    obtain rfl := hw.distinct e' he' e he hlist hid
    dsimp only
    set total := clampStanding (if incremental = true then
      w.gain standing + (s.Standing + getBaseReputation w e') else standing) with htotal
    have hbounds : InBounds (getBaseReputation w e' + (total - getBaseReputation w e')) := by
      rw [add_sub_cancel]
      exact clampStanding_inBounds _
    set s' : FactionState := { s with
      Standing := total - getBaseReputation w e', needSend := true, needSave := true } with hs'
    have hold : s.Standing + getBaseReputation w e' = getBaseReputation w e' + s.Standing :=
      add_comm _ _
    have hnew : total = getBaseReputation w e' + s'.Standing := (add_sub_cancel _ _).symm
    have hput := Tally.put hw hm he' hlist s' hbounds
    have hsame : IsVisible e' s' = IsVisible e' s := rfl
    simp only [hs, Option.any_some, hsame, adjust_self] at hput
    have hvisible := hput.setVisibleState (m := m.put e'.reputationListID s') hw
      e'.reputationListID
    have hranks := sameRanks_setVisibleState (m.put e'.reputationListID s') e'.reputationListID
    set m₂ := (m.put e'.reputationListID s').setVisibleState e'.reputationListID with hm₂
    rw [hold]
    refine agrees_updateRankCounters (m := m) _ _ rfl (congrArg reputationToRank hnew) ?_ ?_
    · split <;> split
      · exact hranks.modify _ _
      · exact hranks
      · exact hranks.modify _ _
      · exact hranks
    · split <;> split
      · exact tally_modify hw hvisible _ (uncounted_setAtWar true)
      · exact hvisible
      · exact tally_modify hw hvisible _ (uncounted_setAtWar true)
      · exact hvisible

theorem Agrees.sendState (hm : m.Agrees w) : m.sendState.Agrees w :=
  Tally.map hm fun _ => ⟨rfl, rfl⟩

theorem Agrees.spillTemplate [SpilloverNumber F] (hw : Proper w) (hm : m.Agrees w)
    {template : RepSpilloverTemplate F}
    (hknown : ∀ i, template.faction i ≠ 0 →
      ∃ e, w.sFactionStore.lookupEntry (template.faction i) = some e)
    (standing : ℤ) (incremental : Bool) :
    ∃ m', ReputationMgr.spillTemplate w template m standing incremental = some m' ∧
      m'.Agrees w := by
  refine exists_foldlM_eq_some hm fun i _ m hm => ?_
  split
  · next hi =>
    split
    · obtain ⟨e, he⟩ := hknown i hi
      rw [he]
      exact ⟨_, rfl, hm.setOneFactionReputation hw (List.mem_of_find?_eq_some he) _ _⟩
    · exact ⟨m, rfl, hm⟩
  · exact ⟨m, rfl, hm⟩

theorem Agrees.spillList [SpilloverNumber F] (hw : Proper w) (hm : m.Agrees w)
    (flist : List ℕ) (spillOverRepOut : F) (incremental : Bool) :
    (m.spillList w e flist spillOverRepOut incremental).2.Agrees w := by
  unfold ReputationMgr.spillList
  generalize false = res
  induction flist generalizing m res with
  | nil => exact hm
  | cons id flist ih =>
    rw [List.foldl_cons]
    split
    · exact ih hm res
    · next found hfound =>
      split
      · exact ih hm res
      dsimp only
      split
      · exact ih (hm.setOneFactionReputation hw (List.mem_of_find?_eq_some hfound) _ _) _
      · exact ih hm res

theorem Agrees.spillTeam [SpilloverNumber F] (hw : Proper w) (hm : m.Agrees w)
    (e : FactionEntry F) (standing : ℤ) (incremental : Bool) :
    (m.spillTeam w e standing incremental).2.Agrees w := by
  unfold ReputationMgr.spillTeam
  dsimp only
  split
  · exact hm.spillList hw _ _ _
  split
  · split
    · exact hm
    · next parent hparent =>
      split
      · exact hm.setOneFactionReputation hw (List.mem_of_find?_eq_some hparent) _ _
      split
      · exact hm.spillList hw _ _ _
      · exact hm
  · exact hm

theorem Agrees.spill [SpilloverNumber F] (hw : Proper w) (hm : m.Agrees w)
    (e : FactionEntry F) (standing : ℤ) (incremental : Bool) :
    ∃ r, m.spill w e standing incremental = some r ∧ r.2.Agrees w := by
  unfold ReputationMgr.spill
  split
  · next template htemplate =>
    obtain ⟨m', hm', hagrees⟩ :=
      hm.spillTemplate hw (w.templates_known e.ID template htemplate) standing incremental
    exact ⟨(false, m'), by rw [hm']; rfl, hagrees⟩
  · exact ⟨_, rfl, hm.spillTeam hw e standing incremental⟩

theorem Agrees.setReputation [SpilloverNumber F] (hw : Proper w) (hm : m.Agrees w)
    (he : e ∈ w.sFactionStore.rows) (standing : ℤ) (incremental : Bool) :
    ∃ r, m.setReputation w e standing incremental = some r ∧ r.2.Agrees w := by
  unfold ReputationMgr.setReputation
  obtain ⟨r, hr, hspilled⟩ :=
    hm.spill hw e (w.onPlayerReputationChange e.ID standing incremental) incremental
  dsimp only
  rw [hr]
  simp only [Option.bind_eq_bind, Option.bind_some]
  split
  · exact ⟨_, rfl, hspilled⟩
  · exact ⟨_, rfl, (hspilled.setOneFactionReputation hw he _ incremental).sendState⟩

theorem Agrees.setVisibleState (hw : Proper w) (hm : m.Agrees w) (id : ℤ) :
    (m.setVisibleState id).Agrees w := by
  obtain ⟨hhonored, hrevered, hexalted⟩ := sameRanks_setVisibleState m id
  unfold Agrees
  rw [hhonored, hrevered, hexalted]
  exact Tally.setVisibleState hw hm id

theorem Agrees.setVisible (hw : Proper w) (hm : m.Agrees w) (e : FactionEntry F) :
    (m.setVisible e).Agrees w := by
  unfold ReputationMgr.setVisible
  split
  · exact hm
  · exact hm.setVisibleState hw _

theorem Agrees.modify (hw : Proper w) (hm : m.Agrees w) (id : ℤ)
    {f : FactionState → FactionState} (hf : Uncounted f) : (m.modify id f).Agrees w := by
  have hfactions := Tally.modify hw hm id hf
  obtain ⟨factions, heq⟩ := modify_eq m id f
  rw [heq] at hfactions ⊢
  exact hfactions

theorem Agrees.setAtWar (hw : Proper w) (hm : m.Agrees w) (repListID : ℤ) (on : Bool) :
    (m.setAtWar repListID on).Agrees w := by
  unfold ReputationMgr.setAtWar
  split
  · exact hm
  split
  · exact hm
  · exact hm.modify hw _ (uncounted_setAtWar on)

end ReputationMgr

end Operations

/-! ## 3. The list is made -/

section Initialize

variable {w : World F}

theorem getBaseReputation_inBounds (hw : Proper w) {e : FactionEntry F}
    (he : e ∈ w.sFactionStore.rows) : InBounds (getBaseReputation w e) := by
  unfold getBaseReputation
  split
  · exact hw.base e he _
  · exact ⟨by decide, by decide⟩

namespace ReputationMgr

theorem counts_none (kind : FactionEntry F → FactionState → Bool) (l : List (FactionEntry F)) :
    Counts (InList (fun _ => none) kind) l 0 := by
  have hzero : l.countP (InList (fun _ => none) kind) = 0 :=
    List.countP_eq_zero.mpr fun e _ => by simp [InList]
  rw [Counts, hzero]
  rfl

theorem agrees_new (w : World F) : new.Agrees w where
  honored := counts_none _ _
  revered := counts_none _ _
  exalted := counts_none _ _
  visible := counts_none _ _
  inBounds _ _ _ h := by cases h
  listed _ _ h := by cases h

theorem Agrees.initializeFaction {m : ReputationMgr} (hw : Proper w) (hm : m.Agrees w)
    {e : FactionEntry F} (he : e ∈ w.sFactionStore.rows)
    (hnone : e.CanHaveReputation → m.factions e.reputationListID = none) :
    (m.initializeFaction w e).Agrees w := by
  unfold ReputationMgr.initializeFaction
  split
  · next hlist =>
    set newFaction : FactionState := ⟨e.ID, e.reputationListID, 0,
      (getDefaultStateFlags w e).toUInt8, true, true⟩ with hnew
    have hbounds : InBounds (getBaseReputation w e + newFaction.Standing) := by
      rw [hnew, add_zero]
      exact getBaseReputation_inBounds hw he
    have hput := Tally.put hw hm he hlist newFaction hbounds
    have hrank : ∀ rank, HasRank w rank e newFaction = decide (rank ≤ getBaseRank w e) := by
      intro rank
      simp only [HasRank, getBaseRank, hnew, add_zero]
      rfl
    simp only [hnone hlist, Option.any_none, hrank] at hput
    dsimp only
    split
    · next hvisible =>
      have hcounted : IsVisible e newFaction = true := hvisible
      rw [hcounted] at hput
      exact hput
    · next hvisible =>
      have hcounted : IsVisible e newFaction = false :=
        Bool.eq_false_of_not_eq_true hvisible
      rw [hcounted] at hput
      exact hput
  · exact hm

theorem factions_initializeFaction_of_ne (m : ReputationMgr) (e : FactionEntry F) {id : ℤ}
    (hid : e.CanHaveReputation → id ≠ e.reputationListID) :
    (m.initializeFaction w e).factions id = m.factions id := by
  unfold initializeFaction
  split
  · next hlist =>
    refine (Function.update_of_ne (hid hlist) _ _).trans ?_
    dsimp only [updateRankCounters]
    split <;> rfl
  · rfl

/-- A faction that begins with nothing on top of what it grants. -/
def Fresh (m : ReputationMgr) (e : FactionEntry F) : Prop :=
  ∃ s, m.factions e.reputationListID = some s ∧ s.Standing = 0

theorem agrees_initializeFactions (hw : Proper w) :
    (initializeFactions w).Agrees w ∧
      ∀ e ∈ w.sFactionStore.rows, e.CanHaveReputation → (initializeFactions w).Fresh e := by
  suffices h : ∀ done rest (m : ReputationMgr), w.sFactionStore.rows = done ++ rest →
      m.Agrees w → (∀ e ∈ done, e.CanHaveReputation → m.Fresh e) →
      (∀ e ∈ rest, e.CanHaveReputation → m.factions e.reputationListID = none) →
      (rest.foldl (fun m e => m.initializeFaction w e) m).Agrees w ∧
        ∀ e ∈ w.sFactionStore.rows, e.CanHaveReputation →
          (rest.foldl (fun m e => m.initializeFaction w e) m).Fresh e from
    h [] _ new rfl (agrees_new w) (fun _ he => absurd he List.not_mem_nil) fun _ _ _ => rfl
  intro done rest
  induction rest generalizing done with
  | nil =>
    intro m hrows hm hdone _
    refine ⟨hm, fun e he => hdone e ?_⟩
    rwa [hrows, List.append_nil] at he
  | cons e rest ih =>
    intro m hrows hm hdone hrest
    have hnodup := rows_nodup w
    rw [hrows] at hnodup
    have hnotin : e ∉ done ++ rest := (List.nodup_cons.mp (List.nodup_middle.mp hnodup)).1
    have hein : e ∈ w.sFactionStore.rows := by
      rw [hrows]
      exact List.mem_append_right _ List.mem_cons_self
    have hother : ∀ b ∈ done ++ rest, (m.initializeFaction w e).factions b.reputationListID =
        m.factions b.reputationListID := by
      intro b hb
      have hbin : b ∈ w.sFactionStore.rows := by
        rw [hrows]
        exact (List.perm_middle.mem_iff).mpr (List.mem_cons_of_mem e hb)
      refine factions_initializeFaction_of_ne m e fun hlist heq => hnotin ?_
      rwa [hw.distinct e hein b hbin hlist heq.symm]
    rw [List.foldl_cons]
    refine ih (done ++ [e]) _ (by rw [hrows, List.append_cons]) ?_ ?_ ?_
    · exact hm.initializeFaction hw hein (hrest e List.mem_cons_self)
    · intro b hb hlist
      rcases List.mem_append.mp hb with hb | hb
      · obtain ⟨s, hs, hzero⟩ := hdone b hb hlist
        exact ⟨s, (hother b (List.mem_append_left _ hb)).trans hs, hzero⟩
      · obtain rfl := List.mem_singleton.mp hb
        unfold ReputationMgr.initializeFaction
        rw [if_pos hlist]
        exact ⟨_, Function.update_self _ _ _, rfl⟩
    · intro b hb hlist
      rw [hother b (List.mem_append_right _ hb)]
      exact hrest b (List.mem_cons_of_mem e hb) hlist

end ReputationMgr

end Initialize

/-! ## 4. The list is loaded -/

section Load

variable {w : World F}

/-- What is stored of a faction keeps its total within the bounds. -/
def RowFits (w : World F) (row : ReputationRow) : Prop :=
  ∀ e, w.sFactionStore.lookupEntry row.faction = some e → e.CanHaveReputation →
    InBounds (getBaseReputation w e + row.standing)

namespace ReputationMgr

def OnlyAt (id : ℤ) (m m' : ReputationMgr) : Prop :=
  ∀ id', id' ≠ id → m'.factions id' = m.factions id'

variable {id : ℤ} {m m' : ReputationMgr}

theorem OnlyAt.modify (h : OnlyAt id m m')
    (f : FactionState → FactionState) : OnlyAt id m (m'.modify id f) := by
  intro id' hne
  rw [← h id' hne]
  unfold ReputationMgr.modify
  split
  · exact Function.update_of_ne hne _ _
  · rfl

theorem OnlyAt.setVisibleState (h : OnlyAt id m m') :
    OnlyAt id m (m'.setVisibleState id) := by
  intro id' hne
  rw [← h id' hne]
  unfold ReputationMgr.setVisibleState
  split
  · rfl
  split
  · rfl
  split
  · rfl
  · exact Function.update_of_ne hne _ _

/-- What the changes of one state keep. -/
def Loading (w : World F) (id : ℤ) (m m' : ReputationMgr) : Prop := m'.Agrees w ∧ OnlyAt id m m'

theorem Loading.modify (hw : Proper w) (h : Loading w id m m')
    {f : FactionState → FactionState} (hf : Uncounted f) : Loading w id m (m'.modify id f) :=
  ⟨h.1.modify hw id hf, h.2.modify f⟩

theorem Loading.ite {m m₁ m₂ : ReputationMgr} {c : Prop} [Decidable c]
    (h₁ : Loading w id m m₁) (h₂ : Loading w id m m₂) :
    Loading w id m (if c then m₁ else m₂) := by
  split
  · exact h₁
  · exact h₂

theorem Agrees.loadStanding {m : ReputationMgr} (hw : Proper w) (hm : m.Agrees w)
    {e : FactionEntry F} (he : e ∈ w.sFactionStore.rows) (hlist : e.CanHaveReputation)
    (hfresh : m.Fresh e) {row : ReputationRow}
    (hbounds : InBounds (getBaseReputation w e + row.standing)) :
    Loading w e.reputationListID m (m.loadStanding w e row) := by
  obtain ⟨s, hs, hzero⟩ := hfresh
  set s' : FactionState := { s with Standing := row.standing } with hs'
  have hput := Tally.put hw hm he hlist s' hbounds
  have hsame : IsVisible e s' = IsVisible e s := rfl
  simp only [hs, Option.any_some, hsame, adjust_self] at hput
  unfold ReputationMgr.loadStanding
  rw [hs]
  refine ⟨?_, fun id' hne => Function.update_of_ne hne _ _⟩
  exact agrees_updateRankCounters (m := m) (getBaseReputation w e + s.Standing) _
    (by rw [hzero, add_zero]) rfl ⟨rfl, rfl, rfl⟩ hput

theorem Loading.loadFlags (hw : Proper w) {e : FactionEntry F}
    (h : Loading w e.reputationListID m m') (row : ReputationRow) :
    Loading w e.reputationListID m (m'.loadFlags w e row) := by
  have hremove : Uncounted fun s => if s.has FACTION_FLAG_VISIBLE then s.setAtWar false else s := by
    intro s
    dsimp only
    split
    · exact uncounted_setAtWar false s
    · exact ⟨rfl, rfl⟩
  have hsaved : Uncounted fun s =>
      if s.Flags.toUInt16 = row.flags then { s with needSend := false, needSave := false }
      else s := by
    intro s
    dsimp only
    split
    · exact ⟨rfl, rfl⟩
    · exact ⟨rfl, rfl⟩
  unfold ReputationMgr.loadFlags
  refine Loading.modify hw (.ite (.modify hw ?_ (uncounted_setAtWar true)) ?_) hsaved
  all_goals
    refine .ite (.modify hw ?_ (uncounted_setAtWar true)) (.modify hw ?_ hremove)
  all_goals
    refine .ite (.modify hw ?_ (uncounted_setInactive true)) ?_
  all_goals
    exact .ite ⟨h.1.setVisibleState hw _, h.2.setVisibleState⟩ h

theorem agrees_loadFromDB (hw : Proper w) {result : List ReputationRow}
    (hone : (result.map (·.faction)).Nodup) (hfits : ∀ row ∈ result, RowFits w row) :
    (loadFromDB w result).Agrees w := by
  obtain ⟨hm, hall⟩ := agrees_initializeFactions hw
  have hfresh : ∀ row ∈ result, ∀ e, w.sFactionStore.lookupEntry row.faction = some e →
      e.CanHaveReputation → (initializeFactions w).Fresh e := fun row _ e he hlist =>
    hall e (List.mem_of_find?_eq_some he) hlist
  unfold loadFromDB
  generalize initializeFactions w = m at hm hfresh
  induction result generalizing m with
  | nil => exact hm
  | cons row result ih =>
    obtain ⟨hnotin, hone⟩ := List.nodup_cons.mp hone
    obtain ⟨hfit, hfits⟩ := List.forall_mem_cons.mp hfits
    obtain ⟨hrow, hrest⟩ := List.forall_mem_cons.mp hfresh
    rw [List.foldl_cons]
    unfold loadRow
    split
    · exact ih hone hfits m hm hrest
    · next e he =>
      split
      · next hlist =>
        have hein := List.mem_of_find?_eq_some he
        have hload := (hm.loadStanding hw hein hlist (hrow e he hlist)
          (hfit e he hlist)).loadFlags hw row
        refine ih hone hfits _ hload.1 fun row' hrow' e' he' hlist' => ?_
        obtain ⟨s, hs, hzero⟩ := hrest row' hrow' e' he' hlist'
        refine ⟨s, (hload.2 _ fun heq => hnotin ?_).trans hs, hzero⟩
        -- two factions with one place in the list are one, and have one row
        obtain rfl := hw.distinct e' (List.mem_of_find?_eq_some he') e hein hlist' heq
        have hid : e'.ID = row.faction := by simpa using List.find?_some he
        have hid' : e'.ID = row'.faction := by simpa using List.find?_some he'
        exact List.mem_map.mpr ⟨row', hrow', hid'.symm.trans hid⟩
      · exact ih hone hfits m hm hrest

end ReputationMgr

end Load

/-! ## 5. Every run -/

section Run

variable [SpilloverNumber F] {w : World F}

/-- What an operation is given: rows of the database that fit, and entries of the store. -/
def Fits (w : World F) : Operation F → Prop
  | .loadFromDB result => (result.map (·.faction)).Nodup ∧ ∀ row ∈ result, RowFits w row
  | .setReputation e _ _ => e ∈ w.sFactionStore.rows
  | .setOneFactionReputation e _ _ => e ∈ w.sFactionStore.rows
  | .setVisible _ => True
  | .setAtWar _ _ => True
  | .setInactive _ _ => True

theorem ReputationMgr.Agrees.run {m : ReputationMgr} (hw : Proper w) (hm : m.Agrees w)
    {op : Operation F} (hop : Fits w op) : ∃ m', m.run w op = some m' ∧ m'.Agrees w := by
  cases op with
  | loadFromDB result => exact ⟨_, rfl, agrees_loadFromDB hw hop.1 hop.2⟩
  | setReputation e standing incremental =>
    obtain ⟨r, hr, hagrees⟩ := hm.setReputation hw hop standing incremental
    exact ⟨r.2, by rw [ReputationMgr.run, hr]; rfl, hagrees⟩
  | setOneFactionReputation e standing incremental =>
    exact ⟨_, rfl, hm.setOneFactionReputation hw hop standing incremental⟩
  | setVisible e => exact ⟨_, rfl, hm.setVisible hw e⟩
  | setAtWar repListID on => exact ⟨_, rfl, hm.setAtWar hw repListID on⟩
  | setInactive repListID on => exact ⟨_, rfl, hm.modify hw repListID (uncounted_setInactive on)⟩

def number (w : World F) (m : ReputationMgr) (kind : FactionEntry F → FactionState → Bool) : ℕ :=
  w.sFactionStore.rows.countP (InList m.factions kind)

/-- The counters are the numbers themselves. -/
def ReputationMgr.Exact (w : World F) (m : ReputationMgr) : Prop :=
  m.honoredFactionCount.toNat = number w m (HasRank w REP_HONORED) ∧
    m.reveredFactionCount.toNat = number w m (HasRank w REP_REVERED) ∧
    m.exaltedFactionCount.toNat = number w m (HasRank w REP_EXALTED) ∧
    m.visibleFactionCount.toNat = number w m IsVisible

omit [SpilloverNumber F] in
theorem ReputationMgr.Agrees.exact {m : ReputationMgr} (hm : m.Agrees w)
    (hfew : w.sFactionStore.rows.countP (fun e => e.CanHaveReputation) < 256) : m.Exact w := by
  have hlt : ∀ kind, w.sFactionStore.rows.countP (InList m.factions kind) < 256 := fun kind => by
    refine lt_of_le_of_lt (List.countP_mono_left fun e _ he => ?_) hfew
    have hlist := (of_decide_eq_true he).1
    exact decide_eq_true hlist
  exact ⟨hm.honored.toNat_eq (hlt _), hm.revered.toNat_eq (hlt _), hm.exalted.toNat_eq (hlt _),
    hm.visible.toNat_eq (hlt _)⟩

/-- **In every state of every run** the counters agree, modulo 256, with the numbers of the
factions, and the totals are within the bounds; with fewer than 256 factions in the list the
counters are the numbers. -/
theorem agrees_of_run (w : World F) (hw : Proper w) (ops : List (Operation F))
    (hops : ∀ op ∈ ops, Fits w op) :
    States (step w) (fun r => ∃ m, r = some m ∧ m.Agrees w ∧
      (w.sFactionStore.rows.countP (fun e => e.CanHaveReputation) < 256 → m.Exact w))
      (some .new) ops := by
  have hinv : States (step w) (fun r => ∃ m, r = some m ∧ m.Agrees w) (some .new) ops := by
    refine States.of_steps (C := fun _ op => Fits w op) ?_ ⟨.new, rfl, ReputationMgr.agrees_new w⟩
      (Steps.of_mem fun _ op hop => hops op hop)
    rintro r op ⟨m, rfl, hm⟩ hop
    exact hm.run hw hop
  refine hinv.imp ?_
  rintro r ⟨m, rfl, hm⟩
  exact ⟨m, rfl, hm, hm.exact⟩

end Run

/-! ## 6. Too many factions -/

/-- Exact numbers for the spillover of the worlds below. -/
instance : SpilloverNumber ℤ where
  ofInt x := x
  mul x y := x * y
  toInt x := x
  isZero x := x = 0

/-- A faction that grants 9000 to the first race, and spills nothing. -/
def friend (n : ℕ) : FactionEntry ℤ where
  ID := n + 1
  reputationListID := n
  BaseRepRaceMask _ := 1
  BaseRepClassMask _ := 0
  BaseRepValue _ := 9000
  ReputationFlags _ := 1
  team := 0
  spilloverRateIn := 0
  spilloverRateOut := 0
  spilloverMaxRankIn := 0

def friends (n : ℕ) : World ℤ where
  sFactionStore :=
    { rows := (List.range n).map friend
      sorted := List.pairwise_map.mpr (List.pairwise_lt_range.imp fun h => Nat.succ_lt_succ h)
      positive := List.forall_mem_map.mpr fun k _ => Nat.succ_pos k }
  getRepSpilloverTemplate _ := none
  templates_known _ _ h := by cases h
  raceMask := 1
  classMask := 1
  gain x := x
  onPlayerReputationChange _ standing _ := standing

theorem friends_proper (n : ℕ) : Proper (friends n) where
  distinct e he e' he' _ hid := by
    obtain ⟨k, -, rfl⟩ := List.mem_map.mp he
    obtain ⟨k', -, rfl⟩ := List.mem_map.mp he'
    have hk : k = k' := by simpa [friend] using hid
    rw [hk]
  base e he i := by
    obtain ⟨k, -, rfl⟩ := List.mem_map.mp he
    exact ⟨show (-42000 : ℤ) ≤ 9000 by decide, show (9000 : ℤ) ≤ 42999 by decide⟩

theorem getBaseReputation_friend (n k : ℕ) :
    getBaseReputation (friends n) (friend k) = 9000 := by
  have hindex : baseRepIndex (friends n) (friend k) = some 0 := by
    simp [baseRepIndex, friends, friend, List.finRange_succ]
  rw [getBaseReputation, hindex]
  rfl

theorem number_friends (n : ℕ) :
    number (friends n) (ReputationMgr.loadFromDB (friends n) [])
      (HasRank (friends n) REP_HONORED) = n := by
  have hall : ∀ e ∈ (friends n).sFactionStore.rows,
      InList (ReputationMgr.loadFromDB (friends n) []).factions (HasRank (friends n) REP_HONORED)
        e = true := by
    intro e he
    obtain ⟨k, -, rfl⟩ := List.mem_map.mp he
    have hlist : (friend k).CanHaveReputation := Int.natCast_nonneg k
    obtain ⟨s, hs, hzero⟩ :=
      (ReputationMgr.agrees_initializeFactions (friends_proper n)).2 _ he hlist
    have hrank : HasRank (friends n) REP_HONORED (friend k) s = true := by
      rw [HasRank, hzero, getBaseReputation_friend]
      decide
    refine decide_eq_true ⟨hlist, ?_⟩
    rw [ReputationMgr.loadFromDB, List.foldl_nil, hs]
    exact hrank
  rw [number, List.countP_eq_length.mpr hall]
  simp [friends]

/-- **256 honored factions are counted as none.** -/
theorem manyFactions_miscounted :
    ¬∀ (w : World ℤ) (ops : List (Operation ℤ)), Proper w → (∀ op ∈ ops, Fits w op) →
      States (step w) (fun r => ∃ m, r = some m ∧ m.Exact w) (some .new) ops := by
  intro h
  have hloaded : Fits (friends 256) (.loadFromDB []) := ⟨List.nodup_nil, List.forall_mem_nil _⟩
  obtain ⟨m, hm, hexact, -⟩ := (h (friends 256) [.loadFromDB []] (friends_proper 256)
    (List.forall_mem_singleton.mpr hloaded)).2
  obtain rfl : ReputationMgr.loadFromDB (friends 256) [] = m := Option.some.inj hm
  rw [number_friends] at hexact
  exact absurd hexact (UInt8.toNat_lt _).ne

/-- With two of them it is right, also after one becomes exalted and then hostile. -/
theorem twoFriends_agree :
    States (step (friends 2)) (fun r => ∃ m, r = some m ∧ m.Agrees (friends 2) ∧
      ((friends 2).sFactionStore.rows.countP (fun e => e.CanHaveReputation) < 256 →
        m.Exact (friends 2))) (some .new)
      [.loadFromDB [⟨1, 33000, 1⟩], .setReputation (friend 0) (-9000) false,
        .setReputation (friend 1) 50000 true] := by
  refine agrees_of_run (friends 2) (friends_proper 2) _ ?_
  have hloaded : Fits (friends 2) (.loadFromDB [⟨1, 33000, 1⟩]) := by
    refine ⟨List.nodup_singleton _, List.forall_mem_singleton.mpr fun e he _ => ?_⟩
    obtain ⟨k, -, rfl⟩ := List.mem_map.mp (List.mem_of_find?_eq_some he)
    rw [getBaseReputation_friend]
    exact ⟨by decide, by decide⟩
  refine List.forall_mem_cons.mpr ⟨hloaded, List.forall_mem_cons.mpr ⟨?_, ?_⟩⟩
  · exact List.mem_map_of_mem (List.mem_range.mpr (by decide))
  · exact List.forall_mem_singleton.mpr (List.mem_map_of_mem (List.mem_range.mpr (by decide)))

end FunPvp.Reputation
