/-
# The daily limit on items

A rank has a limit for each tab on how many times a day its members may take something out of it.
A member's right to take out is checked before a move, for the source and, when two items are
swapped, for the destination too; his counters go up when the items are removed.

`moveItems_cases` says what a move does to the members: nothing if it fails, and else it has been
checked that the member may take from each tab that something leaves, and each of these is
counted (`charge`). So the counter of a tab is the number of times something was taken from it
since the last reset, and it stays within the limit.
-/
import FunPvp.Lib.Run
import FunPvp.Lib.SignedLimit
import FunPvp.Guilds.BankMove

namespace FunPvp.Guilds

open FunPvp.Lib

variable {Bags : Type*} {env : MoveEnv Bags}

/-! ## 1. What a move does to the members -/

namespace Guild

variable {g g' : Guild} {guid player : ObjectGuid} {member : Member} {tabId : UInt8}

theorem slotsOnly_updateMemberWithdrawSlots (h : MoveState.SlotsOnly g g') :
    MoveState.SlotsOnly (g.updateMemberWithdrawSlots player tabId)
      (g'.updateMemberWithdrawSlots player tabId) := by
  have hmember : g'.getMember player = g.getMember player := by
    unfold getMember
    rw [h.members]
  have hslots : ∀ rankId, g'.getRankBankTabSlotsPerDay rankId tabId =
      g.getRankBankTabSlotsPerDay rankId tabId := by
    intro rankId
    unfold getRankBankTabSlotsPerDay getPurchasedTabsSize getRankInfo getRanksSize
    rw [h.ranks, h.tabs]
  unfold updateMemberWithdrawSlots
  rw [hmember]
  split
  · rename_i member hget
    rw [hslots]
    split
    · refine ⟨h.leaderGuid, h.ranks, ?_, h.tabs⟩
      unfold updateMember
      rw [h.members]
    · exact h
  · exact h

end Guild

namespace MoveItemData

def leaves (src dest : MoveItemData) (tabId : UInt8) : Bool :=
  src.inTab tabId && !dest.inTab tabId

end MoveItemData

namespace MoveState

variable {s : MoveState Bags} {player : ObjectGuid} {src dest : MoveItemData}
  {splitedAmount : UInt32} {tabId : UInt8}

def charge (g : Guild) (player : ObjectGuid) (src dest : MoveItemData) : Guild :=
  if src.leaves dest src.container then g.updateMemberWithdrawSlots player src.container else g

theorem slotsOnly_removeItem {pItem : Item} :
    SlotsOnly (charge s.guild player src dest)
      (removeItem env s player dest pItem splitedAmount src).guild := by
  unfold charge MoveItemData.leaves
  cases src with
  | bank container slotId =>
    have hself : (MoveItemData.bank container slotId).inTab container = true := by
      simp [MoveItemData.inTab, MoveItemData.isBank, MoveItemData.container]
    change SlotsOnly (if ((MoveItemData.bank container slotId).inTab container &&
      !dest.inTab container) = true then _ else _) _
    unfold removeItem
    dsimp only
    rw [hself, Bool.true_and]
    cases dest.inTab container with
    | true => exact slotsOnly_setItem
    | false => exact Guild.slotsOnly_updateMemberWithdrawSlots slotsOnly_setItem
  | player container slotId => exact SlotsOnly.refl _

theorem SlotsOnly.charge {g g' : Guild} (h : SlotsOnly g g') :
    SlotsOnly (MoveState.charge g player src dest) (MoveState.charge g' player src dest) := by
  unfold MoveState.charge
  split
  · exact Guild.slotsOnly_updateMemberWithdrawSlots h
  · exact h

/-- What a move has done to the members, by how it ended: the member may take from each tab that
something has left, and it was counted. -/
inductive MoveDid (g : Guild) (player : ObjectGuid) (src dest : MoveItemData) :
    MoveResult → Guild → Prop
  | failed : MoveDid g player src dest .failed g
  | moved {g'} : hasWithdrawRights g player dest src = true →
      SlotsOnly (charge g player src dest) g' → MoveDid g player src dest .moved g'
  | swapped {g'} : hasWithdrawRights g player dest src = true →
      hasWithdrawRights g player src dest = true →
      SlotsOnly (charge (charge g player src dest) player dest src) g' →
      MoveDid g player src dest .swapped g'

theorem doItemsMove_moved {pItem pSrcItem : ItemPtr}
    (h : hasWithdrawRights s.guild player dest src = true) :
    MoveDid s.guild player src dest
      (doItemsMove env s player src dest pItem pSrcItem none splitedAmount).1
      (doItemsMove env s player src dest pItem pSrcItem none splitedAmount).2.guild := by
  unfold doItemsMove
  split
  · exact MoveDid.failed
  · exact MoveDid.moved h (slotsOnly_removeItem.trans slotsOnly_storeItem)
  · rename_i hsome
    exact absurd hsome (by simp)

theorem doItemsMove_swapped {pItem pSrcItem pDestItem : ItemPtr}
    (hsrc : hasWithdrawRights s.guild player dest src = true)
    (hdest : hasWithdrawRights s.guild player src dest = true) :
    MoveDid s.guild player src dest
      (doItemsMove env s player src dest pItem pSrcItem (some pDestItem) splitedAmount).1
      (doItemsMove env s player src dest pItem pSrcItem (some pDestItem) splitedAmount).2.guild := by
  unfold doItemsMove
  split
  · exact MoveDid.failed
  · rename_i hnone
    exact absurd hnone (by simp)
  · split
    · exact MoveDid.failed
    · exact MoveDid.swapped hsrc hdest ((slotsOnly_removeItem.charge.trans
        slotsOnly_removeItem).trans (slotsOnly_storeItem.trans slotsOnly_storeItem))

theorem swapItems_did {pItem : ItemPtr} (hsrc : hasWithdrawRights s.guild player dest src = true) :
    MoveDid s.guild player src dest (swapItems env s player src dest pItem).1
      (swapItems env s player src dest pItem).2.guild := by
  unfold swapItems
  split
  · exact MoveDid.failed
  split
  · exact MoveDid.failed
  split
  · exact MoveDid.failed
  rename_i hdest
  exact doItemsMove_swapped hsrc (by simpa using hdest)

theorem moveItems_did (env : MoveEnv Bags) (s : MoveState Bags) (player : ObjectGuid)
    (src dest : MoveItemData) (splitedAmount : UInt32) :
    MoveDid s.guild player src dest (moveItems env s player src dest splitedAmount).1
      (moveItems env s player src dest splitedAmount).2.guild := by
  unfold moveItems
  split
  · exact MoveDid.failed
  rename_i pItem hitem
  split
  · exact MoveDid.failed
  rename_i n hcheck
  split
  · exact MoveDid.failed
  split
  · exact MoveDid.failed
  rename_i hwithdraw
  have hsrc : hasWithdrawRights s.guild player dest src = true := by simpa using hwithdraw
  have hguild : (cloneItem env s pItem.item n).2.guild = s.guild := cloneItem_guild
  split
  · -- part of the stack is split off
    split
    · rename_i s₁ hclone
      rw [hclone] at hguild
      dsimp only at hguild ⊢
      rw [hguild]
      exact MoveDid.failed
    · rename_i cloned s₁ hclone
      rw [hclone] at hguild
      dsimp only at hguild
      rw [← hguild] at hsrc ⊢
      exact doItemsMove_moved hsrc
  · split
    · rename_i s₁ hmove
      rw [doItemsMove_failed hmove]
      exact swapItems_did hsrc
    · exact doItemsMove_moved hsrc

/-! ## 2. A day's moves -/

structure Move where
  player : ObjectGuid
  src : MoveItemData
  dest : MoveItemData
  splitedAmount : UInt32

def moveStep (env : MoveEnv Bags) (s : MoveState Bags) (move : Move) : MoveState Bags :=
  (moveItems env s move.player move.src move.dest move.splitedAmount).2

def takes (res : MoveResult) (src dest : MoveItemData) (tabId : UInt8) : Bool :=
  match res with
  | .failed => false
  | .moved => src.leaves dest tabId
  | .swapped => src.leaves dest tabId || dest.leaves src tabId

/-- Counts the moves of the member that take an item out of the tab. -/
def withdrawal (env : MoveEnv Bags) (member : ObjectGuid) (tabId : UInt8) (s : MoveState Bags)
    (move : Move) : ℕ :=
  if move.player = member ∧ takes (moveItems env s move.player move.src move.dest
      move.splitedAmount).1 move.src move.dest tabId = true then 1 else 0

/-- The member has taken `k` times from the tab today: that is his counter, and it is within the
limit his rank has in `g`. -/
structure Counts (g : Guild) (guid : ObjectGuid) (rankId tabId : UInt8) (k : ℕ) (g' : Guild) :
    Prop where
  ranks : g'.ranks = g.ranks
  tabs : g'.bankTabs.length = g.bankTabs.length
  member : ∃ member, g'.getMember guid = some member ∧ member.rankId = rankId ∧
    (member.bankWithdraw tabId).toInt = k
  le : (k : ℤ) ≤ max 0 (g.getRankBankTabSlotsPerDay rankId tabId).toInt

section Counts

variable {g g' g'' : Guild} {guid : ObjectGuid} {rankId : UInt8} {k : ℕ}

theorem Counts.slotsPerDay (h : Counts g guid rankId tabId k g') (r t : UInt8) :
    g'.getRankBankTabSlotsPerDay r t = g.getRankBankTabSlotsPerDay r t := by
  unfold Guild.getRankBankTabSlotsPerDay Guild.getPurchasedTabsSize Guild.getRankInfo
    Guild.getRanksSize
  rw [h.ranks, h.tabs]

theorem Counts.tabRights (h : Counts g guid rankId tabId k g') (r t : UInt8) :
    g'.getRankBankTabRights r t = g.getRankBankTabRights r t := by
  unfold Guild.getRankBankTabRights Guild.getRankInfo Guild.getRanksSize
  rw [h.ranks]

theorem Counts.slotsOnly (h : Counts g guid rankId tabId k g') (hs : SlotsOnly g' g'') :
    Counts g guid rankId tabId k g'' where
  ranks := hs.ranks.trans h.ranks
  tabs := hs.tabs.trans h.tabs
  member := by
    unfold Guild.getMember
    rw [hs.members]
    exact h.member
  le := h.le

/-- **What the rights say.**  If the member may take from the tab, his rank can view it, and he
has taken from it less often than he may. -/
theorem Counts.of_rights (h : Counts g guid rankId tabId k g') (hrank : rankId ≠ GR_GUILDMASTER)
    (hleaves : src.leaves dest tabId = true)
    (hrights : hasWithdrawRights g' guid dest src = true) :
    g.getRankBankTabRights rankId tabId &&& GUILD_BANK_RIGHT_VIEW_TAB ≠ 0 ∧
      (k : ℤ) < (g.getRankBankTabSlotsPerDay rankId tabId).toInt := by
  obtain ⟨member, hget, hrankId, hk⟩ := h.member
  cases src with
  | player container slotId =>
    exact absurd hleaves (by simp [MoveItemData.leaves, MoveItemData.inTab, MoveItemData.isBank])
  | bank container slotId =>
    obtain ⟨hsrc, hdest⟩ := Bool.and_eq_true_iff.mp hleaves
    have hcontainer : container = tabId := of_decide_eq_true hsrc
    subst hcontainer
    have hout : dest.inTab container = false := by simpa using hdest
    have hremaining : g'.getMemberRemainingSlots member container ≠ 0 := by
      simpa [hasWithdrawRights, hout, hget] using hrights
    have hvalue : member.getBankWithdrawValue container = member.bankWithdraw container := by
      unfold Member.getBankWithdrawValue Member.isRank
      rw [hrankId]
      exact if_neg (by simpa using hrank)
    unfold Guild.getMemberRemainingSlots at hremaining
    rw [hrankId, if_neg hrank, h.tabRights, h.slotsPerDay, hvalue] at hremaining
    dsimp only at hremaining
    split at hremaining
    · rename_i hview
      refine ⟨hview, ?_⟩
      split at hremaining
      · rename_i hpos
        exact lt_of_sub_counter_pos hk h.le hpos
      · exact absurd rfl hremaining
    · exact absurd rfl hremaining

theorem Counts.update (h : Counts g guid rankId tabId k g') (hrank : rankId ≠ GR_GUILDMASTER)
    (hk : (k : ℤ) < (g.getRankBankTabSlotsPerDay rankId tabId).toInt) :
    Counts g guid rankId tabId (k + 1) (g'.updateMemberWithdrawSlots guid tabId) := by
  obtain ⟨member, hget, hrankId, hcount⟩ := h.member
  have hvalue : member.getBankWithdrawValue tabId = member.bankWithdraw tabId := by
    unfold Member.getBankWithdrawValue Member.isRank
    rw [hrankId]
    exact if_neg (by simpa using hrank)
  have hguard : member.rankId ≠ GR_GUILDMASTER ∧
      member.getBankWithdrawValue tabId < g'.getRankBankTabSlotsPerDay member.rankId tabId := by
    refine ⟨hrankId ▸ hrank, ?_⟩
    rw [hvalue, hrankId, h.slotsPerDay, Int32.lt_iff_toInt_lt, hcount]
    exact hk
  have hupdate : g'.updateMemberWithdrawSlots guid tabId =
      g'.updateMember guid fun member => member.updateBankWithdrawValue tabId 1 := by
    unfold Guild.updateMemberWithdrawSlots
    rw [hget]
    exact if_pos hguard
  rw [hupdate]
  refine ⟨h.ranks, h.tabs, ?_, ?_⟩
  · refine ⟨member.updateBankWithdrawValue tabId 1, ?_, hrankId, ?_⟩
    · rw [Guild.getMember_updateMember fun m => m.guid_updateBankWithdrawValue _ _, if_pos rfl, hget]
      rfl
    · rw [Member.bankWithdraw_updated]
      have hhi := (g.getRankBankTabSlotsPerDay rankId tabId).toInt_lt
      have hone : (1 : UInt32).toNat = 1 := rfl
      exact_mod_cast toInt_add_counter hcount (by omega)
  · push_cast
    omega

theorem Counts.update_other (h : Counts g guid rankId tabId k g') {player : ObjectGuid}
    {container : UInt8} (hother : player ≠ guid ∨ container ≠ tabId) :
    Counts g guid rankId tabId k (g'.updateMemberWithdrawSlots player container) := by
  unfold Guild.updateMemberWithdrawSlots
  split
  · split
    · refine ⟨h.ranks, h.tabs, ?_, h.le⟩
      obtain ⟨member, hget, hrankId, hcount⟩ := h.member
      rw [Guild.getMember_updateMember fun m => m.guid_updateBankWithdrawValue _ _, hget]
      by_cases hp : guid = player
      · have htab := hother.resolve_left fun hne => hne hp.symm
        refine ⟨member.updateBankWithdrawValue container 1, if_pos hp, hrankId, ?_⟩
        rw [member.bankWithdraw_updated_of_ne 1 htab.symm]
        exact hcount
      · exact ⟨member, if_neg hp, hrankId, hcount⟩
    · exact h
  · exact h

theorem Counts.charge (player : ObjectGuid) (src dest : MoveItemData)
    (h : Counts g guid rankId tabId k g') (hrank : rankId ≠ GR_GUILDMASTER)
    (hk : player = guid → src.leaves dest tabId = true →
      (k : ℤ) < (g.getRankBankTabSlotsPerDay rankId tabId).toInt) :
    Counts g guid rankId tabId
      (k + if player = guid ∧ src.leaves dest tabId = true then 1 else 0)
      (MoveState.charge g' player src dest) := by
  have hcontainer : src.leaves dest tabId = true → src.container = tabId := by
    intro hleaves
    have hsrc := (Bool.and_eq_true_iff.mp hleaves).1
    exact of_decide_eq_true (Bool.and_eq_true_iff.mp hsrc).2
  unfold MoveState.charge
  by_cases hcounted : player = guid ∧ src.leaves dest tabId = true
  · obtain ⟨rfl, hleaves⟩ := hcounted
    rw [if_pos ⟨rfl, hleaves⟩, hcontainer hleaves, if_pos hleaves]
    exact h.update hrank (hk rfl hleaves)
  · rw [if_neg hcounted]
    split
    · rename_i hleaves
      refine h.update_other ?_
      by_contra hnot
      rw [not_or, not_not, not_not] at hnot
      exact hcounted ⟨hnot.1, hnot.2 ▸ hleaves⟩
    · exact h

theorem leaves_swap (h : src.leaves dest tabId = true) : dest.leaves src tabId = false := by
  obtain ⟨hsrc, -⟩ := Bool.and_eq_true_iff.mp h
  unfold MoveItemData.leaves
  rw [hsrc, Bool.not_true, Bool.and_false]

/-- **One move**: the counter goes up by one if it takes something out of the tab, and then the
member's rank can view the tab. -/
theorem Counts.move (h : Counts g guid rankId tabId k g') (hrank : rankId ≠ GR_GUILDMASTER)
    {res : MoveResult} (hdid : MoveDid g' player src dest res g'') :
    Counts g guid rankId tabId
        (k + if player = guid ∧ takes res src dest tabId = true then 1 else 0) g'' ∧
      (player = guid ∧ takes res src dest tabId = true →
        g.getRankBankTabRights rankId tabId &&& GUILD_BANK_RIGHT_VIEW_TAB ≠ 0) := by
  cases hdid with
  | failed => simpa [takes] using h
  | moved hrights hslots =>
    refine ⟨(h.charge player src dest hrank ?_).slotsOnly hslots, ?_⟩
    · rintro rfl hleaves
      exact (h.of_rights hrank hleaves hrights).2
    · rintro ⟨rfl, hleaves⟩
      exact (h.of_rights hrank hleaves hrights).1
  | swapped hsrc hdest hslots =>
    have hfirst := h.charge player src dest hrank
      fun hp hleaves => (h.of_rights hrank hleaves (hp ▸ hsrc)).2
    by_cases hp : player = guid
    · subst hp
      simp only [true_and] at hfirst ⊢
      cases hleaves : src.leaves dest tabId with
      | true =>
        -- it leaves the source's tab, so it is not the destination's
        have hback := leaves_swap hleaves
        rw [hleaves, if_pos rfl] at hfirst
        have hsecond := hfirst.charge player dest src hrank fun _ hdl => by
          rw [hback] at hdl
          exact absurd hdl (by simp)
        rw [hback] at hsecond
        have htakes : takes .swapped src dest tabId = true := by
          unfold takes
          rw [hleaves, Bool.true_or]
        rw [htakes]
        refine ⟨?_, fun _ => (h.of_rights hrank hleaves hsrc).1⟩
        simpa using hsecond.slotsOnly hslots
      | false =>
        rw [hleaves] at hfirst
        have hfirst' : Counts g player rankId tabId k (MoveState.charge g' player src dest) := by
          simpa using hfirst
        have hsecond := hfirst'.charge player dest src hrank
          fun _ hdl => (h.of_rights hrank hdl hdest).2
        have htakes : takes .swapped src dest tabId = dest.leaves src tabId := by
          unfold takes
          rw [hleaves, Bool.false_or]
        rw [htakes]
        refine ⟨?_, fun hdl => (h.of_rights hrank hdl hdest).1⟩
        simpa using hsecond.slotsOnly hslots
    · have hnot : ∀ b : Prop, ¬ (player = guid ∧ b) := fun b hb => hp hb.1
      simp only [hnot, if_false, Nat.add_zero] at hfirst ⊢
      have hsecond := hfirst.charge player dest src hrank fun hp' => absurd hp' hp
      simp only [hnot, if_false, Nat.add_zero] at hsecond
      exact ⟨hsecond.slotsOnly hslots, fun hfalse => hfalse.elim⟩

end Counts

/-! ## 3. The limit -/

section Limit

variable {g : Guild} {guid : ObjectGuid} {rankId : UInt8} {k : ℕ}

theorem Counts.step (env : MoveEnv Bags) (h : Counts g guid rankId tabId k s.guild) (hrank : rankId ≠ GR_GUILDMASTER)
    (move : Move) :
    Counts g guid rankId tabId (k + withdrawal env guid tabId s move) (moveStep env s move).guild ∧
      (withdrawal env guid tabId s move ≠ 0 →
        g.getRankBankTabRights rankId tabId &&& GUILD_BANK_RIGHT_VIEW_TAB ≠ 0) := by
  obtain ⟨hcounts, hview⟩ := h.move hrank
    (moveItems_did env s move.player move.src move.dest move.splitedAmount)
  refine ⟨hcounts, fun hne => hview ?_⟩
  unfold withdrawal at hne
  by_contra hnot
  exact hne (if_neg hnot)

theorem Counts.start {member : Member} (h : g.getMember guid = some member) :
    Counts g guid member.rankId tabId 0 g.resetTimes where
  ranks := rfl
  tabs := rfl
  member := by
    refine ⟨member.resetValues, ?_, rfl, rfl⟩
    rw [Guild.getMember_resetTimes, h]
    rfl
  le := by
    rw [Nat.cast_zero]
    exact le_max_left _ _

/-- **The daily limit on items.**  Whatever moves the members ask for from one reset to the next,
those of a member below guild master that take an item out of a tab are no more than the slots a
day of his rank for that tab, and there are none if his rank cannot view it. As the limit is
signed, one of 2^31 and more is none at all. -/
theorem withdrawals_le (env : MoveEnv Bags) (s : MoveState Bags) (guid : ObjectGuid)
    (member : Member) (tabId : UInt8) (hget : s.guild.getMember guid = some member)
    (hrank : member.rankId ≠ GR_GUILDMASTER) (moves : List Move) :
    let start : MoveState Bags := { s with guild := s.guild.resetTimes }
    let n := tally (moveStep env) (withdrawal env guid tabId) start moves
    n ≤ (s.guild.getRankBankTabSlotsPerDay member.rankId tabId).toInt.toNat ∧
      (s.guild.getRankBankTabRights member.rankId tabId &&& GUILD_BANK_RIGHT_VIEW_TAB = 0 →
        n = 0) := by
  intro start n
  have hrun := exec_tally (moveStep env) (w := withdrawal env guid tabId)
    (J := fun k s' => Counts s.guild guid member.rankId tabId k s'.guild ∧
      (k ≠ 0 → s.guild.getRankBankTabRights member.rankId tabId &&&
        GUILD_BANK_RIGHT_VIEW_TAB ≠ 0))
    (fun k s' move h _ => by
      obtain ⟨hcounts, hview⟩ := h.1.step env hrank move
      refine ⟨hcounts, fun hne => ?_⟩
      by_cases hk : k = 0
      · refine hview fun hzero => hne ?_
        rw [hk, hzero]
      · exact h.2 hk)
    (s := start) ⟨Counts.start hget, fun hne => absurd rfl hne⟩ (Steps.of_forall (fun _ _ => trivial) moves)
  rw [Nat.zero_add] at hrun
  refine ⟨?_, ?_⟩
  · have hle : (n : ℤ) ≤ _ := hrun.1.le
    omega
  · intro hnone
    by_contra hne
    exact hrun.2 hne hnone

/-- A bank of two items that an officer may take from once a day, and bags that take anything. -/
def officersDay : MoveState Unit where
  guild :=
    { leaderGuid := 1
      ranks := [RankInfo.new 0 "Guild Master" GR_RIGHT_ALL 0,
        (RankInfo.new 1 "Officer" GR_RIGHT_ALL 0).setBankTabSlotsAndRights
          ⟨0, GUILD_BANK_RIGHT_VIEW_TAB, 1⟩]
      members := [Member.new 1 "Thrall" 0, Member.new 2 "Vol'jin" 1]
      bankTabs := [⟨fun slotId => if slotId < 2 then some ⟨100, 7, 5, false⟩ else none⟩]
      bankMoney := 0 }
  bags := ()
  nextItemGuid := 200

def bagsEnv : MoveEnv Unit where
  getItemTemplate := fun _ => ⟨20⟩
  initItem := fun _ _ _ _ => none
  canStoreItem := fun _ _ _ _ _ _ => .ok []
  setCount := fun bags _ _ _ _ => bags
  moveItemFromInventory := fun bags _ _ _ => bags
  moveItemToInventory := fun bags _ _ _ => bags

/-- The officer asks for both items and gets one. -/
theorem officersDay_le :
    let moves := [⟨2, .bank 0 0, .player 0 23, 0⟩, ⟨2, .bank 0 1, .player 0 24, 0⟩]
    let n := tally (moveStep bagsEnv) (withdrawal bagsEnv 2 0)
      { officersDay with guild := officersDay.guild.resetTimes } moves
    n = 1 ∧ n ≤ (officersDay.guild.getRankBankTabSlotsPerDay 1 0).toInt.toNat :=
  ⟨by decide, (withdrawals_le bagsEnv officersDay 2 (Member.new 2 "Vol'jin" 1) 0 rfl (by decide)
    [⟨2, .bank 0 0, .player 0 23, 0⟩, ⟨2, .bank 0 1, .player 0 24, 0⟩]).1⟩

end Limit

end MoveState

end FunPvp.Guilds
