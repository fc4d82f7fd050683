/-
# What a group's representation says of its members

The slots, the counters of the subgroups and the leader of a group are changed by different
functions (`Group.Slots`, `GroupState.Inv`). Slots and counters agree after every one of them as
long as nobody is added who is in the group already, and no party grows past its only subgroup.

The leader is looked for among the connected members only. That nobody connected is left is seen
from `m_memberMgr`, so the leader of a group that survives is a member as long as only members have
references to it. A battleground or battlefield raid breaks this when it removes a player who is
in another raid by now: the other raid loses the reference, and this one gets it.
-/
import FunPvp.Lib.Run
import FunPvp.Groups.Group

namespace FunPvp.Groups

open FunPvp.Lib RemoveMethod

/-! ## 1. The slots and their counters -/

namespace Group

variable {g g' : Group} {guid other : ObjectGuid} {slot : MemberSlot} {subGroup : UInt8}

def subGroupSize (g : Group) (subGroup : UInt8) : ℕ :=
  g.memberSlots.countP fun slot => slot.group = subGroup

theorem isMember_iff : g.isMember guid = true ↔ ∃ slot ∈ g.memberSlots, slot.guid = guid := by
  simp [isMember, getMemberSlot]

theorem getMemberSlot_spec (h : g.getMemberSlot guid = some slot) :
    slot.guid = guid ∧ ∃ l₁ l₂, g.memberSlots = l₁ ++ slot :: l₂ ∧
      (g.memberSlots.eraseP fun slot => slot.guid == guid) = l₁ ++ l₂ ∧
      ∀ f, modifySlot guid f g.memberSlots = l₁ ++ f slot :: l₂ := by
  rw [getMemberSlot] at h
  generalize g.memberSlots = slots at h
  induction slots with
  | nil => simp at h
  | cons first rest ih =>
    by_cases hfirst : first.guid = guid
    · simp only [List.find?_cons, hfirst, beq_self_eq_true, Option.some.injEq] at h
      subst h
      refine ⟨hfirst, [], rest, rfl, by simp [hfirst], fun f => by simp [modifySlot, hfirst]⟩
    · rw [List.find?_cons_of_neg (by simpa using hfirst)] at h
      obtain ⟨hguid, l₁, l₂, hrest, herase, hmodify⟩ := ih h
      refine ⟨hguid, first :: l₁, l₂, by rw [hrest]; rfl, ?_, fun f => ?_⟩
      · rw [List.eraseP_cons_of_neg (by simpa using hfirst), herase]
        rfl
      · rw [modifySlot, if_neg hfirst, hmodify f]
        rfl

/-- What a group's slots and counters are in every state: the guids are unique, the counters
of a raid (every battleground or battlefield group is one) count the members, everyone in a party
is in the first subgroup, and every subgroup exists and has room for who is in it. -/
structure Slots (g : Group) : Prop where
  unique : (g.memberSlots.map MemberSlot.guid).Nodup
  counted : ∀ counts, g.subGroupsCounts = some counts →
    CountsBy MemberSlot.group g.memberSlots counts
  raid : g.subGroupsCounts.isSome = g.isRaidGroup
  bgRaid : g.isBGGroup = true ∨ g.isBFGroup = true → g.isRaidGroup = true
  party : g.isRaidGroup = false → ∀ slot ∈ g.memberSlots, slot.group = 0
  fits : ∀ i, g.subGroupSize i ≤ MAXGROUPSIZE
  range : ∀ slot ∈ g.memberSlots, slot.group.toNat < MAX_RAID_SUBGROUPS

theorem Slots.toNat_counts (h : g.Slots) {counts : UInt8 → UInt8}
    (hcounts : g.subGroupsCounts = some counts) (i : UInt8) :
    (counts i).toNat = g.subGroupSize i := by
  have hfits := h.fits i
  exact (h.counted counts hcounts i).toNat_eq (lt_of_le_of_lt hfits (by decide))

theorem Slots.of_map_eq (h : g.Slots)
    (hslots : g'.memberSlots.map (fun slot => (slot.guid, slot.group)) =
      g.memberSlots.map fun slot => (slot.guid, slot.group))
    (hcounts : g'.subGroupsCounts = g.subGroupsCounts) (htype : g'.groupType = g.groupType)
    (hbg : g'.bgGroup = g.bgGroup) (hbf : g'.bfGroup = g.bfGroup) : g'.Slots := by
  have hguids : g'.memberSlots.map MemberSlot.guid = g.memberSlots.map MemberSlot.guid := by
    simpa [Function.comp_def] using congrArg (List.map Prod.fst) hslots
  have hgroups : g'.memberSlots.map MemberSlot.group = g.memberSlots.map MemberSlot.group := by
    simpa [Function.comp_def] using congrArg (List.map Prod.snd) hslots
  have hcount : ∀ i, g'.subGroupSize i = g.subGroupSize i := by
    intro i
    have hi := congrArg (List.countP fun group => decide (group = i)) hgroups
    simpa [List.countP_map, Function.comp_def, subGroupSize] using hi
  have hmem : ∀ slot ∈ g'.memberSlots, ∃ slot' ∈ g.memberSlots, slot'.group = slot.group := by
    intro slot hslot
    have hgroup : slot.group ∈ g'.memberSlots.map MemberSlot.group := List.mem_map_of_mem hslot
    rw [hgroups] at hgroup
    exact List.mem_map.mp hgroup
  have hraid : g'.isRaidGroup = g.isRaidGroup := by rw [isRaidGroup, isRaidGroup, htype]
  constructor
  case unique => rw [hguids]; exact h.unique
  case counted =>
    intro counts hsome k
    rw [hcounts] at hsome
    have hk := hcount k
    rw [h.counted counts hsome k]
    exact congrArg UInt8.ofNat hk.symm
  case raid => rw [hcounts, hraid]; exact h.raid
  case bgRaid => rw [isBGGroup, isBFGroup, hbg, hbf, hraid]; exact h.bgRaid
  case party =>
    intro hparty slot hslot
    obtain ⟨slot', hslot', hgroup⟩ := hmem slot hslot
    rw [← hgroup]
    exact h.party (hraid ▸ hparty) slot' hslot'
  case fits =>
    intro i
    rw [hcount i]
    exact h.fits i
  case range =>
    intro slot hslot
    obtain ⟨slot', hslot', hgroup⟩ := hmem slot hslot
    rw [← hgroup]
    exact h.range slot' hslot'

theorem map_modifySlot {γ : Type*} {f : MemberSlot → MemberSlot} (key : MemberSlot → γ)
    (hf : ∀ slot, key (f slot) = key slot) (guid : ObjectGuid) (slots : List MemberSlot) :
    (modifySlot guid f slots).map key = slots.map key := by
  induction slots with
  | nil => rfl
  | cons slot slots ih =>
    rw [modifySlot]
    split
    · simp [hf]
    · simp [ih]

theorem isMember_congr
    (h : g'.memberSlots.map MemberSlot.guid = g.memberSlots.map MemberSlot.guid)
    (guid : ObjectGuid) : g'.isMember guid = g.isMember guid := by
  have hiff : ∀ g : Group,
      g.isMember guid = true ↔ guid ∈ g.memberSlots.map MemberSlot.guid := by
    intro g
    rw [isMember_iff, List.mem_map]
  rw [Bool.eq_iff_iff, hiff, hiff, h]

/-! ## 2. Slots come, go and move -/

theorem firstFreeSubGroup_spec {counts : UInt8 → UInt8}
    (h : firstFreeSubGroup counts = some subGroup) :
    subGroup.toNat < MAX_RAID_SUBGROUPS ∧ (counts subGroup).toNat < MAXGROUPSIZE := by
  rw [firstFreeSubGroup] at h
  have hlt : (counts subGroup).toNat < MAXGROUPSIZE := by simpa using List.find?_some h
  obtain ⟨i, hi, rfl⟩ := List.mem_map.mp (List.mem_of_find?_eq_some h)
  have hi' : i < MAX_RAID_SUBGROUPS := List.mem_range.mp hi
  refine ⟨?_, hlt⟩
  rw [UInt8.toNat_ofNat']
  exact lt_of_le_of_lt (Nat.mod_le i _) hi'

theorem Slots.freeSubGroup (h : g.Slots)
    (hplace : g.isRaidGroup = true ∨ g.getMembersCount < MAXGROUPSIZE)
    (hfree : g.freeSubGroup = some subGroup) :
    subGroup.toNat < MAX_RAID_SUBGROUPS ∧ g.subGroupSize subGroup < MAXGROUPSIZE ∧
      (g.isRaidGroup = false → subGroup = 0) := by
  rw [Group.freeSubGroup] at hfree
  have hraid := h.raid
  cases hcounts : g.subGroupsCounts with
  | none =>
    rw [hcounts] at hfree hraid
    obtain rfl := Option.some.inj hfree
    have hlt : g.getMembersCount < MAXGROUPSIZE :=
      hplace.resolve_left (by rw [← hraid]; simp)
    have hle : g.subGroupSize 0 ≤ g.getMembersCount := List.countP_le_length
    exact ⟨by decide, lt_of_le_of_lt hle hlt, fun _ => rfl⟩
  | some counts =>
    rw [hcounts] at hfree hraid
    obtain ⟨hrange, hlt⟩ := firstFreeSubGroup_spec hfree
    rw [h.toNat_counts hcounts] at hlt
    refine ⟨hrange, hlt, fun hparty => ?_⟩
    rw [hparty] at hraid
    cases hraid

theorem Slots.pushSlot (h : g.Slots) (hnew : g.isMember guid = false)
    (hrange : subGroup.toNat < MAX_RAID_SUBGROUPS)
    (hroom : g.subGroupSize subGroup < MAXGROUPSIZE)
    (hparty : g.isRaidGroup = false → subGroup = 0) : (g.pushSlot guid subGroup).Slots := by
  constructor
  case unique =>
    have hguid : guid ∉ g.memberSlots.map MemberSlot.guid := by
      intro hmem
      have hmember := isMember_iff.mpr (List.mem_map.mp hmem)
      rw [hnew] at hmember
      cases hmember
    simp only [Group.pushSlot, List.map_append, List.map_cons, List.map_nil]
    exact List.nodup_append.mpr
      ⟨h.unique, List.nodup_singleton _, by rintro a ha b hb rfl; simp at hb; exact hguid (hb ▸ ha)⟩
  case counted =>
    intro counts hcounts
    obtain ⟨counts', hcounts', rfl⟩ := Option.map_eq_some_iff.mp hcounts
    exact ((h.counted counts' hcounts').cons ⟨guid, subGroup, 0⟩).perm
      (List.perm_append_singleton _ _).symm
  case raid =>
    rw [show (g.pushSlot guid subGroup).isRaidGroup = g.isRaidGroup from rfl, ← h.raid]
    exact Option.isSome_map
  case bgRaid => exact h.bgRaid
  case party =>
    intro hno slot hslot
    rcases List.mem_append.mp hslot with hslot | hslot
    · exact h.party hno slot hslot
    · obtain rfl := List.mem_singleton.mp hslot
      exact hparty hno
  case fits =>
    intro i
    have hi := h.fits i
    simp only [subGroupSize, Group.pushSlot, List.countP_append, List.countP_singleton]
    split
    · rename_i heq
      obtain rfl : subGroup = i := by simpa using heq
      exact hroom
    · exact hi
  case range =>
    intro slot hslot
    rcases List.mem_append.mp hslot with hslot | hslot
    · exact h.range slot hslot
    · obtain rfl := List.mem_singleton.mp hslot
      exact hrange

theorem isMember_pushSlot :
    (g.pushSlot guid subGroup).isMember other = true ↔
      g.isMember other = true ∨ other = guid := by
  simp only [isMember_iff, Group.pushSlot, List.mem_append, List.mem_singleton]
  constructor
  · rintro ⟨slot, hslot | rfl, hguid⟩
    · exact Or.inl ⟨slot, hslot, hguid⟩
    · exact Or.inr hguid.symm
  · rintro (⟨slot, hslot, hguid⟩ | rfl)
    · exact ⟨slot, Or.inl hslot, hguid⟩
    · exact ⟨_, Or.inr rfl, rfl⟩

theorem Slots.eraseSlot (h : g.Slots) (guid : ObjectGuid) : (g.eraseSlot guid).Slots := by
  rw [Group.eraseSlot]
  cases hslot : g.getMemberSlot guid with
  | none => exact h
  | some slot =>
    obtain ⟨-, l₁, l₂, hslots, herase, -⟩ := getMemberSlot_spec hslot
    have hsub : (l₁ ++ l₂).Sublist g.memberSlots := by
      rw [hslots]
      exact (List.Sublist.refl l₁).append (List.sublist_cons_self slot l₂)
    dsimp only
    constructor
    case unique =>
      dsimp only
      rw [herase]
      exact h.unique.sublist (hsub.map _)
    case counted =>
      intro counts hcounts
      dsimp only at hcounts ⊢
      obtain ⟨counts', hcounts', rfl⟩ := Option.map_eq_some_iff.mp hcounts
      have hcount := h.counted counts' hcounts'
      rw [hslots] at hcount
      rw [herase]
      exact (hcount.perm List.perm_middle).tail
    case raid =>
      change (g.subGroupsCounts.map _).isSome = g.isRaidGroup
      rw [← h.raid]
      exact Option.isSome_map
    case bgRaid => exact h.bgRaid
    case party =>
      intro hno slot' hslot'
      dsimp only at hslot'
      rw [herase] at hslot'
      exact h.party hno slot' (hsub.mem hslot')
    case fits =>
      intro i
      refine le_trans ?_ (h.fits i)
      rw [subGroupSize, herase]
      exact hsub.countP_le
    case range =>
      intro slot' hslot'
      dsimp only at hslot'
      rw [herase] at hslot'
      exact h.range slot' (hsub.mem hslot')

theorem isMember_eraseSlot (hne : other ≠ guid) :
    (g.eraseSlot guid).isMember other = g.isMember other := by
  rw [Group.eraseSlot]
  cases hslot : g.getMemberSlot guid with
  | none => rfl
  | some slot =>
    obtain ⟨hguid, l₁, l₂, hslots, herase, -⟩ := getMemberSlot_spec hslot
    rw [Bool.eq_iff_iff, isMember_iff, isMember_iff]
    dsimp only
    rw [herase, hslots]
    constructor
    · rintro ⟨slot', hmem, heq⟩
      exact ⟨slot', by simp only [List.mem_append, List.mem_cons] at hmem ⊢; tauto, heq⟩
    · rintro ⟨slot', hmem, heq⟩
      have hslot' : slot' ≠ slot := by
        rintro rfl
        exact hne (heq.symm.trans hguid)
      refine ⟨slot', ?_, heq⟩
      simp only [List.mem_append, List.mem_cons] at hmem ⊢
      tauto

theorem Slots.changeMembersGroup (h : g.Slots) (guid : ObjectGuid)
    (hrange : subGroup.toNat < MAX_RAID_SUBGROUPS)
    (hroom : g.subGroupSize subGroup < MAXGROUPSIZE) :
    (g.changeMembersGroup guid subGroup).Slots := by
  rw [Group.changeMembersGroup]
  by_cases hraid : g.isRaidGroup = true
  · rw [if_neg (by simp [hraid])]
    cases hslot : g.getMemberSlot guid with
    | none => exact h
    | some slot =>
      obtain ⟨hguid, l₁, l₂, hslots, -, hmodify⟩ := getMemberSlot_spec hslot
      dsimp only
      split
      · exact h
      rename_i hne
      constructor
      case unique =>
        change ((modifySlot guid _ g.memberSlots).map MemberSlot.guid).Nodup
        rw [map_modifySlot (f := fun slot => { slot with group := subGroup }) MemberSlot.guid
          fun slot => rfl]
        exact h.unique
      case counted =>
        intro counts hcounts
        change CountsBy _ (modifySlot guid _ g.memberSlots) counts
        change (Option.map _ (Option.map _ g.subGroupsCounts)) = some counts at hcounts
        rw [Option.map_map] at hcounts
        obtain ⟨counts', hcounts', rfl⟩ := Option.map_eq_some_iff.mp hcounts
        have hcount := h.counted counts' hcounts'
        rw [hslots] at hcount
        rw [hmodify]
        -- the moved slot is counted in its new subgroup before it is given up in the old one
        have hboth := (hcount.perm List.perm_middle).cons { slot with group := subGroup }
        exact ((hboth.perm (List.Perm.swap _ _ _)).tail).perm List.perm_middle.symm
      case raid =>
        change (Option.map _ (Option.map _ g.subGroupsCounts)).isSome = g.isRaidGroup
        rw [Option.isSome_map, Option.isSome_map, h.raid]
      case bgRaid => exact h.bgRaid
      case party =>
        intro hno
        change g.isRaidGroup = false at hno
        rw [hraid] at hno
        cases hno
      case fits =>
        intro i
        change (modifySlot guid _ g.memberSlots).countP _ ≤ _
        have hi := h.fits i
        rw [subGroupSize, hslots, List.countP_append, List.countP_cons] at hi
        rw [subGroupSize, hslots, List.countP_append, List.countP_cons] at hroom
        rw [hmodify, List.countP_append, List.countP_cons]
        rcases eq_or_ne subGroup i with rfl | hother
        · simp only [hne, decide_false, decide_true, if_true] at hroom ⊢
          simp only [Bool.false_eq_true, if_false] at hroom
          omega
        · simp only [hother, decide_false, Bool.false_eq_true, if_false]
          omega
      case range =>
        intro slot' hslot'
        change slot' ∈ modifySlot guid _ g.memberSlots at hslot'
        rw [hmodify] at hslot'
        rw [List.mem_append, List.mem_cons] at hslot'
        rcases hslot' with hmem | rfl | hmem
        · exact h.range slot' (by rw [hslots]; simp [hmem])
        · exact hrange
        · exact h.range slot' (by rw [hslots]; simp [hmem])
  · rw [if_pos (by simpa using hraid)]
    exact h

theorem guids_changeMembersGroup (g : Group) (guid : ObjectGuid) (subGroup : UInt8) :
    (g.changeMembersGroup guid subGroup).memberSlots.map MemberSlot.guid =
      g.memberSlots.map MemberSlot.guid := by
  rw [Group.changeMembersGroup]
  split
  · rfl
  · cases g.getMemberSlot guid with
    | none => rfl
    | some slot =>
      dsimp only
      split
      · rfl
      · exact map_modifySlot (f := fun slot => { slot with group := subGroup }) MemberSlot.guid
          (fun slot => rfl) guid g.memberSlots

theorem Slots.convertToRaid (h : g.Slots) : g.convertToRaid.Slots := by
  have hraid : g.convertToRaid.isRaidGroup = true := by
    have hbits : ∀ t : UInt8, ((t ||| GROUPTYPE_RAID) &&& GROUPTYPE_RAID) ≠ 0 := by decide +kernel
    exact decide_eq_true (hbits g.groupType)
  constructor
  case unique => exact h.unique
  case counted =>
    intro counts hcounts
    obtain rfl := Option.some.inj hcounts
    exact CountsBy.foldl MemberSlot.group g.memberSlots
  case raid => rw [hraid]; rfl
  case bgRaid => exact fun _ => hraid
  case party =>
    intro hno
    rw [hraid] at hno
    cases hno
  case fits => exact h.fits
  case range => exact h.range

theorem newGroup_spec (kind : GroupState.GroupKind) (leader : ObjectGuid) :
    (GroupState.newGroup kind leader).memberSlots = [] ∧
      (GroupState.newGroup kind leader).leaderGuid = leader ∧
      ((GroupState.newGroup kind leader).isBGGroup = true ∨
        (GroupState.newGroup kind leader).isBFGroup = true →
          (GroupState.newGroup kind leader).isRaidGroup = true) ∧
      (GroupState.newGroup kind leader).subGroupsCounts =
        if (GroupState.newGroup kind leader).isRaidGroup then some (fun _ => 0) else none := by
  have hraid : ∀ g : Group, g.groupType = kind.groupType →
      kind = .battleground ∨ kind = .battlefield → g.isRaidGroup = true := by
    rintro g htype (rfl | rfl) <;> rw [isRaidGroup, htype] <;> decide
  rw [GroupState.newGroup]
  split
  · rename_i hinit
    exact ⟨rfl, rfl, fun _ => hinit, (if_pos hinit).symm⟩
  · refine ⟨rfl, rfl, fun hkind => hraid _ rfl ?_, rfl⟩
    simpa [isBGGroup, isBFGroup] using hkind

theorem Slots.newGroup (kind : GroupState.GroupKind) (leader : ObjectGuid) :
    (GroupState.newGroup kind leader).Slots := by
  obtain ⟨hslots, -, hbg, hcounts⟩ := newGroup_spec kind leader
  generalize GroupState.newGroup kind leader = g at hslots hbg hcounts
  constructor
  case unique => rw [hslots]; exact List.nodup_nil
  case counted =>
    intro counts hsome
    rw [hcounts] at hsome
    split at hsome
    · obtain rfl := Option.some.inj hsome
      rw [hslots]
      exact CountsBy.nil
    · cases hsome
  case raid =>
    rw [hcounts]
    split
    · rename_i hraid
      exact hraid.symm
    · rename_i hraid
      exact (Bool.eq_false_iff.mpr hraid).symm
  case bgRaid => exact hbg
  case party => intro _ slot hslot; rw [hslots] at hslot; cases hslot
  case fits => intro i; rw [subGroupSize, hslots]; exact Nat.zero_le _
  case range => intro slot hslot; rw [hslots] at hslot; cases hslot

end Group

/-! ## 3. The references of the players -/

namespace Player

variable {g : Group} {p : Player}

@[simp] theorem guid_linkMember : (g.linkMember p).guid = p.guid := by
  rw [Group.linkMember]
  split_ifs <;> rfl

@[simp] theorem guid_elsewhere (op : GroupState.Elsewhere) : (op.apply p).guid = p.guid := by
  cases op <;> rfl

theorem links_pos_iff : 0 < p.links ↔ p.group = .this ∨ p.originalGroup = .this := by
  rw [links]
  by_cases hgroup : p.group = .this <;> by_cases horiginal : p.originalGroup = .this <;>
    simp [hgroup, horiginal]

theorem links_invalidate : p.invalidate.links = 0 := by
  rw [links, invalidate]
  by_cases hgroup : p.group = .this <;> by_cases horiginal : p.originalGroup = .this <;>
    simp [hgroup, horiginal]

theorem links_elsewhere (op : GroupState.Elsewhere) (h : 0 < (op.apply p).links) : 0 < p.links := by
  rw [links_pos_iff] at h ⊢
  cases op with
  | setGroup joins =>
    rcases h with h | h
    · cases joins <;> cases h
    · exact Or.inr h
  | setOriginalGroup joins =>
    rcases h with h | h
    · exact Or.inl h
    · cases joins <;> cases h
  | setBattlegroundOrBattlefieldRaid =>
    rcases h with h | h
    · cases h
    · exact Or.inl h
  | removeFromBattlegroundOrBattlefieldRaid =>
    rcases h with h | h
    · exact Or.inr h
    · cases h

/-- **A removed player has no reference left**, unless he comes back to a battleground or
battlefield raid from another one. -/
theorem links_unlinkMember
    (h : g.isBGGroup = true ∨ g.isBFGroup = true → p.originalGroup ≠ .this) :
    (g.unlinkMember p).links = 0 := by
  rw [Group.unlinkMember]
  split
  · rename_i hraid
    have horiginal := h (by simpa using hraid)
    simp [links, removeFromBattlegroundOrBattlefieldRaid, horiginal]
  · split
    · rw [delink, links]
      by_cases hgroup : p.group = .this <;> simp [setGroup, setOriginalGroup, hgroup]
    · rename_i horiginal
      simp [delink, links, setGroup, horiginal]

end Player

namespace GroupState

variable {s : GroupState} {g : Group} {guid : ObjectGuid} {p : Player}

theorem mem_updatePlayer {f : Player → Player} (h : p ∈ (s.updatePlayer guid f).players) :
    ∃ q ∈ s.players, p = if q.guid = guid then f q else q := by
  obtain ⟨q, hq, rfl⟩ := List.mem_map.mp h
  exact ⟨q, hq, rfl⟩

theorem mem_of_findConnectedPlayer (h : s.findConnectedPlayer guid = some p) :
    p ∈ s.players ∧ p.guid = guid :=
  ⟨List.mem_of_find?_eq_some h, by simpa using List.find?_some h⟩

theorem isSome_findConnectedPlayer (h : p ∈ s.players) :
    (s.findConnectedPlayer p.guid).isSome = true := by
  rw [findConnectedPlayer, List.find?_isSome]
  exact ⟨p, h, by simp⟩

theorem exists_links (h : 0 < s.memberMgrSize) : ∃ p ∈ s.players, 0 < p.links := by
  rw [memberMgrSize, List.sum_pos_iff_exists_pos_nat] at h
  obtain ⟨n, hn, hpos⟩ := h
  obtain ⟨p, hp, rfl⟩ := List.mem_map.mp hn
  exact ⟨p, hp, hpos⟩

/-- What holds between the group and the players: only members have references to it, and its
leader is one of them. -/
structure Inv (s : GroupState) : Prop where
  slots : ∀ g, s.group = some g → g.Slots
  leader : ∀ g, s.group = some g → g.isMember g.leaderGuid = true
  linked : ∀ p ∈ s.players, 0 < p.links → ∃ g, s.group = some g ∧ g.isMember p.guid = true

/-! ## 4. What each function preserves -/

theorem Inv.updatePlayer (h : s.Inv) {f : Player → Player} (hguid : ∀ p, (f p).guid = p.guid)
    (hlinks : ∀ p ∈ s.players, p.guid = guid → 0 < (f p).links →
      ∃ g, s.group = some g ∧ g.isMember guid = true) : (s.updatePlayer guid f).Inv := by
  refine ⟨h.slots, h.leader, fun p hp hpos => ?_⟩
  obtain ⟨q, hq, rfl⟩ := mem_updatePlayer hp
  by_cases hq' : q.guid = guid
  · rw [if_pos hq'] at hpos ⊢
    rw [hguid, hq']
    exact hlinks q hq hq' hpos
  · rw [if_neg hq'] at hpos ⊢
    exact h.linked q hq hpos

theorem Inv.elsewhere (h : s.Inv) (guid : ObjectGuid) (op : Elsewhere) :
    (s.updatePlayer guid op.apply).Inv := by
  refine h.updatePlayer (fun p => Player.guid_elsewhere op) fun p hp hguid hpos => ?_
  rw [← hguid]
  exact h.linked p hp (Player.links_elsewhere op hpos)

theorem Inv.disband (hg : s.group = some g) : s.disband.Inv := by
  rw [GroupState.disband, hg]
  refine ⟨fun _ hg' => (nomatch hg'), fun _ hg' => (nomatch hg'), fun p hp hpos => ?_⟩
  obtain ⟨q, -, rfl⟩ := List.mem_map.mp hp
  rw [Player.links_invalidate] at hpos
  exact absurd hpos (lt_irrefl 0)

theorem Inv.setGroup (h : s.Inv) (hg : s.group = some g) {g' : Group} (hslots : g'.Slots)
    (hmem : ∀ guid, g'.isMember guid = g.isMember guid)
    (hleader : g'.isMember g'.leaderGuid = true) : Inv { s with group := some g' } := by
  refine ⟨?_, ?_, fun p hp hpos => ?_⟩
  · rintro g'' hg''
    obtain rfl := Option.some.inj hg''
    exact hslots
  · rintro g'' hg''
    obtain rfl := Option.some.inj hg''
    exact hleader
  · obtain ⟨g₀, hg₀, hmember⟩ := h.linked p hp hpos
    obtain rfl := Option.some.inj (hg.symm.trans hg₀)
    exact ⟨g', rfl, (hmem p.guid).trans hmember⟩

theorem addMember_inv (hg : s.group = some g) (hslots : g.Slots)
    (hlinked : ∀ p ∈ s.players, 0 < p.links → g.isMember p.guid = true)
    (hnew : g.isMember guid = false)
    (hplace : g.isRaidGroup = true ∨ g.getMembersCount < MAXGROUPSIZE)
    (hleader : g.isMember g.leaderGuid = true ∨
      guid = g.leaderGuid ∧ g.freeSubGroup.isSome = true) : (s.addMember guid).Inv := by
  rw [addMember, hg]
  dsimp only
  cases hfree : g.freeSubGroup with
  | none =>
    have hmember : g.isMember g.leaderGuid = true := by
      rcases hleader with hleader | ⟨-, hsome⟩
      · exact hleader
      · rw [hfree] at hsome
        cases hsome
    refine ⟨fun g' hg' => ?_, fun g' hg' => ?_, fun p hp hpos => ⟨g, hg, hlinked p hp hpos⟩⟩ <;>
      obtain rfl := Option.some.inj (hg.symm.trans hg')
    · exact hslots
    · exact hmember
  | some subGroup =>
    obtain ⟨hrange, hroom, hparty⟩ := hslots.freeSubGroup hplace hfree
    refine ⟨fun g' hg' => ?_, fun g' hg' => ?_, fun p hp hpos => ⟨_, rfl, ?_⟩⟩
    · obtain rfl := Option.some.inj hg'
      exact hslots.pushSlot hnew hrange hroom hparty
    · obtain rfl := Option.some.inj hg'
      refine Group.isMember_pushSlot.mpr ?_
      rcases hleader with hleader | ⟨hguid, -⟩
      · exact Or.inl hleader
      · exact Or.inr hguid.symm
    · obtain ⟨q, hq, rfl⟩ := mem_updatePlayer hp
      refine Group.isMember_pushSlot.mpr ?_
      by_cases hq' : q.guid = guid
      · rw [if_pos hq']
        exact Or.inr (by simpa using hq')
      · rw [if_neg hq'] at hpos ⊢
        exact Or.inl (hlinked q hq hpos)

theorem Inv.addMember (h : s.Inv) (hg : s.group = some g) (hnew : g.isMember guid = false)
    (hplace : g.isRaidGroup = true ∨ g.getMembersCount < MAXGROUPSIZE) :
    (s.addMember guid).Inv := by
  refine addMember_inv hg (h.slots g hg) (fun p hp hpos => ?_) hnew hplace
    (Or.inl (h.leader g hg))
  obtain ⟨g', hg', hmember⟩ := h.linked p hp hpos
  obtain rfl := Option.some.inj (hg.symm.trans hg')
  exact hmember

theorem changeLeader_eq (hg : s.group = some g) {slot : MemberSlot}
    (hslot : g.getMemberSlot guid = some slot)
    (hconn : (s.findConnectedPlayer guid).isSome = true) :
    ∃ g', s.changeLeader guid = { s with group := some g' } ∧ g'.leaderGuid = guid ∧
      (g.Slots → g'.Slots) ∧ ∀ other, g'.isMember other = g.isMember other := by
  obtain ⟨hguid, -⟩ := Group.getMemberSlot_spec hslot
  obtain ⟨newLeader, hfind⟩ := Option.isSome_iff_exists.mp hconn
  have hleader := (mem_of_findConnectedPlayer hfind).2
  rw [changeLeader, hg]
  dsimp only
  rw [hslot]
  dsimp only
  rw [hguid, hfind]
  refine ⟨_, rfl, hleader, fun hslots => ?_, fun other => Group.isMember_congr ?_ other⟩
  · exact hslots.of_map_eq (Group.map_modifySlot (f := fun slot =>
      { slot with flags := slot.flags &&& ~~~MEMBER_FLAG_ASSISTANT })
      (fun slot => (slot.guid, slot.group)) (fun slot => rfl) guid g.memberSlots) rfl rfl rfl rfl
  · exact Group.map_modifySlot (f := fun slot =>
      { slot with flags := slot.flags &&& ~~~MEMBER_FLAG_ASSISTANT })
      MemberSlot.guid (fun slot => rfl) guid g.memberSlots

theorem Inv.changeLeader (h : s.Inv) (guid : ObjectGuid) : (s.changeLeader guid).Inv := by
  cases hg : s.group with
  | none => rw [GroupState.changeLeader, hg]; exact h
  | some g =>
    cases hslot : g.getMemberSlot guid with
    | none => rw [GroupState.changeLeader, hg]; dsimp only; rw [hslot]; exact h
    | some slot =>
      have hguid := (Group.getMemberSlot_spec hslot).1
      by_cases hconn : (s.findConnectedPlayer guid).isSome = true
      · obtain ⟨g', heq, hleader, hslots, hmem⟩ := changeLeader_eq hg hslot hconn
        rw [heq]
        refine h.setGroup hg (hslots (h.slots g hg)) hmem ?_
        rw [hmem, hleader, Group.isMember, hslot]
        rfl
      · rw [GroupState.changeLeader, hg]
        dsimp only
        rw [hslot]
        dsimp only
        rw [hguid, Option.not_isSome_iff_eq_none.mp hconn]
        exact h

theorem pickNewLeader_eq (hg : s.group = some g) (hslots : g.Slots)
    (hleader : g.isMember g.leaderGuid = true ∨ g.leaderGuid = guid) :
    ∃ g', s.pickNewLeader guid = { s with group := some g' } ∧ g'.Slots ∧
      (∀ other, g'.isMember other = g.isMember other) ∧
      ((∃ p ∈ s.players, g.isMember p.guid = true) → g'.isMember g'.leaderGuid = true) := by
  have hsame : s = { s with group := some g } := by rw [← hg]
  rw [pickNewLeader, hg]
  dsimp only
  by_cases hleft : g.leaderGuid = guid
  · rw [if_pos hleft]
    cases hfind : g.memberSlots.find? fun slot => (s.findConnectedPlayer slot.guid).isSome with
    | none =>
      refine ⟨g, hsame, hslots, fun other => rfl, fun ⟨p, hp, hmember⟩ => ?_⟩
      obtain ⟨slot, hslot, hguid⟩ := Group.isMember_iff.mp hmember
      have hnone := List.find?_eq_none.mp hfind slot hslot
      rw [hguid] at hnone
      exact absurd (isSome_findConnectedPlayer hp) hnone
    | some slot =>
      have hconn := List.find?_some hfind
      have hmember : g.isMember slot.guid = true :=
        Group.isMember_iff.mpr ⟨slot, List.mem_of_find?_eq_some hfind, rfl⟩
      obtain ⟨slot', hslot'⟩ := Option.isSome_iff_exists.mp hmember
      obtain ⟨g', heq, hnew, hslots', hmem⟩ := changeLeader_eq hg hslot' hconn
      refine ⟨g', heq, hslots' hslots, hmem, fun _ => ?_⟩
      rw [hmem, hnew]
      exact hmember
  · rw [if_neg hleft]
    exact ⟨g, hsame, hslots, fun other => rfl, fun _ => hleader.resolve_right hleft⟩

theorem disbandIfLeft_inv (hg : s.group = some g) (sight : LfgSight)
    (h : 0 < s.memberMgrSize → s.Inv) : (s.disbandIfLeft sight).Inv := by
  rw [disbandIfLeft, hg]
  dsimp only
  have hbound : 0 < if (g.isLFGGroup || g.isBGGroup) = true then 1 else 2 := by split <;> simp
  generalize (if (g.isLFGGroup || g.isBGGroup) = true then 1 else 2) = bound at hbound ⊢
  split
  · exact Inv.disband hg
  · split
    · exact Inv.disband hg
    · rename_i hsize
      exact h (lt_of_lt_of_le hbound (not_lt.mp hsize))

/-- A connected player would come back to this battleground or battlefield raid from another
one. -/
def Returns (s : GroupState) (guid : ObjectGuid) : Prop :=
  ∃ g ∈ s.group, (g.isBGGroup = true ∨ g.isBFGroup = true) ∧
    ∃ p ∈ s.players, p.guid = guid ∧ p.originalGroup = .this

instance (s : GroupState) (guid : ObjectGuid) : Decidable (s.Returns guid) :=
  inferInstanceAs (Decidable (∃ g ∈ s.group, _))

/-- **`RemoveMember`.**  Members and leader agree after it, unless the removed player comes back
to the raid he is removed from. -/
theorem Inv.removeMember (h : s.Inv) (guid : ObjectGuid) (method : RemoveMethod)
    (sight : LfgSight) (hreturns : ¬ s.Returns guid) :
    (s.removeMember guid method sight).Inv := by
  cases hg : s.group with
  | none => rw [GroupState.removeMember, hg]; exact h
  | some g =>
    rw [GroupState.removeMember, hg]
    dsimp only
    generalize (if (g.isBGGroup || g.isLFGGroup || g.isBFGroup) = true then 1 else 2) = bound
    split
    · exact h
    split
    swap
    · exact Inv.disband hg
    have hslots := h.slots g hg
    -- with the member's slot his references are gone
    have hlinked : ∀ p ∈ (s.updatePlayer guid g.unlinkMember).players, 0 < p.links →
        (g.eraseSlot guid).isMember p.guid = true := by
      intro p hp hpos
      obtain ⟨q, hq, rfl⟩ := mem_updatePlayer hp
      by_cases hq' : q.guid = guid
      · rw [if_pos hq', Player.links_unlinkMember] at hpos
        · exact absurd hpos (lt_irrefl 0)
        · intro hraid horiginal
          exact hreturns ⟨g, hg, hraid, q, hq, hq', horiginal⟩
      · rw [if_neg hq'] at hpos ⊢
        obtain ⟨g', hg', hmember⟩ := h.linked q hq hpos
        obtain rfl := Option.some.inj (hg.symm.trans hg')
        rw [Group.isMember_eraseSlot hq']
        exact hmember
    have hleader : (g.eraseSlot guid).isMember (g.eraseSlot guid).leaderGuid = true ∨
        (g.eraseSlot guid).leaderGuid = guid := by
      have hsame : (g.eraseSlot guid).leaderGuid = g.leaderGuid := by
        rw [Group.eraseSlot]
        cases g.getMemberSlot guid <;> rfl
      rw [hsame]
      by_cases hleft : g.leaderGuid = guid
      · exact Or.inr hleft
      · exact Or.inl ((Group.isMember_eraseSlot hleft).trans (h.leader g hg))
    obtain ⟨g', heq, hslots', hmem, hnew⟩ :=
      pickNewLeader_eq (s := { s.updatePlayer guid g.unlinkMember with
        group := some (g.eraseSlot guid) }) rfl (hslots.eraseSlot guid) hleader
    rw [heq]
    refine disbandIfLeft_inv (g := g') rfl sight fun hsize => ?_
    obtain ⟨p, hp, hpos⟩ := exists_links hsize
    refine ⟨fun g'' hg'' => ?_, fun g'' hg'' => ?_, fun p hp hpos => ?_⟩
    · obtain rfl := Option.some.inj hg''
      exact hslots'
    · obtain rfl := Option.some.inj hg''
      exact hnew ⟨p, hp, hlinked p hp hpos⟩
    · exact ⟨g', rfl, (hmem p.guid).trans (hlinked p hp hpos)⟩

theorem Inv.create (h : s.Inv) (kind : GroupKind) (leader : ObjectGuid) :
    (s.create kind leader).Inv := by
  cases hg : s.group with
  | some g => rw [GroupState.create, hg]; exact h
  | none =>
    rw [GroupState.create, hg]
    cases s.findConnectedPlayer leader with
    | none => exact h
    | some p =>
      obtain ⟨hslots, hleader, -, hcounts⟩ := Group.newGroup_spec kind leader
      have hfree : (newGroup kind leader).freeSubGroup.isSome = true := by
        rw [Group.freeSubGroup, hcounts]
        split_ifs <;> decide
      have hnobody : ∀ guid, (newGroup kind leader).isMember guid = false := by
        intro guid
        rw [Group.isMember, Group.getMemberSlot, hslots]
        rfl
      refine addMember_inv (g := newGroup kind leader) rfl (Group.Slots.newGroup kind leader)
        (fun p hp hpos => ?_) (hnobody leader) ?_ (Or.inr ⟨hleader.symm, hfree⟩)
      · obtain ⟨g, hg', -⟩ := h.linked p hp hpos
        rw [hg] at hg'
        cases hg'
      · right
        rw [Group.getMembersCount, hslots]
        decide

theorem Inv.login (h : s.Inv) (guid : ObjectGuid) (row : GroupRef) : (s.login guid row).Inv := by
  rw [GroupState.login]
  split
  · exact h
  refine ⟨h.slots, h.leader, fun p hp hpos => ?_⟩
  rcases List.mem_cons.mp hp with rfl | hp
  · rw [Player.links_pos_iff] at hpos
    dsimp only at hpos ⊢
    rcases hpos with hpos | hpos
    · split at hpos
      · cases hpos
      rename_i hrow
      rw [hpos, not_and] at hrow
      have hloaded := hrow rfl
      cases hg : s.group with
      | none => simp [hg] at hloaded
      | some g =>
        simp only [hg, Option.any_some, Bool.not_eq_true', Bool.not_eq_false,
          Bool.and_eq_true] at hloaded
        exact ⟨g, rfl, hloaded.1.1⟩
    · cases hpos
  · exact h.linked p hp hpos

theorem Inv.logout (h : s.Inv) (guid : ObjectGuid) : (s.logout guid).Inv :=
  ⟨h.slots, h.leader, fun p hp hpos => h.linked p (List.mem_of_mem_filter hp) hpos⟩

theorem Inv.handleGroupChangeSubGroup (h : s.Inv) (sender guid : ObjectGuid) (groupNr : UInt8) :
    (s.handleGroupChangeSubGroup sender guid groupNr).Inv := by
  cases hg : s.group with
  | none => rw [GroupState.handleGroupChangeSubGroup, hg]; exact h
  | some g =>
    rw [GroupState.handleGroupChangeSubGroup, hg]
    dsimp only
    split
    · exact h
    split
    · exact h
    split
    · exact h
    rename_i hrange _ hfree
    have hslots := h.slots g hg
    have hroom : g.subGroupSize groupNr < MAXGROUPSIZE := by
      rw [Group.hasFreeSlotSubGroup] at hfree
      cases hcounts : g.subGroupsCounts with
      | none => simp [hcounts] at hfree
      | some counts =>
        rw [hcounts] at hfree
        rw [← hslots.toNat_counts hcounts]
        simpa using hfree
    have hmem := Group.isMember_congr (Group.guids_changeMembersGroup g guid groupNr)
    refine h.setGroup hg (hslots.changeMembersGroup guid (not_le.mp hrange) hroom) hmem ?_
    have hleader : (g.changeMembersGroup guid groupNr).leaderGuid = g.leaderGuid := by
      rw [Group.changeMembersGroup]
      split
      · rfl
      · cases g.getMemberSlot guid with
        | none => rfl
        | some slot =>
          dsimp only
          split <;> rfl
    rw [hmem, hleader]
    exact h.leader g hg

theorem Inv.handleGroupAssistantLeader (h : s.Inv) (sender guid : ObjectGuid) (apply : Bool) :
    (s.handleGroupAssistantLeader sender guid apply).Inv := by
  cases hg : s.group with
  | none => rw [GroupState.handleGroupAssistantLeader, hg]; exact h
  | some g =>
    rw [GroupState.handleGroupAssistantLeader, hg]
    dsimp only
    split
    · exact h
    have hslots := h.slots g hg
    have hmap := fun {γ : Type} (key : MemberSlot → γ)
        (hkey : ∀ slot flags, key { slot with flags := flags } = key slot) =>
      Group.map_modifySlot (f := fun slot =>
        { slot with
          flags := if apply then slot.flags ||| MEMBER_FLAG_ASSISTANT
            else slot.flags &&& ~~~MEMBER_FLAG_ASSISTANT }) key
        (fun slot => hkey slot _) guid g.memberSlots
    rw [Group.setAssistant]
    split
    · refine h.setGroup hg hslots (fun other => rfl) (h.leader g hg)
    · have hmem : ∀ other, Group.isMember { g with memberSlots := _ } other = g.isMember other :=
        Group.isMember_congr (hmap MemberSlot.guid fun slot flags => rfl)
      refine h.setGroup hg (hslots.of_map_eq
        (hmap (fun slot => (slot.guid, slot.group)) fun slot flags => rfl) rfl rfl rfl rfl) hmem ?_
      rw [hmem]
      exact h.leader g hg

theorem Inv.handleGroupRaidConvert (h : s.Inv) (sender : ObjectGuid) :
    (s.handleGroupRaidConvert sender).Inv := by
  cases hg : s.group with
  | none => rw [GroupState.handleGroupRaidConvert, hg]; exact h
  | some g =>
    rw [GroupState.handleGroupRaidConvert, hg]
    dsimp only
    split
    · exact h
    · exact h.setGroup hg (h.slots g hg).convertToRaid (fun other => rfl) (h.leader g hg)

/-! ## 5. Runs -/

/-- When a step adds or removes members in order: `AddMember` is reached for somebody who has no
slot in the group, in a party of the dungeon finder only while it has a place, and nobody is
removed from a battleground or battlefield raid he would come back to. -/
def Orderly (s : GroupState) : GroupEvent → Prop
  | .accept guid =>
    ∀ g ∈ s.group, g.leaderGuid ≠ guid → g.isFull = false → g.isMember guid = false
  | .groupJoin guid =>
    ∀ g ∈ s.group, ∀ p ∈ s.findConnectedPlayer guid,
      p.group = .null → g.isFull = false → g.isMember guid = false
  | .makeNewGroup guid _ =>
    ∀ g ∈ s.group, ∀ p ∈ s.findConnectedPlayer guid, p.group ≠ .this →
      g.isMember guid = false ∧ (g.isRaidGroup = true ∨ g.getMembersCount < MAXGROUPSIZE)
  | .removeMember guid _ _ => ¬ s.Returns guid
  | _ => True

instance (s : GroupState) (e : GroupEvent) : Decidable (s.Orderly e) := by
  cases e <;> dsimp only [Orderly] <;> infer_instance

theorem place_of_isFull (h : g.isFull = false) :
    g.isRaidGroup = true ∨ g.getMembersCount < MAXGROUPSIZE := by
  by_cases hraid : g.isRaidGroup = true
  · exact Or.inl hraid
  · rw [Group.isFull, if_neg hraid] at h
    exact Or.inr (by simpa using h)

theorem Inv.handleGroupAccept (h : s.Inv) (horder : s.Orderly (.accept guid)) :
    (s.handleGroupAccept guid).Inv := by
  rw [GroupState.handleGroupAccept]
  cases hg : s.group with
  | none => exact h
  | some g =>
    cases s.findConnectedPlayer guid with
    | none => exact h
    | some p =>
      dsimp only
      split
      · exact h
      split
      · exact h
      rename_i hleader hfull
      rw [Bool.not_eq_true] at hfull
      exact h.addMember hg (horder g hg hleader hfull) (place_of_isFull hfull)

theorem Inv.handleGroupJoin (h : s.Inv) (horder : s.Orderly (.groupJoin guid)) :
    (s.handleGroupJoin guid).Inv := by
  rw [GroupState.handleGroupJoin]
  cases hg : s.group with
  | none => exact h
  | some g =>
    cases hp : s.findConnectedPlayer guid with
    | none => exact h
    | some p =>
      dsimp only
      split
      · exact h
      split
      · exact h
      rename_i hnull hfull
      rw [Bool.not_eq_true] at hfull
      exact h.addMember hg (horder g hg p hp (not_not.mp hnull) hfull) (place_of_isFull hfull)

theorem Inv.makeNewGroup (h : s.Inv) {op : Elsewhere}
    (horder : s.Orderly (.makeNewGroup guid op)) : (s.makeNewGroup guid op).Inv := by
  rw [GroupState.makeNewGroup]
  cases hp : s.findConnectedPlayer guid with
  | none => exact h
  | some p =>
    dsimp only
    have hs' : Inv (if p.group = .other then s.updatePlayer guid op.apply else s) ∧
        (if p.group = .other then s.updatePlayer guid op.apply else s).group = s.group := by
      split
      · exact ⟨h.elsewhere guid op, rfl⟩
      · exact ⟨h, rfl⟩
    generalize (if p.group = .other then s.updatePlayer guid op.apply else s) = s' at hs' ⊢
    obtain ⟨hs', hgroup⟩ := hs'
    split
    · rename_i hthis
      cases hg : s.group with
      | none =>
        rw [GroupState.addMember, hgroup, hg]
        exact hs'
      | some g =>
        obtain ⟨hnew, hplace⟩ := horder g hg p hp hthis
        exact hs'.addMember (hgroup.trans hg) hnew hplace
    · exact hs'

theorem Inv.addOrSetPlayer (h : s.Inv) (guid : ObjectGuid) : (s.addOrSetPlayer guid).Inv := by
  rw [GroupState.addOrSetPlayer]
  cases hg : s.group with
  | none => exact h
  | some g =>
    cases s.findConnectedPlayer guid with
    | none => exact h
    | some p =>
      dsimp only
      split
      · exact h
      rename_i hraid
      split
      · rename_i hmember
        exact h.updatePlayer (fun p => rfl) fun p hp hguid hpos => ⟨g, hg, hmember⟩
      · rename_i hnew
        have hkind : g.isBGGroup = true ∨ g.isBFGroup = true := by
          simpa [or_iff_not_imp_left] using hraid
        exact h.addMember hg (Bool.eq_false_iff.mpr hnew) (Or.inl ((h.slots g hg).bgRaid hkind))

theorem Inv.step (h : s.Inv) (e : GroupEvent) (horder : s.Orderly e) : (s.step e).Inv := by
  cases e with
  | create kind leader => exact h.create kind leader
  | accept guid => exact h.handleGroupAccept horder
  | groupJoin guid => exact h.handleGroupJoin horder
  | makeNewGroup guid op => exact h.makeNewGroup horder
  | addOrSetPlayer guid => exact h.addOrSetPlayer guid
  | removeMember guid method sight => exact h.removeMember guid method sight horder
  | changeLeader guid => exact h.changeLeader guid
  | changeSubGroup sender guid groupNr => exact h.handleGroupChangeSubGroup sender guid groupNr
  | assistant sender guid apply => exact h.handleGroupAssistantLeader sender guid apply
  | convertToRaid sender => exact h.handleGroupRaidConvert sender
  | disband =>
    cases hg : s.group with
    | none =>
      change s.disband.Inv
      rw [GroupState.disband, hg]
      exact h
    | some g => exact Inv.disband hg
  | login guid row => exact h.login guid row
  | logout guid => exact h.logout guid
  | elsewhere guid op => exact h.elsewhere guid op

end GroupState

/-- What a group says of its members: their guids are unique, the counters of a raid are the
numbers of members in its subgroups, no subgroup has more than `MAXGROUPSIZE` of them, all
subgroups are below `MAX_RAID_SUBGROUPS`, and the leader of a group with members is one of them. -/
structure Group.Sound (g : Group) : Prop where
  unique : (g.memberSlots.map MemberSlot.guid).Nodup
  counters : ∀ counts, g.subGroupsCounts = some counts → ∀ i, i.toNat < MAX_RAID_SUBGROUPS →
    (counts i).toNat = g.subGroupSize i
  raid : g.isRaidGroup = true → g.subGroupsCounts.isSome = true
  fits : ∀ i, g.subGroupSize i ≤ MAXGROUPSIZE
  range : ∀ slot ∈ g.memberSlots, slot.group.toNat < MAX_RAID_SUBGROUPS
  leader : g.memberSlots ≠ [] → ∃ slot ∈ g.memberSlots, slot.guid = g.leaderGuid

namespace GroupState

variable {s : GroupState}

def Sound (s : GroupState) : Prop := ∀ g, s.group = some g → g.Sound

theorem Inv.sound (h : s.Inv) : s.Sound := by
  intro g hg
  have hslots := h.slots g hg
  exact
    { unique := hslots.unique
      counters := fun counts hcounts i _ => hslots.toNat_counts hcounts i
      raid := fun hraid => hslots.raid.trans hraid
      fits := hslots.fits
      range := hslots.range
      leader := fun _ => Group.isMember_iff.mp (h.leader g hg) }

def empty : GroupState := { group := none, players := [] }

theorem Inv.empty : GroupState.empty.Inv :=
  ⟨fun _ hg => (nomatch hg), fun _ hg => (nomatch hg), fun _ hp => (nomatch hp)⟩

/-- **A group's representation.**  In a run whose steps are orderly, whatever the order of logins,
joins, moves, promotions, kicks, leaves and disconnects, the slots, the counters and the leader
agree in every state. -/
theorem run_groupSound {evs : List GroupEvent} (h : Steps step Orderly empty evs) :
    States step Sound empty evs :=
  (States.of_steps (I := Inv) (fun _ e hs horder => hs.step e horder) Inv.empty h).imp
    fun _ hs => hs.sound

/-- Where the dungeon finder sends a group does not matter in these runs. -/
def noSight : LfgSight := { mapId := 0, leaderAlive := true, leaderMapId := 0 }

/-- A raid whose leader leaves while the next member is offline. -/
def raidEvents : List GroupEvent :=
  [.login 1 .null, .login 2 .null, .login 3 .null, .login 4 .null, .create .party 1, .accept 2,
    .accept 3, .accept 4, .convertToRaid 1, .changeSubGroup 1 3 2, .logout 2,
    .removeMember 1 .GROUP_REMOVEMETHOD_LEAVE noSight, .login 2 .this]

theorem raidEvents_groupSound :
    Steps step Orderly empty raidEvents ∧ States step Sound empty raidEvents := by
  have horder : Steps step Orderly empty raidEvents := by
    refine ⟨?_, ?_, ?_, ?_, ?_, ?_, ?_, ?_, ?_, ?_, ?_, ?_, ?_, trivial⟩ <;> decide +kernel
  exact ⟨horder, run_groupSound horder⟩

/-- A dungeon finder group of four looks for a fifth; its leader invites one, and then the dungeon
finder brings its own. -/
def overfull : List GroupEvent :=
  [.login 1 .null, .login 2 .null, .login 3 .null, .login 4 .null, .login 5 .null, .login 6 .null,
    .create .lfg 1, .makeNewGroup 2 (.setGroup false), .makeNewGroup 3 (.setGroup false),
    .makeNewGroup 4 (.setGroup false), .accept 5, .makeNewGroup 6 (.setGroup false)]

/-- A battlefield raid of four: two of them enter a battleground and are kicked from the raid,
the third is disconnected, the leader leaves. -/
def leaderless : List GroupEvent :=
  [.login 1 .null, .login 2 .null, .login 3 .null, .login 4 .null, .create .battlefield 1,
    .addOrSetPlayer 2, .addOrSetPlayer 3, .addOrSetPlayer 4,
    .elsewhere 3 .setBattlegroundOrBattlefieldRaid, .elsewhere 4 .setBattlegroundOrBattlefieldRaid,
    .removeMember 3 .GROUP_REMOVEMETHOD_KICK noSight,
    .removeMember 4 .GROUP_REMOVEMETHOD_KICK noSight, .logout 2,
    .removeMember 1 .GROUP_REMOVEMETHOD_LEAVE noSight]

/-- The dungeon finder makes a party of six, and a raid is left with a leader who is gone. -/
theorem groupSound_fails :
    ¬ (exec step empty overfull).Sound ∧ ¬ (exec step empty leaderless).Sound := by
  constructor
  · intro h
    have hsize : ((exec step empty overfull).group.map fun g => g.subGroupSize 0) = some 6 := by
      decide +kernel
    obtain ⟨g, hg, hg6⟩ := Option.map_eq_some_iff.mp hsize
    have hfits := (h g hg).fits 0
    rw [hg6] at hfits
    exact absurd hfits (by decide)
  · intro h
    have hslots : ((exec step empty leaderless).group.map fun g =>
        (g.leaderGuid, g.memberSlots.map MemberSlot.guid)) = some (1, [2]) := by
      decide +kernel
    obtain ⟨g, hg, hguids⟩ := Option.map_eq_some_iff.mp hslots
    obtain ⟨hleader, hmembers⟩ := Prod.mk.inj hguids
    have hne : g.memberSlots ≠ [] := by
      intro hnil
      rw [hnil] at hmembers
      cases hmembers
    obtain ⟨slot, hslot, hguid⟩ := (h g hg).leader hne
    have hmem : slot.guid ∈ g.memberSlots.map MemberSlot.guid := List.mem_map_of_mem hslot
    rw [hmembers, hguid, hleader] at hmem
    exact absurd hmem (by decide)

end GroupState

end FunPvp.Groups
