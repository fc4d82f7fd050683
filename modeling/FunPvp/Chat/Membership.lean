/-
# Who is in a chat channel, and who owns it

A channel lives in the manager under its name, from the first join to the last leave. After any
sequence of requests (`Tracked.Sound`) its members should be the players who joined and have since
neither left nor been kicked or banned, none of them is banned, and the owner's guid and the owner's
flag name the same member, who is a moderator.

It fails through an owner who kicks or bans himself. With others in the channel the index operator
puts him back; alone, he leaves it empty and alive with his guid still in `_ownerGUID`.
`sound_iff_safe` says that these are the only two ways.
-/
import FunPvp.Chat.Channel
import FunPvp.Lib.Run

namespace FunPvp.Chat

open Lib

/-! ## 1. The records of the owner -/

/-- Nobody but `o` carries the owner's flag. -/
def OnlyOwner (store : PlayerContainer) (o : Guid) : Prop :=
  ∀ g info, store.lookup g = some info → info.isOwner → g = o

/-- `o` is a member and carries the flags of an owner, and nobody else carries the owner's. -/
structure OwnedBy (store : PlayerContainer) (o : Guid) : Prop where
  flags : ∃ info, store.lookup o = some info ∧ info.isOwner ∧ info.isModerator
  only : OnlyOwner store o

/-- Every entry names the player under whose guid it is kept. -/
def Keyed (store : PlayerContainer) : Prop :=
  ∀ g info, store.lookup g = some info → info.player = g ∧ g ≠ 0

section Store

variable {store : PlayerContainer} {o guid : Guid} {f : PlayerInfo → PlayerInfo}

theorem lookup_of_erase {g : Guid} {info : PlayerInfo}
    (h : (store.erase guid).lookup g = some info) : g ≠ guid ∧ store.lookup g = some info := by
  have hne : g ≠ guid := by
    rintro rfl
    rw [AList.lookup_erase] at h
    cases h
  rw [AList.lookup_erase_ne hne] at h
  exact ⟨hne, h⟩

theorem OnlyOwner.erase (h : OnlyOwner store o) : OnlyOwner (store.erase guid) o :=
  fun g info hg => h g info (lookup_of_erase hg).2

theorem Keyed.erase (h : Keyed store) : Keyed (store.erase guid) :=
  fun g info hg => h g info (lookup_of_erase hg).2

theorem OwnedBy.erase (h : OwnedBy store o) (hne : o ≠ guid) : OwnedBy (store.erase guid) o := by
  obtain ⟨info, hinfo, hflags⟩ := h.flags
  refine ⟨⟨info, ?_, hflags⟩, h.only.erase⟩
  rw [AList.lookup_erase_ne hne]
  exact hinfo

theorem lookup_of_modify (hguid : guid ∈ store) {g : Guid} {info : PlayerInfo}
    (h : (PlayerContainer.modify store guid f).lookup g = some info) :
    ∃ before, store.lookup g = some before ∧ (info = before ∨ g = guid ∧ info = f before) := by
  rw [PlayerContainer.lookup_modify] at h
  split at h
  · subst g
    obtain ⟨before, hbefore⟩ := PlayerContainer.mem_iff_lookup.mp hguid
    rw [PlayerContainer.index_of_lookup hbefore, Option.some.injEq] at h
    exact ⟨before, hbefore, .inr ⟨rfl, h.symm⟩⟩
  · exact ⟨info, h, .inl rfl⟩

theorem Keyed.modify (h : Keyed store) (hguid : guid ∈ store)
    (hf : ∀ info, (f info).player = info.player) :
    Keyed (PlayerContainer.modify store guid f) := by
  intro g info hg
  obtain ⟨before, hbefore, rfl | ⟨rfl, rfl⟩⟩ := lookup_of_modify hguid hg
  · exact h g info hbefore
  · rw [hf]
    exact h g before hbefore

theorem OnlyOwner.modify (h : OnlyOwner store o) (hguid : guid ∈ store)
    (hf : ∀ info, (f info).isOwner = info.isOwner) :
    OnlyOwner (PlayerContainer.modify store guid f) o := by
  intro g info hg howner
  obtain ⟨before, hbefore, rfl | ⟨rfl, rfl⟩⟩ := lookup_of_modify hguid hg
  · exact h g info hbefore howner
  · rw [hf] at howner
    exact h g before hbefore howner

/-- An update that leaves the owner's flag alone everywhere, and the moderator's flag of the owner,
leaves the owner the owner. -/
theorem OwnedBy.modify (h : OwnedBy store o) (hguid : guid ∈ store)
    (hf : ∀ info, (f info).isOwner = info.isOwner)
    (hmod : guid = o → ∀ info, info.isModerator → (f info).isModerator) :
    OwnedBy (PlayerContainer.modify store guid f) o := by
  refine ⟨?_, h.only.modify hguid hf⟩
  obtain ⟨info, hinfo, howner, hmoderator⟩ := h.flags
  rw [PlayerContainer.lookup_modify]
  split
  · rename_i heq
    rw [← heq, PlayerContainer.index_of_lookup hinfo]
    exact ⟨f info, rfl, by rw [hf]; exact howner, hmod heq.symm info hmoderator⟩
  · exact ⟨info, hinfo, howner, hmoderator⟩

end Store

/-! ## 2. The new owner -/

namespace Channel

variable {ch ch' : Channel} {guid : Guid}

@[simp] theorem updateChannelInDB_playersStore (ch : Channel) :
    ch.updateChannelInDB.playersStore = ch.playersStore := by
  unfold updateChannelInDB
  split <;> rfl

@[simp] theorem updateChannelInDB_ownerGUID (ch : Channel) :
    ch.updateChannelInDB.ownerGUID = ch.ownerGUID := by
  unfold updateChannelInDB
  split <;> rfl

@[simp] theorem updateChannelInDB_bannedStore (ch : Channel) :
    ch.updateChannelInDB.bannedStore = ch.bannedStore := by
  unfold updateChannelInDB
  split <;> rfl

@[simp] theorem updateChannelInDB_ownership (ch : Channel) :
    ch.updateChannelInDB.ownership = ch.ownership := by
  unfold updateChannelInDB
  split <;> rfl

@[simp] theorem setOwner_bannedStore (ch : Channel) (guid : Guid) :
    (ch.setOwner guid).bannedStore = ch.bannedStore := by
  simp only [setOwner]
  split <;> simp

@[simp] theorem setOwner_ownership (ch : Channel) (guid : Guid) :
    (ch.setOwner guid).ownership = ch.ownership := by
  simp only [setOwner]
  split <;> simp

@[simp] theorem setOwner_ownerGUID (ch : Channel) (guid : Guid) :
    (ch.setOwner guid).ownerGUID = guid := by
  simp only [setOwner]
  split <;> simp

/-- What does not depend on there being an owner: the ownership setting, the keys, the bans, and
that nobody else carries the owner's flag. -/
structure Loose (ch : Channel) : Prop where
  ownership : ch.ownership = true
  keyed : Keyed ch.playersStore
  banned : ∀ g ∈ ch.bannedStore, g ∉ ch.playersStore
  only : OnlyOwner ch.playersStore ch.ownerGUID

structure Kept (ch : Channel) : Prop extends Loose ch where
  owned : (∃ g, g ∈ ch.playersStore) → OwnedBy ch.playersStore ch.ownerGUID

theorem Loose.unflag (h : ch.Loose) :
    ∃ store : PlayerContainer,
      (if ch.ownerGUID ≠ 0 then
        PlayerContainer.modifyFound ch.playersStore ch.ownerGUID (·.setOwner false)
        else ch.playersStore) = store ∧ Keyed store ∧
      (∀ g, g ∈ store ↔ g ∈ ch.playersStore) ∧
      ∀ g info, store.lookup g = some info → info.isOwner = false := by
  refine ⟨_, rfl, ?_⟩
  split
  · rename_i hset
    refine ⟨fun g info hg => ?_, fun g => PlayerContainer.mem_modifyFound _, fun g info hg => ?_⟩
    · rw [PlayerContainer.lookup_modifyFound] at hg
      split at hg
      · subst g
        obtain ⟨before, hbefore, rfl⟩ := Option.map_eq_some_iff.mp hg
        exact h.keyed _ before hbefore
      · exact h.keyed g info hg
    · rw [PlayerContainer.lookup_modifyFound] at hg
      split at hg
      · obtain ⟨before, -, rfl⟩ := Option.map_eq_some_iff.mp hg
        exact PlayerInfo.isOwner_setOwner before false
      · rename_i hne
        by_contra howner
        exact hne (h.only g info hg (by simpa using howner))
  · rename_i hset
    refine ⟨h.keyed, fun g => Iff.rfl, fun g info hg => ?_⟩
    by_contra howner
    -- a member with the flag would have the empty guid
    have hzero : g = ch.ownerGUID := h.only g info hg (by simpa using howner)
    exact (h.keyed g info hg).2 (hzero.trans (not_not.mp hset))

theorem Loose.setOwner (h : ch.Loose) (hguid : guid ∈ ch.playersStore) :
    (ch.setOwner guid).Kept ∧ ∀ g, g ∈ (ch.setOwner guid).playersStore ↔ g ∈ ch.playersStore := by
  obtain ⟨info, hinfo⟩ := PlayerContainer.mem_iff_lookup.mp hguid
  have hne : guid ≠ 0 := (h.keyed guid info hinfo).2
  obtain ⟨store, hstore, hkeyed, hmem, hnone⟩ := h.unflag
  have hform : (ch.setOwner guid).playersStore =
      PlayerContainer.modify (PlayerContainer.modify store guid (·.setModerator true)) guid
        (·.setOwner true) := by
    simp only [Channel.setOwner, hstore]
    rw [if_pos hne, updateChannelInDB_playersStore]
  have hin : guid ∈ store := (hmem guid).mpr hguid
  have hin' : guid ∈ PlayerContainer.modify store guid (·.setModerator true) := by simp
  have hmembers : ∀ g, g ∈ (ch.setOwner guid).playersStore ↔ g ∈ ch.playersStore := by
    intro g
    rw [hform, PlayerContainer.mem_modify, PlayerContainer.mem_modify, hmem]
    constructor
    · rintro (rfl | rfl | hg)
      exacts [hguid, hguid, hg]
    · exact fun hg => .inr (.inr hg)
  have honly : OnlyOwner (ch.setOwner guid).playersStore guid := by
    intro g info' hg howner
    rw [hform] at hg
    obtain ⟨mid, hmid, rfl | ⟨rfl, -⟩⟩ := lookup_of_modify hin' hg
    · obtain ⟨before, hbefore, rfl | ⟨rfl, -⟩⟩ := lookup_of_modify hin hmid
      · rw [hnone g info' hbefore] at howner
        cases howner
      · rfl
    · rfl
  refine ⟨⟨⟨?_, ?_, ?_, ?_⟩, fun _ => ?_⟩, hmembers⟩
  · rw [setOwner_ownership]
    exact h.ownership
  · rw [hform]
    exact (hkeyed.modify hin fun info => PlayerInfo.player_setModerator info true).modify hin'
      fun info => PlayerInfo.player_setOwner info true
  · intro g hg
    rw [hmembers]
    exact h.banned g (by simpa using hg)
  · rw [setOwner_ownerGUID]
    exact honly
  · rw [setOwner_ownerGUID]
    refine ⟨?_, honly⟩
    rw [hform, PlayerContainer.lookup_modify, if_pos rfl]
    refine ⟨_, rfl, PlayerInfo.isOwner_setOwner _ true, ?_⟩
    rw [PlayerInfo.isModerator_setOwner, PlayerContainer.index, PlayerContainer.lookup_modify,
      if_pos rfl, Option.getD_some, PlayerInfo.isModerator_setModerator]

theorem Loose.handOver (h : ch.Loose) (hguid : guid ∈ ch.playersStore) :
    let ch' := ({ ch with
      playersStore := PlayerContainer.modify ch.playersStore guid (·.setModerator true) } :
        Channel).setOwner guid
    ch'.Kept ∧ ∀ g, g ∈ ch'.playersStore ↔ g ∈ ch.playersStore := by
  have hmem : ∀ g, g ∈ PlayerContainer.modify ch.playersStore guid (·.setModerator true) ↔
      g ∈ ch.playersStore := by
    intro g
    rw [PlayerContainer.mem_modify]
    constructor
    · rintro (rfl | hg)
      exacts [hguid, hg]
    · exact .inr
  have hloose : ({ ch with
      playersStore := PlayerContainer.modify ch.playersStore guid (·.setModerator true) } :
        Channel).Loose :=
    ⟨h.ownership, h.keyed.modify hguid fun _ => rfl,
      fun g hg hin => h.banned g hg ((hmem g).mp hin),
      h.only.modify hguid fun info => PlayerInfo.isOwner_setModerator info true⟩
  obtain ⟨hkept, hsame⟩ := hloose.setOwner ((hmem guid).mpr hguid)
  exact ⟨hkept, fun g => (hsame g).trans (hmem g)⟩

theorem Loose.erase (h : ch.Loose) (guid : Guid) :
    ({ ch with playersStore := ch.playersStore.erase guid } : Channel).Loose :=
  ⟨h.ownership, h.keyed.erase,
    fun g hg hin => h.banned g hg (AList.mem_erase.mp hin).2, h.only.erase⟩

theorem Kept.erase (h : ch.Kept) (hne : guid ∈ ch.playersStore → ch.ownerGUID ≠ guid) :
    ({ ch with playersStore := ch.playersStore.erase guid } : Channel).Kept := by
  refine ⟨h.toLoose.erase guid, ?_⟩
  rintro ⟨g, hg⟩
  have howned := h.owned ⟨g, (AList.mem_erase.mp hg).2⟩
  by_cases hin : guid ∈ ch.playersStore
  · exact howned.erase (hne hin)
  · have hsame : ch.playersStore.erase guid = ch.playersStore := by
      apply AList.ext
      exact List.kerase_of_notMem_keys (mt AList.mem_keys.mpr hin)
    rwa [hsame]

/-! ## 3. The requests, one by one -/

/-- **`JoinChannel`** brings the player in. The channel is as it should be afterwards, except when
it was empty with an owner still recorded. -/
theorem Kept.joinChannel (h : ch.Kept) {player : Player} {pass : Name}
    (hok : ch.joinChannel player pass = .ok ch') :
    (∀ g, g ∈ ch'.playersStore ↔ g = player.guid ∨ g ∈ ch.playersStore) ∧
      (((∃ g, g ∈ ch.playersStore) ∨ ch.ownerGUID = 0) → ch'.Kept) := by
  simp only [Channel.joinChannel, isOn, isBanned, decide_eq_true_eq] at hok
  split at hok
  · cases hok
  rename_i hon
  split at hok
  · cases hok
  rename_i hban
  split at hok
  · cases hok
  set entered : Channel := { ch with
    playersStore := ch.playersStore.insert player.guid ⟨player.guid, MEMBER_FLAG_NONE⟩ }
    with hentered
  have hin : player.guid ∈ entered.playersStore := AList.mem_insert _ |>.mpr (.inl rfl)
  have hmem : ∀ g, g ∈ entered.playersStore ↔ g = player.guid ∨ g ∈ ch.playersStore :=
    fun g => AList.mem_insert _
  have hlookup : ∀ g info, entered.playersStore.lookup g = some info →
      g = player.guid ∧ info = ⟨player.guid, MEMBER_FLAG_NONE⟩ ∨
        ch.playersStore.lookup g = some info := by
    intro g info hg
    by_cases heq : g = player.guid
    · subst g
      rw [hentered, AList.lookup_insert, Option.some.injEq] at hg
      exact .inl ⟨rfl, hg.symm⟩
    · rw [hentered, AList.lookup_insert_ne heq] at hg
      exact .inr hg
  have hloose : entered.Loose := by
    refine ⟨h.ownership, fun g info hg => ?_, fun g hg hin => ?_, fun g info hg howner => ?_⟩
    · rcases hlookup g info hg with ⟨rfl, rfl⟩ | hg
      · exact ⟨rfl, player.guid_ne⟩
      · exact h.keyed g info hg
    · rcases (hmem g).mp hin with rfl | hin
      · exact hban hg
      · exact h.banned g hg hin
    · rcases hlookup g info hg with ⟨rfl, rfl⟩ | hg
      · exact absurd howner (by simp [PlayerInfo.isOwner_new])
      · exact h.only g info hg howner
  split at hok
  · -- nobody was recorded as the owner: the player becomes it
    simp only [Except.ok.injEq] at hok
    obtain ⟨hkept, hsame⟩ := hloose.setOwner hin
    have hin' := (hsame player.guid).mpr hin
    subst hok
    refine ⟨fun g => ?_, fun _ => ⟨⟨hkept.ownership, ?_, ?_, ?_⟩, fun _ => ?_⟩⟩
    · rw [PlayerContainer.mem_modify, hsame, hmem]
      tauto
    · exact hkept.keyed.modify hin' fun info => PlayerInfo.player_setModerator info true
    · intro g hg hg'
      refine hkept.banned g hg ?_
      rcases (PlayerContainer.mem_modify _).mp hg' with rfl | hg'
      exacts [hin', hg']
    · exact hkept.only.modify hin' fun info => PlayerInfo.isOwner_setModerator info true
    · exact (hkept.owned ⟨_, hin'⟩).modify hin'
        (fun info => PlayerInfo.isOwner_setModerator info true)
        fun _ info _ => PlayerInfo.isModerator_setModerator info true
  · rename_i hrecorded
    simp only [Except.ok.injEq] at hok
    subst hok
    refine ⟨hmem, fun hex => ⟨hloose, fun _ => ⟨?_, hloose.only⟩⟩⟩
    have hset : ch.ownerGUID ≠ 0 := fun hzero => hrecorded ⟨hzero, h.ownership⟩
    obtain ⟨info, hinfo, hflags⟩ := (h.owned (hex.resolve_right hset)).flags
    refine ⟨info, ?_, hflags⟩
    have hne : ch.ownerGUID ≠ player.guid := by
      rintro heq
      exact hon (heq ▸ PlayerContainer.mem_iff_lookup.mpr ⟨info, hinfo⟩)
    rw [hentered, AList.lookup_insert_ne hne]
    exact hinfo

/-- **`LeaveChannel`** takes the player out, and an owner who leaves others behind hands the
channel over to one of them. -/
theorem Kept.leaveChannel (h : ch.Kept) {player : Player}
    (hok : ch.leaveChannel player = .ok ch') :
    ch'.Kept ∧ ∀ g, g ∈ ch'.playersStore ↔ g ≠ player.guid ∧ g ∈ ch.playersStore := by
  simp only [Channel.leaveChannel, isOn, decide_eq_true_eq] at hok
  split at hok
  · rename_i hon
    obtain ⟨info, hinfo⟩ := PlayerContainer.mem_iff_lookup.mp hon
    rw [PlayerContainer.index_of_lookup hinfo] at hok
    have hmem : ∀ g, g ∈ ch.playersStore.erase player.guid ↔
        g ≠ player.guid ∧ g ∈ ch.playersStore := fun g => AList.mem_erase
    split at hok
    · rename_i first hfirst
      split at hok
      · obtain ⟨g, hg⟩ := PlayerContainer.begin?_spec hfirst
        have hloose := h.toLoose.erase player.guid
        obtain ⟨hplayer, -⟩ := hloose.keyed g first hg
        have hin : first.player ∈ ch.playersStore.erase player.guid :=
          PlayerContainer.mem_iff_lookup.mpr ⟨first, by rw [hplayer]; exact hg⟩
        obtain ⟨hkept, hsame⟩ := hloose.handOver hin
        rw [Except.ok.injEq] at hok
        subst hok
        exact ⟨hkept, fun g => (hsame g).trans (hmem g)⟩
      · rename_i hnot
        rw [Except.ok.injEq] at hok
        subst hok
        refine ⟨h.erase fun _ heq => hnot ⟨?_, h.ownership⟩, hmem⟩
        -- the recorded owner carries the flag
        obtain ⟨info', hinfo', howner, -⟩ := (h.owned ⟨_, hon⟩).flags
        rw [heq, hinfo, Option.some.injEq] at hinfo'
        rw [hinfo']
        exact howner
    · rename_i hempty
      rw [Except.ok.injEq] at hok
      subst hok
      refine ⟨⟨h.toLoose.erase player.guid, ?_⟩, hmem⟩
      rintro ⟨g, hg⟩
      exact absurd hg (PlayerContainer.begin?_eq_none.mp hempty g)
  · cases hok

theorem asModerator_ok {player : Player} {request : Except ChatNotify Channel}
    (hok : ch.asModerator player request = .ok ch') :
    player.guid ∈ ch.playersStore ∧ request = .ok ch' := by
  simp only [Channel.asModerator, isOn, decide_eq_true_eq] at hok
  split at hok
  · rename_i hon
    split at hok
    · exact ⟨hon, hok⟩
    · cases hok
  · cases hok

/-- The victim goes; the kicker takes over from an owner other than himself. The victim of a ban is
on the ban list already. -/
theorem dropVictim_kept (ch : Channel) (good victim : Guid)
    (hloose : ({ ch with playersStore := ch.playersStore.erase victim } : Channel).Loose)
    (hgood : good ∈ ch.playersStore) (howned : OwnedBy ch.playersStore ch.ownerGUID)
    (hother : good = victim → ch.ownerGUID = victim → ∀ g ∈ ch.playersStore, g = victim) :
    (ch.dropVictim good victim).Kept ∧
      ∀ g, g ∈ (ch.dropVictim good victim).playersStore ↔ g ≠ victim ∧ g ∈ ch.playersStore := by
  have hmem : ∀ g, g ∈ ch.playersStore.erase victim ↔ g ≠ victim ∧ g ∈ ch.playersStore :=
    fun g => AList.mem_erase
  simp only [Channel.dropVictim]
  split
  · rename_i hchange
    obtain ⟨howner, -, hsome⟩ := hchange
    have hne : good ≠ victim := by
      intro heq
      obtain ⟨first, hfirst⟩ := Option.isSome_iff_exists.mp hsome
      obtain ⟨g, hg⟩ := PlayerContainer.begin?_spec hfirst
      obtain ⟨hgne, hg⟩ := lookup_of_erase hg
      exact hgne (hother heq howner g (PlayerContainer.mem_iff_lookup.mpr ⟨first, hg⟩))
    have hin : good ∈ ch.playersStore.erase victim := (hmem good).mpr ⟨hne, hgood⟩
    obtain ⟨hkept, hsame⟩ := hloose.handOver hin
    exact ⟨hkept, fun g => (hsame g).trans (hmem g)⟩
  · rename_i hnot
    refine ⟨⟨hloose, ?_⟩, hmem⟩
    rintro ⟨g, hg⟩
    by_cases howner : ch.ownerGUID = victim
    · -- the owner was not alone, so the branch above is the one taken
      have hsome : (PlayerContainer.begin? (ch.playersStore.erase victim)).isSome := by
        rw [Option.isSome_iff_ne_none, Ne, PlayerContainer.begin?_eq_none]
        exact fun hnone => hnone g hg
      exact absurd ⟨howner, hloose.ownership, hsome⟩ hnot
    · exact howned.erase howner

theorem Kept.kickOrBan (h : ch.Kept) {world : ObjectAccessor} {player : Player} {badname : Name}
    {ban : Bool} (hok : ch.kickOrBan world player badname ban = .ok ch')
    (hself : ∀ bad, world.findConnectedPlayerByName badname = some bad → bad.guid = player.guid →
      ch.ownerGUID = player.guid → ∀ g ∈ ch.playersStore, g = player.guid) :
    ch'.Kept ∧ ∃ bad, world.findConnectedPlayerByName badname = some bad ∧
      ∀ g, g ∈ ch'.playersStore ↔ g ≠ bad.guid ∧ g ∈ ch.playersStore := by
  obtain ⟨hgood, hok⟩ := asModerator_ok hok
  split at hok
  · rename_i bad hbad
    simp only [isOn, decide_eq_true_eq] at hok
    split at hok
    · split at hok
      · cases hok
      · have howned := h.owned ⟨_, hgood⟩
        have hother : player.guid = bad.guid → ch.ownerGUID = bad.guid →
            ∀ g ∈ ch.playersStore, g = bad.guid := by
          intro heq howner
          rw [← heq] at howner ⊢
          exact hself bad hbad heq.symm howner
        split at hok
        · rw [Except.ok.injEq] at hok
          subst hok
          have hloose := h.toLoose.erase bad.guid
          have hbanned : ∀ g ∈ insert bad.guid ch.bannedStore,
              g ∉ ch.playersStore.erase bad.guid := by
            intro g hg hin
            obtain ⟨hne, hin⟩ := AList.mem_erase.mp hin
            exact h.banned g (Finset.mem_of_mem_insert_of_ne hg hne) hin
          obtain ⟨hkept, hmem⟩ := dropVictim_kept
            { ch with bannedStore := insert bad.guid ch.bannedStore }.updateChannelInDB
            player.guid bad.guid
            ⟨by simpa using h.ownership, by simpa using hloose.keyed, by simpa using hbanned,
              by simpa using hloose.only⟩ (by simpa using hgood) (by simpa using howned)
            (by simpa using hother)
          exact ⟨hkept, bad, hbad, by simpa using hmem⟩
        · rw [Except.ok.injEq] at hok
          subst hok
          obtain ⟨hkept, hmem⟩ := dropVictim_kept ch player.guid bad.guid
            (h.toLoose.erase bad.guid) hgood howned hother
          exact ⟨hkept, bad, hbad, hmem⟩
    · cases hok
  · cases hok

theorem Kept.unBan (h : ch.Kept) {world : ObjectAccessor} {player : Player} {badname : Name}
    (hok : ch.unBan world player badname = .ok ch') :
    ch'.Kept ∧ ∀ g, g ∈ ch'.playersStore ↔ g ∈ ch.playersStore := by
  obtain ⟨-, hok⟩ := asModerator_ok hok
  split at hok
  · split at hok
    · rw [Except.ok.injEq] at hok
      subst hok
      refine ⟨⟨⟨by simpa using h.ownership, by simpa using h.keyed, fun g hg => ?_,
        by simpa using h.only⟩, by simpa using h.owned⟩, by simp⟩
      simp only [updateChannelInDB_bannedStore, updateChannelInDB_playersStore] at hg ⊢
      exact h.banned g (Finset.mem_of_mem_erase hg)
    · cases hok
  · cases hok

theorem Kept.modify (h : ch.Kept) {f : PlayerInfo → PlayerInfo} (hguid : guid ∈ ch.playersStore)
    (hplayer : ∀ info, (f info).player = info.player)
    (howner : ∀ info, (f info).isOwner = info.isOwner)
    (hmod : guid = ch.ownerGUID → ∀ info, info.isModerator → (f info).isModerator) :
    ({ ch with playersStore := PlayerContainer.modify ch.playersStore guid f } : Channel).Kept ∧
      ∀ g, g ∈ PlayerContainer.modify ch.playersStore guid f ↔ g ∈ ch.playersStore := by
  have hmem : ∀ g, g ∈ PlayerContainer.modify ch.playersStore guid f ↔ g ∈ ch.playersStore := by
    intro g
    rw [PlayerContainer.mem_modify]
    constructor
    · rintro (rfl | hg)
      exacts [hguid, hg]
    · exact .inr
  exact ⟨⟨⟨h.ownership, h.keyed.modify hguid hplayer,
    fun g hg hin => h.banned g hg ((hmem g).mp hin), h.only.modify hguid howner⟩,
    fun _ => (h.owned ⟨_, hguid⟩).modify hguid howner hmod⟩, hmem⟩

theorem Kept.setModerator (h : ch.Kept) (hguid : guid ∈ ch.playersStore) {set : Bool}
    (hset : guid ≠ ch.ownerGUID) :
    (ch.setModerator guid set).Kept ∧
      ∀ g, g ∈ (ch.setModerator guid set).playersStore ↔ g ∈ ch.playersStore := by
  obtain ⟨hread, hsame⟩ := h.modify (f := id) hguid (fun _ => rfl) (fun _ => rfl)
    fun _ _ hmod => hmod
  simp only [Channel.setModerator]
  split
  · obtain ⟨hwrite, hsame'⟩ := hread.modify (f := (·.setModerator set))
      ((hsame guid).mpr hguid) (fun info => PlayerInfo.player_setModerator info set)
      (fun info => PlayerInfo.isOwner_setModerator info set) fun heq => absurd heq hset
    exact ⟨hwrite, fun g => (hsame' g).trans (hsame g)⟩
  · exact ⟨hread, hsame⟩

theorem Kept.setMute (h : ch.Kept) (hguid : guid ∈ ch.playersStore) {set : Bool} :
    (ch.setMute guid set).Kept ∧
      ∀ g, g ∈ (ch.setMute guid set).playersStore ↔ g ∈ ch.playersStore := by
  obtain ⟨hread, hsame⟩ := h.modify (f := id) hguid (fun _ => rfl) (fun _ => rfl)
    fun _ _ hmod => hmod
  simp only [Channel.setMute]
  split
  · obtain ⟨hwrite, hsame'⟩ := hread.modify (f := (·.setMuted set))
      ((hsame guid).mpr hguid) (fun info => PlayerInfo.player_setMuted info set)
      (fun info => PlayerInfo.isOwner_setMuted info set) fun _ info hmod => by
        rw [PlayerInfo.isModerator_setMuted]
        exact hmod
    exact ⟨hwrite, fun g => (hsame' g).trans (hsame g)⟩
  · exact ⟨hread, hsame⟩

/-- **`SetMode`** changes nobody's membership, and does not take the owner's moderator flag: the
owner himself is turned away by his name, and others by his guid. -/
theorem Kept.setMode (h : ch.Kept) {world : ObjectAccessor} {player : Player} {typed p2n : Name}
    {mod set : Bool} (hplayer : player ∈ world.players)
    (hname : normalizePlayerName typed = some p2n)
    (hok : ch.setMode world player p2n mod set = .ok ch') :
    ch'.Kept ∧ ∀ g, g ∈ ch'.playersStore ↔ g ∈ ch.playersStore := by
  obtain ⟨-, hok⟩ := asModerator_ok hok
  split at hok
  · rw [Except.ok.injEq] at hok
    subst hok
    exact ⟨h, fun _ => Iff.rfl⟩
  rename_i hspared
  split at hok
  · rename_i newp hnewp
    simp only [isOn, decide_eq_true_eq] at hok
    split at hok
    · rename_i hon
      split at hok
      · cases hok
      · rename_i hother
        split at hok
        · rename_i hmod
          rw [Except.ok.injEq] at hok
          subst hok
          refine h.setModerator hon.1 fun heq => ?_
          -- then the owner acts on himself, under his own name
          have hself : newp.guid = player.guid := by
            by_contra hne
            exact hother ⟨heq.symm, fun heq' => hne (heq.trans heq')⟩
          exact hspared ⟨hself.symm.trans heq, world.find_name hplayer hname hnewp hself, hmod⟩
        · rw [Except.ok.injEq] at hok
          subst hok
          exact h.setMute hon.1
    · cases hok
  · cases hok

theorem Kept.setOwnerByName (h : ch.Kept) {world : ObjectAccessor} {player : Player}
    {newname : Name} (hok : ch.setOwnerByName world player newname = .ok ch') :
    ch'.Kept ∧ ∀ g, g ∈ ch'.playersStore ↔ g ∈ ch.playersStore := by
  simp only [Channel.setOwnerByName, isOn, decide_eq_true_eq] at hok
  split at hok
  · split at hok
    · cases hok
    · split at hok
      · split at hok
        · rename_i hon
          rw [Except.ok.injEq] at hok
          subst hok
          exact h.toLoose.handOver hon.1
        · cases hok
      · cases hok
  · cases hok

/-! ## 4. The two bad requests -/

theorem Kept.kickOrBan_self (h : ch.Kept) {world : ObjectAccessor} {player bad : Player}
    {badname : Name} (ban : Bool) (hbad : world.findConnectedPlayerByName badname = some bad)
    (hself : bad.guid = player.guid) (howner : ch.ownerGUID = player.guid)
    (hother : ∃ g ∈ ch.playersStore, g ≠ player.guid) :
    ∃ ch', ch.kickOrBan world player badname ban = .ok ch' ∧ player.guid ∈ ch'.playersStore := by
  obtain ⟨other, hin, hne⟩ := hother
  obtain ⟨info, hinfo, -, hmoderator⟩ := (h.owned ⟨other, hin⟩).flags
  rw [howner] at hinfo
  have hon : player.guid ∈ ch.playersStore := PlayerContainer.mem_iff_lookup.mpr ⟨info, hinfo⟩
  have hback : ∀ c : Channel, c.ownerGUID = player.guid → c.ownership = true →
      other ∈ c.playersStore → player.guid ∈ (c.dropVictim player.guid player.guid).playersStore := by
    intro c hc hownership hother
    have hsome : (PlayerContainer.begin? (c.playersStore.erase player.guid)).isSome := by
      rw [Option.isSome_iff_ne_none, Ne, PlayerContainer.begin?_eq_none]
      exact fun hnone => hnone other (AList.mem_erase.mpr ⟨hne, hother⟩)
    simp only [Channel.dropVictim]
    rw [if_pos ⟨hc, hownership, hsome⟩]
    simp only [Channel.setOwner]
    rw [if_pos player.guid_ne, updateChannelInDB_playersStore]
    simp
  have hpasses : ¬ (¬ player.changeNotModerator = true ∧ ch.ownerGUID = player.guid ∧
      player.guid ≠ ch.ownerGUID) := fun hall => hall.2.2 howner.symm
  simp only [Channel.kickOrBan, Channel.asModerator, isOn, hon, decide_true, if_true, hbad, hself,
    PlayerContainer.index_of_lookup hinfo, hmoderator, true_or]
  rw [if_neg hpasses]
  split
  · exact ⟨_, rfl, hback _ (by simpa using howner) (by simpa using h.ownership) (by simpa using hin)⟩
  · exact ⟨_, rfl, hback ch howner h.ownership hin⟩

theorem joinChannel_stale {player : Player} {pass : Name} (hempty : ∀ g, g ∉ ch.playersStore)
    (hstale : ch.ownerGUID ≠ 0) (hban : player.guid ∉ ch.bannedStore)
    (hpass : ¬ (ch.password ≠ [] ∧ pass ≠ ch.password)) :
    ∃ ch', ch.joinChannel player pass = .ok ch' ∧ (∃ g, g ∈ ch'.playersStore) ∧
      ¬ OwnedBy ch'.playersStore ch'.ownerGUID := by
  refine ⟨{ ch with
    playersStore := ch.playersStore.insert player.guid ⟨player.guid, MEMBER_FLAG_NONE⟩ }, ?_,
    ⟨player.guid, AList.mem_insert _ |>.mpr (.inl rfl)⟩, ?_⟩
  · simp only [Channel.joinChannel, isOn, isBanned, hempty, hban, decide_false, Bool.false_eq_true,
      if_false, hstale, false_and]
    rw [if_neg hpass]
  · rintro ⟨⟨info, hinfo, howner, -⟩, -⟩
    simp only at hinfo
    by_cases heq : ch.ownerGUID = player.guid
    · rw [heq, AList.lookup_insert, Option.some.injEq] at hinfo
      rw [← hinfo, PlayerInfo.isOwner_new] at howner
      cases howner
    · rw [AList.lookup_insert_ne heq] at hinfo
      exact hempty _ (PlayerContainer.mem_iff_lookup.mpr ⟨info, hinfo⟩)

end Channel

/-! ## 5. The channel under its name -/

/-- What the manager has under the name of a custom channel: the channel when there is one, and the
row of the database that a new one is made from when `preserve` is set. -/
structure ChannelMgr where
  preserve : Bool
  ownership : Bool
  channel : Option Channel
  row : Finset Guid

def ChannelMgr.newChannel (mgr : ChannelMgr) : Channel where
  ownership := mgr.ownership
  isSaved := mgr.preserve
  password := []
  ownerGUID := 0
  playersStore := ∅
  bannedStore := if mgr.preserve then mgr.row.erase 0 else ∅
  storedBans := mgr.row

def ChannelMgr.getJoinChannel (mgr : ChannelMgr) : Channel := mgr.channel.getD mgr.newChannel

def ChannelMgr.leftChannel (mgr : ChannelMgr) : ChannelMgr :=
  match mgr.channel with
  | some ch =>
    if ch.playersStore.keys.length = 0 then { mgr with channel := none, row := ch.storedBans }
    else mgr
  | none => mgr

/-- The packets of a client about the channel; `leave` is also what happens at a logout. -/
inductive Request
  | join (password : Name)
  | leave
  | kick (targetName : Name)
  | ban (targetName : Name)
  | unBan (targetName : Name)
  | setOwner (targetName : Name)
  | setModerator (targetName : Name)
  | unsetModerator (targetName : Name)
  | setMute (targetName : Name)
  | unsetMute (targetName : Name)

structure Call where
  world : ObjectAccessor
  actor : Player
  connected : actor ∈ world.players
  request : Request

namespace Call

variable (call : Call)

/-- The handlers normalize the name first, and give up without a word when they cannot. -/
def withName (ch : Channel) (targetName : Name) (f : Name → Except ChatNotify Channel) :
    Except ChatNotify Channel :=
  match normalizePlayerName targetName with
  | some name => f name
  | none => .ok ch

def onChannel (ch : Channel) : Except ChatNotify Channel :=
  match call.request with
  | .join password => ch.joinChannel call.actor password
  | .leave => ch.leaveChannel call.actor
  | .kick targetName =>
    withName ch targetName fun name => ch.kickOrBan call.world call.actor name false
  | .ban targetName =>
    withName ch targetName fun name => ch.kickOrBan call.world call.actor name true
  | .unBan targetName => withName ch targetName fun name => ch.unBan call.world call.actor name
  | .setOwner targetName =>
    withName ch targetName fun name => ch.setOwnerByName call.world call.actor name
  | .setModerator targetName =>
    withName ch targetName fun name => ch.setMode call.world call.actor name true true
  | .unsetModerator targetName =>
    withName ch targetName fun name => ch.setMode call.world call.actor name true false
  | .setMute targetName =>
    withName ch targetName fun name => ch.setMode call.world call.actor name false true
  | .unsetMute targetName =>
    withName ch targetName fun name => ch.setMode call.world call.actor name false false

def after (ch : Channel) : Channel := (call.onChannel ch).toOption.getD ch

/-- The connected player whom a name that was typed finds. -/
def found (targetName : Name) : Option Player :=
  (normalizePlayerName targetName).bind call.world.findConnectedPlayerByName

end Call

def ChannelMgr.met (mgr : ChannelMgr) (call : Call) : Option Channel :=
  match call.request with
  | .join _ => some mgr.getJoinChannel
  | _ => mgr.channel

def ChannelMgr.step (mgr : ChannelMgr) (call : Call) : ChannelMgr :=
  let mgr' := { mgr with channel := (mgr.met call).map call.after }
  match call.request with
  | .leave => mgr'.leftChannel
  | _ => mgr'

/-! ## 6. What is claimed -/

/-- The manager's entry together with the players who should be in the channel. -/
structure Tracked where
  mgr : ChannelMgr
  present : Finset Guid

/-- Who should be in the channel after a request: an accepted join brings a player in, an accepted
leave, kick or ban takes one out. -/
def Call.present (call : Call) (ch : Channel) (present : Finset Guid) : Finset Guid :=
  match call.onChannel ch, call.request with
  | .ok _, .join _ => insert call.actor.guid present
  | .ok _, .leave => present.erase call.actor.guid
  | .ok _, .kick targetName => (call.found targetName).elim present (present.erase ·.guid)
  | .ok _, .ban targetName => (call.found targetName).elim present (present.erase ·.guid)
  | _, _ => present

namespace Tracked

def step (t : Tracked) (call : Call) : Tracked where
  mgr := t.mgr.step call
  present := (t.mgr.met call).elim t.present (call.present · t.present)

/-- **The records are right.** -/
structure Sound (t : Tracked) : Prop where
  members : ∀ g, g ∈ t.present ↔ ∃ ch ∈ t.mgr.channel, g ∈ ch.playersStore
  banned : ∀ ch ∈ t.mgr.channel, ∀ g ∈ ch.bannedStore, g ∉ ch.playersStore
  owned : ∀ ch ∈ t.mgr.channel, (∃ g, g ∈ ch.playersStore) →
    OwnedBy ch.playersStore ch.ownerGUID

end Tracked

/-- The request is neither an owner's kick or ban of himself with others in the channel, nor a join
that is let into an empty channel with an owner still recorded. -/
def Call.SafeOn (call : Call) (ch : Channel) : Prop :=
  match call.request with
  | .join password => (∃ g, g ∈ ch.playersStore) ∨ ch.ownerGUID = 0 ∨
      call.actor.guid ∈ ch.bannedStore ∨ (ch.password ≠ [] ∧ password ≠ ch.password)
  | .kick targetName | .ban targetName =>
    ∀ bad, call.found targetName = some bad → bad.guid = call.actor.guid →
      ch.ownerGUID = call.actor.guid → ∀ g ∈ ch.playersStore, g = call.actor.guid
  | _ => True

/-- So much for the channel that the request reaches. -/
def Tracked.Safe (t : Tracked) (call : Call) : Prop := ∀ ch ∈ t.mgr.met call, call.SafeOn ch

/-! ## 7. Every run -/

/-- What holds between requests: the records are right, and the channel is one with ownership whose
entries name their players. -/
structure Tracked.Inv (t : Tracked) : Prop where
  ownership : t.mgr.ownership = true
  kept : ∀ ch ∈ t.mgr.channel, ch.Kept
  members : ∀ g, g ∈ t.present ↔ ∃ ch ∈ t.mgr.channel, g ∈ ch.playersStore

theorem Tracked.Inv.sound {t : Tracked} (h : t.Inv) : t.Sound :=
  ⟨h.members, fun ch hch => (h.kept ch hch).banned, fun ch hch => (h.kept ch hch).owned⟩

namespace Call

variable {call : Call} {ch ch' : Channel} {present : Finset Guid}

theorem after_of_ok (h : call.onChannel ch = .ok ch') : call.after ch = ch' := by
  rw [after, h]
  rfl

theorem after_of_error {notice : ChatNotify} (h : call.onChannel ch = .error notice) :
    call.after ch = ch := by
  rw [after, h]
  rfl

theorem withName_ok {targetName : Name} {f : Name → Except ChatNotify Channel}
    (h : withName ch targetName f = .ok ch') :
    normalizePlayerName targetName = none ∧ ch' = ch ∨
      ∃ name, normalizePlayerName targetName = some name ∧ f name = .ok ch' := by
  unfold withName at h
  split at h
  · rename_i name hname
    exact .inr ⟨name, hname, h⟩
  · rename_i hname
    exact .inl ⟨hname, (Except.ok.inj h).symm⟩

theorem kickOrBan_spec (h : ch.Kept) {targetName : Name} {ban : Bool}
    (hsafe : ∀ bad, call.found targetName = some bad → bad.guid = call.actor.guid →
      ch.ownerGUID = call.actor.guid → ∀ g ∈ ch.playersStore, g = call.actor.guid)
    (hok : withName ch targetName (fun name => ch.kickOrBan call.world call.actor name ban) =
      .ok ch')
    (hmem : ∀ g, g ∈ present ↔ g ∈ ch.playersStore) :
    ch'.Kept ∧ ∀ g, g ∈ (call.found targetName).elim present (present.erase ·.guid) ↔
      g ∈ ch'.playersStore := by
  rcases withName_ok hok with ⟨hname, rfl⟩ | ⟨name, hname, hkick⟩
  · exact ⟨h, fun g => by simpa [found, hname] using hmem g⟩
  · obtain ⟨hkept, bad, hbad, hsame⟩ := h.kickOrBan hkick fun bad hbad =>
      hsafe bad (by rw [found, hname]; exact hbad)
    refine ⟨hkept, fun g => ?_⟩
    have hfound : call.found targetName = some bad := by rw [found, hname]; exact hbad
    rw [hfound, Option.elim_some, Finset.mem_erase, hsame, hmem]

theorem withName_spec (h : ch.Kept) {targetName : Name} {f : Name → Except ChatNotify Channel}
    (hf : ∀ name, normalizePlayerName targetName = some name → f name = .ok ch' →
      ch'.Kept ∧ ∀ g, g ∈ ch'.playersStore ↔ g ∈ ch.playersStore)
    (hok : withName ch targetName f = .ok ch') (hmem : ∀ g, g ∈ present ↔ g ∈ ch.playersStore) :
    ch'.Kept ∧ ∀ g, g ∈ present ↔ g ∈ ch'.playersStore := by
  rcases withName_ok hok with ⟨-, rfl⟩ | ⟨name, hname, hrequest⟩
  · exact ⟨h, hmem⟩
  · obtain ⟨hkept, hsame⟩ := hf name hname hrequest
    exact ⟨hkept, fun g => (hmem g).trans (hsame g).symm⟩

theorem after_spec (h : ch.Kept) (hsafe : call.SafeOn ch)
    (hmem : ∀ g, g ∈ present ↔ g ∈ ch.playersStore) :
    (call.after ch).Kept ∧
      ∀ g, g ∈ call.present ch present ↔ g ∈ (call.after ch).playersStore := by
  cases hok : call.onChannel ch with
  | error notice =>
    rw [after_of_error hok]
    exact ⟨h, fun g => by simpa [Call.present, hok] using hmem g⟩
  | ok ch' =>
    rw [after_of_ok hok]
    unfold Call.present SafeOn at *
    rw [hok]
    unfold onChannel at hok
    cases hrequest : call.request with
    | join password =>
      simp only [hrequest] at hok hsafe ⊢
      obtain ⟨hsame, hkept⟩ := h.joinChannel hok
      refine ⟨?_, fun g => by rw [Finset.mem_insert, hsame, hmem]⟩
      rcases hsafe with hex | howner | hban | hpass
      · exact hkept (.inl hex)
      · exact hkept (.inr howner)
      · simp [Channel.joinChannel, Channel.isBanned, hban] at hok
        split at hok <;> cases hok
      · simp only [Channel.joinChannel, if_pos hpass] at hok
        split at hok
        · cases hok
        · split at hok <;> cases hok
    | leave =>
      simp only [hrequest] at hok hsafe ⊢
      obtain ⟨hkept, hsame⟩ := h.leaveChannel hok
      exact ⟨hkept, fun g => by rw [Finset.mem_erase, hsame, hmem]⟩
    | kick targetName =>
      simp only [hrequest] at hok hsafe ⊢
      exact kickOrBan_spec h hsafe hok hmem
    | ban targetName =>
      simp only [hrequest] at hok hsafe ⊢
      exact kickOrBan_spec h hsafe hok hmem
    | unBan targetName =>
      simp only [hrequest] at hok ⊢
      exact withName_spec h (fun name _ hreq => h.unBan hreq) hok hmem
    | setOwner targetName =>
      simp only [hrequest] at hok ⊢
      exact withName_spec h (fun name _ hreq => h.setOwnerByName hreq) hok hmem
    | setModerator targetName | unsetModerator targetName | setMute targetName
    | unsetMute targetName =>
      simp only [hrequest] at hok ⊢
      exact withName_spec h (fun name hname hreq => h.setMode call.connected hname hreq) hok hmem

end Call

namespace Tracked

variable {t : Tracked} {call : Call}

theorem Inv.met (h : t.Inv) {ch : Channel} (hch : ch ∈ t.mgr.met call) :
    ch.Kept ∧ ∀ g, g ∈ t.present ↔ g ∈ ch.playersStore := by
  have hold : ∀ ch ∈ t.mgr.channel, ch.Kept ∧ ∀ g, g ∈ t.present ↔ g ∈ ch.playersStore := by
    intro ch hch
    refine ⟨h.kept ch hch, fun g => ?_⟩
    rw [h.members, Option.mem_def.mp hch]
    simp
  have hjoin : t.mgr.getJoinChannel.Kept ∧
      ∀ g, g ∈ t.present ↔ g ∈ t.mgr.getJoinChannel.playersStore := by
    unfold ChannelMgr.getJoinChannel
    cases hchannel : t.mgr.channel with
    | some ch => exact hold ch hchannel
    | none =>
      have hempty : ∀ g, g ∉ t.mgr.newChannel.playersStore := fun g => AList.notMem_empty g
      have hlookup : ∀ g info, t.mgr.newChannel.playersStore.lookup g ≠ some info :=
        fun g info hg => hempty g (PlayerContainer.mem_iff_lookup.mpr ⟨info, hg⟩)
      refine ⟨⟨⟨h.ownership, fun g info hg => absurd hg (hlookup g info), fun g _ => hempty g,
        fun g info hg => absurd hg (hlookup g info)⟩, fun ⟨g, hg⟩ => absurd hg (hempty g)⟩, ?_⟩
      intro g
      rw [h.members, hchannel]
      simpa using hempty g
  unfold ChannelMgr.met at hch
  split at hch
  · rw [Option.mem_def, Option.some.injEq] at hch
    rwa [← hch]
  · exact hold ch hch

theorem Inv.after (h : t.Inv) (hsafe : t.Safe call) :
    ({ mgr := { t.mgr with channel := (t.mgr.met call).map call.after },
       present := (t.mgr.met call).elim t.present (call.present · t.present) } : Tracked).Inv := by
  cases hmet : t.mgr.met call with
  | none =>
    refine ⟨h.ownership, by simp, fun g => ?_⟩
    have hnone : t.mgr.channel = none := by
      unfold ChannelMgr.met at hmet
      split at hmet
      · cases hmet
      · exact hmet
    simp [h.members, hnone]
  | some ch =>
    obtain ⟨hkept, hmem⟩ := h.met hmet
    obtain ⟨hkept', hmem'⟩ := Call.after_spec hkept (hsafe ch hmet) hmem
    exact ⟨h.ownership, by simpa using hkept', fun g => by simpa using hmem' g⟩

theorem Inv.leftChannel (h : t.Inv) : ({ t with mgr := t.mgr.leftChannel } : Tracked).Inv := by
  simp only [ChannelMgr.leftChannel]
  split
  · rename_i ch hch
    split
    · rename_i hlen
      have hempty : ∀ g, g ∉ ch.playersStore := by
        intro g hg
        rw [AList.mem_keys, List.length_eq_zero_iff.mp hlen] at hg
        cases hg
      refine ⟨h.ownership, by simp, fun g => ?_⟩
      simp only [h.members, hch, Option.mem_def, Option.some.injEq, exists_eq_left']
      simpa using hempty g
    · exact h
  · exact h

theorem Inv.step (h : t.Inv) (hsafe : t.Safe call) : (t.step call).Inv := by
  have hafter := h.after hsafe
  unfold Tracked.step ChannelMgr.step
  split
  · exact hafter.leftChannel
  · exact hafter

theorem step_present {ch : Channel} (hmet : t.mgr.met call = some ch) :
    (t.step call).present = call.present ch t.present := by
  simp only [Tracked.step, hmet, Option.elim_some]

theorem step_channel {ch : Channel} (hmet : t.mgr.met call = some ch)
    (hleave : call.request ≠ .leave) : (t.step call).mgr.channel = some (call.after ch) := by
  simp only [Tracked.step, ChannelMgr.step, hmet, Option.map_some]

theorem not_sound_of_back {ch ch' : Channel} {bad : Player} {targetName : Name}
    (hmet : t.mgr.met call = some ch) (hok : call.onChannel ch = .ok ch')
    (hrequest : call.request = .kick targetName ∨ call.request = .ban targetName)
    (hbad : call.found targetName = some bad) (hback : bad.guid ∈ ch'.playersStore) :
    ¬ (t.step call).Sound := by
  intro hsound
  have hchannel : (t.step call).mgr.channel = some ch' := by
    rw [step_channel hmet (by rcases hrequest with h | h <;> rw [h] <;> simp),
      Call.after_of_ok hok]
  have hpresent : (t.step call).present = t.present.erase bad.guid := by
    rw [step_present hmet]
    rcases hrequest with h | h <;> simp [Call.present, hok, h, hbad]
  have hin := (hsound.members bad.guid).mpr ⟨ch', hchannel, hback⟩
  rw [hpresent] at hin
  exact Finset.notMem_erase _ _ hin

theorem Inv.not_sound (h : t.Inv) (hbroken : ¬ t.Safe call) : ¬ (t.step call).Sound := by
  simp only [Safe, not_forall] at hbroken
  obtain ⟨ch, hmet, hbroken⟩ := hbroken
  obtain ⟨hkept, -⟩ := h.met hmet
  have hkick : ∀ targetName ban, (∀ bad, call.found targetName = some bad →
      bad.guid = call.actor.guid → ch.ownerGUID = call.actor.guid →
        ∀ g ∈ ch.playersStore, g = call.actor.guid) ∨
      ∃ ch' bad, Call.withName ch targetName (fun name =>
        ch.kickOrBan call.world call.actor name ban) = .ok ch' ∧
          call.found targetName = some bad ∧ bad.guid ∈ ch'.playersStore := by
    intro targetName ban
    by_contra! hnot
    obtain ⟨⟨bad, hbad, hself, howner, hother⟩, hno⟩ := hnot
    obtain ⟨name, hname, hfind⟩ := Option.bind_eq_some_iff.mp hbad
    obtain ⟨ch', hok, hback⟩ := hkept.kickOrBan_self ban hfind hself howner hother
    exact hno ch' bad (by rw [Call.withName, hname]; exact hok) hbad (hself ▸ hback)
  unfold Call.SafeOn at hbroken
  cases hrequest : call.request with
  | join password =>
    simp only [hrequest, not_or, not_exists] at hbroken
    obtain ⟨hempty, hstale, hban, hpass⟩ := hbroken
    obtain ⟨ch', hok, hex, hnot⟩ := Channel.joinChannel_stale hempty hstale hban hpass
    intro hsound
    refine hnot (hsound.owned ch' ?_ hex)
    rw [Option.mem_def, step_channel hmet (by rw [hrequest]; simp), Call.after_of_ok]
    simpa [Call.onChannel, hrequest] using hok
  | kick targetName =>
    simp only [hrequest] at hbroken
    obtain ⟨ch', bad, hok, hbad, hback⟩ := (hkick targetName false).resolve_left hbroken
    exact not_sound_of_back hmet (by simpa only [Call.onChannel, hrequest] using hok)
      (.inl hrequest) hbad hback
  | ban targetName =>
    simp only [hrequest] at hbroken
    obtain ⟨ch', bad, hok, hbad, hback⟩ := (hkick targetName true).resolve_left hbroken
    exact not_sound_of_back hmet (by simpa only [Call.onChannel, hrequest] using hok)
      (.inr hrequest) hbad hback
  | leave | unBan _ | setOwner _ | setModerator _ | unsetModerator _ | setMute _ | unsetMute _ =>
    simp only [hrequest, not_true_eq_false] at hbroken

/-- **The records of a channel with ownership stay right exactly as long as every request is
safe.** -/
theorem sound_iff_safe (preserve : Bool) (row : Finset Guid) (calls : List Call) :
    States step Sound ⟨⟨preserve, true, none, row⟩, ∅⟩ calls ↔
      Steps step Safe ⟨⟨preserve, true, none, row⟩, ∅⟩ calls :=
  States.iff_steps (I := Inv) (fun _ h => h.sound) (fun _ _ h hsafe => h.step hsafe)
    (fun _ _ h hbroken => h.not_sound hbroken) ⟨rfl, by simp, by simp⟩ calls

/-- Two players, named `Ab` and `Cd`, of one team and without special permissions. -/
def twoPlayers : ObjectAccessor where
  players := [
    ⟨1, [0x41, 0x62], 0, false, false, by decide, [0x61, 0x62], by decide⟩,
    ⟨2, [0x43, 0x64], 0, false, false, by decide, [0x63, 0x64], by decide⟩]
  inj := by
    intro p hp q hq
    simp only [List.mem_cons, List.not_mem_nil, or_false] at hp hq
    rcases hp with rfl | rfl <;> rcases hq with rfl | rfl <;> simp

/-- Both join, and the first, who owns the channel, kicks himself. -/
def ownerKicksHimself : List Call :=
  [⟨twoPlayers, twoPlayers.players[0], by simp, .join []⟩,
   ⟨twoPlayers, twoPlayers.players[1], by simp, .join []⟩,
   ⟨twoPlayers, twoPlayers.players[0], by simp, .kick [0x61, 0x62]⟩]

/-- He is a member again, and should not be one. -/
theorem ownerKicksHimself_not_sound :
    ¬ States step Sound ⟨⟨false, true, none, ∅⟩, ∅⟩ ownerKicksHimself := by
  intro h
  have hmembers := h.exec.members 1
  revert hmembers
  decide +kernel

end Tracked

end FunPvp.Chat
