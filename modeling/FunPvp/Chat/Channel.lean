/-
# A custom chat channel

A channel keeps its members in the map `playersStore`, with a byte of flags for each, the guids of
the banned players in `bannedStore`, and the owner's guid in `_ownerGUID`. The owner is recorded
twice: by that guid, and by the flag `MEMBER_FLAG_OWNER` of his entry.

Two ways of reading the member map stand side by side in the source: `find`, and the index
operator, which makes an entry of zeros when there is none. `PlayerContainer.modify` is the second.

The functions are those of a custom channel (`IsConstant()` is false, `CHANNEL_FLAG_LFG` is not
set). A refused request returns the notice that is sent to the player and leaves the channel as it
is; what is announced to the members is left out.
-/
import Mathlib

namespace FunPvp.Chat

/-! ## 1. Names -/

/-- The wide string of a name, as the code points that `Utf8toWStr` makes of it. -/
abbrev Name := List ℕ

def wcharToUpper (wchar : ℕ) : ℕ :=
  if 0x61 ≤ wchar ∧ wchar ≤ 0x7A then wchar - 0x20
  else if wchar = 0x00DF then 0x1E9E
  else if 0x00E0 ≤ wchar ∧ wchar ≤ 0x00F6 then wchar - 0x20
  else if 0x00F8 ≤ wchar ∧ wchar ≤ 0x00FE then wchar - 0x20
  else if 0x0101 ≤ wchar ∧ wchar ≤ 0x012F ∧ wchar % 2 = 1 then wchar - 1
  else if 0x0430 ≤ wchar ∧ wchar ≤ 0x044F then wchar - 0x20
  else if wchar = 0x0451 then 0x0401
  else wchar

def wcharToLower (wchar : ℕ) : ℕ :=
  if 0x41 ≤ wchar ∧ wchar ≤ 0x5A then wchar + 0x20
  else if 0x00C0 ≤ wchar ∧ wchar ≤ 0x00D6 then wchar + 0x20
  else if 0x00D8 ≤ wchar ∧ wchar ≤ 0x00DE then wchar + 0x20
  else if 0x0100 ≤ wchar ∧ wchar ≤ 0x012E ∧ wchar % 2 = 0 then wchar + 1
  else if wchar = 0x1E9E then 0x00DF
  else if wchar = 0x0401 then 0x0451
  else if 0x0410 ≤ wchar ∧ wchar ≤ 0x042F then wchar + 0x20
  else wchar

def MAX_INTERNAL_PLAYER_NAME : ℕ := 15

/-- `normalizePlayerName`: the first letter big, the others small. -/
def normalizePlayerName (name : Name) : Option Name :=
  match name with
  | [] => none
  | c :: cs =>
    if name.length ≤ MAX_INTERNAL_PLAYER_NAME then some (wcharToUpper c :: cs.map wcharToLower)
    else none

/-- `::tolower`, which knows the basic letters only. -/
def tolower (c : ℕ) : ℕ := if 0x41 ≤ c ∧ c ≤ 0x5A then c + 0x20 else c

theorem wcharToUpper_not_small (c : ℕ) : ¬ (0x61 ≤ wcharToUpper c ∧ wcharToUpper c ≤ 0x7A) := by
  unfold wcharToUpper
  split_ifs <;> omega

theorem wcharToLower_not_big (c : ℕ) : ¬ (0x41 ≤ wcharToLower c ∧ wcharToLower c ≤ 0x5A) := by
  unfold wcharToLower
  split_ifs <;> omega

theorem wcharToUpper_eq_of_tolower {c d : ℕ}
    (h : tolower (wcharToUpper c) = tolower (wcharToUpper d)) :
    wcharToUpper c = wcharToUpper d := by
  have hc := wcharToUpper_not_small c
  have hd := wcharToUpper_not_small d
  unfold tolower at h
  split_ifs at h <;> omega

theorem tolower_wcharToLower (c : ℕ) : tolower (wcharToLower c) = wcharToLower c :=
  if_neg (wcharToLower_not_big c)

theorem normalizePlayerName_eq_of_tolower {typed typed' name name' : Name}
    (h : normalizePlayerName typed = some name) (h' : normalizePlayerName typed' = some name')
    (heq : name.map tolower = name'.map tolower) : name = name' := by
  match typed, typed' with
  | [], _ => exact absurd h (by simp [normalizePlayerName])
  | _ :: _, [] => exact absurd h' (by simp [normalizePlayerName])
  | c :: cs, d :: ds =>
    simp only [normalizePlayerName, Option.ite_none_right_eq_some, Option.some.injEq] at h h'
    obtain ⟨-, rfl⟩ := h
    obtain ⟨-, rfl⟩ := h'
    simp only [List.map_cons, List.map_map, List.cons.injEq] at heq ⊢
    refine ⟨wcharToUpper_eq_of_tolower heq.1, ?_⟩
    have hsmall : tolower ∘ wcharToLower = wcharToLower := funext tolower_wcharToLower
    rw [hsmall] at heq
    exact heq.2

/-! ## 2. Players -/

/-- An `ObjectGuid`; 0 is `ObjectGuid::Empty`. -/
abbrev Guid := ℕ

/-- What a channel asks of a player. Every stored name went through `normalizePlayerName` when the
character was made or renamed. -/
structure Player where
  guid : Guid
  name : Name
  team : ℕ
  /-- `RBAC_PERM_CHANGE_CHANNEL_NOT_MODERATOR`. -/
  changeNotModerator : Bool
  /-- `RBAC_PERM_TWO_SIDE_INTERACTION_CHANNEL`. -/
  twoSideInteraction : Bool
  guid_ne : guid ≠ 0
  normalized : ∃ typed, normalizePlayerName typed = some name

structure ObjectAccessor where
  players : List Player
  inj : ∀ p ∈ players, ∀ q ∈ players, p.guid = q.guid → p = q

def ObjectAccessor.findConnectedPlayerByName (world : ObjectAccessor) (name : Name) :
    Option Player :=
  world.players.find? fun p => name.map tolower == p.name.map tolower

theorem ObjectAccessor.find_spec {world : ObjectAccessor} {typed name : Name} {p : Player}
    (hname : normalizePlayerName typed = some name)
    (h : world.findConnectedPlayerByName name = some p) : p ∈ world.players ∧ p.name = name := by
  obtain ⟨typed', htyped⟩ := p.normalized
  have hfound := List.find?_some h
  simp only [beq_iff_eq] at hfound
  exact ⟨List.mem_of_find?_eq_some h,
    (normalizePlayerName_eq_of_tolower hname htyped hfound).symm⟩

theorem ObjectAccessor.find_name {world : ObjectAccessor} {typed name : Name} {p actor : Player}
    (hactor : actor ∈ world.players) (hname : normalizePlayerName typed = some name)
    (h : world.findConnectedPlayerByName name = some p) (hguid : p.guid = actor.guid) :
    name = actor.name := by
  obtain ⟨hp, rfl⟩ := world.find_spec hname h
  rw [world.inj p hp actor hactor hguid]

/-! ## 3. Members -/

/-- `ChannelMemberFlags`, the three that a request sets. -/
def MEMBER_FLAG_NONE : BitVec 8 := 0x00#8
def MEMBER_FLAG_OWNER : BitVec 8 := 0x01#8
def MEMBER_FLAG_MODERATOR : BitVec 8 := 0x02#8
def MEMBER_FLAG_MUTED : BitVec 8 := 0x08#8

structure PlayerInfo where
  player : Guid
  flags : BitVec 8

namespace PlayerInfo

def hasFlag (info : PlayerInfo) (flag : BitVec 8) : Bool := info.flags &&& flag != 0

def setFlag (info : PlayerInfo) (flag : BitVec 8) (state : Bool) : PlayerInfo :=
  { info with flags := if state then info.flags ||| flag else info.flags &&& ~~~flag }

def isOwner (info : PlayerInfo) : Bool := info.hasFlag MEMBER_FLAG_OWNER
def isModerator (info : PlayerInfo) : Bool := info.hasFlag MEMBER_FLAG_MODERATOR
def isMuted (info : PlayerInfo) : Bool := info.hasFlag MEMBER_FLAG_MUTED
def setOwner (info : PlayerInfo) : Bool → PlayerInfo := info.setFlag MEMBER_FLAG_OWNER
def setModerator (info : PlayerInfo) : Bool → PlayerInfo := info.setFlag MEMBER_FLAG_MODERATOR
def setMuted (info : PlayerInfo) : Bool → PlayerInfo := info.setFlag MEMBER_FLAG_MUTED

theorem hasFlag_setFlag_self {flag : BitVec 8} (hflag : flag ≠ 0) (info : PlayerInfo)
    (state : Bool) : (info.setFlag flag state).hasFlag flag = state := by
  cases state
  · have h : info.flags &&& ~~~flag &&& flag = 0 := by
      ext i hi
      simp
    simp [hasFlag, setFlag, h]
  · have h : (info.flags ||| flag) &&& flag = flag := by
      ext i hi
      simp only [BitVec.getElem_and, BitVec.getElem_or]
      cases info.flags[i] <;> cases flag[i] <;> rfl
    simpa [hasFlag, setFlag, h] using hflag

theorem hasFlag_setFlag_of_disjoint {flag flag' : BitVec 8} (hflag : flag &&& flag' = 0)
    (info : PlayerInfo) (state : Bool) :
    (info.setFlag flag state).hasFlag flag' = info.hasFlag flag' := by
  have hbit : ∀ i (hi : i < 8), flag[i] = true → flag'[i] = false := by
    intro i hi hset
    have := congrArg (fun b : BitVec 8 => b[i]) hflag
    simpa [hset] using this
  cases state
  · have h : info.flags &&& ~~~flag &&& flag' = info.flags &&& flag' := by
      ext i hi
      have := hbit i hi
      cases hset : flag[i] <;> simp_all
    simp [hasFlag, setFlag, h]
  · have h : (info.flags ||| flag) &&& flag' = info.flags &&& flag' := by
      ext i hi
      have := hbit i hi
      cases hset : flag[i] <;> simp_all
    simp [hasFlag, setFlag, h]

variable (info : PlayerInfo) (state : Bool)

@[simp] theorem isOwner_setOwner : (info.setOwner state).isOwner = state :=
  hasFlag_setFlag_self (by decide) info state

@[simp] theorem isModerator_setModerator : (info.setModerator state).isModerator = state :=
  hasFlag_setFlag_self (by decide) info state

@[simp] theorem isModerator_setOwner : (info.setOwner state).isModerator = info.isModerator :=
  hasFlag_setFlag_of_disjoint (by decide) info state

@[simp] theorem isOwner_setModerator : (info.setModerator state).isOwner = info.isOwner :=
  hasFlag_setFlag_of_disjoint (by decide) info state

@[simp] theorem isOwner_setMuted : (info.setMuted state).isOwner = info.isOwner :=
  hasFlag_setFlag_of_disjoint (by decide) info state

@[simp] theorem isModerator_setMuted : (info.setMuted state).isModerator = info.isModerator :=
  hasFlag_setFlag_of_disjoint (by decide) info state

@[simp] theorem isOwner_new (guid : Guid) :
    (⟨guid, MEMBER_FLAG_NONE⟩ : PlayerInfo).isOwner = false := by
  simp [isOwner, hasFlag, MEMBER_FLAG_NONE]

@[simp] theorem player_setOwner : (info.setOwner state).player = info.player := rfl

@[simp] theorem player_setModerator : (info.setModerator state).player = info.player := rfl

@[simp] theorem player_setMuted : (info.setMuted state).player = info.player := rfl

end PlayerInfo

/-- `PlayerContainer`, a `std::map`. -/
abbrev PlayerContainer := AList fun _ : Guid => PlayerInfo

namespace PlayerContainer

variable (store : PlayerContainer)

/-- `begin()->second`: the entry with the least guid. -/
def begin? : Option PlayerInfo := store.keys.min?.bind store.lookup

def index (guid : Guid) : PlayerInfo := (store.lookup guid).getD ⟨0, MEMBER_FLAG_NONE⟩

/-- `playersStore[guid].Set…`: an entry of zeros is made when there is none. -/
def modify (guid : Guid) (f : PlayerInfo → PlayerInfo) : PlayerContainer :=
  store.insert guid (f (index store guid))

/-- `Set…` through an iterator that `find` returned. -/
def modifyFound (guid : Guid) (f : PlayerInfo → PlayerInfo) : PlayerContainer :=
  match store.lookup guid with
  | some info => store.insert guid (f info)
  | none => store

@[simp] theorem mem_modify {guid g : Guid} {f : PlayerInfo → PlayerInfo} :
    g ∈ modify store guid f ↔ g = guid ∨ g ∈ store := AList.mem_insert _

@[simp] theorem mem_modifyFound {guid g : Guid} {f : PlayerInfo → PlayerInfo} :
    g ∈ modifyFound store guid f ↔ g ∈ store := by
  unfold modifyFound
  cases h : store.lookup guid with
  | none => exact Iff.rfl
  | some info =>
    have hmem : guid ∈ store := AList.lookup_isSome.mp (by rw [h]; rfl)
    simp only [AList.mem_insert, or_iff_right_iff_imp]
    rintro rfl
    exact hmem

theorem lookup_modify (guid g : Guid) (f : PlayerInfo → PlayerInfo) :
    (modify store guid f).lookup g =
      if g = guid then some (f (index store guid)) else store.lookup g := by
  unfold modify
  split
  · subst g
    exact AList.lookup_insert store
  · rename_i hne
    exact AList.lookup_insert_ne hne

theorem lookup_modifyFound (guid g : Guid) (f : PlayerInfo → PlayerInfo) :
    (modifyFound store guid f).lookup g =
      if g = guid then (store.lookup guid).map f else store.lookup g := by
  unfold modifyFound
  cases h : store.lookup guid with
  | none =>
    simp only [Option.map_none]
    split
    · subst g
      exact h
    · rfl
  | some info =>
    simp only [Option.map_some]
    split
    · subst g
      exact AList.lookup_insert store
    · rename_i hne
      exact AList.lookup_insert_ne hne

variable {store}

theorem mem_iff_lookup {g : Guid} : g ∈ store ↔ ∃ info, store.lookup g = some info := by
  rw [← AList.lookup_isSome, Option.isSome_iff_exists]

theorem index_of_lookup {g : Guid} {info : PlayerInfo} (h : store.lookup g = some info) :
    index store g = info := by
  rw [index, h, Option.getD_some]

theorem begin?_eq_none : begin? store = none ↔ ∀ g, g ∉ store := by
  constructor
  · intro h g hg
    obtain ⟨m, hm⟩ : ∃ m, store.keys.min? = some m :=
      Option.isSome_iff_exists.mp (List.isSome_min?_of_mem (AList.mem_keys.mp hg))
    obtain ⟨info, hinfo⟩ := mem_iff_lookup.mp (AList.mem_keys.mpr (List.min?_mem hm))
    simp [begin?, hm, hinfo] at h
  · intro h
    have hnil : store.keys = [] :=
      List.eq_nil_iff_forall_not_mem.mpr fun g hg => h g (AList.mem_keys.mpr hg)
    simp [begin?, hnil]

theorem begin?_spec {info : PlayerInfo} (h : begin? store = some info) :
    ∃ g, store.lookup g = some info := by
  obtain ⟨g, -, hg⟩ := Option.bind_eq_some_iff.mp h
  exact ⟨g, hg⟩

end PlayerContainer

/-! ## 4. The channel -/

inductive ChatNotify
  | PLAYER_ALREADY_MEMBER (guid : Guid)
  | BANNED
  | WRONG_PASSWORD
  | NOT_MEMBER
  | NOT_MODERATOR
  | NOT_OWNER
  | PLAYER_NOT_FOUND (name : Name)

/-- A custom channel. `storedBans` is the ban list of its row in the database, as
`UpdateChannelInDB` wrote it last. -/
structure Channel where
  ownership : Bool
  isSaved : Bool
  password : Name
  ownerGUID : Guid
  playersStore : PlayerContainer
  bannedStore : Finset Guid
  storedBans : Finset Guid

namespace Channel

def isOn (ch : Channel) (who : Guid) : Bool := who ∈ ch.playersStore

def isBanned (ch : Channel) (guid : Guid) : Bool := guid ∈ ch.bannedStore

/-- `UpdateChannelInDB`, of which the ban list matters here. -/
def updateChannelInDB (ch : Channel) : Channel :=
  if ch.isSaved then { ch with storedBans := ch.bannedStore } else ch

def setOwner (ch : Channel) (guid : Guid) : Channel :=
  let store :=
    if ch.ownerGUID ≠ 0 then
      PlayerContainer.modifyFound ch.playersStore ch.ownerGUID (·.setOwner false)
    else ch.playersStore
  if guid ≠ 0 then
    let store := PlayerContainer.modify store guid (·.setModerator true)
    let store := PlayerContainer.modify store guid (·.setOwner true)
    { ch with playersStore := store, ownerGUID := guid }.updateChannelInDB
  else { ch with playersStore := store, ownerGUID := guid }

def setModerator (ch : Channel) (guid : Guid) (set : Bool) : Channel :=
  let ch := { ch with playersStore := PlayerContainer.modify ch.playersStore guid id }
  if (PlayerContainer.index ch.playersStore guid).isModerator ≠ set then
    { ch with playersStore := PlayerContainer.modify ch.playersStore guid (·.setModerator set) }
  else ch

def setMute (ch : Channel) (guid : Guid) (set : Bool) : Channel :=
  let ch := { ch with playersStore := PlayerContainer.modify ch.playersStore guid id }
  if (PlayerContainer.index ch.playersStore guid).isMuted ≠ set then
    { ch with playersStore := PlayerContainer.modify ch.playersStore guid (·.setMuted set) }
  else ch

def joinChannel (ch : Channel) (player : Player) (pass : Name) : Except ChatNotify Channel :=
  let guid := player.guid
  if ch.isOn guid then .error (.PLAYER_ALREADY_MEMBER guid)
  else if ch.isBanned guid then .error .BANNED
  else if ch.password ≠ [] ∧ pass ≠ ch.password then .error .WRONG_PASSWORD
  else
    let ch := { ch with playersStore := ch.playersStore.insert guid ⟨guid, MEMBER_FLAG_NONE⟩ }
    if ch.ownerGUID = 0 ∧ ch.ownership then
      let ch := ch.setOwner guid
      .ok { ch with
        playersStore := PlayerContainer.modify ch.playersStore guid (·.setModerator true) }
    else .ok ch

def leaveChannel (ch : Channel) (player : Player) : Except ChatNotify Channel :=
  let guid := player.guid
  if ch.isOn guid then
    let changeowner := (PlayerContainer.index ch.playersStore guid).isOwner
    let ch := { ch with playersStore := ch.playersStore.erase guid }
    match PlayerContainer.begin? ch.playersStore with
    | some first =>
      if changeowner ∧ ch.ownership then
        let newowner := first.player
        let ch := { ch with
          playersStore := PlayerContainer.modify ch.playersStore newowner (·.setModerator true) }
        .ok (ch.setOwner newowner)
      else .ok ch
    | none => .ok ch
  else .error .NOT_MEMBER

/-- The check that opens the requests of moderators. -/
def asModerator (ch : Channel) (player : Player) (request : Except ChatNotify Channel) :
    Except ChatNotify Channel :=
  if ch.isOn player.guid then
    if (PlayerContainer.index ch.playersStore player.guid).isModerator ∨
        player.changeNotModerator then request
    else .error .NOT_MODERATOR
  else .error .NOT_MEMBER

/-- The end of `KickOrBan`: the victim goes, and the kicker takes over from an owner. -/
def dropVictim (ch : Channel) (good victim : Guid) : Channel :=
  let changeowner := ch.ownerGUID = victim
  let ch := { ch with playersStore := ch.playersStore.erase victim }
  if changeowner ∧ ch.ownership ∧ (PlayerContainer.begin? ch.playersStore).isSome then
    let newowner := good
    let ch := { ch with
      playersStore := PlayerContainer.modify ch.playersStore newowner (·.setModerator true) }
    ch.setOwner newowner
  else ch

def kickOrBan (ch : Channel) (world : ObjectAccessor) (player : Player) (badname : Name)
    (ban : Bool) : Except ChatNotify Channel :=
  let good := player.guid
  ch.asModerator player <|
    match world.findConnectedPlayerByName badname with
    | some bad =>
      let victim := bad.guid
      if ch.isOn victim then
        if ¬ player.changeNotModerator ∧ ch.ownerGUID = victim ∧ good ≠ ch.ownerGUID then
          .error .NOT_OWNER
        else if ban ∧ ¬ ch.isBanned victim then
          .ok ({ ch with bannedStore := insert victim ch.bannedStore }.updateChannelInDB.dropVictim
            good victim)
        else .ok (ch.dropVictim good victim)
      else .error (.PLAYER_NOT_FOUND badname)
    | none => .error (.PLAYER_NOT_FOUND badname)

def unBan (ch : Channel) (world : ObjectAccessor) (player : Player) (badname : Name) :
    Except ChatNotify Channel :=
  ch.asModerator player <|
    match world.findConnectedPlayerByName badname with
    | some bad =>
      if ch.isBanned bad.guid then
        .ok { ch with bannedStore := ch.bannedStore.erase bad.guid }.updateChannelInDB
      else .error (.PLAYER_NOT_FOUND badname)
    | none => .error (.PLAYER_NOT_FOUND badname)

/-- Whether a member found by name may be acted on by a player of another team. -/
def mayInteract (player newp : Player) : Bool :=
  player.team = newp.team ∨ (player.twoSideInteraction ∧ newp.twoSideInteraction)

def setMode (ch : Channel) (world : ObjectAccessor) (player : Player) (p2n : Name)
    (mod set : Bool) : Except ChatNotify Channel :=
  let guid := player.guid
  ch.asModerator player <|
    if guid = ch.ownerGUID ∧ p2n = player.name ∧ mod then .ok ch
    else
      match world.findConnectedPlayerByName p2n with
      | some newp =>
        let victim := newp.guid
        if ch.isOn victim ∧ mayInteract player newp then
          if ch.ownerGUID = victim ∧ ch.ownerGUID ≠ guid then .error .NOT_OWNER
          else if mod then .ok (ch.setModerator victim set)
          else .ok (ch.setMute victim set)
        else .error (.PLAYER_NOT_FOUND p2n)
      | none => .error (.PLAYER_NOT_FOUND p2n)

/-- `SetOwner(Player const*, std::string const&)`. -/
def setOwnerByName (ch : Channel) (world : ObjectAccessor) (player : Player) (newname : Name) :
    Except ChatNotify Channel :=
  let guid := player.guid
  if ch.isOn guid then
    if ¬ player.changeNotModerator ∧ guid ≠ ch.ownerGUID then .error .NOT_OWNER
    else
      match world.findConnectedPlayerByName newname with
      | some newp =>
        let victim := newp.guid
        if ch.isOn victim ∧ mayInteract player newp then
          let ch := { ch with
            playersStore := PlayerContainer.modify ch.playersStore victim (·.setModerator true) }
          .ok (ch.setOwner victim)
        else .error (.PLAYER_NOT_FOUND newname)
      | none => .error (.PLAYER_NOT_FOUND newname)
  else .error .NOT_MEMBER

end Channel

end FunPvp.Chat
