/-
# Chat links

The links that a chat message may hold, after `ChatLink.cpp`: each class has an `Initialize` that
reads its data behind `|H` and its type, and a `ValidateName` for the text between the brackets.
`Initialize` is a keyword here and is called `initializeFrom`. What is looked up in the stores of
the server is a function of `Stores`; of each record there is what these functions read.

`TradeChatLink`, `TalentChatLink`, `EnchantmentChatLink` and `GlyphChatLink` are `SpellChatLink`s
and inherit its `ValidateName`; what they read besides the spell is used by nothing.
-/
import FunPvp.Chat.LinkReaders

namespace FunPvp.ChatLinks

open FunPvp.Lib

/-! ## 1. The stores -/

def TOTAL_LOCALES : ℕ := 9
def STRONG_MAX_LEVEL : ℤ := 255

def itemQualityColors : Fin 8 → UInt32 :=
  ![0xff9d9d9d, 0xffffffff, 0xff1eff00, 0xff0070dd, 0xffa335ee, 0xffff8000, 0xffe6cc80, 0xffe6cc80]

def CHAT_LINK_COLOR_TRADE : UInt32 := 0xffffd000
def CHAT_LINK_COLOR_TALENT : UInt32 := 0xff4e96f7
def CHAT_LINK_COLOR_SPELL : UInt32 := 0xff71d5ff
def CHAT_LINK_COLOR_ENCHANT : UInt32 := 0xffffd000
def CHAT_LINK_COLOR_ACHIEVEMENT : UInt32 := 0xffffff00
def CHAT_LINK_COLOR_GLYPH : UInt32 := 0xff66bbff

abbrev LocaleNames := ℕ → Bytes

/-- The quality is in range: one that is not is replaced when the items are loaded. -/
structure ItemTemplate where
  itemId : UInt32
  name1 : Bytes
  quality : Fin 8

structure Quest where
  questId : UInt32
  title : Bytes

/-- `tradespell` is the attribute `SPELL_ATTR0_TRADESPELL`. -/
structure SpellInfo where
  id : UInt32
  tradespell : Bool
  spellName : LocaleNames

structure Stores where
  getItemTemplate : UInt32 → Option ItemTemplate
  getItemLocale : UInt32 → Option (List Bytes)
  /-- `nameSuffix` of an entry of `sItemRandomPropertiesStore`. -/
  itemRandomProperties : UInt32 → Option LocaleNames
  /-- `nameSuffix` of an entry of `sItemRandomSuffixStore`. -/
  itemRandomSuffix : UInt32 → Option LocaleNames
  getQuestTemplate : UInt32 → Option Quest
  getQuestLocale : UInt32 → Option (List Bytes)
  getSpellInfo : UInt32 → Option SpellInfo
  /-- `skillId` of the entries between the two bounds. -/
  getSkillLineAbilityMapBounds : UInt32 → List (Option UInt32)
  /-- The `name` of an entry of `sSkillLineStore`. -/
  skillLine : UInt32 → Option LocaleNames
  /-- The `name` of an achievement. -/
  getAchievement : UInt32 → Option LocaleNames
  /-- `RankID[0]` of a talent. -/
  talent : UInt32 → Option UInt32
  /-- `SpellId` of an entry of `sGlyphPropertiesStore`. -/
  glyphProperties : UInt32 → Option UInt32

/-- What a link keeps for `ValidateName`. -/
inductive ChatLink
  | item (template : ItemTemplate) (property suffix : Option LocaleNames)
  | quest (template : Quest)
  | spell (spellInfo : SpellInfo)
  | achievement (name : LocaleNames)

/-! ## 2. `Initialize` -/

/-- What a null pointer, or a condition that does not hold, does to the message. -/
def orReject {α : Type} : Option α → ByteReader α
  | some a => pure a
  | none => throw .rejected

def require (b : Bool) : ByteReader Unit := if b then pure () else throw .rejected

/-- One of the eight numbers behind the entry of an item. The sixth is a random property or, with a
minus, a random suffix. -/
def ItemChatLink.readId (S : Stores) (found : Option LocaleNames × Option LocaleNames) (index : ℕ) :
    ByteReader (Option LocaleNames × Option LocaleNames) := do
  checkDelimiter DELIMITER
  let id ← readInt32
  if id ≠ 0 ∧ index = 5 then
    if 0 < id then do
      let property ← orReject (S.itemRandomProperties (UInt32.ofNat id.toNat))
      pure (some property, found.2)
    else do
      let suffix ← orReject (S.itemRandomSuffix (UInt32.ofNat (-id).toNat))
      pure (found.1, some suffix)
  else pure found

def ItemChatLink.initializeFrom (S : Stores) (color : UInt32) : ByteReader ChatLink := do
  let itemEntry ← readUInt32
  let item ← orReject (S.getItemTemplate itemEntry)
  require (color = itemQualityColors item.quality)
  let (property, suffix) ← (List.range 8).foldlM (ItemChatLink.readId S) (none, none)
  pure (.item item property suffix)

def QuestChatLink.initializeFrom (S : Stores) : ByteReader ChatLink := do
  let questId ← readUInt32
  let quest ← orReject (S.getQuestTemplate questId)
  checkDelimiter DELIMITER
  let questLevel ← readInt32
  require (questLevel < STRONG_MAX_LEVEL)
  pure (.quest quest)

/-- `SpellChatLink` and `EnchantmentChatLink`, which differ in their color. -/
def SpellChatLink.initializeWith (S : Stores) (expected color : UInt32) : ByteReader ChatLink := do
  require (color = expected)
  let spellId ← readUInt32
  let spell ← orReject (S.getSpellInfo spellId)
  pure (.spell spell)

def SpellChatLink.initializeFrom (S : Stores) : UInt32 → ByteReader ChatLink :=
  SpellChatLink.initializeWith S CHAT_LINK_COLOR_SPELL

def EnchantmentChatLink.initializeFrom (S : Stores) : UInt32 → ByteReader ChatLink :=
  SpellChatLink.initializeWith S CHAT_LINK_COLOR_ENCHANT

def AchievementChatLink.readProgress (_ : Unit) (_index : ℕ) : ByteReader Unit := do
  checkDelimiter DELIMITER
  let _ ← readUInt32
  pure ()

def AchievementChatLink.initializeFrom (S : Stores) (color : UInt32) : ByteReader ChatLink := do
  require (color = CHAT_LINK_COLOR_ACHIEVEMENT)
  let achievementId ← readUInt32
  let achievement ← orReject (S.getAchievement achievementId)
  checkDelimiter DELIMITER
  let _ ← readHex 0
  (List.range 8).foldlM AchievementChatLink.readProgress ()
  pure (.achievement achievement)

def TradeChatLink.initializeFrom (S : Stores) (color : UInt32) : ByteReader ChatLink := do
  require (color = CHAT_LINK_COLOR_TRADE)
  let spellId ← readUInt32
  let spell ← orReject (S.getSpellInfo spellId)
  checkDelimiter DELIMITER
  let _ ← readInt32
  checkDelimiter DELIMITER
  let _ ← readInt32
  checkDelimiter DELIMITER
  let _ ← readHex 0
  let _ ← readSkip PIPE_CHAR
  pure (.spell spell)

def TalentChatLink.initializeFrom (S : Stores) (color : UInt32) : ByteReader ChatLink := do
  require (color = CHAT_LINK_COLOR_TALENT)
  let talentId ← readUInt32
  let rankId ← orReject (S.talent talentId)
  let spell ← orReject (S.getSpellInfo rankId)
  checkDelimiter DELIMITER
  let _ ← readInt32
  pure (.spell spell)

def GlyphChatLink.initializeFrom (S : Stores) (color : UInt32) : ByteReader ChatLink := do
  require (color = CHAT_LINK_COLOR_GLYPH)
  let _ ← readUInt32
  checkDelimiter DELIMITER
  let glyphId ← readUInt32
  let spellId ← orReject (S.glyphProperties glyphId)
  let spell ← orReject (S.getSpellInfo spellId)
  pure (.spell spell)

/-! ## 3. The types -/

inductive LinkType
  | item | quest | trade | talent | spell | enchant | achievement | glyph
deriving DecidableEq

def linkType (buffer : Bytes) : Option LinkType :=
  if buffer = chars ['i', 't', 'e', 'm'] then some .item
  else if buffer = chars ['q', 'u', 'e', 's', 't'] then some .quest
  else if buffer = chars ['t', 'r', 'a', 'd', 'e'] then some .trade
  else if buffer = chars ['t', 'a', 'l', 'e', 'n', 't'] then some .talent
  else if buffer = chars ['s', 'p', 'e', 'l', 'l'] then some .spell
  else if buffer = chars ['e', 'n', 'c', 'h', 'a', 'n', 't'] then some .enchant
  else if buffer = chars ['a', 'c', 'h', 'i', 'e', 'v', 'e', 'm', 'e', 'n', 't'] then
    some .achievement
  else if buffer = chars ['g', 'l', 'y', 'p', 'h'] then some .glyph
  else none

def LinkType.initializeFrom (S : Stores) (color : UInt32) : LinkType → ByteReader ChatLink
  | .item => ItemChatLink.initializeFrom S color
  | .quest => QuestChatLink.initializeFrom S
  | .trade => TradeChatLink.initializeFrom S color
  | .talent => TalentChatLink.initializeFrom S color
  | .spell => SpellChatLink.initializeFrom S color
  | .enchant => EnchantmentChatLink.initializeFrom S color
  | .achievement => AchievementChatLink.initializeFrom S color
  | .glyph => GlyphChatLink.initializeFrom S color

/-! ## 4. `ValidateName` -/

def hasName (names : LocaleNames) (buffer : Bytes) : Bool :=
  (List.range TOTAL_LOCALES).any fun i => names i ≠ [] && names i = buffer

def ItemChatLink.formatName (item : ItemTemplate) (index : ℕ) (locale : Option (List Bytes))
    (suffixStrings : Option LocaleNames) : Bytes :=
  let name := match locale with
    | none => item.name1
    | some names => names.getD index item.name1
  match suffixStrings with
  | none => name
  | some suffix => name ++ ' '.toUInt8 :: suffix index

def ItemChatLink.validateName (S : Stores) (item : ItemTemplate)
    (property suffix : Option LocaleNames) (buffer : Bytes) : Bool :=
  let suffixStrings := suffix <|> property
  formatName item 0 none suffixStrings = buffer ||
    (List.range' 1 (TOTAL_LOCALES - 1)).any fun index =>
      formatName item index (S.getItemLocale item.itemId) suffixStrings = buffer

def QuestChatLink.validateName (S : Stores) (quest : Quest) (buffer : Bytes) : Bool :=
  quest.title = buffer || ((S.getQuestLocale quest.questId).getD []).any (· = buffer)

/-- `memmove` over the prefix of a name and the two characters behind it. The number of characters
to move is a `uint32`, and there are 256 in the buffer. -/
def SpellChatLink.removePrefix (skillLineNameLength : ℕ) (buffer : Bytes) : Except Exit Bytes :=
  let spellNameLength := UInt32.ofNat buffer.length - UInt32.ofNat skillLineNameLength - 2
  let count := spellNameLength + 1
  if count = 0 then .ok buffer
  else if skillLineNameLength + 2 + count.toNat ≤ 256 then
    .ok (buffer.drop (skillLineNameLength + 2))
  else .error .stuck

/-- The name of a spell with the flag comes behind the name of its profession. -/
def SpellChatLink.spellName (S : Stores) (spell : SpellInfo) (buffer : Bytes) :
    Except Exit Bytes :=
  if spell.tradespell then
    match S.getSkillLineAbilityMapBounds spell.id with
    | [] => .error .rejected
    | none :: _ => .error .rejected
    | some skillId :: _ =>
      match S.skillLine skillId with
      | none => .error .rejected
      | some name =>
        match (List.range TOTAL_LOCALES).find? fun i =>
            decide (0 < (name i).length) && (name i).isPrefixOf buffer with
        | none => .ok buffer
        | some i => removePrefix (name i).length buffer
  else .ok buffer

def SpellChatLink.validateName (S : Stores) (spell : SpellInfo) (buffer : Bytes) : Exit :=
  match SpellChatLink.spellName S spell buffer with
  | .error e => e
  | .ok buffer => .returns (hasName spell.spellName buffer)

def ChatLink.validateName (S : Stores) (buffer : Bytes) : ChatLink → Exit
  | .item template property suffix =>
    .returns (ItemChatLink.validateName S template property suffix buffer)
  | .quest template => .returns (QuestChatLink.validateName S template buffer)
  | .spell spellInfo => SpellChatLink.validateName S spellInfo buffer
  | .achievement name => .returns (hasName name buffer)

/-! ## 5. What `Initialize` takes, and how it stops -/

/-- What all readers have in common. None of them accepts the message where it stops, and those
that do not come back would come back before a pipe. -/
structure Careful {α : Type} (f : ByteReader α) : Prop where
  ahead : LooksAhead NotPipe f
  stops : StopsWith (· ≠ .returns true) f
  stuck : ∀ s, f s = .error .stuck → PIPE_CHAR ∉ s

namespace Careful

variable {α β : Type}

theorem of_rejects {f : ByteReader α} (hahead : LooksAhead NotPipe f) (hstops : Rejects f) :
    Careful f where
  ahead := hahead
  stops := hstops.imp fun e he => by simp [he]
  stuck := fun s h => absurd (hstops s _ h) (by simp)

theorem pure (v : α) : Careful (Pure.pure v) := of_rejects (.pure v) (.pure v)

theorem reject : Careful (throw .rejected : ByteReader α) :=
  of_rejects (.throw _) (.throw rfl)

theorem bind {f : ByteReader α} {g : α → ByteReader β} (hf : Careful f) (hg : ∀ v, Careful (g v)) :
    Careful (f >>= g) where
  ahead := hf.ahead.bind fun v => (hg v).ahead
  stops := hf.stops.bind fun v => (hg v).stops
  stuck := by
    intro s h
    rcases Reader.error_of_bind h with h | ⟨v, r, hs, hr⟩
    · exact hf.stuck s h
    · obtain ⟨used, rfl, hused, -⟩ := hf.ahead s v r hs
      rw [List.mem_append, not_or]
      exact ⟨fun hmem => hused PIPE_CHAR hmem rfl, (hg v).stuck r hr⟩

theorem ite {c : Prop} [Decidable c] {f g : ByteReader α} (hf : Careful f) (hg : Careful g) :
    Careful (if c then f else g) := by
  split
  · exact hf
  · exact hg

theorem foldlM {body : β → α → ByteReader β} (hbody : ∀ b a, Careful (body b a)) :
    ∀ (l : List α) (b : β), Careful (l.foldlM body b)
  | [], b => pure b
  | a :: l, b => bind (hbody b a) fun b' => foldlM hbody l b'

end Careful

theorem careful_orReject {α : Type} (o : Option α) : Careful (orReject o) := by
  cases o with
  | none => exact .reject
  | some a => exact .pure a

theorem careful_require (b : Bool) : Careful (require b) := .ite (.pure _) .reject

theorem careful_readUInt32 : Careful readUInt32 :=
  .of_rejects looksAhead_readUInt32 rejects_readUInt32

theorem careful_readInt32 : Careful readInt32 :=
  .of_rejects looksAhead_readInt32 rejects_readInt32

theorem careful_readHex (length : ℕ) : Careful (readHex length) :=
  .of_rejects (looksAhead_readHex length) (rejects_readHex length)

theorem careful_delimiter : Careful (checkDelimiter DELIMITER) :=
  .of_rejects (looksAhead_checkDelimiter (by decide)) (rejects_checkDelimiter _)

theorem careful_readSkip : Careful (readSkip PIPE_CHAR) where
  ahead := looksAhead_readSkip
  stops := fun s e h => by simp [(readSkip_eq_error.1 h).2]
  stuck := fun s h hmem => ((readSkip_eq_error.1 h).1 PIPE_CHAR hmem).1 rfl

theorem careful_spellLink (S : Stores) (expected color : UInt32) :
    Careful (SpellChatLink.initializeWith S expected color) :=
  (careful_require _).bind fun _ => careful_readUInt32.bind fun _ =>
    (careful_orReject _).bind fun _ => .pure _

theorem careful_readId (S : Stores) (found : Option LocaleNames × Option LocaleNames)
    (index : ℕ) : Careful (ItemChatLink.readId S found index) :=
  careful_delimiter.bind fun _ => careful_readInt32.bind fun _ =>
    .ite (.ite ((careful_orReject _).bind fun _ => .pure _)
      ((careful_orReject _).bind fun _ => .pure _)) (.pure _)

/-- **`Initialize`.**  It takes no pipe, nothing but the next character decides where it ends, it
accepts no message by itself, and it comes back before a pipe. -/
theorem careful_initializeFrom (S : Stores) (color : UInt32) (kind : LinkType) :
    Careful (kind.initializeFrom S color) := by
  cases kind with
  | item =>
    exact careful_readUInt32.bind fun _ => (careful_orReject _).bind fun _ =>
      (careful_require _).bind fun _ => (Careful.foldlM (careful_readId S) _ _).bind
        fun _ => .pure _
  | quest =>
    exact careful_readUInt32.bind fun _ => (careful_orReject _).bind fun _ =>
      careful_delimiter.bind fun _ => careful_readInt32.bind fun _ =>
        (careful_require _).bind fun _ => .pure _
  | trade =>
    exact (careful_require _).bind fun _ => careful_readUInt32.bind fun _ =>
      (careful_orReject _).bind fun _ => careful_delimiter.bind fun _ =>
        careful_readInt32.bind fun _ => careful_delimiter.bind fun _ =>
          careful_readInt32.bind fun _ => careful_delimiter.bind fun _ =>
            (careful_readHex 0).bind fun _ => careful_readSkip.bind fun _ => .pure _
  | talent =>
    exact (careful_require _).bind fun _ => careful_readUInt32.bind fun _ =>
      (careful_orReject _).bind fun _ => (careful_orReject _).bind fun _ =>
        careful_delimiter.bind fun _ => careful_readInt32.bind fun _ => .pure _
  | spell => exact careful_spellLink S _ color
  | enchant => exact careful_spellLink S _ color
  | achievement =>
    have hprogress : ∀ (u : Unit) (i : ℕ),
        Careful (AchievementChatLink.readProgress u i) := fun _ _ =>
      careful_delimiter.bind fun _ => careful_readUInt32.bind fun _ => .pure _
    exact (careful_require _).bind fun _ => careful_readUInt32.bind fun _ =>
      (careful_orReject _).bind fun _ => careful_delimiter.bind fun _ =>
        (careful_readHex 0).bind fun _ => (Careful.foldlM hprogress _ _).bind fun _ =>
          .pure _
  | glyph =>
    exact (careful_require _).bind fun _ => careful_readUInt32.bind fun _ =>
      careful_delimiter.bind fun _ => careful_readUInt32.bind fun _ =>
        (careful_orReject _).bind fun _ => (careful_orReject _).bind fun _ => .pure _

/-! ## 6. When `ValidateName` does not come back -/

end FunPvp.ChatLinks
