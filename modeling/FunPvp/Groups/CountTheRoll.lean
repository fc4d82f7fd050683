/-
# How a roll ends

`CountTheRoll` gives the item to somebody, unblocks it, or does neither: when the winner is not
there, or the numbers promise votes the map does not have, the roll is gone and the item stays as
it was. `Disband` drops the rolls of a group in the same way.

The winner is the first of those with the highest number (`FirstMax`). The end of a roll is right
(`EndsWell`) exactly when the one who wins can be served (`RollEnding.Proper`).
-/
import FunPvp.Lib.FirstMax
import FunPvp.Groups.Roll

namespace FunPvp.Groups

open FunPvp.Lib FunPvp.Looting RollVote

/-! ## 1. The highest number -/

def candidates (kind : RollVote → Bool) (votes : PlayerVote) : PlayerVote :=
  votes.filter fun e => kind e.2

def RollEnv.draws (env : RollEnv) (e : PlayerGuid × RollVote) : ℕ := (env.number e.1).val.toNat

section Highest

variable {env : RollEnv} {kind : RollVote → Bool} {votes : PlayerVote}

/-- What the loop keeps: the best vote, or a zero and the first guid of the map. -/
def kept (env : RollEnv) (first : PlayerGuid) :
    Option (PlayerGuid × RollVote) → UInt8 × PlayerGuid × RollVote
  | none => (0, first, NOT_VALID)
  | some e => ((env.number e.1).val, e.1, e.2)

theorem highest_kept (env : RollEnv) (kind : RollVote → Bool) (first : PlayerGuid)
    (votes : PlayerVote) (best : Option (PlayerGuid × RollVote)) :
    highest env kind votes (kept env first best) =
      kept env first ((candidates kind votes).foldl (keepMax env.draws) best) := by
  induction votes generalizing best with
  | nil => rfl
  | cons e votes ih =>
    have hstep : highest env kind (e :: votes) (kept env first best) =
        highest env kind votes (kept env first
          (if kind e.2 then keepMax env.draws best e else best)) := by
      rw [highest, List.foldl_cons, highest]
      congr 1
      by_cases hkind : kind e.2 = true
      · rw [if_neg (by simp [hkind]), if_pos hkind]
        cases best with
        | none =>
          have hpos : (0 : UInt8) < (env.number e.1).val :=
            UInt8.lt_of_lt_of_le (by decide) (env.number e.1).property.1
          rw [kept, if_pos hpos]
          rfl
        | some b =>
          have hiff : env.draws b < env.draws e ↔ (env.number b.1).val < (env.number e.1).val :=
            UInt8.lt_iff_toNat_lt.symm
          by_cases hlt : (env.number b.1).val < (env.number e.1).val
          · rw [keepMax, if_pos (hiff.mpr hlt), kept, if_pos hlt, kept]
          · rw [keepMax, if_neg (mt hiff.mp hlt), kept, if_neg hlt]
      · rw [if_pos (by simp [hkind]), if_neg hkind]
    rw [hstep, ih, candidates, candidates, List.filter_cons]
    split <;> rfl

/-- **The loop over the votes** ends with the first of the highest numbers of its kind, or, if
nobody has voted so, with nothing. -/
theorem highest_spec (env : RollEnv) (kind : RollVote → Bool) (first : PlayerGuid)
    (votes : PlayerVote) :
    (candidates kind votes = [] ∧
        highest env kind votes (0, first, NOT_VALID) = (0, first, NOT_VALID)) ∨
      ∃ e, FirstMax env.draws (candidates kind votes) e ∧
        highest env kind votes (0, first, NOT_VALID) = ((env.number e.1).val, e.1, e.2) := by
  have hkept := highest_kept env kind first votes none
  rcases foldl_keepMax (f := env.draws) (candidates kind votes) with ⟨hnil, heq⟩ | ⟨e, heq, hmax⟩
  · rw [heq] at hkept
    exact Or.inl ⟨hnil, hkept⟩
  · rw [heq] at hkept
    exact Or.inr ⟨e, hmax, hkept⟩

end Highest

/-! ## 2. What is right -/

/-- A player may be given the item: he needs it and nobody who does has a higher number, or
nobody needs it and he is greedy, and nobody who is has a higher number. -/
def Deserves (env : RollEnv) (votes : PlayerVote) (guid : PlayerGuid) : Prop :=
  ∃ v, (guid, v) ∈ votes ∧
    ((v = NEED ∧ ∀ e ∈ candidates RollVote.isNeed votes, env.draws e ≤ env.draws (guid, v)) ∨
      ((v = GREED ∨ v = DISENCHANT) ∧ candidates RollVote.isNeed votes = [] ∧
        ∀ e ∈ candidates RollVote.isGreedy votes, env.draws e ≤ env.draws (guid, v)))

/-- The item has been looted, once, and the loot has one less. -/
def LootedOnce (l l' : Loot) (slot : ℕ) : Prop :=
  ∃ item, l.itemAt slot = some item ∧ item.isLooted = false ∧
    l'.itemAt slot = some { item with isLooted := true } ∧
    l'.unlootedCount = l.unlootedCount - 1

def Unblocked (l l' : Loot) (slot : ℕ) : Prop :=
  ∃ item, l'.itemAt slot = some item ∧ item.isBlocked = false ∧
    l'.unlootedCount = l.unlootedCount

inductive RollEnding
  | count (env : RollEnv)
  | disband

/-- A roll has ended well: the item has gone to at most one player, who deserves it, and it is
looted, once, or not blocked any more. -/
structure EndsWell (env : RollEnv) (roll : Roll) (loot : ℕ) (s s' : RollState) : Prop where
  given : ∃ given, s'.awards = given ++ s.awards ∧ given.length ≤ 1 ∧
    ∀ guid ∈ given, Deserves env roll.playerVote guid
  item : LootedOnce (s.loots loot) (s'.loots loot) roll.itemSlot.toNat ∨
    Unblocked (s.loots loot) (s'.loots loot) roll.itemSlot.toNat

section Loot

variable {l : Loot} {slot : ℕ} {f : LootItem → LootItem} {item : LootItem}

theorem itemAt_modifyItemAt : (l.modifyItemAt slot f).itemAt slot = (l.itemAt slot).map f := by
  rw [Loot.modifyItemAt]
  split
  · rename_i hslot
    rw [Loot.itemAt, Loot.itemAt, Loot.modifyQuestItem, if_pos hslot, if_pos hslot]
    exact List.getElem?_modify_eq f _ _
  · rename_i hslot
    have hslot' : ¬ slot ≥ (l.modifyItem slot f).items.length := by
      rw [Loot.modifyItem, List.length_modify]
      exact hslot
    rw [Loot.itemAt, Loot.itemAt, if_neg hslot, if_neg hslot']
    exact List.getElem?_modify_eq f _ _

theorem unlootedCount_modifyItemAt :
    (l.modifyItemAt slot f).unlootedCount = l.unlootedCount := by
  rw [Loot.modifyItemAt]
  split <;> rfl

end Loot

namespace RollState

variable {s : RollState} {env : RollEnv} {roll : Roll} {loot : ℕ} {item : LootItem}
  {guid : PlayerGuid}

theorem endsWell_award_iff
    (hitem : (s.loots loot).itemAt roll.itemSlot.toNat = some item) :
    EndsWell env roll loot s (s.award loot roll.itemSlot guid) ↔
      Deserves env roll.playerVote guid ∧ item.isLooted = false := by
  have hafter : ((s.award loot roll.itemSlot guid).loots loot).itemAt roll.itemSlot.toNat =
      some { item with isLooted := true } := by
    simp only [award, setLoot, Function.update_self]
    exact itemAt_modifyItemAt.trans (by rw [hitem]; rfl)
  have hcount : ((s.award loot roll.itemSlot guid).loots loot).unlootedCount =
      (s.loots loot).unlootedCount - 1 := by
    simp only [award, setLoot, Function.update_self, Loot.countDown, unlootedCount_modifyItemAt]
  constructor
  · rintro ⟨⟨given, hawards, -, hdeserves⟩, hlooted | hunblocked⟩
    · obtain ⟨item', hitem', hfresh, -⟩ := hlooted
      obtain rfl := Option.some.inj (hitem.symm.trans hitem')
      have hmem : guid ∈ given := by
        have hlen := congrArg List.length hawards
        obtain ⟨x, rfl⟩ : ∃ x, given = [x] := List.length_eq_one_iff.mp (by
          simp only [award, setLoot, List.length_cons, List.length_append] at hlen
          omega)
        obtain ⟨rfl, -⟩ := List.cons.inj hawards
        exact List.mem_singleton_self _
      exact ⟨hdeserves guid hmem, hfresh⟩
    · obtain ⟨-, -, -, hsame⟩ := hunblocked
      rw [hcount] at hsame
      exact absurd hsame (by simp)
  · rintro ⟨hdeserves, hfresh⟩
    refine ⟨⟨[guid], rfl, le_rfl, fun g hg => ?_⟩, Or.inl ⟨item, hitem, hfresh, hafter, hcount⟩⟩
    obtain rfl := List.mem_singleton.mp hg
    exact hdeserves

theorem endsWell_unblock (hitem : (s.loots loot).itemAt roll.itemSlot.toNat = some item) :
    EndsWell env roll loot s (s.unblock loot roll.itemSlot) := by
  have hafter : ((s.unblock loot roll.itemSlot).loots loot).itemAt roll.itemSlot.toNat =
      some { item with isBlocked := false } := by
    simp only [unblock, setLoot, Function.update_self]
    exact itemAt_modifyItemAt.trans (by rw [hitem]; rfl)
  have hcount : ((s.unblock loot roll.itemSlot).loots loot).unlootedCount =
      (s.loots loot).unlootedCount := by
    simp only [unblock, setLoot, Function.update_self, unlootedCount_modifyItemAt]
  exact ⟨⟨[], rfl, Nat.zero_le _, fun g hg => nomatch hg⟩,
    Or.inr ⟨{ item with isBlocked := false }, hafter, rfl, hcount⟩⟩

theorem endsWell_same_iff {s' : RollState} (hloots : s'.loots = s.loots)
    (hawards : s'.awards = s.awards)
    (hitem : (s.loots loot).itemAt roll.itemSlot.toNat = some item) :
    EndsWell env roll loot s s' ↔ item.isBlocked = false := by
  constructor
  · rintro ⟨-, hlooted | hunblocked⟩
    · obtain ⟨-, -, -, -, hcount⟩ := hlooted
      rw [hloots] at hcount
      exact absurd hcount.symm (by simp)
    · obtain ⟨item', hitem', hfree, -⟩ := hunblocked
      rw [hloots, hitem] at hitem'
      obtain rfl := Option.some.inj hitem'
      exact hfree
  · intro hfree
    exact ⟨⟨[], hawards, Nat.zero_le _, fun g hg => nomatch hg⟩,
      Or.inr ⟨item, by rw [hloots]; exact hitem, hfree, by rw [hloots]⟩⟩

end RollState

/-! ## 3. Exactly when it is right -/

/-- The player who wins can be served: he is there and, if he takes the item, deserves it and nobody
has looted it yet; or he is not there, and the item is not blocked anyway. -/
def Serves (env : RollEnv) (votes : PlayerVote) (item : LootItem) (guid : PlayerGuid)
    (takes : Bool) : Prop :=
  if env.connected guid then
    takes = true → Deserves env votes guid ∧ item.isLooted = false
  else item.isBlocked = false

/-- What the random numbers and the players were, for what is said of the winner. -/
def RollEnding.env : RollEnding → RollEnv
  | .count env => env
  | .disband => ⟨fun _ => ⟨1, by decide⟩, fun _ => false, fun _ => false⟩

/-- When a roll ends well, from its numbers, its votes and the item.

Where there are players who need the item, or greedy ones if there are none, as the numbers say,
the one with the highest number is served (a disenchanter needs no room in his bags). Where the
numbers say so and the map has no such vote, the first player of the map is served, if it was
about need; otherwise the item is not blocked. If the group disbands, the item is not blocked. -/
def RollEnding.Proper (roll : Roll) (item : LootItem) : RollEnding → Prop
  | .count env =>
    if roll.totalNeed > 0 then
      (∃ e, FirstMax env.draws (candidates RollVote.isNeed roll.playerVote) e ∧
        Serves env roll.playerVote item e.1 (env.canStore e.1)) ∨
      candidates RollVote.isNeed roll.playerVote = [] ∧
        match roll.playerVote with
        | [] => item.isBlocked = false
        | first :: _ => Serves env roll.playerVote item first.1 (env.canStore first.1)
    else if roll.totalGreed > 0 then
      (∃ e, FirstMax env.draws (candidates RollVote.isGreedy roll.playerVote) e ∧
        Serves env roll.playerVote item e.1 (e.2 = DISENCHANT || env.canStore e.1)) ∨
      candidates RollVote.isGreedy roll.playerVote = [] ∧ item.isBlocked = false
    else True
  | .disband => item.isBlocked = false

namespace RollState

variable {s : RollState} {env : RollEnv} {roll : Roll} {loot : ℕ} {item : LootItem}
  {guid : PlayerGuid}

theorem endsWell_storeWon_iff
    (hitem : (s.loots loot).itemAt roll.itemSlot.toNat = some item) :
    EndsWell env roll loot s
        (if env.connected guid then s.storeWon env loot roll.itemSlot guid else s) ↔
      Serves env roll.playerVote item guid (env.canStore guid) := by
  rw [Serves]
  split
  · rw [storeWon]
    split
    · rename_i hstore
      rw [endsWell_award_iff hitem, hstore]
      exact ⟨fun h _ => h, fun h => h rfl⟩
    · rename_i hstore
      exact ⟨fun _ h => absurd h hstore, fun _ => endsWell_unblock hitem⟩
  · exact endsWell_same_iff rfl rfl hitem

theorem exists_firstMax_iff {l : PlayerVote} {e : PlayerGuid × RollVote}
    {P : PlayerGuid × RollVote → Prop} {Q : Prop} (h : FirstMax env.draws l e) :
    ((∃ e, FirstMax env.draws l e ∧ P e) ∨ l = [] ∧ Q) ↔ P e := by
  constructor
  · rintro (⟨e', hmax, hP⟩ | ⟨rfl, -⟩)
    · rwa [h.unique hmax]
    · exact absurd h.mem (by simp)
  · exact fun hP => Or.inl ⟨e, h, hP⟩

theorem nobody_iff {l : PlayerVote} {P : PlayerGuid × RollVote → Prop} {Q : Prop} (h : l = []) :
    ((∃ e, FirstMax env.draws l e ∧ P e) ∨ l = [] ∧ Q) ↔ Q := by
  subst h
  constructor
  · rintro (⟨e, hmax, -⟩ | ⟨-, hQ⟩)
    · exact absurd hmax.mem (by simp)
    · exact hQ
  · exact fun hQ => Or.inr ⟨rfl, hQ⟩

theorem endsWell_settle_iff
    (hitem : (s.loots loot).itemAt roll.itemSlot.toNat = some item) :
    EndsWell env roll loot s (s.settle env roll loot) ↔
      (RollEnding.count env).Proper roll item := by
  rw [settle, RollEnding.Proper]
  split
  · cases hvotes : roll.playerVote with
    | nil =>
      have hnil : ∀ kind, candidates kind [] = [] := fun kind => rfl
      dsimp only
      rw [endsWell_same_iff rfl rfl hitem, nobody_iff (hnil _)]
    | cons first rest =>
      dsimp only
      rw [← hvotes]
      rcases highest_spec env RollVote.isNeed first.1 roll.playerVote with ⟨hnil, heq⟩ | ⟨e, hmax, heq⟩
      · rw [heq, nobody_iff hnil]
        exact endsWell_storeWon_iff hitem
      · rw [heq, exists_firstMax_iff hmax]
        exact endsWell_storeWon_iff hitem
  split
  · cases hvotes : roll.playerVote with
    | nil =>
      have hnil : ∀ kind, candidates kind [] = [] := fun kind => rfl
      dsimp only
      rw [endsWell_same_iff rfl rfl hitem, nobody_iff (hnil _)]
    | cons first rest =>
      dsimp only
      rw [← hvotes]
      rcases highest_spec env RollVote.isGreedy first.1 roll.playerVote with ⟨hnil, heq⟩ | ⟨e, hmax, heq⟩
      · rw [heq, nobody_iff hnil]
        simp only [reduceCtorEq, if_false, ite_self]
        exact endsWell_same_iff rfl rfl hitem
      · rw [heq, exists_firstMax_iff hmax]
        dsimp only
        have hgreedy : e.2.isGreedy = true := (List.mem_filter.mp hmax.mem).2
        by_cases hvote : e.2 = GREED
        · rw [if_pos hvote, hvote]
          exact endsWell_storeWon_iff hitem
        · have hdis : e.2 = DISENCHANT := by simpa [RollVote.isGreedy, hvote] using hgreedy
          rw [if_neg hvote, if_pos hdis, hdis, Serves]
          split
          · rw [endsWell_award_iff hitem]
            exact ⟨fun h _ => h, fun h => h rfl⟩
          · exact endsWell_same_iff rfl rfl hitem
  · exact ⟨fun _ => trivial, fun _ => endsWell_unblock hitem⟩

def endBy (s : RollState) (i : ℕ) : RollEnding → RollState
  | .count env => s.countTheRoll env i
  | .disband => s.disband

/-- **The end of a roll.**  For every open roll on an item of a loot that exists, whatever its votes,
its numbers, the random numbers and the winner's circumstances: the roll ends well exactly when
the one who wins can be served. -/
theorem endsWell_iff {i : ℕ} (hroll : s.rollId[i]? = some roll) (hloot : roll.loot = some loot)
    (hitem : (s.loots loot).itemAt roll.itemSlot.toNat = some item) (ending : RollEnding) :
    EndsWell ending.env roll loot s (s.endBy i ending) ↔ ending.Proper roll item := by
  cases ending with
  | count env =>
    have hsame : EndsWell env roll loot s (s.countTheRoll env i) ↔
        EndsWell env roll loot s (s.settle env roll loot) := by
      rw [countTheRoll, hroll]
      dsimp only
      rw [hloot]
      -- what ends the roll differs in the list of rolls only
      exact ⟨fun h => ⟨h.given, h.item⟩, fun h => ⟨h.given, h.item⟩⟩
    exact hsame.trans (endsWell_settle_iff hitem)
  | disband => exact endsWell_same_iff rfl rfl hitem

def oneRoll (votes : PlayerVote) (totalNeed : UInt8) : Roll :=
  { Roll.new 1 0 0 with
    playerVote := votes, totalPlayersRolling := 2, totalNeed := totalNeed
    totalPass := 2 - totalNeed }

def blockedItem : LootItem :=
  { LootItem.ofStoreItem ⟨1, false, []⟩ none 0 0 with isBlocked := true }

def rolling (roll : Roll) : RollState where
  loots := fun _ =>
    { Loot.empty 0 with
      items := [blockedItem]
      unlootedCount := 1 }
  rollId := [roll]
  nextItemGuid := 2
  awards := []
  decidedByVote := []

/-- Everybody draws the same number and has room; who is there is given. -/
def someConnected (connected : PlayerGuid → Bool) : RollEnv where
  number := fun _ => ⟨50, by decide⟩
  connected := connected
  canStore := fun _ => true

theorem needed_endsWell_iff :
    EndsWell (someConnected fun _ => true) (oneRoll [(1, PASS), (2, NEED)] 1) 0
        (rolling (oneRoll [(1, PASS), (2, NEED)] 1))
        ((rolling (oneRoll [(1, PASS), (2, NEED)] 1)).endBy 0
          (.count (someConnected fun _ => true))) ↔
      (RollEnding.count (someConnected fun _ => true)).Proper (oneRoll [(1, PASS), (2, NEED)] 1)
        blockedItem :=
  endsWell_iff rfl rfl rfl (.count (someConnected fun _ => true))

/-- The only one who needs the item is not there any more; the group disbands. -/
theorem endsWell_fails :
    ¬ EndsWell (someConnected fun _ => false) (oneRoll [(1, PASS), (2, NEED)] 1) 0
        (rolling (oneRoll [(1, PASS), (2, NEED)] 1))
        ((rolling (oneRoll [(1, PASS), (2, NEED)] 1)).endBy 0
          (.count (someConnected fun _ => false))) ∧
      ¬ EndsWell (someConnected fun _ => true) (oneRoll [(1, PASS), (2, NEED)] 1) 0
        (rolling (oneRoll [(1, PASS), (2, NEED)] 1))
        ((rolling (oneRoll [(1, PASS), (2, NEED)] 1)).endBy 0 .disband) := by
  have hstays : ∀ {env : RollEnv} {s' : RollState},
      (s'.loots 0).itemAt 0 =
        some blockedItem →
      ¬ EndsWell env (oneRoll [(1, PASS), (2, NEED)] 1) 0
        (rolling (oneRoll [(1, PASS), (2, NEED)] 1)) s' := by
    rintro env s' hitem ⟨-, ⟨item, hitem₀, -, hlooted, -⟩ | ⟨item, hitem', hfree, -⟩⟩
    · have heq := Option.some.inj (hitem.symm.trans hlooted)
      have hfalse := congrArg LootItem.isLooted heq
      cases hfalse
    · have heq := Option.some.inj (hitem.symm.trans hitem')
      rw [← heq] at hfree
      cases hfree
  exact ⟨hstays (by decide), hstays (by decide)⟩

end RollState

end FunPvp.Groups
