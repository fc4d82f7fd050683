/-
# The rating window of a rated arena

`BattlegroundQueue::BattlegroundQueueUpdate` computes the matchmaker ratings it accepts twice:
once for the solo arena, around the average rating of the temporary HORDE team, and once for
the team arena, around the rating of the team that joined last. Both copies clamp the lower
bound at 0 and then move the two bounds apart by `100 * dynamicMMRindex`, in `uint32`.

The clamp comes BEFORE the subtraction, so a lower bound below `100 * dynamicMMRindex` wraps to
the top of the range and the window accepts nothing near the reference rating any more.
`ratingWindow_grows_iff` says exactly for which ratings the window does grow with the index.
-/
import Mathlib

namespace FunPvp.Battleground

/-! ## 1. The window as the code computes it -/

/-- The two bounds of the search, `arenaMinRating` and `arenaMaxRating`. -/
structure RatingWindow where
  arenaMinRating : UInt32
  arenaMaxRating : UInt32
deriving DecidableEq

/-- `BattlegroundMgr::GetMaxRatingDifference`: a configured 0 is read as 150. -/
def getMaxRatingDifference (configured : UInt32) : UInt32 :=
  if configured = 0 then 150 else configured

/-- "set rating range": the bounds before the index is looked at. -/
def ratingRange (rating maxRatingDifference : UInt32) : RatingWindow where
  arenaMinRating := if rating ≤ maxRatingDifference then 0 else rating - maxRatingDifference
  arenaMaxRating := rating + maxRatingDifference

/-- `arenaMinRating -= d; arenaMaxRating += d;` -/
def RatingWindow.widen (w : RatingWindow) (d : UInt32) : RatingWindow where
  arenaMinRating := w.arenaMinRating - d
  arenaMaxRating := w.arenaMaxRating + d

/-- The `switch (dynamicMMRindex)`, which has no `case 0` and no `default`. -/
def RatingWindow.dynamicMMR (w : RatingWindow) (dynamicMMRindex : UInt8) : RatingWindow :=
  match dynamicMMRindex with
  | 1 => w.widen 100
  | 2 => w.widen 200
  | 3 => w.widen 300
  | 4 => w.widen 400
  | 5 => w.widen 500
  | 6 => w.widen 600
  | _ => w

def ratingWindow (rating maxRatingDifference : UInt32) (dynamicMMRindex : UInt8) :
    RatingWindow :=
  (ratingRange rating maxRatingDifference).dynamicMMR dynamicMMRindex

/-- The solo arena's copy: the reference is `arenaTeams[TEAM_HORDE]->GetAverageMMR()`, and an
alliance team is turned away by an early `return`. -/
def soloWindowRejects (hordeMMR maxRatingDifference : UInt32) (dynamicMMRindex : UInt8)
    (allianceMMR : UInt32) : Bool :=
  let w := ratingWindow hordeMMR maxRatingDifference dynamicMMRindex
  decide (allianceMMR < w.arenaMinRating) || decide (allianceMMR > w.arenaMaxRating)

/-- The team arena's copy: the reference is `arenaRating`, and a queued group inside the window
is taken. -/
def teamWindowAccepts (arenaRating maxRatingDifference : UInt32) (dynamicMMRindex : UInt8)
    (arenaMatchmakerRating : UInt32) : Bool :=
  let w := ratingWindow arenaRating maxRatingDifference dynamicMMRindex
  decide (arenaMatchmakerRating ≥ w.arenaMinRating) &&
    decide (arenaMatchmakerRating ≤ w.arenaMaxRating)

/-! ## 2. The bounds as numbers -/

def RatingWindow.Accepts (w : RatingWindow) (x : UInt32) : Prop :=
  w.arenaMinRating ≤ x ∧ x ≤ w.arenaMaxRating

theorem teamWindowAccepts_iff {rating d x : UInt32} {i : UInt8} :
    teamWindowAccepts rating d i x = true ↔ (ratingWindow rating d i).Accepts x := by
  simp [teamWindowAccepts, RatingWindow.Accepts]

theorem soloWindowRejects_eq_not (rating d x : UInt32) (i : UInt8) :
    soloWindowRejects rating d i x = !teamWindowAccepts rating d i x := by
  simp only [soloWindowRejects, teamWindowAccepts, Bool.not_and, ge_iff_le, gt_iff_lt]
  congr 1 <;> simp [← UInt32.not_le]

theorem dynamicMMR_eq_widen (w : RatingWindow) {i : UInt8} (hi : i ≤ 6) :
    w.dynamicMMR i = w.widen (UInt32.ofNat (100 * i.toNat)) := by
  have hcases : i = 0 ∨ i = 1 ∨ i = 2 ∨ i = 3 ∨ i = 4 ∨ i = 5 ∨ i = 6 := by
    have hn : i.toNat ≤ 6 := UInt8.le_iff_toNat_le.mp hi
    simp only [← UInt8.toNat_inj]
    simp only [UInt8.reduceToNat]
    omega
  rcases hcases with rfl | rfl | rfl | rfl | rfl | rfl | rfl
  · simp [RatingWindow.dynamicMMR, RatingWindow.widen]
  all_goals rfl

theorem toNat_arenaMinRating {rating d : UInt32} {i : UInt8} (hi : i ≤ 6) :
    (ratingWindow rating d i).arenaMinRating.toNat
      = (2 ^ 32 - 100 * i.toNat + (rating.toNat - d.toNat)) % 2 ^ 32 := by
  have hn : i.toNat ≤ 6 := UInt8.le_iff_toNat_le.mp hi
  have hr := rating.toNat_lt
  have hd := d.toNat_lt
  have h100 : (UInt32.ofNat (100 * i.toNat)).toNat = 100 * i.toNat :=
    UInt32.toNat_ofNat_of_lt' (by simp only [UInt32.size]; omega)
  simp only [ratingWindow, dynamicMMR_eq_widen _ hi, RatingWindow.widen, UInt32.toNat_sub, h100,
    ratingRange]
  split
  · next h =>
    have h' := UInt32.le_iff_toNat_le.mp h
    rw [show (0 : UInt32).toNat = 0 from rfl, Nat.sub_eq_zero_of_le h']
  · next h =>
    have h' : d ≤ rating := UInt32.le_of_lt (UInt32.not_le.mp h)
    rw [UInt32.toNat_sub_of_le _ _ h']

theorem toNat_arenaMaxRating {rating d : UInt32} {i : UInt8} (hi : i ≤ 6) :
    (ratingWindow rating d i).arenaMaxRating.toNat
      = (rating.toNat + d.toNat + 100 * i.toNat) % 2 ^ 32 := by
  have hn : i.toNat ≤ 6 := UInt8.le_iff_toNat_le.mp hi
  have h100 : (UInt32.ofNat (100 * i.toNat)).toNat = 100 * i.toNat :=
    UInt32.toNat_ofNat_of_lt' (by simp only [UInt32.size]; omega)
  simp only [ratingWindow, dynamicMMR_eq_widen _ hi, RatingWindow.widen, UInt32.toNat_add, h100,
    ratingRange]
  omega

/-! ## 3. When the window grows -/

/-- Neither bound wraps at index `n`: below, the reference is at least `100 * n` above the
configured difference (at index 0 nothing is subtracted after the clamp); above, the sum fits
into 32 bits. -/
def NoWrap (rating d : UInt32) (n : UInt8) : Prop :=
  (n = 0 ∨ d.toNat + 100 * n.toNat ≤ rating.toNat) ∧
    rating.toNat + d.toNat + 100 * n.toNat < 2 ^ 32

instance (rating d : UInt32) (n : UInt8) : Decidable (NoWrap rating d n) :=
  inferInstanceAs (Decidable (_ ∧ _))

theorem accepts_iff_of_noWrap {rating d x : UInt32} {i n : UInt8} (hn : n ≤ 6) (hin : i ≤ n)
    (h : NoWrap rating d n) :
    (ratingWindow rating d i).Accepts x ↔
      rating.toNat ≤ x.toNat + d.toNat + 100 * i.toNat ∧
        x.toNat ≤ rating.toNat + d.toNat + 100 * i.toNat := by
  have hi : i ≤ 6 := UInt8.le_trans hin hn
  have hin' : i.toNat ≤ n.toNat := UInt8.le_iff_toNat_le.mp hin
  have hr := rating.toNat_lt
  obtain ⟨hlow, hhigh⟩ := h
  have hlow' : i.toNat = 0 ∨ d.toNat + 100 * i.toNat ≤ rating.toNat := by
    rcases hlow with rfl | hlow
    · exact Or.inl (Nat.le_zero.mp hin')
    · exact Or.inr (by omega)
  rw [RatingWindow.Accepts, UInt32.le_iff_toNat_le, UInt32.le_iff_toNat_le,
    toNat_arenaMinRating hi, toNat_arenaMaxRating hi]
  omega

theorem noWrap_of_accepts_self {rating d : UInt32} {n : UInt8} (hn : n ≤ 6)
    (h0 : (ratingWindow rating d 0).Accepts rating)
    (hself : (ratingWindow rating d n).Accepts rating) : NoWrap rating d n := by
  have hn' : n.toNat ≤ 6 := UInt8.le_iff_toNat_le.mp hn
  have hr := rating.toNat_lt
  have hd := d.toNat_lt
  rw [RatingWindow.Accepts, UInt32.le_iff_toNat_le, UInt32.le_iff_toNat_le,
    toNat_arenaMinRating (by decide), toNat_arenaMaxRating (by decide)] at h0
  rw [RatingWindow.Accepts, UInt32.le_iff_toNat_le, UInt32.le_iff_toNat_le,
    toNat_arenaMinRating hn, toNat_arenaMaxRating hn] at hself
  have h00 : (0 : UInt8).toNat = 0 := rfl
  rw [h00] at h0
  -- the upper bound at index 0 rules out a huge difference, and with it every double wrap
  have hsum : rating.toNat + d.toNat < 2 ^ 32 := by omega
  refine ⟨?_, by omega⟩
  rcases Nat.eq_zero_or_pos n.toNat with hz | hpos
  · exact Or.inl (UInt8.toNat_inj.mp hz)
  · -- a lower bound that wrapped lies above `2 ^ 32 - 600`, and the reference with it
    refine Or.inr (Nat.le_of_not_lt fun hlt => ?_)
    have hmod : (2 ^ 32 - 100 * n.toNat + (rating.toNat - d.toNat)) % 2 ^ 32
        = 2 ^ 32 - 100 * n.toNat + (rating.toNat - d.toNat) := Nat.mod_eq_of_lt (by omega)
    have hbound := hself.1
    rw [hmod] at hbound
    omega

/-- The law the queue relies on: up to index `n`, a longer wait accepts every rating a shorter
one accepts, and the reference rating is accepted throughout, in both copies. -/
def WindowGrows (rating d : UInt32) (n : UInt8) : Prop :=
  ∀ i j : UInt8, i ≤ j → j ≤ n →
    (∀ x, soloWindowRejects rating d i x = false → soloWindowRejects rating d j x = false) ∧
    (∀ x, teamWindowAccepts rating d i x = true → teamWindowAccepts rating d j x = true) ∧
    soloWindowRejects rating d i rating = false ∧ teamWindowAccepts rating d i rating = true

theorem WindowGrows.accepts_self {rating d : UInt32} {n i : UInt8} (h : WindowGrows rating d n)
    (hi : i ≤ n) : (ratingWindow rating d i).Accepts rating :=
  teamWindowAccepts_iff.mp (h i i (UInt8.le_refl i) hi).2.2.2

/-- **The window grows with the waiting time exactly when neither bound wraps.** -/
theorem ratingWindow_grows_iff (rating d : UInt32) (n : Fin 7) :
    WindowGrows rating d (UInt8.ofNat n) ↔ NoWrap rating d (UInt8.ofNat n) := by
  have hn : UInt8.ofNat n ≤ 6 := by
    rw [UInt8.le_iff_toNat_le, UInt8.toNat_ofNat_of_lt' (by simp only [UInt8.size]; omega)]
    exact Nat.le_of_lt_succ n.isLt
  constructor
  · intro h
    exact noWrap_of_accepts_self hn (h.accepts_self (UInt8.le_iff_toNat_le.mpr (Nat.zero_le _)))
      (h.accepts_self (UInt8.le_refl _))
  · intro h i j hij hjn
    have hij' : i.toNat ≤ j.toNat := UInt8.le_iff_toNat_le.mp hij
    have hin := UInt8.le_trans hij hjn
    have hgrow : ∀ x, teamWindowAccepts rating d i x = true →
        teamWindowAccepts rating d j x = true := by
      intro x hx
      rw [teamWindowAccepts_iff, accepts_iff_of_noWrap hn hin h] at hx
      rw [teamWindowAccepts_iff, accepts_iff_of_noWrap hn hjn h]
      omega
    have hself : teamWindowAccepts rating d i rating = true := by
      rw [teamWindowAccepts_iff, accepts_iff_of_noWrap hn hin h]
      omega
    refine ⟨?_, hgrow, ?_, hself⟩
    · intro x hx
      rw [soloWindowRejects_eq_not, Bool.not_eq_false'] at hx ⊢
      exact hgrow x hx
    · rw [soloWindowRejects_eq_not, hself]; rfl

/-- A team rated 200 with the usual difference of 150: after the first widening the lower bound
has wrapped, and the window no longer accepts the team's own rating. -/
theorem ratingWindow_shrinks_at_200 : ¬ WindowGrows 200 150 6 := by
  intro h
  exact absurd (h 1 6 (by decide) (by decide)).2.2.2 (by decide)

end FunPvp.Battleground
