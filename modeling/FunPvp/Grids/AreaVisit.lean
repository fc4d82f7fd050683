/-
# The cells of an area

A search around a point has to see every cell that its disc touches, each once, and none outside the
square around the disc. The last two always hold. The first fails in two ways, and only in these
(`visit_complete_iff`):

* where the square begins a whole cell or more outside the map, at its lower borders: the negative
  coordinate becomes a `uint32` before it is cut off at the border, so the area begins at the upper
  border and is empty, and only the standing cell is visited;
* where the octagon leaves out a cell that the disc reaches. Its corners are cut by the width of
  the area in cells, which is rounded up, and which at the border of the map is not the diameter
  any more.
-/
import FunPvp.Grids.Cell

namespace FunPvp.Grids

open FunPvp.Lib

/-! ## 1. Cells as squares -/

def cellLow (i : ℕ) : ℚ := (i - CENTER_GRID_CELL_ID : ℚ) * SIZE_OF_GRID_CELL

def cellHigh (i : ℕ) : ℚ := cellLow (i + 1)

/-- The position is on the map, on this axis. -/
def OnMap (x : ℚ) : Prop := -MAP_HALFSIZE ≤ x ∧ x < MAP_HALFSIZE

def Contains (cell : CellCoord) (x y : ℚ) : Prop :=
  (cellLow cell.x_coord ≤ x ∧ x < cellHigh cell.x_coord) ∧
    (cellLow cell.y_coord ≤ y ∧ y < cellHigh cell.y_coord)

theorem sizeOfGridCell_pos : 0 < SIZE_OF_GRID_CELL := by
  norm_num [SIZE_OF_GRID_CELL, SIZE_OF_GRIDS]

theorem mapHalfsize_eq : MAP_HALFSIZE = CENTER_GRID_CELL_ID * SIZE_OF_GRID_CELL := by
  norm_num [MAP_HALFSIZE, MAP_SIZE, SIZE_OF_GRID_CELL, CENTER_GRID_CELL_ID]
  ring

theorem sizeOfGrids_eq : SIZE_OF_GRIDS = 8 * SIZE_OF_GRID_CELL := by
  norm_num [SIZE_OF_GRID_CELL]
  ring

theorem cellLow_lt_cellHigh (i : ℕ) : cellLow i < cellHigh i := by
  unfold cellHigh cellLow
  push_cast
  nlinarith [sizeOfGridCell_pos]

/-- A coordinate in cells, counted from the lower border of the map. -/
def inCells (x : ℚ) : ℚ := x / SIZE_OF_GRID_CELL + CENTER_GRID_CELL_ID

theorem cellLow_le_iff {i : ℕ} {x : ℚ} : cellLow i ≤ x ↔ (i : ℚ) ≤ inCells x := by
  unfold cellLow inCells
  rw [← le_div_iff₀ sizeOfGridCell_pos, sub_le_iff_le_add]

theorem lt_cellHigh_iff {i : ℕ} {x : ℚ} : x < cellHigh i ↔ inCells x < i + 1 := by
  unfold cellHigh
  rw [← not_le, cellLow_le_iff, not_le]
  push_cast
  rfl

theorem compute_eq (x : ℚ) :
    compute CENTER_GRID_CELL_ID CENTER_GRID_CELL_OFFSET SIZE_OF_GRID_CELL x =
      toUInt32 (toInt (inCells x)) := by
  have hne := sizeOfGridCell_pos.ne'
  have hoffset : (x - CENTER_GRID_CELL_OFFSET) / SIZE_OF_GRID_CELL + CENTER_GRID_CELL_ID + 1 / 2 =
      inCells x := by
    unfold inCells CENTER_GRID_CELL_OFFSET
    rw [sub_div, div_div, div_mul_cancel_right₀ hne]
    ring
  unfold compute
  dsimp only
  rw [hoffset]

theorem toUInt32_toInt_of_nonneg {v : ℚ} (h : 0 ≤ v) (hlt : v < 2 ^ 32) :
    toUInt32 (toInt v) = ⌊v⌋₊ := by
  have hfloor : 0 ≤ ⌊v⌋ := Int.floor_nonneg.mpr h
  have hlt' : ⌊v⌋ < 2 ^ 32 := Int.floor_lt.mpr (by exact_mod_cast hlt)
  unfold toUInt32 toInt
  rw [if_pos h, Int.emod_eq_of_lt hfloor hlt', Int.floor_toNat]

theorem toUInt32_toInt_of_lt_zero {v : ℚ} (h : v < 0) (hgt : -1 < v) : toUInt32 (toInt v) = 0 := by
  have hceil : ⌈v⌉ = 0 := Int.ceil_eq_iff.mpr ⟨by simpa using hgt, by simpa using h.le⟩
  unfold toUInt32 toInt
  rw [if_neg (not_le.mpr h), hceil]
  rfl

theorem le_toUInt32_toInt {v : ℚ} (h : v ≤ -1) (hge : -2 ^ 31 ≤ v) :
    2 ^ 31 ≤ toUInt32 (toInt v) := by
  have hle : ⌈v⌉ ≤ -1 := Int.ceil_le.mpr (by exact_mod_cast h)
  have hge' : -2 ^ 31 ≤ ⌈v⌉ := by
    have : (-2 ^ 31 : ℚ) ≤ ⌈v⌉ := hge.trans (Int.le_ceil v)
    exact_mod_cast this
  unfold toUInt32 toInt
  rw [if_neg (not_le.mpr (h.trans_lt (by norm_num)))]
  omega

/-! ## 2. The span of a search on one axis -/

/-- The rows from `low` to `high` are those that have a point between `x - r` and `x + r`. -/
structure Spans (x r : ℚ) (low high : ℕ) : Prop where
  low_le_iff : ∀ i < TOTAL_NUMBER_OF_CELLS_PER_MAP, low ≤ i ↔ x - r < cellHigh i
  le_high_iff : ∀ i < TOTAL_NUMBER_OF_CELLS_PER_MAP, i ≤ high ↔ cellLow i ≤ x + r
  high_lt : high < TOTAL_NUMBER_OF_CELLS_PER_MAP

/-- The square begins less than a cell outside the map, on this axis. -/
def NoWrap (x r : ℚ) : Prop := -(MAP_HALFSIZE + SIZE_OF_GRID_CELL) < x - r

/-- One coordinate of `ComputeCellCoord(…).normalize()`. -/
def normalized (x : ℚ) : ℕ :=
  min (compute CENTER_GRID_CELL_ID CENTER_GRID_CELL_OFFSET SIZE_OF_GRID_CELL x)
    (TOTAL_NUMBER_OF_CELLS_PER_MAP - 1)

theorem calculateCellArea_eq {x y r : ℚ} (hr : 0 < r) :
    calculateCellArea x y r =
      ⟨⟨normalized (x - r), normalized (y - r)⟩, ⟨normalized (x + r), normalized (y + r)⟩⟩ := by
  unfold calculateCellArea
  rw [if_neg (not_le.mpr hr)]
  rfl

theorem onMap_iff {x : ℚ} : OnMap x ↔ 0 ≤ inCells x ∧ inCells x < 512 := by
  have hpos := sizeOfGridCell_pos
  unfold OnMap inCells
  rw [mapHalfsize_eq, ← neg_mul, ← le_div_iff₀ hpos, ← div_lt_iff₀ hpos]
  constructor
  · rintro ⟨h, h'⟩
    norm_num at h h' ⊢
    constructor <;> linarith
  · rintro ⟨h, h'⟩
    norm_num at h h' ⊢
    constructor <;> linarith

theorem inCells_sub {x r : ℚ} : inCells (x - r) = inCells x - r / SIZE_OF_GRID_CELL := by
  unfold inCells
  ring

theorem inCells_add {x r : ℚ} : inCells (x + r) = inCells x + r / SIZE_OF_GRID_CELL := by
  unfold inCells
  ring

theorem noWrap_iff {x r : ℚ} : NoWrap x r ↔ -1 < inCells (x - r) := by
  have hborder : -(MAP_HALFSIZE + SIZE_OF_GRID_CELL) = (-257) * SIZE_OF_GRID_CELL := by
    rw [mapHalfsize_eq]
    norm_num
    ring
  unfold NoWrap inCells
  rw [hborder, ← lt_div_iff₀ sizeOfGridCell_pos]
  norm_num
  constructor <;> intro h <;> linarith

theorem normalized_eq (x : ℚ) : normalized x = min (toUInt32 (toInt (inCells x))) 511 := by
  unfold normalized
  rw [compute_eq]
  rfl

section Axis

variable {x r : ℚ} (hx : OnMap x) (hr : 0 < r) (hr' : r ≤ SIZE_OF_GRIDS)
include hx hr hr'

theorem inCells_bounds :
    0 ≤ inCells x ∧ inCells x < 512 ∧ 0 < r / SIZE_OF_GRID_CELL ∧ r / SIZE_OF_GRID_CELL ≤ 8 := by
  obtain ⟨h, h'⟩ := onMap_iff.mp hx
  refine ⟨h, h', div_pos hr sizeOfGridCell_pos, (div_le_iff₀ sizeOfGridCell_pos).mpr ?_⟩
  rw [← sizeOfGrids_eq]
  exact hr'

theorem spans_of_noWrap (h : NoWrap x r) : Spans x r (normalized (x - r)) (normalized (x + r)) := by
  obtain ⟨h0, h512, hrpos, hr8⟩ := inCells_bounds hx hr hr'
  have hsub := @inCells_sub x r
  have hadd := @inCells_add x r
  rw [noWrap_iff] at h
  have hhigh : normalized (x + r) = min ⌊inCells (x + r)⌋₊ 511 := by
    rw [normalized_eq, toUInt32_toInt_of_nonneg (by linarith) (by linarith)]
  constructor
  · intro i hi
    rw [lt_cellHigh_iff]
    rcases lt_or_ge (inCells (x - r)) 0 with hneg | hnonneg
    · rw [normalized_eq, toUInt32_toInt_of_lt_zero hneg h]
      refine iff_of_true (by omega) ?_
      have : (0 : ℚ) ≤ i := Nat.cast_nonneg i
      linarith
    · rw [normalized_eq, toUInt32_toInt_of_nonneg hnonneg (by linarith)]
      have hfloor : ⌊inCells (x - r)⌋₊ < i + 1 ↔ inCells (x - r) < ((i + 1 : ℕ) : ℚ) :=
        Nat.floor_lt hnonneg
      have hlast : ⌊inCells (x - r)⌋₊ < 512 := (Nat.floor_lt hnonneg).mpr (by norm_num; linarith)
      push_cast at hfloor
      rw [← hfloor]
      omega
  · intro i hi
    rw [cellLow_le_iff, hhigh, ← Nat.le_floor_iff (by linarith)]
    have : TOTAL_NUMBER_OF_CELLS_PER_MAP = 512 := rfl
    omega
  · rw [hhigh]
    exact (min_le_right _ _).trans_lt (by decide)

/-- **Where it does, the first row is the last one of the map**, far beyond the last row of the
square. -/
theorem normalized_of_wrap (h : ¬ NoWrap x r) :
    normalized (x - r) = TOTAL_NUMBER_OF_CELLS_PER_MAP - 1 ∧ normalized (x + r) < 16 := by
  obtain ⟨h0, h512, hrpos, hr8⟩ := inCells_bounds hx hr hr'
  have hsub := @inCells_sub x r
  have hadd := @inCells_add x r
  rw [noWrap_iff, not_lt] at h
  constructor
  · rw [normalized_eq]
    have := le_toUInt32_toInt h (by linarith)
    exact min_eq_right (by omega)
  · rw [normalized_eq, toUInt32_toInt_of_nonneg (by linarith) (by linarith)]
    have hfloor : ⌊inCells (x + r)⌋₊ < 16 := (Nat.floor_lt (by linarith)).mpr (by norm_num; linarith)
    omega

end Axis

/-! ## 3. The octagon -/

@[simp] theorem mem_countUp {first last i : ℕ} : i ∈ countUp first last ↔ first ≤ i ∧ i ≤ last := by
  unfold countUp
  rw [List.mem_range'_1]
  omega

@[simp] theorem mem_countDown {first last i : ℕ} :
    i ∈ countDown first last ↔ last ≤ i ∧ i ≤ first := by
  unfold countDown
  rw [List.mem_reverse, mem_countUp]

theorem nodup_countUp (first last : ℕ) : (countUp first last).Nodup := List.nodup_range'

theorem nodup_countDown (first last : ℕ) : (countDown first last).Nodup :=
  List.nodup_reverse.mpr (nodup_countUp last first)

theorem nodup_flatMap_of_key {α β : Type} {l : List α} {f : α → List β} (key : β → α)
    (hl : l.Nodup) (hf : ∀ a ∈ l, (f a).Nodup) (hkey : ∀ a ∈ l, ∀ b ∈ f a, key b = a) :
    (l.flatMap f).Nodup := by
  refine List.nodup_flatMap.mpr ⟨hf, hl.pairwise_of_forall_ne fun a ha a' ha' hne => ?_⟩
  intro b hb hb'
  exact hne ((hkey a ha b hb).symm.trans (hkey a' ha' b hb'))

section Octagon

variable {b e : CellCoord}

theorem two_mul_xShift_le (h : b.x_coord + 4 < e.x_coord) :
    2 * xShift b e ≤ e.x_coord - b.x_coord := by
  unfold xShift
  set w := e.x_coord - b.x_coord with hw
  have hw5 : (5 : ℚ) ≤ w := by exact_mod_cast (show 5 ≤ w by omega)
  have hceil := Int.ceil_lt_add_one ((w : ℚ) * 0.3 - 0.5)
  have hlt : (2 * ⌈(w : ℚ) * 0.3 - 0.5⌉ : ℚ) < w := by
    norm_num at hceil ⊢
    linarith
  have hlt' : 2 * ⌈(w : ℚ) * 0.3 - 0.5⌉ < (w : ℤ) := by exact_mod_cast hlt
  omega

def cut (b e : CellCoord) (x : ℕ) : ℕ :=
  (b.x_coord + xShift b e - x) + (x - (e.x_coord - xShift b e))

theorem mem_strip {first last low high : ℕ} {cell : CellCoord} :
    (cell ∈ (countUp first last).flatMap fun x =>
      (countUp low high).map fun y => (⟨x, y⟩ : CellCoord)) ↔
      (first ≤ cell.x_coord ∧ cell.x_coord ≤ last) ∧ low ≤ cell.y_coord ∧ cell.y_coord ≤ high := by
  simp only [List.mem_flatMap, List.mem_map, mem_countUp]
  constructor
  · rintro ⟨x, hx, y, hy, rfl⟩
    exact ⟨hx, hy⟩
  · rintro ⟨hx, hy⟩
    exact ⟨_, hx, _, hy, rfl⟩

theorem mem_sides {steps first last low high : ℕ} {cell : CellCoord} :
    (cell ∈ (countUp 1 steps).flatMap fun step =>
      (countDown (high - step) (low + step)).flatMap fun y =>
        [(⟨first - step, y⟩ : CellCoord), ⟨last + step, y⟩]) ↔
      ∃ step, (1 ≤ step ∧ step ≤ steps) ∧
        (low + step ≤ cell.y_coord ∧ cell.y_coord ≤ high - step) ∧
        (cell.x_coord = first - step ∨ cell.x_coord = last + step) := by
  simp only [List.mem_flatMap, mem_countUp, mem_countDown, List.mem_cons, List.not_mem_nil,
    or_false]
  constructor
  · rintro ⟨step, hstep, y, hy, rfl | rfl⟩
    · exact ⟨step, hstep, hy, Or.inl rfl⟩
    · exact ⟨step, hstep, hy, Or.inr rfl⟩
  · rintro ⟨step, hstep, hy, hx | hx⟩
    · exact ⟨step, hstep, _, hy, Or.inl (by rw [← hx])⟩
    · exact ⟨step, hstep, _, hy, Or.inr (by rw [← hx])⟩

theorem mem_visitCircle (h : b.x_coord + 4 < e.x_coord) {cell : CellCoord} :
    cell ∈ visitCircle b e ↔ (b.x_coord ≤ cell.x_coord ∧ cell.x_coord ≤ e.x_coord) ∧
      (b.y_coord + cut b e cell.x_coord ≤ cell.y_coord ∧
        cell.y_coord + cut b e cell.x_coord ≤ e.y_coord) := by
  have hs := two_mul_xShift_le h
  unfold visitCircle cut
  dsimp only
  generalize xShift b e = s at hs ⊢
  split
  · next hzero =>
    rw [mem_strip]
    omega
  · rw [List.mem_append, mem_strip, mem_sides]
    constructor
    · rintro (hstrip | ⟨step, hstep, hy, hx | hx⟩)
      · omega
      · omega
      · omega
    · rintro ⟨hx, hy⟩
      by_cases hleft : cell.x_coord < b.x_coord + s
      · exact Or.inr ⟨b.x_coord + s - cell.x_coord, by omega, by omega, by omega⟩
      · by_cases hright : e.x_coord - s < cell.x_coord
        · exact Or.inr ⟨cell.x_coord - (e.x_coord - s), by omega, by omega, by omega⟩
        · left
          omega

theorem nodup_visitCircle (h : b.x_coord + 4 < e.x_coord) : (visitCircle b e).Nodup := by
  have hs := two_mul_xShift_le h
  unfold visitCircle
  dsimp only
  generalize xShift b e = s at hs ⊢
  have hstrip : ((countUp (b.x_coord + s) (e.x_coord - s)).flatMap fun x =>
      (countUp b.y_coord e.y_coord).map fun y => (⟨x, y⟩ : CellCoord)).Nodup := by
    refine nodup_flatMap_of_key CoordPair.x_coord (nodup_countUp _ _) ?_ ?_
    · intro x _
      exact (nodup_countUp _ _).map fun y y' heq => congrArg CoordPair.y_coord heq
    · intro x _ cell hcell
      obtain ⟨y, -, rfl⟩ := List.mem_map.mp hcell
      rfl
  split
  · exact hstrip
  · refine List.nodup_append.mpr ⟨hstrip, ?_, ?_⟩
    · refine nodup_flatMap_of_key
        (fun cell : CellCoord => (b.x_coord + s - cell.x_coord) + (cell.x_coord - (e.x_coord - s)))
        (nodup_countUp _ _) ?_ ?_
      · intro step hstep
        refine nodup_flatMap_of_key CoordPair.y_coord (nodup_countDown _ _) ?_ ?_
        · intro y _
          rw [mem_countUp] at hstep
          simp only [List.nodup_cons, List.mem_singleton, List.not_mem_nil, not_false_iff,
            List.nodup_nil, and_true, CoordPair.mk.injEq]
          omega
        · intro y _ cell hcell
          rcases List.mem_cons.mp hcell with rfl | hcell
          · rfl
          · rw [List.mem_singleton.mp hcell]
      · intro step hstep cell hcell
        rw [mem_countUp] at hstep
        obtain ⟨y, -, hy⟩ := List.mem_flatMap.mp hcell
        rcases List.mem_cons.mp hy with rfl | hy
        · dsimp only
          omega
        · rw [List.mem_singleton.mp hy]
          dsimp only
          omega
    · intro cell hcell cell' hcell' heq
      subst heq
      rw [mem_strip] at hcell
      obtain ⟨step, hstep, -, hx⟩ := mem_sides.mp hcell'
      omega

end Octagon

/-! ## 4. What a search should visit -/

/-- The cell has a point within `r` of the position. -/
def Touches (x y r : ℚ) (cell : CellCoord) : Prop :=
  ∃ q q', Contains cell q q' ∧ (q - x) ^ 2 + (q' - y) ^ 2 ≤ r ^ 2

/-- The cell has a point in the square around that disc. -/
def InSquare (x y r : ℚ) (cell : CellCoord) : Prop :=
  ∃ q q', Contains cell q q' ∧ |q - x| ≤ r ∧ |q' - y| ≤ r

/-- A search visits every cell that the disc touches, none twice and none outside the square. -/
structure Complete (visited : List CellCoord) (x y r : ℚ) : Prop where
  covers : ∀ cell : CellCoord, cell.isCoordValid → Touches x y r cell → cell ∈ visited
  nodup : visited.Nodup
  inside : ∀ cell ∈ visited, cell.isCoordValid ∧ InSquare x y r cell

/-- The cells that a search from a position visits, in order. It starts from the cell of the
position, which may or may not load its grid. -/
def visitedCells (nocreate : Bool) (x y r : ℚ) : List CellCoord :=
  ({ Cell.ofCoord (computeCellCoord x y) with nocreate := nocreate }.visit
    (computeCellCoord x y) r x y).map Cell.getCellCoord

/-- The area is more than four cells wide each way: the search takes the octagon. -/
def CellArea.Wide (area : CellArea) : Prop :=
  area.high_bound.x_coord > area.low_bound.x_coord + 4 ∧
    area.high_bound.y_coord > area.low_bound.y_coord + 4

instance (area : CellArea) : Decidable area.Wide := inferInstanceAs (Decidable (_ ∧ _))

def CellArea.Has (area : CellArea) (cell : CellCoord) : Prop :=
  (area.low_bound.x_coord ≤ cell.x_coord ∧ cell.x_coord ≤ area.high_bound.x_coord) ∧
    (area.low_bound.y_coord ≤ cell.y_coord ∧ cell.y_coord ≤ area.high_bound.y_coord)

/-- The cell is in one of the corners that the octagon leaves out. -/
def CellArea.CutOff (area : CellArea) (cell : CellCoord) : Prop :=
  area.Has cell ∧
    (cell.y_coord < area.low_bound.y_coord + cut area.low_bound area.high_bound cell.x_coord ∨
      area.high_bound.y_coord < cell.y_coord + cut area.low_bound area.high_bound cell.x_coord)

/-- The cell comes within `r` of the position. -/
def Reaches (x y r : ℚ) (cell : CellCoord) : Prop :=
  BoxReaches (cellLow cell.x_coord) (cellHigh cell.x_coord) (cellLow cell.y_coord)
    (cellHigh cell.y_coord) x y r

theorem touches_iff {x y r : ℚ} {cell : CellCoord} : Touches x y r cell ↔ Reaches x y r cell := by
  unfold Reaches
  rw [← exists_mem_box_iff (cellLow_lt_cellHigh _) (cellLow_lt_cellHigh _)]
  unfold Touches Contains
  simp only [and_assoc]

theorem Touches.inSquare {x y r : ℚ} (hr : 0 < r) {cell : CellCoord} (h : Touches x y r cell) :
    InSquare x y r cell := by
  obtain ⟨q, q', hmem, hle⟩ := h
  refine ⟨q, q', hmem, abs_le_of_sq_le_sq ?_ hr.le, abs_le_of_sq_le_sq ?_ hr.le⟩
  · nlinarith [sq_nonneg (q' - y)]
  · nlinarith [sq_nonneg (q - x)]

theorem Spans.mem_iff {x r : ℚ} {low high : ℕ} (h : Spans x r low high) {i : ℕ}
    (hi : i < TOTAL_NUMBER_OF_CELLS_PER_MAP) (hr : 0 < r) :
    (low ≤ i ∧ i ≤ high) ↔ ∃ q, (cellLow i ≤ q ∧ q < cellHigh i) ∧ |q - x| ≤ r := by
  rw [h.low_le_iff i hi, h.le_high_iff i hi]
  constructor
  · rintro ⟨hlow, hhigh⟩
    refine ⟨max (cellLow i) (x - r), ⟨le_max_left _ _, max_lt (cellLow_lt_cellHigh i) hlow⟩, ?_⟩
    rw [abs_le]
    constructor
    · have := le_max_right (cellLow i) (x - r)
      linarith
    · have : max (cellLow i) (x - r) ≤ x + r := max_le hhigh (by linarith)
      linarith
  · rintro ⟨q, ⟨hlow, hhigh⟩, hq⟩
    obtain ⟨h1, h2⟩ := abs_le.mp hq
    constructor <;> linarith

def searchArea (x y r : ℚ) : CellArea :=
  ⟨⟨normalized (x - r), normalized (y - r)⟩, ⟨normalized (x + r), normalized (y + r)⟩⟩

section Search

variable {x y r : ℚ}

theorem searchArea_has_iff (hx : Spans x r (normalized (x - r)) (normalized (x + r)))
    (hy : Spans y r (normalized (y - r)) (normalized (y + r))) (hr : 0 < r) {cell : CellCoord} :
    (searchArea x y r).Has cell ↔ cell.isCoordValid ∧ InSquare x y r cell := by
  constructor
  · rintro ⟨hxs, hys⟩
    have hX := hxs.2.trans_lt hx.high_lt
    have hY := hys.2.trans_lt hy.high_lt
    obtain ⟨q, hq, hqr⟩ := (hx.mem_iff hX hr).mp hxs
    obtain ⟨q', hq', hqr'⟩ := (hy.mem_iff hY hr).mp hys
    exact ⟨⟨hX, hY⟩, q, q', ⟨hq, hq'⟩, hqr, hqr'⟩
  · rintro ⟨⟨hX, hY⟩, q, q', ⟨hq, hq'⟩, hqr, hqr'⟩
    exact ⟨(hx.mem_iff hX hr).mpr ⟨q, hq, hqr⟩, (hy.mem_iff hY hr).mpr ⟨q', hq', hqr'⟩⟩

theorem row_of_onMap (hx : OnMap x) :
    ∃ i < TOTAL_NUMBER_OF_CELLS_PER_MAP,
      compute CENTER_GRID_CELL_ID CENTER_GRID_CELL_OFFSET SIZE_OF_GRID_CELL x = i ∧
        cellLow i ≤ x ∧ x < cellHigh i := by
  obtain ⟨h0, h512⟩ := onMap_iff.mp hx
  refine ⟨⌊inCells x⌋₊, (Nat.floor_lt h0).mpr (by norm_num; linarith), ?_, ?_, ?_⟩
  · rw [compute_eq, toUInt32_toInt_of_nonneg h0 (by linarith)]
  · rw [cellLow_le_iff]
    exact Nat.floor_le h0
  · rw [lt_cellHigh_iff]
    exact Nat.lt_floor_add_one _

theorem contains_computeCellCoord (hx : OnMap x) (hy : OnMap y) :
    (computeCellCoord x y).isCoordValid ∧ Contains (computeCellCoord x y) x y := by
  obtain ⟨i, hi, hxi, hxmem⟩ := row_of_onMap hx
  obtain ⟨j, hj, hyj, hymem⟩ := row_of_onMap hy
  unfold computeCellCoord
  rw [hxi, hyj]
  exact ⟨⟨hi, hj⟩, hxmem, hymem⟩

theorem touches_computeCellCoord (hx : OnMap x) (hy : OnMap y) :
    Touches x y r (computeCellCoord x y) :=
  ⟨x, y, (contains_computeCellCoord hx hy).2, by nlinarith [sq_nonneg r]⟩

theorem getCellCoord_ofCoord {p : CellCoord} (h : p.isCoordValid) (nocreate : Bool) :
    Cell.getCellCoord { Cell.ofCoord p with nocreate := nocreate } = p := by
  obtain ⟨hx, hy⟩ := h
  have h512 : TOTAL_NUMBER_OF_CELLS_PER_MAP = 512 := rfl
  cases p with
  | mk a b =>
    unfold Cell.getCellCoord Cell.ofCoord
    rw [CoordPair.mk.injEq]
    dsimp only at hx hy ⊢
    rw [show MAX_NUMBER_OF_CELLS = 8 from rfl]
    omega

theorem map_zone {cells : List CellCoord} (h : ∀ p ∈ cells, p.isCoordValid) (this : Cell) :
    (cells.map this.zone).map Cell.getCellCoord = cells := by
  rw [List.map_map]
  refine List.map_congr_left (fun p hp => ?_) |>.trans (List.map_id cells)
  exact getCellCoord_ofCoord (h p hp) _

def rectangleBut (area : CellArea) (p : CellCoord) : List CellCoord :=
  (countUp area.low_bound.x_coord area.high_bound.x_coord).flatMap fun x =>
    ((countUp area.low_bound.y_coord area.high_bound.y_coord).filter fun y =>
      (⟨x, y⟩ : CellCoord) ≠ p).map fun y => ⟨x, y⟩

theorem mem_rectangleBut {area : CellArea} {p cell : CellCoord} :
    cell ∈ rectangleBut area p ↔ area.Has cell ∧ cell ≠ p := by
  unfold rectangleBut CellArea.Has
  simp only [List.mem_flatMap, List.mem_map, List.mem_filter, mem_countUp, decide_eq_true_eq]
  constructor
  · rintro ⟨x, hx, y, ⟨hy, hne⟩, rfl⟩
    exact ⟨⟨hx, hy⟩, hne⟩
  · rintro ⟨⟨hx, hy⟩, hne⟩
    exact ⟨_, hx, _, ⟨hy, hne⟩, rfl⟩

theorem nodup_rectangleBut (area : CellArea) (p : CellCoord) : (rectangleBut area p).Nodup := by
  refine nodup_flatMap_of_key CoordPair.x_coord (nodup_countUp _ _) ?_ ?_
  · intro x _
    exact ((nodup_countUp _ _).filter _).map fun y y' heq => congrArg CoordPair.y_coord heq
  · intro x _ cell hcell
    obtain ⟨y, -, rfl⟩ := List.mem_map.mp hcell
    rfl

theorem normalized_lt (x : ℚ) : normalized x < TOTAL_NUMBER_OF_CELLS_PER_MAP :=
  (min_le_right _ _).trans_lt (by decide)

theorem has_of_mem_visitCircle {area : CellArea} (hwide : area.Wide) {cell : CellCoord}
    (h : cell ∈ visitCircle area.low_bound area.high_bound) : area.Has cell := by
  obtain ⟨hx, hy⟩ := (mem_visitCircle hwide.1).mp h
  unfold CellArea.Has
  omega

theorem CellArea.Has.isCoordValid {cell : CellCoord} (h : (searchArea x y r).Has cell) :
    cell.isCoordValid :=
  ⟨h.1.2.trans_lt (normalized_lt _), h.2.2.trans_lt (normalized_lt _)⟩

theorem CellArea.Has.eq_of_point {area : CellArea} {cell cell' : CellCoord} (h : area.Has cell)
    (hpoint : area.low_bound = area.high_bound) (h' : area.Has cell') : cell = cell' := by
  unfold CellArea.Has at h h'
  rw [hpoint] at h h'
  cases cell
  cases cell'
  rw [CoordPair.mk.injEq]
  dsimp only at h h'
  omega

theorem visit_eq (this : Cell) {p : CellCoord} (hvalid : p.isCoordValid) (hr : 0 < r)
    (hr' : r ≤ SIZE_OF_GRIDS) :
    this.visit p r x y =
      if (searchArea x y r).low_bound = (searchArea x y r).high_bound then [this]
      else if (searchArea x y r).Wide then
        (visitCircle (searchArea x y r).low_bound (searchArea x y r).high_bound).map this.zone
      else this :: (rectangleBut (searchArea x y r) p).map this.zone := by
  unfold Cell.visit
  rw [if_neg (not_not.mpr hvalid), if_neg (not_le.mpr hr), if_neg (not_lt.mpr hr')]
  dsimp only
  rw [calculateCellArea_eq hr]
  unfold rectangleBut
  rw [List.map_flatMap]
  simp only [List.map_map]
  rfl

theorem visitedCells_eq (hx : OnMap x) (hy : OnMap y) (hr : 0 < r) (hr' : r ≤ SIZE_OF_GRIDS)
    (nocreate : Bool) :
    visitedCells nocreate x y r =
      if (searchArea x y r).low_bound = (searchArea x y r).high_bound then [computeCellCoord x y]
      else if (searchArea x y r).Wide then
        visitCircle (searchArea x y r).low_bound (searchArea x y r).high_bound
      else computeCellCoord x y :: rectangleBut (searchArea x y r) (computeCellCoord x y) := by
  have hvalid := (contains_computeCellCoord hx hy).1
  unfold visitedCells
  rw [visit_eq _ hvalid hr hr']
  split_ifs with hpoint hwide
  · rw [List.map_singleton, getCellCoord_ofCoord hvalid]
  · exact map_zone (fun cell hcell => (has_of_mem_visitCircle hwide hcell).isCoordValid) _
  · rw [List.map_cons, getCellCoord_ofCoord hvalid,
      map_zone fun cell hcell => (mem_rectangleBut.mp hcell).1.isCoordValid]

theorem visitedCells_of_wrap (hx : OnMap x) (hy : OnMap y) (hr : 0 < r) (hr' : r ≤ SIZE_OF_GRIDS)
    (nocreate : Bool) (h : ¬ NoWrap x r ∨ ¬ NoWrap y r) :
    visitedCells nocreate x y r = [computeCellCoord x y] := by
  have hempty : ∀ cell, ¬ (searchArea x y r).Has cell := by
    rintro cell ⟨⟨h1, h2⟩, h3, h4⟩
    unfold searchArea at h1 h2 h3 h4
    have h512 : TOTAL_NUMBER_OF_CELLS_PER_MAP = 512 := rfl
    rcases h with h | h
    · obtain ⟨hlow, hhigh⟩ := normalized_of_wrap hx hr hr' h
      dsimp only at h1 h2
      omega
    · obtain ⟨hlow, hhigh⟩ := normalized_of_wrap hy hr hr' h
      dsimp only at h3 h4
      omega
  have hne : (searchArea x y r).low_bound ≠ (searchArea x y r).high_bound := by
    intro heq
    refine hempty (searchArea x y r).low_bound ⟨⟨le_rfl, ?_⟩, le_rfl, ?_⟩
    · rw [heq]
    · rw [heq]
  have hnotWide : ¬ (searchArea x y r).Wide := by
    rintro ⟨hwx, hwy⟩
    exact hempty (searchArea x y r).low_bound ⟨⟨le_rfl, by omega⟩, le_rfl, by omega⟩
  rw [visitedCells_eq hx hy hr hr', if_neg hne, if_neg hnotWide,
    List.eq_nil_iff_forall_not_mem.mpr fun cell hcell => hempty cell (mem_rectangleBut.mp hcell).1]

theorem next_row_of_wrap (hx : OnMap x) (hr' : r ≤ SIZE_OF_GRIDS) (h : ¬ NoWrap x r) {i : ℕ}
    (hi : cellLow i ≤ x) (hi' : x < cellHigh i) :
    i + 1 < TOTAL_NUMBER_OF_CELLS_PER_MAP ∧ cellHigh i < cellHigh (i + 1) ∧
      (cellHigh i - x) ^ 2 ≤ r ^ 2 := by
  have hpos := sizeOfGridCell_pos
  have hhalf := mapHalfsize_eq
  have hsize := sizeOfGrids_eq
  unfold NoWrap at h
  rw [not_lt] at h
  have hhigh : cellHigh i = cellLow i + SIZE_OF_GRID_CELL := by
    unfold cellHigh cellLow
    push_cast
    ring
  refine ⟨?_, cellLow_lt_cellHigh (i + 1), ?_⟩
  · rw [cellLow_le_iff] at hi
    have hle : inCells x < 8 := by
      unfold inCells
      norm_num at hhalf ⊢
      have : x / SIZE_OF_GRID_CELL < -248 := (div_lt_iff₀ hpos).mpr (by linarith)
      linarith
    have : (i : ℚ) < 8 := hi.trans_lt hle
    have : i < 8 := by exact_mod_cast this
    exact (show i + 1 < 9 by omega).trans (by decide)
  · have hrc : SIZE_OF_GRID_CELL ≤ r := by
      have := hx.1
      linarith
    exact pow_le_pow_left₀ (by linarith) (by linarith) 2

theorem not_complete_of_wrap (hx : OnMap x) (hy : OnMap y) (hr : 0 < r) (hr' : r ≤ SIZE_OF_GRIDS)
    (nocreate : Bool) (h : ¬ NoWrap x r ∨ ¬ NoWrap y r) :
    ¬ Complete (visitedCells nocreate x y r) x y r := by
  rw [visitedCells_of_wrap hx hy hr hr' nocreate h]
  intro hcomplete
  obtain ⟨hvalid, hcx, hcy⟩ := contains_computeCellCoord hx hy
  set p := computeCellCoord x y
  rcases h with h | h
  · obtain ⟨hlt, hrow, hle⟩ := next_row_of_wrap hx hr' h hcx.1 hcx.2
    have hmem := hcomplete.covers ⟨p.x_coord + 1, p.y_coord⟩ ⟨hlt, hvalid.2⟩
      ⟨cellHigh p.x_coord, y, ⟨⟨le_rfl, hrow⟩, hcy⟩, by simpa using hle⟩
    have := congrArg CoordPair.x_coord (List.mem_singleton.mp hmem)
    simp at this
  · obtain ⟨hlt, hrow, hle⟩ := next_row_of_wrap hy hr' h hcy.1 hcy.2
    have hmem := hcomplete.covers ⟨p.x_coord, p.y_coord + 1⟩ ⟨hvalid.1, hlt⟩
      ⟨x, cellHigh p.y_coord, ⟨hcx, ⟨le_rfl, hrow⟩⟩, by simpa using hle⟩
    have := congrArg CoordPair.y_coord (List.mem_singleton.mp hmem)
    simp at this

/-- Where it does not, a search is complete as soon as it visits what the disc touches: whatever its
path, it visits no cell twice and none outside its area. -/
theorem complete_iff_covers (hx : OnMap x) (hy : OnMap y) (hr : 0 < r) (hr' : r ≤ SIZE_OF_GRIDS)
    (nocreate : Bool) (hwx : NoWrap x r) (hwy : NoWrap y r) :
    Complete (visitedCells nocreate x y r) x y r ↔
      ∀ cell, (searchArea x y r).Has cell → Touches x y r cell →
        cell ∈ visitedCells nocreate x y r := by
  have hhas := @searchArea_has_iff x y r (spans_of_noWrap hx hr hr' hwx)
    (spans_of_noWrap hy hr hr' hwy) hr
  have hstart : (computeCellCoord x y).isCoordValid ∧ InSquare x y r (computeCellCoord x y) :=
    ⟨(contains_computeCellCoord hx hy).1, (touches_computeCellCoord hx hy).inSquare hr⟩
  constructor
  · intro h cell hcell htouches
    exact h.covers cell (hhas.mp hcell).1 htouches
  · intro h
    refine ⟨fun cell hvalid htouches =>
      h cell (hhas.mpr ⟨hvalid, htouches.inSquare hr⟩) htouches, ?_, ?_⟩
    · rw [visitedCells_eq hx hy hr hr']
      split_ifs with hpoint hwide
      · exact List.nodup_singleton _
      · exact nodup_visitCircle hwide.1
      · exact List.nodup_cons.mpr
          ⟨fun hmem => (mem_rectangleBut.mp hmem).2 rfl, nodup_rectangleBut _ _⟩
    · rw [visitedCells_eq hx hy hr hr']
      intro cell hcell
      split_ifs at hcell with hpoint hwide
      · rw [List.mem_singleton.mp hcell]
        exact hstart
      · exact hhas.mp (has_of_mem_visitCircle hwide hcell)
      · rcases List.mem_cons.mp hcell with rfl | hcell
        · exact hstart
        · exact hhas.mp (mem_rectangleBut.mp hcell).1

/-- **Which searches are complete.**  From a position on the map, with a radius of up to a grid, a
search visits every cell that its disc touches, none twice and none outside its square, if and only
if the square begins less than a cell outside the map and, where it is more than four cells wide
each way, the disc stays out of the corners that the octagon cuts off. -/
theorem visit_complete_iff (hx : OnMap x) (hy : OnMap y) (hr : 0 < r) (hr' : r ≤ SIZE_OF_GRIDS)
    (nocreate : Bool) :
    Complete (visitedCells nocreate x y r) x y r ↔
      NoWrap x r ∧ NoWrap y r ∧
        ((calculateCellArea x y r).Wide →
          ∀ cell, (calculateCellArea x y r).CutOff cell → ¬ Reaches x y r cell) := by
  rw [show calculateCellArea x y r = searchArea x y r from calculateCellArea_eq hr]
  by_cases hwx : NoWrap x r
  swap
  · exact iff_of_false (not_complete_of_wrap hx hy hr hr' nocreate (Or.inl hwx)) fun h => hwx h.1
  by_cases hwy : NoWrap y r
  swap
  · exact iff_of_false (not_complete_of_wrap hx hy hr hr' nocreate (Or.inr hwy)) fun h => hwy h.2.1
  have hhas := @searchArea_has_iff x y r (spans_of_noWrap hx hr hr' hwx)
    (spans_of_noWrap hy hr hr' hwy) hr
  rw [complete_iff_covers hx hy hr hr' nocreate hwx hwy, visitedCells_eq hx hy hr hr']
  simp only [hwx, hwy, true_and]
  split_ifs with hpoint hwide
  · refine iff_of_true ?_ fun hwide => ?_
    · intro cell hcell _
      have hstart := hhas.mpr ⟨(contains_computeCellCoord hx hy).1,
        (touches_computeCellCoord hx hy).inSquare hr⟩
      exact List.mem_singleton.mpr (hcell.eq_of_point hpoint hstart)
    · have := hwide.1
      rw [hpoint] at this
      omega
  · constructor
    · intro h _ cell hcut hreaches
      obtain ⟨hx', hy'⟩ := (mem_visitCircle hwide.1).mp (h cell hcut.1 (touches_iff.mpr hreaches))
      rcases hcut.2 with hlow | hhigh
      · omega
      · omega
    · intro h cell hcell htouches
      by_contra hmem
      rw [mem_visitCircle hwide.1] at hmem
      refine h hwide cell ⟨hcell, ?_⟩ (touches_iff.mp htouches)
      have := hcell.1
      omega
  · refine iff_of_true ?_ fun h => absurd h hwide
    intro cell hcell _
    by_cases heq : cell = computeCellCoord x y
    · rw [heq]
      exact List.mem_cons_self
    · exact List.mem_cons_of_mem _ (mem_rectangleBut.mpr ⟨hcell, heq⟩)

end Search

theorem onMap_zero : OnMap 0 := by
  norm_num [OnMap, MAP_HALFSIZE, MAP_SIZE, SIZE_OF_GRIDS]

/-- A search of 100 yards in the middle of the map. -/
theorem middle_complete : Complete (visitedCells true 0 0 100) 0 0 100 := by
  have hwrap : NoWrap 0 100 := by
    norm_num [NoWrap, MAP_HALFSIZE, MAP_SIZE, SIZE_OF_GRID_CELL, SIZE_OF_GRIDS]
  refine (visit_complete_iff onMap_zero onMap_zero (by norm_num)
    (by norm_num [SIZE_OF_GRIDS]) true).mpr ⟨hwrap, hwrap, fun hwide => ?_⟩
  exact absurd hwide (by decide +kernel)

/-- A search of 200 yards from 100 yards inside the border visits one cell. One of a grid's size in
the middle of the map leaves out a cell that its disc reaches. -/
theorem border_and_corner_not_complete :
    (visitedCells true (100 - MAP_HALFSIZE) 0 200 = [⟨1, 256⟩] ∧
      ¬ Complete (visitedCells true (100 - MAP_HALFSIZE) 0 200) (100 - MAP_HALFSIZE) 0 200) ∧
      ¬ Complete (visitedCells true 0 0 SIZE_OF_GRIDS) 0 0 SIZE_OF_GRIDS := by
  have hborder : visitedCells true (100 - MAP_HALFSIZE) 0 200 = [⟨1, 256⟩] := by decide +kernel
  refine ⟨⟨hborder, fun h => ?_⟩, fun h => ?_⟩
  · rw [hborder] at h
    have hmem := h.covers ⟨2, 256⟩ (by decide)
      ⟨140 - MAP_HALFSIZE, 0, by unfold Contains; decide +kernel, by norm_num⟩
    exact absurd hmem (by decide)
  · have hmem := h.covers ⟨248, 252⟩ (by decide)
      ⟨-7.05 * SIZE_OF_GRID_CELL, -3.75 * SIZE_OF_GRID_CELL, by unfold Contains; decide +kernel,
        by norm_num [SIZE_OF_GRID_CELL, SIZE_OF_GRIDS]⟩
    exact absurd hmem (by decide +kernel)

end FunPvp.Grids
