/-
# Cells

A map is a square of 64 by 64 grids of 8 by 8 cells. A search around a point visits the cells of
the square that the radius spans, or, if that is more than four cells wide each way, only an octagon
of them.

A visit of a cell is a call of `Map::Visit`, and `Cell::Visit` is the list of its visits, in order.
Coordinates are exact here, where the source has `float` and `double`; the conversions to `int` and
from there to `uint32` are those of the source, and the unsigned arithmetic after them stays far
below `2 ^ 32`.
-/
import FunPvp.Lib.HalfOpen

namespace FunPvp.Grids

/-! ## 1. Sizes -/

abbrev MAX_NUMBER_OF_CELLS : ℕ := 8
abbrev MAX_NUMBER_OF_GRIDS : ℕ := 64
abbrev TOTAL_NUMBER_OF_CELLS_PER_MAP : ℕ := MAX_NUMBER_OF_GRIDS * MAX_NUMBER_OF_CELLS
abbrev CENTER_GRID_CELL_ID : ℕ := MAX_NUMBER_OF_CELLS * MAX_NUMBER_OF_GRIDS / 2

def SIZE_OF_GRIDS : ℚ := 533.3333
def SIZE_OF_GRID_CELL : ℚ := SIZE_OF_GRIDS / MAX_NUMBER_OF_CELLS
def CENTER_GRID_CELL_OFFSET : ℚ := SIZE_OF_GRID_CELL / 2
def MAP_SIZE : ℚ := SIZE_OF_GRIDS * MAX_NUMBER_OF_GRIDS
def MAP_HALFSIZE : ℚ := MAP_SIZE / 2

/-! ## 2. Coordinates -/

structure CoordPair (LIMIT : ℕ) where
  x_coord : ℕ
  y_coord : ℕ
  deriving DecidableEq

abbrev CellCoord := CoordPair TOTAL_NUMBER_OF_CELLS_PER_MAP

def CoordPair.isCoordValid {LIMIT : ℕ} (p : CoordPair LIMIT) : Prop :=
  p.x_coord < LIMIT ∧ p.y_coord < LIMIT

instance {LIMIT : ℕ} (p : CoordPair LIMIT) : Decidable p.isCoordValid :=
  inferInstanceAs (Decidable (_ ∧ _))

def CoordPair.normalize {LIMIT : ℕ} (p : CoordPair LIMIT) : CoordPair LIMIT :=
  ⟨min p.x_coord (LIMIT - 1), min p.y_coord (LIMIT - 1)⟩

/-- `int(x)`: rounds towards zero. -/
def toInt (x : ℚ) : ℤ := if 0 ≤ x then ⌊x⌋ else ⌈x⌉

def toUInt32 (z : ℤ) : ℕ := (z % 2 ^ 32).toNat

/-- One coordinate of `Compute`. -/
def compute (centerVal : ℕ) (centerOffset size x : ℚ) : ℕ :=
  let offset := (x - centerOffset) / size
  toUInt32 (toInt (offset + centerVal + 1 / 2))

def computeCellCoord (x y : ℚ) : CellCoord :=
  ⟨compute CENTER_GRID_CELL_ID CENTER_GRID_CELL_OFFSET SIZE_OF_GRID_CELL x,
    compute CENTER_GRID_CELL_ID CENTER_GRID_CELL_OFFSET SIZE_OF_GRID_CELL y⟩

/-! ## 3. Cells -/

/-- `Cell`: the grid, the cell in it, and whether a visit may load the grid. The coordinates are
fields of six bits. -/
structure Cell where
  grid_x : ℕ
  grid_y : ℕ
  cell_x : ℕ
  cell_y : ℕ
  nocreate : Bool
  deriving DecidableEq

def Cell.ofCoord (p : CellCoord) : Cell where
  grid_x := p.x_coord / MAX_NUMBER_OF_CELLS % 2 ^ 6
  grid_y := p.y_coord / MAX_NUMBER_OF_CELLS % 2 ^ 6
  cell_x := p.x_coord % MAX_NUMBER_OF_CELLS % 2 ^ 6
  cell_y := p.y_coord % MAX_NUMBER_OF_CELLS % 2 ^ 6
  nocreate := false

def Cell.getCellCoord (c : Cell) : CellCoord :=
  ⟨c.grid_x * MAX_NUMBER_OF_CELLS + c.cell_x, c.grid_y * MAX_NUMBER_OF_CELLS + c.cell_y⟩

/-- `Cell r_zone(cellCoord); r_zone.data.Part.nocreate = this->data.Part.nocreate;` -/
def Cell.zone (this : Cell) (p : CellCoord) : Cell :=
  { Cell.ofCoord p with nocreate := this.nocreate }

structure CellArea where
  low_bound : CellCoord
  high_bound : CellCoord

def calculateCellArea (x y radius : ℚ) : CellArea :=
  if radius ≤ 0 then
    let center := (computeCellCoord x y).normalize
    ⟨center, center⟩
  else
    ⟨(computeCellCoord (x - radius) (y - radius)).normalize,
      (computeCellCoord (x + radius) (y + radius)).normalize⟩

/-! ## 4. Visits -/

def countUp (first last : ℕ) : List ℕ := List.range' first (last + 1 - first)

/-- `for (i = first; i >= last; --i)`. Here `last` is at least 1, and `i` does not go below zero. -/
def countDown (first last : ℕ) : List ℕ := (countUp last first).reverse

/-- `x_shift`: `ceilf((end_cell.x_coord - begin_cell.x_coord) * 0.3f - 0.5f)`. -/
def xShift (begin_cell end_cell : CellCoord) : ℕ :=
  ⌈((end_cell.x_coord - begin_cell.x_coord : ℕ) : ℚ) * 0.3 - 0.5⌉.toNat

/-- The visits of `VisitCircle`: a central strip, and then the columns on both sides of it, each a
cell shorter at both ends than the last. -/
def visitCircle (begin_cell end_cell : CellCoord) : List CellCoord :=
  let x_shift := xShift begin_cell end_cell
  let x_start := begin_cell.x_coord + x_shift
  let x_end := end_cell.x_coord - x_shift
  let strip := (countUp x_start x_end).flatMap fun x =>
    (countUp begin_cell.y_coord end_cell.y_coord).map fun y => ⟨x, y⟩
  if x_shift = 0 then strip
  else strip ++ (countUp 1 (x_start - begin_cell.x_coord)).flatMap fun step =>
    (countDown (end_cell.y_coord - step) (begin_cell.y_coord + step)).flatMap fun y =>
      [⟨x_start - step, y⟩, ⟨x_end + step, y⟩]

def Cell.visit (this : Cell) (standing_cell : CellCoord) (radius x_off y_off : ℚ) : List Cell :=
  if ¬ standing_cell.isCoordValid then []
  else if radius ≤ 0 then [this]
  else
    let radius := if radius > SIZE_OF_GRIDS then SIZE_OF_GRIDS else radius
    let area := calculateCellArea x_off y_off radius
    if area.low_bound = area.high_bound then [this]
    else if area.high_bound.x_coord > area.low_bound.x_coord + 4 ∧
        area.high_bound.y_coord > area.low_bound.y_coord + 4 then
      (visitCircle area.low_bound area.high_bound).map this.zone
    else
      -- the standing cell first
      this :: (countUp area.low_bound.x_coord area.high_bound.x_coord).flatMap fun x =>
        ((countUp area.low_bound.y_coord area.high_bound.y_coord).filter fun y =>
          (⟨x, y⟩ : CellCoord) ≠ standing_cell).map fun y => this.zone ⟨x, y⟩

end FunPvp.Grids
