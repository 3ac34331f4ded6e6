import Chip8.Picture.Frames

/-! Several displays tiled in a near-square grid, row by row, with transparent gaps. -/
namespace Chip8

/-- The geometry of a grid of tiles, in pixels. -/
structure Mosaic where
  count : Nat
  scale : Int
  padding : Int
deriving DecidableEq, Repr

namespace Mosaic

/-- The least number of columns whose square holds all tiles. -/
def columns (m : Mosaic) : Nat :=
  ((List.range (m.count + 1)).find? fun c => decide (m.count ≤ c * c)).getD 0

/-- The least number of rows that holds all tiles. -/
def rows (m : Mosaic) : Nat := (m.count + m.columns - 1) / m.columns

def tileHeight (m : Mosaic) : Int := 32 * m.scale

def tileWidth (m : Mosaic) : Int := 64 * m.scale

def height (m : Mosaic) : Int := m.rows * m.tileHeight + (m.rows - 1) * m.padding

def width (m : Mosaic) : Int := m.columns * m.tileWidth + (m.columns - 1) * m.padding

def top (m : Mosaic) (i : Nat) : Int := (i / m.columns : Nat) * (m.tileHeight + m.padding)

def left (m : Mosaic) (i : Nat) : Int := (i % m.columns : Nat) * (m.tileWidth + m.padding)

/-- A bound of a slice of `size` cells: negative bounds count from the end, and all are brought
into range. -/
def bound (size n : Int) : Int := max 0 (min size (if n < 0 then n + size else n))

/-- The cells from `start` up to `stop`: the first one and their number. -/
def slice (size start stop : Int) : Int × Int :=
  (bound size start, max 0 (bound size stop - bound size start))

def rowSlice (m : Mosaic) (i : Nat) : Int × Int :=
  slice m.height (m.top i) (m.top i + m.tileHeight)

def columnSlice (m : Mosaic) (i : Nat) : Int × Int :=
  slice m.width (m.left i) (m.left i + m.tileWidth)

/-- Whether the place of tile `i` has the size of a rendered display. -/
def fits (m : Mosaic) (i : Nat) : Bool :=
  (m.rowSlice i).2 == 32 * Image.factor m.scale && (m.columnSlice i).2 == 64 * Image.factor m.scale

/-- A display at its place in the grid. -/
structure Tile where
  top : Nat
  left : Nat
  height : Nat
  width : Nat
  display : Display

/-- Whether a pixel of the grid belongs to the place of a tile. -/
def Tile.covers (t : Tile) (r c : Nat) : Bool :=
  t.top ≤ r && r < t.top + t.height && t.left ≤ c && c < t.left + t.width

def tile (m : Mosaic) (i : Nat) (d : Display) : Tile :=
  let (top, height) := m.rowSlice i
  let (left, width) := m.columnSlice i
  ⟨top.toNat, left.toNat, height.toNat, width.toNat, d⟩

def tiles (m : Mosaic) (ds : List Display) : List Tile := ds.zipIdx.map fun (d, i) => m.tile i d

/-- The pixel of the first tile there, opaque; transparent black where there is none. -/
def pixel (scale : Int) (s : Scheme) (ts : List Tile) (r c : Nat) : Color :=
  match ts.find? (·.covers r c) with
  | some t => (Image.render scale s.on s.off t.display).pixel (r - t.top) (c - t.left) ++ [255]
  | none => [0, 0, 0, 0]

/-- Where tiles overlap the later one lies on top. -/
def image (m : Mosaic) (s : Scheme) (ds : List Display) : Image where
  height := m.height.toNat
  width := m.width.toNat
  channels := 4
  pixel := pixel m.scale s (m.tiles ds).reverse

end Mosaic

/-- The displays of an array in a grid. -/
def Frames.mosaic (f : Frames) (scale : Int) (scheme : String) (padding : Int) :
    Except PictureError Image := do
  f.check
  let s ← Scheme.named scheme
  let m : Mosaic := ⟨f.shape.head?.getD 0, scale, padding⟩
  if m.count = 0 then throw .noDisplays
  if m.height < 0 || m.width < 0 then throw .badGrid
  match f.shape.tail with
  | [64, 32] =>
    if !(List.range m.count).all m.fits then throw .badGrid
    return m.image s f.displays
  | inner => throw (if Frames.areDisplays inner then .notSingle inner else .wrongShape inner)

end Chip8
