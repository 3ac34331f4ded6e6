import Chip8.Display

/-! Images, and displays as images. Rows come first: `pixel r c` is row `r`, column `c`. -/
namespace Chip8

/-- The channels of a pixel. -/
abbrev Color := List UInt8

structure Image where
  height : Nat
  width : Nat
  channels : Nat
  pixel : Nat → Nat → Color

namespace Image

/-- Every pixel as a square of `s` by `s`. -/
def upscale (s : Nat) (i : Image) : Image :=
  ⟨i.height * s, i.width * s, i.channels, fun r c => i.pixel (r / s) (c / s)⟩

/-- The factor that a scale stands for: below one nothing is scaled. -/
def factor (scale : Int) : Nat := (max 1 scale).toNat

/-- A display at its own size. -/
def ofDisplay (on off : Color) (d : Display) : Image where
  height := 32
  width := 64
  channels := on.length
  pixel r c := if d.lit (.ofNat c) (.ofNat r) then on else off

/-- A display blown up by a scale. -/
def render (scale : Int) (on off : Color) (d : Display) : Image :=
  (ofDisplay on off d).upscale (factor scale)

/-- The colors of a row, from left to right. -/
def rowColors (i : Image) (r : Nat) : List Color := (List.range i.width).map (i.pixel r)

/-- Neighbours that are equal, as one item with their count. -/
def folded {α : Type} [BEq α] (xs : List α) : List (α × Nat) :=
  (xs.foldl (fun acc x =>
    match acc with
    | (y, n) :: r => if x == y then (y, n + 1) :: r else (x, 1) :: acc
    | [] => [(x, 1)]) []).reverse

/-- The rows of an image from the top down, each with equal neighbours folded, and equal rows
folded in turn. -/
def foldedRows (i : Image) : List (List (Color × Nat) × Nat) :=
  folded ((List.range i.height).map fun r => folded (i.rowColors r))

end Image

end Chip8
