import Chip8.Picture.Scheme
import Chip8.Word

/-! Arrays of displays with a shape, as they are given by a caller, and the pictures of them. -/
namespace Chip8

/-- An array of pixels; when the last two lengths of its shape are 64 and 32, `displays` holds
its displays in order. -/
structure Frames where
  shape : List Nat
  displays : List Display

namespace Frames

def single (d : Display) : Frames := ⟨[64, 32], [d]⟩

def sequence (ds : List Display) : Frames := ⟨[ds.length, 64, 32], ds⟩

def areDisplays (shape : List Nat) : Bool := (shape.reverse.take 2).reverse == [64, 32]

/-- An array without lit pixels. -/
def blank (shape : List Nat) : Frames :=
  ⟨shape, if areDisplays shape then
    List.replicate ((shape.take (shape.length - 2)).foldl (· * ·) 1) .blank else []⟩

def check (f : Frames) : Except PictureError Unit :=
  if areDisplays f.shape then .ok () else .error (.wrongShape f.shape)

/-- The only display of an array that holds one. -/
def display (f : Frames) : Except PictureError Display := do
  f.check
  match f.shape, f.displays with
  | [_, _], d :: _ => return d
  | shape, _ => throw (.notSingle shape)

/-- A color out of integers. -/
def color (channels : List Int) : Except PictureError Color :=
  channels.mapM fun n =>
    match byteOfInt? n with
    | some b => Except.ok b
    | none => .error .colorRange

/-- The picture of a single display. -/
def render (f : Frames) (scale : Int) (on off : List Int) : Except PictureError Image := do
  let d ← f.display
  if on.length ≠ off.length then throw .unevenColors
  let off ← color off
  let on ← color on
  return Image.render scale on off d

/-- The picture of a single display in a named scheme. -/
def screenshot (f : Frames) (scale : Int) (scheme : String) : Except PictureError Image := do
  let s ← Scheme.named scheme
  return Image.render scale s.on s.off (← f.display)

end Frames

end Chip8
