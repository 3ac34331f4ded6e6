import Chip8.Picture.Image
import Chip8.Text.Number

namespace Chip8

/-- The colors of lit and dark pixels. -/
structure Scheme where
  on : Color
  off : Color
deriving DecidableEq, Repr

/-- What is wrong with a request for a picture. -/
inductive PictureError
  | wrongShape (shape : List Nat)
  | notSingle (shape : List Nat)
  | notSequence (shape : List Nat)
  | unknownScheme (name : String)
  /-- The two colors have different numbers of channels. -/
  | unevenColors
  /-- A channel is no byte. -/
  | colorRange
  | noDisplays
  /-- A grid of negative size, or a tile that does not fit its place. -/
  | badGrid
  /-- No image format has the extension of the file name. -/
  | unknownFormat
  /-- Files of the format are only read. -/
  | readOnlyFormat
  /-- Files of the format hold no colors. -/
  | colorlessFormat
  /-- Files of the format hold only colors from a palette. -/
  | paletteFormat
  /-- A picture that an array cannot hold, or a file of its format. -/
  | tooLarge
  /-- A frame rate of zero. -/
  | noFrameRate
  /-- A frame rate so small that the time between frames is infinite. -/
  | endlessFrame
deriving DecidableEq, Repr

namespace Scheme

def all : List (String × Scheme) :=
  [ ("classic", ⟨[0, 255, 0], [0, 0, 0]⟩),
    ("amber", ⟨[255, 176, 0], [0, 0, 0]⟩),
    ("white", ⟨[255, 255, 255], [0, 0, 0]⟩),
    ("blue", ⟨[0, 255, 255], [0, 0, 64]⟩),
    ("retro", ⟨[255, 255, 0], [64, 0, 64]⟩),
    ("purple", ⟨[179, 102, 184], [45, 25, 61]⟩) ]

def named (name : String) : Except PictureError Scheme :=
  match all.lookup name with
  | some s => .ok s
  | none => .error (.unknownScheme name)

end Scheme

/-- The text of an error, for those that have one. -/
def PictureError.message? : PictureError → Option String
  | wrongShape shape => some s!"Expected display shape (..., 64, 32), got {Text.shape shape}"
  | notSingle shape => some s!"Expected a single display, got shape {Text.shape shape}"
  | notSequence shape => some s!"Expected displays of shape (N, 64, 32), got {Text.shape shape}"
  | unknownScheme name =>
    some s!"Unknown color scheme '{name}'. Available: {Text.nameList (Scheme.all.map Prod.fst)}"
  | _ => none

end Chip8
