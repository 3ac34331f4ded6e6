import Chip8.Picture.Frames
import Chip8.Text.Binary64

/-! A sequence of displays as a video: written to a file, shown in a window, or both. Lit pixels
fade out like phosphor; brightness is computed in 32-bit floats. Channels are stored blue first. -/
namespace Chip8

structure Video where
  fileName : Option String := none
  frameRate : Text.Binary64
  scale : Int := 8
  scheme : String := "classic"
  persistence : Bool := true
  isShown : Bool := false

namespace Video

inductive Event
  | opened (fileName : String) (width height : Int)
  | written (frame : Image)
  | shown (frame : Image)
  | waited (milliseconds : Nat) (key : Int)
  | released
  | destroyed

/-- The title of the window. -/
def title : String := "CHIP-8 (q to quit)"

/-- The part of a pixel's brightness that is left one frame later. -/
def decay : Float32 := 0.8

/-- The brightness of every pixel, row by row. -/
abbrev Glow := Array Float32

def dark : Glow := Array.replicate 2048 0

def lit (d : Display) : Glow :=
  Array.ofFn fun k : Fin 2048 =>
    if d.lit (.ofNat k.val) (.ofNat (k.val / 64)) then 1 else 0

def fade (g : Glow) (d : Display) : Glow :=
  (lit d).mapIdx fun k x =>
    let sum := g.getD k 0 * decay + x
    if sum < 1 then sum else 1

/-- A channel between dark and lit, rounded down. -/
def blend (x : Float32) (on off : UInt8) : UInt8 :=
  (off.toFloat32 + x * (on.toFloat32 - off.toFloat32)).toUInt8

def frame (v : Video) (s : Scheme) (g : Glow) : Image :=
  let colors : Array Color := g.map fun x => (List.zipWith (blend x) s.on s.off).reverse
  Image.upscale (Image.factor v.scale) ⟨32, 64, s.on.length, fun r c => colors.getD (r * 64 + c) []⟩

/-- Milliseconds between two frames, at least one. -/
def delay (rate : Text.Binary64) : Except PictureError Nat :=
  match rate with
  | .finite negative m q =>
    if m = 0 then .error .noFrameRate
    else
      let (d, n) := Text.Binary64.scaled 2 m 1 q
      match Text.Binary64.ofFraction false (1000 * n) d with
      | .finite _ m q =>
        let (n, d) := Text.Binary64.scaled 2 m 1 q
        .ok (if negative then 1 else max 1 (n / d))
      | _ => .error .endlessFrame
  | _ => .ok 1

/-- Whether a key stops the playback: `q` or escape, in the low byte. -/
def stops (key : Int) : Bool := key % 256 == 113 || key % 256 == 27

/-- The frames one after the other; each wait takes the next key, and -1 when there is none. -/
def play (v : Video) (s : Scheme) (toFile : Bool) (delay : Nat) :
    Glow → List Int → List Display → List Event
  | _, _, [] => []
  | g, keys, d :: ds =>
    let g := if v.persistence then fade g d else lit d
    let image := v.frame s g
    let write := if toFile then [.written image] else []
    if v.isShown then
      let key := keys.head?.getD (-1)
      let events := write ++ [.shown image, .waited delay key]
      if stops key then events else events ++ v.play s toFile delay g keys.tail ds
    else write ++ v.play s toFile delay g keys ds

/-- The events of a video, and the error that ends it. -/
def events (v : Video) (f : Frames) (keys : List Int) : List Event × Option PictureError :=
  if v.fileName.isNone && !v.isShown then ([], none)
  else
    match prepared f with
    | .error e => ([], some e)
    | .ok s =>
      let target := v.fileName.filter fun name => !name.isEmpty
      let opening := match target with
        | some name => [Event.opened name (64 * v.scale) (32 * v.scale)]
        | none => []
      match delay v.frameRate with
      | .error e => (opening, some e)
      | .ok milliseconds =>
        let played := v.play s target.isSome milliseconds dark keys f.displays
        let released := if target.isSome then [Event.released] else []
        let destroyed := if v.isShown then [Event.destroyed] else []
        (opening ++ played ++ released ++ destroyed, none)
where
  prepared (f : Frames) : Except PictureError Scheme := do
    f.check
    if f.shape.length ≠ 3 then throw (.notSequence f.shape)
    Scheme.named v.scheme

end Video

end Chip8
