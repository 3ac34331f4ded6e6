import Chip8.Host.Launch
import Chip8.Picture.Image

/-! A session in a window: every turn of the loop takes the events that have arrived, runs a
frame unless the session is paused or halted, and draws. -/
namespace Chip8

namespace Image

/-- A frame of one color inside the edge of an image. -/
def border (thickness : Nat) (color : Color) (i : Image) : Image :=
  { i with
    pixel := fun r c =>
      if r < thickness ∨ i.height ≤ r + thickness ∨ c < thickness ∨ i.width ≤ c + thickness then
        color
      else i.pixel r c }

end Image

/-- The keypad lies on the left of the keyboard, row by row. -/
def padKeys : List (String × Nibble) :=
  [ ("1", .ofNat 0x1), ("2", .ofNat 0x2), ("3", .ofNat 0x3), ("4", .ofNat 0xC),
    ("q", .ofNat 0x4), ("w", .ofNat 0x5), ("e", .ofNat 0x6), ("r", .ofNat 0xD),
    ("a", .ofNat 0x7), ("s", .ofNat 0x8), ("d", .ofNat 0x9), ("f", .ofNat 0xE),
    ("z", .ofNat 0xA), ("x", .ofNat 0x0), ("c", .ofNat 0xB), ("v", .ofNat 0xF) ]

def padKey? (name : String) : Option Nibble := padKeys.lookup name

structure Window where
  machine : Machine
  /-- The keys that are held. -/
  keypad : Keypad := .idle
  isOpen : Bool := true
  paused : Bool := false
  halted : Bool := false
  overlay : Bool := false
deriving DecidableEq

namespace Window

/-- What a user does; keys go by their names. -/
inductive Event
  | quit
  | pressed (key : String)
  | released (key : String)
  | other
deriving DecidableEq, Repr

def handle (s : Session) (w : Window) : Event → Window × List Log.Entry
  | .quit => ({ w with isOpen := false }, [])
  | .pressed "ESCAPE" => ({ w with isOpen := false }, [])
  | .pressed "p" => ({ w with paused := !w.paused }, [])
  | .pressed "F1" => ({ w with overlay := !w.overlay }, [])
  | .pressed "F5" =>
    ({ w with machine := s.restart w.machine, halted := false }, [⟨.info, "Reset"⟩])
  | .pressed key =>
    match padKey? key with
    | some k => ({ w with keypad := w.keypad.hold k }, [])
    | none => (w, [])
  | .released key =>
    match padKey? key with
    | some k => ({ w with keypad := w.keypad.drop k }, [])
    | none => (w, [])
  | .other => (w, [])

def handleAll (s : Session) : Window → List Event → Window × List Log.Entry
  | w, [] => (w, [])
  | w, e :: es =>
    let (w, log) := w.handle s e
    let (w, rest) := handleAll s w es
    (w, log ++ rest)

/-- One frame of the session, unless it is paused or halted. -/
def advance (s : Session) (w : Window) : Window × List Log.Entry :=
  if w.paused || w.halted then (w, [])
  else
    let r := Session.frame s.perTick s.perFrame w.keypad.mask w.machine
    let v := s.judge r.machine r.fault
    let note : List Log.Entry :=
      if v.halted then [⟨.warning, "Emulation halted, press F5 to reset"⟩] else []
    ({ w with machine := v.machine, halted := v.halted }, v.log ++ note)

/-- The display, with a border while the tone would sound. -/
def image (scale : Int) (scheme : Scheme) (w : Window) : Image :=
  let picture := Image.render scale scheme.on scheme.off w.machine.display
  if w.machine.sound = 0 then picture
  else picture.border (max 1 (scale.toNat / 2)) scheme.on

/-- The registers from `start` on, eight of them. -/
def registerLine (m : Machine) (start : Nat) : String :=
  " ".intercalate ((List.range 8).map fun k =>
    let r : Nibble := .ofNat (start + k)
    s!"V{Text.hex 1 r.val}:{Text.hex 2 (m.reg r).toNat}")

def overlayLines (w : Window) : List String :=
  let m := w.machine
  let pc := Text.hex 3 m.pc.toNat
  let index := Text.hex 3 m.index.toNat
  let depth := m.stack.pointer
  [ s!"PC: 0x{pc}  I: 0x{index}  SP: {depth}",
    s!"DT: {m.delay.toNat}  ST: {m.sound.toNat}",
    registerLine m 0,
    registerLine m 8,
    if w.halted then "HALTED" else if w.paused then "PAUSED" else "RUNNING" ]

/-- What a turn of the loop shows. -/
structure Shot where
  log : List Log.Entry
  image : Image
  overlay : Option (List String)

/-- One turn of the loop. -/
def turn (s : Session) (scheme : Scheme) (w : Window) (events : List Event) : Window × Shot :=
  let (w, handled) := w.handleAll s events
  let (w, ran) := w.advance s
  (w, ⟨handled ++ ran, w.image s.settings.scale scheme,
    if w.overlay then some w.overlayLines else none⟩)

/-- The turns until the window is closed; after the last events it is closed from outside. -/
def turns (s : Session) (scheme : Scheme) : Window → List (List Event) → List Shot
  | w, [] => [(w.turn s scheme [.quit]).2]
  | w, events :: rest =>
    let (w, shot) := w.turn s scheme events
    if w.isOpen then shot :: turns s scheme w rest else [shot]

/-- Whether a turn with these events would run a frame. -/
def runsAfter (s : Session) (w : Window) (events : List Event) : Bool :=
  let (w, _) := w.handleAll s events
  !(w.paused || w.halted)

/-- The turns of a session whose frames cannot be counted: the first turn that would run a frame
breaks off, with the log of its events. -/
def idleTurns (s : Session) (scheme : Scheme) :
    Window → List (List Event) → List Shot × Option (List Log.Entry)
  | w, [] =>
    if w.runsAfter s [.quit] then ([], some (w.handleAll s [.quit]).2)
    else ([(w.turn s scheme [.quit]).2], none)
  | w, events :: rest =>
    if w.runsAfter s events then ([], some (w.handleAll s events).2)
    else
      let (w, shot) := w.turn s scheme events
      if w.isOpen then
        let (shots, ending) := idleTurns s scheme w rest
        (shot :: shots, ending)
      else ([shot], none)

end Window

namespace Host

/-- What a window has shown: its title, the frame rate it asked for, and its turns. -/
structure Playback where
  title : String
  frameRate : Int
  shots : List Window.Shot
  /-- The log of a turn that broke off before it was drawn. -/
  broken : Option (List Log.Entry)

/-- The log before the first turn, how the command ends, and what was shown. -/
structure WindowReport where
  log : List Log.Entry
  ending : Ending
  playback : Option Playback

def runWindow (o : CommandLine.Options) (s : Session) (events : List (List Window.Event)) :
    WindowReport :=
  match Scheme.named s.settings.colorScheme, s.boot? with
  | .error e, _ => ⟨[], .broken (.picture e), none⟩
  | .ok _, none => ⟨[], .broken .seedRange, none⟩
  | .ok scheme, some m =>
    let w : Window := { machine := m }
    let (shots, broken) :=
      if s.countsFrames then (w.turns s scheme events, none) else w.idleTurns s scheme events
    ⟨[⟨.info, "Controls: ESC=Quit, P=Pause, F5=Reset, F1=Debug overlay"⟩],
      if broken.isSome then .broken .countRange else .exit 0,
      some ⟨s!"CHIP-8 - {o.rom}", s.settings.fps, shots, broken⟩⟩

end Host

end Chip8
