import Chip8.Settings.Basic
import Chip8.Settings.Template

/-! Settings on their way: each has the value of the last layer that gave one, or a text with
references that is resolved when all layers are known. -/
namespace Chip8.Settings

open Yaml (Datum)

/-- Why settings cannot be loaded. -/
inductive LoadError
  | document (e : Yaml.Error)
  /-- The document is a list. -/
  | listDocument
  /-- The document is a number or a boolean. -/
  | scalarDocument
  /-- The document is a text that spells such a value. -/
  | quotedDocument
  /-- A key that cannot be one of a map. -/
  | improperKey
  /-- A value that no setting can have. -/
  | improperValue
  /-- Collections that are nested too deep. -/
  | tooDeep
  /-- A text whose references are written in no known way. -/
  | brokenReference
  | unknownKey
  | mistyped
  /-- A place in a list that is not there. -/
  | outOfList
  /-- A name where the place in a list is needed. -/
  | notAPlace
  /-- A name on the way where the place in a list is needed. -/
  | notAStep
  /-- A key on the way whose value is still to be given. -/
  | pendingStep
  /-- A list and a map for one key. -/
  | clash
  /-- A reference to a setting that is not there. -/
  | unknownReference
  /-- A reference to a value of another type. -/
  | mistypedReference
  /-- A reference that leads nowhere. -/
  | unresolvable
  | unknownResolver
  /-- Switches that have been replaced by another value. -/
  | foreignDialect
  | rejected (r : Rejection)
deriving DecidableEq, Repr

/-! The single settings. -/

inductive Leaf
  | instructionFrequency | timerFrequency | fps | seed
  | onUnknownOpcode | logLevel | scale | colorScheme
  | shiftUsesVy | logicResetsVf | jumpUsesVx
  | loadStoreIncrementsI | indexOverflowSetsVf | clipSprites
deriving DecidableEq, Repr

inductive LeafType
  | int | text | bool
deriving DecidableEq, Repr

namespace Leaf

/-- The settings that belong to no group. -/
def plain : List Leaf :=
  [instructionFrequency, timerFrequency, fps, seed, onUnknownOpcode, logLevel, scale, colorScheme]

/-- The switches of the dialect. -/
def switches : List Leaf :=
  [shiftUsesVy, logicResetsVf, jumpUsesVx, loadStoreIncrementsI, indexOverflowSetsVf, clipSprites]

def name : Leaf → String
  | instructionFrequency => "instruction_frequency"
  | timerFrequency => "timer_frequency"
  | fps => "fps"
  | seed => "seed"
  | onUnknownOpcode => "on_unknown_opcode"
  | logLevel => "log_level"
  | scale => "scale"
  | colorScheme => "color_scheme"
  | shiftUsesVy => "shift_uses_vy"
  | logicResetsVf => "logic_resets_vf"
  | jumpUsesVx => "jump_uses_vx"
  | loadStoreIncrementsI => "load_store_increments_i"
  | indexOverflowSetsVf => "index_overflow_sets_vf"
  | clipSprites => "clip_sprites"

def type : Leaf → LeafType
  | instructionFrequency | timerFrequency | fps | seed | scale => .int
  | onUnknownOpcode | logLevel | colorScheme => .text
  | shiftUsesVy | logicResetsVf | jumpUsesVx => .bool
  | loadStoreIncrementsI | indexOverflowSetsVf | clipSprites => .bool

/-- The value that a setting has in given settings. -/
def of (s : Settings) : Leaf → Datum
  | instructionFrequency => .int s.instructionFrequency
  | timerFrequency => .int s.timerFrequency
  | fps => .int s.fps
  | seed => .int s.seed
  | onUnknownOpcode => .text s.onUnknownOpcode
  | logLevel => .text s.logLevel
  | scale => .int s.scale
  | colorScheme => .text s.colorScheme
  | shiftUsesVy => .bool s.dialect.shiftUsesVy
  | logicResetsVf => .bool s.dialect.logicResetsVf
  | jumpUsesVx => .bool s.dialect.jumpUsesVx
  | loadStoreIncrementsI => .bool s.dialect.loadStoreIncrementsI
  | indexOverflowSetsVf => .bool s.dialect.indexOverflowSetsVf
  | clipSprites => .bool s.dialect.clipSprites

def plain? (name : String) : Option Leaf := plain.find? fun l => l.name == name

def switch? (name : String) : Option Leaf := switches.find? fun l => l.name == name

end Leaf

/-- The key of the group of switches. -/
def dialectKey : String := "quirks"

/-! Values of a type. -/

def intOf : Datum → Except LoadError Int
  | .int n => .ok n
  | .text s =>
    match Text.integer? s with
    | some n => .ok n
    | none => .error .mistyped
  | _ => .error .mistyped

def textOf : Datum → Except LoadError String
  | .bool b => .ok (Datum.bool b).toText
  | .int n => .ok (Datum.int n).toText
  | .float x => .ok (Datum.float x).toText
  | .text s => .ok s
  | _ => .error .mistyped

def yesWords : List String := ["yes", "y", "on", "true"]

def noWords : List String := ["no", "n", "off", "false"]

def boolOf : Datum → Except LoadError Bool
  | .bool b => .ok b
  | .int n => .ok (n != 0)
  | .text s =>
    match Text.integer? s with
    | some n => .ok (n != 0)
    | none =>
      let word := s.toLower
      if word ∈ yesWords then .ok true
      else if word ∈ noWords then .ok false
      else .error .mistyped
  | _ => .error .mistyped

/-- A value as one of a type. -/
def LeafType.convert : LeafType → Datum → Except LoadError Datum
  | int, d => (intOf d).map .int
  | text, d => (textOf d).map .text
  | bool, d => (boolOf d).map .bool

/-- The mark of a value that is still to be given, which changes nothing. -/
def isPending : Datum → Bool
  | .text s => s == "???"
  | _ => false

/-- The text with references that a value is, if it is one. -/
def template? : Datum → Option String
  | .text s => if Term.isTemplate s then some s else none
  | _ => none

/-! Drafts. -/

structure Draft where
  /-- The value of each setting, of its own type or a text with references. -/
  get : Leaf → Datum
  /-- A text with references that stands for all switches. -/
  dialect : Option String := none

namespace Draft

/-- The draft of given settings. -/
def of (s : Settings) : Draft := ⟨(Leaf.of s ·), none⟩

def set (d : Draft) (l : Leaf) (value : Datum) : Draft :=
  { d with get := fun k => if k = l then value else d.get k }

/-- A further value for a setting. -/
def put (d : Draft) (l : Leaf) (value : Datum) : Except LoadError Draft :=
  if isPending value then .ok d
  else if (template? value).isSome then .ok (d.set l value)
  else (l.type.convert value).map (d.set l)

/-- One switch of the dialect. -/
def putSwitch (d : Draft) : Datum × Datum → Except LoadError Draft
  | (.text name, value) =>
    match Leaf.switch? name with
    | some l => d.put l value
    | none => .error .unknownKey
  | _ => .error .unknownKey

/-- The switches as they are by default, where a text stands for all of them. -/
def expanded (d : Draft) : Draft :=
  if d.dialect.isSome then
    Leaf.switches.foldl (fun d l => d.set l (Leaf.of {} l)) { d with dialect := none }
  else d

/-- A map is merged over the switches as they are. -/
def putDialect (d : Draft) (value : Datum) : Except LoadError Draft :=
  match value with
  | .map entries => entries.foldlM putSwitch d.expanded
  | _ =>
    if isPending value then .ok d
    else
      match template? value with
      | some s => .ok { d with dialect := some s }
      | none => .error .mistyped

/-- One entry of a layer. -/
def putEntry (d : Draft) : Datum × Datum → Except LoadError Draft
  | (.text name, value) =>
    if name = dialectKey then d.putDialect value
    else
      match Leaf.plain? name with
      | some l => d.put l value
      | none => .error .unknownKey
  | _ => .error .unknownKey

/-- A layer: the keys are merged in their order, and the first error ends it. -/
def merge (d : Draft) (entries : List (Datum × Datum)) : Except LoadError Draft :=
  entries.foldlM putEntry d

end Draft

end Chip8.Settings
