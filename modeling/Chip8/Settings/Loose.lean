import Chip8.Settings.Draft
import Chip8.Word

/-! Settings whose values are taken as they are given, of whatever type. A check compares them
with the ranges, and only the log level is changed by it. -/
namespace Chip8.Settings

open Yaml (Datum)

/-- Why values of any type make no settings. -/
inductive LooseError
  | unknownField
  /-- A value that cannot be compared with a number. -/
  | notComparable
  /-- A log level that is no text. -/
  | notText
  /-- An integer beyond the largest float. -/
  | tooLarge
  /-- A clock that stands still. -/
  | stoppedClock
  | rejected (r : Rejection)
deriving DecidableEq, Repr

structure Loose where
  get : Leaf → Datum

namespace Loose

def set (s : Loose) (l : Leaf) (value : Datum) : Loose :=
  ⟨fun k => if k = l then value else s.get k⟩

/-- The defaults with some of the fields replaced. -/
def ofFields (fields : List (String × Datum)) : Except LooseError Loose :=
  fields.foldlM (fun s (name, value) =>
    match Leaf.plain? name with
    | some l => .ok (s.set l value)
    | none => .error .unknownField) ⟨(Leaf.of {} ·)⟩

def isPositive : Datum → Except LooseError Bool
  | .int n => .ok (0 < n)
  | .bool b => .ok b
  | .float x => .ok x.isPositive
  | _ => .error .notComparable

def checkPositive (s : Loose) (l : Leaf) : Except LooseError Unit := do
  if !(← isPositive (s.get l)) then
    throw (.rejected (.notPositive l.name (s.get l).toText))

def checkPolicy (s : Loose) : Except LooseError Unit :=
  match s.get .onUnknownOpcode with
  | .text given => (Settings.checkPolicy given).mapError .rejected
  | value => .error (.rejected (.unknownPolicy value.toText))

/-- Checks the ranges, and writes the log level in upper case. -/
def validate (s : Loose) : Except LooseError Loose := do
  s.checkPositive .instructionFrequency
  s.checkPositive .timerFrequency
  s.checkPositive .fps
  s.checkPositive .scale
  s.checkPolicy
  match s.get .logLevel with
  | .text given =>
    let level ← (checkLevel given).mapError .rejected
    return s.set .logLevel (.text level)
  | _ => throw .notText

/-- A number as an integer, or as the float nearest to it. -/
def whole? : Datum → Option Int
  | .int n => some n
  | .bool b => some (if b then 1 else 0)
  | _ => none

def float (d : Datum) : Except LooseError Text.Binary64 :=
  match d, whole? d with
  | .float x, _ => .ok x
  | _, some n =>
    match Text.Binary64.ofInt n with
    | .infinite _ => .error .tooLarge
    | x => .ok x
  | _, none => .error .notComparable

/-- Whether a float is greater than one. -/
def exceedsOne : Text.Binary64 → Bool
  | .infinite negative => !negative
  | x =>
    match x.fraction? with
    | some (num, den) => (den : Int) < num
    | none => false

/-- The whole number of instructions in one turn of a clock, at least one: a float when one of
the two is one. -/
def perTurn (s : Loose) (clock : Leaf) : Except LooseError Datum := do
  let instructions := s.get .instructionFrequency
  match whole? instructions, whole? (s.get clock) with
  | some a, some b =>
    if b = 0 then throw .stoppedClock
    return .int (max 1 (a.fdiv b))
  | _, _ =>
    let a ← float instructions
    let b ← float (s.get clock)
    if b.isZero then throw .stoppedClock
    let x := a.floorDiv b
    return if exceedsOne x then .float x else .int 1

/-- The instructions in one turn of a clock, as far as a run can count them. -/
def count (s : Loose) (clock : Leaf) : Except LooseError Nat := do
  match ← s.perTurn clock with
  | .int n => if fitsInt32 n then return n.toNat else throw .tooLarge
  | .float x =>
    match x.fraction? with
    | some (num, den) => return (num / den).toNat
    | none => throw .tooLarge
  | _ => throw .notComparable

end Loose

end Chip8.Settings
