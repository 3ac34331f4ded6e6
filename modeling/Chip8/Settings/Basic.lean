import Chip8.Dialect
import Chip8.Log

/-! The settings of a session and the ranges they must lie in. -/
namespace Chip8

structure Settings where
  /-- Instructions per second. -/
  instructionFrequency : Int := 700
  /-- Timer ticks per second. -/
  timerFrequency : Int := 60
  /-- Frames per second. -/
  fps : Int := 60
  seed : Int := 0
  /-- What to do at an unknown opcode: `halt` or `skip`. -/
  onUnknownOpcode : String := "halt"
  logLevel : String := "INFO"
  scale : Int := 10
  colorScheme : String := "classic"
  dialect : Dialect := .modern
deriving DecidableEq, Repr

namespace Settings

/-- The whole number of instructions in one turn of a clock, at least one; a clock that stands
still has no turns. -/
def perTurn? (instructions clock : Int) : Option Nat :=
  if clock = 0 then none else some (max 1 (instructions.fdiv clock)).toNat

def perTick? (s : Settings) : Option Nat := perTurn? s.instructionFrequency s.timerFrequency

def perFrame? (s : Settings) : Option Nat := perTurn? s.instructionFrequency s.fps

def policies : List String := ["halt", "skip"]

def skipsUnknown (s : Settings) : Bool := s.onUnknownOpcode == "skip"

/-- Why settings are turned down. -/
inductive Rejection
  /-- A number that is not positive, as it is shown. -/
  | notPositive (field value : String)
  | unknownPolicy (given : String)
  | unknownLevel (given : String)
deriving DecidableEq, Repr

def Rejection.message : Rejection → String
  | notPositive field value => s!"'{field}' must be positive, got {value}"
  | unknownPolicy given =>
    s!"Unknown opcode policy '{given}'. Available: {Text.nameList policies}"
  | unknownLevel given => (Log.UnknownLevel.mk given).message

def checkPositive (field : String) (value : Int) : Except Rejection Unit :=
  if value ≤ 0 then .error (.notPositive field (toString value)) else .ok ()

def checkPolicy (given : String) : Except Rejection Unit :=
  if given ∈ policies then .ok () else .error (.unknownPolicy given)

/-- The name of a level in upper case. -/
def checkLevel (given : String) : Except Rejection String :=
  let level := Text.upper given
  if level ∈ Log.Level.names then .ok level else .error (.unknownLevel level)

/-- Checks the ranges, and writes the log level in upper case. -/
def validate (s : Settings) : Except Rejection Settings := do
  checkPositive "instruction_frequency" s.instructionFrequency
  checkPositive "timer_frequency" s.timerFrequency
  checkPositive "fps" s.fps
  checkPositive "scale" s.scale
  checkPolicy s.onUnknownOpcode
  let level ← checkLevel s.logLevel
  return { s with logLevel := level }

end Settings

end Chip8
