namespace Chip8

/-- Why an instruction does not run. -/
inductive Fault
  | stackEmpty
  | stackFull
  | unknownOpcode
deriving DecidableEq, Repr

namespace Fault

def code : Fault → Nat
  | stackEmpty => 1
  | stackFull => 2
  | unknownOpcode => 3

/-- Code 0 stands for the absence of a fault. -/
def codeOf : Option Fault → Nat
  | none => 0
  | some f => f.code

/-- The fault with a given code, if the number is a code at all. -/
def ofCode? (n : Int) : Option (Option Fault) :=
  if n = 0 then some none
  else if n = 1 then some (some stackEmpty)
  else if n = 2 then some (some stackFull)
  else if n = 3 then some (some unknownOpcode)
  else none

def description : Fault → String
  | stackEmpty => "Return with empty stack"
  | stackFull => "Call with full stack"
  | unknownOpcode => "Unknown opcode"

end Fault

end Chip8
