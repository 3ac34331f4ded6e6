import Chip8.Machine.Execute
import Chip8.Text.Number

/-! A fault with what the machine looked like at that moment. A failing instruction leaves the
program counter on itself, so the two bytes found there are the culprit. -/
namespace Chip8

structure Incident where
  fault : Fault
  pc : Address
  high : UInt8
  low : UInt8
  stackPointer : Int
  registers : Vector UInt8 16
  index : UInt16
deriving DecidableEq

def Machine.incident (m : Machine) (fault : Fault) : Incident where
  fault := fault
  pc := .after m.pc 0
  high := m.read (.after m.pc 0)
  low := m.read (.after m.pc 1)
  stackPointer := m.stack.pointer
  registers := m.registers
  index := m.index

/-- What a host makes of an error code: an incident if it stands for a fault, nothing to report
for 0, and no answer for a number that is no code. -/
def Machine.diagnose? (m : Machine) (code : Int) : Option (Option Incident) :=
  (Fault.ofCode? code).map (Option.map m.incident)

namespace Incident

open Text (hex)

def nibbles (i : Incident) : Nibbles := .ofBytes i.high i.low

def instructionHex (i : Incident) : String := hex 2 i.high.toNat ++ hex 2 i.low.toNat

def text (i : Incident) : String :=
  s!"{i.fault.description} at 0x{hex 3 i.pc.val}: {i.instructionHex}"

def registerList (i : Incident) : String :=
  " ".intercalate (i.registers.toList.zipIdx.map fun (v, k) => s!"V{hex 1 k}=0x{hex 2 v.toNat}")

/-- One line per fact, under the description of the fault. -/
def reportLines (i : Incident) : List String :=
  let raw := ", ".intercalate (i.nibbles.toList.map fun n => toString n.val)
  let coded := ", ".intercalate (i.nibbles.toList.map fun n => hex 1 n.val)
  [ s!"{i.fault.description} ({i.instructionHex})",
    String.ofList (List.replicate 60 '='),
    "| Current Instruction (Bytes)   | " ++
      s!"Raw({i.high.toNat}, {i.low.toNat}) Hex({hex 2 i.high.toNat}, {hex 2 i.low.toNat})",
    s!"| Current Instruction (Nibbles) | Raw({raw}) Hex({coded})",
    s!"| Program Counter               | 0x{hex 3 i.pc.val}",
    s!"| Stack Pointer                 | {i.stackPointer}",
    s!"| Index Register                | 0x{hex 3 i.index.toNat}",
    s!"| General Registers             | {i.registerList}" ]

def report (i : Incident) : String := "\n".intercalate i.reportLines

end Incident

end Chip8
