import Chip8.CallStack
import Chip8.Dialect
import Chip8.Display
import Chip8.Instruction
import Chip8.Keypad
import Chip8.Keystream

/-! The state of the machine and its power-on value. -/
namespace Chip8

structure Machine where
  memory : Vector UInt8 4096
  registers : Vector UInt8 16
  index : UInt16
  pc : UInt16
  stack : CallStack
  display : Display
  delay : UInt8
  sound : UInt8
  keypad : Keypad
  /-- Instructions completed since power-on, which sets the phase of the timer ticks. -/
  completed : UInt32
  streamKey : StreamKey
  dialect : Dialect
deriving DecidableEq

namespace Machine

/-- Sixteen glyphs of five rows, four pixels wide in the high nibble. -/
def font : Vector UInt8 80 := #v[
    0xF0, 0x90, 0x90, 0x90, 0xF0,
    0x20, 0x60, 0x20, 0x20, 0x70,
    0xF0, 0x10, 0xF0, 0x80, 0xF0,
    0xF0, 0x10, 0xF0, 0x10, 0xF0,
    0x90, 0x90, 0xF0, 0x10, 0x10,
    0xF0, 0x80, 0xF0, 0x10, 0xF0,
    0xF0, 0x80, 0xF0, 0x90, 0xF0,
    0xF0, 0x10, 0x20, 0x40, 0x40,
    0xF0, 0x90, 0xF0, 0x90, 0xF0,
    0xF0, 0x90, 0xF0, 0x10, 0xF0,
    0xF0, 0x90, 0xF0, 0x90, 0x90,
    0xE0, 0x90, 0xE0, 0x90, 0xE0,
    0xF0, 0x80, 0x80, 0x80, 0xF0,
    0xE0, 0x90, 0x90, 0x90, 0xE0,
    0xF0, 0x80, 0xF0, 0x80, 0xF0,
    0xF0, 0x80, 0xF0, 0x80, 0x80]

def programStart : Nat := 512

/-- Memory at power-on: the font at address 0 and zeros after it. -/
def blankMemory : Vector UInt8 4096 := Vector.ofFn fun a => (font[a.val]?).getD 0

def powerOn (key : StreamKey) (dialect : Dialect) : Machine where
  memory := blankMemory
  registers := Vector.replicate 16 0
  index := 0
  pc := UInt16.ofNat programStart
  stack := .empty
  display := .blank
  delay := 0
  sound := 0
  keypad := .idle
  completed := 0
  streamKey := key
  dialect := dialect

theorem streamKey_powerOn (key : StreamKey) (dialect : Dialect) :
    (powerOn key dialect).streamKey = key := rfl

/-- Back to power-on; the stream of random bytes goes on where it was. -/
def reset (m : Machine) : Machine := powerOn m.streamKey m.dialect

def reg (m : Machine) (x : Register) : UInt8 := m.registers[x]

def setReg (m : Machine) (x : Register) (v : UInt8) : Machine :=
  { m with registers := m.registers.set x v }

theorem reg_setReg (m : Machine) (x : Register) (v : UInt8) : (m.setReg x v).reg x = v := by
  simp [setReg, reg]

theorem reg_setReg_of_ne (m : Machine) {x z : Register} (h : z ≠ x) (v : UInt8) :
    (m.setReg x v).reg z = m.reg z := by
  have apart : x.val ≠ z.val := fun same => h (Fin.ext same.symm)
  simp [setReg, reg, Vector.getElem_set_ne _ _ apart]

theorem reg_setReg_eq (m : Machine) (x z : Register) (v : UInt8) :
    (m.setReg x v).reg z = if z = x then v else m.reg z := by
  by_cases same : z = x
  · rw [if_pos same, same, reg_setReg]
  · rw [if_neg same, reg_setReg_of_ne m same]

def read (m : Machine) (a : Address) : UInt8 := m.memory[a]

def write (m : Machine) (a : Address) (v : UInt8) : Machine :=
  { m with memory := m.memory.set a v }

def withKeys (m : Machine) (mask : UInt16) : Machine := { m with keypad := ⟨mask⟩ }

/-- Steps over the instruction at the program counter. -/
def skipOver (m : Machine) : Machine := { m with pc := m.pc + 2 }

/-- Both timers fall by one and stop at zero. -/
def tick (m : Machine) : Machine :=
  { m with
    delay := if m.delay = 0 then 0 else m.delay - 1
    sound := if m.sound = 0 then 0 else m.sound - 1 }

end Machine

end Chip8
