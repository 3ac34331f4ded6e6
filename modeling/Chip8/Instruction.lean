import Chip8.Word

/-! The instruction set. `Instruction.decode?` reads a word; a word that matches no pattern
has no instruction. -/
namespace Chip8

abbrev Register := Nibble

/-- The flag register VF. -/
def Register.flag : Register := ⟨15, by decide⟩

/-- The operations of 8XYN. -/
inductive Alu
  | set | or | and | xor | add | sub | shiftRight | subReverse | shiftLeft
deriving DecidableEq, Repr

namespace Alu

def ofNibble? (n : Nibble) : Option Alu :=
  match n.val with
  | 0x0 => some set
  | 0x1 => some or
  | 0x2 => some and
  | 0x3 => some xor
  | 0x4 => some add
  | 0x5 => some sub
  | 0x6 => some shiftRight
  | 0x7 => some subReverse
  | 0xE => some shiftLeft
  | _ => none

/-- The result for VX and the flag for VF. Subtraction flags the absence of a borrow, a
shift the bit that left. -/
def apply (op : Alu) (vx vy : UInt8) : UInt8 × UInt8 :=
  match op with
  | set => (vy, 0)
  | or => (vx ||| vy, 0)
  | and => (vx &&& vy, 0)
  | xor => (vx ^^^ vy, 0)
  | add => (vx + vy, if 255 < vx.toNat + vy.toNat then 1 else 0)
  | sub => (vx - vy, if vy ≤ vx then 1 else 0)
  | shiftRight => (vx >>> 1, vx &&& 1)
  | subReverse => (vy - vx, if vx ≤ vy then 1 else 0)
  | shiftLeft => (vx <<< 1, vx >>> 7)

def isLogic : Alu → Bool
  | or | and | xor => true
  | _ => false

def isShift : Alu → Bool
  | shiftRight | shiftLeft => true
  | _ => false

/-- The operations that always write their flag to VF. -/
def setsFlag : Alu → Bool
  | add | sub | shiftRight | subReverse | shiftLeft => true
  | _ => false

end Alu

/-- What a skip instruction tests. -/
inductive Condition
  | byteEq (x : Register) (byte : UInt8)
  | byteNe (x : Register) (byte : UInt8)
  | registerEq (x y : Register)
  | registerNe (x y : Register)
  | keyDown (x : Register)
  | keyUp (x : Register)
deriving DecidableEq, Repr

inductive Instruction
  | system (target : Address)
  | clear
  | ret
  | jump (target : Address)
  | call (target : Address)
  | skip (condition : Condition)
  | load (x : Register) (byte : UInt8)
  | add (x : Register) (byte : UInt8)
  | alu (op : Alu) (x y : Register)
  | setIndex (target : Address)
  | jumpOffset (target : Address) (x : Register)
  | random (x : Register) (byte : UInt8)
  | draw (x y : Register) (height : Nibble)
  | readDelay (x : Register)
  | awaitKey (x : Register)
  | setDelay (x : Register)
  | setSound (x : Register)
  | addIndex (x : Register)
  | glyph (x : Register)
  | decimal (x : Register)
  | store (x : Register)
  | restore (x : Register)
deriving DecidableEq, Repr

namespace Instruction

/-- 00E0 and 00EE come before the other words that start with 0. -/
def decode? (w : UInt16) : Option Instruction :=
  let n := Nibbles.ofWord w
  let x := n.second
  let y := n.third
  let byte := byteOfNibbles n.third n.fourth
  let target := Address.ofNibbles n.second n.third n.fourth
  match n.first.val with
  | 0x0 => some (if w = 0x00E0 then clear else if w = 0x00EE then ret else system target)
  | 0x1 => some (jump target)
  | 0x2 => some (call target)
  | 0x3 => some (skip (.byteEq x byte))
  | 0x4 => some (skip (.byteNe x byte))
  | 0x5 => if n.fourth.val = 0 then some (skip (.registerEq x y)) else none
  | 0x6 => some (load x byte)
  | 0x7 => some (add x byte)
  | 0x8 => (Alu.ofNibble? n.fourth).map (alu · x y)
  | 0x9 => if n.fourth.val = 0 then some (skip (.registerNe x y)) else none
  | 0xA => some (setIndex target)
  | 0xB => some (jumpOffset target x)
  | 0xC => some (random x byte)
  | 0xD => some (draw x y n.fourth)
  | 0xE =>
    match byte.toNat with
    | 0x9E => some (skip (.keyDown x))
    | 0xA1 => some (skip (.keyUp x))
    | _ => none
  | _ =>
    match byte.toNat with
    | 0x07 => some (readDelay x)
    | 0x0A => some (awaitKey x)
    | 0x15 => some (setDelay x)
    | 0x18 => some (setSound x)
    | 0x1E => some (addIndex x)
    | 0x29 => some (glyph x)
    | 0x33 => some (decimal x)
    | 0x55 => some (store x)
    | 0x65 => some (restore x)
    | _ => none

/-- The names of the forms, in the order of their numbers; the last one stands for words
that match no pattern. -/
def formNames : Vector String 36 := #v[
    "SYS", "CLS", "RET", "JP", "CALL", "SE_BYTE", "SNE_BYTE", "SE_REG", "LD_BYTE", "ADD_BYTE",
    "LD_REG", "OR", "AND", "XOR", "ADD_REG", "SUB", "SHR", "SUBN", "SHL", "SNE_REG", "LD_I",
    "JP_V0", "RND", "DRW", "SKP", "SKNP", "LD_VX_DT", "LD_VX_K", "LD_DT_VX", "LD_ST_VX",
    "ADD_I_VX", "LD_F_VX", "LD_B_VX", "LD_I_VX", "LD_VX_I", "UNKNOWN"]

def form : Instruction → Fin 36
  | system _ => 0
  | clear => 1
  | ret => 2
  | jump _ => 3
  | call _ => 4
  | skip (.byteEq _ _) => 5
  | skip (.byteNe _ _) => 6
  | skip (.registerEq _ _) => 7
  | load _ _ => 8
  | add _ _ => 9
  | alu .set _ _ => 10
  | alu .or _ _ => 11
  | alu .and _ _ => 12
  | alu .xor _ _ => 13
  | alu .add _ _ => 14
  | alu .sub _ _ => 15
  | alu .shiftRight _ _ => 16
  | alu .subReverse _ _ => 17
  | alu .shiftLeft _ _ => 18
  | skip (.registerNe _ _) => 19
  | setIndex _ => 20
  | jumpOffset _ _ => 21
  | random _ _ => 22
  | draw _ _ _ => 23
  | skip (.keyDown _) => 24
  | skip (.keyUp _) => 25
  | readDelay _ => 26
  | awaitKey _ => 27
  | setDelay _ => 28
  | setSound _ => 29
  | addIndex _ => 30
  | glyph _ => 31
  | decimal _ => 32
  | store _ => 33
  | restore _ => 34

/-- The number of the form that `w` has. -/
def formOf (w : UInt16) : Fin 36 := ((decode? w).map form).getD 35

def nameOf (w : UInt16) : String := formNames[formOf w]

end Instruction

end Chip8
