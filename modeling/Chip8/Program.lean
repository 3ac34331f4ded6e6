import Chip8.Machine.Basic

/-! Programs and their way into memory: from address 512 to the end at most. -/
namespace Chip8

structure Program where
  bytes : Array UInt8
  fits : bytes.size ≤ 3584
deriving DecidableEq

namespace Program

/-- Why there is no program to run. -/
inductive Error
  | tooLarge (size : Nat)
  | notAByte (number : Int)
  | negativeSize (size : Int)
deriving DecidableEq, Repr

def Error.message : Error → String
  | tooLarge size => s!"ROM is {size} bytes but interpreter only supports 3584 bytes maximum"
  | notAByte n => s!"{n} is not a byte"
  | negativeSize n => s!"a program cannot have {n} bytes"

def ofBytes (bytes : Array UInt8) : Except Error Program :=
  if h : bytes.size ≤ 3584 then .ok ⟨bytes, h⟩ else .error (.tooLarge bytes.size)

def ofNumbers (numbers : List Int) : Except Error Program := do
  let bytes ← numbers.mapM fun n =>
    match byteOfInt? n with
    | some b => Except.ok b
    | none => .error (.notAByte n)
  ofBytes bytes.toArray

/-- One byte again and again; a negative count stands for none. -/
def ofFill (byte count : Int) : Except Error Program :=
  match byteOfInt? byte with
  | none => .error (.notAByte byte)
  | some b =>
    if 3584 < count then .error (.tooLarge count.toNat)
    else ofBytes (Array.replicate count.toNat b)

def ofSize (size : Int) : Except Error Program :=
  if size < 0 then .error (.negativeSize size)
  else if 3584 < size then .error (.tooLarge size.toNat)
  else ofBytes (Array.replicate size.toNat 0)

end Program

/-- Memory outside the program keeps its contents. -/
def Machine.load (m : Machine) (p : Program) : Machine :=
  { m with
    memory := Vector.ofFn fun a : Address =>
      if programStart ≤ a.val then (p.bytes[a.val - programStart]?).getD (m.read a)
      else m.read a }

/-- Bytes from outside, as long as they make a program. -/
def Machine.loadBytes (m : Machine) (bytes : Array UInt8) : Except Program.Error Machine :=
  (Program.ofBytes bytes).map m.load

end Chip8
