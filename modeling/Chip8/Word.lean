/-! Nibbles, bytes, 16-bit words and 12-bit addresses, and how they are cut and packed.
Every operation is plain arithmetic on natural numbers: a word is read most significant
nibble first. -/
namespace Chip8

abbrev Nibble := Fin 16

abbrev Address := Fin 4096

/-- The low four bits of `n`. -/
def Nibble.ofNat (n : Nat) : Nibble := Fin.ofNat 16 n

/-- The low twelve bits of `n`. -/
def Address.ofNat (n : Nat) : Address := Fin.ofNat 4096 n

def Address.toWord (a : Address) : UInt16 := UInt16.ofNat a.val

def Address.ofNibbles (a b c : Nibble) : Address :=
  Address.ofNat (a.val * 256 + b.val * 16 + c.val)

/-- The address that lies `k` cells after a 16-bit pointer, around the end of memory. -/
def Address.after (base : UInt16) (k : Nat) : Address := Address.ofNat (base.toNat + k)

def byteOfNibbles (high low : Nibble) : UInt8 := UInt8.ofNat (high.val * 16 + low.val)

def highNibble (b : UInt8) : Nibble := Nibble.ofNat (b.toNat / 16)

def lowNibble (b : UInt8) : Nibble := Nibble.ofNat b.toNat

def wordOfBytes (high low : UInt8) : UInt16 := UInt16.ofNat (high.toNat * 256 + low.toNat)

def highByte (w : UInt16) : UInt8 := UInt8.ofNat (w.toNat / 256)

def lowByte (w : UInt16) : UInt8 := UInt8.ofNat w.toNat

/-- The four nibbles of an instruction word. -/
structure Nibbles where
  first : Nibble
  second : Nibble
  third : Nibble
  fourth : Nibble
deriving DecidableEq, Repr

def Nibbles.ofBytes (high low : UInt8) : Nibbles :=
  ⟨highNibble high, lowNibble high, highNibble low, lowNibble low⟩

def Nibbles.ofWord (w : UInt16) : Nibbles := .ofBytes (highByte w) (lowByte w)

def Nibbles.toList (n : Nibbles) : List Nibble := [n.first, n.second, n.third, n.fourth]

/-- The two bytes that spell an instruction in a program. -/
def Nibbles.bytes (n : Nibbles) : UInt8 × UInt8 :=
  (byteOfNibbles n.first n.second, byteOfNibbles n.third n.fourth)

/-- An instruction as it is written down: four numbers, of which the low nibbles are meant. -/
structure Quartet where
  first : UInt8
  second : UInt8
  third : UInt8
  fourth : UInt8
deriving DecidableEq, Repr

def Quartet.nibbles (q : Quartet) : Nibbles :=
  ⟨lowNibble q.first, lowNibble q.second, lowNibble q.third, lowNibble q.fourth⟩

def Quartet.bytes (q : Quartet) : UInt8 × UInt8 := q.nibbles.bytes

/-! Integers from outside enter a register either exactly, or through a signed 32-bit number
whose low bits are kept. -/

def byteOfInt? (n : Int) : Option UInt8 :=
  if 0 ≤ n ∧ n < 256 then some (UInt8.ofNat n.toNat) else none

def wordOfInt? (n : Int) : Option UInt16 :=
  if 0 ≤ n ∧ n < 65536 then some (UInt16.ofNat n.toNat) else none

def fitsInt32 : Int → Bool
  | .ofNat n => n < 2147483648
  | .negSucc n => n < 2147483648

theorem fitsInt32_iff {n : Int} :
    fitsInt32 n = true ↔ -2147483648 ≤ n ∧ n < 2147483648 := by
  cases n <;> simp only [fitsInt32, decide_eq_true_eq, Int.ofNat_eq_natCast] <;> omega

/-- Signed 32-bit integers are accepted modulo 65536. -/
def wrappedWordOfInt? (n : Int) : Option UInt16 :=
  if fitsInt32 n then some (UInt16.ofNat (n % 65536).toNat) else none

end Chip8
