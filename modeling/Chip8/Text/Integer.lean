/-! Integers as people type them: blanks around, a sign, decimal digits of any script, and
single underscores between digits. -/
namespace Chip8.Text

/-- The digit zero of each decimal script; the other nine follow it. -/
def zeroDigits : List Nat := [
    48, 1632, 1776, 1984, 2406, 2534, 2662, 2790, 2918, 3046, 3174, 3302, 3430, 3558, 3664, 3792,
    3872, 4160, 4240, 6112, 6160, 6470, 6608, 6784, 6800, 6992, 7088, 7232, 7248, 42528, 43216,
    43264, 43472, 43504, 43600, 44016, 65296, 66720, 68912, 69734, 69872, 69942, 70096, 70384,
    70736, 70864, 71248, 71360, 71472, 71904, 72016, 72784, 73040, 73120, 92768, 92864, 93008,
    120782, 120792, 120802, 120812, 120822, 123200, 123632, 125264, 130032]

def digitValue? (c : Char) : Option Nat :=
  (zeroDigits.find? fun z => z ≤ c.toNat && c.toNat < z + 10).map (c.toNat - ·)

def isBlank (c : Char) : Bool :=
  let n := c.toNat
  (0x09 ≤ n && n ≤ 0x0D) || n == 0x20 || n == 0x85 || n == 0xA0 || n == 0x1680 ||
    (0x2000 ≤ n && n ≤ 0x200A) || n == 0x2028 || n == 0x2029 || n == 0x202F || n == 0x205F ||
    n == 0x3000

def trimBlanks (cs : List Char) : List Char :=
  ((cs.dropWhile isBlank).reverse.dropWhile isBlank).reverse

/-- The longest decimal number that is read. -/
def maxDigits : Nat := 4300

/-- The value of a digit in a base of up to sixteen. -/
def digitIn? (base : Nat) (c : Char) : Option Nat :=
  let value := (digitValue? c).orElse fun _ =>
    if 'a' ≤ c ∧ c ≤ 'f' then some (c.toNat - 87)
    else if 'A' ≤ c ∧ c ≤ 'F' then some (c.toNat - 55)
    else none
  value.filter (· < base)

/-- Digits, after a first one, with single underscores between them. -/
def digitsFrom (base value : Nat) : List Char → Option Nat
  | [] => some value
  | '_' :: c :: rest =>
    (digitIn? base c).bind fun d => digitsFrom base (value * base + d) rest
  | c :: rest => (digitIn? base c).bind fun d => digitsFrom base (value * base + d) rest

def naturalIn? (base : Nat) : List Char → Option Nat
  | [] => none
  | c :: rest => (digitIn? base c).bind fun d => digitsFrom base d rest

def natural? (cs : List Char) : Option Nat :=
  if maxDigits < (cs.filter (· != '_')).length then none else naturalIn? 10 cs

/-- A sign, and then what `natural` reads. -/
def signed? (natural : List Char → Option Nat) : List Char → Option Int
  | '-' :: rest => (natural rest).map fun n => -(n : Int)
  | '+' :: rest => (natural rest).map fun n => (n : Int)
  | cs => (natural cs).map fun n => (n : Int)

def integer? (s : String) : Option Int := signed? natural? (trimBlanks s.toList)

/-- What stands after the mark of a base, which may be left out. -/
def dropBaseMark (mark : Char) : List Char → List Char
  | '0' :: c :: '_' :: rest => if c.toLower = mark then rest else '0' :: c :: '_' :: rest
  | '0' :: c :: rest => if c.toLower = mark then rest else '0' :: c :: rest
  | cs => cs

/-- An integer in base 2, 8 or 16, of any length. -/
def integerIn? (base : Nat) (mark : Char) (cs : List Char) : Option Int :=
  signed? (fun ds => naturalIn? base (dropBaseMark mark ds)) (trimBlanks cs)

end Chip8.Text
