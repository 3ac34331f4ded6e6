import Chip8.Text.Integer

/-! Decimal numbers as 64-bit floats: the nearest float to a fraction, and the shortest decimal
that reads back as a given float. All arithmetic is on whole numbers: a sum, a product or a
quotient is the float nearest to the exact one. -/
namespace Chip8.Text

/-- A float: `m · 2^q` with a sign, an infinity, or not a number. -/
inductive Binary64
  | finite (negative : Bool) (m : Nat) (q : Int)
  | infinite (negative : Bool)
  | nan
deriving DecidableEq, Repr

namespace Binary64

/-- `num / den` to the nearest integer; a half goes to the even neighbour. -/
def divNearest (num den : Nat) : Nat :=
  let d := num / den
  let twice := 2 * (num % den)
  if twice < den then d else if den < twice then d + 1 else d + d % 2

/-- `num · b^e` and `den`, or `num` and `den · b^(-e)` when the exponent is negative. -/
def scaled (b : Nat) (num den : Nat) (e : Int) : Nat × Nat :=
  if 0 ≤ e then (num * Nat.pow b e.toNat, den) else (num, den * Nat.pow b (-e).toNat)

/-- The greatest `e` with `2^e ≤ num / den`, for positive arguments. -/
def binaryExponent (num den : Nat) : Int :=
  let e := (Nat.log2 num : Int) - (Nat.log2 den : Int)
  let (n, d) := scaled 2 num den (-e)
  if n < d then e - 1 else e

/-- The least significand of a normal float, `2^52`. -/
def hidden : Nat := 1 <<< 52

/-- The float nearest to `num / den`. -/
def ofFraction (negative : Bool) (num den : Nat) : Binary64 :=
  if num = 0 then .finite negative 0 (-1074)
  else
    let q := max (binaryExponent num den - 52) (-1074)
    let (n, d) := scaled 2 num den (-q)
    let m := divNearest n d
    let (m, q) := if m = 2 * hidden then (hidden, q + 1) else (m, q)
    if 971 < q then .infinite negative else .finite negative m q

/-- The float nearest to `digits · 10^exponent`. What is far beyond the largest or below the
smallest float is not multiplied out. -/
def ofDecimal (negative : Bool) (digits : Nat) (exponent : Int) : Binary64 :=
  if digits = 0 || exponent + (Nat.toDigits 10 digits).length < -330 then
    .finite negative 0 (-1074)
  else if 310 < exponent then .infinite negative
  else
    let (n, d) := scaled 10 digits 1 exponent
    ofFraction negative n d

/-- The number of places by which `num / den`, below one, has to be moved to reach one. -/
def leadingZeros (num den : Nat) : Nat → Nat
  | 0 => 0
  | fuel + 1 => if den ≤ num then 0 else leadingZeros (num * 10) den fuel + 1

/-- The greatest `p` with `10^p ≤ num / den`, for positive arguments. -/
def decimalExponent (num den : Nat) : Int :=
  if den ≤ num then ((Nat.toDigits 10 (num / den)).length : Int) - 1
  else -(leadingZeros num den 400 : Int)

/-- Whether `d · 10^g` lies among the reals that round to `m · 2^q`. The ends belong to them
when `m` is even; below a power of two the gap is half as wide. -/
def reads (m : Nat) (q : Int) (d : Nat) (g : Int) : Bool :=
  let (x, w) := scaled 10 (4 * d) 1 g
  let (low, w₁) := scaled 2 (if m = hidden ∧ -1074 < q then 4 * m - 1 else 4 * m - 2) 1 q
  let (high, w₂) := scaled 2 (4 * m + 2) 1 q
  if m % 2 = 0 then low * w ≤ x * w₁ && x * w₂ ≤ high * w
  else low * w < x * w₁ && x * w₂ < high * w

/-- The shortest digits that read back, with the power of ten of the last one; of two
candidates the nearer, and of two equally near the even one. -/
def shortestFrom (m : Nat) (q p : Int) : Nat → Nat → Nat × Int
  | _, 0 => (0, 0)
  | k, fuel + 1 =>
    let g := p - k
    let (n, w) := scaled 2 m 1 q
    let (n, w) := scaled 10 n w (-g)
    let below := n / w
    let lowHit := reads m q below g
    let highHit := reads m q (below + 1) g
    if lowHit && (!highHit || divNearest n w = below) then (below, g)
    else if highHit then (below + 1, g)
    else shortestFrom m q p (k + 1) fuel

def shortest (m : Nat) (q : Int) : Nat × Int :=
  let (n, w) := scaled 2 m 1 q
  shortestFrom m q (decimalExponent n w) 0 17

/-- Positional from 0.0001 up to 10^16, with at least one digit after the point; beyond that, an
exponent of at least two digits. -/
def decimalText (digits : List Char) (point : Int) : String :=
  let whole := String.ofList digits
  let n := (digits.length : Int)
  if -4 < point ∧ point ≤ 16 then
    if point ≤ 0 then "0." ++ String.ofList (List.replicate (-point).toNat '0') ++ whole
    else if n ≤ point then
      whole ++ String.ofList (List.replicate (point - n).toNat '0') ++ ".0"
    else
      String.ofList (digits.take point.toNat) ++ "." ++ String.ofList (digits.drop point.toNat)
  else
    let e := point - 1
    let mantissa :=
      match digits with
      | d :: rest@(_ :: _) => String.ofList (d :: '.' :: rest)
      | ds => String.ofList ds
    let places := toString e.natAbs
    mantissa ++ (if e < 0 then "e-" else "e+") ++ (if places.length < 2 then "0" else "") ++ places

def text : Binary64 → String
  | nan => "nan"
  | infinite negative => if negative then "-inf" else "inf"
  | finite negative m q =>
    let sign := if negative then "-" else ""
    if m = 0 then sign ++ "0.0"
    else
      let (d, g) := shortest m q
      let digits := Nat.toDigits 10 d
      let trimmed := (digits.reverse.dropWhile (· == '0')).reverse
      sign ++ decimalText trimmed (digits.length + g)

/-! Reading. -/

/-- The digits at the front, with single underscores between them, and what follows. -/
def digitRun : List Char → List Nat × List Char
  | [] => ([], [])
  | '_' :: c :: rest =>
    match digitValue? c with
    | some d => let (ds, r) := digitRun rest; (d :: ds, r)
    | none => ([], '_' :: c :: rest)
  | c :: rest =>
    match digitValue? c with
    | some d => let (ds, r) := digitRun rest; (d :: ds, r)
    | none => ([], c :: rest)

/-- `digitRun`, which no underscore may start. -/
def leadingDigits : List Char → List Nat × List Char
  | '_' :: rest => ([], '_' :: rest)
  | cs => digitRun cs

def decimal (ds : List Nat) : Nat := ds.foldl (fun n d => n * 10 + d) 0

/-- An exponent that ends a number, zero if there is none. -/
def exponent? : List Char → Option Int
  | [] => some 0
  | e :: cs =>
    if e = 'e' ∨ e = 'E' then
      let (negative, cs) :=
        match cs with
        | '-' :: r => (true, r)
        | '+' :: r => (false, r)
        | r => (false, r)
      match leadingDigits cs with
      | (ds@(_ :: _), []) => some (if negative then -(decimal ds : Int) else decimal ds)
      | _ => none
    else none

def unsigned? (negative : Bool) (cs : List Char) : Option Binary64 :=
  let word := String.ofList (cs.map Char.toLower)
  if word = "inf" ∨ word = "infinity" then some (.infinite negative)
  else if word = "nan" then some .nan
  else
    let (whole, rest) := leadingDigits cs
    let (places, rest) :=
      match rest with
      | '.' :: r => leadingDigits r
      | r => ([], r)
    if whole.isEmpty ∧ places.isEmpty then none
    else (exponent? rest).map fun e =>
      .ofDecimal negative (decimal (whole ++ places)) (e - places.length)

/-- A float as people type it: blanks around, a sign, digits with a point and an exponent, or a
word for what is not finite. -/
def ofText? (s : String) : Option Binary64 :=
  match trimBlanks s.toList with
  | '-' :: cs => unsigned? true cs
  | '+' :: cs => unsigned? false cs
  | cs => unsigned? false cs

/-! Arithmetic. -/

/-- The float nearest to an integer. -/
def ofInt (n : Int) : Binary64 := ofFraction (n < 0) n.natAbs 1

/-- A finite float as a fraction. -/
def fraction? : Binary64 → Option (Int × Nat)
  | finite negative m q =>
    let (num, den) := scaled 2 m 1 q
    some (if negative then -(num : Int) else num, den)
  | _ => none

/-- The float nearest to what `f` makes of two finite floats, as a fraction. -/
def combine (f : Int × Nat → Int × Nat → Int × Nat) (x y : Binary64) : Binary64 :=
  match x.fraction?, y.fraction? with
  | some a, some b =>
    let (num, den) := f a b
    ofFraction (num < 0) num.natAbs den
  | _, _ => .nan

def add : Binary64 → Binary64 → Binary64 :=
  combine fun (a, b) (c, d) => (a * d + c * b, b * d)

def mul : Binary64 → Binary64 → Binary64 :=
  combine fun (a, b) (c, d) => (a * c, b * d)

def isZero : Binary64 → Bool
  | finite _ m _ => m == 0
  | _ => false

/-- The quotient by a number that is not zero. -/
def div : Binary64 → Binary64 → Binary64 :=
  combine fun (a, b) (c, d) => (a * d * c.sign, b * c.natAbs)

/-- What is left of a number when a multiple of another one, not beyond it, is taken off. -/
def rem : Binary64 → Binary64 → Binary64 :=
  combine fun (a, b) (c, d) => (Int.tmod (a * d) (c * b), b * d)

def sub : Binary64 → Binary64 → Binary64 :=
  combine fun (a, b) (c, d) => (a * d - c * b, b * d)

/-- The greatest whole number not above a number that has just been rounded, or the next one when
that is nearer. -/
def wholeBelow (x : Binary64) : Binary64 :=
  match x.fraction? with
  | some (num, den) =>
    let whole := num.fdiv den
    ofInt (if (den : Int) < 2 * (num - whole * den) then whole + 1 else whole)
  | none => x

/-- The quotient rounded down, by a number that is not zero. What would be left over is taken off
first; a step down is due where the signs differ. -/
def floorDiv (x y : Binary64) : Binary64 :=
  let rest := x.rem y
  let quotient := (x.sub rest).div y
  match rest.fraction?, y.fraction? with
  | some (r, _), some (c, _) =>
    wholeBelow (if r ≠ 0 ∧ r.sign ≠ c.sign then quotient.sub (ofInt 1) else quotient)
  | _, _ => .nan

def isPositive : Binary64 → Bool
  | finite negative m _ => !negative && m != 0
  | infinite negative => !negative
  | nan => true

def negate : Binary64 → Binary64
  | finite negative m q => .finite (!negative) m q
  | infinite negative => .infinite (!negative)
  | nan => .nan

end Binary64

end Chip8.Text
