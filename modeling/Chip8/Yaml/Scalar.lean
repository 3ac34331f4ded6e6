import Chip8.Yaml.Datum

/-! The kinds of nodes. A tag names a kind, and a plain text without one is null, a boolean, an
integer, a float, or a text, by its spelling. -/
namespace Chip8.Yaml

inductive Kind
  | null | bool | int | float | text | binary | moment
  | list | map | set
  /-- A list of maps with one entry each, which stands for a list of pairs. -/
  | pairs
  /-- The spellings `<<` and `=`, which have a meaning as keys only. -/
  | merge | default
  /-- A kind that is none of these. -/
  | foreign
deriving DecidableEq, Repr

namespace Kind

def isDigit (c : Char) : Bool := c.isDigit

def isDigitOr_ (c : Char) : Bool := c.isDigit || c == '_'

def isBinary (c : Char) : Bool := c == '0' || c == '1' || c == '_'

def isOctal (c : Char) : Bool := ('0' ≤ c && c ≤ '7') || c == '_'

def isHex (c : Char) : Bool :=
  c.isDigit || ('a' ≤ c && c ≤ 'f') || ('A' ≤ c && c ≤ 'F') || c == '_'

def dropSign : List Char → List Char
  | '-' :: cs => cs
  | '+' :: cs => cs
  | cs => cs

/-- One or two digits below sixty. -/
def isSixtieth : List Char → Bool
  | [c] => c.isDigit
  | [a, b] => '0' ≤ a && a ≤ '5' && b.isDigit
  | _ => false

/-- The parts between colons. -/
def colonParts : List Char → List (List Char)
  | [] => [[]]
  | ':' :: cs => [] :: colonParts cs
  | c :: cs =>
    match colonParts cs with
    | [] => [[c]]
    | p :: ps => (c :: p) :: ps

/-- A digit, then digits and underscores. -/
def isRun : List Char → Bool
  | c :: cs => c.isDigit && cs.all isDigitOr_
  | [] => false

/-- Digits with single underscores between them. -/
def isStrictRun : List Char → Bool
  | [] => false
  | [c] => c.isDigit
  | c :: '_' :: d :: cs => c.isDigit && isStrictRun (d :: cs)
  | c :: cs => c.isDigit && isStrictRun cs

def isDecimalInt : List Char → Bool
  | ['0'] => true
  | c :: cs => '1' ≤ c && c ≤ '9' && cs.all isDigitOr_
  | [] => false

def isSexagesimalInt (cs : List Char) : Bool :=
  match colonParts cs with
  | first :: rest@(_ :: _) => isDecimalInt first && first != ['0'] && rest.all isSixtieth
  | _ => false

def isInt (cs : List Char) : Bool :=
  match dropSign cs with
  | '0' :: 'b' :: ds@(_ :: _) => ds.all isBinary
  | '0' :: 'x' :: ds@(_ :: _) => ds.all isHex
  | '0' :: ds@(_ :: _) => ds.all isOctal
  | ds => isDecimalInt ds || isSexagesimalInt ds

/-- The exponent at the end of a float, whose sign may be left out only after a strict run. -/
def isExponent (strict : Bool) : List Char → Bool
  | [] => true
  | e :: cs =>
    (e == 'e' || e == 'E') &&
      match cs with
      | '-' :: ds => !ds.isEmpty && ds.all isDigit
      | '+' :: ds => !ds.isEmpty && ds.all isDigit
      | ds => strict && !ds.isEmpty && ds.all isDigit

def isPointFloat (cs : List Char) : Bool :=
  let whole := cs.takeWhile isDigitOr_
  let rest := cs.dropWhile isDigitOr_
  match rest with
  | '.' :: rest =>
    isRun whole && isExponent (isStrictRun whole) (rest.dropWhile isDigitOr_)
  | e :: _ => (e == 'e' || e == 'E') && isStrictRun whole && isExponent true rest
  | [] => false

def isSexagesimalFloat (cs : List Char) : Bool :=
  match colonParts cs with
  | first :: rest@(_ :: _) =>
    match rest.getLast?, rest.dropLast with
    | some last, middle =>
      isRun first && middle.all isSixtieth && isSixtieth (last.takeWhile isDigit) &&
        match last.dropWhile isDigit with
        | '.' :: fraction => fraction.all isDigitOr_
        | _ => false
    | none, _ => false
  | _ => false

def isFloat (cs : List Char) : Bool :=
  match cs with
  | '.' :: c :: rest =>
    (c.isDigit && isExponent false (rest.dropWhile isDigitOr_)) ||
      cs ∈ [".inf", ".Inf", ".INF", ".nan", ".NaN", ".NAN"].map String.toList
  | _ =>
    let ds := dropSign cs
    isPointFloat ds || isSexagesimalFloat ds ||
      (ds.length < cs.length && ds ∈ [".inf", ".Inf", ".INF"].map String.toList)

def trueWords : List String := ["yes", "Yes", "YES", "true", "True", "TRUE", "on", "On", "ON"]

def falseWords : List String := ["no", "No", "NO", "false", "False", "FALSE", "off", "Off", "OFF"]

/-- The kind of a plain scalar. -/
def ofPlain (s : String) : Kind :=
  if s ∈ ["", "~", "null", "Null", "NULL"] then null
  else if s ∈ trueWords ++ falseWords then bool
  else if isInt s.toList then int
  else if isFloat s.toList then float
  else if s = "<<" then merge
  else if s = "=" then default
  else if s ∈ ["!", "&", "*"] then foreign
  else text

/-- What the tags of the format itself begin with. -/
def tagSpace : String := "tag:yaml.org,2002:"

def names : List (String × Kind) :=
  [ ("null", null), ("bool", bool), ("int", int), ("float", float), ("str", text),
    ("binary", binary), ("timestamp", moment), ("seq", list), ("map", map), ("set", set),
    ("omap", pairs), ("pairs", pairs), ("merge", merge), ("value", default) ]

/-- The kind that a tag names. -/
def ofTag (tag : String) : Kind :=
  ((names.find? fun (name, _) => tagSpace ++ name == tag).map Prod.snd).getD foreign

end Kind

namespace Scalar

def isNegative (cs : List Char) : Bool := cs.head? == some '-'

/-- Base sixty, most significant part first. -/
def sexagesimal (parts : List Int) : Int := parts.foldl (fun n p => n * 60 + p) 0

/-- An integer without its sign, in the base that its first characters tell. -/
def unsignedInt (cs : List Char) : Except Error Int :=
  let read (r : Option Int) : Except Error Int :=
    match r with
    | some n => .ok n
    | none => .error .number
  match cs with
  | [] => .error .emptyNumber
  | ['0'] => .ok 0
  | '0' :: 'b' :: ds => read (Text.integerIn? 2 'b' ds)
  | '0' :: 'x' :: ds => read (Text.integerIn? 16 'x' ds)
  | '0' :: ds => read (Text.integerIn? 8 'o' ('0' :: ds))
  | ds =>
    read (((Kind.colonParts ds).mapM fun p => Text.integer? (String.ofList p)).map sexagesimal)

/-- The value of an integer; underscores do not count. -/
def int (s : String) : Except Error Int :=
  let cs := s.toList.filter (· != '_')
  if cs.isEmpty then .error .emptyNumber
  else (unsignedInt (Kind.dropSign cs)).map fun n => if isNegative cs then -n else n

/-- Parts in base sixty, the last one first, each with its weight. -/
def weighted (weight : Int) (sum : Text.Binary64) : List Text.Binary64 → Text.Binary64
  | [] => sum
  | x :: xs => weighted (weight * 60) (sum.add (x.mul (.ofInt weight))) xs

/-- A float without its sign. -/
def unsignedFloat (cs : List Char) : Except Error Text.Binary64 :=
  let read (r : Option Text.Binary64) : Except Error Text.Binary64 :=
    match r with
    | some x => .ok x
    | none => .error .number
  if cs = ".inf".toList then .ok (.infinite false)
  else if cs = ".nan".toList then .ok .nan
  else if cs.contains ':' then
    let parts := (Kind.colonParts cs).mapM fun p => Text.Binary64.ofText? (String.ofList p)
    read (parts.map fun ps => weighted 1 (.ofInt 0) ps.reverse)
  else read (Text.Binary64.ofText? (String.ofList cs))

/-- The value of a float; underscores and case do not count. -/
def float (s : String) : Except Error Text.Binary64 :=
  let cs := (s.toList.filter (· != '_')).map Char.toLower
  if cs.isEmpty then .error .emptyNumber
  else
    (unsignedFloat (Kind.dropSign cs)).map fun x => if isNegative cs then x.negate else x

/-- The words that booleans may be spelled with, in any case. -/
def bool (s : String) : Except Error Bool :=
  let word := s.toLower
  if word ∈ ["yes", "true", "on"] then .ok true
  else if word ∈ ["no", "false", "off"] then .ok false
  else .error .word

/-! Bytes, six bits to a character. -/

def sixBits? (c : Char) : Option Nat :=
  if c.isUpper then some (c.toNat - 65)
  else if c.isLower then some (c.toNat - 71)
  else if c.isDigit then some (c.toNat + 4)
  else if c = '+' then some 62
  else if c = '/' then some 63
  else none

/-- What has been read: the bytes in reverse, the bits of the byte to come, the characters of
this group, and the signs of a group cut short. -/
structure Bits where
  bytes : List UInt8 := []
  held : Nat := 0
  count : Nat := 0
  padding : Nat := 0

def Bits.push (b : Bits) (six : Nat) : Bits :=
  match b.count with
  | 0 => ⟨b.bytes, six, 1, 0⟩
  | 1 => ⟨UInt8.ofNat (b.held * 4 + six / 16) :: b.bytes, six % 16, 2, 0⟩
  | 2 => ⟨UInt8.ofNat (b.held * 16 + six / 4) :: b.bytes, six % 4, 3, 0⟩
  | _ => ⟨UInt8.ofNat (b.held * 64 + six) :: b.bytes, 0, 0, 0⟩

/-- Characters that carry no bits are passed over; a group that is cut short ends the text, and
has to be marked as such. -/
def bytesFrom (b : Bits) : List Char → Option (List UInt8)
  | [] => if b.count = 0 then some b.bytes.reverse else none
  | '=' :: cs =>
    if 2 ≤ b.count then
      if 4 ≤ b.count + b.padding + 1 then some b.bytes.reverse
      else bytesFrom { b with padding := b.padding + 1 } cs
    else bytesFrom b cs
  | c :: cs =>
    match sixBits? c with
    | some six => bytesFrom (b.push six) cs
    | none => bytesFrom b cs

def bytes (s : String) : Except Error (List UInt8) :=
  if s.toList.any fun c => 127 < c.toNat then .error .value
  else
    match bytesFrom {} s.toList with
    | some bs => .ok bs
    | none => .error .value

/-! Moments in time. -/

/-- Between `low` and `high` digits at the front, as a number, and what follows. -/
def field? (low high : Nat) (cs : List Char) : Option (Nat × List Char) :=
  let digits := (cs.take high).takeWhile Char.isDigit
  if digits.length < low then none
  else some (digits.foldl (fun n d => n * 10 + (d.toNat - 48)) 0, cs.drop digits.length)

/-- What stands behind a character. -/
def after? (x : Char) : List Char → Option (List Char)
  | y :: cs => if x = y then some cs else none
  | [] => none

/-- Hours and minutes east or west of the prime meridian, or nothing. -/
def isZone (cs : List Char) : Bool :=
  match cs.dropWhile fun c => c == ' ' || c == '\t' with
  | [] => cs.isEmpty
  | ['Z'] => true
  | x :: rest =>
    (x == '+' || x == '-') &&
      match field? 1 2 rest with
      | some (_, []) => true
      | some (_, ':' :: r) => (field? 2 2 r).any fun (_, r) => r.isEmpty
      | _ => false

def daysIn (year month : Nat) : Nat :=
  if month = 2 then (if year % 4 = 0 ∧ (year % 100 ≠ 0 ∨ year % 400 = 0) then 29 else 28)
  else if month = 4 ∨ month = 6 ∨ month = 9 ∨ month = 11 then 30
  else 31

def isDate (year month day : Nat) : Bool :=
  0 < year && 0 < month && month ≤ 12 && 0 < day && day ≤ daysIn year month

/-- The blanks or the letter between a date and a time of day. -/
def timePart? : List Char → Option (List Char)
  | 'T' :: cs => some cs
  | 't' :: cs => some cs
  | c :: cs => if c == ' ' || c == '\t' then some (cs.dropWhile fun x => x == ' ' || x == '\t') else none
  | [] => none

/-- Year, month and day, and what follows them. -/
def date? (cs : List Char) : Option ((Nat × Nat × Nat) × List Char) := do
  let (year, cs) ← field? 4 4 cs
  let (month, cs) ← field? 1 2 (← after? '-' cs)
  let (day, cs) ← field? 1 2 (← after? '-' cs)
  return ((year, month, day), cs)

/-- A time of day with its zone: whether it lies within a day. -/
def timeOfDay? (cs : List Char) : Option Bool := do
  let (hour, cs) ← field? 1 2 (← timePart? cs)
  let (minute, cs) ← field? 2 2 (← after? ':' cs)
  let (second, cs) ← field? 2 2 (← after? ':' cs)
  let cs :=
    match cs with
    | '.' :: r => r.dropWhile Char.isDigit
    | r => r
  if isZone cs then some (hour < 24 && minute < 60 && second < 60) else none

def moment (s : String) : Except Error Unit :=
  match date? s.toList with
  | none => .error .moment
  | some ((year, month, day), []) =>
    let isFull := s.length == 10
    if !isFull then .error .moment
    else if isDate year month day then .ok () else .error .number
  | some ((year, month, day), rest) =>
    match timeOfDay? rest with
    | none => .error .moment
    | some isTime => if isDate year month day && isTime then .ok () else .error .number

/-- The value of a scalar of a given kind. -/
def value (kind : Kind) (s : String) : Except Error Datum :=
  match kind with
  | .null => .ok .null
  | .bool => (bool s).map .bool
  | .int => (int s).map .int
  | .float => (float s).map .float
  | .text => .ok (.text s)
  | .binary => (bytes s).map .bytes
  | .moment => (moment s).map fun _ => .moment
  | .list | .map | .set | .pairs | .merge | .default | .foreign => .error .value

end Scalar

end Chip8.Yaml
