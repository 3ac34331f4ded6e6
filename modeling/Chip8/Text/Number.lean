/-! Numbers and lists of names as they appear in messages. -/
namespace Chip8.Text

def padLeft (width : Nat) (fill : Char) (s : String) : String :=
  String.ofList (List.replicate (width - s.length) fill) ++ s

/-- Upper-case hexadecimal, zero-padded to at least `width` digits. -/
def hex (width n : Nat) : String :=
  padLeft width '0' (String.ofList ((Nat.toDigits 16 n).map Char.toUpper))

/-- Groups of three digits, counted from the right. -/
def groupThrees (digits : List Char) : List Char :=
  (digits.reverse.zipIdx.flatMap fun (c, i) =>
    if i % 3 = 0 ∧ i ≠ 0 then [',', c] else [c]).reverse

/-- An integer with commas between the thousands. -/
def grouped (n : Int) : String :=
  (if n < 0 then "-" else "") ++ String.ofList (groupThrees (toString n.natAbs).toList)

/-- Names in quotes, between brackets. -/
def nameList (names : List String) : String :=
  "[" ++ ", ".intercalate (names.map fun s => "'" ++ s ++ "'") ++ "]"

/-- The lengths of a shape, between parentheses; a single one is followed by a comma. -/
def shape : List Nat → String
  | [n] => s!"({n},)"
  | ns => "(" ++ ", ".intercalate (ns.map toString) ++ ")"

end Chip8.Text
