import Chip8.Text.Number
import Chip8.Text.Printable

/-! Names in quotes, as they appear in messages about files. -/
namespace Chip8.Text

def lowerHex (width n : Nat) : List Char := (hex width n).toLower.toList

/-- A character between quotes of a kind. -/
def quotedChar (quote c : Char) : List Char :=
  if c = quote || c = '\\' then ['\\', c]
  else if c = '\n' then ['\\', 'n']
  else if c = '\r' then ['\\', 'r']
  else if c = '\t' then ['\\', 't']
  else if isPrintable c then [c]
  else if c.toNat < 0x100 then '\\' :: 'x' :: lowerHex 2 c.toNat
  else if c.toNat < 0x10000 then '\\' :: 'u' :: lowerHex 4 c.toNat
  else '\\' :: 'U' :: lowerHex 8 c.toNat

/-- Single quotes around, or double ones when only single ones occur inside. -/
def quoted (s : String) : String :=
  let quote := if s.contains '\x27' && !s.contains '\x22' then '\x22' else '\x27'
  String.ofList (quote :: s.toList.flatMap (quotedChar quote) ++ [quote])

end Chip8.Text
