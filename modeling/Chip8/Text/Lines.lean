/-! The lines of a text. A line ends at any of the line, page, file, group and record
separators; a carriage return and the newline after it are one break. -/
namespace Chip8.Text

def isBreak (c : Char) : Bool :=
  let n := c.toNat
  (0x0A ≤ n && n ≤ 0x0D) || (0x1C ≤ n && n ≤ 0x1E) || n == 0x85 || n == 0x2028 || n == 0x2029

/-- A break at the end does not start another line. -/
def splitLines : List Char → List (List Char)
  | [] => []
  | '\r' :: '\n' :: rest => [] :: splitLines rest
  | c :: rest =>
    if isBreak c then [] :: splitLines rest
    else
      match splitLines rest with
      | [] => [[c]]
      | line :: more => (c :: line) :: more

def lines (s : String) : List String := (splitLines s.toList).map String.ofList

end Chip8.Text
