import Chip8.Yaml.Token

/-! Scalars as they are written: in quotes, as a block of lines, or plain. A line break inside
quoted and plain text is a space, unless empty lines follow it; those are kept. -/
namespace Chip8.Yaml

/-- What stands between two parts of a text: blanks on one line, or line breaks. -/
structure Gap where
  blanks : List Char := []
  isBroken : Bool := false
  first : List Char := []
  others : List Char := []

namespace Gap

def text (g : Gap) : List Char :=
  if !g.isBroken then g.blanks
  else if g.first = ['\n'] then (if g.others.isEmpty then [' '] else g.others)
  else g.first ++ g.others

/-- The gap from a place on. On a new line no tab may stand before column `indent`. -/
def scan (indent : Nat) : Nat → Gap → Cursor → Scan (Gap × Cursor)
  | 0, g, c => .ok (g, c)
  | fuel + 1, g, c =>
    match c.rest with
    | [] => .ok (g, c)
    | x :: _ =>
      if isBlank x then
        if g.isBroken then
          if x = '\t' && c.column < indent then .error .token else scan indent fuel g (c.skip 1)
        else scan indent fuel { g with blanks := g.blanks ++ [x] } (c.skip 1)
      else if isBreak x then
        if g.isBroken then scan indent fuel { g with others := g.others ++ c.breakText } c.skipLine
        else scan indent fuel ⟨[], true, c.breakText, []⟩ c.skipLine
      else .ok (g, c)

end Gap

namespace Lexeme

/-! Quoted text. -/

/-- The number of hexadecimal digits behind an escape. -/
def escapeWidth : Char → Nat
  | 'x' => 2
  | 'u' => 4
  | 'U' => 8
  | _ => 0

/-- The character that a short escape stands for. -/
def escapeChar? : Char → Option Char
  | '0' => some '\x00'
  | 'a' => some '\x07'
  | 'b' => some '\x08'
  | 't' => some '\t'
  | '\t' => some '\t'
  | 'n' => some '\n'
  | 'v' => some '\x0b'
  | 'f' => some '\x0c'
  | 'r' => some '\r'
  | 'e' => some '\x1b'
  | ' ' => some ' '
  | '"' => some '"'
  | '/' => some '/'
  | '\\' => some '\\'
  | 'N' => some '\u0085'
  | '_' => some '\u00a0'
  | 'L' => some '\u2028'
  | 'P' => some '\u2029'
  | _ => none

/-- The character with a number; surrogates and what lies beyond the last plane are none. -/
def charOf? (n : Nat) : Option Char :=
  if n < 0xD800 || (0xDFFF < n && n < 0x110000) then some (Char.ofNat n) else none

/-- The character behind a backslash, and the length of its spelling. -/
def escape? : List Char → Option (Char × Nat)
  | [] => none
  | x :: cs =>
    match escapeWidth x with
    | 0 => (escapeChar? x).map fun ch => (ch, 1)
    | width => do
      let digits ← (cs.take width).mapM hexDigit?
      if digits.length < width then none
      else
        let ch ← charOf? (digits.foldl (fun n d => n * 16 + d) 0)
        return (ch, width + 1)

/-- Characters up to a gap or the closing quote, in reverse; a line break behind a backslash ends
them too, and is told apart. -/
def quotedRun (quote : Char) : Nat → List Char → Cursor → Scan ((List Char × Bool) × Cursor)
  | 0, acc, c => .ok ((acc, false), c)
  | fuel + 1, acc, c =>
    match c.rest with
    | [] => .ok ((acc, false), c)
    | x :: cs =>
      if isGap x then .ok ((acc, false), c)
      else if x = quote then
        if quote = '\x27' && cs.head? == some quote then
          quotedRun quote fuel (quote :: acc) (c.skip 2)
        else .ok ((acc, false), c)
      else if x = '\\' && quote = '"' then
        if (cs.head?.map isBreak).getD false then .ok ((acc, true), (c.skip 1).skipLine)
        else
          match escape? cs with
          | some (ch, width) => quotedRun quote fuel (ch :: acc) (c.skip (width + 1))
          | none => .error .token
      else quotedRun quote fuel (x :: acc) (c.skip 1)

/-- The text up to the closing quote. -/
def quotedFrom (quote : Char) : Nat → List Char → Cursor → Scan ((List Char) × Cursor)
  | 0, _, _ => .error .token
  | fuel + 1, acc, c =>
    if c.atDocumentMark || c.rest.isEmpty then .error .token
    else
      match quotedRun quote c.rest.length acc c with
      | .error e => .error e
      | .ok ((acc, isEscaped), c) =>
        if c.sees quote then .ok (acc.reverse, c.skip 1)
        else
          match Gap.scan 0 c.rest.length { isBroken := isEscaped } c with
          | .error e => .error e
          | .ok (g, c) => quotedFrom quote fuel (g.text.reverse ++ acc) c

def scanQuoted (quote : Char) (c : Cursor) : Scan (Token × Cursor) := do
  let (text, c) ← quotedFrom quote c.rest.length [] (c.skip 1)
  return (.scalar (String.ofList text) false, c)

/-! Blocks of lines. -/

inductive Chomping
  | strip | clip | keep
deriving DecidableEq

/-- The sign that says what happens to the line breaks at the end. -/
def chomping? (c : Cursor) : Option Chomping :=
  if c.sees '+' then some .keep else if c.sees '-' then some .strip else none

/-- The digit that gives the indentation, which is not zero. -/
def increment (c : Cursor) : Scan (Nat × Cursor) :=
  match c.rest with
  | x :: _ =>
    if x = '0' then .error .token
    else if x.isDigit then .ok (x.toNat - 48, c.skip 1)
    else .ok (0, c)
  | [] => .ok (0, c)

/-- The chomping and the indentation, in either order. -/
def blockHeader (c : Cursor) : Scan ((Chomping × Nat) × Cursor) := do
  match chomping? c with
  | some ch =>
    let (n, c) ← increment (c.skip 1)
    return ((ch, n), c)
  | none =>
    let (n, c) ← increment c
    match if n = 0 then none else chomping? c with
    | some ch => return ((ch, n), c.skip 1)
    | none => return ((.clip, n), c)

/-- Empty lines and the indentation of the next line; an indentation of zero is still open, and
the deepest column is kept for it. -/
def blockBreaks (indent : Nat) : Nat → Nat → List Char → Cursor → Scan ((List Char × Nat) × Cursor)
  | 0, deepest, acc, c => .ok ((acc, deepest), c)
  | fuel + 1, deepest, acc, c =>
    let room := if indent = 0 then c.rest.length else indent - c.column
    let c := c.skip ((c.rest.take room).takeWhile (· == ' ')).length
    let deepest := max deepest c.column
    if (indent = 0 || c.column < indent) && c.sees '\t' then .error .token
    else
      match c.rest with
      | x :: _ =>
        if isBreak x then blockBreaks indent fuel deepest (acc ++ c.breakText) c.skipLine
        else .ok ((acc, deepest), c)
      | [] => .ok ((acc, deepest), c)

/-- What has been read of a block: the text in reverse, the last line break, the empty lines
after it, and whether the last line began with a blank. -/
structure Block where
  text : List Char := []
  last : List Char := []
  empty : List Char := []
  wasBlank : Bool := false

/-- The block in front of a further line. A folded line break between two lines that begin with
no blank is a space, or nothing when empty lines follow. -/
def Block.join (literal isBlank : Bool) (b : Block) : List Char :=
  if !literal && b.last = ['\n'] && !b.wasBlank && !isBlank then
    if b.empty.isEmpty then ' ' :: b.text else b.empty.reverse ++ b.text
  else b.empty.reverse ++ b.last.reverse ++ b.text

/-- The lines of a block. -/
def blockLines (literal : Bool) (indent : Nat) : Nat → Block → Cursor → Scan (Block × Cursor)
  | 0, b, c => .ok (b, c)
  | fuel + 1, b, c =>
    if c.column != indent || c.rest.isEmpty then .ok (b, c)
    else
      let startsBlank := (c.rest.head?.map isBlank).getD false
      let line := c.rest.takeWhile (!isBreak ·)
      let after := c.skip line.length
      match blockBreaks indent c.rest.length 0 [] after.skipLine with
      | .error e => .error e
      | .ok ((empty, _), next) =>
        let text := line.reverse ++ b.join literal startsBlank
        blockLines literal indent fuel ⟨text, after.breakText, empty, startsBlank⟩ next

/-- A block inside a collection at column `outer`. -/
def scanBlock (literal : Bool) (outer : Int) (c : Cursor) : Scan (Token × Cursor) := do
  let ((chomping, increment), c) ← blockHeader (c.skip 1)
  let c := c.skipToLineEnd
  if !c.atLineEnd then throw .token
  let c := c.skipLine
  let given := if increment = 0 then 0 else (max outer 0).toNat + increment
  let ((empty, deepest), c) ← blockBreaks given c.rest.length 0 [] c
  let indent := if given = 0 then max (max deepest (outer + 1).toNat) 1 else given
  let (b, c) ← blockLines literal indent c.rest.length { empty := empty } c
  let tail :=
    match chomping with
    | .strip => []
    | .clip => b.last
    | .keep => b.last ++ b.empty
  return (.scalar (String.ofList (b.text.reverse ++ tail)) false, c)

/-! Plain text. -/

/-- Characters up to a gap, a colon with a gap behind it, or a mark of the flow, in reverse. -/
def plainRun (inFlow : Bool) : List Char → List Char → Except Error (List Char × List Char)
  | acc, [] => .ok (acc, [])
  | acc, x :: cs =>
    if isGap x then .ok (acc, x :: cs)
    else if x = ':' && inFlow && (cs.head?.map fun y => isFlowMark y || y = '?').getD false then
      .error .token
    else if (x = ':' && startsGap cs) || (inFlow && isFlowMark x) then .ok (acc, x :: cs)
    else plainRun inFlow (x :: acc) cs

/-- Plain text, with the gap in front of the next part; also whether a line break ended it. -/
def plainFrom (inFlow : Bool) (indent : Nat) : Nat → List Char → Gap → Cursor →
    Scan ((List Char × Bool) × Cursor)
  | 0, acc, g, c => .ok ((acc, g.isBroken), c)
  | fuel + 1, acc, g, c =>
    if c.atDocumentMark || c.sees '#' then .ok ((acc, g.isBroken), c)
    else
      match plainRun inFlow [] c.rest with
      | .error e => .error e
      | .ok (run, rest) =>
        let c := c.skip run.length
        let acc := if run.isEmpty then acc else run ++ g.text.reverse ++ acc
        let g := if run.isEmpty then g else {}
        if !startsGap rest || rest.isEmpty then .ok ((acc, g.isBroken), c)
        else
          match Gap.scan indent c.rest.length g c with
          | .error e => .error e
          | .ok (g, c) =>
            if !inFlow && c.column < indent then .ok ((acc, g.isBroken), c)
            else plainFrom inFlow indent fuel acc g c

/-- Plain text inside a collection at column `outer`, and whether a line break ended it. -/
def scanPlain (inFlow : Bool) (outer : Int) (c : Cursor) : Scan ((Token × Bool) × Cursor) := do
  let ((text, isBroken), c) ← plainFrom inFlow (outer + 1).toNat (c.rest.length + 1) [] {} c
  return ((.scalar (String.ofList text.reverse) true, isBroken), c)

end Lexeme

end Chip8.Yaml
