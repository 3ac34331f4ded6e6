import Chip8.Yaml.Lexeme

/-! The tokens of a text in order. Indentation opens and closes block collections, and a scalar
or a collection turns out to be a key only when a colon follows it on its line; so tokens wait in
a queue until no key can be put before them any more. -/
namespace Chip8.Yaml

/-- A place where a key may have started. -/
structure Candidate where
  /-- Whether nothing but a key may stand there. -/
  isRequired : Bool
  /-- The number of the token that would be the key. -/
  number : Nat
  index : Nat
  line : Nat
  column : Nat

structure Layout where
  cursor : Cursor
  /-- The column of the innermost block collection, or −1. -/
  indent : Int := -1
  /-- The columns of the collections around it. -/
  outer : List Int := []
  /-- Whether a key may start at the next token. -/
  keyAllowed : Bool := true
  /-- The place of a possible key, for each level of flow collections, innermost first. -/
  candidates : List (Option Candidate) := [none]
  queue : List Token := []
  /-- The number of tokens that have left the queue. -/
  released : Nat := 0

namespace Layout

def inFlow (l : Layout) : Bool := 1 < l.candidates.length

/-- How far a key may reach. -/
def maxKeyLength : Nat := 1024

def isStale (c : Cursor) (k : Candidate) : Bool :=
  k.line < c.line || k.index + maxKeyLength < c.index

/-- Without the candidates that end on an earlier line or lie too far back. -/
def dropStale (l : Layout) : Except Error Layout :=
  let stale (k : Option Candidate) : Bool := (k.map (isStale l.cursor)).getD false
  let required (k : Option Candidate) : Bool := (k.map Candidate.isRequired).getD false
  if l.candidates.any fun k => stale k && required k then .error .token
  else
    .ok { l with candidates := l.candidates.map fun k => if stale k then none else k }

def push (l : Layout) (t : Token) : Layout := { l with queue := l.queue ++ [t] }

/-- Puts a token in front of the one with a number. -/
def insert (l : Layout) (number : Nat) (t : Token) : Layout :=
  let at_ := number - l.released
  { l with queue := l.queue.take at_ ++ t :: l.queue.drop at_ }

/-- The candidate of the innermost level is given up. -/
def dropCandidate (l : Layout) : Except Error Layout :=
  match l.candidates with
  | some k :: rest =>
    if k.isRequired then .error .token else .ok { l with candidates := none :: rest }
  | _ => .ok l

/-- The next token may be a key, if one may start here. -/
def saveCandidate (l : Layout) : Except Error Layout := do
  if !l.keyAllowed then return l
  let c := l.cursor
  let k : Candidate := ⟨!l.inFlow && l.indent == c.column, l.released + l.queue.length, c.index,
    c.line, c.column⟩
  let l ← l.dropCandidate
  return { l with candidates := some k :: l.candidates.drop 1 }

/-- Opens a block collection at a column that lies deeper, with its token in front of the one
with a number. -/
def indentTo (l : Layout) (column number : Nat) (t : Token) : Layout :=
  if !l.inFlow && l.indent < column then
    { l with indent := column, outer := l.indent :: l.outer }.insert number t
  else l

/-- Closes the `count` innermost block collections that lie deeper than a column. -/
def unindent (column : Int) : Nat → Layout → Layout
  | 0, l => l
  | count + 1, l =>
    if column < l.indent then
      unindent column count
        { l.push .blockEnd with indent := l.outer.headD (-1), outer := l.outer.drop 1 }
    else l

/-- Closes the block collections that lie deeper than a column. -/
def unindentTo (l : Layout) (column : Int) : Layout :=
  if l.inFlow then l else unindent column (l.outer.length + 1) l

/-- Past blanks, comments and line breaks. A tab is a blank only where no key may start. -/
def skipFiller : Nat → Layout → Layout
  | 0, l => l
  | fuel + 1, l =>
    let c := l.cursor
    let c := if c.column == 0 && c.sees '\ufeff' then c.skip 1 else c
    let c := c.skipWhile fun x => x == ' ' || ((l.inFlow || !l.keyAllowed) && x == '\t')
    let c := if c.sees '#' then c.skipWhile (!isBreak ·) else c
    if c.atLineEnd && !c.rest.isEmpty then
      skipFiller fuel { l with cursor := c.skipLine, keyAllowed := l.keyAllowed || !l.inFlow }
    else { l with cursor := c }

/-- A token that the cursor passes without a look back. -/
def take (l : Layout) (t : Token) (width : Nat) : Layout :=
  { l with cursor := l.cursor.skip width }.push t

def fetchFinish (l : Layout) : Except Error Layout := do
  let c := l.cursor
  let c := if c.column == 0 then c else { c with line := c.line + 1, column := 0 }
  let l ← ({ l with cursor := c }.unindentTo (-1)).dropCandidate
  return { l with keyAllowed := false }.push .finish

def fetchDirective (l : Layout) : Except Error Layout := do
  let l ← (l.unindentTo (-1)).dropCandidate
  let (t, c) ← Token.scanDirective l.cursor
  return { l with keyAllowed := false, cursor := c }.push t

def fetchDocumentMark (l : Layout) (t : Token) : Except Error Layout := do
  let l ← (l.unindentTo (-1)).dropCandidate
  return { l with keyAllowed := false }.take t 3

def fetchFlowStart (l : Layout) (t : Token) : Except Error Layout := do
  let l ← l.saveCandidate
  return { l with keyAllowed := true, candidates := none :: l.candidates }.take t 1

def fetchFlowEnd (l : Layout) (t : Token) : Except Error Layout := do
  let l ← l.dropCandidate
  let levels := if l.inFlow then l.candidates.drop 1 else l.candidates
  return { l with keyAllowed := false, candidates := levels }.take t 1

def fetchComma (l : Layout) : Except Error Layout := do
  let l ← l.dropCandidate
  return { l with keyAllowed := true }.take .comma 1

def fetchItem (l : Layout) : Except Error Layout := do
  if !l.inFlow && !l.keyAllowed then throw .token
  let l := l.indentTo l.cursor.column (l.released + l.queue.length) .blockListStart
  let l ← l.dropCandidate
  return { l with keyAllowed := true }.take .item 1

def fetchKey (l : Layout) : Except Error Layout := do
  if !l.inFlow && !l.keyAllowed then throw .token
  let l := l.indentTo l.cursor.column (l.released + l.queue.length) .blockMapStart
  let l ← l.dropCandidate
  return { l with keyAllowed := !l.inFlow }.take .key 1

def fetchValue (l : Layout) : Except Error Layout :=
  match l.candidates with
  | some k :: rest =>
    let l := (l.insert k.number .key).indentTo k.column k.number .blockMapStart
    .ok ({ l with keyAllowed := false, candidates := none :: rest }.take .value 1)
  | _ =>
    if !l.inFlow && !l.keyAllowed then .error .token
    else
      let l := l.indentTo l.cursor.column (l.released + l.queue.length) .blockMapStart
      .ok ({ l with keyAllowed := !l.inFlow }.take .value 1)

/-- A token that may be a key and that `scan` reads. -/
def fetchNode (l : Layout) (scan : Cursor → Scan (Token × Cursor)) : Except Error Layout := do
  let l ← l.saveCandidate
  let (t, c) ← scan l.cursor
  return { l with keyAllowed := false, cursor := c }.push t

def fetchBlock (l : Layout) (literal : Bool) : Except Error Layout := do
  let l ← l.dropCandidate
  let (t, c) ← Lexeme.scanBlock literal l.indent l.cursor
  return { l with keyAllowed := true, cursor := c }.push t

def fetchPlain (l : Layout) : Except Error Layout := do
  let l ← l.saveCandidate
  let ((t, isBroken), c) ← Lexeme.scanPlain l.inFlow l.indent l.cursor
  return { l with keyAllowed := isBroken, cursor := c }.push t

/-- Characters that start no plain scalar. -/
def indicators : List Char := "-?:,[]\x7b\x7d#&*!|>'\"%@`".toList

/-- Whether a plain scalar starts with `x` before `after`. -/
def startsPlain (inFlow : Bool) (x : Char) (after : List Char) : Bool :=
  (!isGap x && !indicators.contains x) ||
    (x == '-' && !((after.head?.map isBlank).getD false)) ||
    (!inFlow && (x == '?' || x == ':') && !startsGap after)

/-- The next token, with those that its place brings along. -/
def fetch (l : Layout) : Except Error Layout := do
  let l ← (skipFiller (l.cursor.rest.length + 1) l).dropStale
  let l := l.unindentTo l.cursor.column
  let c := l.cursor
  match c.rest with
  | [] => l.fetchFinish
  | x :: after =>
    let standsAlone := startsGap after
    if x = '%' && c.column == 0 then l.fetchDirective
    else if c.atDocumentStart then l.fetchDocumentMark .documentStart
    else if c.atDocumentEnd then l.fetchDocumentMark .documentEnd
    else if x = '[' then l.fetchFlowStart .flowListStart
    else if x = '\x7b' then l.fetchFlowStart .flowMapStart
    else if x = ']' then l.fetchFlowEnd .flowListEnd
    else if x = '\x7d' then l.fetchFlowEnd .flowMapEnd
    else if x = ',' then l.fetchComma
    else if x = '-' && standsAlone then l.fetchItem
    else if x = '?' && (l.inFlow || standsAlone) then l.fetchKey
    else if x = ':' && (l.inFlow || standsAlone) then l.fetchValue
    else if x = '*' then
      l.fetchNode fun c => (Token.nameAfterSign c).map fun (name, c) => (.reference name, c)
    else if x = '&' then
      l.fetchNode fun c => (Token.nameAfterSign c).map fun (name, c) => (.anchor name, c)
    else if x = '!' then l.fetchNode (Token.scanTag l.inFlow)
    else if x = '|' && !l.inFlow then l.fetchBlock true
    else if x = '>' && !l.inFlow then l.fetchBlock false
    else if x = '\x27' || x = '"' then l.fetchNode (Lexeme.scanQuoted x)
    else if startsPlain l.inFlow x after then l.fetchPlain
    else throw .token

/-- The tokens that no key can be put before any more. -/
def release (l : Layout) : Except Error (List Token × Layout) := do
  if l.queue.isEmpty then return ([], l)
  let l ← l.dropStale
  let held := l.candidates.filterMap fun k => k.map fun k => k.number - l.released
  let count := held.foldl min l.queue.length
  return (l.queue.take count,
    { l with queue := l.queue.drop count, released := l.released + count })

/-- Fetches a token and releases what can be released; also whether it was the last one. -/
def step (l : Layout) : Except Error (List Token × Layout × Bool) := do
  let l ← l.fetch
  let isLast := l.queue.getLast? == some Token.finish
  let (ts, l) ← l.release
  return (ts, l, isLast)

/-- The tokens up to the end or to the first mistake. -/
def run : Nat → Layout → List Token × Option Error
  | 0, _ => ([], none)
  | fuel + 1, l =>
    match l.step with
    | .error e => ([], some e)
    | .ok (ts, l, isLast) =>
      if isLast then (ts, none)
      else
        let (rest, e) := run fuel l
        (ts ++ rest, e)

end Layout

/-- The tokens of a text, up to the end or to the first mistake. -/
def tokens (text : List Char) : List Token × Option Error :=
  Layout.run (text.length + 2) { cursor := { rest := text } }

end Chip8.Yaml
