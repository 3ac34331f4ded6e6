import Chip8.Yaml.Document

/-! Texts with references: `${name}` stands for the value of another setting, and `${name:args}`
for what a resolver makes of its arguments. A backslash in front takes the meaning away. -/
namespace Chip8.Settings

open Yaml (Datum)

/-- A text, or an argument of a resolver, as it is written. -/
inductive Term
  | literal (d : Datum)
  /-- Parts that are put together as text. -/
  | joined (parts : List Term)
  /-- A reference, whose key is put together from its pieces. -/
  | reference (pieces : List Term)
  | call (resolver : List Term) (args : List Term)
  | list (items : List Term)
  | map (entries : List (Datum × Term))

namespace Term

def text (cs : List Char) : Term := .literal (.text (String.ofList cs))

def isSpace (c : Char) : Bool := c == ' ' || c == '\t'

def trim (cs : List Char) : List Char := cs.dropWhile isSpace

/-- What stands behind `x` and the blanks around it, if it comes next. -/
def after? (x : Char) (cs : List Char) : Option (List Char) :=
  match trim cs with
  | c :: r => if c = x then some (trim r) else none
  | [] => none

/-- What stands behind `x` and the blanks in front of it, if it comes next. -/
def closing? (x : Char) (cs : List Char) : Option (List Char) :=
  match trim cs with
  | c :: r => if c = x then some r else none
  | [] => none

/-- Whether a reference opens here. -/
def opens : List Char → Bool
  | '$' :: '\x7b' :: _ => true
  | _ => false

/-! Words of arguments. -/

def isIdStart (c : Char) : Bool := c.isAlpha || c == '_'

def isIdChar (c : Char) : Bool := c.isAlphanum || c == '_' || c == '-'

def isId : List Char → Bool
  | c :: cs => isIdStart c && cs.all isIdChar
  | [] => false

/-- The length of digits with single underscores between them. -/
def digitsLength : List Char → Nat
  | '_' :: c :: cs => if c.isDigit then 2 + digitsLength cs else 0
  | c :: cs => if c.isDigit then 1 + digitsLength cs else 0
  | [] => 0

/-- `digitsLength`, where no underscore comes first. -/
def runLength : List Char → Nat
  | '_' :: _ => 0
  | cs => digitsLength cs

/-- The length of a whole number: zero alone, or digits that do not start with it. -/
def wholeLength : List Char → Nat
  | '0' :: _ => 1
  | cs => runLength cs

def signLength : List Char → Nat
  | '+' :: _ => 1
  | '-' :: _ => 1
  | _ => 0

/-- The length of an exponent at the front. -/
def exponentLength : List Char → Nat
  | c :: cs =>
    if c = 'e' ∨ c = 'E' then
      let sign := signLength cs
      match runLength (cs.drop sign) with
      | 0 => 0
      | n => 1 + sign + n
    else 0
  | [] => 0

def wordLength (word : String) (cs : List Char) : Nat :=
  let n := word.length
  if (cs.take n).map Char.toLower = word.toList then n else 0

/-- The length of a float without its sign. -/
def unsignedFloatLength (cs : List Char) : Nat :=
  let whole := wholeLength cs
  let rest := cs.drop whole
  let pointed :=
    match rest with
    | '.' :: r =>
      let places := runLength r
      if 0 < whole ∨ 0 < places then whole + 1 + places else 0
    | _ => 0
  let base := if 0 < pointed then pointed else whole
  let exponent := if 0 < base then exponentLength (cs.drop base) else 0
  let wholeExponent := if 0 < whole then exponentLength rest else 0
  let decimal :=
    if 0 < exponent then base + exponent
    else if 0 < wholeExponent then whole + wholeExponent
    else pointed
  max decimal (max (wordLength "inf" cs) (wordLength "nan" cs))

def floatLength (cs : List Char) : Nat :=
  let sign := signLength cs
  match unsignedFloatLength (cs.drop sign) with
  | 0 => 0
  | n => sign + n

def intLength (cs : List Char) : Nat :=
  let sign := signLength cs
  match wholeLength (cs.drop sign) with
  | 0 => 0
  | n => sign + n

def idLength (cs : List Char) : Nat :=
  match cs with
  | c :: _ => if isIdStart c then (cs.takeWhile isIdChar).length else 0
  | [] => 0

/-- Characters that stand for themselves in an argument. -/
def isLooseChar (c : Char) : Bool := "/-\\+.$%*@?|".toList.contains c

/-- Characters that a backslash can stand in front of. -/
def isEscapable (c : Char) : Bool := "\\()[]\x7b\x7d:=, \t".toList.contains c

/-- The characters behind a run of backslashes that take their meaning away. -/
def escapes : List Char → List Char
  | '\\' :: c :: cs => if isEscapable c then c :: escapes cs else []
  | _ => []

/-- A word of an argument: its value when it stands alone, its text, and its length. -/
structure Word where
  alone : Datum
  text : List Char
  length : Nat

def number? (isFloat : Bool) (cs : List Char) : Datum :=
  let s := String.ofList cs
  if isFloat then ((Text.Binary64.ofText? s).map Datum.float).getD .null
  else ((Text.integer? s).map Datum.int).getD .null

/-- The longest word at the front; of two equally long ones a number or a word with a meaning
comes before a name. -/
def word? (cs : List Char) : Option Word :=
  let escaped := escapes cs
  let float := floatLength cs
  let int := intLength cs
  let id := idLength cs
  if !escaped.isEmpty then
    some ⟨.text (String.ofList escaped), escaped, 2 * escaped.length⟩
  else if 0 < float ∧ int ≤ float ∧ id ≤ float then
    some ⟨number? true (cs.take float), cs.take float, float⟩
  else if 0 < int ∧ id ≤ int then some ⟨number? false (cs.take int), cs.take int, int⟩
  else if 0 < id then
    let name := cs.take id
    let lower := String.ofList (name.map Char.toLower)
    let value :=
      if lower = "true" then .bool true
      else if lower = "false" then .bool false
      else if lower = "null" then .null
      else .text (String.ofList name)
    some ⟨value, name, id⟩
  else
    match cs with
    | c :: _ => if isLooseChar c then some ⟨.text (String.ofList [c]), [c], 1⟩ else none
    | [] => none

/-- The words of a key in a map of an argument. -/
def keyWords : Nat → List Word → List Char → List Word × List Char
  | 0, acc, cs => (acc.reverse, cs)
  | fuel + 1, acc, cs =>
    if (after? ':' cs).isSome then (acc.reverse, cs)
    else
      match word? cs with
      | some w => keyWords fuel (w :: acc) (cs.drop w.length)
      | none =>
        let blanks := cs.takeWhile isSpace
        if blanks.isEmpty then (acc.reverse, cs)
        else
          let w := ⟨.text (String.ofList blanks), blanks, blanks.length⟩
          keyWords fuel (w :: acc) (cs.drop blanks.length)

def key? (words : List Word) : Option Datum :=
  match words with
  | [] => none
  | [w] => some w.alone
  | ws => some (.text (String.ofList (ws.flatMap Word.text)))

/-! References and arguments. -/

/-- The parts of a reference before its end or its colon. -/
inductive Part
  | dot | open_ | close_
  /-- A key; whether it can also name a resolver. -/
  | name (text : List Char) (isId : Bool)
  | nested (t : Term)

def isKeyChar (c : Char) : Bool := !"\\\x7b\x7d()[]:. \t'\"".toList.contains c

/-- Names behind dots or in brackets, as the pieces of a key. -/
def moreKeys : List Part → Option (List Term)
  | [] => some []
  | .dot :: .name n _ :: ps => (moreKeys ps).map fun ts => text ['.'] :: text n :: ts
  | .dot :: .nested t :: ps => (moreKeys ps).map fun ts => text ['.'] :: t :: ts
  | .open_ :: .name n _ :: .close_ :: ps =>
    (moreKeys ps).map fun ts => text ['['] :: text n :: text [']'] :: ts
  | .open_ :: .nested t :: .close_ :: ps =>
    (moreKeys ps).map fun ts => text ['['] :: t :: text [']'] :: ts
  | _ => none

/-- The key of a reference: dots, a first name, and further ones. -/
def keyPieces : List Part → Option (List Term)
  | .dot :: ps => (keyPieces ps).map (text ['.'] :: ·)
  | .name n _ :: ps => (moreKeys ps).map (text n :: ·)
  | .nested t :: ps => (moreKeys ps).map (t :: ·)
  | [] => none
  | ps => moreKeys ps

/-- The name of a resolver: names with dots between them. -/
def resolverName : List Part → Option (List Term)
  | [.name n true] => some [text n]
  | [.nested t] => some [t]
  | .name n true :: .dot :: ps => (resolverName ps).map fun ts => text n :: text ['.'] :: ts
  | .nested t :: .dot :: ps => (resolverName ps).map fun ts => t :: text ['.'] :: ts
  | _ => none

/-- One part stands for its value, and several for their text. -/
def ofParts : List Term → Term
  | [t] => t
  | ts => .joined ts

/-- A part of an argument: what it stands for alone, and as a part of a longer text. -/
structure Bit where
  alone : Term
  shown : Term

def Bit.ofWord (w : Word) : Bit := ⟨.literal w.alone, text w.text⟩

def Bit.ofChars (cs : List Char) : Bit := ⟨text cs, text cs⟩

def ofBits : List Bit → Term
  | [b] => b.alone
  | bs => .joined (bs.map Bit.shown)

mutual

/-- A reference, from behind its opening bracket on. -/
def reference? : Nat → List Char → Option (Term × List Char)
  | 0, _ => none
  | fuel + 1, cs => referenceParts fuel [] (trim cs)

/-- The parts of a reference, those read so far in reverse. -/
def referenceParts : Nat → List Part → List Char → Option (Term × List Char)
  | 0, _, _ => none
  | fuel + 1, acc, cs =>
    if opens cs then
      match reference? fuel (cs.drop 2) with
      | some (t, rest) => referenceParts fuel (.nested t :: acc) rest
      | none => none
    else
      match closing? '\x7d' cs, after? ':' cs, cs with
      | some rest, _, _ => (keyPieces acc.reverse).map fun ps => (.reference ps, rest)
      | none, some rest, _ =>
        match resolverName acc.reverse, args fuel '\x7d' true [] rest with
        | some name, some (ts, rest) => some (.call name ts, rest)
        | _, _ => none
      | none, none, '.' :: rest => referenceParts fuel (.dot :: acc) rest
      | none, none, '[' :: rest => referenceParts fuel (.open_ :: acc) rest
      | none, none, ']' :: rest => referenceParts fuel (.close_ :: acc) rest
      | none, none, rest =>
        let name := rest.takeWhile isKeyChar
        if name.isEmpty then none
        else referenceParts fuel (.name name (isId name) :: acc) (rest.drop name.length)

/-- Arguments up to a closing bracket, those read so far in reverse. What is left out between
commas is an empty text. -/
def args : Nat → Char → Bool → List Term → List Char → Option (List Term × List Char)
  | 0, _, _, _, _ => none
  | fuel + 1, bracket, afterComma, acc, cs =>
    match closing? bracket cs, after? ',' cs with
    | some rest, _ => some (acc.reverse, rest)
    | none, some rest =>
      let acc := if afterComma then text [] :: acc else acc
      match closing? bracket rest with
      | some rest => some ((text [] :: acc).reverse, rest)
      | none => args fuel bracket true acc rest
    | none, none =>
      if !afterComma then none
      else
        match element? fuel cs with
        | some (t, rest) => args fuel bracket false (t :: acc) rest
        | none => none

/-- One argument. -/
def element? : Nat → List Char → Option (Term × List Char)
  | 0, _ => none
  | fuel + 1, cs =>
    match cs with
    | '\x27' :: rest => (parts? fuel (some '\x27') [] rest).map fun (ts, r) => (.joined ts, r)
    | '"' :: rest => (parts? fuel (some '"') [] rest).map fun (ts, r) => (.joined ts, r)
    | '[' :: rest => (args fuel ']' true [] (trim rest)).map fun (ts, r) => (.list ts, r)
    | '\x7b' :: rest => (entries? fuel true [] (trim rest)).map fun (es, r) => (.map es, r)
    | _ =>
      match words? fuel [] cs with
      | some ([], _) => none
      | some (bs, rest) => some (ofBits bs, rest)
      | none => none

/-- The entries of a map, those read so far in reverse. -/
def entries? : Nat → Bool → List (Datum × Term) → List Char →
    Option (List (Datum × Term) × List Char)
  | 0, _, _, _ => none
  | fuel + 1, isFirst, acc, cs =>
    match if isFirst ∨ !acc.isEmpty then closing? '\x7d' cs else none with
    | some rest => some (acc.reverse, rest)
    | none =>
      let cs := if isFirst then some cs else after? ',' cs
      match cs with
      | none => none
      | some cs =>
        let (words, rest) := keyWords fuel [] cs
        match key? words, after? ':' rest with
        | some k, some rest =>
          match element? fuel rest with
          | some (t, rest) => entries? fuel false ((k, t) :: acc) rest
          | none => none
        | _, _ => none

/-- The words of an argument that is not in quotes or brackets, those read so far in reverse. -/
def words? : Nat → List Bit → List Char → Option (List Bit × List Char)
  | 0, _, _ => none
  | fuel + 1, acc, cs =>
    if opens cs then
      match reference? fuel (cs.drop 2) with
      | some (t, rest) => words? fuel (⟨t, t⟩ :: acc) rest
      | none => none
    else
      let rest := trim cs
      match rest with
      | ':' :: r =>
        let colon := cs.take (cs.length - (trim r).length)
        words? fuel (.ofChars colon :: acc) (trim r)
      | _ =>
        if rest.isEmpty ∨ ((rest.head?.map ",]\x7d".toList.contains).getD false) then
          some (acc.reverse, cs)
        else
          match word? cs with
          | some w => words? fuel (.ofWord w :: acc) (cs.drop w.length)
          | none =>
            if rest.length < cs.length then
              words? fuel (.ofChars (cs.take (cs.length - rest.length)) :: acc) rest
            else some (acc.reverse, cs)

/-- The parts of a text up to its end, or up to a closing quote; those read so far in reverse. -/
def parts? : Nat → Option Char → List Term → List Char → Option (List Term × List Char)
  | 0, _, _, _ => none
  | fuel + 1, quote, acc, cs =>
    match cs with
    | [] => if quote.isNone then some (acc.reverse, []) else none
    | '\\' :: _ =>
      let count := (cs.takeWhile (· == '\\')).length
      let rest := cs.drop count
      let half := List.replicate (count / 2) '\\'
      if opens rest then
        if count % 2 = 1 then parts? fuel quote (text (half ++ ['$', '\x7b']) :: acc) (rest.drop 2)
        else parts? fuel quote (text half :: acc) rest
      else if quote.isSome ∧ rest.head? = quote then
        if count % 2 = 1 then parts? fuel quote (text (half ++ rest.take 1) :: acc) (rest.drop 1)
        else parts? fuel quote (text half :: acc) rest
      else parts? fuel quote (text (cs.take count) :: acc) rest
    | c :: r =>
      if opens cs then
        match reference? fuel (cs.drop 2) with
        | some (t, rest) => parts? fuel quote (t :: acc) rest
        | none => none
      else if quote = some c then some (acc.reverse, r)
      else
        let isPlain (x : Char) : Bool := x != '\\' && x != '$' && quote != some x
        let run := c :: r.takeWhile isPlain
        parts? fuel quote (text run :: acc) (cs.drop run.length)

end

/-- Whether a text has references in it. -/
def isTemplate (s : String) : Bool := go s.toList
where
  go : List Char → Bool
    | [] => false
    | c :: cs => opens (c :: cs) || go cs

def bound (cs : List Char) : Nat := 4 * cs.length + 8

/-- A text with references. -/
def ofText? (s : String) : Option Term :=
  (parts? (bound s.toList) none [] s.toList).map fun (ts, _) => ofParts ts

/-- A single argument. -/
def ofElement? (s : String) : Option Term :=
  match element? (bound s.toList) s.toList with
  | some (t, []) => some t
  | _ => none

end Term

end Chip8.Settings
