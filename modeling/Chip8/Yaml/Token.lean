import Chip8.Yaml.Cursor
import Chip8.Yaml.Datum

/-! The tokens of a document, and the ones that are told by their first character: directives,
anchors, aliases and tags. -/
namespace Chip8.Yaml

inductive Token
  /-- The directive that names the version of the format. -/
  | version (major minor : Nat)
  /-- The directive that gives a tag handle its meaning. -/
  | tagHandle (name meaning : String)
  | documentStart
  | documentEnd
  | blockListStart
  | blockMapStart
  /-- The end of a block list or map, where its indentation ends. -/
  | blockEnd
  | flowListStart
  | flowListEnd
  | flowMapStart
  | flowMapEnd
  /-- The dash in front of an item. -/
  | item
  /-- The comma between the parts of a flow collection. -/
  | comma
  | key
  | value
  | reference (name : String)
  | anchor (name : String)
  | tag (handle suffix : String)
  | scalar (text : String) (plain : Bool)
  | finish
deriving DecidableEq, Repr, Inhabited

abbrev Scan := Except Error

namespace Token

/-- The name behind the sign of an anchor or an alias. -/
def nameAfterSign (c : Cursor) : Scan (String × Cursor) :=
  let name := (c.rest.drop 1).takeWhile isNameChar
  let after := c.skip (name.length + 1)
  let ends :=
    match after.rest with
    | [] => true
    | x :: _ => isGap x || "?:,]\x7d%@`".toList.contains x
  if name.isEmpty || !ends then .error .token else .ok (String.ofList name, after)

/-! Tags. -/

def isTagChar (verbatim : Bool) (c : Char) : Bool :=
  isNameChar c || ";/?:@&=+$.%!~*'()".toList.contains c || (verbatim && ",[]".toList.contains c)

/-- The length of a UTF-8 sequence with a given first octet. -/
def octetCount (n : Nat) : Nat :=
  if n < 0x80 then 1 else if n / 32 = 6 then 2 else if n / 16 = 14 then 3
  else if n / 8 = 30 then 4 else 0

/-- The octet behind a percent sign. -/
def octet? : List Char → Option (Nat × List Char)
  | '%' :: a :: b :: rest => do
    let a ← hexDigit? a
    let b ← hexDigit? b
    return (a * 16 + b, rest)
  | _ => none

/-- `count` octets that continue a character. -/
def continuation? : Nat → Nat → List Char → Option (Nat × List Char)
  | 0, code, cs => some (code, cs)
  | count + 1, code, cs =>
    match octet? cs with
    | some (n, rest) =>
      if n / 64 = 2 then continuation? count (code * 64 + n % 64) rest else none
    | none => none

/-- A character given by its octets, each behind a percent sign. -/
def escaped? (cs : List Char) : Option (Char × List Char) := do
  let (first, rest) ← octet? cs
  let count := octetCount first
  if count = 0 then none
  else
    let bits := if count = 1 then first else first % (1 <<< (7 - count))
    let (code, rest) ← continuation? (count - 1) bits rest
    return (Char.ofNat code, rest)

/-- The characters of a tag, with their escapes resolved. -/
def tagChars (verbatim : Bool) : Nat → List Char → List Char → Except Error (List Char × List Char)
  | 0, acc, cs => .ok (acc.reverse, cs)
  | _, acc, [] => .ok (acc.reverse, [])
  | fuel + 1, acc, c :: cs =>
    if c = '%' then
      match escaped? (c :: cs) with
      | some (x, rest) => tagChars verbatim fuel (x :: acc) rest
      | none => .error .token
    else if isTagChar verbatim c then tagChars verbatim fuel (c :: acc) cs
    else .ok (acc.reverse, c :: cs)

/-- The rest of a tag behind `lead`; the two together are not empty. -/
def tagText (verbatim : Bool) (lead : List Char) (c : Cursor) : Scan ((List Char) × Cursor) := do
  let (text, rest) ← tagChars verbatim c.rest.length [] c.rest
  let after := c.skip (c.rest.length - rest.length)
  if lead.isEmpty && after.index == c.index then throw .token
  return (lead.drop 1 ++ text, after)

/-- A handle: an exclamation mark, a name, and a second exclamation mark if there is one. -/
def scanHandle (c : Cursor) : Scan ((List Char) × Cursor) :=
  match c.rest with
  | '!' :: r =>
    let name := '!' :: r.takeWhile isNameChar
    let after := c.skip name.length
    if after.sees '!' then .ok (name ++ ['!'], after.skip 1) else .ok (name, after)
  | _ => .error .token

def isFullHandle (cs : List Char) : Bool := 1 < cs.length && cs.getLast? == some '!'

/-- A tag in one of its forms: between angle brackets, with a handle, or local. -/
def tagBody (c : Cursor) : Scan ((List Char × List Char) × Cursor) := do
  if c.rest[1]? == some '<' then
    let (text, c) ← tagText true [] (c.skip 2)
    if !c.sees '>' then throw .token
    return (([], text), c.skip 1)
  let (handle, c) ← scanHandle c
  if isFullHandle handle then
    let (text, c) ← tagText false [] c
    return ((handle, text), c)
  let (text, c) ← tagText false handle c
  return (if text.isEmpty then ([], ['!']) else (['!'], text), c)

def scanTag (inFlow : Bool) (c : Cursor) : Scan (Token × Cursor) := do
  let ((handle, suffix), after) ← tagBody c
  if !startsGap after.rest && !(inFlow && after.sees ',') then throw .token
  return (.tag (String.ofList handle) (String.ofList suffix), after)

/-! Directives. -/

/-- The digits of a version number, at most nine. -/
def versionNumber (c : Cursor) : Scan (Nat × Cursor) :=
  let digits := c.rest.takeWhile Char.isDigit
  if digits.isEmpty || 9 < digits.length then .error .token
  else .ok (digits.foldl (fun n d => n * 10 + (d.toNat - 48)) 0, c.skip digits.length)

def versionDirective (c : Cursor) : Scan (Token × Cursor) := do
  let (major, c) ← versionNumber (c.skipWhile isBlank)
  if !c.sees '.' then throw .token
  let (minor, c) ← versionNumber (c.skip 1)
  return (.version major minor, c)

def handleDirective (c : Cursor) : Scan (Token × Cursor) := do
  let (handle, c) ← scanHandle (c.skipWhile isBlank)
  if handle != ['!'] && !isFullHandle handle then throw .token
  let blanks := c.rest.takeWhile isBlank
  if blanks.isEmpty then throw .token
  let (meaning, c) ← tagText true [] (c.skip blanks.length)
  if !startsGap c.rest then throw .token
  return (.tagHandle (String.ofList handle) (String.ofList meaning), c)

/-- A directive with its whole line. -/
def scanDirective (c : Cursor) : Scan (Token × Cursor) := do
  let name := (c.rest.drop 1).takeWhile isNameChar
  let after := c.skip (name.length + 1)
  if !startsGap after.rest then throw .token
  let (t, c) ←
    match String.ofList name with
    | "YAML" => versionDirective after
    | "TAG" => handleDirective after
    | _ => .error .token
  let c := c.skipToLineEnd
  if !c.atLineEnd then throw .token
  return (t, c.skipLine)

end Token

end Chip8.Yaml
