import Chip8.Settings.Resolution

/-! Layers of settings: the defaults, then a document, then overrides of the form `key=value`.
A later layer wins, and a layer is merged one key at a time. References are resolved at the
end. -/
namespace Chip8.Settings

open Yaml (Datum)

mutual

/-- Whether a value, with all that is in it, can be part of a layer. -/
def checkValue : Datum → Except LoadError Unit
  | .list items => checkItems items
  | .map entries => checkEntries entries
  | .set => .error .improperValue
  | .moment => .error .improperValue
  | .text s =>
    if Term.isTemplate s && (Term.ofText? s).isNone then .error .brokenReference else .ok ()
  | _ => .ok ()

def checkItems : List Datum → Except LoadError Unit
  | [] => .ok ()
  | d :: ds =>
    match checkValue d with
    | .error e => .error e
    | .ok _ => checkItems ds

def checkEntries : List (Datum × Datum) → Except LoadError Unit
  | [] => .ok ()
  | (.null, _) :: _ => .error .improperKey
  | (.moment, _) :: _ => .error .improperKey
  | (_, v) :: es =>
    match checkValue v with
    | .error e => .error e
    | .ok _ => checkEntries es

end

/-- How deep the collections of a layer may be nested. -/
def maxDepth : Nat := 110

/-- The value of a text, unless it is nested too deep to be part of a layer. -/
def read (text : String) : Except LoadError Datum := do
  let d ← (Datum.ofText text).mapError .document
  if maxDepth < d.depth then throw .tooDeep
  return d

/-! The document. -/

/-- The entries of a document. An empty one has none, and a bare text is a key without a
value. -/
def documentEntries (text : String) : Except LoadError (List (Datum × Datum)) := do
  let checked (entries : List (Datum × Datum)) : Except LoadError (List (Datum × Datum)) := do
    checkEntries entries
    return entries
  let listed (items : List Datum) : Except LoadError (List (Datum × Datum)) := do
    checkItems items
    throw .listDocument
  match ← read text with
  | .null => return []
  | .map entries => checked entries
  | .list items => listed items
  | .text s =>
    match ← read s with
    | .null => return []
    | .map entries => checked entries
    | .list items => listed items
    | .text s => return [(.text s, .null)]
    | _ => throw .quotedDocument
  | _ => throw .scalarDocument

/-! Overrides. -/

/-- The key and the value around the first equals sign. -/
def splitOverride (s : String) : String × Option String :=
  let cs := s.toList
  let key := String.ofList (cs.takeWhile (· != '='))
  match cs.dropWhile (· != '=') with
  | _ :: value => (key, some (String.ofList value))
  | [] => (key, none)

/-- One more override in the layer of overrides. -/
def addOverride (layer : Datum) (s : String) : Except LoadError Datum := do
  let (key, text) := splitOverride s
  let value ←
    match text with
    | some t => read t
    | none => pure .null
  checkValue value
  assignPath value (path key) layer

/-- The entries of all overrides. They make up one layer, so that of two for one key only the
last is ever looked at. -/
def overrideEntries (overrides : List String) : Except LoadError (List (Datum × Datum)) := do
  match ← overrides.foldlM addOverride (.map []) with
  | .map entries => return entries
  | _ => return []

/-- The defaults with an optional document over them. -/
def base (document : Option String) : Except LoadError Draft := do
  match document with
  | some text => (Draft.of {}).merge (← documentEntries text)
  | none => return Draft.of {}

/-- The settings of an optional document and a list of overrides, checked. -/
def load (resolvers : Resolvers) (document : Option String) (overrides : List String) :
    Except LoadError Settings := do
  let d ← base document
  let d ← d.merge (← overrideEntries overrides)
  (← d.settings resolvers).validate.mapError .rejected

end Chip8.Settings
