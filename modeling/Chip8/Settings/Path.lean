import Chip8.Settings.Draft

/-! Keys that lead through maps and lists: names with dots between them, or in brackets. -/
namespace Chip8.Settings

open Yaml (Datum)

def isPathName (c : Char) : Bool := c != '.' && c != '['

/-- The names between brackets and after dots. -/
def pathRest : Nat → List Char → List (List Char)
  | 0, _ => []
  | _, [] => []
  | fuel + 1, '.' :: cs => cs.takeWhile isPathName :: pathRest fuel (cs.dropWhile isPathName)
  | fuel + 1, '[' :: cs =>
    let inside := cs.takeWhile fun c => c != ']' && c != '\n'
    match cs.drop inside.length with
    | ']' :: after => inside :: pathRest fuel after
    | _ => pathRest fuel cs
  | fuel + 1, _ :: cs => pathRest fuel cs

/-- The names of a key. Every dot in front counts as an empty name. -/
def path (key : String) : List String :=
  let cs := key.toList
  let dots := (cs.takeWhile (· == '.')).length
  let first := (cs.drop dots).takeWhile isPathName
  let rest := cs.drop (dots + first.length)
  let leading := List.replicate dots []
  let head := if first.isEmpty && rest.head? == some '[' then leading else leading ++ [first]
  (head ++ pathRest rest.length rest).map String.ofList

/-! Entries of maps. -/

def isKey (name : String) : Datum → Bool
  | .text s => s == name
  | _ => false

def lookupKey (key : Datum) (entries : List (Datum × Datum)) : Option Datum :=
  (entries.find? fun (k, _) => k.sameKey key).map Prod.snd

def lookup (name : String) (entries : List (Datum × Datum)) : Option Datum :=
  (entries.find? fun (k, _) => isKey name k).map Prod.snd

/-- Replaces the value of a key where it stands, or adds it at the end. -/
def assignKey (key value : Datum) (entries : List (Datum × Datum)) : List (Datum × Datum) :=
  if (lookupKey key entries).isSome then
    entries.map fun (k, v) => if k.sameKey key then (k, value) else (k, v)
  else entries ++ [(key, value)]

def assign (name : String) (value : Datum) (entries : List (Datum × Datum)) :
    List (Datum × Datum) :=
  assignKey (.text name) value entries

mutual

/-- A value over another one: maps are merged, a list takes the place of a list, and the two do
not mix. -/
def overlay (below : Datum) : Datum → Except LoadError Datum
  | .map entries =>
    match below with
    | .map inner => (overlayEntries inner entries).map .map
    | .list _ => .error .clash
    | _ => .ok (.map entries)
  | .list items =>
    match below with
    | .map _ => .error .clash
    | _ => .ok (.list items)
  | value => .ok (if isPending value then below else value)

def overlayEntries (below : List (Datum × Datum)) :
    List (Datum × Datum) → Except LoadError (List (Datum × Datum))
  | [] => .ok below
  | (k, v) :: es =>
    match lookupKey k below with
    | none => overlayEntries (below ++ [(k, v)]) es
    | some old =>
      match overlay old v with
      | .error e => .error e
      | .ok new => overlayEntries (assignKey k new below) es

end

/-! Places in lists. -/

/-- The number of an item; a negative place counts from the end. -/
def itemNumber? (items : List Datum) (place : Int) : Option Nat :=
  let n := if place < 0 then place + items.length else place
  if 0 ≤ n ∧ n < items.length then some n.toNat else none

def itemAt (items : List Datum) (place : Int) : Except LoadError Datum :=
  match (itemNumber? items place).bind fun n => items[n]? with
  | some d => .ok d
  | none => .error .outOfList

def setItem (items : List Datum) (place : Int) (value : Datum) : Except LoadError (List Datum) :=
  match itemNumber? items place with
  | some n => .ok (items.set n value)
  | none => .error .outOfList

/-- A value in the place of an old one: collections are merged. -/
def replaced (old : Option Datum) (value : Datum) : Except LoadError Datum :=
  match old with
  | some old => if old.isCollection && value.isCollection then overlay old value else .ok value
  | none => .ok value

/-- What a path goes on from: what is no collection on the way becomes an empty map. -/
def stepOf (d : Option Datum) : Except LoadError Datum :=
  match d with
  | none => .ok (.map [])
  | some d =>
    if isPending d then .error .pendingStep
    else if d.isCollection then .ok d
    else .ok (.map [])

/-- A collection with a value at a path. -/
def assignPath (value : Datum) : List String → Datum → Except LoadError Datum
  | [], d => .ok d
  | [name], .list items => do
    match Text.integer? name with
    | none => throw .notAPlace
    | some place =>
      let old ← if value.isCollection then (itemAt items place).map some else pure none
      return .list (← setItem items place (← replaced old value))
  | [name], .map entries => do
    return .map (assign name (← replaced (lookup name entries) value) entries)
  | name :: more, .list items => do
    match Text.integer? name with
    | none => throw .notAStep
    | some place =>
      let item := if place < 0 then none else items[place.toNat]?
      let inner ← stepOf item
      let items ← setItem items place inner
      return .list (← setItem items place (← assignPath value more inner))
  | name :: more, .map entries => do
    let inner ← stepOf (lookup name entries)
    return .map (assign name (← assignPath value more inner) entries)
  | _, d => .ok d

end Chip8.Settings
