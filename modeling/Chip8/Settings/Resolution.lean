import Chip8.Settings.Path

/-! References resolved: a setting that is a text with references takes the values of the
settings that they lead to. A reference starts at the settings as a whole, or, behind a dot, at
the group that it stands in. What a text can call by name is up to the host. -/
namespace Chip8.Settings

open Yaml (Datum)

/-- A group of settings. -/
inductive Group
  | root
  | dialect
deriving DecidableEq, Repr

/-- The settings around a text, as a resolver that the text calls can ask for them: by a key, and
through a term. -/
structure Surroundings where
  select : String → Except LoadError (Option Datum)
  eval : Term → Except LoadError Datum

/-- What is made of the arguments of a call. -/
abbrev Resolvers := Surroundings → String → List Datum → Except LoadError Datum

/-- What is being resolved, and must not be met again on the way. -/
inductive Pending
  | leaf (l : Leaf)
  | dialect
deriving DecidableEq, Repr

/-- The group that a key with dots in front starts from, and the rest of the key. One dot stands
for the group itself, and every further one leads out of a group. -/
def startOf (group : Group) : List Char → Option (Group × List Char)
  | '.' :: cs => up group cs
  | cs => some (.root, cs)
where
  up (group : Group) : List Char → Option (Group × List Char)
    | '.' :: cs => if group = .dialect then up .root cs else none
    | cs => some (group, cs)

/-- Whether a key leads from the switches to themselves. -/
def leadsBack (group : Group) (key : String) : Bool :=
  match group, startOf group key.toList with
  | .dialect, some (.root, rest) => path (String.ofList rest) == [dialectKey]
  | _, _ => false

/-- The switches as a map, as they stand in a draft. -/
def Draft.switchMap (d : Draft) : Datum :=
  .map (Leaf.switches.map fun l => (.text l.name, d.get l))

/-- All settings as a map, as they stand in a draft. -/
def Draft.wholeMap (d : Draft) : Datum :=
  let switches := match d.dialect with
    | some s => .text s
    | none => d.switchMap
  .map ((Leaf.plain.map fun l => (.text l.name, d.get l)) ++ [(.text dialectKey, switches)])

/-- A backslash in front of the mark of a value to come takes its meaning away. -/
def unescaped : Datum → Datum
  | .text s =>
    let isMark := s.toList.dropWhile (· == '\\') = "???".toList
    if isMark && s.startsWith "\\" then .text (String.ofList (s.toList.drop 1)) else .text s
  | d => d

/-- A piece of a name, which must be a text. -/
def pieceOf : Datum → Except LoadError String
  | .text s => .ok s
  | _ => .error .unresolvable

/-- The value of a name in a map, and then of the names after it. -/
def within : List String → Datum → Except LoadError (Option Datum)
  | [], d => .ok (some d)
  | name :: more, .map entries =>
    match lookup name entries with
    | some d => within more d
    | none => .ok none
  | _ :: _, _ => .error .unresolvable

section

variable (resolvers : Resolvers) (d : Draft)

mutual

/-- The value of a setting. -/
def resolveLeaf : Nat → List Pending → Group → Leaf → Except LoadError Datum
  | 0, _, _, _ => .error .unresolvable
  | fuel + 1, met, group, l =>
    match template? (d.get l) with
    | none => .ok (unescaped (d.get l))
    | some s => do
      if met.contains (.leaf l) then throw .unresolvable
      let value ← resolveText fuel (.leaf l :: met) group s
      (l.type.convert value).mapError fun _ => .mistypedReference

/-- The switches as one value. -/
def resolveDialect : Nat → List Pending → Except LoadError Datum
  | 0, _ => .error .unresolvable
  | fuel + 1, met =>
    match d.dialect with
    | none => .ok d.switchMap
    | some s =>
      if met.contains .dialect then .error .unresolvable
      else resolveText fuel (.dialect :: met) .root s

/-- The value of a text with references. -/
def resolveText : Nat → List Pending → Group → String → Except LoadError Datum
  | 0, _, _, _ => .error .unresolvable
  | fuel + 1, met, group, s =>
    match Term.ofText? s with
    | some t => eval fuel met group t
    | none => .error .brokenReference

/-- What a key leads to, if it is there. -/
def select : Nat → List Pending → Group → String → Except LoadError (Option Datum)
  | 0, _, _, _ => .error .unresolvable
  | fuel + 1, met, group, key => do
    match startOf group key.toList with
    | none => throw .unknownReference
    | some (start, []) => return some (if start = .root then d.wholeMap else d.switchMap)
    | some (start, rest) =>
      let names := path (String.ofList rest)
      match start, names with
      | .root, name :: more =>
        if name = dialectKey then
          if more.isEmpty || d.dialect.isSome then within more (← resolveDialect fuel met)
          else selectLeaf fuel met .dialect more
        else selectLeaf fuel met .root names
      | group, names => selectLeaf fuel met group names

/-- The setting of a group, which has nothing inside. -/
def selectLeaf : Nat → List Pending → Group → List String →
    Except LoadError (Option Datum)
  | 0, _, _, _ => .error .unresolvable
  | _, _, _, [] => .ok none
  | fuel + 1, met, group, name :: more =>
    match if group = .root then Leaf.plain? name else Leaf.switch? name with
    | none => .ok none
    | some l =>
      match resolveLeaf fuel met group l with
      | .error e => .error e
      | .ok value => if more.isEmpty then .ok (some value) else .error .unresolvable

def eval : Nat → List Pending → Group → Term → Except LoadError Datum
  | 0, _, _, _ => .error .unresolvable
  | fuel + 1, met, group, t =>
    match t with
    | .literal v => .ok v
    | .joined ts => do
      let values ← ts.mapM (eval fuel met group)
      return .text (String.join (values.map Datum.toText))
    | .reference ts => do
      let pieces ← ts.mapM fun t => do pieceOf (← eval fuel met group t)
      let key := String.join pieces
      if leadsBack group key then throw .unresolvable
      match ← select fuel met group key with
      | some v => return v
      | none => throw .unknownReference
    | .call name args => do
      let pieces ← name.mapM fun t => do pieceOf (← eval fuel met group t)
      let values ← args.mapM (eval fuel met group)
      call fuel group (String.join pieces) values
    | .list ts => return .list (← ts.mapM (eval fuel met group))
    | .map entries => do
      let values ← (entries.map Prod.snd).mapM (eval fuel met group)
      return .mapOfEntries ((entries.map Prod.fst).zip values)

/-- `select` for a resolver, inside of which what goes wrong has no cause of its own. -/
def selectFor : Nat → Group → String → Except LoadError (Option Datum)
  | 0, _, _ => .error .unresolvable
  | fuel + 1, group, key =>
    if (startOf group key.toList).isNone then .error .unresolvable
    else select fuel [] group key

/-- The result of a resolver. -/
def call : Nat → Group → String → List Datum → Except LoadError Datum
  | 0, _, _, _ => .error .unresolvable
  | fuel + 1, group, name, args =>
    resolvers ⟨selectFor fuel group, eval fuel [] group⟩ name args

end

end

namespace Draft

/-- A bound on the nesting of references: every setting is met once, and a text nests no deeper
than it is long. What resolvers come with is allowed a thousand calls. -/
def bound (d : Draft) : Nat :=
  let lengths := (Leaf.plain ++ Leaf.switches).map fun l =>
    ((template? (d.get l)).map String.length).getD 0
  20 * (lengths.foldl (· + ·) (d.dialect.getD "").length + 4) + 1000

variable (resolvers : Resolvers)

/-- The value of a setting, with all references resolved. -/
def value (d : Draft) (l : Leaf) : Except LoadError Datum :=
  resolveLeaf resolvers d d.bound [] (if l ∈ Leaf.switches then .dialect else .root) l

def int (d : Draft) (l : Leaf) : Except LoadError Int := do intOf (← d.value resolvers l)

def text (d : Draft) (l : Leaf) : Except LoadError String := do textOf (← d.value resolvers l)

def bool (d : Draft) (l : Leaf) : Except LoadError Bool := do boolOf (← d.value resolvers l)

/-- The settings that a draft stands for, resolved in their order. -/
def settings (d : Draft) : Except LoadError Settings := do
  let instructionFrequency ← d.int resolvers .instructionFrequency
  let timerFrequency ← d.int resolvers .timerFrequency
  let fps ← d.int resolvers .fps
  let seed ← d.int resolvers .seed
  let onUnknownOpcode ← d.text resolvers .onUnknownOpcode
  let logLevel ← d.text resolvers .logLevel
  let scale ← d.int resolvers .scale
  let colorScheme ← d.text resolvers .colorScheme
  if d.dialect.isSome then
    let _ ← resolveDialect resolvers d d.bound []
    throw .foreignDialect
  let shiftUsesVy ← d.bool resolvers .shiftUsesVy
  let logicResetsVf ← d.bool resolvers .logicResetsVf
  let jumpUsesVx ← d.bool resolvers .jumpUsesVx
  let loadStoreIncrementsI ← d.bool resolvers .loadStoreIncrementsI
  let indexOverflowSetsVf ← d.bool resolvers .indexOverflowSetsVf
  let clipSprites ← d.bool resolvers .clipSprites
  return ⟨instructionFrequency, timerFrequency, fps, seed, onUnknownOpcode, logLevel, scale,
    colorScheme, ⟨shiftUsesVy, logicResetsVf, jumpUsesVx, loadStoreIncrementsI,
      indexOverflowSetsVf, clipSprites⟩⟩

end Draft

end Chip8.Settings
