import Chip8.Yaml.Layout
import Chip8.Yaml.Scalar

/-! The nodes that the tokens of a document make up. Every reader takes a bound on the number of
nested calls, which the number of tokens provides. -/
namespace Chip8.Yaml

inductive Node
  | scalar (kind : Kind) (text : String)
  | list (kind : Kind) (items : List Node)
  | map (kind : Kind) (entries : List (Node × Node))

namespace Node

def empty : Node := .scalar .null ""

/-- A node with the number of nodes in it, where an alias counts as all that it stands for. -/
structure Sized where
  node : Node
  size : Nat := 1

/-- What has been read: the tokens to come and the mistake behind them, the meaning of the tag
handles, the anchored nodes, and whether an alias has been met inside of what it stands for. A
node that is not complete has no value yet. -/
structure State where
  tokens : List Token
  mistake : Error
  handles : List (String × String) := []
  anchors : List (String × Option Sized) := []
  isEndless : Bool := false

abbrev Read := StateT State (Except Error)

/-- The next token. Behind the last one lies the mistake that ended them. -/
def peek : Read Token := do
  match (← get).tokens with
  | t :: _ => return t
  | [] => throw (← get).mistake

def skip : Read Unit := modify fun s => { s with tokens := s.tokens.drop 1 }

/-- Takes the next token if it is `t`. -/
def accept (t : Token) : Read Bool := do
  if (← peek) == t then
    skip
    return true
  return false

/-! Anchors and tags. -/

structure Properties where
  anchor : Option String := none
  tag : Option String := none

def resolveTag (handle suffix : String) : Read String := do
  if handle.isEmpty then return suffix
  match (← get).handles.lookup handle with
  | some meaning => return meaning ++ suffix
  | none => throw .arrangement

/-- At most one anchor and one tag, in either order. -/
def properties : Read Properties := do
  match ← peek with
  | .anchor name =>
    skip
    match ← peek with
    | .tag handle suffix =>
      skip
      return ⟨some name, some (← resolveTag handle suffix)⟩
    | _ => return ⟨some name, none⟩
  | .tag handle suffix =>
    skip
    match ← peek with
    | .anchor name =>
      skip
      return ⟨some name, some (← resolveTag handle suffix)⟩
    | _ => return ⟨none, some (← resolveTag handle suffix)⟩
  | _ => return {}

/-- Notes that an anchored node starts; its name must be new. -/
def startAnchor (p : Properties) : Read Unit := do
  if let some name := p.anchor then
    if ((← get).anchors.lookup name).isSome then throw .reference
    modify fun s => { s with anchors := (name, none) :: s.anchors }

/-- Notes an anchored node that is complete. -/
def finishAnchor (p : Properties) (n : Sized) : Read Sized := do
  if let some name := p.anchor then
    modify fun s => { s with anchors := (name, some n) :: s.anchors }
  return n

/-- The node of an alias. -/
def recalled (name : String) : Read Sized := do
  match (← get).anchors.lookup name with
  | none => throw .reference
  | some (some n) => return n
  | some none =>
    modify fun s => { s with isEndless := true }
    return ⟨empty, 1⟩

/-- The kind of a collection: a tag without a name changes nothing. -/
def collectionKind (dflt : Kind) : Option String → Kind
  | none => dflt
  | some tag => if tag = "!" then dflt else .ofTag tag

/-- The kind of a scalar: a tag without a name makes a quoted one plain. -/
def scalarKind (isPlain : Bool) (text : String) : Option String → Kind
  | none => if isPlain then .ofPlain text else .text
  | some tag => if tag = "!" then .ofPlain text else .ofTag tag

/-- The kind of a scalar that is left out. -/
def missingKind : Option String → Kind
  | none => .null
  | some tag => if tag = "!" then .text else .ofTag tag

def ofItems (kind : Kind) (items : List Sized) : Sized :=
  ⟨.list kind (items.map Sized.node), items.foldl (fun n i => n + i.size) 1⟩

def ofEntries (kind : Kind) (entries : List (Sized × Sized)) : Sized :=
  ⟨.map kind (entries.map fun (k, v) => (k.node, v.node)),
    entries.foldl (fun n (k, v) => n + k.size + v.size) 1⟩

/-! Nodes. -/

/-- Whether a node is left out in front of a token. -/
def isLeftOut (ends : List Token) : Read Bool := do return ends.contains (← peek)

mutual

/-- One node. A block collection may stand only inside of blocks, and a list without an
indentation of its own only as the value or key of a block map. -/
def node : Nat → Bool → Bool → Read Sized
  | 0, _, _ => throw .arrangement
  | fuel + 1, inBlock, canBeFlush => do
    if let .reference name ← peek then
      skip
      return ← recalled name
    let p ← properties
    let listKind := collectionKind .list p.tag
    let mapKind := collectionKind .map p.tag
    match ← peek with
    | .scalar text isPlain =>
      skip
      startAnchor p
      finishAnchor p ⟨.scalar (scalarKind isPlain text p.tag) text, 1⟩
    | .flowListStart =>
      skip
      startAnchor p
      finishAnchor p (ofItems listKind (← flowItems fuel true))
    | .flowMapStart =>
      skip
      startAnchor p
      finishAnchor p (ofEntries mapKind (← flowEntries fuel true))
    | t =>
      if t = .item ∧ canBeFlush then
        startAnchor p
        finishAnchor p (ofItems listKind (← flushItems fuel))
      else if t = .blockListStart ∧ inBlock then
        skip
        startAnchor p
        finishAnchor p (ofItems listKind (← blockItems fuel))
      else if t = .blockMapStart ∧ inBlock then
        skip
        startAnchor p
        finishAnchor p (ofEntries mapKind (← blockEntries fuel))
      else if p.anchor.isSome ∨ p.tag.isSome then
        startAnchor p
        finishAnchor p ⟨.scalar (missingKind p.tag) "", 1⟩
      else throw .arrangement

/-- A node, unless it is left out. -/
def nodeUnless (ends : List Token) : Nat → Bool → Bool → Read Sized
  | 0, _, _ => throw .arrangement
  | fuel + 1, inBlock, canBeFlush => do
    if ← isLeftOut ends then return ⟨empty, 1⟩
    node fuel inBlock canBeFlush

def blockItems : Nat → Read (List Sized)
  | 0 => throw .arrangement
  | fuel + 1 => do
    if ← accept .item then
      let n ← nodeUnless [.item, .blockEnd] fuel true false
      return n :: (← blockItems fuel)
    if ← accept .blockEnd then return []
    throw .arrangement

def flushItems : Nat → Read (List Sized)
  | 0 => throw .arrangement
  | fuel + 1 => do
    if ← accept .item then
      let n ← nodeUnless [.item, .key, .value, .blockEnd] fuel true false
      return n :: (← flushItems fuel)
    return []

def blockEntries : Nat → Read (List (Sized × Sized))
  | 0 => throw .arrangement
  | fuel + 1 => do
    if ← accept .key then
      let k ← nodeUnless [.key, .value, .blockEnd] fuel true true
      let v ←
        if ← accept .value then nodeUnless [.key, .value, .blockEnd] fuel true true
        else pure ⟨empty, 1⟩
      return (k, v) :: (← blockEntries fuel)
    if ← accept .blockEnd then return []
    throw .arrangement

/-- The value of an entry, behind a colon. -/
def flowValue (closing : Token) : Nat → Read Sized
  | 0 => throw .arrangement
  | fuel + 1 => do
    if ← accept .value then nodeUnless [.comma, closing] fuel false false
    else return ⟨empty, 1⟩

/-- An entry without brackets of its own in a flow list. When its key is left out, the token in
the place of the key is passed over. -/
def flowPair : Nat → Read Sized
  | 0 => throw .arrangement
  | fuel + 1 => do
    let k ←
      if ← isLeftOut [.value, .comma, .flowListEnd] then
        skip
        pure ⟨empty, 1⟩
      else node fuel false false
    let v ← flowValue .flowListEnd fuel
    return ofEntries .map [(k, v)]

def flowItems : Nat → Bool → Read (List Sized)
  | 0, _ => throw .arrangement
  | fuel + 1, isFirst => do
    if ← accept .flowListEnd then return []
    if !isFirst then
      if !(← accept .comma) then throw .arrangement
    if ← accept .key then
      let n ← flowPair fuel
      return n :: (← flowItems fuel false)
    if ← accept .flowListEnd then return []
    let n ← node fuel false false
    return n :: (← flowItems fuel false)

def flowEntries : Nat → Bool → Read (List (Sized × Sized))
  | 0, _ => throw .arrangement
  | fuel + 1, isFirst => do
    if ← accept .flowMapEnd then return []
    if !isFirst then
      if !(← accept .comma) then throw .arrangement
    if ← accept .key then
      let k ← nodeUnless [.value, .comma, .flowMapEnd] fuel false false
      let v ← flowValue .flowMapEnd fuel
      return (k, v) :: (← flowEntries fuel false)
    if ← accept .flowMapEnd then return []
    let k ← node fuel false false
    return (k, ⟨empty, 1⟩) :: (← flowEntries fuel false)

end

/-! Documents. -/

def defaultHandles : List (String × String) := [("!", "!"), ("!!", Kind.tagSpace)]

/-- The directives in front of a document: one version at most, and each handle once. -/
def directives : Nat → Bool → Read Unit
  | 0, _ => throw .arrangement
  | fuel + 1, hasVersion => do
    match ← peek with
    | .version major minor =>
      if hasVersion || major != 1 || (minor != 1 && minor != 2) then throw .arrangement
      skip
      directives fuel true
    | .tagHandle name meaning =>
      if ((← get).handles.lookup name).isSome then throw .arrangement
      modify fun s => { s with handles := s.handles ++ [(name, meaning)] }
      skip
      directives fuel hasVersion
    | _ => modify fun s => { s with handles := s.handles ++ defaultHandles }

def isDirective : Token → Bool
  | .version .. => true
  | .tagHandle .. => true
  | _ => false

/-- The node of a document whose start is marked. -/
def markedDocument (fuel : Nat) : Read Sized := do
  directives fuel false
  if !(← accept .documentStart) then throw .arrangement
  let t ← peek
  if isDirective t || [.documentStart, .documentEnd, .finish].contains t then return ⟨empty, 1⟩
  node fuel true false

def skipDocumentEnds : Nat → Read Unit
  | 0 => return
  | fuel + 1 => do if ← accept .documentEnd then skipDocumentEnds fuel

/-- The one document of a text, if there is one. -/
def document (fuel : Nat) : Read (Option Sized) := do
  let t ← peek
  if t == .finish then return none
  let n ←
    if isDirective t || t == .documentStart then markedDocument fuel
    else
      modify fun s => { s with handles := defaultHandles }
      node fuel true false
  skipDocumentEnds fuel
  if (← peek) != .finish then
    modify fun s => { s with handles := [] }
    directives fuel false
    if (← peek) != .documentStart then throw .arrangement
    throw .reference
  return some n

/-- The document of a text, with the number of its nodes and whether it has no end. -/
def ofText (text : List Char) : Except Error (Option Sized × Bool) := do
  let (ts, e) := tokens text
  let (n, s) ← (document (3 * ts.length + 8)).run ⟨ts, e.getD .arrangement, [], [], false⟩
  return (n, s.isEndless)

end Node

end Chip8.Yaml
