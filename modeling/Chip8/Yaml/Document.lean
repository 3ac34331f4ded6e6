import Chip8.Yaml.Node

/-! The value of a document. An entry with the key `<<` puts the entries of other maps in front;
those of the map itself win, and of several maps the earlier ones. -/
namespace Chip8.Yaml

namespace Node

/-- The most nodes that a document may have, an alias counted as all that it stands for. -/
def maxSize : Nat := 10000

mutual

/-- Whether some map has a text twice among its keys. -/
def hasTwice : Node → Bool
  | scalar _ _ => false
  | list _ items => itemsHaveTwice items
  | map _ entries => keysRepeat entries || entriesHaveTwice entries

def itemsHaveTwice : List Node → Bool
  | [] => false
  | n :: ns => n.hasTwice || itemsHaveTwice ns

def entriesHaveTwice : List (Node × Node) → Bool
  | [] => false
  | (k, v) :: es => k.hasTwice || v.hasTwice || entriesHaveTwice es

def keysRepeat : List (Node × Node) → Bool
  | [] => false
  | (.scalar .text s, _) :: es => isKeyOf s es || keysRepeat es
  | _ :: es => keysRepeat es

def isKeyOf (s : String) : List (Node × Node) → Bool
  | [] => false
  | (.scalar .text t, _) :: es => s == t || isKeyOf s es
  | _ :: es => isKeyOf s es

end

/-- The key of an entry; an equals sign is a text there. -/
def isDefault : Node → Bool
  | .scalar .default _ => true
  | _ => false

def isMerge : Node → Bool
  | .scalar .merge _ => true
  | .list .merge _ => true
  | .map .merge _ => true
  | _ => false

mutual

/-- The text of a scalar; a map has the one of its entry with an equals sign for a key. -/
def scalarText : Node → Except Error String
  | scalar _ text => .ok text
  | list _ _ => .error .value
  | map _ entries => defaultText entries

def defaultText : List (Node × Node) → Except Error String
  | [] => .error .value
  | (k, v) :: es => if k.isDefault then v.scalarText else defaultText es

end

mutual

def toDatum : Node → Except Error Datum
  | scalar kind text => Scalar.value kind text
  | list kind items =>
    match kind with
    | .list => (itemData items).map .list
    | .pairs => (pairData items).map .list
    | _ => .error .value
  | map kind entries =>
    match kind with
    | .map => (entryData entries).map Datum.mapOfEntries
    | .set => (entryData entries).map fun _ => .set
    | .null | .bool | .int | .float | .text | .binary | .moment =>
      match defaultText entries with
      | .ok text => Scalar.value kind text
      | .error e => .error e
    | _ => .error .value

def itemData : List Node → Except Error (List Datum)
  | [] => .ok []
  | n :: ns =>
    match n.toDatum with
    | .error e => .error e
    | .ok d => (itemData ns).map (d :: ·)

/-- Lists of a key and a value, from maps with one entry each. -/
def pairData : List Node → Except Error (List Datum)
  | [] => .ok []
  | .map _ [(k, v)] :: ns =>
    match k.toDatum, v.toDatum with
    | .error e, _ => .error e
    | _, .error e => .error e
    | .ok k, .ok v => (pairData ns).map (.list [k, v] :: ·)
  | _ :: _ => .error .value

/-- The entries of a map behind those that it takes over. -/
def entryData (entries : List (Node × Node)) : Except Error (List (Datum × Datum)) :=
  match mergedData entries with
  | .error e => .error e
  | .ok merged => (ownData entries).map (merged ++ ·)

/-- The entries that a map takes over. -/
def mergedData : List (Node × Node) → Except Error (List (Datum × Datum))
  | [] => .ok []
  | (k, v) :: es =>
    if k.isMerge then
      match v.mergeData with
      | .error e => .error e
      | .ok merged => (mergedData es).map (merged ++ ·)
    else mergedData es

/-- What a map, or a list of maps, gives to the map that takes it over. -/
def mergeData : Node → Except Error (List (Datum × Datum))
  | scalar _ _ => .error .value
  | list _ items => listMergeData items
  | map _ entries => entryData entries

/-- The maps of a list, the last one first, so that the first one wins. -/
def listMergeData : List Node → Except Error (List (Datum × Datum))
  | [] => .ok []
  | .map _ entries :: ns =>
    match entryData entries with
    | .error e => .error e
    | .ok first => (listMergeData ns).map (· ++ first)
  | _ :: _ => .error .value

/-- The entries of a map that are its own. -/
def ownData : List (Node × Node) → Except Error (List (Datum × Datum))
  | [] => .ok []
  | (k, v) :: es =>
    if k.isMerge then ownData es
    else
      match (if k.isDefault then .ok (.text "=") else k.toDatum), v.toDatum with
      | .error e, _ => .error e
      | .ok key, value =>
        if !key.isKey then .error .value
        else
          match value with
          | .error e => .error e
          | .ok value => (ownData es).map ((key, value) :: ·)

end

end Node

def isTextChar (c : Char) : Bool :=
  let n := c.toNat
  n == 0x09 || n == 0x0A || n == 0x0D || (0x20 ≤ n && n ≤ 0x7E) || n == 0x85 ||
    (0xA0 ≤ n && n ≤ 0xFFFD) || 0x10000 ≤ n

/-- A mark of the byte order at the start is passed over. -/
def withoutMark : List Char → List Char
  | '\ufeff' :: cs => cs
  | cs => cs

/-- The value of a text; null when it holds no document. -/
def Datum.ofText (s : String) : Except Error Datum := do
  if !s.toList.all isTextChar then throw .character
  match ← Node.ofText (withoutMark s.toList) with
  | (none, _) => return .null
  | (some n, isEndless) =>
    if isEndless || Node.maxSize < n.size || n.node.hasTwice then throw .value
    n.node.toDatum

end Chip8.Yaml
