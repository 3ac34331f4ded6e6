import Chip8.Text.Binary64
import Chip8.Text.Quoted

/-! The values a document can hold. -/
namespace Chip8.Yaml

inductive Datum
  | null
  | bool (b : Bool)
  | int (n : Int)
  | float (x : Text.Binary64)
  | text (s : String)
  | bytes (bs : List UInt8)
  /-- A moment in time. -/
  | moment
  /-- A set, whose members nothing asks for. -/
  | set
  | list (items : List Datum)
  | map (entries : List (Datum × Datum))
deriving Inhabited

namespace Datum

/-- Whether a value is a list or a map. -/
def isCollection : Datum → Bool
  | list _ => true
  | map _ => true
  | _ => false

mutual

/-- How deep collections are nested in a value. -/
def depth : Datum → Nat
  | list items => itemsDepth items + 1
  | map entries => entriesDepth entries + 1
  | _ => 0

def itemsDepth : List Datum → Nat
  | [] => 0
  | d :: ds => max d.depth (itemsDepth ds)

def entriesDepth : List (Datum × Datum) → Nat
  | [] => 0
  | (_, d) :: es => max d.depth (entriesDepth es)

end

/-- Whether a value can be the key of a map. -/
def isKey : Datum → Bool
  | list _ => false
  | map _ => false
  | set => false
  | _ => true

/-- Whether two keys are the same one; a boolean counts as a number. -/
def sameKey : Datum → Datum → Bool
  | null, null => true
  | bool a, bool b => a == b
  | int a, int b => a == b
  | bool a, int b => (if a then 1 else 0) == b
  | int a, bool b => a == (if b then 1 else 0)
  | float a, float b => a == b
  | text a, text b => a == b
  | bytes a, bytes b => a == b
  | _, _ => false

/-- Entries as a map: a key that comes again keeps its place and takes the later value. -/
def mapOfEntries (entries : List (Datum × Datum)) : Datum :=
  .map (entries.foldl (fun acc (k, v) =>
    if acc.any fun (k', _) => k'.sameKey k then
      acc.map fun (k', v') => if k'.sameKey k then (k', v) else (k', v')
    else acc ++ [(k, v)]) [])

/-- A scalar written out; `quoted` says how a text inside a list or a map is written. -/
def scalarText (quoted : Bool) : Datum → String
  | null => "None"
  | bool b => if b then "True" else "False"
  | int n => toString n
  | float x => x.text
  | text s => if quoted then Text.quoted s else s
  | _ => ""

mutual

def write (quoted : Bool) : Datum → String
  | list items => "[" ++ ", ".intercalate (writeItems items) ++ "]"
  | map entries => "\x7b" ++ ", ".intercalate (writeEntries entries) ++ "\x7d"
  | d => d.scalarText quoted

def writeItems : List Datum → List String
  | [] => []
  | d :: ds => d.write true :: writeItems ds

def writeEntries : List (Datum × Datum) → List String
  | [] => []
  | (k, v) :: es => (k.write true ++ ": " ++ v.write true) :: writeEntries es

end

/-- A value as a text: a text stands for itself. -/
def toText (d : Datum) : String := d.write false

end Datum

/-- What is wrong with a document. -/
inductive Error
  /-- A character that no text may hold. -/
  | character
  /-- Characters that make up no token, or a token in the wrong place of its line. -/
  | token
  /-- Tokens that make up no node. -/
  | arrangement
  /-- An unknown alias, or a second document. -/
  | reference
  /-- A node that stands for no value. -/
  | value
  /-- A number with characters that are no digits. -/
  | number
  /-- A number without any character. -/
  | emptyNumber
  /-- A boolean that is none of the words for one. -/
  | word
  /-- A moment in time that is written in no known way. -/
  | moment
deriving DecidableEq, Repr

end Chip8.Yaml
