import Chip8.Settings.Resolution

/-! The resolvers that a text can call unless a host has more of them: they look up settings and
variables of the environment, and make values of texts. -/
namespace Chip8.Settings

open Yaml (Datum)

/-- The variables of the environment, by their names. -/
abbrev Environment := String → Option String

namespace Resolvers

def names : List String :=
  ["oc.select", "oc.deprecated", "oc.env", "oc.decode", "oc.create", "oc.dict.keys",
    "oc.dict.values"]

/-- A setting that has to be there. -/
def found (around : Surroundings) (key : String) : Except LoadError Datum :=
  match around.select key with
  | .ok (some v) => .ok v
  | .ok none => .error .unresolvable
  | .error e => .error e

def foundMap (around : Surroundings) (key : String) : Except LoadError (List (Datum × Datum)) :=
  match found around key with
  | .ok (.map entries) => .ok entries
  | .ok _ => .error .unresolvable
  | .error e => .error e

/-- A variable is a text, and so is what stands in for one that is not set. -/
def fromEnvironment (environment : Environment) (name : String) (standIn : Option Datum) :
    Except LoadError Datum :=
  match environment name, standIn with
  | some given, _ => .ok (.text given)
  | none, none => .error .unresolvable
  | none, some .null => .ok .null
  | none, some d => .ok (.text d.toText)

/-- A collection as it is, and a text as the collection that it spells: a word alone is the only
key of a map. -/
def created : Datum → Except LoadError Datum
  | .null => .ok .null
  | .text s =>
    match Datum.ofText s with
    | .ok .null => .ok (.map [])
    | .ok (.text word) => .ok (.map [(.text word, .null)])
    | .ok d => if d.isCollection then .ok d else .error .unresolvable
    | .error _ => .error .unresolvable
  | d => if d.isCollection then .ok d else .error .unresolvable

def decoded (around : Surroundings) (s : String) : Except LoadError Datum :=
  match Term.ofElement? s with
  | some t => around.eval t
  | none => .error .unresolvable

def standard (environment : Environment) : Resolvers := fun around name args =>
  match name, args with
  | "oc.select", [.text key] => (around.select key).map (·.getD .null)
  | "oc.select", [.text key, dflt] => (around.select key).map (·.getD dflt)
  | "oc.deprecated", [.text key] => found around key
  | "oc.deprecated", [.text key, .text _] => found around key
  | "oc.env", [.text name] => fromEnvironment environment name none
  | "oc.env", [.text name, dflt] => fromEnvironment environment name (some dflt)
  | "oc.decode", [.null] => .ok .null
  | "oc.decode", [.text s] => decoded around s
  | "oc.create", [d] => created d
  | "oc.dict.keys", [.text key] => (foundMap around key).map fun es => .list (es.map Prod.fst)
  | "oc.dict.values", [.text key] => (foundMap around key).map fun es => .list (es.map Prod.snd)
  | name, _ => .error (if names.contains name then .unresolvable else .unknownResolver)

end Resolvers

end Chip8.Settings
