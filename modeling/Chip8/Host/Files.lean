import Chip8.Text.Quoted

/-! The files that a host can reach. A path is followed name by name, and the first name that
leads nowhere decides how it fails. -/
namespace Chip8

/-- Why a file cannot be opened. -/
inductive FileError
  | missing
  | isFolder
  /-- A file stands where the path needs a folder. -/
  | notFolder
  | nameTooLong
  /-- The path holds the character that ends paths. -/
  | broken
deriving DecidableEq, Repr

def FileError.message (path : String) : FileError → String
  | missing => s!"[Errno 2] No such file or directory: {Text.quoted path}"
  | isFolder => s!"[Errno 21] Is a directory: {Text.quoted path}"
  | notFolder => s!"[Errno 20] Not a directory: {Text.quoted path}"
  | nameTooLong => s!"[Errno 36] File name too long: {Text.quoted path}"
  | broken => "embedded null byte"

structure Files where
  read : String → Except FileError (Array UInt8)
  /-- Whether a file could be written. -/
  write : String → Except FileError Unit

namespace Files

/-! Paths. -/

/-- The names of a path. -/
def components (path : String) : List String := (path.splitOn "/").filter (· != "")

/-- The names of a path, without the ones that stay in the same folder. -/
def names (path : String) : List String := (components path).filter (· != ".")

def isAbsolute (path : String) : Bool := path.startsWith "/"

/-- Whether the last name of a path has to be a folder. -/
def endsInSlash (path : String) : Bool := path.endsWith "/"

/-- One more name behind others; a step up takes the name before it away. At the top of an
absolute path there is no way up. -/
def shorten (absolute : Bool) (before : List String) (name : String) : List String :=
  if name = ".." then
    match before.getLast? with
    | some last => if last = ".." then before ++ [".."] else before.dropLast
    | none => if absolute then [] else [".."]
  else before ++ [name]

/-- The shortest way to write a path, told from its text alone. -/
def normal (path : String) : String :=
  let absolute := isAbsolute path
  let short := "/".intercalate ((names path).foldl (shorten absolute) [])
  if absolute then "/" ++ short else if short.isEmpty then "." else short

/-- The longest path and the longest name, in bytes. -/
def maxPath : Nat := 4095

def maxName : Nat := 255

/-! A tree of files. -/

/-- Files and folders by the names that lead to them from the top, and the folder in which
relative paths start. -/
structure Tree where
  files : List (List String × Array UInt8)
  folders : List (List String)
  start : List String

namespace Tree

/-- A folder is listed, is on the way to where paths start, or holds something. -/
def isFolder (t : Tree) (place : List String) : Bool :=
  place.isPrefixOf t.start || t.folders.contains place ||
    t.files.any fun (p, _) => place.isPrefixOf p && p.length != place.length

def content? (t : Tree) (place : List String) : Option (Array UInt8) := t.files.lookup place

/-- The folder that a name inside a folder leads to. -/
def enter (t : Tree) (folder : List String) (name : String) : Except FileError (List String) :=
  if name = "." then .ok folder
  else if name = ".." then .ok folder.dropLast
  else if maxName < name.utf8ByteSize then .error .nameTooLong
  else
    let place := folder ++ [name]
    if t.isFolder place then .ok place
    else if (t.content? place).isSome then .error .notFolder
    else .error .missing

/-- The folder of the last name of a path, and that name; none when the path is only a
folder. -/
def approach (t : Tree) (path : String) : Except FileError (List String × Option String) := do
  if path.contains '\x00' then throw .broken
  if path.isEmpty then throw .missing
  if maxPath < path.utf8ByteSize then throw .nameTooLong
  let all := components path
  let folder ← all.dropLast.foldlM t.enter (if isAbsolute path then [] else t.start)
  return (folder, all.getLast?.filter fun name => name != "." && name != "..")

def read (t : Tree) (path : String) : Except FileError (Array UInt8) := do
  match ← t.approach path with
  | (_, none) => throw .isFolder
  | (folder, some name) =>
    if maxName < name.utf8ByteSize then throw .nameTooLong
    let place := folder ++ [name]
    if t.isFolder place then throw .isFolder
    match t.content? place with
    | none => throw .missing
    | some bytes => if endsInSlash path then throw .notFolder else return bytes

def write (t : Tree) (path : String) : Except FileError Unit := do
  match ← t.approach path with
  | (_, none) => throw .isFolder
  | (folder, some name) =>
    if endsInSlash path then throw .isFolder
    if maxName < name.utf8ByteSize then throw .nameTooLong
    if t.isFolder (folder ++ [name]) then throw .isFolder

/-- Folders at the top that every host has. -/
def commonFolders : List String :=
  ["bin", "boot", "dev", "etc", "home", "lib", "media", "mnt", "opt", "proc", "root", "run",
    "sbin", "srv", "sys", "tmp", "usr", "var"]

/-- The content of one folder in which relative paths start. No path can spell its name. -/
def ofList (files : List (String × Array UInt8)) : Tree :=
  let start := ["tmp", ""]
  { files := files.map (fun (path, bytes) => (start ++ names path, bytes)) ++
      [(["dev", "null"], #[])],
    folders := commonFolders.map fun name => [name],
    start := start }

end Tree

/-- A tree as the files of a host. -/
def ofTree (t : Tree) : Files := ⟨t.read, t.write⟩

end Files

end Chip8
