import Chip8.Text.Lines
import Chip8.Text.Number
import Chip8.Text.Upper

/-! Leveled log lines. A logger keeps the name of its threshold as it was last given, in upper
case, even when that name turned out not to be a level. -/
namespace Chip8.Log

inductive Level
  | debug | info | warning | error | critical
deriving DecidableEq, Repr

namespace Level

def all : List Level := [debug, info, warning, error, critical]

def name : Level → String
  | debug => "DEBUG"
  | info => "INFO"
  | warning => "WARNING"
  | error => "ERROR"
  | critical => "CRITICAL"

def names : List String := all.map name

def rank : Level → Nat
  | debug => 0
  | info => 1
  | warning => 2
  | error => 3
  | critical => 4

def ofName? (s : String) : Option Level := all.find? fun l => l.name == s

/-- The escape sequence that colors a level on a terminal. -/
def color : Level → String
  | debug => "\x1b[36m"
  | info => "\x1b[32m"
  | warning => "\x1b[33m"
  | error => "\x1b[31m"
  | critical => "\x1b[35m"

end Level

structure UnknownLevel where
  name : String
deriving DecidableEq, Repr

def UnknownLevel.message (e : UnknownLevel) : String :=
  s!"Unknown log level '{e.name}'. Available: {Text.nameList Level.names}"

structure Entry where
  level : Level
  text : String
deriving DecidableEq, Repr

/-- The name of the logger that the program itself uses. -/
def defaultName : String := "chipax"

structure Logger where
  name : String
  threshold : String
  colored : Bool
deriving DecidableEq, Repr

namespace Logger

/-- The threshold is replaced before it is checked. -/
def setLevel (l : Logger) (given : String) : Logger × Option UnknownLevel :=
  let threshold := Text.upper given
  ({ l with threshold := threshold },
    if (Level.ofName? threshold).isSome then none else some ⟨given⟩)

def create (name level : String) (colored : Bool) : Except UnknownLevel Logger :=
  match setLevel ⟨name, "", colored⟩ level with
  | (l, none) => .ok l
  | (_, some e) => .error e

/-- Whether a level reaches the threshold, unless one of the two is not a level. -/
def enabled? (l : Logger) (level : String) : Option Bool := do
  let level ← Level.ofName? (Text.upper level)
  let threshold ← Level.ofName? l.threshold
  return decide (threshold.rank ≤ level.rank)

def lead (l : Logger) (level : Level) : String :=
  let label := "[" ++ Text.padLeft 8 ' ' level.name ++ "]"
  let label := if l.colored then level.color ++ label ++ "\x1b[0m" else label
  label ++ "[" ++ l.name ++ "]"

/-- The lines of a message; an empty message has one empty line. -/
def messageLines (text : String) : List String :=
  match Text.lines text with
  | [] => [""]
  | ls => ls

/-- Every line of the message behind its own lead. -/
def format (l : Logger) (e : Entry) : String :=
  String.join ((messageLines e.text).map fun line => l.lead e.level ++ " " ++ line ++ "\n")

/-- What an entry adds to the log; nothing can be said when the threshold is not a level. -/
def write? (l : Logger) (e : Entry) : Option String := do
  let threshold ← Level.ofName? l.threshold
  return if threshold.rank ≤ e.level.rank then l.format e else ""

/-- `write?` for a level given by name. -/
def log? (l : Logger) (level text : String) : Option String := do
  let level ← Level.ofName? (Text.upper level)
  l.write? ⟨level, text⟩

/-- What a series of entries adds to the log. -/
def writeAll (l : Logger) (es : List Entry) : String :=
  String.join (es.map fun e => (l.write? e).getD "")

end Logger

/-- The shared loggers, in the order of their creation. -/
structure Registry where
  loggers : List Logger
deriving DecidableEq, Repr

namespace Registry

def empty : Registry := ⟨[]⟩

def find? (r : Registry) (name : String) : Option Logger :=
  r.loggers.find? fun l => l.name == name

def replace (r : Registry) (l : Logger) : Registry :=
  ⟨r.loggers.map fun k => if k.name == l.name then l else k⟩

/-- The logger called `name`, created on first use. An empty level on first use is the default;
a logger that cannot be created is not kept. -/
def get (r : Registry) (name : String) (level : Option String) :
    Registry × Except UnknownLevel Logger :=
  match r.find? name with
  | none =>
    let level := level.getD ""
    match Logger.create name (if level.isEmpty then "INFO" else level) false with
    | .ok l => (⟨r.loggers ++ [l]⟩, .ok l)
    | .error e => (r, .error e)
  | some l =>
    match level with
    | none => (r, .ok l)
    | some level =>
      match l.setLevel level with
      | (l, none) => (r.replace l, .ok l)
      | (l, some e) => (r.replace l, .error e)

end Registry

end Chip8.Log
