import Chip8.Text.Integer

/-! The command line. Options and operands may be mixed; the first operand names the program and
the others override settings. A long option may be cut short as long as it stays unique, takes
its value after an equals sign or from the next argument, and the last one of a kind counts.

The arguments are read twice. The first reading takes out the options in front of a lone `--`,
and drops that mark unless an operand stands before it. The second reading takes the operands
from what is left; where the mark is gone, it finds options there too. -/
namespace Chip8.CommandLine

/-- What an option is given. A value that is a lone `--` is taken for the mark, which leaves
nothing. -/
inductive Argument (α : Type)
  | absent
  | empty
  | value (a : α)
deriving DecidableEq, Repr

structure Options where
  rom : String
  overrides : List String := []
  config : Argument String := .absent
  headless : Bool := false
  steps : Argument Int := .value 10000
  screenshot : Argument String := .absent
  scale : Argument Int := .absent
  colorScheme : Argument String := .absent
deriving DecidableEq, Repr

/-- An override that an option stands for; an option without a value gives an empty list. -/
def Argument.override {α : Type} (name : String) (show_ : α → String) : Argument α → List String
  | absent => []
  | empty => [s!"{name}=[]"]
  | value a => [name ++ "=" ++ show_ a]

/-- The overrides of the operands, then those of the options that stand for a setting. -/
def Options.allOverrides (o : Options) : List String :=
  o.overrides ++ o.scale.override "scale" toString ++ o.colorScheme.override "color_scheme" id

/-- Why a command line starts nothing. -/
inductive Stop
  | help
  | misuse
deriving DecidableEq, Repr

def Stop.exitCode : Stop → Nat
  | help => 0
  | misuse => 2

inductive Flag
  | help | config | headless | steps | screenshot | scale | colorScheme
deriving DecidableEq, Repr

def longNames : List (String × Flag) :=
  [ ("--help", .help), ("--config", .config), ("--headless", .headless), ("--steps", .steps),
    ("--screenshot", .screenshot), ("--scale", .scale), ("--color-scheme", .colorScheme) ]

/-- What an argument is taken for. -/
inductive Token
  | operand (text : String)
  /-- An option, with the value that was given in the same argument. -/
  | option (flag : Flag) (value : Option String)
  /-- The lone `--`, after which everything is an operand. -/
  | mark
  | ambiguous
  | unknown (text : String)
deriving DecidableEq, Repr

/-- The mark as an argument. -/
def markText : String := "--"

/-- A minus sign and a decimal number: digits, or a point with digits after it. The end of a
line may follow. -/
def isNegativeNumber : List Char → Bool
  | '-' :: cs =>
    let cs := if cs.getLast? = some '\n' then cs.dropLast else cs
    let isDigit (c : Char) : Bool := (Text.digitValue? c).isSome
    match cs.dropWhile isDigit with
    | [] => !cs.isEmpty
    | '.' :: places => !places.isEmpty && places.all isDigit
    | _ => false
  | _ => false

/-- The options that a possibly shortened name stands for. -/
def candidates (name : List Char) : List Flag :=
  match longNames.lookup (String.ofList name) with
  | some flag => [flag]
  | none => (longNames.filter fun (full, _) => name.isPrefixOf full.toList).map Prod.snd

/-- An argument with two dashes in front. -/
def longToken (cs : List Char) : Token :=
  let name := cs.takeWhile (· != '=')
  let value :=
    match cs.dropWhile (· != '=') with
    | _ :: value => some (String.ofList value)
    | [] => none
  match candidates name with
  | [flag] => .option flag value
  | [] =>
    if cs.contains ' ' then .operand (String.ofList cs) else .unknown (String.ofList cs)
  | _ => .ambiguous

/-- The letter for help with more behind it: the same letter may be repeated, and an equals sign
may stand in front of the repetition. -/
def helpToken (cs : List Char) : Token :=
  let more := if cs.head? = some '=' then cs.drop 1 else cs
  if !more.isEmpty && more.all (· == 'h') then .option .help none
  else .option .help (some (String.ofList more))

def tokenOf (arg : String) : Token :=
  match arg.toList with
  | '-' :: '-' :: cs => longToken ('-' :: '-' :: cs)
  | ['-', 'h'] => .option .help none
  | '-' :: 'h' :: c :: cs => helpToken (c :: cs)
  | '-' :: c :: cs =>
    if isNegativeNumber ('-' :: c :: cs) || (c :: cs).contains ' ' then .operand arg
    else .unknown arg
  | _ => .operand arg

/-- The tokens of arguments; behind the mark there are only operands. -/
def tokens : List String → List Token
  | [] => []
  | arg :: rest =>
    if arg = markText then .mark :: rest.map .operand else tokenOf arg :: tokens rest

/-- The tokens of arguments, if none is ambiguous. -/
def clearTokens (argv : List String) : Except Stop (List Token) :=
  let ts := tokens argv
  if ts.contains .ambiguous then .error .misuse else .ok ts

/-! Options. -/

/-- The effect of an option with its value. -/
def Options.assign (o : Options) (flag : Flag) (given : String) : Except Stop Options :=
  let text (set : Argument String → Options) : Except Stop Options :=
    .ok (set (if given = markText then .empty else .value given))
  let number (set : Argument Int → Options) : Except Stop Options :=
    if given = markText then .ok (set .empty)
    else
      match Text.integer? given with
      | some n => .ok (set (.value n))
      | none => .error .misuse
  match flag with
  | .help => .error .misuse
  | .headless => .error .misuse
  | .config => text fun a => { o with config := a }
  | .steps => number fun a => { o with steps := a }
  | .screenshot => text fun a => { o with screenshot := a }
  | .scale => number fun a => { o with scale := a }
  | .colorScheme => text fun a => { o with colorScheme := a }

/-- The effect of an option without a value in the same argument, and whether it takes the next
one. -/
def Options.take (o : Options) (flag : Flag) (next : Option Token) :
    Except Stop (Options × Bool) :=
  match flag, next with
  | .help, _ => .error .help
  | .headless, _ => .ok ({ o with headless := true }, false)
  | flag, some (.operand given) => (o.assign flag given).map fun o => (o, true)
  | _, _ => .error .misuse

/-! The first reading. -/

/-- What the first reading leaves for the second one. -/
structure Sieve where
  options : Options
  left : List String := []
  hasOperand : Bool := false
deriving DecidableEq, Repr

def Sieve.add (s : Sieve) (arg : String) : Sieve := { s with left := s.left ++ [arg] }

/-- One token of the first reading; `taken` says that an option took it as its value. -/
def Sieve.step (s : Sieve) (next : Option Token) : Token → Except Stop (Sieve × Bool)
  | .operand text => .ok ({ s.add text with hasOperand := true }, false)
  | .unknown text => .ok (s.add text, false)
  | .mark => .ok (if s.hasOperand then s.add markText else s, false)
  | .ambiguous => .error .misuse
  | .option flag (some given) =>
    (s.options.assign flag given).map fun o => ({ s with options := o }, false)
  | .option flag none =>
    (s.options.take flag next).map fun (o, taken) => ({ s with options := o }, taken)

/-- Reads tokens in order; the first mistake or request for help ends it. -/
def Sieve.run (s : Sieve) (taken : Bool) : List Token → Except Stop Sieve
  | [] => .ok s
  | t :: rest =>
    if taken then s.run false rest
    else
      match s.step rest.head? t with
      | .ok (s, taken) => s.run taken rest
      | .error e => .error e

/-! The second reading. -/

/-- The operands so far, and whether something is left that has no place. -/
structure Picking where
  options : Options
  operands : Option (String × List String) := none
  /-- Whether the operands are complete because an option came after them. -/
  isClosed : Bool := false
  hasStray : Bool := false
deriving DecidableEq, Repr

/-- An argument in the place of an operand. -/
def Picking.add (p : Picking) (arg : String) : Picking :=
  if p.isClosed then { p with hasStray := true }
  else
    match p.operands with
    | none => { p with operands := some (arg, []) }
    | some (rom, rest) => { p with operands := some (rom, rest ++ [arg]) }

/-- What is no operand closes the operands, if there are any. -/
def Picking.close (p : Picking) : Picking := { p with isClosed := p.operands.isSome }

/-- A mark right before or behind the first operand leaves no trace, and a later one is an
operand for now. -/
def Picking.addMark (p : Picking) : Picking :=
  match p.operands, p.isClosed with
  | none, _ => p
  | some (_, []), false => p
  | _, _ => p.add markText

/-- One token of the second reading. -/
def Picking.step (p : Picking) (next : Option Token) : Token → Except Stop (Picking × Bool)
  | .operand text => .ok (p.add text, false)
  | .mark => .ok (p.addMark, false)
  | .unknown _ => .ok ({ p.close with hasStray := true }, false)
  | .ambiguous => .error .misuse
  | .option flag (some given) =>
    (p.options.assign flag given).map fun o => ({ p.close with options := o }, false)
  | .option flag none =>
    (p.options.take flag next).map fun (o, taken) => ({ p.close with options := o }, taken)

def Picking.run (p : Picking) (taken : Bool) : List Token → Except Stop Picking
  | [] => .ok p
  | t :: rest =>
    if taken then p.run false rest
    else
      match p.step rest.head? t with
      | .ok (p, taken) => p.run taken rest
      | .error e => .error e

/-- The first mark among the overrides is taken out. -/
def Picking.options? (p : Picking) : Except Stop Options :=
  match p.operands, p.hasStray with
  | some (rom, rest), false => .ok { p.options with rom := rom, overrides := rest.erase markText }
  | _, _ => .error .misuse

def parse (argv : List String) : Except Stop Options := do
  let s ← Sieve.run ⟨{ rom := "" }, [], false⟩ false (← clearTokens argv)
  let p ← Picking.run ⟨s.options, none, false, false⟩ false (← clearTokens s.left)
  p.options?

end Chip8.CommandLine
