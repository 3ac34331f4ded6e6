import Chip8.CommandLine
import Chip8.Host.Files
import Chip8.Picture.Scheme
import Chip8.Session
import Chip8.Settings.Layer

/-! From a command line to a session that is ready to run. -/
namespace Chip8.Host

open CommandLine (Options)

/-- Why a command breaks off. -/
inductive Failure
  | commandLine (s : CommandLine.Stop)
  /-- The option for the settings file has no value. -/
  | noSettingsFile
  | settingsFile (e : FileError)
  /-- The bytes of the settings file are no text. -/
  | settingsEncoding
  | settings (e : Settings.LoadError)
  | programFile (e : FileError)
  /-- The seed does not fit the random stream. -/
  | seedRange
  /-- The option for the steps has no value. -/
  | noSteps
  /-- More instructions than a run can count. -/
  | countRange
  | picture (e : PictureError)
  | pictureFile (e : FileError)
deriving DecidableEq, Repr

/-- How a command ends. -/
inductive Ending
  | exit (code : Nat)
  | broken (f : Failure)
deriving DecidableEq, Repr

/-- The text of the settings file. Its path is shortened before it is followed. -/
def document (files : Files) (path : String) : Except Failure String := do
  let bytes ← (files.read (Files.normal path)).mapError .settingsFile
  match String.fromUTF8? ⟨bytes⟩ with
  | some text => return text
  | none => throw .settingsEncoding

def settingsOf (resolvers : Settings.Resolvers) (files : Files) (o : Options) :
    Except Failure Settings := do
  let text ←
    match o.config with
    | .value path => (document files path).map some
    | .empty => throw .noSettingsFile
    | .absent => pure none
  (Settings.load resolvers text o.allOverrides).mapError .settings

/-- Why a program cannot be loaded. -/
inductive LoadFailure
  | file (e : FileError)
  | program (e : Program.Error)

/-- The program of a path. -/
def programOf (files : Files) (path : String) : Except LoadFailure Program := do
  let bytes ← (files.read path).mapError .file
  (Program.ofBytes bytes).mapError .program

/-- The end of a command whose program cannot be loaded. A path that is none breaks it off, and
anything else is logged. -/
def LoadFailure.report (path : String) : LoadFailure → List Log.Entry × Ending
  | file .broken => ([], .broken (.programFile .broken))
  | file e => (line (e.message path), .exit 1)
  | program e => (line e.message, .exit 1)
where
  line (reason : String) : List Log.Entry := [⟨.error, s!"Cannot load ROM: {reason}"⟩]

/-- The logger before the settings are known. -/
def firstLogger : Log.Logger := ⟨Log.defaultName, "INFO", false⟩

/-- The start of a command: the logger with the level of the settings, what has been logged, and
either a session or the end. -/
structure Launch where
  logger : Log.Logger
  log : List Log.Entry
  result : Except Ending (Options × Session)

def prepared (resolvers : Settings.Resolvers) (files : Files) (argv : List String) :
    Except Failure (Options × Settings) := do
  let o ← (CommandLine.parse argv).mapError .commandLine
  return (o, ← settingsOf resolvers files o)

def launch (resolvers : Settings.Resolvers) (files : Files) (argv : List String) : Launch :=
  match prepared resolvers files argv with
  | .error f => ⟨firstLogger, [], .error (.broken f)⟩
  | .ok (o, settings) =>
    let logger := (firstLogger.setLevel settings.logLevel).1
    match programOf files o.rom with
    | .error e =>
      let (log, ending) := e.report o.rom
      ⟨logger, log, .error ending⟩
    | .ok program =>
      let size := program.bytes.size
      ⟨logger, [⟨.info, s!"Loaded: {o.rom} ({size} bytes) on cpu"⟩], .ok (o, ⟨program, settings⟩)⟩

end Chip8.Host
