import Chip8.Host.Command
import Chip8.Picture.Encoding
import Chip8.Settings.Resolvers

/-! The program on the machine's own files and streams. -/
namespace Chip8.Host

def usage : String :=
  "usage: chip8 [-h] [--config CONFIG] [--headless] [--steps STEPS] [--screenshot SCREENSHOT]\n" ++
  "             [--scale SCALE] [--color-scheme COLOR_SCHEME]\n" ++
  "             rom [overrides ...]\n"

/-- The cause of an error of the system. -/
def fileError : IO.Error → FileError
  | .inappropriateType _ code _ => if code = 21 then .isFolder else .notFolder
  | .invalidArgument _ code _ => if code = 36 then .nameTooLong else .broken
  | _ => .missing

def readFile (path : String) : IO (String × Except FileError (Array UInt8)) := do
  try
    let bytes ← IO.FS.readBinFile path
    return (path, .ok bytes.data)
  catch e => return (path, .error (fileError e))

/-- The files that a command line names. -/
def namedFiles (argv : List String) : List String :=
  match CommandLine.parse argv with
  | .ok o =>
    match o.config with
    | .value path => [o.rom, Files.normal path]
    | _ => [o.rom]
  | .error _ => []

/-- Files as they have been read. -/
def filesRead (found : List (String × Except FileError (Array UInt8))) : Files :=
  ⟨fun path => (found.lookup path).getD (.error .missing), fun _ => .ok ()⟩

/-- A variable of the environment: the name ends at the first equals sign. -/
def variableOf (entry : String) : String × String :=
  let cs := entry.toList
  (String.ofList (cs.takeWhile (· != '=')), String.ofList ((cs.dropWhile (· != '=')).drop 1))

/-- The variables that the command was started with. -/
def environment : IO Settings.Environment := do
  let (_, content) ← readFile "/proc/self/environ"
  let text := (content.toOption.bind fun bytes => String.fromUTF8? ⟨bytes⟩).getD ""
  let entries := (text.splitOn "\x00").map variableOf
  return fun name => entries.lookup name

def Failure.text : Failure → String
  | commandLine _ => usage
  | noSettingsFile => "a settings file is needed\n"
  | settingsFile _ => "the settings file cannot be read\n"
  | settingsEncoding => "the settings file is no text\n"
  | settings (.rejected r) => r.message ++ "\n"
  | settings _ => "the settings cannot be read\n"
  | seedRange => "the seed is out of range\n"
  | programFile _ => "the program cannot be read\n"
  | noSteps => "a number of steps is needed\n"
  | countRange => "too many instructions\n"
  | picture e => e.message?.getD "the picture cannot be drawn" ++ "\n"
  | pictureFile _ => "the picture cannot be saved\n"

def report (ending : Ending) : IO UInt32 :=
  match ending with
  | .exit code => return code.toUInt32
  | .broken (.commandLine s) => do
    if s = .help then IO.print usage else IO.eprint usage
    return s.exitCode.toUInt32
  | .broken f => do
    IO.eprint f.text
    return 1

def run (argv : List String) : IO UInt32 := do
  let files := filesRead (← (namedFiles argv).mapM readFile)
  let l := launch (.standard (← environment)) files argv
  IO.print (l.logger.writeAll l.log)
  match l.result with
  | .error ending => report ending
  | .ok (o, s) =>
    if !o.headless then
      IO.eprint "no window is available, use --headless\n"
      return 1
    let r := runHeadless .unlimited files o s
    if let some saved := r.saved then
      match saved.format.encode? with
      | some encode => IO.FS.writeBinFile saved.path ⟨(encode saved.image).toArray⟩
      | none =>
        IO.eprint s!"{saved.format.name} files cannot be written\n"
        return 1
    IO.print (l.logger.writeAll r.log)
    report r.ending

end Chip8.Host

def main (argv : List String) : IO UInt32 := Chip8.Host.run argv
