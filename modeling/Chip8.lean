import Chip8.CallStack
import Chip8.CommandLine
import Chip8.Dialect
import Chip8.Display
import Chip8.Fault
import Chip8.Host.Command
import Chip8.Host.Files
import Chip8.Host.Headless
import Chip8.Host.Launch
import Chip8.Host.Window
import Chip8.Instruction
import Chip8.Keypad
import Chip8.Keystream
import Chip8.Log
import Chip8.Machine.Basic
import Chip8.Machine.Execute
import Chip8.Machine.Incident
import Chip8.Main
import Chip8.Picture.Encoding
import Chip8.Picture.Format
import Chip8.Picture.Frames
import Chip8.Picture.Image
import Chip8.Picture.Mosaic
import Chip8.Picture.Scheme
import Chip8.Picture.Video
import Chip8.Program
import Chip8.Progress
import Chip8.Proofs.AddressWidth
import Chip8.Proofs.Assembly
import Chip8.Proofs.Chunking
import Chip8.Proofs.Cycles
import Chip8.Proofs.Decoding
import Chip8.Proofs.Diagnosis
import Chip8.Proofs.Dialects
import Chip8.Proofs.Frame
import Chip8.Proofs.Headless
import Chip8.Proofs.Loading
import Chip8.Proofs.Periphery
import Chip8.Proofs.RandomStream
import Chip8.Proofs.Reachable
import Chip8.Proofs.Stack
import Chip8.Proofs.Subroutine
import Chip8.Proofs.Timers
import Chip8.Proofs.Timesteps
import Chip8.Proofs.Trace
import Chip8.Session
import Chip8.Settings.Basic
import Chip8.Settings.Draft
import Chip8.Settings.Layer
import Chip8.Settings.Loose
import Chip8.Settings.Path
import Chip8.Settings.Resolution
import Chip8.Settings.Resolvers
import Chip8.Settings.Template
import Chip8.Text.Binary64
import Chip8.Text.Integer
import Chip8.Text.Lines
import Chip8.Text.Number
import Chip8.Text.Printable
import Chip8.Text.Quoted
import Chip8.Text.Upper
import Chip8.Word
import Chip8.Yaml.Cursor
import Chip8.Yaml.Datum
import Chip8.Yaml.Document
import Chip8.Yaml.Layout
import Chip8.Yaml.Lexeme
import Chip8.Yaml.Node
import Chip8.Yaml.Scalar
import Chip8.Yaml.Token
import Chip8.Proofs.Sprite
import Chip8.Proofs.WindowLoop
import Chip8.Proofs.LogLevels
import Chip8.Proofs.Validation
import Chip8.Proofs.Redraw
import Chip8.Proofs.Forms
import Chip8.Proofs.Dispatch
import Chip8.Proofs.EarlyExit
import Chip8.Proofs.ProgramCounter
import Chip8.Proofs.RegisterDump
import Chip8.Proofs.Arithmetic
import Chip8.Proofs.Footprint
import Chip8.Proofs.KeyWait
import Chip8.Proofs.Rollout
import Chip8.Proofs.Rendering
import Chip8.Proofs.Tiling
import Chip8.Proofs.HeldKeys
import Chip8.Proofs.LogLines
import Chip8.Proofs.MeterTotals
import Chip8.Proofs.Numeral
import Chip8.Proofs.Entries
import Chip8.Proofs.Layers
import Chip8.Proofs.Overrides
import Chip8.Proofs.Precedence
