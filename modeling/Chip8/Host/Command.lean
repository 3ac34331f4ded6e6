import Chip8.Host.Headless
import Chip8.Host.Window

/-! The whole command, with or without a window. -/
namespace Chip8.Host

/-- All that a command leaves behind. -/
structure Outcome where
  logger : Log.Logger
  /-- What was logged before the first turn of a window, or at all. -/
  log : List Log.Entry
  ending : Ending
  saved : Option Saved
  playback : Option Playback

def command (resolvers : Settings.Resolvers) (painter : Painter) (files : Files)
    (argv : List String) (events : List (List Window.Event)) : Outcome :=
  let l := launch resolvers files argv
  match l.result with
  | .error ending => ⟨l.logger, l.log, ending, none, none⟩
  | .ok (o, s) =>
    if o.headless then
      let r := runHeadless painter files o s
      ⟨l.logger, l.log ++ r.log, r.ending, r.saved, none⟩
    else
      let r := runWindow o s events
      ⟨l.logger, l.log ++ r.log, r.ending, none, r.playback⟩

end Chip8.Host
