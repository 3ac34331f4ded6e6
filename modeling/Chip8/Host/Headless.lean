import Chip8.Host.Launch
import Chip8.Picture.Format
import Chip8.Picture.Frames

/-! A session without a window: a number of instructions is run, and what an unknown opcode cuts
short is resumed behind it. -/
namespace Chip8

/-- The end of a headless run. -/
structure Headless where
  machine : Machine
  halted : Bool
  log : List Log.Entry
deriving DecidableEq

namespace Session

/-- What a run takes off the budget: an instruction that is stepped over counts as run. -/
def spent (r : Run) : Nat := r.executed + if r.fault.isSome then 1 else 0

theorem spent_le_advance (perTick : Nat) (limit : Int) (r : Run) :
    spent r ≤ spent (r.advance perTick limit) := by
  unfold Run.advance
  split
  · rename_i running
    simp only [spent, running.1, Option.isSome_none, Bool.false_eq_true, ↓reduceIte]
    omega
  · exact Nat.le_refl _

theorem spent_le_advanceTimes (perTick : Nat) (limit : Int) (n : Nat) (r : Run) :
    spent r ≤ spent (r.advanceTimes perTick limit n) := by
  induction n generalizing r with
  | zero => exact Nat.le_refl _
  | succ n ih => exact Nat.le_trans (spent_le_advance perTick limit r) (ih _)

/-- A run under a positive limit completes its first instruction or fails in it. -/
theorem spent_pos (perTick : Nat) {length : Nat} {limit : Int} (m : Machine)
    (hn : 0 < length) (hl : 0 < limit) : 0 < spent (m.run perTick length limit) := by
  obtain ⟨n, rfl⟩ : ∃ n, length = n + 1 := ⟨length - 1, by omega⟩
  have first : 0 < spent ((Run.start m).advance perTick limit) := by
    cases ran : m.cycle perTick with
    | ok m' =>
      rw [Run.start, Run.advance_of_ok ran hl]
      exact Nat.one_pos
    | error fault =>
      rw [Run.start, Run.advance_of_error ran hl]
      exact Nat.one_pos
  exact Nat.lt_of_lt_of_le first (spent_le_advanceTimes perTick limit n _)

theorem spent_pos_of_run? {s : Session} {length : Nat} {limit : Int} {m : Machine} {r : Run}
    (ran : s.run? length limit m = some r) (hn : 0 < length) (hl : 0 < limit) : 0 < spent r := by
  obtain ⟨-, rfl⟩ := run?_eq_some.mp ran
  exact spent_pos s.perTick m hn hl

/-- Runs of one length, each under the budget that is left. Every run spends at least one
instruction, so the budget runs out. -/
def resume (s : Session) (length : Nat) (budget : Int) (fits : budget ≤ length) (m : Machine) :
    Option Headless :=
  if exhausted : budget ≤ 0 then some ⟨m, false, []⟩
  else
    match ran : s.run? length budget m with
    | none => none
    | some r =>
      let v := s.judge r.machine r.fault
      if v.halted then some ⟨v.machine, true, v.log⟩
      else
        let note : List Log.Entry :=
          if r.fault.isSome then
            [⟨.debug, s!"Resuming at 0x{Text.hex 3 v.machine.pc.toNat}"⟩]
          else []
        (s.resume length (budget - spent r) (by omega) v.machine).map fun rest =>
          { rest with log := v.log ++ note ++ rest.log }
termination_by budget.toNat
decreasing_by
  have spends : 0 < spent r := spent_pos_of_run? ran (by omega) (by omega)
  omega

/-- `steps` instructions; none for a negative number. Numbers that no run can count are refused. -/
def headless (s : Session) (steps : Int) (m : Machine) : Option Headless :=
  s.resume steps.toNat steps (Int.self_le_toNat steps) m

end Session

namespace Host

/-- A picture on its way to a file. -/
structure Saved where
  path : String
  format : Format
  image : Image

/-- A picture goes to a file if it can be held, the file can be opened and its format takes it. -/
def save (painter : Painter) (files : Files) (path : String) (image : Image) :
    Except Failure Saved := do
  (painter.hold image).mapError .picture
  let support ← (Format.ofPath path).mapError .picture
  (files.write path).mapError .pictureFile
  let format ← support.writable.mapError .picture
  (painter.encode format image).mapError .picture
  return ⟨path, format, image⟩

/-- The picture of a display in a file. -/
def screenshot (painter : Painter) (files : Files) (path : String) (scale : Int) (scheme : String)
    (f : Frames) : Except Failure Saved := do
  save painter files path (← (f.screenshot scale scheme).mapError .picture)

/-- What a headless command adds to the log, how it ends, and what it saves. -/
structure HeadlessReport where
  log : List Log.Entry
  ending : Ending
  saved : Option Saved

/-- What is done with the last display: a path that is not empty gets a picture of it. -/
def finish (painter : Painter) (files : Files) (path : CommandLine.Argument String) (s : Session)
    (d : Display) : List Log.Entry × Except Failure (Option Saved) :=
  match path with
  | .value path =>
    if path.isEmpty then ([], .ok none)
    else
      match screenshot painter files path s.settings.scale s.settings.colorScheme (.single d) with
      | .error f => ([], .error f)
      | .ok saved => ([⟨.info, s!"Screenshot saved: {path}"⟩], .ok (some saved))
  | _ => ([], .ok none)

/-- A number of steps from power-on, and the picture at their end. -/
def runSteps (painter : Painter) (files : Files) (screenshot : CommandLine.Argument String)
    (s : Session) (steps : Int) (m : Machine) : HeadlessReport :=
  match s.headless steps m with
  | none => ⟨[], .broken .countRange, none⟩
  | some h =>
    if h.halted then ⟨h.log, .exit 1, none⟩
    else
      let log := h.log ++ [⟨.info, s!"Finished at PC=0x{Text.hex 3 h.machine.pc.toNat}"⟩]
      match finish painter files screenshot s h.machine.display with
      | (more, .error f) => ⟨log ++ more, .broken f, none⟩
      | (more, .ok saved) => ⟨log ++ more, .exit 0, saved⟩

def runHeadless (painter : Painter) (files : Files) (o : CommandLine.Options) (s : Session) :
    HeadlessReport :=
  match s.boot?, o.steps with
  | none, _ => ⟨[], .broken .seedRange, none⟩
  | some m, .value steps => runSteps painter files o.screenshot s steps m
  | some _, _ => ⟨[], .broken .noSteps, none⟩

end Host

end Chip8
