import Chip8.Log
import Chip8.Machine.Incident
import Chip8.Program
import Chip8.Settings.Basic

/-! A program run by a host: timer ticks are spread over the instructions, instructions are
grouped into runs and frames, and a policy decides what a fault does. -/
namespace Chip8

/-- Where a run stands: the machine, the fault that stopped it and the instructions done. -/
structure Run where
  machine : Machine
  fault : Option Fault
  executed : Nat
deriving DecidableEq

/-- A fault after the policy has been applied to it. -/
structure Verdict where
  machine : Machine
  halted : Bool
  log : List Log.Entry
deriving DecidableEq

/-- The displays of several frames, in order. -/
structure Rollout where
  machine : Machine
  displays : List Display
  log : List Log.Entry
deriving DecidableEq

namespace Machine

/-- One instruction, after a tick when the completed instructions are a multiple of `perTick`.
A failing instruction undoes the tick. -/
def proceedTimed (perTick : Nat) (m : Machine) : Machine × Option Fault :=
  let ticked := if m.completed.toNat % perTick = 0 then m.tick else m
  let (m', fault) := ticked.proceed
  (if fault = none then { m' with completed := m'.completed + 1 } else m, fault)

/-- `proceedTimed` for those who ask for the machine only when there is no fault. -/
def cycle (perTick : Nat) (m : Machine) : Except Fault Machine := outcome (m.proceedTimed perTick)

theorem cycle_ok_iff_proceedTimed {perTick : Nat} {m m' : Machine} :
    m.cycle perTick = .ok m' ↔ m.proceedTimed perTick = (m', none) :=
  outcome_eq_ok

theorem cycle_error_iff_proceedTimed {perTick : Nat} {m : Machine} {fault : Fault} :
    m.cycle perTick = .error fault ↔ m.proceedTimed perTick = (m, some fault) :=
  outcome_eq_error

end Machine

namespace Run

def start (m : Machine) : Run := ⟨m, none, 0⟩

/-- One more cycle, unless a fault has stopped the run or the limit is reached. -/
def advance (perTick : Nat) (limit : Int) (r : Run) : Run :=
  if r.fault = none ∧ (r.executed : Int) < limit then
    let (m, fault) := r.machine.proceedTimed perTick
    ⟨m, fault, r.executed + if fault = none then 1 else 0⟩
  else r

theorem advance_of_ok {perTick : Nat} {limit : Int} {m m' : Machine} {k : Nat}
    (h : m.cycle perTick = .ok m') (below : (k : Int) < limit) :
    advance perTick limit ⟨m, none, k⟩ = ⟨m', none, k + 1⟩ := by
  simp [advance, below, Machine.cycle_ok_iff_proceedTimed.mp h]

theorem advance_of_error {perTick : Nat} {limit : Int} {m : Machine} {fault : Fault} {k : Nat}
    (h : m.cycle perTick = .error fault) (below : (k : Int) < limit) :
    advance perTick limit ⟨m, none, k⟩ = ⟨m, some fault, k⟩ := by
  simp [advance, below, Machine.cycle_error_iff_proceedTimed.mp h]

def advanceTimes (perTick : Nat) (limit : Int) : Nat → Run → Run
  | 0, r => r
  | n + 1, r => advanceTimes perTick limit n (r.advance perTick limit)

end Run

namespace Machine

/-- `length` cycles of which at most `limit` do anything. -/
def run (perTick length : Nat) (limit : Int) (m : Machine) : Run :=
  (Run.start m).advanceTimes perTick limit length

/-- A run for a host. It counts in 32 bits, and a limit beyond them is refused. -/
def run? (perTick length : Nat) (limit : Int) (m : Machine) : Option Run :=
  if fitsInt32 limit then some (m.run perTick length limit) else none

end Machine

structure Session where
  program : Program
  settings : Settings
deriving DecidableEq

namespace Session

/-- A session on bytes from outside, as long as they make a program. -/
def ofBytes (settings : Settings) (bytes : Array UInt8) : Except Program.Error Session :=
  (Program.ofBytes bytes).map (⟨·, settings⟩)

/-- Instructions between two timer ticks. -/
def perTick (s : Session) : Nat := s.settings.perTick?.getD 1

/-- Instructions in a frame. -/
def perFrame (s : Session) : Nat := s.settings.perFrame?.getD 1

/-- Whether a run can count to the instructions between two ticks. -/
def countsTicks (s : Session) : Bool := fitsInt32 s.perTick

/-- Whether a run can count to the instructions of a frame, too. -/
def countsFrames (s : Session) : Bool := fitsInt32 s.perFrame && s.countsTicks

/-- Instructions between two ticks, as far as a run can count them. -/
def ticks? (s : Session) : Option Nat := if s.countsTicks then some s.perTick else none

def run? (s : Session) (length : Nat) (limit : Int) (m : Machine) : Option Run :=
  s.ticks?.bind fun perTick => m.run? perTick length limit

theorem run?_eq_some {s : Session} {length : Nat} {limit : Int} {m : Machine} {r : Run} :
    s.run? length limit m = some r ↔
      (s.countsTicks = true ∧ fitsInt32 limit = true) ∧ m.run s.perTick length limit = r := by
  rw [run?, ticks?]
  by_cases counts : s.countsTicks = true
  · rw [if_pos counts]
    simp [Machine.run?, counts]
  · rw [if_neg counts]
    simp [counts]

/-- Power-on with the program loaded. -/
def powerOn (s : Session) (key : StreamKey) : Machine :=
  (Machine.powerOn key s.settings.dialect).load s.program

/-- Power-on with the key that the seed of the settings gives. -/
def boot? (s : Session) : Option Machine := (StreamKey.ofSeed? s.settings.seed).map s.powerOn

/-- The machine back at power-on, keeping its random stream. -/
def restart (s : Session) (m : Machine) : Machine := m.reset.load s.program

/-- The held keys are set, then one frame is run. -/
def frame (perTick perFrame : Nat) (mask : UInt16) (m : Machine) : Run :=
  (m.withKeys mask).run perTick perFrame perFrame

/-- An unknown opcode is stepped over when the settings say so; every other fault halts. -/
def judge (s : Session) (m : Machine) : Option Fault → Verdict
  | none => ⟨m, false, []⟩
  | some fault =>
    let report := (m.incident fault).report
    if fault = .unknownOpcode ∧ s.settings.skipsUnknown = true then
      ⟨m.skipOver, false, [⟨.warning, report⟩]⟩
    else ⟨m, true, [⟨.error, report⟩]⟩

/-- Up to `frames` frames under constant keys; a halt ends them. -/
def rollout (s : Session) (perTick perFrame : Nat) (mask : UInt16) : Nat → Machine → Rollout
  | 0, m => ⟨m, [], []⟩
  | n + 1, m =>
    let r := frame perTick perFrame mask m
    let v := s.judge r.machine r.fault
    if v.halted then ⟨v.machine, [r.machine.display], v.log⟩
    else
      let rest := s.rollout perTick perFrame mask n v.machine
      ⟨rest.machine, r.machine.display :: rest.displays, v.log ++ rest.log⟩

end Session

end Chip8
