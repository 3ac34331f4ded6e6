import Chip8.Proofs.Periphery
import Chip8.Proofs.Timers

/-! Two ways to drive a machine. A run counts the instructions that complete, ticks by that count and
undoes the tick of an instruction that fails; timesteps know no count, tick before every instruction
and keep the tick. With one instruction per tick they stay in step until a fault, and then differ by
that one tick. -/
namespace Chip8

/-- The machine that timesteps leave where the run has ended: a fault has cost one more tick. -/
def Run.ticked (r : Run) : Machine := if r.fault = none then r.machine else r.machine.tick

namespace Machine

/-- The machine with another count of completed instructions. -/
def counted (m : Machine) (c : UInt32) : Machine := { m with completed := c }

/-- No instruction looks at the count. -/
theorem perform_counted (m : Machine) (c : UInt32) (i : Instruction) :
    (m.counted c).perform i = (m.perform i).counted c := by
  let p : Periphery := { m.periphery with completed := c }
  have moved : (m.counted c).perform i = (m.perform i).withPeriphery (p.after m i) :=
    perform_withPeriphery (p := p) (fun _ => rfl) fun _ => rfl
  have after : p.after m i = { (m.perform i).periphery with completed := c } := by
    rw [periphery_perform]
    cases i <;> rfl
  rw [moved, after]
  rfl

theorem execute_counted (m : Machine) (c : UInt32) (w : UInt16) :
    (m.counted c).execute w = (m.execute w).map (counted · c) := by
  have same (i : Option Instruction) : (m.counted c).obstacle? i = m.obstacle? i :=
    obstacle_congr rfl _
  cases ran : m.execute w with
  | ok m' =>
    obtain ⟨i, decoded, free, rfl⟩ := execute_eq_ok_iff.mp ran
    exact execute_eq_ok_iff.mpr ⟨i, decoded, (same _).trans free, perform_counted m c i⟩
  | error fault =>
    exact execute_eq_error_iff.mpr ((same _).trans (execute_eq_error_iff.mp ran))

theorem step_counted (m : Machine) (c : UInt32) :
    (m.counted c).step = m.step.map (counted · c) := by
  rw [step_eq, step_eq]
  exact m.skipOver.execute_counted c m.fetch

/-- At most `n` timesteps; the first fault ends them. -/
def timesteps : Nat → Machine → Run
  | 0, m => .start m
  | n + 1, m =>
    match m.timestep with
    | (m', none) => (timesteps n m').after 1
    | (m', some fault) => ⟨m', some fault, 0⟩

theorem timesteps_of_ok {m m' : Machine} (h : m.tick.step = .ok m') (n : Nat) :
    m.timesteps (n + 1) = (m'.timesteps n).after 1 := by
  rw [timesteps, timestep, step_ok_iff_proceed.mp h]

theorem timesteps_of_error {m : Machine} {fault : Fault} (h : m.tick.step = .error fault) (n : Nat) :
    m.timesteps (n + 1) = ⟨m.tick, some fault, 0⟩ := by
  rw [timesteps, timestep, step_error_iff_proceed.mp h]

/-- With one instruction per tick every cycle ticks. -/
theorem cycle_one (m : Machine) :
    m.cycle 1 = m.tick.step.map fun n => n.counted (n.completed + 1) := by
  have due : m.dueTick 1 = m.tick := by rw [dueTick, Nat.mod_one, if_pos rfl]
  rw [cycle_eq, due]
  rfl

/-- Timesteps from a machine with any count follow the cycles. -/
theorem timesteps_counted (n : Nat) (m : Machine) (c : UInt32) :
    (m.counted c).timesteps n =
      { m.cycles 1 n with machine := (m.cycles 1 n).ticked.counted c } := by
  induction n generalizing m with
  | zero => rfl
  | succ n ih =>
    have stepped : (m.counted c).tick.step = m.tick.step.map (counted · c) :=
      m.tick.step_counted c
    cases ran : m.tick.step with
    | ok m' =>
      have cycled : m.cycle 1 = .ok (m'.counted (m'.completed + 1)) := by
        rw [cycle_one, ran]
        rfl
      rw [ran] at stepped
      rw [timesteps_of_ok stepped, cycles_of_ok cycled]
      -- The next timestep does not see that the run has counted.
      have next := ih (m'.counted (m'.completed + 1))
      exact congrArg (Run.after 1) next
    | error fault =>
      have cycled : m.cycle 1 = .error fault := by
        rw [cycle_one, ran]
        rfl
      rw [ran] at stepped
      rw [timesteps_of_error stepped, cycles_of_error cycled n.succ_pos]
      rfl

/-- With one instruction per tick, a run and as many timesteps meet the same fault after as many
instructions. The run adds these to its count, and the timesteps leave it alone; otherwise they end in
the same machine, unless a fault has stopped them: then the timesteps have ticked once more. -/
theorem drivers_agree (s : Session) (rate : s.perTick = 1) (m : Machine) (n : Nat) :
    let r := m.run s.perTick n n
    let t := m.timesteps n
    t.fault = r.fault ∧ t.executed = r.executed ∧
    r.machine.completed = m.completed + UInt32.ofNat r.executed ∧
    t.machine.completed = m.completed ∧
    (r.fault = none → t.machine = { r.machine with completed := m.completed }) ∧
    (r.fault ≠ none → t.machine = { r.machine.tick with completed := m.completed }) := by
  intro r t
  have ran : r = m.cycles 1 n := by rw [← run_self, ← rate]
  have stepped : t = { r with machine := r.ticked.counted m.completed } := by
    rw [ran]
    exact timesteps_counted n m m.completed
  have counted : r.machine.completed = m.completed + UInt32.ofNat r.executed := by
    rw [ran]
    exact (cycles_frame n m).2
  rw [stepped]
  refine ⟨rfl, rfl, counted, rfl, fun quiet => ?_, fun failed => ?_⟩
  · rw [Run.ticked, if_pos quiet]
    rfl
  · rw [Run.ticked, if_neg failed]
    rfl

/-- At the end of memory one instruction completes and the next one fails. The run stands at the
failing instruction with a delay of 4; the timesteps have ticked it down to 3. -/
theorem drivers_agree_at_end :
    let s : Session := ⟨⟨#[], by decide⟩, { instructionFrequency := 60 }⟩
    let r := (atEnd 4094 7 5 0).run s.perTick 3 (3 : Nat)
    let t := (atEnd 4094 7 5 0).timesteps 3
    s.perTick = 1 ∧ r = ⟨atEnd 4096 8 4 0, some .unknownOpcode, 1⟩ ∧
    t.machine = atEnd 4096 7 3 0 ∧ t.fault = some .unknownOpcode ∧ t.executed = 1 := by
  intro s
  have rate : s.perTick = 1 := rfl
  have ran : (atEnd 4094 7 5 0).run s.perTick 3 (3 : Nat) =
      ⟨atEnd 4096 8 4 0, some .unknownOpcode, 1⟩ := by
    have first : (atEnd 4094 7 5 0).cycle 1 = .ok (atEnd 4096 8 4 0) :=
      cycle_atEnd (.inr rfl) 1 7 5 0
    have second : (atEnd 4096 8 4 0).cycle 1 = .error .unknownOpcode :=
      cycle_of_unknown (decode_behindEnd 8 4 0) 1
    rw [rate, run_self, cycles_of_ok first, cycles_of_error second (by decide)]
    rfl
  obtain ⟨fault, executed, _, _, _, differ⟩ := drivers_agree s rate (atEnd 4094 7 5 0) 3
  rw [ran] at fault executed differ
  exact ⟨rate, ran, differ (Option.some_ne_none _), fault, executed⟩

end Machine

end Chip8
