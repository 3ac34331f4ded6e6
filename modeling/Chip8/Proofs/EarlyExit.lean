import Chip8.Proofs.Cycles

/-! A run against the loop that leaves at its first fault. `Run.Ends` says how such a loop may end
within a number of cycles; a run ends in that way and in no other, with the smaller of its length
and its limit for the number. -/
namespace Chip8

namespace Machine

/-- A number of completed cycles from one machine to another. Each is the tick that is due, the
instruction at the program counter and its count. -/
inductive Through (perTick : Nat) : Nat → Machine → Machine → Prop
  | start (m : Machine) : Through perTick 0 m m
  | next {k : Nat} {m n m' : Machine} : (m.dueTick perTick).step = .ok n →
      Through perTick k { n with completed := n.completed + 1 } m' → Through perTick (k + 1) m m'

variable {perTick : Nat}

/-- The due tick has no part in whether an instruction fails. -/
theorem cycle_error_iff_step {m : Machine} {fault : Fault} :
    m.cycle perTick = .error fault ↔ m.step = .error fault :=
  cycle_eq_error_iff.trans step_eq_error_iff.symm

/-- The loop goes on from where the completed cycles lead. -/
theorem Through.cycles_add {k : Nat} {m m' : Machine} (h : m.Through perTick k m') (j : Nat) :
    m.cycles perTick (k + j) = (m'.cycles perTick j).after k := by
  induction h with
  | start m => rw [Nat.zero_add, Run.after_zero]
  | @next k m n m' ran _ ih =>
    have completes : m.cycle perTick = .ok { n with completed := n.completed + 1 } := by
      rw [cycle_eq, ran]
      rfl
    rw [Nat.add_right_comm, cycles_of_ok completes, ih, Run.after_after, Nat.add_comm 1]

end Machine

namespace Run

/-- How a loop of at most `budget` cycles ends: with all of them complete, or before an instruction
that fails. -/
inductive Ends (perTick budget : Nat) (m : Machine) : Run → Prop
  | complete {m' : Machine} : m.Through perTick budget m' → Ends perTick budget m ⟨m', none, budget⟩
  | failed {k : Nat} {m' : Machine} {fault : Fault} : m.Through perTick k m' → k < budget →
      m'.step = .error fault → Ends perTick budget m ⟨m', some fault, k⟩

namespace Ends

variable {perTick budget : Nat} {m n : Machine} {r : Run}

/-- One more cycle in front. -/
theorem next (ran : (m.dueTick perTick).step = .ok n)
    (rest : Ends perTick budget { n with completed := n.completed + 1 } r) :
    Ends perTick (budget + 1) m (r.after 1) := by
  cases rest with
  | complete through =>
    rw [after, Nat.add_comm 1]
    exact .complete (.next ran through)
  | failed through early fails =>
    rw [after, Nat.add_comm 1]
    exact .failed (.next ran through) (Nat.succ_lt_succ early) fails

theorem of_cycles (budget : Nat) (m : Machine) :
    Ends perTick budget m (m.cycles perTick budget) := by
  induction budget generalizing m with
  | zero => exact .complete (.start m)
  | succ budget ih =>
    cases ran : m.cycle perTick with
    | ok m' =>
      obtain ⟨n, stepped, rfl⟩ := Machine.cycle_cases ran
      rw [Machine.cycles_of_ok ran]
      exact (ih _).next stepped
    | error fault =>
      rw [Machine.cycles_of_error ran budget.succ_pos]
      exact .failed (.start m) budget.succ_pos (Machine.cycle_error_iff_step.mp ran)

/-- There is only one way in which the loop can end. -/
theorem cycles_eq (h : Ends perTick budget m r) : m.cycles perTick budget = r := by
  cases h with
  | complete through =>
    have all := through.cycles_add 0
    rwa [Nat.add_zero] at all
  | @failed k m' fault through early fails =>
    obtain ⟨j, rfl⟩ : ∃ j, budget = k + (j + 1) := ⟨budget - k - 1, by omega⟩
    have stopped : m'.cycles perTick (j + 1) = ⟨m', some fault, 0⟩ :=
      Machine.cycles_of_error (Machine.cycle_error_iff_step.mpr fails) j.succ_pos
    rw [through.cycles_add, stopped]
    rfl

/-- Only a fault keeps the loop from its last cycle. -/
theorem fault_eq_none_iff (h : Ends perTick budget m r) :
    r.fault = none ↔ r.executed = budget := by
  cases h with
  | complete => simp
  | failed _ early _ => exact iff_of_false nofun (Nat.ne_of_lt early)

end Ends

end Run

namespace Machine

theorem completed_cycles (perTick n : Nat) (m : Machine) :
    (m.cycles perTick n).machine.completed.toNat =
      (m.completed.toNat + (m.cycles perTick n).executed) % UInt32.size := by
  rw [(m.cycles_frame n).2, UInt32.toNat_add, UInt32.toNat_ofNat', Nat.add_mod_mod]

/-- Whatever its limit, a run ends as the loop does that stops at the first fault, and in no other
way. A limit below zero counts as zero, and no limit as the length; so the run is that of the smaller
number of instructions without a limit. -/
theorem run_ends_at_first_fault (perTick length : Nat) (limit : Option Int) (m : Machine) :
    let bound := limit.getD length
    let budget := min length (max bound 0).toNat
    let r := m.run perTick length bound
    (∀ r', r = r' ↔ Run.Ends perTick budget m r') ∧
    (r.fault = none ↔ r.executed = budget) ∧
    r.machine.completed.toNat = (m.completed.toNat + r.executed) % UInt32.size ∧
    r = m.run perTick budget budget := by
  intro bound budget r
  have same : r = m.cycles perTick budget := by
    have positive : bound.toNat = (max bound 0).toNat := by omega
    exact (run_eq_cycles length bound m).trans (by rw [positive])
  have ends : Run.Ends perTick budget m r := by
    rw [same]
    exact .of_cycles budget m
  refine ⟨fun r' => ⟨fun eq => eq ▸ ends, fun h => same.trans h.cycles_eq⟩, ends.fault_eq_none_iff,
    ?_, ?_⟩
  · rw [same]
    exact m.completed_cycles perTick budget
  · rw [same, run_self]

end Machine

end Chip8
