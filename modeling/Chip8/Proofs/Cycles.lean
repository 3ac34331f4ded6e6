import Chip8.Proofs.Frame

/-! A run as the plain loop that ends at its first fault. `Machine.run` keeps a fixed length and
lets the cycles behind a fault or beyond the limit do nothing; `run_eq_cycles` shows that it is
this loop over the smaller of the two numbers. The loop splits at every point, and a loop that a
fault has ended stays there when it is entered again. -/
namespace Chip8

namespace Run

/-- The run with `k` instructions counted before it. -/
def after (k : Nat) (r : Run) : Run := { r with executed := k + r.executed }

@[simp] theorem after_machine (k : Nat) (r : Run) : (r.after k).machine = r.machine := rfl

@[simp] theorem after_fault (k : Nat) (r : Run) : (r.after k).fault = r.fault := rfl

@[simp] theorem after_executed (k : Nat) (r : Run) : (r.after k).executed = k + r.executed := rfl

@[simp] theorem after_zero (r : Run) : r.after 0 = r := by
  cases r
  simp [after]

@[simp] theorem after_after (j k : Nat) (r : Run) : (r.after k).after j = r.after (j + k) := by
  simp [after, Nat.add_assoc]

/-- A fault or the limit stops a run for good. -/
theorem advanceTimes_stopped {perTick : Nat} {limit : Int} {r : Run}
    (h : ¬(r.fault = none ∧ (r.executed : Int) < limit)) (n : Nat) :
    r.advanceTimes perTick limit n = r := by
  induction n with
  | zero => rfl
  | succ n ih => rw [advanceTimes, advance, if_neg h, ih]

end Run

namespace Machine

/-- At most `n` cycles; the first fault ends them. -/
def cycles (perTick : Nat) : Nat → Machine → Run
  | 0, m => .start m
  | n + 1, m =>
    match m.cycle perTick with
    | .ok m' => (cycles perTick n m').after 1
    | .error fault => ⟨m, some fault, 0⟩

variable {perTick : Nat}

theorem cycles_of_ok {m m' : Machine} (h : m.cycle perTick = .ok m') (n : Nat) :
    m.cycles perTick (n + 1) = (m'.cycles perTick n).after 1 := by
  rw [cycles, h]

theorem cycles_of_error {m : Machine} {fault : Fault} (h : m.cycle perTick = .error fault)
    {n : Nat} (hn : 0 < n) : m.cycles perTick n = ⟨m, some fault, 0⟩ := by
  obtain ⟨k, rfl⟩ : ∃ k, n = k + 1 := ⟨n - 1, by omega⟩
  rw [cycles, h]

theorem advanceTimes_eq_cycles (limit : Int) (n : Nat) (m : Machine) (k : Nat) :
    Run.advanceTimes perTick limit n ⟨m, none, k⟩ =
      (m.cycles perTick (min n (limit - k).toNat)).after k := by
  induction n generalizing m k with
  | zero => simp [Run.advanceTimes, cycles, Run.start, Run.after]
  | succ n ih =>
    by_cases below : (k : Int) < limit
    · obtain ⟨l, hl⟩ : ∃ l, (limit - k).toNat = l + 1 := ⟨(limit - k).toNat - 1, by omega⟩
      rw [hl, Nat.add_min_add_right]
      cases h : m.cycle perTick with
      | ok m' =>
        have left : (limit - (k + 1)).toNat = l := by omega
        simp [Run.advanceTimes, Run.advance_of_ok h below, ih, left, cycles_of_ok h]
      | error fault =>
        have stopped : Run.advanceTimes perTick limit n ⟨m, some fault, k⟩ = ⟨m, some fault, k⟩ :=
          Run.advanceTimes_stopped (by simp) n
        simp [Run.advanceTimes, Run.advance_of_error h below, stopped,
          cycles_of_error h (Nat.succ_pos _), Run.after]
    · have spent : (limit - k).toNat = 0 := by omega
      rw [Run.advanceTimes_stopped (by simpa using below)]
      simp [spent, cycles, Run.start, Run.after]

/-- The run does as many cycles as its length and its limit both allow. -/
theorem run_eq_cycles (length : Nat) (limit : Int) (m : Machine) :
    m.run perTick length limit = m.cycles perTick (min length limit.toNat) := by
  rw [run, Run.start, advanceTimes_eq_cycles]
  simp

/-- A run of `n` instructions has the limit `n`, which does not shorten it. -/
theorem run_self (n : Nat) (m : Machine) : m.run perTick n n = m.cycles perTick n := by
  rw [run_eq_cycles, Int.toNat_natCast, Nat.min_self]

/-- A limit that the length does not cut is the number of cycles. -/
theorem run_of_limit_le {length : Nat} {limit : Int} (h : limit ≤ length) (m : Machine) :
    m.run perTick length limit = m.cycles perTick limit.toNat := by
  rw [run_eq_cycles, Nat.min_eq_right (by omega)]

/-- After a fault the machine stands at the instruction that failed. -/
theorem cycle_of_fault {n : Nat} {m : Machine} {fault : Fault}
    (h : (m.cycles perTick n).fault = some fault) :
    (m.cycles perTick n).machine.cycle perTick = .error fault := by
  induction n generalizing m with
  | zero => simp [cycles, Run.start] at h
  | succ n ih =>
    cases hc : m.cycle perTick with
    | ok m' =>
      rw [cycles_of_ok hc] at h ⊢
      exact ih h
    | error f =>
      rw [cycles_of_error hc n.succ_pos] at h ⊢
      exact hc.trans (congrArg _ (Option.some.inj h))

/-- Without a fault the loop goes on from where it stands; a fault ends the longer loop, too. -/
theorem cycles_add (n k : Nat) (m : Machine) :
    m.cycles perTick (n + k) =
      match (m.cycles perTick n).fault with
      | none =>
        ((m.cycles perTick n).machine.cycles perTick k).after (m.cycles perTick n).executed
      | some _ => m.cycles perTick n := by
  induction n generalizing m with
  | zero => simp [cycles, Run.start]
  | succ n ih =>
    rw [Nat.succ_add_eq_add_succ, Nat.add_succ]
    cases hc : m.cycle perTick with
    | ok m' =>
      rw [cycles_of_ok hc, cycles_of_ok hc, ih]
      cases hf : (m'.cycles perTick n).fault <;> simp [hf]
    | error f => rw [cycles_of_error hc (Nat.succ_pos _), cycles_of_error hc (Nat.succ_pos _)]

/-- A cycle that fails changes nothing: the machine is the one that the completed cycles lead to. -/
theorem cycles_machine (n : Nat) (m : Machine) :
    (m.cycles perTick n).machine = (m.cycles perTick (m.cycles perTick n).executed).machine := by
  induction n generalizing m with
  | zero => rfl
  | succ n ih =>
    cases hc : m.cycle perTick with
    | ok m' =>
      rw [cycles_of_ok hc, Run.after_machine, Run.after_executed, Nat.add_comm 1, cycles_of_ok hc]
      exact ih m'
    | error f =>
      rw [cycles_of_error hc n.succ_pos]
      rfl

/-- The cycles keep the keys and count the instructions that complete. -/
theorem cycles_frame (n : Nat) (m : Machine) :
    (m.cycles perTick n).machine.keypad = m.keypad ∧
      (m.cycles perTick n).machine.completed =
        m.completed + UInt32.ofNat (m.cycles perTick n).executed := by
  induction n generalizing m with
  | zero => simp [cycles, Run.start]
  | succ n ih =>
    cases hc : m.cycle perTick with
    | ok m' =>
      obtain ⟨keypad, completed⟩ := cycle_frame hc
      obtain ⟨ihk, ihc⟩ := ih m'
      rw [cycles_of_ok hc]
      refine ⟨ihk.trans keypad, ?_⟩
      simp only [Run.after_machine, Run.after_executed, ihc, completed, UInt32.ofNat_add,
        UInt32.add_assoc]
      rfl
    | error f =>
      rw [cycles_of_error hc n.succ_pos]
      simp

end Machine

end Chip8
