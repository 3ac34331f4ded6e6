import Chip8.Proofs.Cycles

/-! Runs instruction by instruction. `trace` lists the machines at which the instructions of a run
start that complete, so a condition on these instructions is a condition on its members. Two runs
are compared by a relation between their machines: where it is a `Lockstep`, runs that start
related meet the same fault after as many instructions and end related. -/
namespace Chip8

/-- Two runs that stayed together: related machines, the same fault, as many instructions. -/
structure Run.Matches (R : Machine → Machine → Prop) (r s : Run) : Prop where
  machine : R r.machine s.machine
  fault : s.fault = r.fault
  executed : s.executed = r.executed

theorem Run.Matches.after {R : Machine → Machine → Prop} {r s : Run} (h : r.Matches R s)
    (k : Nat) : (r.after k).Matches R (s.after k) :=
  ⟨h.machine, h.fault, congrArg (k + ·) h.executed⟩

namespace Machine

variable {perTick : Nat}

/-- The machines at which the completed instructions of the next `n` cycles start, in order. -/
def trace (perTick : Nat) : Nat → Machine → List Machine
  | 0, _ => []
  | n + 1, m =>
    match m.cycle perTick with
    | .ok m' => m :: trace perTick n m'
    | .error _ => []

theorem trace_of_ok {m m' : Machine} (h : m.cycle perTick = .ok m') (n : Nat) :
    m.trace perTick (n + 1) = m :: m'.trace perTick n := by
  rw [trace, h]

/-- Two attempts that go together: both succeed in related machines, or both fail alike. -/
def Together (R : Machine → Machine → Prop) (first second : Except Fault Machine) : Prop :=
  (∃ m n, first = .ok m ∧ second = .ok n ∧ R m n) ∨
    ∃ fault, first = .error fault ∧ second = .error fault

/-- What keeps related machines related through a run. They fetch the same word from the same stack
and with the same count, and the relation survives ticks, counting and every instruction that is
`free` where it starts. -/
structure Lockstep (R : Machine → Machine → Prop) (free : Machine → Instruction → Prop) : Prop where
  fetch {m n : Machine} : R m n → n.fetch = m.fetch
  stack {m n : Machine} : R m n → n.stack = m.stack
  completed {m n : Machine} : R m n → n.completed = m.completed
  tick {m n : Machine} : R m n → R m.tick n.tick
  count {m n : Machine} : R m n →
    R { m with completed := m.completed + 1 } { n with completed := n.completed + 1 }
  free_tick {m : Machine} {i : Instruction} : free m i → free m.tick i
  perform {m n : Machine} (i : Instruction) : R m n → free m i →
    R (m.skipOver.perform i) (n.skipOver.perform i)

namespace Lockstep

variable {R : Machine → Machine → Prop} {free : Machine → Instruction → Prop} {m n : Machine}

theorem step (h : Lockstep R free) (related : R m n)
    (allowed : ∀ m', m.step = .ok m' → ∀ i, Instruction.decode? m.fetch = some i → free m i) :
    Together R m.step n.step := by
  have stack : n.stack = m.stack := h.stack related
  have word : n.fetch = m.fetch := h.fetch related
  cases ran : m.step with
  | ok m' =>
    obtain ⟨i, decoded, clear, rfl⟩ := step_eq_ok_iff.mp ran
    have decoded' : Instruction.decode? n.fetch = some i := by rw [word, decoded]
    have clear' : n.obstacle? (some i) = none := (obstacle_congr stack _).trans clear
    exact .inl ⟨_, _, rfl, step_eq_ok_iff.mpr ⟨i, decoded', clear', rfl⟩,
      h.perform i related (allowed _ ran i decoded)⟩
  | error fault =>
    have blocked := step_eq_error_iff.mp ran
    rw [← word, ← obstacle_congr stack] at blocked
    exact .inr ⟨fault, rfl, step_eq_error_iff.mpr blocked⟩

theorem dueTick (h : Lockstep R free) (related : R m n) :
    R (m.dueTick perTick) (n.dueTick perTick) := by
  unfold Machine.dueTick
  rw [h.completed related]
  split
  · exact h.tick related
  · exact related

theorem cycle (h : Lockstep R free) (related : R m n)
    (allowed : ∀ m', m.cycle perTick = .ok m' →
      ∀ i, Instruction.decode? m.fetch = some i → free m i) :
    Together R (m.cycle perTick) (n.cycle perTick) := by
  have ticked (i : Instruction) (hi : free m i) : free (m.dueTick perTick) i := by
    unfold Machine.dueTick
    split
    · exact h.free_tick hi
    · exact hi
  have attempts : Together R (m.dueTick perTick).step (n.dueTick perTick).step := by
    refine h.step (h.dueTick related) fun m' ran i decoded => ticked i ?_
    rw [fetch_dueTick] at decoded
    exact allowed _ (by rw [cycle_eq, ran]; rfl) i decoded
  rw [cycle_eq, cycle_eq]
  obtain ⟨m', n', hm, hn, after⟩ | ⟨fault, hm, hn⟩ := attempts
  · rw [hm, hn]
    exact .inl ⟨_, _, rfl, rfl, h.count after⟩
  · rw [hm, hn]
    exact .inr ⟨fault, rfl, rfl⟩

/-- Runs that start related stay together as long as the instructions that complete are free. -/
theorem cycles (h : Lockstep R free) (k : Nat) (related : R m n)
    (allowed : ∀ a ∈ m.trace perTick k, ∀ i, Instruction.decode? a.fetch = some i → free a i) :
    (m.cycles perTick k).Matches R (n.cycles perTick k) := by
  induction k generalizing m n with
  | zero => exact ⟨related, rfl, rfl⟩
  | succ k ih =>
    have attempts : Together R (m.cycle perTick) (n.cycle perTick) := by
      refine h.cycle related fun m' ran i decoded => ?_
      exact allowed m (by rw [trace_of_ok ran]; exact List.mem_cons_self) i decoded
    obtain ⟨m', n', hm, hn, after⟩ | ⟨fault, hm, hn⟩ := attempts
    · rw [trace_of_ok hm] at allowed
      rw [cycles_of_ok hm, cycles_of_ok hn]
      exact (ih after (List.forall_mem_cons.mp allowed).2).after 1
    · rw [cycles_of_error hm k.succ_pos, cycles_of_error hn k.succ_pos]
      exact ⟨related, rfl, rfl⟩

theorem run (h : Lockstep R free) (length : Nat) (limit : Int) (related : R m n)
    (allowed : ∀ a ∈ m.trace perTick (min length limit.toNat),
      ∀ i, Instruction.decode? a.fetch = some i → free a i) :
    (m.run perTick length limit).Matches R (n.run perTick length limit) := by
  rw [run_eq_cycles, run_eq_cycles]
  exact h.cycles _ related allowed

theorem run_self (h : Lockstep R free) (k : Nat) (related : R m n)
    (allowed : ∀ a ∈ m.trace perTick k, ∀ i, Instruction.decode? a.fetch = some i → free a i) :
    (m.run perTick k k).Matches R (n.run perTick k k) := by
  rw [Machine.run_self, Machine.run_self]
  exact h.cycles k related allowed

end Lockstep

end Machine

end Chip8
