import Chip8.Proofs.Diagnosis
import Chip8.Proofs.EarlyExit
import Chip8.Proofs.Forms
import Chip8.Proofs.Reachable

/-! What becomes of a word. The patterns and the pointer of the stack decide whether it runs and
which fault it meets otherwise; a fault leaves the machine as it was, and a word that runs does what
the one form that governs it says. -/
namespace Chip8

namespace Machine

/-- How a machine must answer a word. -/
structure Dispatches (m : Machine) (w : UInt16) : Prop where
  unknownOpcode : (m.obey w).2 = some .unknownOpcode ↔ ∀ f : Form, ¬f.Covers w
  stackEmpty : (m.obey w).2 = some .stackEmpty ↔ w = 0x00EE ∧ m.stack.pointer ≤ 0
  stackFull : (m.obey w).2 = some .stackFull ↔ w.toNat / 4096 = 2 ∧ 16 ≤ m.stack.pointer
  runs : (m.obey w).2 = none ↔
    (∃ f : Form, f.Covers w) ∧ ¬(w = 0x00EE ∧ m.stack.pointer ≤ 0) ∧
      ¬(w.toNat / 4096 = 2 ∧ 16 ≤ m.stack.pointer)
  atomic : (m.obey w).2 ≠ none → (m.obey w).1 = m
  /-- No other form covers the word, but 0NNN where it is 00E0 or 00EE. -/
  performs : (m.obey w).2 = none →
    ∃ f : Form, f.Covers w ∧ (m.obey w).1 = m.perform (f.read w) ∧
      ∀ g : Form, g.Covers w → g = f ∨ g = .system ∧ (f = .clear ∨ f = .ret)
  completes : ∀ m', m.execute w = .ok m' ↔ m.obey w = (m', none)
  fails : ∀ fault, m.execute w = .error fault ↔ m.obey w = (m, some fault)

variable {m : Machine} {w : UInt16}

theorem obey_fault (m : Machine) (w : UInt16) :
    (m.obey w).2 = m.obstacle? (Instruction.decode? w) :=
  rfl

theorem obey_unknownOpcode_iff :
    (m.obey w).2 = some .unknownOpcode ↔ ∀ f : Form, ¬f.Covers w := by
  rw [obey_fault, obstacle_unknownOpcode_iff, Instruction.decode_eq_none_iff]

theorem obey_stackEmpty_iff :
    (m.obey w).2 = some .stackEmpty ↔ w = 0x00EE ∧ m.stack.pointer ≤ 0 := by
  rw [obey_fault, obstacle_stackEmpty_iff, Instruction.decode_ret_iff]

theorem obey_stackFull_iff :
    (m.obey w).2 = some .stackFull ↔ w.toNat / 4096 = 2 ∧ 16 ≤ m.stack.pointer := by
  rw [obey_fault, obstacle_stackFull_iff, Instruction.decode_call_iff]

/-- A word runs unless one of the three faults is due. -/
theorem obey_none_iff :
    (m.obey w).2 = none ↔
      (∃ f : Form, f.Covers w) ∧ ¬(w = 0x00EE ∧ m.stack.pointer ≤ 0) ∧
        ¬(w.toNat / 4096 = 2 ∧ 16 ≤ m.stack.pointer) := by
  have covered : (∃ f : Form, f.Covers w) ↔ ¬(m.obey w).2 = some .unknownOpcode := by
    rw [obey_unknownOpcode_iff, Classical.not_forall_not]
  rw [covered, ← obey_stackEmpty_iff, ← obey_stackFull_iff]
  cases (m.obey w).2 with
  | none => simp
  | some fault => cases fault <;> simp

/-- The machine that comes with a fault is the one that met it. -/
theorem obey_of_fault (met : (m.obey w).2 ≠ none) : (m.obey w).1 = m :=
  if_neg met

theorem obey_performs (free : (m.obey w).2 = none) :
    ∃ f : Form, f.Covers w ∧ (m.obey w).1 = m.perform (f.read w) ∧
      ∀ g : Form, g.Covers w → g = f ∨ g = .system ∧ (f = .clear ∨ f = .ret) := by
  have ran : m.execute w = .ok (m.obey w).1 :=
    execute_ok_iff_obey.mpr (Prod.ext rfl free)
  obtain ⟨i, decoded, -, performed⟩ := execute_eq_ok_iff.mp ran
  obtain ⟨f, governs, rfl⟩ := Instruction.decode_eq_some_iff.mp decoded
  exact ⟨f, governs.1, performed.symm, fun g covered => governs.eq_or_system covered⟩

/-- Nothing about the program counter or the timers makes an instruction fail. -/
theorem proceed_fault (m : Machine) : m.proceed.2 = (m.obey m.fetch).2 :=
  rfl

/-- The program counter is back on the instruction that failed. -/
theorem proceed_of_fault (met : m.proceed.2 ≠ none) : m.proceed.1 = m :=
  if_neg met

theorem proceed_completes (free : m.proceed.2 = none) :
    m.proceed.1 = (m.skipOver.obey m.fetch).1 :=
  if_pos free

theorem step_error_of_proceed {fault : Fault} (met : m.proceed.2 = some fault) :
    m.step = .error fault :=
  step_error_iff_proceed.mpr (Prod.ext (proceed_of_fault (by simp [met])) met)

/-- The tick of a timestep comes before the instruction and stays. -/
theorem timestep_of_step_error {fault : Fault} (h : m.step = .error fault) :
    m.timestep = (m.tick, some fault) := by
  have stack : m.tick.stack = m.stack := rfl
  have failed : m.tick.step = .error fault :=
    step_eq_error_iff.mpr ((obstacle_congr stack _).trans (step_eq_error_iff.mp h))
  exact step_error_iff_proceed.mp failed

theorem run_of_step_error {fault : Fault} (h : m.step = .error fault) (perTick : Nat)
    {length : Nat} {limit : Int} (hl : 0 < length) (positive : 0 < limit) :
    m.run perTick length limit = ⟨m, some fault, 0⟩ := by
  rw [run_eq_cycles]
  exact cycles_of_error (cycle_error_iff_step.mpr h) (by omega)

/-- Every machine, wherever its stack pointer is, answers every word as the patterns say, and comes
back with the fault it met. The instruction at the program counter meets the fault of its word, and
the machine that comes back is the one before it was fetched; a timestep keeps its tick then, and a
run undoes it. The order in which the forms are looked up makes no difference, as long as 00E0 and
00EE come before 0NNN. -/
theorem faults_as_specified_and_atomic (m : Machine) :
    (∀ w, m.Dispatches w) ∧
    m.proceed.2 = (m.obey m.fetch).2 ∧
    (m.proceed.2 = none → m.proceed.1 = (m.skipOver.obey m.fetch).1) ∧
    (∀ fault, m.proceed.2 = some fault →
      m.proceed.1 = m ∧ m.timestep = (m.tick, some fault) ∧
      ∀ (s : Session) (length : Nat) (limit : Int), 0 < length → 0 < limit →
        m.run s.perTick length limit = ⟨m, some fault, 0⟩) ∧
    (∀ m', m.step = .ok m' ↔ m.proceed = (m', none)) ∧
    (∀ fault, m.step = .error fault ↔ m.proceed = (m, some fault)) ∧
    ∀ order : List Form, (∀ f, f ∈ order) →
      order.idxOf .clear < order.idxOf .system → order.idxOf .ret < order.idxOf .system →
      ∀ w, Form.lookUp? order w = Instruction.decode? w := by
  refine ⟨fun w => ?_, proceed_fault m, proceed_completes, fun fault met => ?_,
    fun m' => step_ok_iff_proceed, fun fault => step_error_iff_proceed, ?_⟩
  · exact {
      unknownOpcode := obey_unknownOpcode_iff
      stackEmpty := obey_stackEmpty_iff
      stackFull := obey_stackFull_iff
      runs := obey_none_iff
      atomic := obey_of_fault
      performs := obey_performs
      completes := fun m' => execute_ok_iff_obey
      fails := fun fault => execute_error_iff_obey }
  · have failed : m.step = .error fault := step_error_of_proceed met
    refine ⟨proceed_of_fault (by simp [met]), timestep_of_step_error failed, ?_⟩
    intro s length limit hl positive
    exact run_of_step_error failed s.perTick hl positive
  · intro order complete clearFirst retFirst w
    exact Form.lookUp_eq_decode complete clearFirst retFirst w

/-- A lone return. -/
def returnProgram : Program := ⟨#[0x00, 0xEE], by decide⟩

/-- With the pointer below the stack the return fails and a call still runs. -/
theorem faults_as_specified_and_atomic_below_stack :
    let s : Session := ⟨returnProgram, {}⟩
    let m := { s.powerOn ⟨0, 0⟩ with stack := ⟨Vector.replicate 16 0, -1⟩ }
    let order : List Form := .clear :: .ret :: Form.all.reverse
    m.proceed = (m, some .stackEmpty) ∧ m.timestep = (m.tick, some .stackEmpty) ∧
    m.run s.perTick 9 1 = ⟨m, some .stackEmpty, 0⟩ ∧
    m.obey 0x2300 = (m.perform (Form.call.read 0x2300), none) ∧
    Form.lookUp? order 0x00EE = Instruction.decode? 0x00EE := by
  intro s m order
  have word : m.fetch = 0x00EE := by
    have first : wordOfBytes returnProgram.bytes[0] returnProgram.bytes[1] = 0x00EE := by decide
    exact (fetch_of_load rfl (by decide) rfl).trans first
  have complete (f : Form) : f ∈ order :=
    .tail _ (.tail _ (List.mem_reverse.mpr f.mem_all))
  obtain ⟨answers, fault, -, atomic, -, -, anyOrder⟩ := faults_as_specified_and_atomic m
  have failed : m.proceed.2 = some .stackEmpty := by
    rw [fault, word]
    exact (answers _).stackEmpty.mpr ⟨rfl, by decide⟩
  obtain ⟨kept, ticked, stopped⟩ := atomic _ failed
  have free : (m.obey 0x2300).2 = none :=
    (answers 0x2300).runs.mpr ⟨⟨.call, by decide⟩, by decide, by decide⟩
  obtain ⟨f, covered, performed, only⟩ := (answers 0x2300).performs free
  have called : f = .call := by
    obtain same | ⟨system, _⟩ := only .call (by decide)
    · exact same.symm
    · cases system
  refine ⟨Prod.ext kept failed, ticked, stopped s 9 1 (by decide) (by decide), ?_, ?_⟩
  · exact Prod.ext (performed.trans (by rw [called])) free
  · exact anyOrder order complete (by decide) (by decide) _

end Machine

end Chip8
