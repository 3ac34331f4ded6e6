import Chip8.Proofs.Cycles
import Chip8.Proofs.Decoding

/-! Reports on faults. A run that ends with a fault leaves its machine at the instruction that
failed, with its tick undone, so the incident that a host makes up afterwards, from the machine and
the code of the fault, is about the real culprit. -/
namespace Chip8

/-- What an incident must get right about the machine that a fault has left. -/
structure Incident.Accurate (i : Incident) (m : Machine) (fault : Fault) : Prop where
  high : i.high = highByte m.fetch
  low : i.low = lowByte m.fetch
  checked : m.obstacle? (Instruction.decode? m.fetch) = some fault
  fault : i.fault = fault
  unknownOpcode : i.fault = .unknownOpcode ↔ Instruction.decode? m.fetch = none
  stackEmpty : i.fault = .stackEmpty ↔ m.fetch = 0x00EE ∧ m.stack.pointer ≤ 0
  stackFull : i.fault = .stackFull ↔ m.fetch.toNat / 4096 = 2 ∧ 16 ≤ m.stack.pointer
  nibbles : i.nibbles = Nibbles.ofWord m.fetch
  pc : i.pc.val = m.pc.toNat % 4096
  stackPointer : i.stackPointer = m.stack.pointer
  registers : i.registers = m.registers
  index : i.index = m.index

/-- Every fault, and the absence of one, can be read back from its code. -/
theorem Fault.ofCode_codeOf (fault : Option Fault) : ofCode? (codeOf fault) = some fault := by
  cases fault with
  | none => rfl
  | some f => cases f <;> rfl

namespace Machine

theorem obstacle_unknownOpcode_iff {m : Machine} {i : Option Instruction} :
    m.obstacle? i = some .unknownOpcode ↔ i = none := by
  unfold obstacle?
  split <;> simp

theorem obstacle_stackEmpty_iff {m : Machine} {i : Option Instruction} :
    m.obstacle? i = some .stackEmpty ↔ i = some .ret ∧ m.stack.pointer ≤ 0 := by
  unfold obstacle?
  split <;> simp_all [CallStack.isEmpty]

theorem obstacle_stackFull_iff {m : Machine} {i : Option Instruction} :
    m.obstacle? i = some .stackFull ↔ (∃ t, i = some (.call t)) ∧ 16 ≤ m.stack.pointer := by
  unfold obstacle?
  split <;> simp_all [CallStack.isFull]

/-- The incident made up from a machine is accurate about what stands in its way. -/
theorem incident_accurate {m : Machine} {fault : Fault}
    (h : m.obstacle? (Instruction.decode? m.fetch) = some fault) :
    (m.incident fault).Accurate m fault := by
  have high : m.read (.after m.pc 0) = highByte m.fetch := (highByte_wordOfBytes _ _).symm
  have low : m.read (.after m.pc 1) = lowByte m.fetch := (lowByte_wordOfBytes _ _).symm
  have nibbles : (m.incident fault).nibbles = Nibbles.ofWord m.fetch := by
    rw [Incident.nibbles, Nibbles.ofWord, ← high, ← low]
    rfl
  have found (f : Fault) :
      (m.incident fault).fault = f ↔ m.obstacle? (Instruction.decode? m.fetch) = some f := by
    rw [h, Option.some.injEq]
    rfl
  exact {
    high, low, nibbles
    checked := h
    fault := rfl
    unknownOpcode := (found _).trans obstacle_unknownOpcode_iff
    stackEmpty := by rw [found, obstacle_stackEmpty_iff, Instruction.decode_ret_iff]
    stackFull := by rw [found, obstacle_stackFull_iff, Instruction.decode_call_iff]
    pc := rfl
    stackPointer := rfl
    registers := rfl
    index := rfl }

/-- A fault that ends a run is what stands in the way of the word where the run has ended. -/
theorem obstacle_of_run {perTick length : Nat} {limit : Int} {m : Machine} {fault : Fault}
    (h : (m.run perTick length limit).fault = some fault) :
    let m' := (m.run perTick length limit).machine
    m'.obstacle? (Instruction.decode? m'.fetch) = some fault := by
  rw [run_eq_cycles] at h ⊢
  exact cycle_eq_error_iff.mp (cycle_of_fault h)

theorem diagnose_codeOf (m : Machine) (fault : Option Fault) :
    m.diagnose? (Fault.codeOf fault) = some (fault.map m.incident) := by
  rw [diagnose?, Fault.ofCode_codeOf]
  rfl

end Machine

/-- Where a run or a frame ends with a fault, the incident behind its code is accurate: its bytes
and nibbles are those of the word that the machine is about to fetch, that word has the fault, and
the rest is a copy of the machine. Where there is no fault, there is no incident. -/
theorem faults_name_their_culprit (s : Session) (m : Machine) (length : Nat) (limit : Int)
    (mask : UInt16) (r : Run)
    (ran : r = m.run s.perTick length limit ∨ r = Session.frame s.perTick s.perFrame mask m) :
    (r.fault = none → r.machine.diagnose? (Fault.codeOf r.fault) = some none) ∧
    ∀ fault, r.fault = some fault →
      ∃ i, r.machine.diagnose? (Fault.codeOf r.fault) = some (some i) ∧
        i.Accurate r.machine fault := by
  have obstacle (fault : Fault) (failed : r.fault = some fault) :
      r.machine.obstacle? (Instruction.decode? r.machine.fetch) = some fault := by
    rcases ran with rfl | rfl
    · exact Machine.obstacle_of_run failed
    · exact Machine.obstacle_of_run failed
  refine ⟨fun quiet => ?_, fun fault failed => ?_⟩
  · rw [quiet, Machine.diagnose_codeOf]
    rfl
  · refine ⟨r.machine.incident fault, ?_, Machine.incident_accurate (obstacle fault failed)⟩
    rw [failed, Machine.diagnose_codeOf]
    rfl

/-- A machine whose program counter has left the memory. -/
def Machine.pastMemory : Machine := { Machine.powerOn ⟨0, 0⟩ .modern with pc := 4096, delay := 5 }

/-- Twelve bits of the program counter lead to the first glyph, which is no instruction; the tick
that was due is undone. -/
theorem faults_name_their_culprit_past_memory :
    let s : Session := ⟨⟨#[], by decide⟩, {}⟩
    let r := Machine.pastMemory.run s.perTick 3 3
    r.fault = some .unknownOpcode ∧ r.machine.delay = 5 ∧
    ∃ i, r.machine.diagnose? (Fault.codeOf r.fault) = some (some i) ∧
      i.Accurate r.machine .unknownOpcode ∧ i.high = 0xF0 ∧ i.low = 0x90 ∧ i.pc = 0 := by
  intro s r
  have word : Machine.pastMemory.fetch = 0xF090 := by
    simp [Machine.pastMemory, Machine.fetch, Machine.read, Machine.powerOn, Machine.blankMemory,
      Address.after, Address.ofNat, Machine.font, wordOfBytes]
  have ended : r = ⟨Machine.pastMemory, some .unknownOpcode, 0⟩ := by
    have unknown : Instruction.decode? Machine.pastMemory.fetch = none := by rw [word]; decide
    exact (Machine.run_self 3 _).trans
      (Machine.cycles_of_error (Machine.cycle_of_unknown unknown _) (by decide))
  have failed : r.fault = some .unknownOpcode := by rw [ended]
  have machine : r.machine = Machine.pastMemory := by rw [ended]
  obtain ⟨i, found, accurate⟩ :=
    (faults_name_their_culprit s .pastMemory 3 3 0 r (.inl rfl)).2 _ failed
  refine ⟨failed, by rw [machine]; rfl, i, found, accurate, ?_, ?_, ?_⟩
  · rw [accurate.high, machine, word]
    decide
  · rw [accurate.low, machine, word]
    decide
  · apply Fin.ext
    rw [accurate.pc, machine]
    rfl

end Chip8
