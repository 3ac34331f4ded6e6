import Chip8.Proofs.Stack
import Chip8.Session

/-! What an instruction writes. The parts of `perform` are described by the fields they may
replace; from that follow the fields that no instruction touches, and the three ways in which an
instruction that completes can leave the stack. -/
namespace Chip8

namespace Machine

theorem glyph_lt (v : UInt8) : UInt16.ofNat (v.toNat % 16 * 5) < 4096 := by
  have bound : v.toNat % 16 * 5 < 4096 := by omega
  simp only [UInt16.lt_iff_toNat_lt, UInt16.toNat_ofNat', UInt16.reduceToNat]
  exact Nat.lt_of_le_of_lt (Nat.mod_le _ _) bound

theorem performAlu_writes (m : Machine) (op : Alu) (x y : Register) :
    ∃ v, m.performAlu op x y = { m with registers := v } := by
  unfold performAlu
  dsimp only
  split <;> exact ⟨_, rfl⟩

theorem performAwaitKey_writes (m : Machine) (x : Register) :
    ∃ v p, m.performAwaitKey x = { m with registers := v, pc := p } := by
  unfold performAwaitKey
  split <;> exact ⟨_, _, rfl⟩

/-- The sum goes to I in twelve bits. -/
theorem performAddIndex_writes (m : Machine) (x : Register) :
    ∃ v, m.performAddIndex x =
      { m with
        index := (Address.ofNat (m.index.toNat + (m.reg x).toNat)).toWord
        registers := v } := by
  unfold performAddIndex
  dsimp only
  split <;> exact ⟨_, rfl⟩

/-- The memory after V0 to VX have been stored from I on. -/
def storedMemory (m : Machine) (x : Register) : Vector UInt8 4096 :=
  (List.finRange 16).foldl
    (fun c i => if i ≤ x then c.set (Address.after m.index i.val) (m.reg i) else c) m.memory

theorem storeRegisters_eq (m : Machine) (x : Register) :
    m.storeRegisters x = { m with memory := m.storedMemory x } := by
  unfold storeRegisters storedMemory
  -- Every iteration starts from a machine that differs from `m` in its memory only.
  suffices run : ∀ (l : List Register) (c : Vector UInt8 4096),
      l.foldl (fun m' i => if i ≤ x then m'.write (.after m.index i.val) (m.reg i) else m')
        { m with memory := c } =
      { m with
        memory := l.foldl
          (fun c i => if i ≤ x then c.set (Address.after m.index i.val) (m.reg i) else c) c } from
    run _ m.memory
  intro l
  induction l with
  | nil => exact fun c => rfl
  | cons i l ih =>
    intro c
    rw [List.foldl_cons, List.foldl_cons]
    split
    · exact ih _
    · exact ih c

theorem storeRegisters_writes (m : Machine) (x : Register) :
    ∃ c, m.storeRegisters x = { m with memory := c } :=
  ⟨_, m.storeRegisters_eq x⟩

/-- The registers after V0 to VX have been read from I on. -/
def restoredRegisters (m : Machine) (x : Register) : Vector UInt8 16 :=
  Vector.ofFn fun i : Register => if i ≤ x then m.read (.after m.index i.val) else m.reg i

theorem restoreRegisters_eq (m : Machine) (x : Register) :
    m.restoreRegisters x = { m with registers := m.restoredRegisters x } :=
  rfl

theorem restoreRegisters_writes (m : Machine) (x : Register) :
    ∃ v, m.restoreRegisters x = { m with registers := v } :=
  ⟨_, m.restoreRegisters_eq x⟩

theorem advanceIndex_writes (m : Machine) (x : Register) :
    ∃ j, m.advanceIndex x = { m with index := j } ∧
      (m.dialect.loadStoreIncrementsI = false → j = m.index) := by
  unfold advanceIndex
  split
  · rename_i increments
    exact ⟨_, rfl, fun h => by simp [h] at increments⟩
  · exact ⟨m.index, rfl, fun _ => rfl⟩

theorem store_writes (m : Machine) (x : Register) :
    ∃ c j, m.perform (.store x) = { m with memory := c, index := j } ∧
      (m.dialect.loadStoreIncrementsI = false → j = m.index) := by
  obtain ⟨c, stored⟩ := m.storeRegisters_writes x
  obtain ⟨j, advanced, kept⟩ := (m.storeRegisters x).advanceIndex_writes x
  rw [stored] at advanced kept
  exact ⟨c, j, by rw [perform, stored, advanced], kept⟩

theorem restore_writes (m : Machine) (x : Register) :
    ∃ v j, m.perform (.restore x) = { m with registers := v, index := j } ∧
      (m.dialect.loadStoreIncrementsI = false → j = m.index) := by
  obtain ⟨v, restored⟩ := m.restoreRegisters_writes x
  obtain ⟨j, advanced, kept⟩ := (m.restoreRegisters x).advanceIndex_writes x
  rw [restored] at advanced kept
  exact ⟨v, j, by rw [perform, restored, advanced], kept⟩

/-- What holds of the machine after every instruction but a call or a return. I is left alone
or set in twelve bits, unless loads and stores move it. -/
structure Quiet (m m' : Machine) : Prop where
  stack : m'.stack = m.stack
  keypad : m'.keypad = m.keypad
  completed : m'.completed = m.completed
  dialect : m'.dialect = m.dialect
  index : m.dialect.loadStoreIncrementsI = false → m'.index = m.index ∨ m'.index < 4096

theorem perform_quiet (m : Machine) (i : Instruction) (hr : i ≠ .ret) (hc : ∀ t, i ≠ .call t) :
    m.Quiet (m.perform i) := by
  cases i with
  | ret => exact absurd rfl hr
  | call t => exact absurd rfl (hc t)
  | skip condition =>
    simp only [perform]
    split <;> exact ⟨rfl, rfl, rfl, rfl, fun _ => .inl rfl⟩
  | alu op x y =>
    obtain ⟨v, h⟩ := m.performAlu_writes op x y
    rw [perform, h]
    exact ⟨rfl, rfl, rfl, rfl, fun _ => .inl rfl⟩
  | awaitKey x =>
    obtain ⟨v, p, h⟩ := m.performAwaitKey_writes x
    rw [perform, h]
    exact ⟨rfl, rfl, rfl, rfl, fun _ => .inl rfl⟩
  | setIndex target => exact ⟨rfl, rfl, rfl, rfl, fun _ => .inr target.toWord_lt⟩
  | addIndex x =>
    obtain ⟨v, h⟩ := m.performAddIndex_writes x
    rw [perform, h]
    exact ⟨rfl, rfl, rfl, rfl, fun _ => .inr (Address.toWord_lt _)⟩
  | glyph x => exact ⟨rfl, rfl, rfl, rfl, fun _ => .inr (glyph_lt _)⟩
  | store x =>
    obtain ⟨c, j, h, kept⟩ := m.store_writes x
    rw [h]
    exact ⟨rfl, rfl, rfl, rfl, fun off => .inl (kept off)⟩
  | restore x =>
    obtain ⟨v, j, h, kept⟩ := m.restore_writes x
    rw [h]
    exact ⟨rfl, rfl, rfl, rfl, fun off => .inl (kept off)⟩
  | _ => exact ⟨rfl, rfl, rfl, rfl, fun _ => .inl rfl⟩

theorem execute_eq_ok_iff {m m' : Machine} {w : UInt16} :
    m.execute w = .ok m' ↔
      ∃ i, Instruction.decode? w = some i ∧ m.obstacle? (some i) = none ∧ m.perform i = m' := by
  rw [execute_ok_iff_obey, obey]
  cases Instruction.decode? w with
  | none => simp [obstacle?]
  | some i => cases h : m.obstacle? (some i) <;> simp [h]

theorem execute_eq_error_iff {m : Machine} {w : UInt16} {fault : Fault} :
    m.execute w = .error fault ↔ m.obstacle? (Instruction.decode? w) = some fault := by
  rw [execute_error_iff_obey, obey]
  cases m.obstacle? (Instruction.decode? w) <;> simp

/-- Whether an instruction may run depends on the stack alone. -/
theorem obstacle_congr {m n : Machine} (h : n.stack = m.stack) (i : Option Instruction) :
    n.obstacle? i = m.obstacle? i := by
  unfold obstacle?
  rw [h]

theorem step_eq_error_iff {m : Machine} {fault : Fault} :
    m.step = .error fault ↔ m.obstacle? (Instruction.decode? m.fetch) = some fault := by
  have stack : m.skipOver.stack = m.stack := rfl
  rw [step_eq, execute_eq_error_iff, obstacle_congr stack]

theorem step_eq_ok_iff {m m' : Machine} :
    m.step = .ok m' ↔ ∃ i, Instruction.decode? m.fetch = some i ∧
      m.obstacle? (some i) = none ∧ m.skipOver.perform i = m' := by
  rw [step_eq]
  exact execute_eq_ok_iff

/-- The three ways in which an instruction completes. -/
theorem execute_cases {m m' : Machine} {w : UInt16} (h : m.execute w = .ok m') :
    (∃ t, Instruction.decode? w = some (.call t) ∧ m.stack.pointer < 16 ∧
      m' = { m with stack := m.stack.push m.pc, pc := t.toWord }) ∨
    (Instruction.decode? w = some .ret ∧ 0 < m.stack.pointer ∧
      m' = { m with stack := m.stack.pop.1, pc := m.stack.pop.2 }) ∨
    ((∀ t, Instruction.decode? w ≠ some (.call t)) ∧ Instruction.decode? w ≠ some .ret ∧
      m.Quiet m') := by
  obtain ⟨i, decoded, free, rfl⟩ := execute_eq_ok_iff.mp h
  rw [decoded]
  by_cases hr : i = .ret
  · subst hr
    have nonempty : 0 < m.stack.pointer := by simpa [obstacle?, CallStack.isEmpty] using free
    exact .inr (.inl ⟨rfl, nonempty, rfl⟩)
  by_cases hc : ∃ t, i = .call t
  · obtain ⟨t, rfl⟩ := hc
    have room : m.stack.pointer < 16 := by simpa [obstacle?, CallStack.isFull] using free
    exact .inl ⟨t, rfl, room, rfl⟩
  · have hc' : ∀ t, i ≠ .call t := fun t ht => hc ⟨t, ht⟩
    exact .inr (.inr ⟨by simpa using hc', by simpa using hr, m.perform_quiet i hr hc'⟩)

/-- No instruction touches the keys, the count of completed instructions or the dialect. -/
theorem step_frame {m m' : Machine} (h : m.step = .ok m') :
    m'.keypad = m.keypad ∧ m'.completed = m.completed ∧ m'.dialect = m.dialect := by
  obtain ⟨t, _, _, rfl⟩ | ⟨_, _, rfl⟩ | ⟨_, _, quiet⟩ := execute_cases (execute_of_step h)
  · exact ⟨rfl, rfl, rfl⟩
  · exact ⟨rfl, rfl, rfl⟩
  · exact ⟨quiet.keypad, quiet.completed, quiet.dialect⟩

/-- The machine after the tick that is due, if one is. -/
def dueTick (perTick : Nat) (m : Machine) : Machine :=
  if m.completed.toNat % perTick = 0 then m.tick else m

theorem dueTick_writes (perTick : Nat) (m : Machine) :
    ∃ d s, m.dueTick perTick = { m with delay := d, sound := s } := by
  unfold dueTick
  split
  · exact ⟨_, _, rfl⟩
  · exact ⟨m.delay, m.sound, rfl⟩

theorem fetch_dueTick (perTick : Nat) (m : Machine) : (m.dueTick perTick).fetch = m.fetch := by
  obtain ⟨d, s, h⟩ := m.dueTick_writes perTick
  rw [h]
  rfl

theorem stack_dueTick (perTick : Nat) (m : Machine) : (m.dueTick perTick).stack = m.stack := by
  obtain ⟨d, s, h⟩ := m.dueTick_writes perTick
  rw [h]

/-- A cycle is the due tick and an instruction, and counts the instruction. -/
theorem cycle_eq (perTick : Nat) (m : Machine) :
    m.cycle perTick =
      (m.dueTick perTick).step.map fun n => { n with completed := n.completed + 1 } := by
  rw [cycle, proceedTimed, ← dueTick, step]
  obtain ⟨n, _ | fault⟩ := (m.dueTick perTick).proceed <;> rfl

theorem cycle_cases {perTick : Nat} {m m' : Machine} (h : m.cycle perTick = .ok m') :
    ∃ n, (m.dueTick perTick).step = .ok n ∧ m' = { n with completed := n.completed + 1 } := by
  rw [cycle_eq] at h
  cases ran : (m.dueTick perTick).step with
  | ok n =>
    rw [ran] at h
    exact ⟨n, rfl, (Except.ok.inj h).symm⟩
  | error fault =>
    rw [ran] at h
    cases h

theorem cycle_frame {perTick : Nat} {m m' : Machine} (h : m.cycle perTick = .ok m') :
    m'.keypad = m.keypad ∧ m'.completed = m.completed + 1 := by
  obtain ⟨n, ran, rfl⟩ := cycle_cases h
  obtain ⟨d, s, ticked⟩ := m.dueTick_writes perTick
  obtain ⟨keypad, completed, _⟩ := step_frame ran
  rw [ticked] at keypad completed
  exact ⟨keypad, by rw [completed]⟩

/-- A cycle fails with what stands in the way of the word at the program counter. -/
theorem cycle_eq_error_iff {perTick : Nat} {m : Machine} {fault : Fault} :
    m.cycle perTick = .error fault ↔ m.obstacle? (Instruction.decode? m.fetch) = some fault := by
  have failed : (m.dueTick perTick).step = .error fault ↔
      m.obstacle? (Instruction.decode? m.fetch) = some fault := by
    rw [step_eq_error_iff, fetch_dueTick, obstacle_congr (stack_dueTick perTick m)]
  rw [cycle_eq, ← failed]
  cases (m.dueTick perTick).step <;> simp [Except.map]

/-- A cycle in which nothing stands in the way. -/
theorem cycle_of_decode {m : Machine} {i : Instruction}
    (decoded : Instruction.decode? m.fetch = some i) (clear : m.obstacle? (some i) = none)
    (perTick : Nat) :
    m.cycle perTick =
      .ok (let n := (m.dueTick perTick).skipOver.perform i
        { n with completed := n.completed + 1 }) := by
  have stack : (m.dueTick perTick).stack = m.stack := stack_dueTick perTick m
  have stepped : (m.dueTick perTick).step = .ok ((m.dueTick perTick).skipOver.perform i) := by
    refine step_eq_ok_iff.mpr ⟨i, ?_, (obstacle_congr stack _).trans clear, rfl⟩
    rw [fetch_dueTick, decoded]
  rw [cycle_eq, stepped]
  rfl

theorem cycle_of_unknown {m : Machine} (h : Instruction.decode? m.fetch = none) (perTick : Nat) :
    m.cycle perTick = .error .unknownOpcode :=
  cycle_eq_error_iff.mpr (by rw [h]; rfl)

end Machine

end Chip8
