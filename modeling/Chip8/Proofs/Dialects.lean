import Chip8.Proofs.Loading
import Chip8.Proofs.Trace

/-! What a dialect can change. Each of the six switches is read by one family of instructions, and
two of them make no difference to part of their family: a shift where VX and VY are equal, a sprite
that crosses no edge. A run that completes none of the other instructions is the same in both
dialects. -/
namespace Chip8

/-- Clipped or not, a sprite that crosses no edge is the same. -/
theorem Display.sprite_of_fits {left top height : Nat} (wide : left + 8 ≤ 64)
    (tall : top + height ≤ 32) (row : Nat → UInt8) (clip : Bool) :
    sprite clip left top height row = sprite false left top height row := by
  apply ext_lit
  intro x y
  -- Around the edge, a cell left of the sprite or above it is reached too late.
  have late (before : ¬left ≤ x.val) : ¬x.val + 64 - left < 8 := by omega
  have low (above : ¬top ≤ y.val) : ¬y.val + 32 - top < height := by omega
  simp only [sprite, lit_ofFn, distance?]
  cases clip with
  | false => rfl
  | true =>
    by_cases right : left ≤ x.val
    · by_cases below : top ≤ y.val
      · simp [right, below]
      · simp [right, below, low below]
    · by_cases below : top ≤ y.val
      · simp [right, below, late right]
      · simp [right, below, late right]

namespace Machine

/-- The machine with another dialect. -/
def inDialect (m : Machine) (d : Dialect) : Machine := { m with dialect := d }

@[simp] theorem inDialect_dialect (m : Machine) (d : Dialect) : (m.inDialect d).dialect = d := rfl

@[simp] theorem inDialect_reg (m : Machine) (d : Dialect) (x : Register) :
    (m.inDialect d).reg x = m.reg x :=
  rfl

/-- The instructions that may do something else in the dialect `d`. -/
def Sensitive (m : Machine) (d : Dialect) : Instruction → Prop
  | .alu op x y =>
    (op.isShift ∧ m.dialect.shiftUsesVy ≠ d.shiftUsesVy ∧ m.reg x ≠ m.reg y) ∨
      (op.isLogic ∧ m.dialect.logicResetsVf ≠ d.logicResetsVf)
  | .jumpOffset _ _ => m.dialect.jumpUsesVx ≠ d.jumpUsesVx
  | .store _ | .restore _ => m.dialect.loadStoreIncrementsI ≠ d.loadStoreIncrementsI
  | .addIndex _ => m.dialect.indexOverflowSetsVf ≠ d.indexOverflowSetsVf
  | .draw x y height =>
    m.dialect.clipSprites ≠ d.clipSprites ∧
      (64 < (m.reg x).toNat % 64 + 8 ∨ 32 < (m.reg y).toNat % 32 + height.val)
  | _ => False

variable {m : Machine} {d : Dialect}

theorem performAlu_inDialect {op : Alu} {x y : Register} (h : ¬m.Sensitive d (.alu op x y)) :
    (m.inDialect d).performAlu op x y = (m.performAlu op x y).inDialect d := by
  obtain ⟨shift, logic⟩ := not_or.mp h
  have operand : (if op.isShift && d.shiftUsesVy then m.reg y else m.reg x) =
      if op.isShift && m.dialect.shiftUsesVy then m.reg y else m.reg x := by
    cases shifts : op.isShift with
    | false => rfl
    | true =>
      by_cases same : m.reg x = m.reg y
      · simp [same]
      · have agree : m.dialect.shiftUsesVy = d.shiftUsesVy :=
          Decidable.byContradiction fun differ => shift ⟨shifts, differ, same⟩
        rw [agree]
  have flagged : (op.isLogic && d.logicResetsVf) = (op.isLogic && m.dialect.logicResetsVf) := by
    cases logical : op.isLogic with
    | false => rfl
    | true =>
      have agree : m.dialect.logicResetsVf = d.logicResetsVf :=
        Decidable.byContradiction fun differ => logic ⟨logical, differ⟩
      rw [agree]
  unfold performAlu
  dsimp only
  rw [inDialect_dialect, inDialect_reg, inDialect_reg, operand, flagged]
  split
  · rfl
  · rfl

theorem spriteAt_inDialect {x y : Register} {height : Nibble}
    (h : ¬m.Sensitive d (.draw x y height)) :
    (m.inDialect d).spriteAt x y height = m.spriteAt x y height := by
  by_cases agree : m.dialect.clipSprites = d.clipSprites
  · rw [spriteAt, spriteAt, agree]
    rfl
  · have fits : ¬(64 < (m.reg x).toNat % 64 + 8 ∨ 32 < (m.reg y).toNat % 32 + height.val) :=
      fun crosses => h ⟨agree, crosses⟩
    have wide : (m.reg x).toNat % 64 + 8 ≤ 64 := by omega
    have tall : (m.reg y).toNat % 32 + height.val ≤ 32 := by omega
    have plain := Display.sprite_of_fits wide tall fun r => m.read (.after m.index r)
    exact (plain d.clipSprites).trans (plain m.dialect.clipSprites).symm

theorem advanceIndex_inDialect (m : Machine)
    (agree : m.dialect.loadStoreIncrementsI = d.loadStoreIncrementsI) (x : Register) :
    (m.inDialect d).advanceIndex x = (m.advanceIndex x).inDialect d := by
  rw [advanceIndex, advanceIndex, inDialect_dialect, agree]
  split
  · rfl
  · rfl

/-- An instruction that is not sensitive does the same in both dialects. -/
theorem perform_inDialect {i : Instruction} (h : ¬m.Sensitive d i) :
    (m.inDialect d).perform i = (m.perform i).inDialect d := by
  cases i with
  | alu op x y => exact performAlu_inDialect h
  | draw x y height =>
    simp only [perform, performDraw, spriteAt_inDialect h]
    rfl
  | jumpOffset target x =>
    have agree : m.dialect.jumpUsesVx = d.jumpUsesVx := Decidable.not_not.mp h
    simp only [perform, performJumpOffset, agree]
    rfl
  | addIndex x =>
    have agree : m.dialect.indexOverflowSetsVf = d.indexOverflowSetsVf := Decidable.not_not.mp h
    rw [perform, perform, performAddIndex, performAddIndex, inDialect_dialect, agree]
    split
    · rfl
    · rfl
  | store x =>
    have agree : m.dialect.loadStoreIncrementsI = d.loadStoreIncrementsI := Decidable.not_not.mp h
    have stored : (m.inDialect d).storedMemory x = m.storedMemory x := rfl
    rw [perform, perform, storeRegisters_eq, storeRegisters_eq, stored]
    exact advanceIndex_inDialect { m with memory := m.storedMemory x } agree x
  | restore x =>
    have agree : m.dialect.loadStoreIncrementsI = d.loadStoreIncrementsI := Decidable.not_not.mp h
    have restored : (m.inDialect d).restoredRegisters x = m.restoredRegisters x := rfl
    rw [perform, perform, restoreRegisters_eq, restoreRegisters_eq, restored]
    exact advanceIndex_inDialect { m with registers := m.restoredRegisters x } agree x
  | skip condition =>
    have same : (m.inDialect d).holds condition = m.holds condition := by cases condition <;> rfl
    simp only [perform, same]
    split
    · rfl
    · rfl
  | awaitKey x =>
    have keys : (m.inDialect d).keypad = m.keypad := rfl
    rw [perform, perform, performAwaitKey, performAwaitKey, keys]
    split
    · rfl
    · rfl
  | _ => rfl

theorem dialect_lockstep (d : Dialect) :
    Lockstep (fun m n => n = m.inDialect d) fun m i => ¬m.Sensitive d i where
  fetch h := by rw [h]; rfl
  stack h := by rw [h]; rfl
  completed h := by rw [h]; rfl
  tick h := by rw [h]; rfl
  count h := by rw [h]; rfl
  free_tick h := h
  perform {m n} i h free := by
    have insensitive : ¬m.skipOver.Sensitive d i := free
    rw [h]
    exact perform_inDialect insensitive

/-- A run that completes no instruction that is sensitive to the change of dialect goes the same way
in the other dialect: the same fault, as many instructions, and the same machine but for its
dialect. -/
theorem dialect_isolation (s : Session) (n : Nat) (m : Machine) (d : Dialect)
    (insensitive : ∀ a ∈ m.trace s.perTick n,
      ∀ i, Instruction.decode? a.fetch = some i → ¬a.Sensitive d i) :
    let r := m.run s.perTick n n
    let r' := (m.inDialect d).run s.perTick n n
    r'.fault = r.fault ∧ r'.executed = r.executed ∧
    r'.machine = { r.machine with dialect := d } := by
  intro r r'
  have together : r.Matches (fun m n => n = m.inDialect d) r' := by
    have matched := (dialect_lockstep d).cycles n rfl insensitive
    rwa [← run_self, ← run_self] at matched
  exact ⟨together.fault, together.executed, together.machine⟩

/-- A shift of V1 into V0. -/
def shiftProgram : Program := ⟨#[0x80, 0x16], by decide⟩

/-- Both registers are zero, so it does not show which of them is shifted. -/
theorem dialect_isolation_of_equal_registers :
    let s : Session := ⟨shiftProgram, {}⟩
    let m := s.powerOn ⟨0, 0⟩
    let r := m.run s.perTick 1 1
    let r' := (m.inDialect .cosmac).run s.perTick 1 1
    m.trace s.perTick 1 = [m] ∧ Instruction.decode? m.fetch = some (.alu .shiftRight 0 1) ∧
    m.dialect.shiftUsesVy ≠ Dialect.cosmac.shiftUsesVy ∧
    r'.fault = r.fault ∧ r'.executed = r.executed ∧
    r'.machine = { r.machine with dialect := .cosmac } := by
  intro s m
  have word : m.fetch = 0x8016 := by
    have first : wordOfBytes shiftProgram.bytes[0] shiftProgram.bytes[1] = 0x8016 := by decide
    exact (fetch_of_load rfl (by decide) rfl).trans first
  have decoded : Instruction.decode? m.fetch = some (.alu .shiftRight 0 1) := by rw [word]; decide
  have started : m.trace s.perTick 1 = [m] :=
    trace_of_ok (cycle_of_decode decoded rfl s.perTick) 0
  have insensitive : ∀ a ∈ m.trace s.perTick 1,
      ∀ i, Instruction.decode? a.fetch = some i → ¬a.Sensitive .cosmac i := by
    rw [started, List.forall_mem_singleton]
    intro i read
    obtain rfl : .alu .shiftRight 0 1 = i := Option.some.inj (decoded.symm.trans read)
    rintro (⟨_, _, differ⟩ | ⟨logic, _⟩)
    · exact differ rfl
    · cases logic
  exact ⟨started, decoded, by decide, dialect_isolation s 1 m .cosmac insensitive⟩

end Machine

end Chip8
