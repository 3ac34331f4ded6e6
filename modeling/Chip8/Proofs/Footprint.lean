import Chip8.Proofs.Arithmetic
import Chip8.Proofs.Dispatch
import Chip8.Proofs.RegisterDump

/-! What a word can touch. The forms are listed field by field: which of them may change the
display, the stack, the random stream, a timer or I, which registers and which cells of memory they
reach. The held keys, the count of completed instructions and the dialect belong to the host, and no
form touches them. -/
namespace Chip8

namespace Form

/-- The registers that a word of a form may change. -/
def Touches (f : Form) (m : Machine) (w : UInt16) (z : Register) : Prop :=
  let x := Nibble.ofNat (w.toNat / 256)
  match f with
  | load | add | random | readDelay | awaitKey => z = x
  | alu op => z = x ∨ z = .flag ∧
      (op.nibble ∈ [0x4, 0x5, 0x6, 0x7, 0xE] ∨
        m.dialect.logicResetsVf = true ∧ op.nibble ∈ [0x1, 0x2, 0x3])
  | draw => z = .flag
  | addIndex => z = .flag ∧ m.dialect.indexOverflowSetsVf = true
  | restore => z ≤ x
  | _ => False

/-- The cells that a word of a form may change. -/
def Reaches (f : Form) (m : Machine) (w : UInt16) (a : Address) : Prop :=
  let x := Nibble.ofNat (w.toNat / 256)
  match f with
  | decimal => ∃ k < 3, a = .ofNat (m.index.toNat + k)
  | store => ∃ k ≤ x.val, a = .ofNat (m.index.toNat + k)
  | _ => False

/-- What may differ in `m'` after a word of a form on `m`. -/
structure Confines (f : Form) (m : Machine) (w : UInt16) (m' : Machine) : Prop where
  keypad : m'.keypad = m.keypad
  completed : m'.completed = m.completed
  dialect : m'.dialect = m.dialect
  display : m'.display = m.display ∨ f = clear ∨ f = draw
  stack : m'.stack = m.stack ∨ f = call ∨ f = ret
  streamKey : m'.streamKey = m.streamKey ∨ f = random
  delay : m'.delay = m.delay ∨ f = setDelay
  sound : m'.sound = m.sound ∨ f = setSound
  index : m'.index = m.index ∨ f = setIndex ∨ f = addIndex ∨ f = glyph ∨
    m.dialect.loadStoreIncrementsI = true ∧ (f = store ∨ f = restore)
  memory : ∀ a, m'.read a = m.read a ∨ f.Reaches m w a
  registers : ∀ z, m'.reg z = m.reg z ∨ f.Touches m w z

end Form

namespace Machine

variable {m : Machine} {f : Form} {w : UInt16}

theorem confines_self (m : Machine) (f : Form) (w : UInt16) : f.Confines m w m :=
  ⟨rfl, rfl, rfl, .inl rfl, .inl rfl, .inl rfl, .inl rfl, .inl rfl, .inl rfl, fun _ => .inl rfl,
    fun _ => .inl rfl⟩

/-- One register is written and no other changes. -/
theorem reg_setReg_or (m : Machine) (x : Register) (v : UInt8) (z : Register) :
    (m.setReg x v).reg z = m.reg z ∨ z = x := by
  by_cases same : z = x
  · exact .inr same
  · exact .inl (m.reg_setReg_of_ne same v)

theorem confines_setReg {v : UInt8} {x : Register} (touches : f.Touches m w x) :
    f.Confines m w (m.setReg x v) :=
  { m.confines_self _ w with
    registers := fun z => (m.reg_setReg_or x v z).imp_right fun (same : z = x) => same ▸ touches }

theorem performDraw_writes (m : Machine) (x y : Register) (height : Nibble) :
    ∃ d v, m.performDraw x y height = { m with display := d }.setReg .flag v :=
  ⟨_, _, rfl⟩

/-- I and, if the dialect says so, VF. -/
theorem confines_addIndex (m : Machine) (w : UInt16) (x : Register) :
    Form.addIndex.Confines m w (m.performAddIndex x) := by
  unfold performAddIndex
  dsimp only
  split
  · rename_i flags
    exact { m.confines_self _ w with
      index := .inr (.inr (.inl rfl))
      registers := fun z => (reg_setReg_or _ _ _ z).imp_right fun last => ⟨last, flags⟩ }
  · exact { m.confines_self _ w with index := .inr (.inr (.inl rfl)) }

theorem confines_awaitKey (m : Machine) (w : UInt16) :
    Form.awaitKey.Confines m w (m.performAwaitKey (.ofNat (w.toNat / 256))) := by
  unfold performAwaitKey
  split
  · exact confines_setReg rfl
  · exact { m.confines_self _ w with }

theorem confines_alu (m : Machine) (op : Alu) (w : UInt16) (y : Register) :
    (Form.alu op).Confines m w (m.performAlu op (.ofNat (w.toNat / 256)) y) := by
  have ends := m.reg_performAlu op (.ofNat (w.toNat / 256)) y
  obtain ⟨v, written⟩ := m.performAlu_writes op (.ofNat (w.toNat / 256)) y
  rw [written] at ends ⊢
  refine { m.confines_self _ w with registers := fun z => ?_ }
  rw [ends z]
  by_cases result : z = .ofNat (w.toNat / 256)
  · exact .inr (.inl result)
  rw [if_neg result]
  by_cases last : z = .flag
  · rw [if_pos last]
    -- VF that is not VX: it keeps its value unless the operation has a flag.
    obtain unflagged | flagged :=
      op.flag?_eq_none_or m.dialect (m.reg (.ofNat (w.toNat / 256))) (m.reg y)
    · rw [unflagged]
      exact .inl rfl
    · exact .inr (.inr ⟨last, flagged⟩)
  · rw [if_neg last]
    exact .inl rfl

/-- FX55 and FX65 move I only in the dialects that say so. -/
theorem index_kept_or {d : Dialect} {i j : UInt16} (h : d.loadStoreIncrementsI = false → j = i) :
    j = i ∨ d.loadStoreIncrementsI = true := by
  cases moves : d.loadStoreIncrementsI with
  | true => exact .inr rfl
  | false => exact .inl (h moves)

theorem confines_store (m : Machine) (w : UInt16) :
    Form.store.Confines m w (m.perform (.store (.ofNat (w.toNat / 256)))) := by
  have memory := m.memory_perform_store (.ofNat (w.toNat / 256))
  obtain ⟨c, j, written, kept⟩ := m.store_writes (.ofNat (w.toNat / 256))
  rw [written] at memory ⊢
  refine { m.confines_self _ w with index := ?_, memory := fun a => ?_ }
  · exact (index_kept_or kept).imp_right fun moves => .inr (.inr (.inr ⟨moves, .inl rfl⟩))
  · rw [read, memory, storedMemory_eq_scatter]
    refine (scatter_or a).imp_right ?_
    rintro ⟨i, hi, here⟩
    have bound : i ≤ .ofNat (w.toNat / 256) := by simpa using hi
    exact ⟨i.val, bound, here.symm⟩

theorem confines_restore (m : Machine) (w : UInt16) :
    Form.restore.Confines m w (m.perform (.restore (.ofNat (w.toNat / 256)))) := by
  have registers := m.reg_perform_restore (.ofNat (w.toNat / 256))
  obtain ⟨v, j, written, kept⟩ := m.restore_writes (.ofNat (w.toNat / 256))
  rw [written] at registers ⊢
  refine { m.confines_self _ w with index := ?_, registers := fun z => ?_ }
  · exact (index_kept_or kept).imp_right fun moves => .inr (.inr (.inr ⟨moves, .inr rfl⟩))
  · rw [registers z]
    split
    · exact .inr ‹_›
    · exact .inl rfl

/-- The three digits of a byte, the hundreds first. -/
def digit (v : UInt8) (k : Register) : UInt8 :=
  if k.val = 0 then UInt8.ofNat (v.toNat / 100)
  else if k.val = 1 then UInt8.ofNat (v.toNat / 10 % 10)
  else UInt8.ofNat (v.toNat % 10)

theorem performDecimal_eq (m : Machine) (x : Register) :
    m.performDecimal x =
      { m with memory := scatter m.index (digit (m.reg x)) [0, 1, 2] m.memory } :=
  rfl

theorem digits (v : UInt8) :
    digit v 0 ≤ 9 ∧ digit v 1 ≤ 9 ∧ digit v 2 ≤ 9 ∧
      100 * (digit v 0).toNat + 10 * (digit v 1).toNat + (digit v 2).toNat = v.toNat := by
  have bound := v.toNat_lt
  have hundreds : (digit v 0).toNat = v.toNat / 100 % 256 := UInt8.toNat_ofNat'
  have tens : (digit v 1).toNat = v.toNat / 10 % 10 % 256 := UInt8.toNat_ofNat'
  have ones : (digit v 2).toNat = v.toNat % 10 % 256 := UInt8.toNat_ofNat'
  simp only [UInt8.le_iff_toNat_le, UInt8.reduceToNat, hundreds, tens, ones]
  omega

theorem confines_decimal (m : Machine) (w : UInt16) (x : Register) :
    Form.decimal.Confines m w (m.performDecimal x) := by
  rw [performDecimal_eq]
  refine { m.confines_self _ w with memory := fun a => (scatter_or a).imp_right ?_ }
  rintro ⟨i, hi, here⟩
  have three : ∀ k ∈ [(0 : Register), 1, 2], k.val < 3 := by decide
  exact ⟨i.val, three i hi, here.symm⟩

theorem confines_perform (m : Machine) (f : Form) (w : UInt16) :
    f.Confines m w (m.perform (f.read w)) := by
  cases f with
  | system => exact m.confines_self _ w
  | jump | jumpOffset => exact { m.confines_self _ w with }
  | byteEq | byteNe | registerEq | registerNe | keyDown | keyUp =>
    simp only [Form.read, perform]
    split
    · exact { m.confines_self _ w with }
    · exact m.confines_self _ w
  | clear => exact { m.confines_self _ w with display := .inr (.inl rfl) }
  | ret => exact { m.confines_self _ w with stack := .inr (.inr rfl) }
  | call => exact { m.confines_self _ w with stack := .inr (.inl rfl) }
  | load | add | readDelay => exact confines_setReg rfl
  | alu op => exact m.confines_alu op w _
  | random =>
    exact { m.confines_self _ w with streamKey := .inr rfl, registers := reg_setReg_or _ _ _ }
  | draw =>
    obtain ⟨d, v, written⟩ := m.performDraw_writes (.ofNat (w.toNat / 256))
      (.ofNat (w.toNat / 16)) (.ofNat w.toNat)
    rw [Form.read, perform, written]
    exact { m.confines_self _ w with display := .inr (.inr rfl), registers := reg_setReg_or _ _ _ }
  | awaitKey => exact m.confines_awaitKey w
  | setDelay => exact { m.confines_self _ w with delay := .inr rfl }
  | setSound => exact { m.confines_self _ w with sound := .inr rfl }
  | setIndex => exact { m.confines_self _ w with index := .inr (.inl rfl) }
  | addIndex => exact m.confines_addIndex w _
  | glyph => exact { m.confines_self _ w with index := .inr (.inr (.inr (.inl rfl))) }
  | decimal => exact m.confines_decimal w _
  | store => exact m.confines_store w
  | restore => exact m.confines_restore w

/-- A word that runs stays within its form, and any other word changes nothing. -/
theorem execute_confines (m : Machine) (w : UInt16) :
    m.apply (.execute w) = m ∨
      ∃ f : Form, (∀ g : Form, g.Governs w ↔ g = f) ∧ f.Confines m w (m.apply (.execute w)) := by
  cases ran : m.execute w with
  | error fault => exact .inl (congrArg Prod.fst (execute_error_iff_obey.mp ran))
  | ok m' =>
    obtain ⟨i, decoded, -, rfl⟩ := execute_eq_ok_iff.mp ran
    obtain ⟨f, governs, rfl⟩ := Instruction.decode_eq_some_iff.mp decoded
    refine .inr ⟨f, fun g => ⟨governs.unique, fun same => same ▸ governs⟩, ?_⟩
    rw [apply, execute_ok_iff_obey.mp ran]
    exact m.confines_perform f w

theorem execute_decimal {w : UInt16} (h : Form.decimal.Covers w) (m : Machine) :
    m.apply (.execute w) = m.performDecimal (.ofNat (w.toNat / 256)) := by
  have decoded := Instruction.decode_of_governs (h.governs (by decide))
  have ran : m.execute w = .ok (m.performDecimal (.ofNat (w.toNat / 256))) :=
    execute_eq_ok_iff.mpr ⟨_, decoded, rfl, rfl⟩
  exact congrArg Prod.fst (execute_ok_iff_obey.mp ran)

/-- Whatever the machine and the word: what changes is confined to the form that governs the word.
FX33 writes the decimal digits of VX to the three cells from I on, around the end of memory. -/
theorem frame_law (m : Machine) (w : UInt16) :
    let m' := m.apply (.execute w)
    let i := m.index.toNat
    (m' = m ∨ ∃ f : Form, (∀ g : Form, g.Governs w ↔ g = f) ∧ f.Confines m w m') ∧
    (Form.decimal.Covers w → ∃ a b c : UInt8, a ≤ 9 ∧ b ≤ 9 ∧ c ≤ 9 ∧
      100 * a.toNat + 10 * b.toNat + c.toNat = (m.reg (.ofNat (w.toNat / 256))).toNat ∧
      m'.read (.ofNat i) = a ∧ m'.read (.ofNat (i + 1)) = b ∧ m'.read (.ofNat (i + 2)) = c) := by
  intro m' i
  refine ⟨m.execute_confines w, fun decimal => ?_⟩
  have after := execute_decimal decimal m
  rw [performDecimal_eq] at after
  have written (k : Register) (hk : k ∈ [(0 : Register), 1, 2]) :
      m'.read (.after m.index k.val) = digit (m.reg (.ofNat (w.toNat / 256))) k := by
    rw [show m' = _ from after]
    exact scatter_inside hk
  obtain ⟨hundreds, tens, ones, sum⟩ := digits (m.reg (.ofNat (w.toNat / 256)))
  exact ⟨_, _, _, hundreds, tens, ones, sum, written 0 (by decide), written 1 (by decide),
    written 2 (by decide)⟩

/-- The digits of 255 go around the end of memory, with I beyond it. -/
theorem frame_law_around_the_end :
    let m := { (powerOn ⟨0, 0⟩ .modern).setReg 5 255 with index := 0xFFFE }
    let m' := m.apply (.execute 0xF533)
    Form.decimal.Covers 0xF533 ∧ ∃ a b c : UInt8, a ≤ 9 ∧ b ≤ 9 ∧ c ≤ 9 ∧
      100 * a.toNat + 10 * b.toNat + c.toNat = 255 ∧
      m'.read 4094 = a ∧ m'.read 4095 = b ∧ m'.read 0 = c := by
  intro m m'
  have covered : Form.decimal.Covers 0xF533 := by decide
  obtain ⟨a, b, c, hundreds, tens, ones, sum, first, second, third⟩ :=
    (frame_law m 0xF533).2 covered
  have value : (m.reg (.ofNat (UInt16.toNat 0xF533 / 256))).toNat = 255 := by decide
  have places : Address.ofNat m.index.toNat = 4094 ∧
      Address.ofNat (m.index.toNat + 1) = 4095 ∧ Address.ofNat (m.index.toNat + 2) = 0 := by
    decide
  rw [value] at sum
  rw [places.1] at first
  rw [places.2.1] at second
  rw [places.2.2] at third
  exact ⟨covered, a, b, c, hundreds, tens, ones, sum, first, second, third⟩

end Machine

end Chip8
