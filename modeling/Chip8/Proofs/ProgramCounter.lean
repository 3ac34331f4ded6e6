import Chip8.Proofs.Forms
import Chip8.Proofs.Frame

/-! Where a program goes on. Most instructions leave the program counter behind their own word,
where fetching them has put it; jumps, calls, returns, skips and the wait for a key move it.
`Form.next` gives the law form by form, in terms of the word and of the machine before the
instruction. -/
namespace Chip8

theorem Nibble.ofNat_congr {a b : Nat} (h : a % 16 = b % 16) : Nibble.ofNat a = .ofNat b :=
  Fin.ext h

theorem Address.toNat_toWord (a : Address) : a.toWord.toNat = a.val := by
  have bound := a.isLt
  simp only [Address.toWord, UInt16.toNat_ofNat']
  omega

/-- No key is held exactly when the mask is zero. -/
theorem Keypad.lowest?_eq_none_iff (p : Keypad) : p.lowest? = none ↔ p.mask = 0 := by
  constructor
  · intro none
    have up (k : Nibble) : p.mask.toNat.testBit k.val = false := by
      simpa [isDown] using List.find?_eq_none.mp none k (List.mem_finRange k)
    apply UInt16.toNat_inj.mp
    apply Nat.eq_of_testBit_eq
    intro k
    by_cases low : k < 16
    · rw [up ⟨k, low⟩]
      simp
    · have bound : p.mask.toNat < 2 ^ k :=
        Nat.lt_of_lt_of_le p.mask.toNat_lt (Nat.pow_le_pow_right (by decide) (by omega))
      rw [Nat.testBit_lt_two_pow bound]
      simp
  · intro zero
    simp [lowest?, isDown, zero]

/-- A return takes the frame below the pointer. -/
theorem CallStack.pop_snd {s : CallStack} (low : 0 < s.pointer) (high : s.pointer ≤ 16) :
    s.pop.2 = s.frames[(s.pointer - 1).toNat]?.getD 0 := by
  obtain ⟨k, hk⟩ : ∃ k : Nat, s.pointer = k + 1 := ⟨(s.pointer - 1).toNat, by omega⟩
  have below : k < 16 := by omega
  have down : s.move (-1) = k := by
    rw [move_of_bounds (by omega) (by omega)]
    omega
  have index : (s.pointer - 1).toNat = k := by omega
  rw [index, pop, down]
  simp [read_of_lt s below, below]

namespace Condition

/-- The condition that holds exactly when this one does not. -/
def opposite : Condition → Condition
  | byteEq x byte => byteNe x byte
  | byteNe x byte => byteEq x byte
  | registerEq x y => registerNe x y
  | registerNe x y => registerEq x y
  | keyDown x => keyUp x
  | keyUp x => keyDown x

end Condition

theorem Machine.holds_opposite (m : Machine) (c : Condition) : m.holds c.opposite = !m.holds c := by
  cases c <;> simp [holds, Condition.opposite, bne]

namespace Form

/-- Whether an instruction of a form skips the next one. -/
def skips (f : Form) (m : Machine) (w : UInt16) : Bool :=
  let x := (m.reg (.ofNat (w.toNat / 256))).toNat
  let y := (m.reg (.ofNat (w.toNat / 16))).toNat
  match f with
  | byteEq => x == w.toNat % 256
  | byteNe => x != w.toNat % 256
  | registerEq => x == y
  | registerNe => x != y
  | keyDown => m.keypad.mask.toNat.testBit (x % 16)
  | keyUp => !m.keypad.mask.toNat.testBit (x % 16)
  | _ => false

/-- Two skips with the same operands and opposite conditions. -/
inductive Opposed (w w' : UInt16) : Prop
  | byte : byteEq.Covers w → byteNe.Covers w' → w.toNat % 4096 = w'.toNat % 4096 → Opposed w w'
  | register : registerEq.Covers w → registerNe.Covers w' → w.toNat % 4096 = w'.toNat % 4096 →
      Opposed w w'
  | key : keyDown.Covers w → keyUp.Covers w' → w.toNat / 256 = w'.toNat / 256 → Opposed w w'

/-- Where the program goes on after the word `w` of a form, before the address is cut to sixteen
bits. -/
def next (f : Form) (m : Machine) (w : UInt16) : Nat :=
  match f with
  | jump | call => w.toNat % 4096
  | ret => (m.stack.frames[(m.stack.pointer - 1).toNat]?.getD 0).toNat
  | jumpOffset =>
    if m.dialect.jumpUsesVx then w.toNat % 256 + (m.reg (.ofNat (w.toNat / 256))).toNat
    else (w.toNat % 4096 + (m.reg (.ofNat 0)).toNat) % 4096
  | awaitKey => if m.keypad.mask = 0 then m.pc.toNat else m.pc.toNat + 2
  | f => if f.skips m w then m.pc.toNat + 4 else m.pc.toNat + 2

end Form

/-- The instructions that leave the program counter alone. -/
def Instruction.sequential : Instruction → Bool
  | ret | jump _ | call _ | skip _ | jumpOffset _ _ | awaitKey _ => false
  | _ => true

namespace Machine

theorem pc_perform_of_sequential (m : Machine) {i : Instruction} (h : i.sequential = true) :
    (m.perform i).pc = m.pc := by
  cases i with
  | ret | jump _ | call _ | skip _ | jumpOffset _ _ | awaitKey _ => cases h
  | alu op x y =>
    obtain ⟨v, writes⟩ := m.performAlu_writes op x y
    rw [perform, writes]
  | addIndex x =>
    obtain ⟨v, writes⟩ := m.performAddIndex_writes x
    rw [perform, writes]
  | store x =>
    obtain ⟨c, j, writes, -⟩ := m.store_writes x
    rw [writes]
  | restore x =>
    obtain ⟨v, j, writes, -⟩ := m.restore_writes x
    rw [writes]
  | _ => rfl

theorem toNat_pc_skipOver (m : Machine) : m.skipOver.pc.toNat = (m.pc.toNat + 2) % 65536 :=
  UInt16.toNat_add m.pc 2

/-- A skip moves the program counter over one more word if its condition holds. -/
theorem pc_perform_skip (m : Machine) (c : Condition) :
    (m.skipOver.perform (.skip c)).pc = if m.holds c then m.pc + 4 else m.pc + 2 := by
  have unseen : m.skipOver.holds c = m.holds c := by cases c <;> rfl
  rw [perform, unseen]
  split
  · exact UInt16.add_assoc m.pc 2 2
  · rfl

/-- The conditions of the skip forms, in terms of the word. -/
theorem holds_of_read {m : Machine} {f : Form} {w : UInt16} {c : Condition}
    (h : f.read w = .skip c) : m.holds c = f.skips m w := by
  have byte (v : UInt8) : (v == UInt8.ofNat w.toNat) = (v.toNat == w.toNat % 256) := by
    rw [Bool.eq_iff_iff, beq_iff_eq, beq_iff_eq, ← UInt8.toNat_inj, UInt8.toNat_ofNat']
  have register (u v : UInt8) : (u == v) = (u.toNat == v.toNat) := by
    rw [Bool.eq_iff_iff, beq_iff_eq, beq_iff_eq, UInt8.toNat_inj]
  cases f with
  | byteEq =>
    cases h
    exact byte _
  | byteNe =>
    cases h
    exact congrArg not (byte _)
  | registerEq =>
    cases h
    exact register _ _
  | registerNe =>
    cases h
    exact congrArg not (register _ _)
  | keyDown | keyUp =>
    cases h
    rfl
  | _ => cases h

theorem pc_perform_skip_read (m : Machine) {f : Form} {w : UInt16} {c : Condition}
    (h : f.read w = .skip c) :
    (m.skipOver.perform (f.read w)).pc.toNat =
      (if f.skips m w then m.pc.toNat + 4 else m.pc.toNat + 2) % 65536 := by
  rw [h, pc_perform_skip, holds_of_read h]
  split
  · exact UInt16.toNat_add m.pc 4
  · exact UInt16.toNat_add m.pc 2

theorem pc_perform_jumpOffset (m : Machine) (w : UInt16) :
    (m.skipOver.perform (Form.jumpOffset.read w)).pc.toNat = Form.jumpOffset.next m w % 65536 := by
  have bound (v : UInt8) : v.toNat < 256 := v.toNat_lt
  have same : m.skipOver.dialect = m.dialect := rfl
  have registers (x : Register) : m.skipOver.reg x = m.reg x := rfl
  have target : (Address.ofNat w.toNat).val = w.toNat % 4096 := rfl
  simp only [Form.read, perform, performJumpOffset, Form.next, Address.toNat_toWord, same,
    registers, target]
  split
  · have offset := bound (m.reg (.ofNat (w.toNat / 256)))
    rw [Address.ofNat, Fin.val_ofNat]
    omega
  · rw [Address.ofNat, Fin.val_ofNat]
    exact (Nat.mod_eq_of_lt (Nat.lt_trans (Nat.mod_lt _ (by decide)) (by decide))).symm

theorem pc_perform_awaitKey (m : Machine) (x : Register) :
    (m.skipOver.perform (.awaitKey x)).pc = if m.keypad.mask = 0 then m.pc else m.pc + 2 := by
  have keys := m.keypad.lowest?_eq_none_iff
  have same : m.skipOver.keypad = m.keypad := rfl
  rw [perform, performAwaitKey, same]
  cases held : m.keypad.lowest? with
  | none =>
    rw [if_pos (keys.mp held)]
    exact UInt16.add_sub_cancel m.pc 2
  | some k =>
    rw [if_neg fun zero => by simp [keys.mpr zero] at held]
    rfl

theorem pc_perform_read (m : Machine) (f : Form) (w : UInt16)
    (inside : f = .ret → 0 < m.stack.pointer ∧ m.stack.pointer ≤ 16) :
    (m.skipOver.perform (f.read w)).pc.toNat = f.next m w % 65536 := by
  cases f with
  | jump | call =>
    have target : (Address.ofNat w.toNat).toWord.toNat = w.toNat % 4096 := Address.toNat_toWord _
    have small : w.toNat % 4096 % 65536 = w.toNat % 4096 := by omega
    exact target.trans small.symm
  | ret =>
    obtain ⟨low, high⟩ := inside rfl
    have popped : (m.skipOver.perform .ret).pc =
        m.stack.frames[(m.stack.pointer - 1).toNat]?.getD 0 :=
      CallStack.pop_snd low high
    have bound := (m.skipOver.perform .ret).pc.toNat_lt
    rw [Form.read, Form.next, ← popped, Nat.mod_eq_of_lt bound]
  | jumpOffset => exact m.pc_perform_jumpOffset w
  | awaitKey =>
    have bound := m.pc.toNat_lt
    rw [Form.read, pc_perform_awaitKey, Form.next]
    split
    · rw [Nat.mod_eq_of_lt bound]
    · exact UInt16.toNat_add m.pc 2
  | byteEq | byteNe | registerEq | registerNe | keyDown | keyUp =>
    exact m.pc_perform_skip_read rfl
  | _ =>
    rw [pc_perform_of_sequential _ rfl, toNat_pc_skipOver]
    rfl

theorem decode_of_opposed {w w' : UInt16} (h : Form.Opposed w w') :
    ∃ c : Condition, Instruction.decode? w = some (.skip c) ∧
      Instruction.decode? w' = some (.skip c.opposite) := by
  cases h with
  | byte first second same =>
    have x : Nibble.ofNat (w'.toNat / 256) = .ofNat (w.toNat / 256) :=
      Nibble.ofNat_congr (by omega)
    have byte : UInt8.ofNat w'.toNat = UInt8.ofNat w.toNat := by
      apply UInt8.toNat_inj.mp
      rw [UInt8.toNat_ofNat', UInt8.toNat_ofNat']
      omega
    refine ⟨_, Instruction.decode_of_governs (first.governs (by decide)), ?_⟩
    rw [Instruction.decode_of_governs (second.governs (by decide)), Form.read, x, byte]
    rfl
  | register first second same =>
    have x : Nibble.ofNat (w'.toNat / 256) = .ofNat (w.toNat / 256) :=
      Nibble.ofNat_congr (by omega)
    have y : Nibble.ofNat (w'.toNat / 16) = .ofNat (w.toNat / 16) :=
      Nibble.ofNat_congr (by omega)
    refine ⟨_, Instruction.decode_of_governs (first.governs (by decide)), ?_⟩
    rw [Instruction.decode_of_governs (second.governs (by decide)), Form.read, x, y]
    rfl
  | key first second same =>
    refine ⟨_, Instruction.decode_of_governs (first.governs (by decide)), ?_⟩
    rw [Instruction.decode_of_governs (second.governs (by decide)), Form.read, ← same]
    rfl

theorem execute_skip {m : Machine} {w : UInt16} {c : Condition}
    (h : Instruction.decode? w = some (.skip c)) :
    ∃ m', m.skipOver.execute w = .ok m' ∧ m'.pc = if m.holds c then m.pc + 4 else m.pc + 2 :=
  ⟨_, execute_eq_ok_iff.mpr ⟨.skip c, h, rfl, rfl⟩, m.pc_perform_skip c⟩

/-- An instruction that completes moves the program counter as the law of its form says, for the one
form that governs its word; a return needs a stack whose pointer is not beyond the frames. Of two
skips with the same operands and opposite conditions exactly one skips. -/
theorem next_pc_law (m : Machine) :
    (∀ m', m.step = .ok m' → (m.fetch = 0x00EE → m.stack.pointer ≤ 16) →
      ∃ f : Form, (∀ g : Form, g.Governs m.fetch ↔ g = f) ∧
        m'.pc.toNat = f.next m m.fetch % 65536) ∧
    ∀ w w', Form.Opposed w w' →
      ∃ m₁ m₂, m.skipOver.execute w = .ok m₁ ∧ m.skipOver.execute w' = .ok m₂ ∧
        (m₁.pc = m.pc + 4 ∧ m₂.pc = m.pc + 2 ∨ m₁.pc = m.pc + 2 ∧ m₂.pc = m.pc + 4) := by
  constructor
  · intro m' ran inside
    obtain ⟨i, decoded, free, rfl⟩ := step_eq_ok_iff.mp ran
    obtain ⟨f, governs, rfl⟩ := Instruction.decode_eq_some_iff.mp decoded
    refine ⟨f, fun g => ⟨governs.unique, fun same => same ▸ governs⟩,
      m.pc_perform_read f m.fetch ?_⟩
    rintro rfl
    have unobstructed : m.obstacle? (some .ret) = none := free
    have nonempty : 0 < m.stack.pointer := by
      simpa [obstacle?, CallStack.isEmpty] using unobstructed
    exact ⟨nonempty, inside (Form.covers_ret_iff.mp governs.1)⟩
  · intro w w' opposed
    obtain ⟨c, decoded, decoded'⟩ := decode_of_opposed opposed
    obtain ⟨m₁, ran, pc⟩ := execute_skip (m := m) decoded
    obtain ⟨m₂, ran', pc'⟩ := execute_skip (m := m) decoded'
    rw [holds_opposite] at pc'
    refine ⟨m₁, m₂, ran, ran', ?_⟩
    cases holds : m.holds c with
    | true => exact .inl ⟨by rw [pc, holds]; rfl, by rw [pc', holds]; rfl⟩
    | false => exact .inr ⟨by rw [pc, holds]; rfl, by rw [pc', holds]; rfl⟩

/-- A return in the last word of memory, under a full stack, met by a program counter that is about
to wrap around. -/
def returnAtEnd : Machine :=
  { (powerOn ⟨0, 0⟩ .modern).write ⟨4095, by decide⟩ 0xEE with
    pc := 65534
    stack := ⟨Vector.replicate 16 0x0300, 16⟩ }

theorem fetch_returnAtEnd : returnAtEnd.fetch = 0x00EE := by
  have places : Address.after returnAtEnd.pc 0 = ⟨4094, by decide⟩ ∧
      Address.after returnAtEnd.pc 1 = ⟨4095, by decide⟩ := by decide
  have high : returnAtEnd.read ⟨4094, by decide⟩ = 0 := by
    have blank : blankMemory[4094] = 0 := by simp [blankMemory]
    exact (Vector.getElem_set_ne (by decide) _ (by decide)).trans blank
  have low : returnAtEnd.read ⟨4095, by decide⟩ = 0xEE := Vector.getElem_set_self _
  rw [fetch, places.1, places.2, high, low]
  rfl

/-- The return takes the last frame. A skip in its place would lead around to address 0 or 2. -/
theorem next_pc_law_around_the_end :
    let m := returnAtEnd
    m.fetch = 0x00EE ∧ m.stack.pointer = 16 ∧ (∃ m', m.step = .ok m' ∧ m'.pc = 0x0300) ∧
    Form.Opposed 0x3000 0x4000 ∧
    ∃ m₁ m₂, m.skipOver.execute 0x3000 = .ok m₁ ∧ m.skipOver.execute 0x4000 = .ok m₂ ∧
      (m₁.pc = 2 ∧ m₂.pc = 0 ∨ m₁.pc = 0 ∧ m₂.pc = 2) := by
  intro m
  have word : m.fetch = 0x00EE := fetch_returnAtEnd
  have opposed : Form.Opposed 0x3000 0x4000 := .byte (by decide) (by decide) (by decide)
  obtain ⟨law, pairs⟩ := next_pc_law m
  obtain ⟨m₁, m₂, ran₁, ran₂, pcs⟩ := pairs _ _ opposed
  have around : m.pc + 2 = 0 ∧ m.pc + 4 = 2 := by decide
  rw [around.1, around.2] at pcs
  refine ⟨word, rfl, ?_, opposed, m₁, m₂, ran₁, ran₂, pcs⟩
  have ran : m.step = .ok (m.skipOver.perform .ret) := by
    refine step_eq_ok_iff.mpr ⟨.ret, ?_, rfl, rfl⟩
    rw [word]
    rfl
  obtain ⟨f, governs, pc⟩ := law _ ran fun _ => by decide
  have covered : Form.ret.Covers m.fetch := Form.covers_ret_iff.mpr word
  have returns : Form.ret = f := (governs .ret).mp (covered.governs (by decide))
  rw [← returns] at pc
  exact ⟨_, ran, UInt16.toNat_inj.mp pc⟩

end Machine

end Chip8
