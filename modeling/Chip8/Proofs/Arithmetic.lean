import Chip8.Proofs.Decoding
import Chip8.Proofs.Frame

/-! Arithmetic on registers. `Alu.Law` says what the nine forms of 8XYN make of VX and VY as
equations between numbers, and which of them have something to tell VF. The result is written before
the flag, so the law of the registers is the same for all X and Y: VF ends with the flag where there
is one, also where it is one of the operands. -/
namespace Chip8

namespace Alu

/-- What 8XYN makes of VX = `a` and VY = `b`: the result `r` for VX, and what goes to VF after it.
-/
def Law (op : Alu) (d : Dialect) (a b r : Nat) (flag : Option Nat) : Prop :=
  let shifted := if d.shiftUsesVy then b else a
  let cleared := if d.logicResetsVf then some 0 else none
  match op with
  | set => r = b ∧ flag = none
  | or => r = a ||| b ∧ flag = cleared
  | and => r = a &&& b ∧ flag = cleared
  | xor => r = a ^^^ b ∧ flag = cleared
  | add => ∃ f : Nat, f ≤ 1 ∧ flag = some f ∧ (256 * f + r : Int) = a + b
  | sub => ∃ f : Nat, f ≤ 1 ∧ flag = some f ∧ (r + b : Int) = a + 256 * (1 - f)
  | subReverse => ∃ f : Nat, f ≤ 1 ∧ flag = some f ∧ (r + a : Int) = b + 256 * (1 - f)
  | shiftRight => ∃ f : Nat, f ≤ 1 ∧ flag = some f ∧ (2 * r + f : Int) = shifted
  | shiftLeft => ∃ f : Nat, f ≤ 1 ∧ flag = some f ∧ (256 * f + r : Int) = 2 * shifted

theorem add_carry (a b : UInt8) :
    let (r, f) := add.apply a b
    f.toNat ≤ 1 ∧ (256 * f.toNat + r.toNat : Int) = a.toNat + b.toNat := by
  have ha := a.toNat_lt
  have hb := b.toNat_lt
  simp only [apply, UInt8.toNat_add]
  split
  · exact ⟨by decide, by simp only [UInt8.reduceToNat]; omega⟩
  · exact ⟨by decide, by simp only [UInt8.reduceToNat]; omega⟩

/-- The flag of a subtraction tells the absence of a borrow. -/
theorem sub_borrow (a b : UInt8) :
    let (r, f) := sub.apply a b
    f.toNat ≤ 1 ∧ (r.toNat + b.toNat : Int) = a.toNat + 256 * (1 - f.toNat) := by
  have ha := a.toNat_lt
  have hb := b.toNat_lt
  simp only [apply, UInt8.toNat_sub, UInt8.le_iff_toNat_le]
  split
  · exact ⟨by decide, by simp only [UInt8.reduceToNat]; omega⟩
  · exact ⟨by decide, by simp only [UInt8.reduceToNat]; omega⟩

theorem shiftRight_bit (a b : UInt8) :
    let (r, f) := shiftRight.apply a b
    f.toNat ≤ 1 ∧ (2 * r.toNat + f.toNat : Int) = a.toNat := by
  have half : (a >>> 1).toNat = a.toNat / 2 := by
    rw [UInt8.toNat_shiftRight, Nat.shiftRight_eq_div_pow]
    rfl
  have low : (a &&& 1).toNat = a.toNat % 2 := by
    rw [UInt8.toNat_and]
    exact Nat.and_one_is_mod a.toNat
  dsimp only [apply]
  omega

theorem shiftLeft_bit (a b : UInt8) :
    let (r, f) := shiftLeft.apply a b
    f.toNat ≤ 1 ∧ (256 * f.toNat + r.toNat : Int) = 2 * a.toNat := by
  have bound := a.toNat_lt
  have double : (a <<< 1).toNat = a.toNat * 2 % 256 := by
    rw [UInt8.toNat_shiftLeft, Nat.shiftLeft_eq]
    rfl
  have high : (a >>> 7).toNat = a.toNat / 128 := by
    rw [UInt8.toNat_shiftRight, Nat.shiftRight_eq_div_pow]
    rfl
  dsimp only [apply]
  omega

/-- What VX is for an operation: under one dialect a shift takes VY in its place. -/
def operand (op : Alu) (d : Dialect) (vx vy : UInt8) : UInt8 :=
  if op.isShift && d.shiftUsesVy then vy else vx

/-- What goes to VF after the result. -/
def flag? (op : Alu) (d : Dialect) (vx vy : UInt8) : Option UInt8 :=
  if op.setsFlag || (op.isLogic && d.logicResetsVf) then some (op.apply (op.operand d vx vy) vy).2
  else none

/-- The operations that have a flag to write: the arithmetic and, if the dialect says so, the logic.
-/
theorem flag?_eq_none_or (op : Alu) (d : Dialect) (vx vy : UInt8) :
    op.flag? d vx vy = none ∨ op.nibble ∈ [0x4, 0x5, 0x6, 0x7, 0xE] ∨
      d.logicResetsVf = true ∧ op.nibble ∈ [0x1, 0x2, 0x3] := by
  cases op with
  | set => exact .inl rfl
  | or | and | xor =>
    cases resets : d.logicResetsVf with
    | true => exact .inr (.inr ⟨rfl, by decide⟩)
    | false => exact .inl (if_neg (by simp [setsFlag, resets]))
  | add | sub | subReverse | shiftRight | shiftLeft => exact .inr (.inl (by decide))

theorem apply_law (op : Alu) (d : Dialect) (vx vy : UInt8) :
    op.Law d vx.toNat vy.toNat (op.apply (op.operand d vx vy) vy).1.toNat
      ((op.flag? d vx vy).map UInt8.toNat) := by
  have shifted : (if d.shiftUsesVy then vy.toNat else vx.toNat) =
      (if d.shiftUsesVy then vy else vx).toNat := by
    split <;> rfl
  have cleared : ((if d.logicResetsVf then some 0 else none : Option UInt8).map UInt8.toNat) =
      if d.logicResetsVf then some 0 else none := by
    split <;> rfl
  cases op with
  | set => exact ⟨rfl, rfl⟩
  | or => exact ⟨UInt8.toNat_or vx vy, cleared⟩
  | and => exact ⟨UInt8.toNat_and vx vy, cleared⟩
  | xor => exact ⟨UInt8.toNat_xor vx vy, cleared⟩
  | add =>
    obtain ⟨small, sum⟩ := add_carry vx vy
    exact ⟨_, small, rfl, sum⟩
  | sub =>
    obtain ⟨small, difference⟩ := sub_borrow vx vy
    exact ⟨_, small, rfl, difference⟩
  | subReverse =>
    obtain ⟨small, difference⟩ := sub_borrow vy vx
    exact ⟨_, small, rfl, difference⟩
  | shiftRight =>
    obtain ⟨small, halves⟩ := shiftRight_bit (shiftRight.operand d vx vy) vy
    refine ⟨_, small, rfl, ?_⟩
    rw [shifted]
    exact halves
  | shiftLeft =>
    obtain ⟨small, double⟩ := shiftLeft_bit (shiftLeft.operand d vx vy) vy
    refine ⟨_, small, rfl, ?_⟩
    rw [shifted]
    exact double

end Alu

namespace Machine

/-- The result goes to VX, then the flag to VF if there is one. -/
theorem reg_performAlu (m : Machine) (op : Alu) (x y z : Register) :
    (m.performAlu op x y).reg z =
      (if z = .flag then op.flag? m.dialect (m.reg x) (m.reg y) else none).getD
        (if z = x then (op.apply (op.operand m.dialect (m.reg x) (m.reg y)) (m.reg y)).1
        else m.reg z) := by
  unfold performAlu Alu.flag?
  dsimp only
  by_cases flags : (op.setsFlag || (op.isLogic && m.dialect.logicResetsVf)) = true
  · rw [if_pos flags, if_pos flags]
    by_cases last : z = .flag
    · rw [if_pos last, last, reg_setReg]
      rfl
    · rw [if_neg last, reg_setReg_of_ne _ last, reg_setReg_eq]
      rfl
  · rw [if_neg flags, if_neg flags, ite_self, reg_setReg_eq]
    rfl

/-- Every 8XYN runs. VX and VY may be the same register, and either of them may be VF: the result
goes to VX, VF ends with the flag if there is one, and everything else stays. -/
theorem alu_law (m : Machine) (op : Alu) (x y : Register) :
    ∃ m' r flag, m.execute (UInt16.ofNat (Instruction.alu op x y).word) = .ok m' ∧
      r < 256 ∧ op.Law m.dialect (m.reg x).toNat (m.reg y).toNat r flag ∧
      (∀ z, (m'.reg z).toNat =
        (if z = .flag then flag else none).getD (if z = x then r else (m.reg z).toNat)) ∧
      m' = { m with registers := m'.registers } := by
  refine ⟨m.performAlu op x y, _, _, ?_, UInt8.toNat_lt _, op.apply_law _ _ _, ?_, ?_⟩
  · exact execute_eq_ok_iff.mpr ⟨.alu op x y, Instruction.decode_alu op x y, rfl, rfl⟩
  · intro z
    rw [reg_performAlu]
    by_cases last : z = .flag
    · rw [if_pos last, if_pos last]
      cases op.flag? m.dialect (m.reg x) (m.reg y) with
      | some f => rfl
      | none => exact apply_ite UInt8.toNat _ _ _
    · rw [if_neg last, if_neg last]
      exact apply_ite UInt8.toNat _ _ _
  · obtain ⟨v, written⟩ := m.performAlu_writes op x y
    rw [written]

end Machine

end Chip8
