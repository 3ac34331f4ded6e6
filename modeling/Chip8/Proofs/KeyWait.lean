import Chip8.Proofs.ProgramCounter
import Chip8.Proofs.Timers

/-! Waiting for a key. As long as no key is held, FX0A runs again and again and only time passes:
the instructions count and the timers fall. The first cycle that sees a key takes the lowest one and
goes on. -/
namespace Chip8

/-- The lowest key is held and no key below it is. -/
theorem Keypad.lowest?_of_ne_zero (p : Keypad) (h : p.mask ≠ 0) :
    ∃ k : Nibble, p.lowest? = some k ∧ p.mask.toNat.testBit k.val = true ∧
      ∀ j < k.val, p.mask.toNat.testBit j = false := by
  have held : p.lowest? ≠ none := fun none => h (p.lowest?_eq_none_iff.mp none)
  obtain ⟨k, lowest⟩ := Option.ne_none_iff_exists'.mp held
  obtain ⟨down, i, bound, rfl, up⟩ := List.find?_eq_some_iff_getElem.mp lowest
  refine ⟨_, lowest, down, fun j hj => ?_⟩
  rw [List.getElem_finRange] at hj
  simpa [isDown] using up j hj

namespace Machine

/-- The machine after `n` instructions that do nothing: they are counted and the timers fall. -/
def elapse (perTick n : Nat) (m : Machine) : Machine :=
  { m with
    completed := m.completed + UInt32.ofNat n
    delay := UInt8.ofNat (m.delay.toNat - ticks perTick m.completed.toNat n)
    sound := UInt8.ofNat (m.sound.toNat - ticks perTick m.completed.toNat n) }

theorem elapse_zero (perTick : Nat) (m : Machine) : m.elapse perTick 0 = m := by
  simp [elapse, ticks]

theorem elapse_one (perTick : Nat) (m : Machine) :
    m.elapse perTick 1 = { m.dueTick perTick with completed := m.completed + 1 } := by
  have falls (t : Timer) : UInt8.ofNat ((m.timer t).toNat - ticks perTick m.completed.toNat 1) =
      (m.dueTick perTick).timer t := by
    rw [← timer_dueTick, UInt8.ofNat_toNat]
  obtain ⟨d, s, ticked⟩ := dueTick_writes perTick m
  rw [ticked] at falls ⊢
  rw [← show _ = d from falls .delay, ← show _ = s from falls .sound]
  rfl

theorem elapse_elapse (perTick j k : Nat) (m : Machine) :
    (m.elapse perTick j).elapse perTick k = m.elapse perTick (j + k) := by
  have phase : ticks perTick (m.completed + UInt32.ofNat j).toNat k =
      ticks perTick (m.completed.toNat + j) k := by
    rw [UInt32.toNat_add, UInt32.toNat_ofNat', Nat.add_mod_mod, ticks_mod]
  have falls (v : UInt8) :
      UInt8.ofNat ((UInt8.ofNat (v.toNat - ticks perTick m.completed.toNat j)).toNat -
        ticks perTick (m.completed.toNat + j) k) =
      UInt8.ofNat (v.toNat - ticks perTick m.completed.toNat (j + k)) := by
    have small : v.toNat - ticks perTick m.completed.toNat j < 256 :=
      Nat.lt_of_le_of_lt (Nat.sub_le _ _) v.toNat_lt
    rw [UInt8.toNat_ofNat', Nat.mod_eq_of_lt small, Nat.sub_sub, ticks_add]
  simp only [elapse, phase, falls, UInt32.ofNat_add, UInt32.add_assoc]

variable {m : Machine} {x : Register}

/-- Fetching FX0A and stepping back from it leaves the program counter where it was, wherever that
is. -/
theorem cycle_waiting (decoded : Instruction.decode? m.fetch = some (.awaitKey x))
    (idle : m.keypad.mask = 0) (perTick : Nat) :
    m.cycle perTick = .ok (m.elapse perTick 1) := by
  have released : m.keypad.lowest? = none := m.keypad.lowest?_eq_none_iff.mpr idle
  have back : m.pc + 2 - 2 = m.pc := UInt16.add_sub_cancel m.pc 2
  rw [cycle_of_decode decoded rfl, elapse_one]
  obtain ⟨d, s, ticked⟩ := dueTick_writes perTick m
  simp only [ticked, skipOver, perform, performAwaitKey, released, back]

theorem cycle_pressed (decoded : Instruction.decode? m.fetch = some (.awaitKey x)) {k : Nibble}
    (lowest : m.keypad.lowest? = some k) (perTick : Nat) :
    m.cycle perTick = .ok ((m.elapse perTick 1).skipOver.setReg x (UInt8.ofNat k.val)) := by
  rw [cycle_of_decode decoded rfl, elapse_one]
  obtain ⟨d, s, ticked⟩ := dueTick_writes perTick m
  simp only [ticked, skipOver, perform, performAwaitKey, lowest]
  rfl

/-- However long nobody presses a key, only time passes. -/
theorem cycles_waiting (decoded : Instruction.decode? m.fetch = some (.awaitKey x))
    (idle : m.keypad.mask = 0) (perTick n : Nat) :
    m.cycles perTick n = ⟨m.elapse perTick n, none, n⟩ := by
  induction n generalizing m with
  | zero =>
    rw [elapse_zero]
    rfl
  | succ n ih =>
    -- The first cycle leaves the program counter, the word there and the keys as they were.
    have stalled : (m.elapse perTick 1).cycles perTick n = ⟨m.elapse perTick (n + 1), none, n⟩ := by
      rw [ih (m := m.elapse perTick 1) decoded idle, elapse_elapse, Nat.add_comm]
    rw [cycles_of_ok (cycle_waiting decoded idle perTick), stalled, Run.after, Nat.add_comm]

/-- While no key is held, FX0A stalls a run of any length: nothing changes but the count and the
timers. As soon as a key is held the next cycle puts the number of the lowest one in VX and leaves
FX0A behind. -/
theorem key_wait_stalls (perTick n : Nat) (m : Machine) (waits : Form.awaitKey.Covers m.fetch)
    (idle : m.keypad.mask = 0) :
    let x := Nibble.ofNat (m.fetch.toNat / 256)
    let r := m.run perTick n n
    r = ⟨m.elapse perTick n, none, n⟩ ∧
    ∀ mask : UInt16, mask ≠ 0 → ∃ (k : Nibble) (m' : Machine),
      mask.toNat.testBit k.val = true ∧ (∀ j < k.val, mask.toNat.testBit j = false) ∧
      (r.machine.withKeys mask).cycle perTick = .ok m' ∧
      (∀ z, m'.reg z = if z = x then UInt8.ofNat k.val else m.reg z) ∧ m'.pc = m.pc + 2 ∧
      m' = { m.elapse perTick (n + 1) with
        keypad := ⟨mask⟩
        registers := m'.registers
        pc := m'.pc } := by
  intro x r
  have decoded : Instruction.decode? m.fetch = some (.awaitKey x) :=
    Instruction.decode_of_governs (waits.governs (by decide))
  have stalled : r = ⟨m.elapse perTick n, none, n⟩ :=
    (run_self n m).trans (cycles_waiting decoded idle perTick n)
  refine ⟨stalled, fun mask held => ?_⟩
  rw [stalled]
  let pressed := (m.elapse perTick n).withKeys mask
  obtain ⟨k, lowest, down, up⟩ := pressed.keypad.lowest?_of_ne_zero held
  refine ⟨k, _, down, up, cycle_pressed (m := pressed) decoded lowest perTick, fun z => ?_, rfl, ?_⟩
  · exact reg_setReg_eq _ x z _
  · rw [← elapse_elapse]
    rfl

/-- FX0A in the last word of memory, met by a program counter and a count that are about to wrap
around. -/
def waitingAtEnd : Machine :=
  { ((powerOn ⟨0, 0⟩ .modern).write (.ofNat 4094) 0xF5).write (.ofNat 4095) 0x0A with
    pc := 0xFFFE
    completed := 0xFFFFFFFF
    delay := 9 }

theorem fetch_waitingAtEnd : waitingAtEnd.fetch = 0xF50A := by
  have places : Address.after waitingAtEnd.pc 0 = .ofNat 4094 ∧
      Address.after waitingAtEnd.pc 1 = .ofNat 4095 := by decide
  have high : waitingAtEnd.read (.ofNat 4094) = 0xF5 :=
    (Vector.getElem_set_ne (by decide) _ (by decide)).trans (Vector.getElem_set_self _)
  have low : waitingAtEnd.read (.ofNat 4095) = 0x0A := Vector.getElem_set_self _
  rw [fetch, places.1, places.2, high, low]
  rfl

/-- Three cycles without a key take one tick from the delay timer. Then the keys 3 and 5 are held:
the lower one goes to V5 and the program goes on at address 0. -/
theorem key_wait_stalls_around_the_end :
    let m := waitingAtEnd
    let r := m.run 2 3 (3 : Nat)
    Form.awaitKey.Covers m.fetch ∧ m.keypad.mask = 0 ∧ (0x28 : UInt16) ≠ 0 ∧
    r.fault = none ∧ r.executed = 3 ∧ r.machine.pc = 0xFFFE ∧ r.machine.completed = 2 ∧
    r.machine.delay = 8 ∧
    ∃ m', (r.machine.withKeys 0x28).cycle 2 = .ok m' ∧ m'.pc = 0 ∧ m'.reg 5 = 3 := by
  intro m r
  have waits : Form.awaitKey.Covers m.fetch := by
    rw [show m.fetch = _ from fetch_waitingAtEnd]
    decide
  have idle : m.keypad.mask = 0 := rfl
  have held : (0x28 : UInt16) ≠ 0 := by decide
  obtain ⟨stalled, press⟩ := key_wait_stalls 2 3 m waits idle
  obtain ⟨k, m', down, up, ran, registers, pc, -⟩ := press 0x28 held
  have lower : ∀ k : Nibble, (0x28 : UInt16).toNat.testBit k.val = true →
      (∀ j < k.val, (0x28 : UInt16).toNat.testBit j = false) → k = 3 := by decide
  have fifth : 5 = Nibble.ofNat (m.fetch.toNat / 256) := by
    rw [show m.fetch = _ from fetch_waitingAtEnd]
    rfl
  have stored := registers 5
  rw [if_pos fifth, lower k down up] at stored
  rw [stalled] at ran
  rw [show r = _ from stalled]
  exact ⟨waits, idle, held, rfl, rfl, rfl, by decide, by decide, m', ran, pc.trans (by decide),
    stored⟩

end Machine

end Chip8
