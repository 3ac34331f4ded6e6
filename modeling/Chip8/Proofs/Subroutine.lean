import Chip8.Proofs.Decoding
import Chip8.Proofs.Reachable

/-! Calls and returns over whole runs. While a subroutine runs, the frames below it stay what they
were, whatever it calls and however it jumps; so the return that leaves it goes back behind the
call and leaves the stack that the call found. -/
namespace Chip8

namespace Machine

/-- An instruction completes, by itself or as a cycle of a run. -/
inductive Completes : Machine → Machine → Prop
  | alone {m m' : Machine} : m.step = .ok m' → Completes m m'
  | counted {m m' : Machine} (perTick : Nat) : m.cycle perTick = .ok m' → Completes m m'

/-- Completed instructions, timer ticks and changes of the held keys, with never fewer than
`depth` frames in use after an instruction. -/
inductive Inside (depth : Int) (m : Machine) : Machine → Prop
  | enter : Inside depth m m
  | complete {n n' : Machine} : Inside depth m n → Completes n n' → depth ≤ n'.stack.pointer →
      Inside depth m n'
  | tick {n : Machine} : Inside depth m n → Inside depth m n.tick
  | setKeys {n : Machine} (mask : UInt16) : Inside depth m n → Inside depth m (n.withKeys mask)

/-- What a completed instruction does to the stack and, if it is a return, to the program
counter. -/
inductive StackEffect (m m' : Machine) : Prop
  | call (t : Address) (decoded : Instruction.decode? m.fetch = some (.call t))
      (room : m.stack.pointer < 16) (pushed : m'.stack = m.stack.push (m.pc + 2))
  | ret (decoded : Instruction.decode? m.fetch = some .ret) (nonempty : 0 < m.stack.pointer)
      (popped : m'.stack = m.stack.pop.1) (target : m'.pc = m.stack.pop.2)
  | other (noCall : ∀ t, Instruction.decode? m.fetch ≠ some (.call t))
      (noRet : Instruction.decode? m.fetch ≠ some .ret) (same : m'.stack = m.stack)

theorem step_stack {m m' : Machine} (h : m.step = .ok m') : StackEffect m m' := by
  obtain ⟨t, call, room, rfl⟩ | ⟨ret, nonempty, rfl⟩ | ⟨noCall, noRet, quiet⟩ :=
    execute_cases (execute_of_step h)
  · exact .call t call room rfl
  · exact .ret ret nonempty rfl rfl
  · exact .other noCall noRet quiet.stack

theorem Completes.stack {m m' : Machine} (h : Completes m m') : StackEffect m m' := by
  cases h with
  | alone ran => exact step_stack ran
  | counted perTick ran =>
    obtain ⟨n, stepped, rfl⟩ := cycle_cases ran
    obtain ⟨delay, sound, ticked⟩ := m.dueTick_writes perTick
    -- The tick is not seen by what the effect speaks about.
    rw [ticked] at stepped
    cases step_stack stepped with
    | call t decoded room pushed => exact .call t decoded room pushed
    | ret decoded nonempty popped target => exact .ret decoded nonempty popped target
    | other noCall noRet same => exact .other noCall noRet same

/-- A completed instruction that stays at or above a depth keeps the frames below it. -/
theorem Completes.holds {m m' : Machine} (h : Completes m m') {xs ys : List Address}
    (holds : m.stack.Holds (xs ++ ys)) (deep : xs.length ≤ m'.stack.pointer) :
    ∃ zs, m'.stack.Holds (xs ++ zs) := by
  have pointer := holds.pointer
  cases h.stack with
  | call t _ room pushed =>
    rw [pushed]
    exact ⟨ys ++ [_], by rw [← List.append_assoc]; exact holds.push (by omega) _⟩
  | ret _ nonempty popped _ =>
    rw [popped] at deep ⊢
    obtain ⟨us, a, split⟩ := holds.last_of_pos nonempty
    rw [split] at holds
    have rest := holds.pop.1
    rw [rest.pointer] at deep
    obtain ⟨zs, rfl⟩ : xs <+: us :=
      List.prefix_of_prefix_length_le ⟨ys, split⟩ ⟨[a], rfl⟩ (by omega)
    exact ⟨zs, rest⟩
  | other _ _ same => exact ⟨ys, same ▸ holds⟩

/-- Whatever happens inside a subroutine, the frames it was entered with stay. -/
theorem Inside.holds {xs : List Address} {m n : Machine} (h : Inside xs.length m n)
    (entered : m.stack.Holds xs) : ∃ ys, n.stack.Holds (xs ++ ys) := by
  induction h with
  | enter => exact ⟨[], by rwa [List.append_nil]⟩
  | complete _ completes deep ih =>
    obtain ⟨ys, holds⟩ := ih
    exact completes.holds holds deep
  | tick _ ih => exact ih
  | setKeys mask _ ih => exact ih

/-- The address behind an instruction, as a call stores it. -/
theorem returnAddress_toNat (pc : UInt16) :
    (Address.ofNat (pc + 2).toNat).toWord.toNat = (pc.toNat + 2) % 4096 := by
  simp only [Address.ofNat, Fin.ofNat, Address.toWord, UInt16.toNat_ofNat', UInt16.toNat_add,
    UInt16.reduceToNat]
  omega

/-- A call that completes in a reachable machine, then anything that stays inside the subroutine,
then a return at its depth: the program goes on behind the call, and the stack is what it was. -/
theorem call_return_restores {key : StreamKey} {d : Dialect} {s s₁ s₂ s₃ : Machine}
    (reachable : Reachable key d s) (call : s.fetch.toNat / 4096 = 2) (called : Completes s s₁)
    (body : Inside (s.stack.pointer + 1) s₁ s₂)
    (ret : s₂.fetch = 0x00EE) (depth : s₂.stack.pointer = s.stack.pointer + 1)
    (returned : Completes s₂ s₃) :
    s₃.pc.toNat = (s.pc.toNat + 2) % 4096 ∧ s₃.stack = s.stack := by
  obtain ⟨xs, holds⟩ := (reachable_sound reachable).stack
  have pointer := holds.pointer
  obtain ⟨t, isCall⟩ := decode_of_first_two call
  cases called.stack with
  | ret decoded => simp [isCall] at decoded
  | other noCall => exact absurd isCall (noCall t)
  | call _ _ room pushed =>
    have entered := holds.push (by omega) (s.pc + 2)
    rw [← pushed] at entered
    have above : s.stack.pointer + 1 = (xs ++ [Address.ofNat (s.pc + 2).toNat]).length := by
      rw [pointer, List.length_append]
      rfl
    rw [above] at body depth
    obtain ⟨ys, inside⟩ := body.holds entered
    -- At the depth of the call nothing lies above the return address.
    have top : ys = [] := by
      have deeper := inside.pointer
      rw [depth] at deeper
      simp only [List.length_append] at deeper
      exact List.eq_nil_of_length_eq_zero (by omega)
    rw [top, List.append_nil] at inside
    have isRet : Instruction.decode? s₂.fetch = some .ret := by rw [ret]; decide
    cases returned.stack with
    | call _ decoded => simp [isRet] at decoded
    | other _ noRet => exact absurd isRet noRet
    | ret _ _ popped target =>
      obtain ⟨rest, address⟩ := inside.pop
      rw [← popped] at rest
      rw [target, address]
      exact ⟨returnAddress_toNat s.pc, rest.unique holds⟩

/-- A call of the second word, which returns at once. -/
def callAndReturn : Program := ⟨#[0x22, 0x02, 0x00, 0xEE], by decide⟩

/-- A timer tick falls between the call and the return. -/
theorem call_return_restores_across_tick :
    let s := (powerOn ⟨0, 0⟩ .modern).load callAndReturn
    let s₃ := (s.skipOver.perform (.call 514)).tick.skipOver.perform .ret
    s₃.pc.toNat = (s.pc.toNat + 2) % 4096 ∧ s₃.stack = s.stack := by
  have first : wordOfBytes callAndReturn.bytes[0] callAndReturn.bytes[1] = 0x2202 := by decide
  have second : wordOfBytes callAndReturn.bytes[2] callAndReturn.bytes[3] = 0x00EE := by decide
  -- Of the machine only the program, the program counter and the empty stack matter.
  have general (s : Machine)
      (same : s.memory = ((powerOn ⟨0, 0⟩ .modern).load callAndReturn).memory)
      (pc : s.pc = 512) (stack : s.stack = .empty) (reachable : Reachable ⟨0, 0⟩ .modern s) :
      let s₃ := (s.skipOver.perform (.call 514)).tick.skipOver.perform .ret
      s₃.pc.toNat = (s.pc.toNat + 2) % 4096 ∧ s₃.stack = s.stack := by
    let s₂ := (s.skipOver.perform (.call 514)).tick
    have call : s.fetch = 0x2202 :=
      (fetch_of_load same (by decide) (by rw [pc]; rfl)).trans first
    have back : s₂.memory = ((powerOn ⟨0, 0⟩ .modern).load callAndReturn).memory := same
    have ret : s₂.fetch = 0x00EE := (fetch_of_load back (by decide) rfl).trans second
    have pushed : s₂.stack = CallStack.empty.push (s.pc + 2) := by
      rw [← stack]
      rfl
    have room : s.obstacle? (some (.call 514)) = none := by
      rw [obstacle?, stack]
      rfl
    have nonempty : s₂.obstacle? (some .ret) = none := by
      rw [obstacle?, pushed]
      rfl
    exact call_return_restores reachable (by rw [call]; decide)
      (.alone (step_eq_ok_iff.mpr ⟨.call 514, by rw [call]; decide, room, rfl⟩)) (.tick .enter)
      ret (by rw [pushed, stack]; rfl)
      (.alone (step_eq_ok_iff.mpr ⟨.ret, by rw [ret]; decide, nonempty, rfl⟩))
  obtain ⟨c, loaded⟩ := (powerOn ⟨0, 0⟩ .modern).load_writes callAndReturn
  exact general _ rfl (by rw [loaded]; rfl) (by rw [loaded]; rfl) (.next (.load _) .start)

end Machine

end Chip8
