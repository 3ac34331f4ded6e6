import Chip8.Proofs.Cycles
import Chip8.Proofs.Loading
import Chip8.Proofs.Stack

/-! What holds of every machine that a host can bring about. The pointer of the stack is checked
before a call or a return and nowhere else, and I is cut to twelve bits by each instruction that
sets it; the invariant shows that both are enough. -/
namespace Chip8

/-- What a host can do to a machine. -/
inductive Operation
  | load (p : Program)
  | execute (w : UInt16)
  | step
  | timestep
  | tick
  | skip
  | press (key : Int)
  | release (key : Int)
  | setKeys (mask : UInt16)
  | run (s : Session) (length : Nat) (limit : Int)
  | frame (s : Session) (mask : UInt16)
  | judge (s : Session) (fault : Option Fault)
  | reset

namespace Machine

/-- The machine with other keys, unless there are none because a key does not exist. -/
def rekey (m : Machine) : Except Keypad.NoSuchKey Keypad → Machine
  | .ok p => { m with keypad := p }
  | .error _ => m

def apply (m : Machine) : Operation → Machine
  | .load p => m.load p
  | .execute w => (m.obey w).1
  | .step => m.proceed.1
  | .timestep => m.timestep.1
  | .tick => m.tick
  | .skip => m.skipOver
  | .press key => m.rekey (m.keypad.press key)
  | .release key => m.rekey (m.keypad.release key)
  | .setKeys mask => m.withKeys mask
  | .run s length limit => (m.run s.perTick length limit).machine
  | .frame s mask => (Session.frame s.perTick s.perFrame mask m).machine
  | .judge s fault => (s.judge m fault).machine
  | .reset => m.reset

/-- The machines that some operations lead to from power-on. -/
inductive Reachable (key : StreamKey) (dialect : Dialect) : Machine → Prop
  | start : Reachable key dialect (powerOn key dialect)
  | next {m : Machine} (o : Operation) : Reachable key dialect m → Reachable key dialect (m.apply o)

/-- The stack holds a list of addresses, the dialect is the first one, and I stays in twelve bits
unless loads and stores move it. -/
structure Sound (d : Dialect) (m : Machine) : Prop where
  stack : ∃ xs, m.stack.Holds xs
  dialect : m.dialect = d
  index : d.loadStoreIncrementsI = false → m.index < 4096

variable {d : Dialect} {m m' : Machine}

theorem powerOn_sound (key : StreamKey) (d : Dialect) : Sound d (powerOn key d) :=
  ⟨⟨[], .empty⟩, rfl, fun _ => (by decide : (0 : UInt16) < 4096)⟩

/-- The invariant is about three fields only. -/
theorem Sound.congr (h : Sound d m) (stack : m'.stack = m.stack)
    (same : m'.dialect = m.dialect) (index : m'.index = m.index) : Sound d m' :=
  ⟨stack ▸ h.stack, same.trans h.dialect, index ▸ h.index⟩

theorem Sound.execute (h : Sound d m) {w : UInt16} (ran : m.execute w = .ok m') :
    Sound d m' := by
  obtain ⟨xs, holds⟩ := h.stack
  have pointer := holds.pointer
  obtain ⟨t, _, room, rfl⟩ | ⟨_, nonempty, rfl⟩ | ⟨_, _, quiet⟩ := execute_cases ran
  · exact ⟨⟨_, holds.push (by omega) m.pc⟩, h.dialect, h.index⟩
  · obtain ⟨ys, a, rfl⟩ := holds.last_of_pos nonempty
    exact ⟨⟨ys, holds.pop.1⟩, h.dialect, h.index⟩
  · refine ⟨quiet.stack ▸ h.stack, quiet.dialect.trans h.dialect, fun off => ?_⟩
    rcases quiet.index (by rw [h.dialect, off]) with kept | cut
    · exact kept ▸ h.index off
    · exact cut

theorem Sound.step (h : Sound d m) (ran : m.step = .ok m') : Sound d m' := by
  have past : Sound d m.skipOver := h.congr rfl rfl rfl
  exact past.execute (execute_of_step ran)

theorem Sound.cycle (h : Sound d m) {perTick : Nat} (ran : m.cycle perTick = .ok m') :
    Sound d m' := by
  obtain ⟨n, stepped, rfl⟩ := cycle_cases ran
  obtain ⟨delay, sound, ticked⟩ := m.dueTick_writes perTick
  have due : Sound d (m.dueTick perTick) := by
    rw [ticked]
    exact h.congr rfl rfl rfl
  exact (due.step stepped).congr rfl rfl rfl

theorem Sound.cycles (h : Sound d m) (perTick n : Nat) :
    Sound d (m.cycles perTick n).machine := by
  induction n generalizing m with
  | zero => exact h
  | succ n ih =>
    cases hc : m.cycle perTick with
    | ok m' =>
      rw [cycles_of_ok hc]
      exact ih (h.cycle hc)
    | error f =>
      rw [cycles_of_error hc n.succ_pos]
      exact h

theorem Sound.run (h : Sound d m) (perTick length : Nat) (limit : Int) :
    Sound d (m.run perTick length limit).machine := by
  rw [run_eq_cycles]
  exact h.cycles perTick _

theorem Sound.obey (h : Sound d m) (w : UInt16) : Sound d (m.obey w).1 := by
  cases ran : m.execute w with
  | ok m' =>
    rw [execute_ok_iff_obey.mp ran]
    exact h.execute ran
  | error fault =>
    rw [execute_error_iff_obey.mp ran]
    exact h

theorem Sound.proceed (h : Sound d m) : Sound d m.proceed.1 := by
  cases ran : m.step with
  | ok m' =>
    rw [step_ok_iff_proceed.mp ran]
    exact h.step ran
  | error fault =>
    rw [step_error_iff_proceed.mp ran]
    exact h

theorem Sound.rekey (h : Sound d m) (r : Except Keypad.NoSuchKey Keypad) :
    Sound d (m.rekey r) := by
  cases r with
  | ok p => exact h.congr rfl rfl rfl
  | error _ => exact h

/-- One operation keeps the invariant. -/
theorem Sound.apply (h : Sound d m) (o : Operation) : Sound d (m.apply o) := by
  cases o with
  | load p =>
    obtain ⟨c, loaded⟩ := m.load_writes p
    rw [Machine.apply, loaded]
    exact h.congr rfl rfl rfl
  | execute w => exact h.obey w
  | step => exact h.proceed
  | timestep =>
    have ticked : Sound d m.tick := h.congr rfl rfl rfl
    exact ticked.proceed
  | tick | skip | setKeys mask => exact h.congr rfl rfl rfl
  | press key | release key => exact h.rekey _
  | run s length limit => exact h.run s.perTick length limit
  | frame s mask =>
    have keyed : Sound d (m.withKeys mask) := h.congr rfl rfl rfl
    exact keyed.run s.perTick s.perFrame s.perFrame
  | judge s fault =>
    cases fault with
    | none => exact h
    | some fault =>
      rw [Machine.apply, Session.judge]
      split
      · exact h.congr rfl rfl rfl
      · exact h
  | reset =>
    rw [Machine.apply, Machine.reset, h.dialect]
    exact powerOn_sound m.streamKey d

theorem reachable_sound {key : StreamKey} (h : Reachable key d m) : Sound d m := by
  induction h with
  | start => exact powerOn_sound key d
  | next o _ ih => exact ih.apply o

/-- In every reachable machine the pointer lies in the stack, the frames are addresses and those
above the pointer are zero, the dialect is the one of power-on, and I is an address unless loads
and stores move it. So a call writes and a return reads inside the frames. -/
theorem reachable_invariant {key : StreamKey} (h : Reachable key d m) :
    0 ≤ m.stack.pointer ∧ m.stack.pointer ≤ 16 ∧
    (∀ (i : Nat) (hi : i < 16), m.stack.frames[i] < 4096) ∧
    (∀ (i : Nat) (hi : i < 16), m.stack.pointer ≤ i → m.stack.frames[i] = 0) ∧
    m.dialect = d ∧
    (d.loadStoreIncrementsI = false → m.index < 4096) ∧
    ∀ w m', m.execute w = .ok m' →
      (∀ t, Instruction.decode? w = some (.call t) →
        0 ≤ m.stack.pointer ∧ m.stack.pointer < 16) ∧
      (Instruction.decode? w = some .ret →
        0 ≤ m.stack.pointer - 1 ∧ m.stack.pointer - 1 < 16) := by
  obtain ⟨⟨xs, holds⟩, dialect, index⟩ := reachable_sound h
  have pointer := holds.pointer
  have fits := holds.fits
  refine ⟨by omega, by omega, holds.frame_lt, holds.frame_above, dialect, index, ?_⟩
  intro w m' ran
  obtain ⟨t, call, room, _⟩ | ⟨ret, nonempty, _⟩ | ⟨noCall, noRet, _⟩ := execute_cases ran
  · exact ⟨fun _ _ => by omega, fun ret => by simp [call] at ret⟩
  · exact ⟨fun _ call => by simp [ret] at call, fun _ => by omega⟩
  · exact ⟨fun t call => absurd call (noCall t), fun ret => absurd ret noRet⟩

/-- One call after power-on: the frame above the one in use is zero. -/
theorem reachable_invariant_after_call :
    let m := (powerOn ⟨0, 0⟩ .modern).apply (.execute 0x2206)
    m.stack.pointer = 1 ∧ m.stack.frames[0] < 4096 ∧ m.stack.frames[1] = 0 ∧ m.index < 4096 := by
  intro m
  have reached : Reachable ⟨0, 0⟩ .modern m := .next (.execute 0x2206) .start
  have pointer : m.stack.pointer = 1 := rfl
  obtain ⟨_, _, address, zero, _, index, _⟩ := reachable_invariant reached
  exact ⟨pointer, address 0 (by decide), zero 1 (by decide) (by rw [pointer]; decide), index rfl⟩

end Machine

end Chip8
