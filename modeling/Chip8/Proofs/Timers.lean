import Mathlib.Algebra.Order.Floor.Div
import Mathlib.Data.Nat.Count
import Chip8.Proofs.Chunking
import Chip8.Proofs.Decoding
import Chip8.Proofs.Trace

/-! When the timers fall. The count of completed instructions sets the phase: a tick is due before
an instruction whenever the count, kept in 32 bits, is a multiple of the instructions per tick. So a
timer that no instruction sets falls by a number that depends on the count and on how many
instructions complete, and on nothing else. -/
namespace Chip8

inductive Timer
  | delay
  | sound

namespace Timer

/-- The instruction that sets the timer from a register. -/
def setter : Timer → Register → Instruction
  | delay => .setDelay
  | sound => .setSound

/-- The words FX15 set the delay timer and the words FX18 the sound timer. -/
def SetBy (t : Timer) (w : UInt16) : Prop :=
  w.toNat / 4096 = 0xF ∧ w.toNat % 256 = match t with
    | delay => 0x15
    | sound => 0x18

theorem setBy_of_decode {t : Timer} {w : UInt16} {x : Register}
    (h : Instruction.decode? w = some (t.setter x)) : t.SetBy w := by
  have spelled := Instruction.word_of_decode h
  have bound := x.isLt
  cases t with
  | delay =>
    simp only [setter, Instruction.word] at spelled
    exact ⟨by omega, by dsimp only; omega⟩
  | sound =>
    simp only [setter, Instruction.word] at spelled
    exact ⟨by omega, by dsimp only; omega⟩

end Timer

/-- The ticks that are due during the next `k` instructions when the count stands at `c`; the count
is kept in 32 bits. -/
def ticks (perTick c k : Nat) : Nat := Nat.count (fun j => (c + j) % 2 ^ 32 % perTick = 0) k

theorem ticks_add (perTick c j k : Nat) :
    ticks perTick c (j + k) = ticks perTick c j + ticks perTick (c + j) k := by
  simp only [ticks, Nat.count_add, Nat.add_assoc]

theorem ticks_one (perTick c : Nat) :
    ticks perTick c 1 = if c % 2 ^ 32 % perTick = 0 then 1 else 0 := by
  simp [ticks, Nat.count_succ]

/-- Only the 32 bits of the count matter. -/
theorem ticks_mod (perTick c k : Nat) : ticks perTick (c % 2 ^ 32) k = ticks perTick c k := by
  simp only [ticks, Nat.mod_add_mod]

theorem ceilDiv_succ {p : Nat} (hp : 0 < p) (a : Nat) :
    (a + 1) ⌈/⌉ p = a ⌈/⌉ p + if a % p = 0 then 1 else 0 := by
  have next : a + 1 + p - 1 = a + p - 1 + 1 := by omega
  have whole : a + p - 1 + 1 = a + p := by omega
  rw [Nat.ceilDiv_eq_add_pred_div, Nat.ceilDiv_eq_add_pred_div, next, Nat.succ_div]
  simp only [whole, Nat.dvd_iff_mod_eq_zero, Nat.add_mod_right]

/-- As long as the count does not wrap, the ticks are the multiples of `perTick` it passes. -/
theorem ticks_eq_ceilDiv {perTick c k : Nat} (hp : 0 < perTick) (fits : c + k ≤ 2 ^ 32) :
    ticks perTick c k = (c + k) ⌈/⌉ perTick - c ⌈/⌉ perTick := by
  suffices total : c ⌈/⌉ perTick + ticks perTick c k = (c + k) ⌈/⌉ perTick by omega
  induction k with
  | zero => rfl
  | succ k ih =>
    have unwrapped : (c + k) % 2 ^ 32 = c + k := Nat.mod_eq_of_lt (by omega)
    rw [ticks_add, ticks_one, unwrapped, ← Nat.add_assoc, ih (by omega), ← Nat.add_assoc c,
      ceilDiv_succ hp]

theorem ticks_mul {perTick c : Nat} (hp : 0 < perTick) (k : Nat) (fits : c + perTick * k ≤ 2 ^ 32) :
    ticks perTick c (perTick * k) = k := by
  have shift : c + perTick * k + perTick - 1 = c + perTick - 1 + perTick * k := by omega
  rw [ticks_eq_ceilDiv hp fits, Nat.ceilDiv_eq_add_pred_div, Nat.ceilDiv_eq_add_pred_div, shift,
    Nat.add_mul_div_left _ _ hp]
  omega

namespace Machine

def timer (m : Machine) : Timer → UInt8
  | .delay => m.delay
  | .sound => m.sound

theorem timer_tick (m : Machine) (t : Timer) :
    (m.tick.timer t).toNat = (m.timer t).toNat - 1 := by
  have falls (v : UInt8) : (if v = 0 then 0 else v - 1).toNat = v.toNat - 1 := by
    split
    · rename_i zero
      rw [zero]
      rfl
    · rename_i positive
      have one : 1 ≤ v := UInt8.le_iff_toNat_le.mpr (by
        have := UInt8.toNat_inj.not.mpr positive
        simp only [UInt8.reduceToNat] at this ⊢
        omega)
      exact UInt8.toNat_sub_of_le v 1 one
  cases t with
  | delay => exact falls m.delay
  | sound => exact falls m.sound

/-- No instruction but its setter touches a timer. -/
theorem timer_perform (m : Machine) {i : Instruction} {t : Timer} (h : ∀ x, i ≠ t.setter x) :
    (m.perform i).timer t = m.timer t := by
  cases i with
  | setDelay x =>
    cases t with
    | delay => exact absurd rfl (h x)
    | sound => rfl
  | setSound x =>
    cases t with
    | delay => rfl
    | sound => exact absurd rfl (h x)
  | skip condition =>
    simp only [perform]
    split <;> rfl
  | alu op x y =>
    obtain ⟨v, writes⟩ := m.performAlu_writes op x y
    rw [perform, writes]
    rfl
  | awaitKey x =>
    obtain ⟨v, p, writes⟩ := m.performAwaitKey_writes x
    rw [perform, writes]
    rfl
  | addIndex x =>
    obtain ⟨v, writes⟩ := m.performAddIndex_writes x
    rw [perform, writes]
    rfl
  | store x =>
    obtain ⟨c, j, writes, _⟩ := m.store_writes x
    rw [writes]
    rfl
  | restore x =>
    obtain ⟨v, j, writes, _⟩ := m.restore_writes x
    rw [writes]
    rfl
  | _ => rfl

theorem timer_step {m m' : Machine} {t : Timer} (h : m.step = .ok m') (kept : ¬t.SetBy m.fetch) :
    m'.timer t = m.timer t := by
  obtain ⟨i, decoded, _, rfl⟩ := step_eq_ok_iff.mp h
  refine m.skipOver.timer_perform ?_
  rintro x rfl
  exact kept (Timer.setBy_of_decode decoded)

theorem timer_dueTick (perTick : Nat) (m : Machine) (t : Timer) :
    ((m.dueTick perTick).timer t).toNat =
      (m.timer t).toNat - ticks perTick m.completed.toNat 1 := by
  have counted : m.completed.toNat % 2 ^ 32 = m.completed.toNat :=
    Nat.mod_eq_of_lt m.completed.toNat_lt
  rw [ticks_one, counted, dueTick]
  split
  · exact m.timer_tick t
  · rfl

/-- A cycle takes the tick that is due and nothing else from a timer that it does not set. -/
theorem timer_cycle {perTick : Nat} {m m' : Machine} {t : Timer} (h : m.cycle perTick = .ok m')
    (kept : ¬t.SetBy m.fetch) :
    (m'.timer t).toNat = (m.timer t).toNat - ticks perTick m.completed.toNat 1 := by
  obtain ⟨n, ran, rfl⟩ := cycle_cases h
  have stepped : n.timer t = (m.dueTick perTick).timer t :=
    timer_step ran (by rwa [fetch_dueTick])
  rw [show timer { n with completed := n.completed + 1 } t = n.timer t from by cases t <;> rfl,
    stepped, timer_dueTick]

/-- The timers of a run of cycles fall by the ticks that are due during the instructions that
complete. -/
theorem timer_cycles {perTick : Nat} {t : Timer} (n : Nat) {m : Machine}
    (kept : ∀ a ∈ m.trace perTick n, ¬t.SetBy a.fetch) :
    ((m.cycles perTick n).machine.timer t).toNat =
      (m.timer t).toNat - ticks perTick m.completed.toNat (m.cycles perTick n).executed := by
  induction n generalizing m with
  | zero => rfl
  | succ n ih =>
    cases hc : m.cycle perTick with
    | ok m' =>
      rw [trace_of_ok hc] at kept
      obtain ⟨first, others⟩ := List.forall_mem_cons.mp kept
      have counted : m'.completed.toNat = (m.completed.toNat + 1) % 2 ^ 32 := by
        rw [(cycle_frame hc).2, UInt32.toNat_add]
        rfl
      rw [cycles_of_ok hc, Run.after_machine, Run.after_executed, ih others, timer_cycle hc first,
        counted, ticks_mod, ticks_add, Nat.sub_sub]
    | error f =>
      rw [cycles_of_error hc n.succ_pos]
      rfl

/-- The count after some cycles, as far as it sets the phase of the ticks. -/
theorem ticks_completed_cycles (perTick n : Nat) (m : Machine) (k : Nat) :
    ticks perTick (m.cycles perTick n).machine.completed.toNat k =
      ticks perTick (m.completed.toNat + (m.cycles perTick n).executed) k := by
  rw [(cycles_frame n m).2, UInt32.toNat_add, UInt32.toNat_ofNat', Nat.add_mod_mod, ticks_mod]

end Machine

namespace Session

theorem perTick_pos (s : Session) : 0 < s.perTick := Settings.perTurn_pos _ _

/-- Where the timer frequency divides the instruction frequency, it does so evenly. -/
theorem perTick_mul_of_dvd {s : Session} (instructions : 0 < s.settings.instructionFrequency)
    (clock : 0 < s.settings.timerFrequency)
    (divides : s.settings.timerFrequency ∣ s.settings.instructionFrequency) :
    (s.perTick * s.settings.timerFrequency.toNat : Nat) = s.settings.instructionFrequency := by
  obtain ⟨q, hq⟩ := divides
  rw [hq] at instructions ⊢
  have positive : 0 < q := Int.pos_of_mul_pos_right instructions clock
  have standing : s.settings.timerFrequency ≠ 0 := by omega
  have perTick : s.perTick = q.toNat := by
    simp only [Session.perTick, Settings.perTick?, Settings.perTurn?, hq, if_neg standing,
      Int.mul_fdiv_cancel_left _ standing, Option.getD_some]
    omega
  rw [perTick, Nat.cast_mul, Int.toNat_of_nonneg (by omega), Int.toNat_of_nonneg (by omega),
    Int.mul_comm]

/-- Frames one after another, each with its keys and its number of instructions; the policy on
faults is applied after each of them. -/
def play (s : Session) : List (UInt16 × Nat) → Machine → Run
  | [], m => .start m
  | (mask, n) :: frames, m =>
    let r := frame s.perTick n mask m
    (s.play frames (s.judge r.machine r.fault).machine).after r.executed

/-- The machines at which the completed instructions of these frames start. -/
def playTrace (s : Session) : List (UInt16 × Nat) → Machine → List Machine
  | [], _ => []
  | (mask, n) :: frames, m =>
    let r := frame s.perTick n mask m
    (m.withKeys mask).trace s.perTick n ++ s.playTrace frames (s.judge r.machine r.fault).machine

/-- The policy on faults touches neither a timer nor the count. -/
theorem judge_keeps (s : Session) (m : Machine) (fault : Option Fault) (t : Timer) :
    (s.judge m fault).machine.timer t = m.timer t ∧
      (s.judge m fault).machine.completed = m.completed := by
  cases fault with
  | none => exact ⟨rfl, rfl⟩
  | some fault =>
    rw [judge]
    split
    · exact ⟨rfl, rfl⟩
    · exact ⟨rfl, rfl⟩

/-- How the run is cut into frames does not show in the timers. -/
theorem timer_play {s : Session} {t : Timer} (frames : List (UInt16 × Nat)) {m : Machine}
    (kept : ∀ a ∈ s.playTrace frames m, ¬t.SetBy a.fetch) :
    ((s.play frames m).machine.timer t).toNat =
      (m.timer t).toNat - ticks s.perTick m.completed.toNat (s.play frames m).executed := by
  induction frames generalizing m with
  | nil => rfl
  | cons f frames ih =>
    obtain ⟨mask, n⟩ := f
    have ran : frame s.perTick n mask m = (m.withKeys mask).cycles s.perTick n :=
      Machine.run_self n _
    rw [playTrace, ran] at kept
    rw [play, ran]
    obtain ⟨first, others⟩ := List.forall_mem_append.mp kept
    obtain ⟨timer, completed⟩ := s.judge_keeps ((m.withKeys mask).cycles s.perTick n).machine
      ((m.withKeys mask).cycles s.perTick n).fault t
    rw [Run.after_machine, Run.after_executed, ih others, timer, completed,
      Machine.timer_cycles n first, Machine.ticks_completed_cycles, ticks_add, Nat.sub_sub]
    rfl

/-- During a run a timer falls by the ticks that are due during the instructions that complete, and
stops at zero, unless one of them sets it. While the count does not wrap, these ticks are the
multiples of the instructions per tick that it passes; so if the timer frequency divides the
instruction frequency, a second's worth of instructions takes a second's worth of ticks, whatever
the phase and however the frames are cut. An instruction that fails takes none: the run ends where
the instructions that complete have ended, also when it is tried again. -/
theorem timer_tick_law (s : Session) (m : Machine) (n : Nat) (t : Timer) :
    let p := s.perTick
    let c := m.completed.toNat
    let r := m.run p n n
    ((∀ a ∈ m.trace p n, ¬t.SetBy a.fetch) →
      (r.machine.timer t).toNat = (m.timer t).toNat - ticks p c r.executed) ∧
    (∀ k, c + k ≤ 2 ^ 32 → ticks p c k = (c + k) ⌈/⌉ p - c ⌈/⌉ p) ∧
    (∀ frames, 0 < s.settings.instructionFrequency → 0 < s.settings.timerFrequency →
      s.settings.timerFrequency ∣ s.settings.instructionFrequency →
      let r' := s.play frames m
      r'.executed = s.settings.instructionFrequency → c + r'.executed ≤ 2 ^ 32 →
      ticks p c r'.executed = s.settings.timerFrequency ∧
      ((∀ a ∈ s.playTrace frames m, ¬t.SetBy a.fetch) →
        (r'.machine.timer t).toNat = (m.timer t).toNat - s.settings.timerFrequency.toNat)) ∧
    r.machine = (m.run p r.executed r.executed).machine ∧
    (∀ fault, r.fault = some fault → ∀ k : Nat, 0 < k →
      r.machine.run p k k = ⟨r.machine, some fault, 0⟩) := by
  intro p c r
  have ran : r = m.cycles p n := Machine.run_self n m
  refine ⟨fun kept => ?_, fun k fits => ticks_eq_ceilDiv s.perTick_pos fits, ?_, ?_, ?_⟩
  · rw [ran]
    exact Machine.timer_cycles n kept
  · intro frames instructions clock divides r' second fits
    have whole : r'.executed = p * s.settings.timerFrequency.toNat := by
      have even := perTick_mul_of_dvd instructions clock divides
      exact Int.ofNat_inj.mp (second.trans even.symm)
    have ticked : ticks p c r'.executed = s.settings.timerFrequency.toNat := by
      rw [whole] at fits ⊢
      exact ticks_mul s.perTick_pos _ fits
    refine ⟨by omega, fun kept => ?_⟩
    rw [← ticked]
    exact timer_play frames kept
  · rw [Machine.run_self, ran]
    exact Machine.cycles_machine n m
  · intro fault failed k hk
    rw [ran] at failed ⊢
    exact Machine.run_of_fault failed hk

end Session

namespace Machine

/-- A machine at the last words of a blank memory. They are zero and do nothing; behind them comes
the font. -/
def atEnd (pc : UInt16) (completed : UInt32) (delay : UInt8) (keys : UInt16) : Machine :=
  { powerOn ⟨0, 0⟩ .modern with pc, completed, delay, keypad := ⟨keys⟩ }

theorem fetch_atEnd {pc : UInt16} (last : pc = 4092 ∨ pc = 4094) (completed : UInt32)
    (delay : UInt8) (keys : UInt16) : (atEnd pc completed delay keys).fetch = 0 := by
  rcases last with rfl | rfl <;>
    simp [atEnd, fetch, read, powerOn, blankMemory, Address.after, Address.ofNat, wordOfBytes]

theorem decode_behindEnd (completed : UInt32) (delay : UInt8) (keys : UInt16) :
    Instruction.decode? (atEnd 4096 completed delay keys).fetch = none := by
  have around : Address.after 4096 0 = Address.after 0 0 ∧
      Address.after (4096 : UInt16) 1 = Address.after 0 1 := by decide
  have font : (atEnd 4096 completed delay keys).fetch = inFont.fetch := by
    simp only [fetch, atEnd, inFont, around]
    rfl
  rw [font, decode_inFont]

theorem cycle_atEnd {pc : UInt16} (last : pc = 4092 ∨ pc = 4094) (perTick : Nat)
    (completed : UInt32) (delay : UInt8) (keys : UInt16) :
    (atEnd pc completed delay keys).cycle perTick =
      .ok (atEnd (pc + 2) (completed + 1)
        ((atEnd pc completed delay keys).dueTick perTick).delay keys) := by
  have decoded : Instruction.decode? (atEnd pc completed delay keys).fetch = some (.system 0) := by
    rw [fetch_atEnd last]
    decide
  rw [cycle_of_decode decoded rfl]
  unfold dueTick
  split <;> rfl

theorem cycles_atEnd :
    (atEnd 4092 1 5 0).cycle 2 = .ok (atEnd 4094 2 5 0) ∧
    (atEnd 4094 2 5 0).cycle 2 = .ok (atEnd 4096 3 4 0) ∧
    (atEnd 4096 3 4 0).cycle 2 = .error .unknownOpcode :=
  ⟨cycle_atEnd (.inl rfl) 2 1 5 0, cycle_atEnd (.inr rfl) 2 2 5 0,
    cycle_of_unknown (decode_behindEnd 3 4 0) 2⟩

end Machine

namespace Session

/-- With two instructions per tick, the second one takes the tick and the third one fails. -/
theorem run_atEnd {s : Session} (rate : s.perTick = 2) :
    (Machine.atEnd 4092 1 5 0).run s.perTick 3 (3 : Nat) =
      ⟨.atEnd 4096 3 4 0, some .unknownOpcode, 2⟩ ∧
    (Machine.atEnd 4092 1 5 0).trace s.perTick 3 = [.atEnd 4092 1 5 0, .atEnd 4094 2 5 0] := by
  obtain ⟨first, second, third⟩ := Machine.cycles_atEnd
  rw [rate]
  constructor
  · rw [Machine.run_self, Machine.cycles_of_ok first, Machine.cycles_of_ok second,
      Machine.cycles_of_error third Nat.one_pos]
    rfl
  · rw [Machine.trace_of_ok first, Machine.trace_of_ok second, Machine.trace, third]

/-- Frames of one instruction each lead there, too. -/
theorem play_atEnd {s : Session} (rate : s.perTick = 2) :
    s.play [(0, 1), (0, 1)] (.atEnd 4092 1 5 0) = ⟨.atEnd 4096 3 4 0, none, 2⟩ ∧
    s.playTrace [(0, 1), (0, 1)] (.atEnd 4092 1 5 0) =
      [.atEnd 4092 1 5 0, .atEnd 4094 2 5 0] := by
  obtain ⟨first, second, _⟩ := Machine.cycles_atEnd
  have frame₁ : frame 2 1 0 (.atEnd 4092 1 5 0) = ⟨.atEnd 4094 2 5 0, none, 1⟩ :=
    (Machine.run_self 1 _).trans (Machine.cycles_of_ok first 0)
  have frame₂ : frame 2 1 0 (.atEnd 4094 2 5 0) = ⟨.atEnd 4096 3 4 0, none, 1⟩ :=
    (Machine.run_self 1 _).trans (Machine.cycles_of_ok second 0)
  have trace₁ : ((Machine.atEnd 4092 1 5 0).withKeys 0).trace 2 1 = [.atEnd 4092 1 5 0] :=
    Machine.trace_of_ok first 0
  have trace₂ : ((Machine.atEnd 4094 2 5 0).withKeys 0).trace 2 1 = [.atEnd 4094 2 5 0] :=
    Machine.trace_of_ok second 0
  constructor
  · simp only [play, rate, frame₁, frame₂, judge]
    rfl
  · simp only [playTrace, rate, frame₁, judge, trace₁, trace₂]
    rfl

/-- A session with two instructions and one tick in a second. -/
def slow : Session := ⟨⟨#[], by decide⟩, { instructionFrequency := 2, timerFrequency := 1 }⟩

/-- The two instructions of a second take one tick, in one run or in two frames. The third
instruction fails and takes none. -/
theorem timer_tick_law_at_end :
    slow.perTick = 2 ∧
    (Machine.atEnd 4092 1 5 0).trace slow.perTick 3 = [.atEnd 4092 1 5 0, .atEnd 4094 2 5 0] ∧
    ((Machine.atEnd 4092 1 5 0).run slow.perTick 3 (3 : Nat)).machine.delay.toNat =
      (Machine.atEnd 4092 1 5 0).delay.toNat - ticks slow.perTick 1 2 ∧
    ticks slow.perTick 1 2 = 3 ⌈/⌉ slow.perTick - 1 ⌈/⌉ slow.perTick ∧
    (slow.play [(0, 1), (0, 1)] (.atEnd 4092 1 5 0)).machine.delay.toNat =
      (Machine.atEnd 4092 1 5 0).delay.toNat - 1 ∧
    (Machine.atEnd 4096 3 4 0).run slow.perTick 7 (7 : Nat) =
      ⟨.atEnd 4096 3 4 0, some .unknownOpcode, 0⟩ := by
  have rate : slow.perTick = 2 := rfl
  obtain ⟨ran, started⟩ := run_atEnd rate
  obtain ⟨played, started'⟩ := play_atEnd rate
  have kept : ∀ a ∈ [Machine.atEnd 4092 1 5 0, .atEnd 4094 2 5 0],
      ¬Timer.delay.SetBy a.fetch := by
    have zero : ¬Timer.delay.SetBy 0 := fun h => absurd h.1 (by decide)
    rw [List.forall_mem_cons, List.forall_mem_singleton, Machine.fetch_atEnd (.inl rfl),
      Machine.fetch_atEnd (.inr rfl)]
    exact ⟨zero, zero⟩
  obtain ⟨falls, counted, cut, _, again⟩ := timer_tick_law slow (.atEnd 4092 1 5 0) 3 .delay
  rw [started, ran] at falls
  rw [ran] at again
  obtain ⟨_, falls'⟩ := cut [(0, 1), (0, 1)] (by decide) (by decide) (by decide)
    (by rw [played]; rfl) (by rw [played]; decide)
  rw [started', played] at falls'
  rw [ran, played]
  exact ⟨rate, started, falls kept, counted 2 (by decide), falls' kept,
    again _ rfl 7 (by decide)⟩

end Session

end Chip8
