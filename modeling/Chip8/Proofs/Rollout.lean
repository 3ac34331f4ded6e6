import Mathlib.Logic.Basic
import Mathlib.Logic.Function.Iterate
import Chip8.Proofs.WindowLoop

/-! Rollouts and how they compose. A rollout is a number of frames from the start of `footage`, the
frames that follow one another whatever the verdicts on them: all that were asked for, or those up
to the first that halts. So a longer rollout goes on where a shorter one has ended, and a halt ends
the longer one, too. -/
namespace Chip8

namespace Rollout

/-- One rollout after another: it ends where the second one does, with what both have shown. -/
def followedBy (first second : Rollout) : Rollout :=
  ⟨second.machine, first.displays ++ second.displays, first.log ++ second.log⟩

end Rollout

namespace Session

section Footage

variable (s : Session) (perTick perFrame : Nat) (mask : UInt16)

/-- The verdict on the frame that starts at a machine. -/
def verdict (m : Machine) : Verdict :=
  s.judge (frame perTick perFrame mask m).machine (frame perTick perFrame mask m).fault

/-- The machine at which frame `i` starts: each frame starts where the verdict on the one before
it has left the machine. -/
def opening (i : Nat) (m : Machine) : Machine :=
  (fun m => (s.verdict perTick perFrame mask m).machine)^[i] m

/-- Frame `i`. -/
def frameAt (i : Nat) (m : Machine) : Run :=
  frame perTick perFrame mask (s.opening perTick perFrame mask i m)

/-- Whether the verdict on frame `i` is a halt. -/
def Halts (i : Nat) (m : Machine) : Prop :=
  (s.verdict perTick perFrame mask (s.opening perTick perFrame mask i m)).halted = true

/-- The first `k` frames, whatever the verdicts on them. -/
def footage (k : Nat) (m : Machine) : Rollout where
  machine := s.opening perTick perFrame mask k m
  displays := (List.range k).map fun i => (s.frameAt perTick perFrame mask i m).machine.display
  log := (List.range k).flatMap fun i =>
    (s.verdict perTick perFrame mask (s.opening perTick perFrame mask i m)).log

end Footage

/-- No verdict touches the display. -/
theorem display_judge (s : Session) (m : Machine) (fault : Option Fault) :
    (s.judge m fault).machine.display = m.display := by
  cases fault with
  | none => rfl
  | some fault =>
    rw [judge]
    split
    · rfl
    · rfl

theorem halted_judge_of_skips {s : Session} (skips : s.settings.onUnknownOpcode = "skip")
    (m : Machine) (fault : Option Fault) :
    (s.judge m fault).halted = true ↔ fault = some .stackEmpty ∨ fault = some .stackFull := by
  cases fault with
  | none => simp [judge]
  | some fault => cases fault <;> simp [judge, Settings.skipsUnknown, skips]

theorem judge_unknown_of_skips {s : Session} (skips : s.settings.onUnknownOpcode = "skip")
    (m : Machine) : (s.judge m (some .unknownOpcode)).machine = m.skipOver := by
  simp [judge, Settings.skipsUnknown, skips]

variable {s : Session} {perTick perFrame : Nat} {mask : UInt16}

theorem opening_zero (m : Machine) : s.opening perTick perFrame mask 0 m = m := rfl

theorem opening_add (i j : Nat) (m : Machine) :
    s.opening perTick perFrame mask (i + j) m =
      s.opening perTick perFrame mask j (s.opening perTick perFrame mask i m) := by
  rw [opening, Nat.add_comm, Function.iterate_add_apply]
  rfl

theorem opening_succ (i : Nat) (m : Machine) :
    s.opening perTick perFrame mask (i + 1) m =
      (s.verdict perTick perFrame mask (s.opening perTick perFrame mask i m)).machine :=
  opening_add i 1 m

theorem halts_add (i j : Nat) (m : Machine) :
    s.Halts perTick perFrame mask (i + j) m ↔
      s.Halts perTick perFrame mask j (s.opening perTick perFrame mask i m) := by
  rw [Halts, opening_add]
  rfl

/-- The frames after the first `i` are those that start where the first `i` have led. -/
theorem footage_add (i j : Nat) (m : Machine) :
    s.footage perTick perFrame mask (i + j) m =
      (s.footage perTick perFrame mask i m).followedBy
        (s.footage perTick perFrame mask j (s.opening perTick perFrame mask i m)) := by
  simp [footage, Rollout.followedBy, frameAt, opening_add, List.range_add, List.flatMap_map,
    Function.comp_def]

/-- A frame that halts is all there is of a rollout. -/
theorem rollout_succ_of_halted {m : Machine} (n : Nat)
    (halted : (s.verdict perTick perFrame mask m).halted = true) :
    s.rollout perTick perFrame mask (n + 1) m = s.footage perTick perFrame mask 1 m := by
  rw [rollout]
  refine (if_pos halted).trans ?_
  simp [footage, opening, frameAt, verdict]

/-- After a frame that does not halt, a rollout goes on where the verdict has left the machine. -/
theorem rollout_succ_of_running {m : Machine} (n : Nat)
    (running : ¬(s.verdict perTick perFrame mask m).halted = true) :
    s.rollout perTick perFrame mask (n + 1) m =
      (s.footage perTick perFrame mask 1 m).followedBy
        (s.rollout perTick perFrame mask n (s.opening perTick perFrame mask 1 m)) := by
  rw [rollout]
  refine (if_neg running).trans ?_
  simp [footage, opening, frameAt, verdict, Rollout.followedBy]

/-- As long as no frame halts, a rollout has all the frames that were asked for. -/
theorem rollout_of_running {n : Nat} {m : Machine}
    (running : ∀ i < n, ¬s.Halts perTick perFrame mask i m) :
    s.rollout perTick perFrame mask n m = s.footage perTick perFrame mask n m := by
  induction n generalizing m with
  | zero => rfl
  | succ n ih =>
    have first : ¬(s.verdict perTick perFrame mask m).halted = true := running 0 n.succ_pos
    have rest : ∀ i < n, ¬s.Halts perTick perFrame mask i (s.opening perTick perFrame mask 1 m) :=
      fun i hi halts => running (1 + i) (by omega) ((halts_add 1 i m).mpr halts)
    rw [rollout_succ_of_running n first, ih rest, ← footage_add, Nat.add_comm 1]

/-- The first frame that halts is the last of the rollout. -/
theorem rollout_of_halt {n k : Nat} {m : Machine} (early : k < n)
    (running : ∀ i < k, ¬s.Halts perTick perFrame mask i m)
    (halts : s.Halts perTick perFrame mask k m) :
    s.rollout perTick perFrame mask n m = s.footage perTick perFrame mask (k + 1) m := by
  obtain ⟨n, rfl⟩ : ∃ j, n = j + 1 := ⟨n - 1, by omega⟩
  induction k generalizing n m with
  | zero =>
    have first : (s.verdict perTick perFrame mask m).halted = true := halts
    exact rollout_succ_of_halted n first
  | succ k ih =>
    obtain ⟨n, rfl⟩ : ∃ j, n = j + 1 := ⟨n - 1, by omega⟩
    have first : ¬(s.verdict perTick perFrame mask m).halted = true := running 0 k.succ_pos
    have rest : ∀ i < k, ¬s.Halts perTick perFrame mask i (s.opening perTick perFrame mask 1 m) :=
      fun i hi halts => running (1 + i) (by omega) ((halts_add 1 i m).mpr halts)
    have last : s.Halts perTick perFrame mask k (s.opening perTick perFrame mask 1 m) :=
      (halts_add 1 k m).mp (by rwa [Nat.add_comm 1])
    rw [rollout_succ_of_running _ first, ih rest last n (by omega), ← footage_add,
      Nat.add_comm 1]

/-- Either none of the first frames halts, or there is a first one that does. -/
theorem running_or_first_halt (n : Nat) (m : Machine) :
    (∀ i < n, ¬s.Halts perTick perFrame mask i m) ∨
    ∃ k < n, (∀ i < k, ¬s.Halts perTick perFrame mask i m) ∧
      s.Halts perTick perFrame mask k m := by
  induction n with
  | zero => exact .inl fun i hi => absurd hi i.not_lt_zero
  | succ n ih =>
    obtain running | ⟨k, early, first⟩ := ih
    · by_cases halts : s.Halts perTick perFrame mask n m
      · exact .inr ⟨n, n.lt_succ_self, running, halts⟩
      · refine .inl fun i hi => ?_
        obtain before | rfl := Nat.lt_succ_iff_lt_or_eq.mp hi
        · exact running i before
        · exact halts
    · exact .inr ⟨k, Nat.lt_succ_of_lt early, first⟩

/-- A rollout without a halt is continued by a rollout from where it has ended. -/
theorem rollout_add_of_running {n : Nat} {m : Machine}
    (running : ∀ i < n, ¬s.Halts perTick perFrame mask i m) (k : Nat) :
    s.rollout perTick perFrame mask (n + k) m =
      (s.footage perTick perFrame mask n m).followedBy
        (s.rollout perTick perFrame mask k (s.opening perTick perFrame mask n m)) := by
  have joined (j : Nat)
      (later : ∀ i < j, ¬s.Halts perTick perFrame mask i (s.opening perTick perFrame mask n m)) :
      ∀ i < n + j, ¬s.Halts perTick perFrame mask i m := by
    intro i hi
    by_cases before : i < n
    · exact running i before
    · obtain ⟨d, rfl⟩ : ∃ d, i = n + d := ⟨i - n, by omega⟩
      rw [halts_add]
      exact later d (by omega)
  obtain later | ⟨j, early, later, halts⟩ :=
    running_or_first_halt k (s.opening perTick perFrame mask n m)
  · rw [rollout_of_running later, rollout_of_running (joined k later), footage_add]
  · rw [rollout_of_halt early later halts, ← footage_add, ← Nat.add_assoc]
    exact rollout_of_halt (by omega) (joined j later) ((halts_add n j m).mpr halts)

/-- Where a rollout has ended, its last frame is what the machine shows. -/
theorem getLast?_footage (k : Nat) (m : Machine) :
    (s.footage perTick perFrame mask (k + 1) m).displays.getLast? =
      some (s.footage perTick perFrame mask (k + 1) m).machine.display := by
  have shown : (s.frameAt perTick perFrame mask k m).machine.display =
      (s.opening perTick perFrame mask (k + 1) m).display := by
    rw [opening_succ, verdict, display_judge]
    rfl
  simp [footage, List.range_succ, shown]

/-- Where unknown opcodes are stepped over, only the stack makes a frame halt. A frame that an
unknown opcode ends stands at this opcode, and the next frame starts two bytes behind it. -/
theorem frameAt_of_skips (skips : s.settings.onUnknownOpcode = "skip") (i : Nat) (m : Machine) :
    let ended := s.frameAt perTick perFrame mask i m
    (s.Halts perTick perFrame mask i m ↔
      ended.fault = some .stackEmpty ∨ ended.fault = some .stackFull) ∧
    (ended.fault = some .unknownOpcode →
      Instruction.decode? ended.machine.fetch = none ∧
      s.opening perTick perFrame mask (i + 1) m =
        { ended.machine with pc := ended.machine.pc + 2 }) := by
  intro ended
  refine ⟨halted_judge_of_skips skips ended.machine ended.fault, fun failed => ?_⟩
  have judged : s.verdict perTick perFrame mask (s.opening perTick perFrame mask i m) =
      s.judge ended.machine (some .unknownOpcode) := congrArg (s.judge ended.machine) failed
  refine ⟨Machine.obstacle_unknownOpcode_iff.mp (Machine.obstacle_of_run failed), ?_⟩
  rw [opening_succ, judged, judge_unknown_of_skips skips]
  rfl

/-- A rollout is the frames from its start on, each of them starting where the verdict on the one
before has left the machine. Either none of them halts: then they are as many as were asked for, and
a longer rollout is this one followed by the rollout of the remaining frames. Or the last of them
halts: then they are one at least, and no longer rollout has more. The last display is that of the
machine at the end. Where unknown opcodes are stepped over, only the stack can make a frame halt,
and a frame that an unknown opcode ends is followed by one that starts two bytes behind it. -/
theorem rollout_composition (s : Session) (perTick perFrame : Nat) (mask : UInt16) (m : Machine)
    (n k : Nat) :
    let rollout := s.rollout perTick perFrame mask
    let r := rollout n m
    let frames := r.displays.length
    let halts i := s.Halts perTick perFrame mask i m
    r = s.footage perTick perFrame mask frames m ∧
    Xor
      ((∀ i < frames, ¬halts i) ∧ frames = n ∧
        rollout (n + k) m = r.followedBy (rollout k r.machine))
      ((∃ i, frames = i + 1 ∧ halts i) ∧ 1 ≤ frames ∧ frames ≤ n ∧ rollout (n + k) m = r) ∧
    (∀ i < frames, ¬halts i → i + 1 < n → i + 1 < frames) ∧
    (r.displays ≠ [] → r.displays.getLast? = some r.machine.display) ∧
    (s.settings.onUnknownOpcode = "skip" → ∀ i < frames,
      let ended := s.frameAt perTick perFrame mask i m
      (halts i ↔ ended.fault = some .stackEmpty ∨ ended.fault = some .stackFull) ∧
      (ended.fault = some .unknownOpcode →
        Instruction.decode? ended.machine.fetch = none ∧
        s.opening perTick perFrame mask (i + 1) m =
          { ended.machine with pc := ended.machine.pc + 2 })) := by
  intro rollout r frames halts
  obtain running | ⟨j, early, running, halt⟩ := running_or_first_halt n m
  · have all : r = s.footage perTick perFrame mask n m := rollout_of_running running
    have count : frames = n := by simp [frames, all, footage]
    have longer : rollout (n + k) m = r.followedBy (rollout k r.machine) := by
      rw [all]
      exact rollout_add_of_running running k
    refine ⟨count ▸ all, .inl ⟨⟨count ▸ running, count, longer⟩, ?_⟩,
      fun _ _ _ more => count ▸ more, ?_, fun skips i _ => frameAt_of_skips skips i m⟩
    · rintro ⟨⟨i, last, halt⟩, -⟩
      exact running i (by omega) halt
    · intro shown
      obtain ⟨i, rfl⟩ : ∃ i, n = i + 1 := by
        have positive : 0 < frames := List.length_pos_iff.mpr shown
        exact ⟨n - 1, by omega⟩
      rw [all]
      exact getLast?_footage i m
  · have cut : r = s.footage perTick perFrame mask (j + 1) m := rollout_of_halt early running halt
    have count : frames = j + 1 := by simp [frames, cut, footage]
    have longer : rollout (n + k) m = r := by
      rw [cut]
      exact rollout_of_halt (by omega) running halt
    refine ⟨count ▸ cut, .inr ⟨⟨⟨j, count, halt⟩, by omega, by omega, longer⟩, ?_⟩, ?_, ?_,
      fun skips i _ => frameAt_of_skips skips i m⟩
    · rintro ⟨none, -⟩
      exact none j (by omega) halt
    · intro i hi runs _
      have other : i ≠ j := by
        rintro rfl
        exact runs halt
      omega
    · intro _
      rw [cut]
      exact getLast?_footage j m

/-- A session that steps over unknown opcodes, on a program that starts with one. A return that has
nowhere to go follows. -/
def stepping : Session := ⟨⟨#[0xFF, 0xFF, 0x00, 0xEE], by decide⟩, { onUnknownOpcode := "skip" }⟩

def steppingMachine : Machine := stepping.powerOn ⟨0, 0⟩

theorem frame_steppingMachine :
    frame 1 1 0 steppingMachine = ⟨steppingMachine, some .unknownOpcode, 0⟩ := by
  have word : steppingMachine.fetch = wordOfBytes 0xFF 0xFF :=
    Machine.fetch_of_load (p := stepping.program) rfl (k := 0) (by decide) rfl
  have unknown : Instruction.decode? steppingMachine.fetch = none := by
    rw [word]
    decide
  exact (Machine.run_self 1 _).trans
    (Machine.cycles_of_error (Machine.cycle_of_unknown unknown 1) Nat.one_pos)

theorem frame_skipOver_steppingMachine :
    frame 1 1 0 steppingMachine.skipOver = ⟨steppingMachine.skipOver, some .stackEmpty, 0⟩ := by
  have same : steppingMachine.skipOver.memory = steppingMachine.memory := rfl
  have room : 2 + 1 < stepping.program.bytes.size := by decide
  have word : steppingMachine.skipOver.fetch = wordOfBytes 0x00 0xEE :=
    Machine.fetch_of_load (m := .powerOn ⟨0, 0⟩ .modern) same room rfl
  have decoded : Instruction.decode? steppingMachine.skipOver.fetch = some .ret := by
    rw [Instruction.decode_ret_iff, word]
    rfl
  have empty : steppingMachine.skipOver.stack = .empty := rfl
  have obstacle : steppingMachine.skipOver.obstacle?
      (Instruction.decode? steppingMachine.skipOver.fetch) = some .stackEmpty := by
    rw [decoded, Machine.obstacle?, empty]
    rfl
  exact (Machine.run_self 1 _).trans
    (Machine.cycles_of_error (Machine.cycle_eq_error_iff.mpr obstacle) Nat.one_pos)

theorem opening_steppingMachine :
    stepping.opening 1 1 0 1 steppingMachine = steppingMachine.skipOver := by
  rw [opening_succ, opening_zero, verdict, frame_steppingMachine]
  exact judge_unknown_of_skips rfl _

theorem fault_steppingMachine :
    (stepping.frameAt 1 1 0 0 steppingMachine).fault = some .unknownOpcode := by
  rw [frameAt, opening_zero, frame_steppingMachine]

theorem running_steppingMachine : ∀ i < 1, ¬stepping.Halts 1 1 0 i steppingMachine := by
  intro i hi
  obtain rfl : i = 0 := Nat.lt_one_iff.mp hi
  rw [Halts, opening_zero, verdict, frame_steppingMachine, halted_judge_of_skips rfl]
  simp

theorem halts_steppingMachine : stepping.Halts 1 1 0 1 steppingMachine := by
  rw [Halts, opening_steppingMachine, verdict, frame_skipOver_steppingMachine,
    halted_judge_of_skips rfl]
  exact .inl rfl

/-- The first frame meets the unknown opcode and the second one the return, which halts. So one
frame goes on in a second one, and the two are all there are. -/
theorem rollout_composition_past_unknown :
    stepping.settings.onUnknownOpcode = "skip" ∧
    (stepping.frameAt 1 1 0 0 steppingMachine).fault = some .unknownOpcode ∧
    stepping.opening 1 1 0 1 steppingMachine =
      { (stepping.frameAt 1 1 0 0 steppingMachine).machine with
        pc := (stepping.frameAt 1 1 0 0 steppingMachine).machine.pc + 2 } ∧
    stepping.rollout 1 1 0 (1 + 4) steppingMachine =
      (stepping.rollout 1 1 0 1 steppingMachine).followedBy
        (stepping.rollout 1 1 0 4 (stepping.rollout 1 1 0 1 steppingMachine).machine) ∧
    (stepping.rollout 1 1 0 5 steppingMachine).displays.length = 2 ∧
    stepping.rollout 1 1 0 (5 + 3) steppingMachine = stepping.rollout 1 1 0 5 steppingMachine ∧
    (stepping.rollout 1 1 0 5 steppingMachine).displays.getLast? =
      some (stepping.rollout 1 1 0 5 steppingMachine).machine.display := by
  have one : (stepping.rollout 1 1 0 1 steppingMachine).displays.length = 1 := by
    simp [rollout_of_running running_steppingMachine, footage]
  have two : (stepping.rollout 1 1 0 5 steppingMachine).displays.length = 2 := by
    rw [rollout_of_halt (by decide) running_steppingMachine halts_steppingMachine]
    simp [footage]
  have shown : (stepping.rollout 1 1 0 5 steppingMachine).displays ≠ [] :=
    List.ne_nil_of_length_eq_add_one two
  obtain ⟨-, split, -, -, stepped⟩ := rollout_composition stepping 1 1 0 steppingMachine 1 4
  obtain ⟨-, split', -, last, -⟩ := rollout_composition stepping 1 1 0 steppingMachine 5 3
  obtain ⟨-, next⟩ := (stepped rfl 0 (by rw [one]; decide)).2 fault_steppingMachine
  refine ⟨rfl, fault_steppingMachine, next, ?_, two, ?_, last shown⟩
  · obtain ⟨⟨-, -, longer⟩, -⟩ | ⟨⟨⟨i, only, halt⟩, -⟩, -⟩ := split
    · exact longer
    · have first : i + 1 = 1 := only.symm.trans one
      exact absurd halt (running_steppingMachine i (by omega))
  · obtain ⟨⟨none, -, -⟩, -⟩ | ⟨⟨-, -, -, longer⟩, -⟩ := split'
    · exact absurd halts_steppingMachine (none 1 (by rw [two]; decide))
    · exact longer

end Session

end Chip8
