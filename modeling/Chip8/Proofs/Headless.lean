import Chip8.Host.Headless
import Chip8.Proofs.Cycles

/-! The headless loop against the interpreter that takes one instruction at a time. The loop makes
long runs under the budget that is left and does its own sums; `Session.walk` spends one unit of
the budget on every instruction that completes or is stepped over. Both end in the same machine
with the same exit code, or are refused alike. -/
namespace Chip8

/-- The end of a walk. -/
structure Walk where
  machine : Machine
  halted : Bool
  /-- Instructions that completed. -/
  completed : Nat
  /-- Unknown opcodes that were stepped over. -/
  skipped : Nat

/-- The walk with some instructions before it. -/
def Walk.after (completed skipped : Nat) (w : Walk) : Walk :=
  { w with completed := completed + w.completed, skipped := skipped + w.skipped }

theorem Walk.after_comp_after (c k c' k' : Nat) :
    Walk.after c k ∘ Walk.after c' k' = Walk.after (c + c') (k + k') := by
  funext w
  simp [after, Nat.add_assoc]

/-- A walk stays within its budget, and spends it exactly unless it halts. -/
structure Walk.Spends (w : Walk) (budget : Nat) : Prop where
  within : w.completed + w.skipped ≤ budget
  exactly : w.halted = false → w.completed + w.skipped = budget

theorem Walk.Spends.after {w : Walk} {budget : Nat} (h : w.Spends budget) (c k : Nat) :
    (w.after c k).Spends (budget + (c + k)) := by
  obtain ⟨within, exactly⟩ := h
  refine ⟨?_, fun running => ?_⟩
  · simp only [Walk.after]
    omega
  · have := exactly running
    simp only [Walk.after]
    omega

namespace Session

/-- Instructions one at a time while the budget lasts. An unknown opcode is stepped over where the
settings say so, without a tick and without being counted as completed; every other fault ends
the walk. -/
def walk (s : Session) : Nat → Machine → Option Walk
  | 0, m => some ⟨m, false, 0, 0⟩
  | budget + 1, m =>
    s.ticks?.bind fun perTick =>
      match m.cycle perTick with
      | .ok m' => (s.walk budget m').map (Walk.after 1 0)
      | .error fault =>
        if fault = .unknownOpcode ∧ s.settings.onUnknownOpcode = "skip" then
          (s.walk budget { m with pc := m.pc + 2 }).map (Walk.after 0 1)
        else some ⟨m, true, 0, 0⟩

variable {s : Session} {budget : Nat} {m : Machine} {w : Walk}

theorem walk_of_counts (counts : s.countsTicks = true) (budget : Nat) (m : Machine) :
    s.walk (budget + 1) m =
      match m.cycle s.perTick with
      | .ok m' => (s.walk budget m').map (Walk.after 1 0)
      | .error fault =>
        if fault = .unknownOpcode ∧ s.settings.onUnknownOpcode = "skip" then
          (s.walk budget m.skipOver).map (Walk.after 0 1)
        else some ⟨m, true, 0, 0⟩ := by
  rw [walk, ticks?, if_pos counts]
  rfl

/-- Only an empty budget is not refused when the ticks cannot be counted. -/
theorem isSome_walk (positive : 0 < budget) : (s.walk budget m).isSome = s.countsTicks := by
  obtain ⟨k, rfl⟩ : ∃ k, budget = k + 1 := ⟨budget - 1, by omega⟩
  cases counts : s.countsTicks with
  | false => simp [walk, ticks?, counts]
  | true =>
    induction k generalizing m with
    | zero =>
      rw [walk_of_counts counts]
      split
      · rfl
      · split <;> rfl
    | succ k ih =>
      rw [walk_of_counts counts]
      split
      · rw [Option.isSome_map]
        exact ih k.succ_pos
      · split
        · rw [Option.isSome_map]
          exact ih k.succ_pos
        · rfl

/-- The three ways in which a walk takes its first instruction. -/
theorem walk_cases (h : s.walk (budget + 1) m = some w) :
    (∃ m' rest, m.cycle s.perTick = .ok m' ∧ s.walk budget m' = some rest ∧ w = rest.after 1 0) ∨
    (∃ rest, s.walk budget m.skipOver = some rest ∧ w = rest.after 0 1) ∨
    w = ⟨m, true, 0, 0⟩ := by
  have counts : s.countsTicks = true := by
    rw [← isSome_walk budget.succ_pos, h]
    rfl
  rw [walk_of_counts counts] at h
  split at h
  · rename_i m' ran
    obtain ⟨rest, walked, rfl⟩ := Option.map_eq_some_iff.mp h
    exact .inl ⟨m', rest, ran, walked, rfl⟩
  · split at h
    · obtain ⟨rest, walked, rfl⟩ := Option.map_eq_some_iff.mp h
      exact .inr (.inl ⟨rest, walked, rfl⟩)
    · exact .inr (.inr (Option.some.inj h).symm)

theorem walk_spends (h : s.walk budget m = some w) : w.Spends budget := by
  induction budget generalizing m w with
  | zero =>
    obtain rfl := Option.some.inj h
    exact ⟨Nat.le_refl _, fun _ => rfl⟩
  | succ budget ih =>
    obtain ⟨m', rest, -, walked, rfl⟩ | ⟨rest, walked, rfl⟩ | rfl := walk_cases h
    · exact (ih walked).after 1 0
    · exact (ih walked).after 0 1
    · exact ⟨Nat.zero_le _, nofun⟩

/-- The machine counts the instructions that complete and no others. -/
theorem walk_counts (h : s.walk budget m = some w) :
    w.machine.completed = m.completed + UInt32.ofNat w.completed := by
  induction budget generalizing m w with
  | zero =>
    obtain rfl := Option.some.inj h
    simp
  | succ budget ih =>
    obtain ⟨m', rest, ran, walked, rfl⟩ | ⟨rest, walked, rfl⟩ | rfl := walk_cases h
    · simp only [Walk.after, ih walked, (Machine.cycle_frame ran).2, UInt32.ofNat_add,
        UInt32.add_assoc]
      rfl
    · simp [Walk.after, ih walked, Machine.skipOver]
    · simp

/-- How often a log warns. -/
def warnings (log : List Log.Entry) : Nat := log.countP fun e => e.level = .warning

theorem spent_after (k : Nat) (r : Run) : spent (r.after k) = k + spent r :=
  Nat.add_assoc k r.executed _

theorem judge_some (s : Session) (m : Machine) (fault : Fault) :
    s.judge m (some fault) =
      if fault = .unknownOpcode ∧ s.settings.onUnknownOpcode = "skip" then
        ⟨m.skipOver, false, [⟨.warning, (m.incident fault).report⟩]⟩
      else ⟨m, true, [⟨.error, (m.incident fault).report⟩]⟩ := by
  simp [judge, Settings.skipsUnknown]

theorem warnings_of_halt {s : Session} {m : Machine} {fault : Option Fault}
    (h : (s.judge m fault).halted = true) : warnings (s.judge m fault).log = 0 := by
  cases fault with
  | none => rfl
  | some fault =>
    rw [judge_some] at h ⊢
    split at h
    · cases h
    · rename_i stays
      rw [if_neg stays]
      rfl

/-- The walk covers the instructions of a run and the verdict on them, and goes on with what the
run has left of the budget. -/
theorem walk_eq_turn (counts : s.countsTicks = true) (n : Nat) (m : Machine) :
    let r := m.cycles s.perTick n
    let v := s.judge r.machine r.fault
    s.walk n m =
      if v.halted then some ⟨v.machine, true, r.executed, 0⟩
      else (s.walk (n - spent r) v.machine).map (Walk.after r.executed (warnings v.log)) := by
  induction n generalizing m with
  | zero => rfl
  | succ n ih =>
    dsimp only
    rw [walk_of_counts counts]
    cases hc : m.cycle s.perTick with
    | ok m' =>
      let r := m'.cycles s.perTick n
      have same : s.judge (r.after 1).machine (r.after 1).fault = s.judge r.machine r.fault := rfl
      have left : n + 1 - spent (r.after 1) = n - spent r := by
        rw [spent_after]
        omega
      rw [Machine.cycles_of_ok hc, same, left]
      dsimp only
      rw [ih m']
      split
      · rfl
      · rw [Option.map_map, Walk.after_comp_after, Nat.zero_add]
        rfl
    | error fault =>
      rw [Machine.cycles_of_error hc n.succ_pos]
      dsimp only
      rw [judge_some]
      split
      · rfl
      · rfl

/-- The loop and the walk end alike, and every opcode that is stepped over is a warning. -/
structure Agree (h : Headless) (w : Walk) : Prop where
  machine : h.machine = w.machine
  halted : h.halted = w.halted
  skipped : warnings h.log = w.skipped

theorem map_eq_map_of_rel {α β γ : Type} {R : α → β → Prop} {a : Option α} {b : Option β}
    {f : α → γ} {g : β → γ} (h : Option.Rel R a b) (same : ∀ x y, R x y → f x = g y) :
    a.map f = b.map g := by
  cases h with
  | none => rfl
  | some related => exact congrArg some (same _ _ related)

theorem exists_of_rel_some {α β : Type} {R : α → β → Prop} {a : Option α} {y : β}
    (h : Option.Rel R a (some y)) : ∃ x, a = some x ∧ R x y := by
  cases h with
  | some related => exact ⟨_, rfl, related⟩

theorem resume_agrees (s : Session) (length : Nat) (budget : Int) (fits : budget ≤ length)
    (m : Machine) (counted : budget < 2147483648) :
    Option.Rel Agree (s.resume length budget fits m) (s.walk budget.toNat m) := by
  fun_induction s.resume length budget fits m with
  | case1 budget fits m exhausted =>
    rw [Int.toNat_of_nonpos exhausted]
    exact .some ⟨rfl, rfl, rfl⟩
  | case2 budget fits m exhausted refused =>
    -- The budget fits, so it is the ticks that are refused.
    have counts : s.countsTicks = false := by
      have inside : fitsInt32 budget = true := fitsInt32_iff.mpr (by omega)
      cases counts : s.countsTicks with
      | false => rfl
      | true =>
        have ran : s.run? length budget m = some (m.run s.perTick length budget) :=
          run?_eq_some.mpr ⟨⟨counts, inside⟩, rfl⟩
        rw [refused] at ran
        cases ran
    have stops : s.walk budget.toNat m = none := by
      rw [← Option.not_isSome_iff_eq_none, isSome_walk (by omega), counts]
      exact Bool.false_ne_true
    rw [stops]
    exact .none
  | case3 budget fits m exhausted r ran v halted =>
    obtain ⟨⟨counts, -⟩, rfl⟩ := run?_eq_some.mp ran
    have turn := walk_eq_turn counts budget.toNat m
    rw [← Machine.run_of_limit_le fits m] at turn
    rw [turn, if_pos halted]
    exact .some ⟨rfl, rfl, warnings_of_halt halted⟩
  | case4 budget fits m exhausted r ran v running note ih =>
    obtain ⟨⟨counts, -⟩, rfl⟩ := run?_eq_some.mp ran
    have turn := walk_eq_turn counts budget.toNat m
    rw [← Machine.run_of_limit_le fits m] at turn
    have spends := spent_pos_of_run? ran (by omega) (by omega)
    have rest := ih (by omega)
    rw [show (budget - spent (m.run s.perTick length budget)).toNat =
      budget.toNat - spent (m.run s.perTick length budget) by omega] at rest
    rw [turn, if_neg running]
    have quiet : warnings note = 0 := by
      simp only [note]
      split <;> rfl
    revert rest
    generalize s.resume length _ _ v.machine = h
    generalize s.walk _ v.machine = w
    intro rest
    cases rest with
    | none => exact .none
    | some agree =>
      refine .some ⟨agree.machine, agree.halted, ?_⟩
      simp only [warnings, List.countP_append] at quiet ⊢
      rw [quiet]
      exact congrArg _ agree.skipped

theorem completed_of_boot {s : Session} {m : Machine} (booted : s.boot? = some m) :
    m.completed = 0 := by
  obtain ⟨key, _, rfl⟩ := Option.map_eq_some_iff.mp booted
  rfl

end Session

namespace Host

/-- The end of a command by whether its run has halted, if it was not refused. -/
def endingOfHalt : Option Bool → Ending
  | some halted => .exit (if halted then 1 else 0)
  | none => .broken .countRange

/-- The exit code of a headless command that saves no picture. -/
theorem ending_of_boot {painter : Painter} {files : Files} {o : CommandLine.Options} {s : Session}
    {m : Machine} {steps : Int} (booted : s.boot? = some m) (asked : o.steps = .value steps)
    (plain : o.screenshot = .absent) :
    (runHeadless painter files o s).ending =
      endingOfHalt ((s.headless steps m).map Headless.halted) := by
  simp only [runHeadless, booted, asked, plain, runSteps, finish]
  cases s.headless steps m with
  | none => rfl
  | some h => cases stopped : h.halted <;> simp [endingOfHalt, stopped]

end Host

/-- The headless loop ends, in the machine and with the exit code of the walk over its budget, and
is refused like the walk, which is when the ticks cannot be counted. Exit code 0 means that the
completed instructions and those stepped over are exactly the steps that were asked for. -/
theorem headless_refines_walk (painter : Painter) (files : Files) (o : CommandLine.Options)
    (s : Session) (m : Machine) (steps : Int) (booted : s.boot? = some m)
    (asked : o.steps = .value steps) (plain : o.screenshot = .absent) (positive : 1 ≤ steps)
    (counted : steps < 2147483648) :
    let walk := s.walk steps.toNat m
    let ending := (Host.runHeadless painter files o s).ending
    walk.isSome = s.countsTicks ∧
    (s.headless steps m).map Headless.machine = walk.map Walk.machine ∧
    ending = Host.endingOfHalt (walk.map Walk.halted) ∧
    ∀ h w, s.headless steps m = some h → walk = some w →
      h.machine.completed.toNat = w.completed ∧
      Session.warnings h.log = w.skipped ∧
      (ending = .exit 0 →
        (h.machine.completed.toNat + Session.warnings h.log : Int) = steps) := by
  intro walk ending
  have agree : Option.Rel Session.Agree (s.headless steps m) walk :=
    s.resume_agrees steps.toNat steps _ m counted
  have ended : ending = Host.endingOfHalt (walk.map Walk.halted) := by
    rw [show ending = _ from Host.ending_of_boot booted asked plain]
    exact congrArg _ (Session.map_eq_map_of_rel agree fun _ _ alike => alike.halted)
  have machines : (s.headless steps m).map Headless.machine = walk.map Walk.machine :=
    Session.map_eq_map_of_rel agree fun _ _ alike => alike.machine
  refine ⟨Session.isSome_walk (by omega), machines, ended, fun h w ran walked => ?_⟩
  have alike : Session.Agree h w := by
    rw [ran, walked] at agree
    cases agree with
    | some alike => exact alike
  have spends : w.Spends steps.toNat := Session.walk_spends walked
  have within := spends.within
  -- The count starts at zero and stays below the width of its register.
  have completed : h.machine.completed.toNat = w.completed := by
    have counts : h.machine.completed = UInt32.ofNat w.completed := by
      rw [alike.machine, Session.walk_counts walked, Session.completed_of_boot booted,
        UInt32.zero_add]
    rw [counts, UInt32.toNat_ofNat_of_lt']
    exact Nat.lt_of_le_of_lt (Nat.le_of_add_right_le within) (by simp [UInt32.size]; omega)
  refine ⟨completed, alike.skipped, fun zero => ?_⟩
  have running : w.halted = false := by
    rw [ended, walked] at zero
    cases hw : w.halted with
    | false => rfl
    | true => simp [Host.endingOfHalt, hw] at zero
  have total := spends.exactly running
  rw [completed, alike.skipped]
  omega

/-- Two words that match no instruction, under the policy that steps over them. -/
def Session.twoUnknown : Session :=
  ⟨⟨#[0xFF, 0xFF, 0xFF, 0xFF], by decide⟩, { onUnknownOpcode := "skip" }⟩

theorem headless_refines_walk_of_two_unknown :
    let s := Session.twoUnknown
    let m := s.powerOn ⟨0, 0⟩
    let walk := s.walk 2 m
    s.boot? = some m ∧ walk.isSome = true ∧
    (s.headless 2 m).map Headless.machine = walk.map Walk.machine ∧
    (Host.runHeadless .unlimited ⟨fun _ => .error .missing, fun _ => .ok ()⟩
      { rom := "a.ch8", steps := .value 2 } s).ending =
        Host.endingOfHalt (walk.map Walk.halted) := by
  intro s m walk
  have booted : s.boot? = some m := by
    have key : StreamKey.ofSeed? s.settings.seed = some ⟨0, 0⟩ := by decide
    rw [Session.boot?, key, Option.map_some]
  obtain ⟨walked, machines, ending, _⟩ := headless_refines_walk .unlimited
    ⟨fun _ => .error .missing, fun _ => .ok ()⟩ { rom := "a.ch8", steps := .value 2 } s m 2 booted
    rfl rfl (by decide) (by decide)
  exact ⟨booted, walked.trans (by decide : s.countsTicks = true), machines, ending⟩

end Chip8
