import Mathlib.Algebra.BigOperators.Group.List.Basic
import Mathlib.Algebra.Ring.Nat
import Chip8.Proofs.Cycles

/-! How a run is cut into pieces does not show. Runs that follow one another end where the single
run of their total length ends, also when a fault stops one of the first: the later ones try the
failing instruction again and change nothing. Frames are such pieces, so their rate does not show
either. -/
namespace Chip8

/-- One more run from where `r` has ended, with the instructions of both counted. -/
def Run.extend (perTick : Nat) (r : Run) (n : Nat) : Run :=
  (r.machine.run perTick n n).after r.executed

namespace Machine

/-- A machine whose program counter lies in the font. -/
def inFont : Machine := { powerOn ⟨0, 0⟩ .modern with pc := 0 }

theorem decode_inFont : Instruction.decode? inFont.fetch = none := by
  have word : inFont.fetch = 0xF090 := by
    simp [inFont, fetch, read, powerOn, blankMemory, Address.after, Address.ofNat, font,
      wordOfBytes]
  rw [word]
  decide

variable {perTick : Nat}

/-- A run that a fault has ended is at a fixed point. -/
theorem run_of_fault {n : Nat} {m : Machine} {fault : Fault}
    (h : (m.cycles perTick n).fault = some fault) {k : Nat} (hk : 0 < k) :
    (m.cycles perTick n).machine.run perTick k k =
      ⟨(m.cycles perTick n).machine, some fault, 0⟩ := by
  rw [run_self]
  exact cycles_of_error (cycle_of_fault h) hk

theorem extend_cycles (n : Nat) (m : Machine) {k : Nat} (hk : 0 < k) :
    (m.cycles perTick n).extend perTick k = m.cycles perTick (n + k) := by
  rw [Run.extend, cycles_add]
  cases hf : (m.cycles perTick n).fault with
  | none => rw [run_self]
  | some fault => simp [run_of_fault hf hk, Run.after, ← hf]

theorem foldl_extend_cycles (chunks : List Nat) (positive : ∀ n ∈ chunks, 0 < n)
    (n : Nat) (m : Machine) :
    chunks.foldl (Run.extend perTick) (m.cycles perTick n) =
      m.cycles perTick (n + chunks.sum) := by
  induction chunks generalizing n with
  | nil => simp
  | cons k ks ih =>
    obtain ⟨hk, hks⟩ := List.forall_mem_cons.mp positive
    rw [List.foldl_cons, extend_cycles n m hk, ih hks, List.sum_cons, Nat.add_assoc]

end Machine

theorem Settings.perTurn_pos (instructions clock : Int) :
    0 < (perTurn? instructions clock).getD 1 := by
  unfold perTurn?
  split
  · exact Nat.one_pos
  · simp only [Option.getD_some]
    omega

namespace Session

/-- The session at another frame rate. -/
def atFps (s : Session) (fps : Int) : Session :=
  { s with settings := { s.settings with fps := fps } }

theorem perFrame_pos (s : Session) : 0 < s.perFrame := Settings.perTurn_pos _ _

/-- `k` frames in a row under the same keys. -/
def frames (s : Session) (mask : UInt16) : Nat → Machine → Run
  | 0, m => .start m
  | k + 1, m =>
    let r := s.frames mask k m
    (frame s.perTick s.perFrame mask r.machine).after r.executed

/-- Setting the held keys again changes nothing, since no instruction releases them. -/
theorem withKeys_cycles (perTick n : Nat) (mask : UInt16) (m : Machine) :
    ((m.withKeys mask).cycles perTick n).machine.withKeys mask =
      ((m.withKeys mask).cycles perTick n).machine := by
  have kept : ((m.withKeys mask).cycles perTick n).machine.keypad = ⟨mask⟩ :=
    (Machine.cycles_frame n (m.withKeys mask)).1
  rw [Machine.withKeys, ← kept]

theorem frames_eq_cycles (s : Session) (mask : UInt16) (k : Nat) (m : Machine) :
    s.frames mask (k + 1) m = (m.withKeys mask).cycles s.perTick ((k + 1) * s.perFrame) := by
  induction k with
  | zero => simp [frames, frame, Run.start, Machine.run_self]
  | succ k ih =>
    rw [frames, ih, Nat.succ_mul (k + 1), ← Machine.extend_cycles _ _ s.perFrame_pos]
    simp only [frame, withKeys_cycles, Run.extend]

/-- Runs that follow one another end like the single run of their total length: in the same
machine, with the same last fault, and with as many instructions in total. Once a fault has
stopped one of them, every later one reports it again, executes nothing and changes nothing. So
frames at two rates that add up to the same number of instructions end alike. -/
theorem chunking_invariance (s : Session) (m : Machine) (chunks : List Nat)
    (positive : ∀ n ∈ chunks, 0 < n) :
    let r := chunks.foldl (Run.extend s.perTick) (.start m)
    r = m.run s.perTick chunks.sum chunks.sum ∧
    (∀ fault, r.fault = some fault → ∀ k : Nat, 0 < k →
      r.machine.run s.perTick k k = ⟨r.machine, some fault, 0⟩) ∧
    ∀ (mask : UInt16) (fps₁ fps₂ : Int) (k₁ k₂ n : Nat), 0 < n →
      k₁ * (s.atFps fps₁).perFrame = n → k₂ * (s.atFps fps₂).perFrame = n →
      (s.atFps fps₁).frames mask k₁ m = (m.withKeys mask).run s.perTick n n ∧
      (s.atFps fps₂).frames mask k₂ m = (m.withKeys mask).run s.perTick n n := by
  intro r
  have total : r = m.cycles s.perTick (0 + chunks.sum) :=
    Machine.foldl_extend_cycles chunks positive 0 m
  rw [Nat.zero_add] at total
  refine ⟨total.trans (Machine.run_self _ m).symm, ?_, ?_⟩
  · intro fault hf k hk
    rw [total] at hf ⊢
    exact Machine.run_of_fault hf hk
  · intro mask fps₁ fps₂ k₁ k₂ n hn h₁ h₂
    have frames_eq (fps : Int) (k : Nat) (h : k * (s.atFps fps).perFrame = n) :
        (s.atFps fps).frames mask k m = (m.withKeys mask).run s.perTick n n := by
      cases k with
      | zero => omega
      | succ k => rw [frames_eq_cycles, h, Machine.run_self]; rfl
    exact ⟨frames_eq fps₁ k₁ h₁, frames_eq fps₂ k₂ h₂⟩

/-- Three runs that start in the font, where no instruction stands: the first one meets the
fault, and the other two meet it again. -/
theorem chunking_invariance_in_font :
    let s : Session := ⟨⟨#[], by decide⟩, { instructionFrequency := 600 }⟩
    let r := [2, 1, 3].foldl (Run.extend s.perTick) (.start .inFont)
    r = Machine.inFont.run s.perTick 6 6 ∧
    r.fault = some .unknownOpcode ∧
    r.machine.run s.perTick 4 4 = ⟨r.machine, some .unknownOpcode, 0⟩ ∧
    (s.atFps 60).frames 1 2 .inFont = (Machine.inFont.withKeys 1).run s.perTick 20 20 ∧
    (s.atFps 30).frames 1 1 .inFont = (Machine.inFont.withKeys 1).run s.perTick 20 20 := by
  intro s r
  obtain ⟨total, again, rates⟩ := chunking_invariance s .inFont [2, 1, 3] (by decide)
  have failed : r.fault = some .unknownOpcode := by
    rw [show r = _ from total, Machine.run_self,
      Machine.cycles_of_error (Machine.cycle_of_unknown Machine.decode_inFont _) (by decide)]
  exact ⟨total, failed, again _ failed 4 (by decide), rates 1 60 30 2 1 20 (by decide) rfl rfl⟩

end Session

end Chip8
