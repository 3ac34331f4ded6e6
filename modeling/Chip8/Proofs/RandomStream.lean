import Mathlib.Logic.Function.Iterate
import Chip8.Proofs.Periphery
import Chip8.Proofs.Reachable

/-! The random stream over whole histories. Every operation of a host is read as the list of the
instructions that it completes; `Passes` says how such a list takes the stream from one key to
another, one draw after the other. Nothing but a completed draw moves the key, so the bytes drawn
depend on the first key and on the number of draws before them. -/
namespace Chip8

/-- An instruction that has completed: its word and the machine it has left. -/
structure Completion where
  word : UInt16
  machine : Machine

namespace Completion

/-- Whether the word is CXNN. -/
def isDraw (c : Completion) : Bool := c.word.toNat / 4096 == 0xC

/-- The register X of the word. -/
def target (c : Completion) : Register := Nibble.ofNat (c.word.toNat / 256)

/-- The byte NN of the word. -/
def mask (c : Completion) : UInt8 := lowByte c.word

/-- What the instruction has left in VX. -/
def drawn (c : Completion) : UInt8 := c.machine.reg c.target

/-- An attempt to run a word completes it or not. -/
def ofAttempt (w : UInt16) : Except Fault Machine → List Completion
  | .ok m => [⟨w, m⟩]
  | .error _ => []

end Completion

/-- The stream goes from one key to another along completed instructions: a draw leaves the byte at
the key, masked, and moves on to the next key; every other instruction stays. -/
inductive StreamKey.Passes : StreamKey → List Completion → StreamKey → Prop
  | done (k : StreamKey) : Passes k [] k
  | draw {k k' : StreamKey} {c : Completion} {cs : List Completion} :
      c.isDraw = true → c.drawn = k.byte &&& c.mask → Passes k.next cs k' → Passes k (c :: cs) k'
  | other {k k' : StreamKey} {c : Completion} {cs : List Completion} :
      c.isDraw = false → Passes k cs k' → Passes k (c :: cs) k'

namespace StreamKey.Passes

theorem append {k k' k'' : StreamKey} {cs ds : List Completion} (h : Passes k cs k')
    (h' : Passes k' ds k'') : Passes k (cs ++ ds) k'' := by
  induction h with
  | done => exact h'
  | draw drawing value _ ih => exact .draw drawing value (ih h')
  | other quiet _ ih => exact .other quiet (ih h')

/-- The key has moved once for every draw. -/
theorem key {k k' : StreamKey} {cs : List Completion} (h : Passes k cs k') :
    k' = StreamKey.next^[(cs.filter Completion.isDraw).length] k := by
  induction h with
  | done => rfl
  | draw drawing _ _ ih => rwa [List.filter_cons_of_pos drawing, List.length_cons,
      Function.iterate_succ_apply]
  | other quiet _ ih => rwa [List.filter_cons_of_neg (by simp [quiet])]

/-- The draw before which `j` others have completed has the byte at the `j`-th key. -/
theorem drawn {k k' : StreamKey} {cs : List Completion} (h : Passes k cs k') {j : Nat}
    {c : Completion} (found : (cs.filter Completion.isDraw)[j]? = some c) :
    c.drawn = (StreamKey.next^[j] k).byte &&& c.mask := by
  induction h generalizing j with
  | done => simp at found
  | draw drawing value _ ih =>
    rw [List.filter_cons_of_pos drawing] at found
    cases j with
    | zero =>
      obtain rfl := Option.some.inj found
      exact value
    | succ j =>
      rw [Function.iterate_succ_apply]
      exact ih found
  | other quiet _ ih =>
    rw [List.filter_cons_of_neg (by simp [quiet])] at found
    exact ih found

end StreamKey.Passes

namespace Machine

open StreamKey (Passes)

/-- No instruction but a draw moves the key of the stream. -/
theorem streamKey_perform (m : Machine) {i : Instruction} (h : ¬i.Draws) :
    (m.perform i).streamKey = m.streamKey := by
  have periphery := congrArg Periphery.streamKey (m.periphery_perform i)
  cases i with
  | random x byte => exact absurd trivial h
  | _ => exact periphery

/-- A completed instruction and the stream. The machine may have been counted or ticked since, as
long as its registers and its key are those that the instruction has left. -/
theorem execute_passes {m n m' : Machine} {w : UInt16} (ran : m.execute w = .ok n)
    (registers : m'.registers = n.registers) (key : m'.streamKey = n.streamKey) :
    Passes m.streamKey [⟨w, m'⟩] m'.streamKey := by
  obtain ⟨i, decoded, _, rfl⟩ := execute_eq_ok_iff.mp ran
  by_cases draws : i.Draws
  · cases i with
    | random x byte =>
      obtain ⟨leading, rfl, rfl⟩ := Instruction.decode_random_iff.mp decoded
      rw [key]
      refine .draw (by simp [Completion.isDraw, leading]) ?_ (.done _)
      have value : m'.registers[Nibble.ofNat (w.toNat / 256)] =
          (m.perform (.random (.ofNat (w.toNat / 256)) (lowByte w))).reg (.ofNat (w.toNat / 256)) := by
        rw [registers]
        rfl
      exact value.trans (reg_setReg _ _ _)
    | _ => exact draws.elim
  · have still : m'.streamKey = m.streamKey := key.trans (m.streamKey_perform draws)
    have leading : w.toNat / 4096 ≠ 0xC := by
      intro leading
      have random := Instruction.decode_random_iff.mpr ⟨leading, rfl, rfl⟩
      obtain rfl := Option.some.inj (decoded.symm.trans random)
      exact draws trivial
    rw [still]
    exact .other (by simp [Completion.isDraw, leading]) (.done _)

theorem step_passes {m n m' : Machine} (ran : m.step = .ok n)
    (registers : m'.registers = n.registers) (key : m'.streamKey = n.streamKey) :
    Passes m.streamKey [⟨m.fetch, m'⟩] m'.streamKey :=
  execute_passes (m := m.skipOver) (execute_of_step ran) registers key

theorem cycle_passes {perTick : Nat} {m m' : Machine} (h : m.cycle perTick = .ok m') :
    Passes m.streamKey [⟨m.fetch, m'⟩] m'.streamKey := by
  obtain ⟨n, ran, rfl⟩ := cycle_cases h
  have kept : (m.dueTick perTick).streamKey = m.streamKey := by
    obtain ⟨d, s, ticked⟩ := m.dueTick_writes perTick
    rw [ticked]
  rw [← fetch_dueTick perTick m, ← kept]
  exact step_passes ran rfl rfl

end Machine

namespace Run

open StreamKey (Passes)

/-- The instruction that one more cycle completes: the one at which the run stands, if the cycle
counts it. -/
def completion (perTick : Nat) (limit : Int) (r : Run) : List Completion :=
  let r' := r.advance perTick limit
  if r.executed < r'.executed then [⟨r.machine.fetch, r'.machine⟩] else []

def completions (perTick : Nat) (limit : Int) : Nat → Run → List Completion
  | 0, _ => []
  | n + 1, r => r.completion perTick limit ++ completions perTick limit n (r.advance perTick limit)

/-- One more cycle completes an instruction or leaves the machine alone. -/
theorem advance_cases (perTick : Nat) (limit : Int) (r : Run) :
    (∃ m, r.machine.cycle perTick = .ok m ∧ r.advance perTick limit = ⟨m, none, r.executed + 1⟩) ∨
    ((r.advance perTick limit).machine = r.machine ∧
      (r.advance perTick limit).executed = r.executed) := by
  obtain ⟨m, stopped, k⟩ := r
  by_cases runs : stopped = none ∧ (k : Int) < limit
  · obtain ⟨rfl, below⟩ := runs
    cases ran : m.cycle perTick with
    | ok m' => exact .inl ⟨m', rfl, advance_of_ok ran below⟩
    | error fault =>
      rw [advance_of_error ran below]
      exact .inr ⟨rfl, rfl⟩
  · rw [advance, if_neg runs]
    exact .inr ⟨rfl, rfl⟩

theorem advance_passes (perTick : Nat) (limit : Int) (r : Run) :
    Passes r.machine.streamKey (r.completion perTick limit)
      (r.advance perTick limit).machine.streamKey := by
  unfold completion
  obtain ⟨m, ran, advanced⟩ | ⟨same, uncounted⟩ := r.advance_cases perTick limit
  · rw [advanced]
    simp only [Nat.lt_add_one, if_true]
    exact Machine.cycle_passes ran
  · simp only [uncounted, Nat.lt_irrefl, if_false, same]
    exact .done _

theorem advanceTimes_passes (perTick : Nat) (limit : Int) (n : Nat) (r : Run) :
    Passes r.machine.streamKey (r.completions perTick limit n)
      (r.advanceTimes perTick limit n).machine.streamKey := by
  induction n generalizing r with
  | zero => exact .done _
  | succ n ih => exact (r.advance_passes perTick limit).append (ih _)

end Run

namespace Machine

open StreamKey (Passes)

/-- The instructions that an operation completes. -/
def completions (m : Machine) : Operation → List Completion
  | .execute w => Completion.ofAttempt w (m.execute w)
  | .step => Completion.ofAttempt m.fetch m.step
  | .timestep => Completion.ofAttempt m.fetch m.tick.step
  | .run s length limit => (Run.start m).completions s.perTick limit length
  | .frame s mask => (Run.start (m.withKeys mask)).completions s.perTick s.perFrame s.perFrame
  | .load _ | .tick | .skip | .press _ | .release _ | .setKeys _ | .judge _ _ | .reset => []

theorem obey_passes (m : Machine) (w : UInt16) :
    Passes m.streamKey (Completion.ofAttempt w (m.execute w)) (m.obey w).1.streamKey := by
  cases ran : m.execute w with
  | ok n =>
    rw [execute_ok_iff_obey.mp ran]
    exact execute_passes ran rfl rfl
  | error fault =>
    rw [execute_error_iff_obey.mp ran]
    exact .done _

theorem proceed_passes (m : Machine) :
    Passes m.streamKey (Completion.ofAttempt m.fetch m.step) m.proceed.1.streamKey := by
  cases ran : m.step with
  | ok n =>
    rw [step_ok_iff_proceed.mp ran]
    exact step_passes ran rfl rfl
  | error fault =>
    rw [step_error_iff_proceed.mp ran]
    exact .done _

/-- One operation. -/
theorem apply_passes (m : Machine) (o : Operation) :
    Passes m.streamKey (m.completions o) (m.apply o).streamKey := by
  cases o with
  | load p =>
    obtain ⟨c, loaded⟩ := m.load_writes p
    rw [apply, loaded]
    exact .done _
  | execute w => exact m.obey_passes w
  | step => exact m.proceed_passes
  | timestep => exact m.tick.proceed_passes
  | run s length limit => exact (Run.start m).advanceTimes_passes s.perTick limit length
  | frame s mask =>
    exact (Run.start (m.withKeys mask)).advanceTimes_passes s.perTick s.perFrame s.perFrame
  | press key =>
    rw [apply]
    cases m.keypad.press key with
    | ok p => exact .done _
    | error e => exact .done _
  | release key =>
    rw [apply]
    cases m.keypad.release key with
    | ok p => exact .done _
    | error e => exact .done _
  | judge s fault =>
    cases fault with
    | none => exact .done _
    | some fault =>
      rw [apply, Session.judge]
      split
      · exact .done _
      · exact .done _
  | reset =>
    have kept : (m.apply .reset).streamKey = m.streamKey := streamKey_powerOn _ _
    rw [kept]
    exact .done _
  | tick | skip | setKeys mask => exact .done _

/-- The instructions that operations complete one after another. -/
def history (m : Machine) : List Operation → List Completion
  | [] => []
  | o :: os => m.completions o ++ (m.apply o).history os

theorem history_passes (os : List Operation) (m : Machine) :
    Passes m.streamKey (m.history os) (os.foldl apply m).streamKey := by
  induction os generalizing m with
  | nil => exact .done _
  | cons o os ih => exact (m.apply_passes o).append (ih _)

/-- After any operations the key of the stream is the first one, moved on once for every draw that
has completed; and the draw before which `j` others have completed leaves the byte at the key moved on
`j` times, masked with its own byte. -/
theorem random_stream_law (m : Machine) (os : List Operation) :
    let draws := (m.history os).filter Completion.isDraw
    (os.foldl apply m).streamKey = StreamKey.next^[draws.length] m.streamKey ∧
    ∀ (j : Nat) (c : Completion), draws[j]? = some c →
      c.drawn = (StreamKey.next^[j] m.streamKey).byte &&& c.mask :=
  ⟨(m.history_passes os).key, fun _ _ found => (m.history_passes os).drawn found⟩

theorem cycle_of_random {m : Machine} {x : Register} {byte : UInt8}
    (decoded : Instruction.decode? m.fetch = some (.random x byte)) (perTick : Nat) :
    ∃ m', m.cycle perTick = .ok m' ∧ m'.memory = m.memory ∧ m'.pc = m.pc + 2 := by
  obtain ⟨d, s, ticked⟩ := m.dueTick_writes perTick
  refine ⟨_, cycle_of_decode decoded rfl perTick, ?_⟩
  rw [ticked]
  exact ⟨rfl, rfl⟩

/-- A draw into V0, a word that is no instruction, and a draw into V1. -/
def drawProgram : Program := ⟨#[0xC0, 0xFF, 0xFF, 0xFF, 0xC1, 0x0F], by decide⟩

/-- Between the two draws the run fails, the word is stepped over and the keys change; the second
draw has the byte at the second key all the same. -/
theorem random_stream_law_across_skip :
    let s : Session := ⟨drawProgram, { onUnknownOpcode := "skip" }⟩
    let m := s.powerOn ⟨0, 0⟩
    let os := [.run s 2 2, .judge s (some .unknownOpcode), .setKeys 7, .run s 1 1]
    let m' := os.foldl apply m
    ((m.history os).filter Completion.isDraw).map Completion.word = [0xC0FF, 0xC10F] ∧
    m'.streamKey = StreamKey.next^[2] m.streamKey ∧
    m'.reg 1 = m.streamKey.next.byte &&& 0x0F := by
  intro s
  have words : wordOfBytes drawProgram.bytes[0] drawProgram.bytes[1] = 0xC0FF ∧
      wordOfBytes drawProgram.bytes[2] drawProgram.bytes[3] = 0xFFFF ∧
      wordOfBytes drawProgram.bytes[4] drawProgram.bytes[5] = 0xC10F := by decide
  -- Of the machine only the program and the program counter matter.
  suffices general : ∀ m : Machine,
      m.memory = (s.powerOn ⟨0, 0⟩).memory → m.pc = 512 →
      let os := [.run s 2 2, .judge s (some .unknownOpcode), .setKeys 7, .run s 1 1]
      let m' := os.foldl apply m
      ((m.history os).filter Completion.isDraw).map Completion.word = [0xC0FF, 0xC10F] ∧
      m'.streamKey = StreamKey.next^[2] m.streamKey ∧
      m'.reg 1 = m.streamKey.next.byte &&& 0x0F from
    general _ rfl rfl
  intro m loaded pc os m'
  have word₁ : m.fetch = 0xC0FF :=
    (fetch_of_load loaded (by decide) (by rw [pc]; rfl)).trans words.1
  have draw₁ : Instruction.decode? m.fetch = some (.random 0 0xFF) := by rw [word₁]; decide
  obtain ⟨m₁, ran₁, memory₁, pc₁⟩ := cycle_of_random draw₁ s.perTick
  have word₂ : m₁.fetch = 0xFFFF :=
    (fetch_of_load (memory₁.trans loaded) (by decide) (by rw [pc₁, pc]; rfl)).trans words.2.1
  have failed : m₁.cycle s.perTick = .error .unknownOpcode :=
    cycle_of_unknown (by rw [word₂]; decide) _
  let m₂ := m₁.skipOver.withKeys 7
  have memory₂ : m₂.memory = (s.powerOn ⟨0, 0⟩).memory := memory₁.trans loaded
  have pc₂ : m₂.pc = m₁.pc + 2 := rfl
  have word₃ : m₂.fetch = 0xC10F :=
    (fetch_of_load memory₂ (by decide) (by rw [pc₂, pc₁, pc]; rfl)).trans words.2.2
  have draw₂ : Instruction.decode? m₂.fetch = some (.random 1 0x0F) := by rw [word₃]; decide
  obtain ⟨m₃, ran₃, -, -⟩ := cycle_of_random draw₂ s.perTick
  have first : (Run.start m).advance s.perTick 2 = ⟨m₁, none, 1⟩ :=
    Run.advance_of_ok ran₁ (by decide)
  have second : Run.advance s.perTick 2 ⟨m₁, none, 1⟩ = ⟨m₁, some .unknownOpcode, 1⟩ :=
    Run.advance_of_error failed (by decide)
  have third : (Run.start m₂).advance s.perTick 1 = ⟨m₃, none, 1⟩ :=
    Run.advance_of_ok ran₃ (by decide)
  have applied₁ : m.apply (.run s 2 2) = m₁ := by
    simp only [apply, run, Run.advanceTimes, first, second]
  have applied₂ : (m₁.apply (.judge s (some .unknownOpcode))).apply (.setKeys 7) = m₂ := rfl
  have applied₃ : m₂.apply (.run s 1 1) = m₃ := by simp only [apply, run, Run.advanceTimes, third]
  have ended : m' = m₃ := by
    simp only [m', os, List.foldl_cons, List.foldl_nil, applied₁, applied₂, applied₃]
  have completed : m.history os = [⟨0xC0FF, m₁⟩, ⟨0xC10F, m₃⟩] := by
    simp only [os, history, applied₁, applied₂, completions, Run.completions, Run.completion, first,
      second, third]
    simp [Run.start, word₁, word₃]
  have draws : (m.history os).filter Completion.isDraw = [⟨0xC0FF, m₁⟩, ⟨0xC10F, m₃⟩] := by
    simp [completed, Completion.isDraw]
  obtain ⟨key, drawn⟩ := random_stream_law m os
  rw [draws] at key drawn ⊢
  have value : m₃.reg (.ofNat ((0xC10F : UInt16).toNat / 256)) =
      m.streamKey.next.byte &&& lowByte 0xC10F := drawn 1 ⟨0xC10F, m₃⟩ rfl
  have operands : Nibble.ofNat ((0xC10F : UInt16).toNat / 256) = 1 ∧ lowByte 0xC10F = 0x0F := by
    decide
  rw [operands.1, operands.2] at value
  exact ⟨rfl, key, ended ▸ value⟩

end Machine

end Chip8
