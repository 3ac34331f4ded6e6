import Chip8.Proofs.Trace

/-! The width of an address. The program counter and I are sixteen bits wide, but every instruction
that uses one as an address looks at twelve of them; only FX1E can see more of I, where it flags
sums beyond twelve bits. So machines that agree in twelve bits run alike, and the program counter
behaves as one of twelve bits. -/
namespace Chip8

theorem Address.after_congr {a b : UInt16} (h : b.toNat % 4096 = a.toNat % 4096) (k : Nat) :
    Address.after b k = Address.after a k := by
  apply Fin.ext
  simp only [Address.after, Address.ofNat, Fin.ofNat]
  omega

theorem CallStack.push_congr {a b : UInt16} (h : b.toNat % 4096 = a.toNat % 4096)
    (s : CallStack) : s.push b = s.push a := by
  have same : Address.ofNat b.toNat = Address.ofNat a.toNat := Address.after_congr h 0
  rw [push, push, same]

/-- Sums of sixteen bits agree in twelve bits if their terms do. -/
theorem add_mod_congr {a b : UInt16} (h : b.toNat % 4096 = a.toNat % 4096) (k : UInt16) :
    (b + k).toNat % 4096 = (a + k).toNat % 4096 := by
  simp only [UInt16.toNat_add]
  omega

theorem sub_mod_congr {a b : UInt16} (h : b.toNat % 4096 = a.toNat % 4096) (k : UInt16) :
    (b - k).toNat % 4096 = (a - k).toNat % 4096 := by
  simp only [UInt16.toNat_sub]
  omega

namespace Machine

/-- I in two machines: the same where FX1E flags sums beyond twelve bits, else in twelve bits. -/
def SameIndex (d : Dialect) (i j : UInt16) : Prop :=
  if d.indexOverflowSetsVf then j = i else j.toNat % 4096 = i.toNat % 4096

theorem SameIndex.of_eq {d : Dialect} {i j : UInt16} (h : j = i) : SameIndex d i j := by
  unfold SameIndex
  split
  · exact h
  · rw [h]

theorem SameIndex.mod {d : Dialect} {i j : UInt16} (h : SameIndex d i j) :
    j.toNat % 4096 = i.toNat % 4096 := by
  unfold SameIndex at h
  split at h
  · rw [h]
  · exact h

theorem SameIndex.add {d : Dialect} {i j : UInt16} (h : SameIndex d i j) (k : UInt16) :
    SameIndex d (i + k) (j + k) := by
  unfold SameIndex at h ⊢
  split
  · rw [if_pos ‹_›] at h
    rw [h]
  · rw [if_neg ‹_›] at h
    exact add_mod_congr h k

/-- Machines that differ at most in the high bits of the program counter and, unless FX1E flags
sums beyond twelve bits, of I. -/
structure Aliased (m n : Machine) : Prop where
  rest : n = { m with pc := n.pc, index := n.index }
  pc : n.pc.toNat % 4096 = m.pc.toNat % 4096
  index : SameIndex m.dialect m.index n.index

namespace Aliased

variable {m n : Machine}

theorem refl (m : Machine) : Aliased m m := ⟨rfl, rfl, .of_eq rfl⟩

theorem fields (h : Aliased m n) :
    ∃ p j, n = { m with pc := p, index := j } ∧ p.toNat % 4096 = m.pc.toNat % 4096 ∧
      SameIndex m.dialect m.index j :=
  ⟨n.pc, n.index, h.rest, h.pc, h.index⟩

theorem advanceIndex (h : Aliased m n) (x : Register) :
    Aliased (m.advanceIndex x) (n.advanceIndex x) := by
  obtain ⟨p, j, rfl, pc, index⟩ := h.fields
  simp only [Machine.advanceIndex]
  split
  · exact ⟨rfl, pc, index.add _⟩
  · exact ⟨rfl, pc, index⟩

theorem perform (h : Aliased m n) (i : Instruction) : Aliased (m.perform i) (n.perform i) := by
  have after (k : Nat) : Address.after n.index k = Address.after m.index k :=
    Address.after_congr h.index.mod k
  obtain ⟨p, j, rfl, pc, index⟩ := h.fields
  cases i with
  | system t | clear | load x b | add x b | random x b | readDelay x | setDelay x | setSound x =>
    exact ⟨rfl, pc, index⟩
  | jump t | ret | jumpOffset t x => exact ⟨rfl, rfl, index⟩
  | setIndex t | glyph x => exact ⟨rfl, pc, .of_eq rfl⟩
  | call t =>
    have pushed : m.stack.push p = m.stack.push m.pc := CallStack.push_congr pc m.stack
    simp only [Machine.perform, pushed]
    exact ⟨rfl, rfl, index⟩
  | skip condition =>
    have same : holds { m with pc := p, index := j } condition = m.holds condition := by
      cases condition <;> rfl
    simp only [Machine.perform, same]
    split
    · exact ⟨rfl, add_mod_congr pc 2, index⟩
    · exact ⟨rfl, pc, index⟩
  | alu op x y =>
    simp only [Machine.perform, performAlu]
    split
    · exact ⟨rfl, pc, index⟩
    · exact ⟨rfl, pc, index⟩
  | draw x y height =>
    have sprite : spriteAt { m with pc := p, index := j } x y height = m.spriteAt x y height := by
      simp only [spriteAt, after]
      rfl
    simp only [Machine.perform, performDraw, sprite]
    exact ⟨rfl, pc, index⟩
  | awaitKey x =>
    simp only [Machine.perform, performAwaitKey]
    split
    · exact ⟨rfl, pc, index⟩
    · exact ⟨rfl, sub_mod_congr pc 2, index⟩
  | addIndex x =>
    have sum : Address.ofNat (j.toNat + (m.reg x).toNat) =
        Address.ofNat (m.index.toNat + (m.reg x).toNat) := after _
    simp only [Machine.perform, performAddIndex]
    split
    · rename_i flags
      -- The flag is seen, but then I is the same in both machines.
      obtain rfl : j = m.index := by simpa [SameIndex, flags] using index
      exact ⟨rfl, pc, .of_eq rfl⟩
    · exact ⟨rfl, pc, .of_eq (congrArg Address.toWord sum)⟩
  | decimal x =>
    simp only [Machine.perform, performDecimal, after]
    exact ⟨rfl, pc, index⟩
  | store x =>
    have stored : storedMemory { m with pc := p, index := j } x = m.storedMemory x := by
      simp only [storedMemory, after]
      rfl
    simp only [Machine.perform, storeRegisters_eq, stored]
    exact advanceIndex ⟨rfl, pc, index⟩ x
  | restore x =>
    have restored :
        restoredRegisters { m with pc := p, index := j } x = m.restoredRegisters x := by
      simp only [restoredRegisters, after]
      rfl
    simp only [Machine.perform, restoreRegisters_eq, restored]
    exact advanceIndex ⟨rfl, pc, index⟩ x

theorem skipOver (h : Aliased m n) : Aliased m.skipOver n.skipOver := by
  obtain ⟨p, j, rfl, pc, index⟩ := h.fields
  exact ⟨rfl, add_mod_congr pc 2, index⟩

theorem fetch (h : Aliased m n) : n.fetch = m.fetch := by
  have memory : n.memory = m.memory := by rw [h.rest]
  simp only [Machine.fetch, read, memory, Address.after_congr h.pc]

/-- No instruction sees the high bits. -/
theorem lockstep : Lockstep Aliased fun _ _ => True where
  fetch := fetch
  stack h := by rw [h.rest]
  completed h := by rw [h.rest]
  tick h := by
    obtain ⟨p, j, rfl, pc, index⟩ := h.fields
    exact ⟨rfl, pc, index⟩
  count h := by
    obtain ⟨p, j, rfl, pc, index⟩ := h.fields
    exact ⟨rfl, pc, index⟩
  free_tick _ := trivial
  perform i h _ := h.skipOver.perform i

theorem timestep (h : Aliased m n) :
    n.timestep.2 = m.timestep.2 ∧ Aliased m.timestep.1 n.timestep.1 := by
  have ticked : Aliased m.tick n.tick := lockstep.tick h
  have attempts := lockstep.step ticked fun _ _ _ _ => trivial
  unfold Machine.timestep
  obtain ⟨m', n', hm, hn, related⟩ | ⟨fault, hm, hn⟩ := attempts
  · rw [step_ok_iff_proceed.mp hm, step_ok_iff_proceed.mp hn]
    exact ⟨rfl, related⟩
  · rw [step_error_iff_proceed.mp hm, step_error_iff_proceed.mp hn]
    exact ⟨rfl, ticked⟩

theorem judge (h : Aliased m n) (s : Session) (fault : Option Fault) :
    (s.judge n fault).halted = (s.judge m fault).halted ∧
      Aliased (s.judge m fault).machine (s.judge n fault).machine := by
  cases fault with
  | none => exact ⟨rfl, h⟩
  | some fault =>
    simp only [Session.judge]
    split
    · exact ⟨rfl, h.skipOver⟩
    · exact ⟨rfl, h⟩

end Aliased

/-- The machine with its program counter cut to twelve bits. -/
def narrow (m : Machine) : Machine := { m with pc := (Address.ofNat m.pc.toNat).toWord }

/-- The loop of a machine whose program counter has twelve bits: it is cut after every cycle. -/
def narrowCycles (perTick : Nat) : Nat → Machine → Run
  | 0, m => .start m
  | n + 1, m =>
    match m.cycle perTick with
    | .ok m' => (narrowCycles perTick n m'.narrow).after 1
    | .error fault => ⟨m, some fault, 0⟩

theorem Aliased.narrow {m n : Machine} (h : Aliased m n) : Aliased m n.narrow := by
  obtain ⟨p, j, rfl, pc, index⟩ := h.fields
  refine ⟨rfl, ?_, index⟩
  simp only [Machine.narrow, Address.ofNat, Fin.ofNat, Address.toWord, UInt16.toNat_ofNat']
  omega

theorem Aliased.narrowCycles {perTick : Nat} {m n : Machine} (h : Aliased m n) (k : Nat) :
    (m.cycles perTick k).Matches Aliased (n.narrowCycles perTick k) := by
  induction k generalizing m n with
  | zero => exact ⟨h, rfl, rfl⟩
  | succ k ih =>
    have attempts : Together Aliased (m.cycle perTick) (n.cycle perTick) :=
      lockstep.cycle h fun _ _ _ _ => trivial
    obtain ⟨m', n', hm, hn, related⟩ | ⟨fault, hm, hn⟩ := attempts
    · rw [cycles_of_ok hm, Machine.narrowCycles, hn]
      exact (ih related.narrow).after 1
    · rw [cycles_of_error hm k.succ_pos, Machine.narrowCycles, hn]
      exact ⟨h, rfl, rfl⟩

/-- Machines that agree in twelve bits of their addresses run alike: the same fault after as many
instructions, in machines that agree again. A timestep, stepping over an instruction and the policy
on faults keep them so, too; and cutting the program counter to twelve bits after every cycle makes
no difference. -/
theorem twelve_bit_simulation (s : Session) (length : Nat) (limit : Int) {m n : Machine}
    (h : Aliased m n) :
    (m.run s.perTick length limit).Matches Aliased (n.run s.perTick length limit) ∧
    (n.timestep.2 = m.timestep.2 ∧ Aliased m.timestep.1 n.timestep.1) ∧
    Aliased m.skipOver n.skipOver ∧
    (∀ fault, (s.judge n fault).halted = (s.judge m fault).halted ∧
      Aliased (s.judge m fault).machine (s.judge n fault).machine) ∧
    (m.run s.perTick length limit).Matches Aliased
      (m.narrow.narrowCycles s.perTick (min length limit.toNat)) := by
  refine ⟨?_, h.timestep, h.skipOver, h.judge s, ?_⟩
  · exact Aliased.lockstep.run length limit h fun _ _ _ _ => trivial
  · rw [run_eq_cycles]
    exact (Aliased.refl m).narrow.narrowCycles _

/-- Two machines at the last word of memory, in different copies of the address space: stepping over
it leads one of them to the end of the first copy and the other around to zero. -/
theorem twelve_bit_simulation_around_the_end :
    let s : Session := ⟨⟨#[], by decide⟩, { dialect := .cosmac }⟩
    let m := { powerOn ⟨0, 0⟩ .cosmac with pc := 0x0FFE, index := 0x0FFF }
    let n := { powerOn ⟨0, 0⟩ .cosmac with pc := 0xFFFE, index := 0x1FFF }
    Aliased m n ∧ m.skipOver.pc = 0x1000 ∧ n.skipOver.pc = 0 ∧ Aliased m.skipOver n.skipOver ∧
    (m.run s.perTick 20 20).Matches Aliased (n.run s.perTick 20 20) := by
  intro s m n
  have index : SameIndex .cosmac 0x0FFF 0x1FFF := by
    unfold SameIndex
    decide
  have aliased : Aliased m n := ⟨rfl, by decide, index⟩
  obtain ⟨run, _, skipped, _⟩ := twelve_bit_simulation s 20 20 aliased
  exact ⟨aliased, by decide, by decide, skipped, run⟩

end Machine

end Chip8
