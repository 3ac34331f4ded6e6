import Chip8.Proofs.Decoding
import Chip8.Proofs.Frame

/-! Registers kept in memory. FX55 and FX65 move V0 to VX through a window of sixteen cells that
starts at I and goes on around the end of memory. No two cells of a window are the same, so it does
not matter in which order they are written, or whether the cells behind VX are written back as they
were: each instruction is a plain loop over the registers, and each of them undoes the other. -/
namespace Chip8

/-- The cells of a window are distinct. -/
theorem Address.after_inj {base : UInt16} {i j : Register}
    (h : Address.after base i.val = .after base j.val) : i = j := by
  have same : (base.toNat + i.val) % 4096 = (base.toNat + j.val) % 4096 := congrArg Fin.val h
  have hi := i.isLt
  have hj := j.isLt
  apply Fin.ext
  omega

namespace Machine

/-- Memory after one byte per register has been written to the window at `base`, in this order. -/
def scatter (base : UInt16) (byte : Register → UInt8) (order : List Register)
    (cells : Vector UInt8 4096) : Vector UInt8 4096 :=
  order.foldl (fun cells i => cells.set (Address.after base i.val) (byte i)) cells

section Scatter

variable {base : UInt16} {byte : Register → UInt8} {order : List Register}
  {cells after : Vector UInt8 4096}

theorem scatter_concat (i : Register) :
    scatter base byte (order ++ [i]) cells =
      (scatter base byte order cells).set (Address.after base i.val) (byte i) := by
  rw [scatter, List.foldl_append]
  rfl

theorem scatter_outside {a : Address} (h : ∀ i ∈ order, Address.after base i.val ≠ a) :
    (scatter base byte order cells).get a = cells.get a := by
  induction order generalizing cells with
  | nil => rfl
  | cons j order ih =>
    obtain ⟨first, others⟩ := List.forall_mem_cons.mp h
    have apart : (Address.after base j.val).val ≠ a.val := fun same => first (Fin.ext same)
    exact (ih others).trans (Vector.getElem_set_ne _ _ apart)

theorem scatter_or (a : Address) :
    (scatter base byte order cells).get a = cells.get a ∨ ∃ i ∈ order, Address.after base i.val = a := by
  by_cases written : ∃ i ∈ order, Address.after base i.val = a
  · exact .inr written
  · exact .inl (scatter_outside fun i hi here => written ⟨i, hi, here⟩)

/-- Writing a cell twice does no harm, since it gets the same byte again. -/
theorem scatter_inside {i : Register} (h : i ∈ order) :
    (scatter base byte order cells).get (Address.after base i.val) = byte i := by
  induction order generalizing cells with
  | nil => cases h
  | cons j order ih =>
    -- If `i` comes again, the last write counts; if not, no later write hits its cell.
    by_cases later : i ∈ order
    · exact ih later
    · obtain rfl : i = j := by simpa [later] using h
      have untouched : ∀ k ∈ order, Address.after base k.val ≠ Address.after base i.val := by
        intro k hk same
        exact later (Address.after_inj same ▸ hk)
      exact (scatter_outside untouched).trans (Vector.getElem_set_self _)

/-- Memory with these bytes in the cells that are written and nothing else changed. -/
theorem scatter_eq (inside : ∀ i ∈ order, after.get (Address.after base i.val) = byte i)
    (outside : ∀ a : Address, (∀ i ∈ order, Address.after base i.val ≠ a) → after.get a = cells.get a) :
    scatter base byte order cells = after := by
  suffices same : ∀ a : Address, (scatter base byte order cells).get a = after.get a from
    Vector.ext fun k hk => same ⟨k, hk⟩
  intro a
  by_cases written : ∃ i ∈ order, Address.after base i.val = a
  · obtain ⟨i, hi, rfl⟩ := written
    exact (scatter_inside hi).trans (inside i hi).symm
  · have untouched : ∀ i ∈ order, Address.after base i.val ≠ a :=
      fun i hi here => written ⟨i, hi, here⟩
    exact (scatter_outside untouched).trans (outside a untouched).symm

end Scatter

variable (m : Machine) (x : Register)

theorem storedMemory_eq_scatter :
    m.storedMemory x = scatter m.index m.reg ((List.finRange 16).filter (· ≤ x)) m.memory := by
  rw [scatter, List.foldl_filter, storedMemory]
  simp only [decide_eq_true_eq]

theorem storedMemory_inside {i : Register} (h : i ≤ x) :
    (m.storedMemory x).get (Address.after m.index i.val) = m.reg i := by
  rw [storedMemory_eq_scatter]
  exact scatter_inside (by simpa using h)

theorem storedMemory_outside {a : Address} (h : ∀ i ≤ x, Address.after m.index i.val ≠ a) :
    (m.storedMemory x).get a = m.read a := by
  rw [storedMemory_eq_scatter]
  exact scatter_outside (by simpa using h)

/-- The byte that ends up in a cell of the window: a register up to VX, and behind it what was
there. -/
def windowByte (i : Register) : UInt8 :=
  if i ≤ x then m.reg i else m.read (.after m.index i.val)

/-- All sixteen cells may be written, in any order. -/
theorem scatter_windowByte {order : List Register} (complete : ∀ i, i ∈ order) :
    scatter m.index (m.windowByte x) order m.memory = m.storedMemory x := by
  apply scatter_eq
  · intro i _
    by_cases moved : i ≤ x
    · rw [storedMemory_inside m x moved, windowByte, if_pos moved]
    · have behind : ∀ j ≤ x, Address.after m.index j.val ≠ Address.after m.index i.val := by
        intro j hj same
        exact moved (Address.after_inj same ▸ hj)
      rw [storedMemory_outside m x behind, windowByte, if_neg moved]
  · intro a outside
    exact storedMemory_outside m x fun i _ => outside i (complete i)

/-- Stores the first `n` registers by a loop. -/
def storeLoop (n : Nat) : Machine :=
  (List.range n).foldl (fun m i => m.write (.ofNat (m.index.toNat + i)) (m.reg (.ofNat i))) m

/-- Reads the first `n` registers back by a loop. -/
def restoreLoop (n : Nat) : Machine :=
  (List.range n).foldl (fun m i => m.setReg (.ofNat i) (m.read (.ofNat (m.index.toNat + i)))) m

theorem val_ofNat_of_lt {n : Nat} (h : n < 16) : (Nibble.ofNat n).val = n :=
  Nat.mod_eq_of_lt h

/-- After some rounds the registers so far are in their cells. -/
theorem storeLoop_eq {n : Nat} (h : n ≤ 16) :
    m.storeLoop n =
      { m with memory := scatter m.index m.reg ((List.range n).map .ofNat) m.memory } := by
  induction n with
  | zero => rfl
  | succ n ih =>
    have cell : Address.ofNat (m.index.toNat + n) = .after m.index (Nibble.ofNat n).val := by
      rw [val_ofNat_of_lt h]
      rfl
    rw [storeLoop, List.range_succ, List.foldl_append, ← storeLoop, ih (Nat.le_of_lt h),
      List.map_append, List.map_singleton, scatter_concat]
    simp only [List.foldl_cons, List.foldl_nil, cell, write, reg]

theorem scatter_range :
    scatter m.index m.reg ((List.range (x.val + 1)).map .ofNat) m.memory = m.storedMemory x := by
  apply scatter_eq
  · intro i hi
    obtain ⟨k, hk, rfl⟩ := List.mem_map.mp hi
    have bound : k ≤ x.val := Nat.le_of_lt_succ (List.mem_range.mp hk)
    have number := val_ofNat_of_lt (by omega : k < 16)
    exact storedMemory_inside m x (Fin.le_def.mpr (by omega))
  · intro a outside
    refine storedMemory_outside m x fun i hi => outside i (List.mem_map.mpr ⟨i.val, ?_, ?_⟩)
    · exact List.mem_range.mpr (Nat.lt_succ_of_le hi)
    · exact Fin.ext (val_ofNat_of_lt i.isLt)

theorem storeRegisters_eq_loop : m.storeRegisters x = m.storeLoop (x.val + 1) := by
  rw [storeRegisters_eq, storeLoop_eq m x.isLt, scatter_range]

/-- The first `n` registers from their cells, and the others as they are. -/
def restoredUpTo (n : Nat) : Vector UInt8 16 :=
  Vector.ofFn fun i => if i.val < n then m.read (.after m.index i.val) else m.reg i

theorem restoredUpTo_succ {n : Nat} (h : n < 16) :
    (m.restoredUpTo n).set n (m.read (.after m.index n)) = m.restoredUpTo (n + 1) := by
  apply Vector.ext
  intro i hi
  by_cases here : i = n
  · subst here
    simp [restoredUpTo]
  · have bound : i < n + 1 ↔ i < n := by omega
    rw [Vector.getElem_set_ne _ _ (Ne.symm here)]
    simp only [restoredUpTo, Vector.getElem_ofFn, bound]

/-- After some rounds the registers so far have their cells. -/
theorem restoreLoop_eq {n : Nat} (h : n ≤ 16) :
    m.restoreLoop n = { m with registers := m.restoredUpTo n } := by
  induction n with
  | zero => simp [restoreLoop, restoredUpTo, reg]
  | succ n ih =>
    have number := val_ofNat_of_lt h
    rw [restoreLoop, List.range_succ, List.foldl_append, ← restoreLoop, ih (Nat.le_of_lt h),
      ← restoredUpTo_succ m h]
    simp only [List.foldl_cons, List.foldl_nil, setReg, number, read, Address.after]

theorem restoreRegisters_eq_loop : m.restoreRegisters x = m.restoreLoop (x.val + 1) := by
  rw [restoreLoop_eq m x.isLt, restoreRegisters, restoredUpTo]
  simp only [Fin.le_def, Nat.lt_succ_iff]

theorem advanceIndex_eq : m.advanceIndex x = { m with index := (m.advanceIndex x).index } := by
  obtain ⟨j, advanced, -⟩ := m.advanceIndex_writes x
  rw [advanced]

theorem toNat_index_advanceIndex :
    (m.advanceIndex x).index.toNat =
      if m.dialect.loadStoreIncrementsI then (m.index.toNat + x.val + 1) % 65536
      else m.index.toNat := by
  have bound := x.isLt
  unfold advanceIndex
  split
  · rw [UInt16.toNat_add, UInt16.toNat_ofNat']
    omega
  · rfl

theorem memory_perform_store : (m.perform (.store x)).memory = m.storedMemory x := by
  rw [perform, advanceIndex_eq, storeRegisters_eq]

theorem reg_perform_restore (i : Register) :
    (m.perform (.restore x)).reg i =
      if i ≤ x then m.read (.after m.index i.val) else m.reg i := by
  rw [perform, advanceIndex_eq]
  simp [restoreRegisters, reg]

theorem memory_perform_restore : (m.perform (.restore x)).memory = m.memory := by
  rw [perform, advanceIndex_eq, restoreRegisters]

/-- Registers that were read from their cells are stored back without a trace. -/
theorem storedMemory_of_cells
    (h : ∀ i ≤ x, m.read (.after m.index i.val) = m.reg i) :
    m.storedMemory x = m.memory := by
  rw [storedMemory_eq_scatter]
  apply scatter_eq
  · intro i hi
    exact h i (by simpa using hi)
  · intro a _
    rfl

theorem execute_store :
    m.execute (UInt16.ofNat (Instruction.store x).word) = .ok (m.perform (.store x)) :=
  execute_eq_ok_iff.mpr ⟨.store x, Instruction.decode_store x, rfl, rfl⟩

theorem execute_restore :
    m.execute (UInt16.ofNat (Instruction.restore x).word) = .ok (m.perform (.restore x)) :=
  execute_eq_ok_iff.mpr ⟨.restore x, Instruction.decode_restore x, rfl, rfl⟩

/-- FX55 and FX65 are loops over V0 to VX, and FX55 may as well write the whole window in any order.
Both leave I behind VX or alone, as the dialect says. Whatever else has changed meanwhile, FX65
brings back the registers that FX55 has stored and no others, and FX55 puts back what FX65 has read.
-/
theorem register_dump_round_trip (m n : Machine) (x : Register) :
    let storing := UInt16.ofNat (Instruction.store x).word
    let restoring := UInt16.ofNat (Instruction.restore x).word
    ∃ stored restored, m.execute storing = .ok stored ∧ m.execute restoring = .ok restored ∧
      stored = { m.storeLoop (x.val + 1) with index := stored.index } ∧
      (∀ order, (∀ i, i ∈ order) →
        stored.memory = scatter m.index (m.windowByte x) order m.memory) ∧
      restored = { m.restoreLoop (x.val + 1) with index := restored.index } ∧
      stored.index = restored.index ∧
      stored.index.toNat =
        (if m.dialect.loadStoreIncrementsI then (m.index.toNat + x.val + 1) % 65536
        else m.index.toNat) ∧
      (∃ n', { n with memory := stored.memory, index := m.index }.execute restoring = .ok n' ∧
        ∀ i, n'.reg i = if i ≤ x then m.reg i else n.reg i) ∧
      ∃ n', { n with
          memory := restored.memory
          registers := restored.registers
          index := m.index }.execute storing = .ok n' ∧ n'.memory = m.memory := by
  intro storing restoring
  refine ⟨_, _, m.execute_store x, m.execute_restore x, ?_, ?_, ?_, ?_, ?_,
    ⟨_, execute_restore _ x, ?_⟩, ⟨_, execute_store _ x, ?_⟩⟩
  · rw [← storeRegisters_eq_loop]
    exact advanceIndex_eq _ x
  · intro order complete
    rw [memory_perform_store, scatter_windowByte m x complete]
  · rw [← restoreRegisters_eq_loop]
    exact advanceIndex_eq _ x
  · rw [perform, perform, storeRegisters_eq, restoreRegisters_eq]
    unfold advanceIndex
    split
    · rfl
    · rfl
  · rw [perform, storeRegisters_eq]
    exact toNat_index_advanceIndex _ x
  · intro i
    rw [reg_perform_restore, memory_perform_store]
    by_cases moved : i ≤ x
    · rw [if_pos moved, if_pos moved]
      exact storedMemory_inside m x moved
    · rw [if_neg moved, if_neg moved]
      rfl
  · have read_back := memory_perform_restore m x
    rw [memory_perform_store, storedMemory_of_cells]
    · exact read_back
    · intro i hi
      have read := reg_perform_restore m x i
      rw [if_pos hi] at read
      rw [read_back]
      exact read.symm

/-- The registers hold their numbers plus one, and I points at the last cells of the last copy of
memory. -/
def windowAtEnd : Machine :=
  { powerOn ⟨0, 0⟩ .cosmac with
    index := 0xFFFA
    registers := Vector.ofFn fun i => UInt8.ofNat (i.val + 1) }

/-- V0 to V9 are stored around the end of memory, which takes I around the end of its range, and
read back into another machine. -/
theorem register_dump_round_trip_around_the_end :
    let m := windowAtEnd
    let n := powerOn ⟨0, 0⟩ .modern
    let order := (List.finRange 16).reverse
    (∀ i, i ∈ order) ∧
    ∃ stored, m.execute 0xF955 = .ok stored ∧ stored.index = 4 ∧
      stored.memory = scatter m.index (m.windowByte 9) order m.memory ∧
      ∃ n', { n with memory := stored.memory, index := 0xFFFA }.execute 0xF965 = .ok n' ∧
        n'.reg 9 = 10 ∧ n'.reg 10 = 0 := by
  intro m n order
  have complete (i : Register) : i ∈ order := List.mem_reverse.mpr (List.mem_finRange i)
  obtain ⟨stored, _, ran, _, _, scattered, _, _, index, ⟨n', back, registers⟩, _⟩ :=
    register_dump_round_trip m n 9
  have around : stored.index = 4 := UInt16.toNat_inj.mp (index.trans (by decide))
  refine ⟨complete, stored, ran, around, scattered order complete, n', back, ?_, ?_⟩
  · rw [registers]
    decide
  · rw [registers]
    decide

end Machine

end Chip8
