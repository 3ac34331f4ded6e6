import Chip8.Machine.Execute
import Chip8.Program

/-! A loaded program as the machine fetches it. -/
namespace Chip8.Machine

theorem load_writes (m : Machine) (p : Program) : ∃ c, m.load p = { m with memory := c } :=
  ⟨_, rfl⟩

theorem read_load (m : Machine) (p : Program) (a : Address) :
    (m.load p).read a =
      if programStart ≤ a.val then (p.bytes[a.val - programStart]?).getD (m.read a)
      else m.read a := by
  simp [load, read]

theorem read_load_of_lt (m : Machine) (p : Program) {k : Nat} (h : k < p.bytes.size)
    {a : Address} (ha : a.val = programStart + k) : (m.load p).read a = p.bytes[k] := by
  rw [read_load, if_pos (by omega), ha, Nat.add_sub_cancel_left, Array.getElem?_eq_getElem h,
    Option.getD_some]

theorem read_load_of_outside (m : Machine) (p : Program) {a : Address}
    (h : a.val < programStart ∨ programStart + p.bytes.size ≤ a.val) :
    (m.load p).read a = m.read a := by
  rw [read_load]
  split
  · rw [Array.getElem?_eq_none (by omega), Option.getD_none]
  · rfl

/-- The word at an offset into the program, as long as memory is what loading has made it. -/
theorem fetch_of_load {m n : Machine} {p : Program} (same : n.memory = (m.load p).memory)
    {k : Nat} (h : k + 1 < p.bytes.size) (hpc : n.pc.toNat = programStart + k) :
    n.fetch = wordOfBytes p.bytes[k] p.bytes[k + 1] := by
  have fits := p.fits
  have place (j : Nat) (hj : j < 2) : (Address.after n.pc j).val = programStart + (k + j) := by
    simp only [Address.after, Address.ofNat, Fin.ofNat, hpc, programStart]
    omega
  have found (j : Nat) (hj : j < 2) : n.read (Address.after n.pc j) = p.bytes[k + j] := by
    rw [read, same]
    exact read_load_of_lt m p (by omega) (place j hj)
  rw [fetch, found 0 (by omega), found 1 (by omega)]
  rfl

end Chip8.Machine
