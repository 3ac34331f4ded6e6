import Chip8.CallStack

/-! The stack as the list of its return addresses. A stack that holds a list keeps it below the
pointer and zeros above, so the list determines it; `push` and `pop` add and take the last
element, as long as there is room or something to take. -/
namespace Chip8

theorem Address.toWord_lt (a : Address) : a.toWord < 4096 := by
  have bound := a.isLt
  simp only [Address.toWord, UInt16.lt_iff_toNat_lt, UInt16.toNat_ofNat', UInt16.reduceToNat]
  omega

namespace CallStack

/-- Exactly these return addresses, the oldest first, and zeros above them. -/
structure Holds (s : CallStack) (xs : List Address) : Prop where
  pointer : s.pointer = xs.length
  fits : xs.length ≤ 16
  frame : ∀ i (h : i < 16), s.frames[i] = (xs[i]?.map Address.toWord).getD 0

theorem Holds.empty : Holds .empty [] := ⟨rfl, Nat.zero_le _, by simp [CallStack.empty]⟩

/-- A stack is determined by what it holds. -/
theorem Holds.unique {s t : CallStack} {xs : List Address} (hs : Holds s xs) (ht : Holds t xs) :
    s = t := by
  cases s with | mk frames pointer => cases t with | mk frames' pointer' =>
  have same : frames = frames' := by
    apply Vector.ext
    intro i hi
    exact (hs.frame i hi).trans (ht.frame i hi).symm
  rw [same, show pointer = pointer' from hs.pointer.trans ht.pointer.symm]

theorem Holds.frame_lt {s : CallStack} {xs : List Address} (h : Holds s xs) (i : Nat)
    (hi : i < 16) : s.frames[i] < 4096 := by
  rw [h.frame i hi]
  cases xs[i]? with
  | none => decide
  | some a => exact a.toWord_lt

theorem Holds.frame_above {s : CallStack} {xs : List Address} (h : Holds s xs) (i : Nat)
    (hi : i < 16) (above : s.pointer ≤ i) : s.frames[i] = 0 := by
  have pointer := h.pointer
  rw [h.frame i hi, List.getElem?_eq_none (by omega)]
  rfl

theorem position_of_nonneg {i : Int} (h : 0 ≤ i) : position i = i := if_neg (by omega)

theorem write_of_lt {i : Nat} (s : CallStack) (h : i < 16) (v : UInt16) :
    s.write i v = s.frames.set i v := by
  have at_i : position (i : Int) = i := position_of_nonneg (Int.natCast_nonneg i)
  simp only [write, at_i]
  rw [dif_pos (by omega)]
  rfl

theorem read_of_lt {i : Nat} (s : CallStack) (h : i < 16) : s.read i = s.frames[i] := by
  have at_i : position (i : Int) = i := position_of_nonneg (Int.natCast_nonneg i)
  have below : min i 15 % 16 = i := by omega
  simp [read, at_i, Nibble.ofNat, Fin.ofNat, below]

theorem move_of_bounds {s : CallStack} {delta : Int} (low : -2147483648 ≤ s.pointer + delta)
    (high : s.pointer + delta < 2147483648) : s.move delta = s.pointer + delta := by
  unfold move
  exact Int.bmod_eq_of_le (by omega) (by omega)

theorem getElem?_concat_of_ne {α : Type} {xs : List α} {a : α} {i : Nat} (h : i ≠ xs.length) :
    (xs ++ [a])[i]? = xs[i]? := by
  grind

theorem Holds.push {s : CallStack} {xs : List Address} (h : Holds s xs) (room : xs.length < 16)
    (a : UInt16) : Holds (s.push a) (xs ++ [Address.ofNat a.toNat]) := by
  have pointer := h.pointer
  refine ⟨?_, by rw [List.length_append]; exact room, fun i hi => ?_⟩
  · rw [CallStack.push, move_of_bounds (by omega) (by omega), pointer]
    simp
  · simp only [CallStack.push, pointer, write_of_lt s room, Vector.getElem_set, h.frame i hi]
    by_cases top : i = xs.length
    · simp [top]
    · rw [if_neg (Ne.symm top), getElem?_concat_of_ne top]

theorem Holds.pop {s : CallStack} {xs : List Address} {a : Address} (h : Holds s (xs ++ [a])) :
    Holds s.pop.1 xs ∧ s.pop.2 = a.toWord := by
  have fits := h.fits
  have pointer := h.pointer
  rw [List.length_append, List.length_singleton] at fits pointer
  have down : s.move (-1) = xs.length := by
    rw [move_of_bounds (by omega) (by omega), pointer]
    omega
  have last : s.frames[xs.length] = a.toWord := by
    rw [h.frame _ (by omega)]
    simp
  refine ⟨⟨down, by omega, fun i hi => ?_⟩, ?_⟩
  · simp only [CallStack.pop, down, write_of_lt s (by omega : xs.length < 16), Vector.getElem_set,
      h.frame i hi]
    by_cases top : i = xs.length
    · simp [top]
    · rw [if_neg (Ne.symm top), getElem?_concat_of_ne top]
  · simp only [CallStack.pop, down, read_of_lt s (by omega : xs.length < 16), last]

/-- A list that is not empty ends in the address that the next return takes. -/
theorem Holds.last_of_pos {s : CallStack} {xs : List Address} (h : Holds s xs)
    (nonempty : 0 < s.pointer) : ∃ ys a, xs = ys ++ [a] := by
  have pointer := h.pointer
  have ne : xs ≠ [] := by
    intro nil
    simp [nil] at pointer
    omega
  exact ⟨xs.dropLast, xs.getLast ne, (List.dropLast_concat_getLast ne).symm⟩

end CallStack

end Chip8
