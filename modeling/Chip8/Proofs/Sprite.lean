import Chip8.Proofs.Decoding
import Chip8.Proofs.Frame

/-! Sprites drawn one pixel at a time. `Display.sprite` tells of every cell of the screen whether
the sprite covers it; `Display.paint` goes through the sprite row by row and flips the cells it
comes to. No cell is come to twice, so both give the same display and the same collision. -/
namespace Chip8

namespace Display

/-- Flips one pixel. -/
def flip (d : Display) (p : Column × Row) : Display :=
  ofFn fun x y => if (x, y) = p then !d.lit x y else d.lit x y

@[simp] theorem lit_flip (d : Display) (p : Column × Row) (x : Column) (y : Row) :
    (d.flip p).lit x y = if (x, y) = p then !d.lit x y else d.lit x y := by
  simp [flip]

/-- The cell at which column `c` and row `r` of a sprite with its corner at `(left, top)` come to
lie. Beyond an edge it is on the other side of the screen, or nowhere when sprites are clipped. -/
def cell? (clip : Bool) (left top c r : Nat) : Option (Column × Row) :=
  if clip = true ∧ (64 ≤ left + c ∨ 32 ≤ top + r) then none
  else some (.ofNat (left + c), .ofNat (top + r))

end Display

/-- A display that is being drawn on, and whether a lit pixel has been met on it. -/
structure Canvas where
  display : Display
  collided : Bool
deriving DecidableEq

/-- Flips the pixel of a cell. -/
def Canvas.plot (k : Canvas) (p : Column × Row) : Canvas :=
  ⟨k.display.flip p, k.collided || k.display.lit p.1 p.2⟩

namespace Display

/-- Draws a sprite by two nested loops, over its rows and over the columns of a row. -/
def paint (clip : Bool) (left top height : Nat) (row : Nat → UInt8) (d : Display) : Canvas :=
  (List.range height).foldl (fun k r =>
    (List.range 8).foldl (fun k c =>
      if (row r).toNat.testBit (7 - c) then
        match cell? clip left top c r with
        | some p => k.plot p
        | none => k
      else k) k) ⟨d, false⟩

/-- The cell that the loops flip in column `c` of row `r`, if any. -/
def plotted? (clip : Bool) (left top : Nat) (row : Nat → UInt8) (r c : Nat) :
    Option (Column × Row) :=
  if (row r).toNat.testBit (7 - c) then cell? clip left top c r else none

/-- The cells that the loops flip, in their order. -/
def plotted (clip : Bool) (left top height : Nat) (row : Nat → UInt8) : List (Column × Row) :=
  (List.range height).flatMap fun r => (List.range 8).filterMap (plotted? clip left top row r)

variable {clip : Bool} {left top height : Nat} {row : Nat → UInt8}

theorem paint_eq_foldl (d : Display) :
    paint clip left top height row d =
      (plotted clip left top height row).foldl Canvas.plot ⟨d, false⟩ := by
  rw [paint, plotted, List.foldl_flatMap]
  congr
  funext k r
  rw [List.foldl_filterMap]
  congr
  funext k c
  rw [plotted?]
  split
  · cases cell? clip left top c r <;> rfl
  · rfl

theorem plotted?_eq_some_iff {r c : Nat} {p : Column × Row} :
    plotted? clip left top row r c = some p ↔
      (row r).toNat.testBit (7 - c) = true ∧ cell? clip left top c r = some p := by
  simp [plotted?]

theorem cell?_eq_some_iff {c r : Nat} {x : Column} {y : Row} :
    cell? clip left top c r = some (x, y) ↔
      ¬(clip = true ∧ (64 ≤ left + c ∨ 32 ≤ top + r)) ∧
      (left + c) % 64 = x.val ∧ (top + r) % 32 = y.val := by
  simp [cell?, Column.ofNat, Row.ofNat, Fin.ext_iff, Fin.ofNat]

theorem mem_plotted_iff {p : Column × Row} :
    p ∈ plotted clip left top height row ↔
      ∃ r < height, ∃ c < 8, (row r).toNat.testBit (7 - c) = true ∧
        cell? clip left top c r = some p := by
  simp [plotted, plotted?_eq_some_iff]

/-- The loops come to no cell twice, since a sprite is smaller than the screen. -/
theorem nodup_plotted (low : height ≤ 32) : (plotted clip left top height row).Nodup := by
  refine List.pairwise_flatMap.mpr ⟨fun r _ => ?_, ?_⟩
  · refine List.pairwise_filterMap.mpr (List.pairwise_lt_range.imp_of_mem ?_)
    rintro c c' hc hc' before ⟨x, y⟩ first p second rfl
    have := List.mem_range.mp hc'
    obtain ⟨-, column, -⟩ := cell?_eq_some_iff.mp (plotted?_eq_some_iff.mp first).2
    obtain ⟨-, column', -⟩ := cell?_eq_some_iff.mp (plotted?_eq_some_iff.mp second).2
    omega
  · refine List.pairwise_lt_range.imp_of_mem ?_
    rintro r r' hr hr' before ⟨x, y⟩ first p second rfl
    have := List.mem_range.mp hr'
    obtain ⟨c, -, here⟩ := List.mem_filterMap.mp first
    obtain ⟨c', -, there⟩ := List.mem_filterMap.mp second
    obtain ⟨-, -, line⟩ := cell?_eq_some_iff.mp (plotted?_eq_some_iff.mp here).2
    obtain ⟨-, -, line'⟩ := cell?_eq_some_iff.mp (plotted?_eq_some_iff.mp there).2
    omega

/-- A cell lies `k` cells past `start` when `k` more steps lead to it, around the edge unless
sprites are clipped. -/
theorem distance?_eq_some_iff {size start p k : Nat} (inside : start < size) (hp : p < size)
    (hk : k < size) :
    distance? clip size start p = some k ↔
      ¬(clip = true ∧ size ≤ start + k) ∧ (start + k) % size = p := by
  have wrapped : (start + k) % size = if start + k < size then start + k else start + k - size := by
    split
    · exact Nat.mod_eq_of_lt (by omega)
    · rw [Nat.mod_eq_sub_mod (by omega), Nat.mod_eq_of_lt (by omega)]
  rw [wrapped]
  unfold distance?
  cases clip <;> grind

theorem lit_sprite_iff {x : Column} {y : Row} :
    (sprite clip left top height row).lit x y = true ↔
      ∃ r c, distance? clip 32 top y.val = some r ∧ distance? clip 64 left x.val = some c ∧
        r < height ∧ c < 8 ∧ (row r).toNat.testBit (7 - c) = true := by
  simp only [sprite, lit_ofFn]
  cases distance? clip 64 left x.val <;> cases distance? clip 32 top y.val <;>
    simp [and_assoc, and_left_comm]

/-- The loops flip exactly the cells that the sprite covers. -/
theorem mem_plotted_iff_lit (wide : left < 64) (high : top < 32) (low : height ≤ 32) {x : Column}
    {y : Row} :
    (x, y) ∈ plotted clip left top height row ↔
      (sprite clip left top height row).lit x y = true := by
  rw [mem_plotted_iff, lit_sprite_iff]
  constructor
  · rintro ⟨r, hr, c, hc, bit, reached⟩
    obtain ⟨visible, column, line⟩ := cell?_eq_some_iff.mp reached
    refine ⟨r, c, ?_, ?_, hr, hc, bit⟩
    · exact (distance?_eq_some_iff high y.isLt (by omega)).mpr
        ⟨fun ⟨clips, past⟩ => visible ⟨clips, .inr past⟩, line⟩
    · exact (distance?_eq_some_iff wide x.isLt (by omega)).mpr
        ⟨fun ⟨clips, past⟩ => visible ⟨clips, .inl past⟩, column⟩
  · rintro ⟨r, c, down, right, hr, hc, bit⟩
    obtain ⟨above, line⟩ := (distance?_eq_some_iff high y.isLt (by omega)).mp down
    obtain ⟨before, column⟩ := (distance?_eq_some_iff wide x.isLt (by omega)).mp right
    refine ⟨r, hr, c, hc, bit, cell?_eq_some_iff.mpr ⟨?_, column, line⟩⟩
    rintro ⟨clips, past | past⟩
    · exact before ⟨clips, past⟩
    · exact above ⟨clips, past⟩

end Display

namespace Canvas

/-- Flipping distinct cells flips each of them once. -/
theorem lit_foldl_plot {cells : List (Column × Row)} (distinct : cells.Nodup) (k : Canvas)
    (x : Column) (y : Row) :
    (cells.foldl plot k).display.lit x y = k.display.lit x y ↔ (x, y) ∉ cells := by
  induction cells generalizing k with
  | nil => simp
  | cons p cells ih =>
    obtain ⟨fresh, rest⟩ := List.nodup_cons.mp distinct
    rw [List.foldl_cons]
    by_cases here : (x, y) = p
    · subst here
      rw [(ih rest (k.plot (x, y))).mpr fresh]
      simp [plot]
    · have kept : (k.plot p).display.lit x y = k.display.lit x y := by simp [plot, here]
      rw [← kept, ih rest]
      simp [here]

/-- A collision is a cell that was lit from the start, since no cell is flipped before it is
looked at. -/
theorem collided_foldl_plot {cells : List (Column × Row)} (distinct : cells.Nodup) (k : Canvas) :
    (cells.foldl plot k).collided = true ↔
      k.collided = true ∨ ∃ p ∈ cells, k.display.lit p.1 p.2 = true := by
  induction cells generalizing k with
  | nil => simp
  | cons p cells ih =>
    obtain ⟨fresh, distinct⟩ := List.nodup_cons.mp distinct
    have untouched (q : Column × Row) (hq : q ∈ cells) :
        (k.display.flip p).lit q.1 q.2 = k.display.lit q.1 q.2 := by
      have other : q ≠ p := fun same => fresh (same ▸ hq)
      simp [other]
    have later : (∃ q ∈ cells, (k.plot p).display.lit q.1 q.2 = true) ↔
        ∃ q ∈ cells, k.display.lit q.1 q.2 = true :=
      exists_congr fun q => and_congr_right fun hq => by rw [plot, untouched q hq]
    rw [List.foldl_cons, ih distinct, later]
    simp [plot, or_assoc]

end Canvas

namespace Display

variable {clip : Bool} {left top height : Nat} {row : Nat → UInt8}

/-- The loops leave the display with the sprite toggled. -/
theorem display_paint (wide : left < 64) (high : top < 32) (low : height ≤ 32) (d : Display) :
    (paint clip left top height row d).display =
      d.toggle (sprite clip left top height row) := by
  apply ext_lit
  intro x y
  have kept : (paint clip left top height row d).display.lit x y = d.lit x y ↔
      (sprite clip left top height row).lit x y ≠ true := by
    rw [paint_eq_foldl, Ne, ← mem_plotted_iff_lit wide high low]
    exact Canvas.lit_foldl_plot (nodup_plotted low) ⟨d, false⟩ x y
  rw [lit_toggle]
  generalize (paint clip left top height row d).display.lit x y = after at kept ⊢
  revert kept
  cases after <;> cases d.lit x y <;> cases (sprite clip left top height row).lit x y <;> simp

/-- The loops meet a lit pixel when one of the cells they flip was lit before. -/
theorem collided_paint_iff (low : height ≤ 32) (d : Display) :
    (paint clip left top height row d).collided = true ↔
      ∃ p ∈ plotted clip left top height row, d.lit p.1 p.2 = true := by
  rw [paint_eq_foldl, Canvas.collided_foldl_plot (nodup_plotted low)]
  simp

theorem collided_paint (wide : left < 64) (high : top < 32) (low : height ≤ 32) (d : Display) :
    (paint clip left top height row d).collided = d.meets (sprite clip left top height row) := by
  rw [Bool.eq_iff_iff, collided_paint_iff low, meets_iff]
  constructor
  · rintro ⟨⟨x, y⟩, flipped, lit⟩
    exact ⟨x, y, lit, (mem_plotted_iff_lit wide high low).mp flipped⟩
  · rintro ⟨x, y, lit, covered⟩
    exact ⟨(x, y), (mem_plotted_iff_lit wide high low).mpr covered, lit⟩

end Display

namespace Machine

/-- DXYN is the two nested loops over the sprite at I: they start at (VX mod 64, VY mod 32), read
their rows around the end of memory, and leave everything but the display and VF alone. VF tells
whether one of the pixels that were flipped had been lit before the instruction. -/
theorem draw_eq_paint (m : Machine) (x y : Register) (height : Nibble) :
    let left := (m.reg x).toNat % 64
    let top := (m.reg y).toNat % 32
    let row := fun r => m.read (.ofNat (m.index.toNat + r))
    let painted := m.display.paint m.dialect.clipSprites left top height.val row
    m.execute (UInt16.ofNat (0xD000 + x.val * 256 + y.val * 16 + height.val)) = .ok
      { m with
        display := painted.display
        registers := m.registers.set 15 (if painted.collided then 1 else 0) } ∧
    (painted.collided = true ↔
      ∃ r < height.val, ∃ c < 8, (row r).toNat.testBit (7 - c) = true ∧
        ∃ p, Display.cell? m.dialect.clipSprites left top c r = some p ∧
          m.display.lit p.1 p.2 = true) := by
  intro left top row painted
  have wide : left < 64 := Nat.mod_lt _ (by decide)
  have high : top < 32 := Nat.mod_lt _ (by decide)
  have low : height.val ≤ 32 := by omega
  have display : painted.display = m.display.toggle (m.spriteAt x y height) :=
    Display.display_paint wide high low m.display
  have collided : painted.collided = m.display.meets (m.spriteAt x y height) :=
    Display.collided_paint wide high low m.display
  constructor
  · refine execute_eq_ok_iff.mpr ⟨.draw x y height, Instruction.decode_draw x y height, rfl, ?_⟩
    rw [display, collided]
    rfl
  · rw [Display.collided_paint_iff low]
    constructor
    · rintro ⟨p, flipped, lit⟩
      obtain ⟨r, hr, c, hc, bit, reached⟩ := Display.mem_plotted_iff.mp flipped
      exact ⟨r, hr, c, hc, bit, p, reached, lit⟩
    · rintro ⟨r, hr, c, hc, bit, p, reached, lit⟩
      exact ⟨p, Display.mem_plotted_iff.mpr ⟨r, hr, c, hc, bit, reached⟩, lit⟩

end Machine

end Chip8
