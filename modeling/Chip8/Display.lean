/-! The monochrome screen, 64 columns by 32 rows. A display is read through `lit`; `ofFn`,
`toggle` and `meets` are described by what they do to it. -/
namespace Chip8

abbrev Column := Fin 64

abbrev Row := Fin 32

def Column.ofNat (n : Nat) : Column := Fin.ofNat 64 n

def Row.ofNat (n : Nat) : Row := Fin.ofNat 32 n

structure Display where
  rows : Vector (Vector Bool 64) 32
deriving DecidableEq

namespace Display

def lit (d : Display) (x : Column) (y : Row) : Bool := d.rows[y][x]

def ofFn (f : Column → Row → Bool) : Display :=
  ⟨Vector.ofFn fun y => Vector.ofFn fun x => f x y⟩

def blank : Display := ofFn fun _ _ => false

/-- Flips the pixels that are lit in `s`. -/
def toggle (d s : Display) : Display := ofFn fun x y => d.lit x y ^^ s.lit x y

/-- Whether some pixel is lit in both displays. -/
def meets (d s : Display) : Bool :=
  (List.finRange 32).any fun y => (List.finRange 64).any fun x => d.lit x y && s.lit x y

/-- A row as a number whose highest bit is the leftmost pixel. -/
def rowNumber (d : Display) (y : Row) : Nat :=
  (List.finRange 64).foldl (fun n x => 2 * n + (d.lit x y).toNat) 0

/-- The display whose rows are given by their numbers. -/
def ofRows (row : Nat → Nat) : Display := ofFn fun x y => (row y.val).testBit (63 - x.val)

@[simp] theorem lit_ofFn (f : Column → Row → Bool) (x : Column) (y : Row) :
    (ofFn f).lit x y = f x y := by
  simp [lit, ofFn]

@[simp] theorem lit_blank (x : Column) (y : Row) : blank.lit x y = false := by
  simp [blank]

@[simp] theorem lit_toggle (d s : Display) (x : Column) (y : Row) :
    (d.toggle s).lit x y = (d.lit x y ^^ s.lit x y) := by
  simp [toggle]

theorem meets_iff (d s : Display) :
    d.meets s = true ↔ ∃ x y, d.lit x y = true ∧ s.lit x y = true := by
  simp only [meets, List.any_eq_true, List.mem_finRange, true_and, Bool.and_eq_true]
  exact ⟨fun ⟨y, x, h⟩ => ⟨x, y, h⟩, fun ⟨x, y, h⟩ => ⟨y, x, h⟩⟩

/-- A display is determined by its lit pixels. -/
theorem ext_lit {d e : Display} (h : ∀ x y, d.lit x y = e.lit x y) : d = e := by
  cases d with | mk r => cases e with | mk s =>
  congr 1
  apply Vector.ext
  intro i hi
  apply Vector.ext
  intro j hj
  simpa [lit] using h ⟨j, hj⟩ ⟨i, hi⟩

/-- The distance of cell `p` past `start` on an axis of `size` cells. Cells before `start`
are reached around the edge, or not at all when sprites are clipped. -/
def distance? (clip : Bool) (size start p : Nat) : Option Nat :=
  if start ≤ p then some (p - start)
  else if clip then none
  else some (p + size - start)

/-- The pixels of a sprite eight columns wide and `height` rows tall whose top left corner
is put at `(left, top)`; bit 7 of a row is its leftmost pixel. -/
def sprite (clip : Bool) (left top height : Nat) (row : Nat → UInt8) : Display :=
  ofFn fun x y =>
    match distance? clip 64 left x.val, distance? clip 32 top y.val with
    | some c, some r => decide (c < 8) && decide (r < height) && (row r).toNat.testBit (7 - c)
    | _, _ => false

end Display

end Chip8
