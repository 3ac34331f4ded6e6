import Mathlib.Tactic.Ring
import Chip8.Picture.Mosaic
import Chip8.Proofs.Rendering

/-! The layout of a mosaic. Rows and columns are places on an axis, of one size and with one gap
between them; places on an axis lie apart and inside it, so tiles do not meet and none leaves the
grid. Hence the pixel of a tile is the pixel of its display, and there is nothing between tiles. -/
namespace Chip8

namespace Mosaic

/-! Places on an axis: place `k` starts at `k * (size + gap)`, and `n` places with the gaps between
them are `n * size + (n - 1) * gap` long. -/
section Axis

variable {size gap : Int}

theorem place_nonneg (hs : 0 ≤ size) (hg : 0 ≤ gap) (k : Nat) : 0 ≤ (k : Int) * (size + gap) :=
  Int.mul_nonneg (Int.natCast_nonneg k) (by omega)

theorem place_inside (hs : 0 ≤ size) (hg : 0 ≤ gap) {n k : Nat} (h : k < n) :
    k * (size + gap) + size ≤ n * size + (n - 1) * gap := by
  have last : (k : Int) * (size + gap) ≤ (n - 1) * (size + gap) :=
    Int.mul_le_mul_of_nonneg_right (by omega) (by omega)
  have whole : (n : Int) * size + (n - 1) * gap = (n - 1) * (size + gap) + size := by ring
  omega

theorem place_apart (hs : 0 ≤ size) (hg : 0 ≤ gap) {k l : Nat} (h : k < l) :
    (k : Int) * (size + gap) + size ≤ l * (size + gap) := by
  have next : ((k : Int) + 1) * (size + gap) ≤ l * (size + gap) :=
    Int.mul_le_mul_of_nonneg_right (by omega) (by omega)
  have step : ((k : Int) + 1) * (size + gap) = k * (size + gap) + size + gap := by ring
  omega

/-- A point lies in one place at most. -/
theorem place_unique (hs : 0 ≤ size) (hg : 0 ≤ gap) {k l : Nat} {p : Int}
    (hk : k * (size + gap) ≤ p ∧ p < k * (size + gap) + size)
    (hl : l * (size + gap) ≤ p ∧ p < l * (size + gap) + size) : k = l := by
  obtain before | same | after := Nat.lt_trichotomy k l
  · have := place_apart hs hg before
    omega
  · exact same
  · have := place_apart hs hg after
    omega

/-- A slice inside its axis is not cut. -/
theorem slice_of_inside {size start length : Int} (first : 0 ≤ start) (positive : 0 ≤ length)
    (last : start + length ≤ size) : slice size start (start + length) = (start, length) := by
  unfold slice bound
  ext <;> dsimp only <;> omega

end Axis

/-- A grid with at least one tile, tiles of at least their own size and gaps that do not overlap. -/
structure Proper (m : Mosaic) : Prop where
  count : 0 < m.count
  scale : 1 ≤ m.scale
  padding : 0 ≤ m.padding

/-- Whether a pixel lies in the place of tile `i`. -/
def Covers (m : Mosaic) (i r c : Nat) : Prop :=
  (m.top i ≤ r ∧ r < m.top i + m.tileHeight) ∧ m.left i ≤ c ∧ c < m.left i + m.tileWidth

instance (m : Mosaic) (i r c : Nat) : Decidable (m.Covers i r c) :=
  inferInstanceAs (Decidable ((_ ∧ _) ∧ _ ∧ _))

variable {m : Mosaic}

theorem columns_spec (h : 0 < m.count) :
    0 < m.columns ∧ (m.columns - 1) ^ 2 < m.count ∧ m.count ≤ m.columns ^ 2 := by
  have enough : m.count ≤ m.count * m.count := Nat.le_mul_of_pos_left m.count h
  unfold columns
  cases found : (List.range (m.count + 1)).find? fun c => decide (m.count ≤ c * c) with
  | none =>
    have all := List.find?_eq_none.mp found m.count (List.mem_range.mpr m.count.lt_succ_self)
    exact absurd (decide_eq_true enough) all
  | some c =>
    obtain ⟨holds, -, least⟩ := List.find?_range_eq_some.mp found
    have holds : m.count ≤ c * c := of_decide_eq_true holds
    have positive : 0 < c := Nat.pos_of_ne_zero (by rintro rfl; omega)
    have fewer := least (c - 1) (by omega)
    simp only [Bool.not_eq_true', decide_eq_false_iff_not, Nat.not_le] at fewer
    simp only [Option.getD_some, Nat.pow_two]
    exact ⟨positive, fewer, holds⟩

theorem rows_spec (h : 0 < m.count) :
    0 < m.rows ∧ (m.rows - 1) * m.columns < m.count ∧ m.count ≤ m.rows * m.columns := by
  obtain ⟨positive, -, -⟩ := columns_spec h
  have quotient := Nat.div_add_mod (m.count + m.columns - 1) m.columns
  have rest := Nat.mod_lt (m.count + m.columns - 1) positive
  rw [← rows, Nat.mul_comm] at quotient
  refine ⟨Nat.pos_of_ne_zero fun none => ?_, ?_, ?_⟩
  · rw [none, Nat.zero_mul] at quotient
    omega
  · rw [Nat.sub_mul, Nat.one_mul]
    omega
  · omega

theorem row_lt (h : 0 < m.count) {i : Nat} (hi : i < m.count) : i / m.columns < m.rows := by
  rw [Nat.div_lt_iff_lt_mul (columns_spec h).1]
  exact Nat.lt_of_lt_of_le hi (rows_spec h).2.2

theorem mem_tiles_iff {ds : List Display} {t : Tile} :
    t ∈ m.tiles ds ↔ ∃ i d, ds[i]? = some d ∧ t = m.tile i d := by
  simp only [tiles, List.mem_map, Prod.exists, List.mem_zipIdx_iff_getElem?]
  constructor
  · rintro ⟨d, i, found, rfl⟩
    exact ⟨i, d, found, rfl⟩
  · rintro ⟨i, d, found, rfl⟩
    exact ⟨d, i, found, rfl⟩

theorem column_lt (h : 0 < m.count) (i : Nat) : i % m.columns < m.columns :=
  Nat.mod_lt i (columns_spec h).1

namespace Proper

theorem tileHeight_pos (h : m.Proper) : 0 < m.tileHeight := by
  have := h.scale
  unfold tileHeight
  omega

theorem tileWidth_pos (h : m.Proper) : 0 < m.tileWidth := by
  have := h.scale
  unfold tileWidth
  omega

/-- The place of a tile lies inside the grid. -/
theorem inside (h : m.Proper) {i : Nat} (hi : i < m.count) :
    (0 ≤ m.top i ∧ m.top i + m.tileHeight ≤ m.height) ∧
      0 ≤ m.left i ∧ m.left i + m.tileWidth ≤ m.width := by
  have tall := Int.le_of_lt h.tileHeight_pos
  have wide := Int.le_of_lt h.tileWidth_pos
  exact ⟨⟨place_nonneg tall h.padding _, place_inside tall h.padding (row_lt h.count hi)⟩,
    place_nonneg wide h.padding _, place_inside wide h.padding (column_lt h.count i)⟩

/-- The size of the grid is no negative number, so the image has it. -/
theorem size (h : m.Proper) {s : Scheme} {ds : List Display} :
    ((m.image s ds).height : Int) = m.height ∧ ((m.image s ds).width : Int) = m.width := by
  obtain ⟨⟨top, bottom⟩, left, right⟩ := h.inside h.count
  have tall := h.tileHeight_pos
  have wide := h.tileWidth_pos
  exact ⟨Int.toNat_of_nonneg (by omega), Int.toNat_of_nonneg (by omega)⟩

/-- A pixel lies in the place of one tile at most. -/
theorem covers_unique (h : m.Proper) {i j r c : Nat} (hi : m.Covers i r c) (hj : m.Covers j r c) :
    i = j := by
  have row := place_unique (Int.le_of_lt h.tileHeight_pos) h.padding hi.1 hj.1
  have column := place_unique (Int.le_of_lt h.tileWidth_pos) h.padding hi.2 hj.2
  rw [← Nat.div_add_mod i m.columns, row, column, Nat.div_add_mod]

theorem rowSlice_eq (h : m.Proper) {i : Nat} (hi : i < m.count) :
    m.rowSlice i = (m.top i, m.tileHeight) := by
  obtain ⟨⟨first, last⟩, -⟩ := h.inside hi
  exact slice_of_inside first (Int.le_of_lt h.tileHeight_pos) last

theorem columnSlice_eq (h : m.Proper) {i : Nat} (hi : i < m.count) :
    m.columnSlice i = (m.left i, m.tileWidth) := by
  obtain ⟨-, first, last⟩ := h.inside hi
  exact slice_of_inside first (Int.le_of_lt h.tileWidth_pos) last

/-- No tile is cropped. -/
theorem fits (h : m.Proper) {i : Nat} (hi : i < m.count) : m.fits i = true := by
  have factor : (Image.factor m.scale : Int) = m.scale := by
    have := h.scale
    unfold Image.factor
    omega
  simp [Mosaic.fits, h.rowSlice_eq hi, h.columnSlice_eq hi, factor, tileHeight, tileWidth]

theorem covers_tile_iff (h : m.Proper) {i : Nat} (hi : i < m.count) (d : Display) (r c : Nat) :
    (m.tile i d).covers r c = true ↔ m.Covers i r c := by
  obtain ⟨⟨top, -⟩, left, -⟩ := h.inside hi
  have tall := h.tileHeight_pos
  have wide := h.tileWidth_pos
  simp only [tile, h.rowSlice_eq hi, h.columnSlice_eq hi, Tile.covers, Bool.and_eq_true,
    decide_eq_true_eq, Covers]
  omega

/-- The tile that is found at a pixel is the one whose place it lies in. -/
theorem find_tile (h : m.Proper) {ds : List Display} (all : ds.length = m.count) {i r c : Nat}
    {d : Display} (found : ds[i]? = some d) (covers : m.Covers i r c) :
    (m.tiles ds).reverse.find? (·.covers r c) = some (m.tile i d) := by
  have hi : i < m.count := all ▸ (List.getElem?_eq_some_iff.mp found).1
  cases first : (m.tiles ds).reverse.find? (·.covers r c) with
  | none =>
    have here : m.tile i d ∈ (m.tiles ds).reverse :=
      List.mem_reverse.mpr (mem_tiles_iff.mpr ⟨i, d, found, rfl⟩)
    exact absurd ((h.covers_tile_iff hi d r c).mpr covers) (List.find?_eq_none.mp first _ here)
  | some t =>
    obtain ⟨j, e, other, rfl⟩ :=
      mem_tiles_iff.mp (List.mem_reverse.mp (List.mem_of_find?_eq_some first))
    have hj : j < m.count := all ▸ (List.getElem?_eq_some_iff.mp other).1
    have covered := List.find?_some (p := fun t : Tile => t.covers r c) first
    obtain rfl : i = j := h.covers_unique covers ((h.covers_tile_iff hj e r c).mp covered)
    rw [Option.some.inj (found.symm.trans other)]

theorem find_none (h : m.Proper) {ds : List Display} (all : ds.length = m.count) {r c : Nat}
    (outside : ∀ i < m.count, ¬m.Covers i r c) :
    (m.tiles ds).reverse.find? (·.covers r c) = none := by
  rw [List.find?_eq_none]
  intro t ht
  obtain ⟨i, d, found, rfl⟩ := mem_tiles_iff.mp (List.mem_reverse.mp ht)
  have hi : i < m.count := all ▸ (List.getElem?_eq_some_iff.mp found).1
  rw [h.covers_tile_iff hi]
  exact outside i hi

/-- Every pixel of a tile shows its display, opaque. -/
theorem pixel_tile (h : m.Proper) (s : Scheme) {ds : List Display} (all : ds.length = m.count)
    {i : Nat} {d : Display} (found : ds[i]? = some d) {r c : Nat} (hr : r < m.tileHeight)
    (hc : c < m.tileWidth) :
    (m.image s ds).pixel ((m.top i).toNat + r) ((m.left i).toNat + c) =
      (Image.render m.scale s.on s.off d).pixel r c ++ [255] := by
  have hi : i < m.count := all ▸ (List.getElem?_eq_some_iff.mp found).1
  obtain ⟨⟨top, -⟩, left, -⟩ := h.inside hi
  have covers : m.Covers i ((m.top i).toNat + r) ((m.left i).toNat + c) := by
    unfold Covers
    omega
  have place : (m.tile i d).top = (m.top i).toNat ∧ (m.tile i d).left = (m.left i).toNat ∧
      (m.tile i d).display = d := by
    simp [tile, h.rowSlice_eq hi, h.columnSlice_eq hi]
  simp only [image, pixel, h.find_tile all found covers, place, Nat.add_sub_cancel_left]

theorem pixel_outside (h : m.Proper) (s : Scheme) {ds : List Display} (all : ds.length = m.count)
    {r c : Nat} (outside : ∀ i < m.count, ¬m.Covers i r c) :
    (m.image s ds).pixel r c = [0, 0, 0, 0] := by
  simp only [image, pixel, h.find_none all outside]

end Proper

/-- As many displays as the square of the columns less one leave no column empty. -/
theorem columns_le_count (h : 0 < m.count) : m.columns ≤ m.count := by
  obtain ⟨positive, more, -⟩ := columns_spec h
  obtain ⟨k, hk⟩ : ∃ k, m.columns = k + 1 := ⟨m.columns - 1, by omega⟩
  rw [hk, Nat.add_sub_cancel] at more
  have square : k ≤ k ^ 2 := Nat.le_self_pow (by decide) k
  omega

/-- Every row and every column of the grid has a tile. -/
theorem rows_and_columns_filled (h : 0 < m.count) :
    (∀ row < m.rows, ∃ i < m.count, i / m.columns = row) ∧
      ∀ column < m.columns, ∃ i < m.count, i % m.columns = column := by
  obtain ⟨positive, -, -⟩ := columns_spec h
  obtain ⟨-, more, -⟩ := rows_spec h
  refine ⟨fun row hr => ⟨row * m.columns, ?_, Nat.mul_div_cancel row positive⟩,
    fun column hc => ⟨column, ?_, Nat.mod_eq_of_lt hc⟩⟩
  · exact Nat.lt_of_le_of_lt (Nat.mul_le_mul_right _ (by omega)) more
  · exact Nat.lt_of_lt_of_le hc (columns_le_count h)

end Mosaic

namespace Scheme

/-- Named colors have three channels. -/
theorem lengths_of_named {name : String} {s : Scheme} (known : named name = .ok s) :
    s.on.length = 3 ∧ s.off.length = 3 := by
  unfold named at known
  split at known
  · rename_i s' found
    obtain rfl := Except.ok.inj known
    have table : ∀ entry ∈ all, entry.2.on.length = 3 ∧ entry.2.off.length = 3 := by decide
    obtain ⟨before, after, split, -⟩ := List.lookup_eq_some_iff.mp found
    exact table (name, s') (split ▸ List.mem_append_cons_self)
  · cases known

end Scheme

/-- Every pixel of a grid has four channels. -/
theorem Mosaic.length_pixel {m : Mosaic} {name : String} {s : Scheme}
    (known : Scheme.named name = .ok s) (ds : List Display) (r c : Nat) :
    ((m.image s ds).pixel r c).length = 4 := by
  obtain ⟨on, off⟩ := Scheme.lengths_of_named known
  have picture (d : Display) (r c : Nat) :
      ((Image.render m.scale s.on s.off d).pixel r c).length = 3 := by
    simp only [Image.render, Image.upscale, Image.ofDisplay]
    split
    · exact on
    · exact off
  simp only [image, pixel]
  split
  · rw [List.length_append, picture]
    rfl
  · rfl

namespace Frames

/-- A request for a proper grid is met. -/
theorem mosaic_sequence {ds : List Display} {scale padding : Int}
    (h : Mosaic.Proper ⟨ds.length, scale, padding⟩) {name : String} {s : Scheme}
    (known : Scheme.named name = .ok s) :
    (sequence ds).mosaic scale name padding =
      .ok (Mosaic.image ⟨ds.length, scale, padding⟩ s ds) := by
  have checked : (sequence ds).check = .ok () := by simp [check, sequence, areDisplays]
  have nonempty : ¬ds.length = 0 := Nat.ne_of_gt h.count
  obtain ⟨⟨top, bottom⟩, left, right⟩ := h.inside h.count
  have tall := h.tileHeight_pos
  have wide := h.tileWidth_pos
  have size : ¬Mosaic.height ⟨ds.length, scale, padding⟩ < 0 ∧
      ¬Mosaic.width ⟨ds.length, scale, padding⟩ < 0 := by omega
  have uncut : (List.range ds.length).all (Mosaic.fits ⟨ds.length, scale, padding⟩) = true :=
    List.all_eq_true.mpr fun i hi => h.fits (List.mem_range.mp hi)
  rw [mosaic, checked, known]
  simp only [sequence, List.head?_cons, Option.getD_some, List.tail_cons, if_neg nonempty, size,
    uncut, decide_false, Bool.or_self, Bool.not_true, Bool.false_eq_true, ↓reduceIte]
  rfl

/-- A grid of displays in a known scheme. Its columns are the least number whose square holds all
tiles, and its rows the least number that then does. The places of the tiles lie in the grid and
apart from each other; each pixel of a tile is that of the picture of its display, with an opaque
fourth channel; and each pixel between them is transparent. No row and no column is without a
tile. -/
theorem mosaic_layout {ds : List Display} (nonempty : ds ≠ []) {scale padding : Int}
    (enlarged : 1 ≤ scale) (spaced : 0 ≤ padding) {name : String} {s : Scheme}
    (known : Scheme.named name = .ok s) :
    let m : Mosaic := ⟨ds.length, scale, padding⟩
    ∃ grid, (sequence ds).mosaic scale name padding = .ok grid ∧
      ((m.columns - 1) ^ 2 < ds.length ∧ ds.length ≤ m.columns ^ 2) ∧
      ((m.rows - 1) * m.columns < ds.length ∧ ds.length ≤ m.rows * m.columns) ∧
      (grid.height : Int) = m.rows * (32 * scale) + (m.rows - 1) * padding ∧
      (grid.width : Int) = m.columns * (64 * scale) + (m.columns - 1) * padding ∧
      (∀ i < ds.length, (0 ≤ m.top i ∧ m.top i + 32 * scale ≤ grid.height) ∧
        0 ≤ m.left i ∧ m.left i + 64 * scale ≤ grid.width) ∧
      (∀ i < ds.length, ∀ j < ds.length, i ≠ j → ∀ r c, ¬(m.Covers i r c ∧ m.Covers j r c)) ∧
      (∀ i d, ds[i]? = some d → ∀ r c : Nat, r < 32 * scale → c < 64 * scale →
        grid.pixel ((m.top i).toNat + r) ((m.left i).toNat + c) =
          (Image.render scale s.on s.off d).pixel r c ++ [255]) ∧
      (∀ r c, (∀ i < ds.length, ¬m.Covers i r c) → grid.pixel r c = [0, 0, 0, 0]) ∧
      (∀ r c, (grid.pixel r c).length = 4) ∧
      (∀ row < m.rows, ∃ i < ds.length, i / m.columns = row) ∧
      ∀ column < m.columns, ∃ i < ds.length, i % m.columns = column := by
  intro m
  have h : m.Proper := ⟨List.length_pos_iff.mpr nonempty, enlarged, spaced⟩
  obtain ⟨-, columns⟩ := Mosaic.columns_spec h.count
  obtain ⟨-, rows⟩ := Mosaic.rows_spec h.count
  obtain ⟨height, width⟩ := h.size
  refine ⟨m.image s ds, mosaic_sequence h known, columns, rows, height, width, ?_, ?_,
    fun i d found r c hr hc => h.pixel_tile s rfl found hr hc,
    fun r c => h.pixel_outside s rfl, Mosaic.length_pixel known ds,
    Mosaic.rows_and_columns_filled h.count⟩
  · intro i hi
    rw [height, width]
    exact h.inside hi
  · rintro i - j - apart r c ⟨hi, hj⟩
    exact apart (h.covers_unique hi hj)

/-- Three displays make two rows of two columns, and the last place stays empty. -/
theorem mosaic_layout_of_three :
    let ds : List Display := [.blank, .blank, dot]
    let m : Mosaic := ⟨3, 2, 5⟩
    ds ≠ [] ∧ (1 : Int) ≤ 2 ∧ (0 : Int) ≤ 5 ∧
    Scheme.named "classic" = .ok ⟨[0, 255, 0], [0, 0, 0]⟩ ∧ m.columns = 2 ∧ m.rows = 2 ∧
    (∀ i < 3, ¬m.Covers i 132 260) ∧
    ∃ grid, (sequence ds).mosaic 2 "classic" 5 = .ok grid ∧
      (grid.height : Int) = 133 ∧ (grid.width : Int) = 261 ∧
      grid.pixel 71 6 = [0, 255, 0, 255] ∧ grid.pixel 132 260 = [0, 0, 0, 0] := by
  intro ds m
  have known : Scheme.named "classic" = .ok ⟨[0, 255, 0], [0, 0, 0]⟩ := rfl
  have nonempty : ds ≠ [] := List.cons_ne_nil _ _
  have outside : ∀ i < 3, ¬m.Covers i 132 260 := by decide
  obtain ⟨grid, made, -, -, height, width, -, -, shown, between, -, -, -⟩ :=
    mosaic_layout nonempty (by decide : (1 : Int) ≤ 2) (by decide : (0 : Int) ≤ 5) known
  refine ⟨nonempty, by decide, by decide, known, by decide, by decide, outside, grid, made,
    height.trans (by decide), width.trans (by decide), ?_, between 132 260 outside⟩
  have place : (m.top 2).toNat = 69 ∧ (m.left 2).toNat = 0 := by decide
  have lit := shown 2 dot rfl 2 6 (by decide) (by decide)
  rw [Image.pixel_render 2 _ _ dot (x := 3) (y := 1) rfl rfl, lit_dot] at lit
  change grid.pixel ((m.top 2).toNat + 2) ((m.left 2).toNat + 6) = _ at lit
  rw [place.1, place.2] at lit
  exact lit

end Frames

end Chip8
