import Chip8.Picture.Frames

/-! The picture of a display. A picture is described by its pixels and compared by its raster, the
rows of colors that it consists of: scaling repeats every row and every color in it, and as long as
lit and dark pixels have different colors, one pixel of each square gives the display back. -/
namespace Chip8

/-- Every item `s` times in a row. -/
def stretch {α : Type} (s : Nat) (xs : List α) : List α := xs.flatMap (List.replicate s)

theorem stretch_map_range {α : Type} {s : Nat} (positive : 0 < s) (n : Nat) (f : Nat → α) :
    stretch s ((List.range n).map f) = (List.range (n * s)).map fun i => f (i / s) := by
  induction n with
  | zero => simp [stretch]
  | succ n ih =>
    have quotient (i : Nat) (hi : i ∈ List.range s) : f ((n * s + i) / s) = f n := by
      rw [Nat.add_comm, Nat.add_mul_div_right _ _ positive,
        Nat.div_eq_of_lt (List.mem_range.mp hi), Nat.zero_add]
    have block : (List.range s).map (fun i => f ((n * s + i) / s)) = List.replicate s (f n) := by
      simpa using List.map_eq_replicate_iff.mpr quotient
    calc stretch s ((List.range (n + 1)).map f)
        = stretch s ((List.range n).map f) ++ List.replicate s (f n) := by
          simp [stretch, List.range_succ]
      _ = (List.range (n * s)).map (fun i => f (i / s)) ++
            (List.range s).map (fun i => f ((n * s + i) / s)) := by rw [ih, block]
      _ = (List.range ((n + 1) * s)).map fun i => f (i / s) := by
          rw [Nat.succ_mul, List.range_add, List.map_append, List.map_map]
          rfl

namespace Image

/-- The rows of an image from the top down. -/
def raster (i : Image) : List (List Color) := (List.range i.height).map i.rowColors

/-- A raster with every row repeated, and in each row every color. -/
def blowUp (s : Nat) (rows : List (List Color)) : List (List Color) :=
  (stretch s rows).map (stretch s)

/-- Images of the same size with the same raster have the same pixels. -/
theorem pixel_of_raster {i j : Image} (same : i.raster = j.raster) (height : i.height = j.height)
    (width : i.width = j.width) {r c : Nat} (hr : r < i.height) (hc : c < i.width) :
    i.pixel r c = j.pixel r c := by
  rw [raster, raster, ← height, List.map_inj_left] at same
  have row : i.rowColors r = j.rowColors r := same r (List.mem_range.mpr hr)
  rw [rowColors, rowColors, ← width, List.map_inj_left] at row
  exact row c (List.mem_range.mpr hc)

theorem raster_upscale {s : Nat} (positive : 0 < s) (i : Image) :
    (i.upscale s).raster = blowUp s i.raster := by
  have row (r : Nat) : (i.upscale s).rowColors r = stretch s (i.rowColors (r / s)) :=
    (stretch_map_range positive i.width (i.pixel (r / s))).symm
  rw [blowUp, raster, raster, stretch_map_range positive, List.map_map]
  exact List.map_congr_left fun r _ => row r

theorem factor_pos (scale : Int) : 0 < factor scale := by
  unfold factor
  omega

/-- At scale 1 a picture is the display at its own size. -/
theorem raster_render_one (on off : Color) (d : Display) :
    (render 1 on off d).raster = (ofDisplay on off d).raster := by
  simp [raster, render, upscale, factor]

/-- A pixel has the color of the cell in whose square it lies. -/
theorem pixel_render (scale : Int) (on off : Color) (d : Display) {r c : Nat} {x : Column} {y : Row}
    (hr : r / factor scale = y) (hc : c / factor scale = x) :
    (render scale on off d).pixel r c = if d.lit x y then on else off := by
  have column : Column.ofNat x.val = x := Fin.ofNat_val_eq_self x
  have row : Row.ofNat y.val = y := Fin.ofNat_val_eq_self y
  simp only [render, upscale, ofDisplay, hr, hc, column, row]

theorem pixel_render_eq_on (scale : Int) {on off : Color} (apart : on ≠ off) (d : Display)
    {r c : Nat} {x : Column} {y : Row} (hr : r / factor scale = y) (hc : c / factor scale = x) :
    (render scale on off d).pixel r c = on ↔ d.lit x y = true := by
  rw [pixel_render scale on off d hr hc]
  split
  · rename_i lit
    exact iff_of_true rfl lit
  · rename_i dark
    exact iff_of_false apart.symm dark

/-- One pixel of each square gives the display back. -/
theorem sample_render (scale : Int) {on off : Color} (apart : on ≠ off) (d : Display) :
    Display.ofFn (fun x y =>
      decide ((render scale on off d).pixel (y * factor scale) (x * factor scale) = on)) = d := by
  apply Display.ext_lit
  intro x y
  rw [Display.lit_ofFn, Bool.eq_iff_iff, decide_eq_true_iff]
  exact pixel_render_eq_on scale apart d (Nat.mul_div_cancel y.val (factor_pos scale))
    (Nat.mul_div_cancel x.val (factor_pos scale))

/-- The raster of a picture determines the display. -/
theorem raster_render_inj {scale : Int} {on off : Color} (apart : on ≠ off) {d e : Display}
    (same : (render scale on off d).raster = (render scale on off e).raster) : d = e := by
  rw [← sample_render scale apart d, ← sample_render scale apart e]
  congr
  funext x y
  have inside : y.val * factor scale < 32 * factor scale ∧
      x.val * factor scale < 64 * factor scale :=
    ⟨Nat.mul_lt_mul_of_pos_right y.isLt (factor_pos scale),
      Nat.mul_lt_mul_of_pos_right x.isLt (factor_pos scale)⟩
  rw [pixel_of_raster same rfl rfl inside.1 inside.2]

end Image

namespace Frames

/-- A color as the numbers of a request. -/
def channels (c : Color) : List Int := c.map fun b => (b.toNat : Int)

theorem byteOfInt_toNat (b : UInt8) : byteOfInt? b.toNat = some b := by
  have bound : b.toNat < 256 := b.toNat_lt
  rw [byteOfInt?, if_pos (by omega)]
  simp

theorem color_channels (c : Color) : color (channels c) = .ok c := by
  induction c with
  | nil => rfl
  | cons b c ih =>
    have first := byteOfInt_toNat b
    rw [color, channels] at ih ⊢
    rw [List.map_cons, List.mapM_cons, ih]
    simp [first]
    rfl

/-- A request for the picture of one display in two colors of bytes is met. -/
theorem render_single (scale : Int) {on off : Color} (even : on.length = off.length)
    (d : Display) :
    (single d).render scale (channels on) (channels off) = .ok (Image.render scale on off d) := by
  have lengths : (channels on).length = (channels off).length := by simpa [channels] using even
  have found : (single d).display = .ok d := rfl
  rw [render, found]
  simp only [lengths, ne_eq, not_true_eq_false, ↓reduceIte, color_channels]
  rfl

/-- Every display has a picture at every scale and in every two colors of bytes. With `s` for the
scale, or 1 below that, the picture is `32 * s` pixels high and `64 * s` wide, and the pixel at row
`r` and column `c` has the color of the cell at column `c / s` and row `r / s`. So if the colors
differ, one pixel of each square gives the display back, and displays with the same picture are the
same; and the picture is that at scale 1 with each pixel repeated `s` times in both directions. -/
theorem picture_exact_and_lossless (d : Display) (scale : Int) (on off : Color)
    (even : on.length = off.length) :
    let s := (max 1 scale).toNat
    let picture (scale : Int) (d : Display) :=
      (single d).render scale (channels on) (channels off)
    ∃ image, picture scale d = .ok image ∧ image.height = 32 * s ∧ image.width = 64 * s ∧
      (∀ (r c : Nat) (x : Column) (y : Row), r / s = y → c / s = x →
        image.pixel r c = if d.lit x y then on else off) ∧
      (on ≠ off →
        (∀ (r c : Nat) (x : Column) (y : Row), r / s = y → c / s = x →
          (image.pixel r c = on ↔ d.lit x y = true)) ∧
        Display.ofFn (fun x y => decide (image.pixel (y * s) (x * s) = on)) = d ∧
        ∀ d' image', picture scale d' = .ok image' → image'.raster = image.raster → d' = d) ∧
      ∃ own, picture 1 d = .ok own ∧ image.raster = Image.blowUp s own.raster := by
  intro s picture
  have drawn (scale : Int) (d : Display) : picture scale d = .ok (Image.render scale on off d) :=
    render_single scale even d
  refine ⟨_, drawn scale d, rfl, rfl, fun r c x y => Image.pixel_render scale on off d, ?_,
    _, drawn 1 d, ?_⟩
  · intro apart
    refine ⟨fun r c x y => Image.pixel_render_eq_on scale apart d,
      Image.sample_render scale apart d, ?_⟩
    intro d' image' other same
    obtain rfl : Image.render scale on off d' = image' :=
      Except.ok.inj ((drawn scale d').symm.trans other)
    exact Image.raster_render_inj apart same
  · rw [Image.raster_render_one]
    exact Image.raster_upscale (Image.factor_pos scale) (Image.ofDisplay on off d)

/-- A display with one lit pixel, off the diagonal. -/
def dot : Display := .ofFn fun x y => decide (x.val = 3) && decide (y.val = 1)

theorem lit_dot (x : Column) (y : Row) :
    dot.lit x y = (decide (x.val = 3) && decide (y.val = 1)) :=
  Display.lit_ofFn _ x y

/-- At scale 4 the pixel is a square of four rows and four columns. -/
theorem picture_exact_and_lossless_of_dot :
    ([1, 2, 3] : Color).length = ([0, 0, 0] : Color).length ∧ ([1, 2, 3] : Color) ≠ [0, 0, 0] ∧
    ∃ image, (single dot).render 4 [1, 2, 3] [0, 0, 0] = .ok image ∧
      image.height = 128 ∧ image.width = 256 ∧
      image.pixel 7 12 = [1, 2, 3] ∧ image.pixel 12 7 = [0, 0, 0] ∧
      Display.ofFn (fun x y => decide (image.pixel (y * 4) (x * 4) = [1, 2, 3])) = dot := by
  have apart : ([1, 2, 3] : Color) ≠ [0, 0, 0] := by decide
  obtain ⟨image, drawn, height, width, pixel, lossless, -⟩ :=
    picture_exact_and_lossless dot 4 [1, 2, 3] [0, 0, 0] rfl
  obtain ⟨-, sampled, -⟩ := lossless apart
  refine ⟨rfl, apart, image, drawn, height, width, ?_, ?_, sampled⟩
  · rw [pixel 7 12 3 1 rfl rfl, lit_dot]
    rfl
  · rw [pixel 12 7 1 3 rfl rfl, lit_dot]
    rfl

end Frames

end Chip8
