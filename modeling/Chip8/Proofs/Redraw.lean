import Chip8.Proofs.Sprite

/-! Sprites drawn one after the other. A draw toggles its sprite, and as long as no corner is taken
from VF, the flag that the draws leave behind moves none of the sprites that follow. So a series of
draws gives the same display in any order, and a sprite drawn twice is gone again. -/
namespace Chip8

namespace Display

/-- Toggling twice restores the display. -/
theorem toggle_toggle (d s : Display) : (d.toggle s).toggle s = d := by
  apply ext_lit
  intro x y
  rw [lit_toggle, lit_toggle, Bool.xor_assoc, Bool.xor_self, Bool.xor_false]

theorem toggle_right_comm (d s t : Display) : (d.toggle s).toggle t = (d.toggle t).toggle s := by
  apply ext_lit
  intro x y
  simp only [lit_toggle, Bool.xor_assoc, Bool.xor_comm (s.lit x y)]

/-- A pixel of a sprite is lit either before the sprite is toggled or after it. -/
theorem meets_or_meets_toggle (d s : Display) :
    d.meets s = true ∨ (d.toggle s).meets s = true ↔ ∃ x y, s.lit x y = true := by
  rw [meets_iff, meets_iff]
  constructor
  · rintro (⟨x, y, -, covered⟩ | ⟨x, y, -, covered⟩)
    · exact ⟨x, y, covered⟩
    · exact ⟨x, y, covered⟩
  · rintro ⟨x, y, covered⟩
    cases before : d.lit x y with
    | true => exact .inl ⟨x, y, before, covered⟩
    | false => exact .inr ⟨x, y, by rw [lit_toggle, before, covered]; rfl, covered⟩

end Display

/-- A draw whose corner is not taken from VF, which the draw itself overwrites. -/
structure Draw where
  x : Register
  y : Register
  height : Nibble
  x_ne : x ≠ .flag
  y_ne : y ≠ .flag

namespace Draw

def word (a : Draw) : UInt16 :=
  UInt16.ofNat (0xD000 + a.x.val * 256 + a.y.val * 16 + a.height.val)

/-- The sprite that a draw toggles on a machine. -/
def sprite (m : Machine) (a : Draw) : Display := m.spriteAt a.x a.y a.height

/-- Some set bit of the rows at I comes to lie on the screen. -/
def Visible (m : Machine) (a : Draw) : Prop :=
  ∃ r < a.height.val, ∃ c < 8,
    (m.read (.ofNat (m.index.toNat + r))).toNat.testBit (7 - c) = true ∧
    ∃ p, Display.cell? m.dialect.clipSprites ((m.reg a.x).toNat % 64) ((m.reg a.y).toNat % 32) c r =
      some p

theorem visible_iff (m : Machine) (a : Draw) :
    a.Visible m ↔ ∃ x y, (a.sprite m).lit x y = true := by
  have wide : (m.reg a.x).toNat % 64 < 64 := Nat.mod_lt _ (by decide)
  have high : (m.reg a.y).toNat % 32 < 32 := Nat.mod_lt _ (by decide)
  have low : a.height.val ≤ 32 := by omega
  constructor
  · rintro ⟨r, hr, c, hc, bit, ⟨x, y⟩, reached⟩
    have flipped : (x, y) ∈ Display.plotted _ _ _ a.height.val fun r => m.read (.after m.index r) :=
      Display.mem_plotted_iff.mpr ⟨r, hr, c, hc, bit, reached⟩
    exact ⟨x, y, (Display.mem_plotted_iff_lit wide high low).mp flipped⟩
  · rintro ⟨x, y, covered⟩
    have flipped := (Display.mem_plotted_iff_lit wide high low).mpr covered
    obtain ⟨r, hr, c, hc, bit, reached⟩ := Display.mem_plotted_iff.mp flipped
    exact ⟨r, hr, c, hc, bit, (x, y), reached⟩

end Draw

namespace Machine

/-- The machine with another display and another flag. -/
def redrawn (m : Machine) (d : Display) (flag : UInt8) : Machine :=
  { m with display := d }.setReg .flag flag

@[simp] theorem redrawn_display (m : Machine) (d : Display) (flag : UInt8) :
    (m.redrawn d flag).display = d := rfl

@[simp] theorem redrawn_redrawn (m : Machine) (d e : Display) (f g : UInt8) :
    (m.redrawn d f).redrawn e g = m.redrawn e g := by
  simp [redrawn, setReg]

theorem reg_redrawn_flag (m : Machine) (d : Display) (flag : UInt8) :
    (m.redrawn d flag).reg .flag = flag :=
  reg_setReg _ _ _

theorem reg_redrawn_of_ne (m : Machine) (d : Display) (flag : UInt8) {x : Register}
    (h : x ≠ .flag) : (m.redrawn d flag).reg x = m.reg x := by
  have other : Register.flag.val ≠ x.val := fun same => h (Fin.ext same.symm)
  simp [redrawn, setReg, reg, Vector.getElem_set_ne _ _ other]

/-- The sprite of a draw does not depend on what earlier draws have left. -/
theorem sprite_redrawn (m : Machine) (d : Display) (flag : UInt8) (a : Draw) :
    a.sprite (m.redrawn d flag) = a.sprite m := by
  simp only [Draw.sprite, spriteAt, reg_redrawn_of_ne m d flag a.x_ne,
    reg_redrawn_of_ne m d flag a.y_ne]
  rfl

theorem execute_draw (m : Machine) (a : Draw) :
    m.execute a.word =
      .ok (m.redrawn (m.display.toggle (a.sprite m))
        (if m.display.meets (a.sprite m) then 1 else 0)) :=
  execute_eq_ok_iff.mpr
    ⟨.draw a.x a.y a.height, Instruction.decode_draw a.x a.y a.height, rfl, rfl⟩

/-- Draws one after the other, as instructions. -/
def drawAll (m : Machine) (series : List Draw) : Except Fault Machine :=
  series.foldlM (fun m a => m.execute a.word) m

/-- A series of draws toggles one sprite after the other, each as the first machine has it, and
changes nothing else but VF. -/
theorem drawAll_eq (m : Machine) (series : List Draw) :
    ∃ flag, m.drawAll series =
      .ok (m.redrawn (series.foldl (fun d a => d.toggle (a.sprite m)) m.display) flag) := by
  -- Between the draws the machine differs from `m` in its display and its flag.
  suffices later : ∀ d f, ∃ flag, (m.redrawn d f).drawAll series =
      .ok (m.redrawn (series.foldl (fun d a => d.toggle (a.sprite m)) d) flag) by
    have same : m.redrawn m.display (m.reg .flag) = m := by
      simp [redrawn, setReg, reg]
    obtain ⟨flag, drawn⟩ := later m.display (m.reg .flag)
    rw [same] at drawn
    exact ⟨flag, drawn⟩
  induction series with
  | nil => exact fun d f => ⟨f, rfl⟩
  | cons a series ih =>
    intro d f
    obtain ⟨flag, drawn⟩ := ih (d.toggle (a.sprite m)) (if d.meets (a.sprite m) then 1 else 0)
    refine ⟨flag, ?_⟩
    rw [drawAll, List.foldlM_cons, execute_draw, sprite_redrawn, redrawn_redrawn, redrawn_display,
      List.foldl_cons]
    exact drawn

/-- The order of the draws does not show on the display. -/
theorem drawAll_perm (m : Machine) {series series' : List Draw} (h : series.Perm series') :
    ∃ n n', m.drawAll series = .ok n ∧ m.drawAll series' = .ok n' ∧ n.display = n'.display := by
  obtain ⟨flag, drawn⟩ := m.drawAll_eq series
  obtain ⟨flag', drawn'⟩ := m.drawAll_eq series'
  refine ⟨_, _, drawn, drawn', ?_⟩
  rw [redrawn_display, redrawn_display]
  exact h.foldl_eq' (fun a _ b _ d => d.toggle_right_comm (a.sprite m) (b.sprite m)) m.display

/-- A sprite drawn twice leaves the machine as it was but for VF, and one of the two draws reports a
collision exactly when some pixel of the sprite is visible. Two draws leave the same display in
either order. -/
theorem redraw_restores_and_draws_commute (m : Machine) (a b : Draw) :
    (∃ m₁ m₂, m.execute a.word = .ok m₁ ∧ m₁.execute a.word = .ok m₂ ∧
      m₂.display = m.display ∧ m₂ = m.setReg .flag (m₂.reg .flag) ∧
      (m₁.reg .flag = 1 ∨ m₂.reg .flag = 1 ↔ a.Visible m)) ∧
    ∃ n n', m.drawAll [a, b] = .ok n ∧ m.drawAll [b, a] = .ok n' ∧ n.display = n'.display := by
  refine ⟨?_, m.drawAll_perm (.swap b a [])⟩
  have first := m.execute_draw a
  have second (f : UInt8) : (m.redrawn (m.display.toggle (a.sprite m)) f).execute a.word =
      .ok (m.redrawn m.display
        (if (m.display.toggle (a.sprite m)).meets (a.sprite m) then 1 else 0)) := by
    rw [execute_draw, sprite_redrawn, redrawn_redrawn, redrawn_display, Display.toggle_toggle]
  refine ⟨_, _, first, second _, rfl, ?_, ?_⟩
  · rw [reg_redrawn_flag]
    rfl
  · rw [reg_redrawn_flag, reg_redrawn_flag, Draw.visible_iff,
      ← m.display.meets_or_meets_toggle (a.sprite m)]
    simp

end Machine

end Chip8
