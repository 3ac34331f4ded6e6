namespace Chip8

/-- The six points on which interpreters of the instruction set historically disagree. -/
structure Dialect where
  /-- 8XY6 and 8XYE shift VY into VX instead of shifting VX in place. -/
  shiftUsesVy : Bool := false
  /-- 8XY1, 8XY2 and 8XY3 clear VF. -/
  logicResetsVf : Bool := false
  /-- BNNN is read as BXNN and jumps to NN + VX instead of NNN + V0. -/
  jumpUsesVx : Bool := false
  /-- FX55 and FX65 leave I past the last register moved. -/
  loadStoreIncrementsI : Bool := false
  /-- FX1E sets VF when I + VX leaves the 12-bit range. -/
  indexOverflowSetsVf : Bool := true
  /-- DXYN drops the pixels beyond the screen edges instead of wrapping them. -/
  clipSprites : Bool := false
deriving DecidableEq, Repr

namespace Dialect

def modern : Dialect := {}

/-- The COSMAC VIP interpreter of 1977. -/
def cosmac : Dialect :=
  { shiftUsesVy := true
    logicResetsVf := true
    loadStoreIncrementsI := true
    indexOverflowSetsVf := false
    clipSprites := true }

/-- The names of the switches, in their order. -/
def names : List String :=
  ["shift_uses_vy", "logic_resets_vf", "jump_uses_vx", "load_store_increments_i",
    "index_overflow_sets_vf", "clip_sprites"]

def get? (d : Dialect) : String → Option Bool
  | "shift_uses_vy" => some d.shiftUsesVy
  | "logic_resets_vf" => some d.logicResetsVf
  | "jump_uses_vx" => some d.jumpUsesVx
  | "load_store_increments_i" => some d.loadStoreIncrementsI
  | "index_overflow_sets_vf" => some d.indexOverflowSetsVf
  | "clip_sprites" => some d.clipSprites
  | _ => none

def set? (d : Dialect) (name : String) (b : Bool) : Option Dialect :=
  match name with
  | "shift_uses_vy" => some { d with shiftUsesVy := b }
  | "logic_resets_vf" => some { d with logicResetsVf := b }
  | "jump_uses_vx" => some { d with jumpUsesVx := b }
  | "load_store_increments_i" => some { d with loadStoreIncrementsI := b }
  | "index_overflow_sets_vf" => some { d with indexOverflowSetsVf := b }
  | "clip_sprites" => some { d with clipSprites := b }
  | _ => none

end Dialect

end Chip8
