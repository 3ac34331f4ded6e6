import Chip8.Proofs.Decoding

/-! The instruction set as a list of patterns. A pattern fixes some of the four digits of a word;
apart from 00E0 and 00EE, which 0NNN covers as well, no word has two patterns. So the pattern that
governs a word is unique, `Instruction.decode?` reads the word in it, and looking the patterns up in
any order gives the same instruction, as long as those two come before 0NNN. -/
namespace Chip8

/-- A pattern for words: the first hexadecimal digit and those of the others that are fixed. -/
structure Pattern where
  first : Nat
  second : Option Nat := none
  third : Option Nat := none
  fourth : Option Nat := none
deriving DecidableEq, Repr

namespace Pattern

/-- Whether a word has all the digits that the pattern fixes. -/
def covers (p : Pattern) (w : UInt16) : Bool :=
  let n := Nibbles.ofWord w
  n.first.val == p.first && p.second.all (n.second.val == ·) && p.third.all (n.third.val == ·) &&
    p.fourth.all (n.fourth.val == ·)

/-- Two places that ask for different digits. -/
def differ : Option Nat → Option Nat → Bool
  | some a, some b => a != b
  | _, _ => false

/-- Whether two patterns fix some digit differently. -/
def clashes (p q : Pattern) : Bool :=
  p.first != q.first || differ p.second q.second || differ p.third q.third ||
    differ p.fourth q.fourth

variable {p q : Pattern} {w : UInt16}

theorem covers_iff :
    p.covers w = true ↔ (Nibbles.ofWord w).first.val = p.first ∧
      (∀ d, p.second = some d → (Nibbles.ofWord w).second.val = d) ∧
      (∀ d, p.third = some d → (Nibbles.ofWord w).third.val = d) ∧
      ∀ d, p.fourth = some d → (Nibbles.ofWord w).fourth.val = d := by
  have asks (a : Option Nat) (k : Nat) : a.all (k == ·) = true ↔ ∀ d, a = some d → k = d := by
    cases a <;> simp
  simp only [covers, Bool.and_eq_true, beq_iff_eq, asks, and_assoc]

theorem not_both_of_differ {a b : Option Nat} {d : Nat} (h : differ a b = true)
    (ha : ∀ c, a = some c → d = c) : ¬∀ c, b = some c → d = c := by
  intro hb
  cases a with
  | none => cases h
  | some a =>
    cases b with
    | none => cases h
    | some b =>
      have same : a = b := (ha a rfl).symm.trans (hb b rfl)
      simp [differ, same] at h

/-- Patterns that clash cover no word in common. -/
theorem not_covers_of_clashes (h : p.clashes q = true) (hp : p.covers w = true) :
    ¬q.covers w = true := by
  intro hq
  obtain ⟨first, second, third, fourth⟩ := covers_iff.mp hp
  obtain ⟨first', second', third', fourth'⟩ := covers_iff.mp hq
  simp only [clashes, Bool.or_eq_true, bne_iff_ne] at h
  obtain ((leading | differs) | differs) | differs := h
  · exact leading (first.symm.trans first')
  · exact not_both_of_differ differs second second'
  · exact not_both_of_differ differs third third'
  · exact not_both_of_differ differs fourth fourth'

end Pattern

/-- The forms of instructions, each with a pattern of its own. -/
inductive Form
  | system | clear | ret | jump | call | byteEq | byteNe | registerEq | load | add
  | alu (op : Alu)
  | registerNe | setIndex | jumpOffset | random | draw | keyDown | keyUp | readDelay | awaitKey
  | setDelay | setSound | addIndex | glyph | decimal | store | restore
deriving DecidableEq, Repr

namespace Form

def pattern : Form → Pattern
  | system => { first := 0x0 }
  | clear => { first := 0x0, second := some 0x0, third := some 0xE, fourth := some 0x0 }
  | ret => { first := 0x0, second := some 0x0, third := some 0xE, fourth := some 0xE }
  | jump => { first := 0x1 }
  | call => { first := 0x2 }
  | byteEq => { first := 0x3 }
  | byteNe => { first := 0x4 }
  | registerEq => { first := 0x5, fourth := some 0x0 }
  | load => { first := 0x6 }
  | add => { first := 0x7 }
  | alu op => { first := 0x8, fourth := some op.nibble }
  | registerNe => { first := 0x9, fourth := some 0x0 }
  | setIndex => { first := 0xA }
  | jumpOffset => { first := 0xB }
  | random => { first := 0xC }
  | draw => { first := 0xD }
  | keyDown => { first := 0xE, third := some 0x9, fourth := some 0xE }
  | keyUp => { first := 0xE, third := some 0xA, fourth := some 0x1 }
  | readDelay => { first := 0xF, third := some 0x0, fourth := some 0x7 }
  | awaitKey => { first := 0xF, third := some 0x0, fourth := some 0xA }
  | setDelay => { first := 0xF, third := some 0x1, fourth := some 0x5 }
  | setSound => { first := 0xF, third := some 0x1, fourth := some 0x8 }
  | addIndex => { first := 0xF, third := some 0x1, fourth := some 0xE }
  | glyph => { first := 0xF, third := some 0x2, fourth := some 0x9 }
  | decimal => { first := 0xF, third := some 0x3, fourth := some 0x3 }
  | store => { first := 0xF, third := some 0x5, fourth := some 0x5 }
  | restore => { first := 0xF, third := some 0x6, fourth := some 0x5 }

/-- A word read in a form: X and Y are its second and third digit, N, NN and NNN its low four,
eight and twelve bits. -/
def read (f : Form) (w : UInt16) : Instruction :=
  let x := Nibble.ofNat (w.toNat / 256)
  let y := Nibble.ofNat (w.toNat / 16)
  let byte := UInt8.ofNat w.toNat
  let target := Address.ofNat w.toNat
  match f with
  | system => .system target
  | clear => .clear
  | ret => .ret
  | jump => .jump target
  | call => .call target
  | byteEq => .skip (.byteEq x byte)
  | byteNe => .skip (.byteNe x byte)
  | registerEq => .skip (.registerEq x y)
  | load => .load x byte
  | add => .add x byte
  | alu op => .alu op x y
  | registerNe => .skip (.registerNe x y)
  | setIndex => .setIndex target
  | jumpOffset => .jumpOffset target x
  | random => .random x byte
  | draw => .draw x y (.ofNat w.toNat)
  | keyDown => .skip (.keyDown x)
  | keyUp => .skip (.keyUp x)
  | readDelay => .readDelay x
  | awaitKey => .awaitKey x
  | setDelay => .setDelay x
  | setSound => .setSound x
  | addIndex => .addIndex x
  | glyph => .glyph x
  | decimal => .decimal x
  | store => .store x
  | restore => .restore x

/-- Every form once. -/
def all : List Form :=
  [system, clear, ret, jump, call, byteEq, byteNe, registerEq, load, add, alu .set, alu .or,
    alu .and, alu .xor, alu .add, alu .sub, alu .shiftRight, alu .subReverse, alu .shiftLeft,
    registerNe, setIndex, jumpOffset, random, draw, keyDown, keyUp, readDelay, awaitKey, setDelay,
    setSound, addIndex, glyph, decimal, store, restore]

theorem mem_all (f : Form) : f ∈ all := by
  cases f with
  | alu op => cases op <;> decide
  | _ => decide

/-- Whether the pattern of the form covers a word. -/
def Covers (f : Form) (w : UInt16) : Prop := f.pattern.covers w = true

instance (f : Form) (w : UInt16) : Decidable (f.Covers w) :=
  inferInstanceAs (Decidable (f.pattern.covers w = true))

/-- The form in which a word is read: 00E0 and 00EE are not read as 0NNN. -/
def Governs (f : Form) (w : UInt16) : Prop := f.Covers w ∧ (f = system → w ≠ 0x00E0 ∧ w ≠ 0x00EE)

/-- Two forms that cover words in common: 0NNN on one side, 00E0 or 00EE on the other. -/
def Overlaps (f g : Form) : Prop := f = system ∧ (g = clear ∨ g = ret)

instance (f g : Form) : Decidable (f.Overlaps g) :=
  inferInstanceAs (Decidable (f = system ∧ (g = clear ∨ g = ret)))

theorem clashes_of_mem : ∀ f ∈ all, ∀ g ∈ all,
    f = g ∨ f.Overlaps g ∨ g.Overlaps f ∨ f.pattern.clashes g.pattern = true := by
  decide

variable {f g : Form} {w : UInt16}

/-- Only 00E0 and 00EE are covered by two forms. -/
theorem eq_or_overlaps (hf : f.Covers w) (hg : g.Covers w) :
    f = g ∨ f.Overlaps g ∨ g.Overlaps f := by
  obtain same | overlap | overlap | clash := clashes_of_mem f (mem_all f) g (mem_all g)
  · exact .inl same
  · exact .inr (.inl overlap)
  · exact .inr (.inr overlap)
  · exact absurd hg (Pattern.not_covers_of_clashes clash hf)

/-- A form that asks for the first digit only. -/
theorem covers_of_first {a : Nat} (first : (Nibbles.ofWord w).first.val = a)
    (form : f.pattern = { first := a }) : f.Covers w := by
  rw [Covers, form]
  exact Pattern.covers_iff.mpr ⟨first, nofun, nofun, nofun⟩

/-- A form that asks for the first and the last digit. -/
theorem covers_of_last {a d : Nat} (first : (Nibbles.ofWord w).first.val = a)
    (last : (Nibbles.ofWord w).fourth.val = d)
    (form : f.pattern = { first := a, fourth := some d }) : f.Covers w := by
  rw [Covers, form]
  refine Pattern.covers_iff.mpr ⟨first, nofun, nofun, ?_⟩
  rintro _ ⟨⟩
  exact last

/-- A form that asks for the first digit and the low byte. -/
theorem covers_of_byte {a c d : Nat} (first : (Nibbles.ofWord w).first.val = a)
    (low : (byteOfNibbles (Nibbles.ofWord w).third (Nibbles.ofWord w).fourth).toNat = c * 16 + d)
    (form : f.pattern = { first := a, third := some c, fourth := some d }) (digit : d < 16) :
    f.Covers w := by
  have bound := (Nibbles.ofWord w).fourth.isLt
  rw [byteOfNibbles_toNat] at low
  rw [Covers, form]
  refine Pattern.covers_iff.mpr ⟨first, nofun, ?_, ?_⟩
  · rintro _ ⟨⟩
    omega
  · rintro _ ⟨⟩
    omega

theorem covers_clear_iff : clear.Covers w ↔ w = 0x00E0 := by
  have digits := Nibbles.ofWord_toNat w
  rw [Covers, Pattern.covers_iff, ← UInt16.toNat_inj]
  simp only [pattern, Option.some.injEq, forall_eq', UInt16.reduceToNat]
  omega

theorem covers_ret_iff : ret.Covers w ↔ w = 0x00EE := by
  have digits := Nibbles.ofWord_toNat w
  rw [Covers, Pattern.covers_iff, ← UInt16.toNat_inj]
  simp only [pattern, Option.some.injEq, forall_eq', UInt16.reduceToNat]
  omega

/-- A form other than 0NNN governs all that it covers. -/
theorem Covers.governs (covered : f.Covers w) (other : f ≠ system) : f.Governs w :=
  ⟨covered, fun same => absurd same other⟩

/-- 0NNN does not govern what another form covers. -/
theorem Governs.not_overlaps (hf : f.Governs w) (hg : g.Covers w) : ¬f.Overlaps g := by
  rintro ⟨rfl, rfl | rfl⟩
  · exact (hf.2 rfl).1 (covers_clear_iff.mp hg)
  · exact (hf.2 rfl).2 (covers_ret_iff.mp hg)

/-- The form that governs a word is the only one that covers it, apart from 0NNN. -/
theorem Governs.eq_or_system (hf : f.Governs w) (hg : g.Covers w) : g = f ∨ g.Overlaps f := by
  obtain same | overlap | overlap := eq_or_overlaps hg hf.1
  · exact .inl same
  · exact .inr overlap
  · exact absurd overlap (hf.not_overlaps hg)

theorem Governs.unique (hf : f.Governs w) (hg : g.Governs w) : g = f :=
  (hf.eq_or_system hg.1).resolve_right (hg.not_overlaps hf.1)

/-- A word that some form covers is governed by one. -/
theorem exists_governs (h : f.Covers w) : ∃ g : Form, g.Governs w := by
  by_cases clears : w = 0x00E0
  · exact ⟨clear, (covers_clear_iff.mpr clears).governs (by decide)⟩
  by_cases returns : w = 0x00EE
  · exact ⟨ret, (covers_ret_iff.mpr returns).governs (by decide)⟩
  · exact ⟨f, h, fun _ => ⟨clears, returns⟩⟩

end Form

theorem Alu.ofNibble_of_nibble {n : Nibble} {op : Alu} (h : n.val = op.nibble) :
    ofNibble? n = some op := by
  unfold ofNibble?
  rw [h]
  cases op <;> rfl

namespace Instruction

theorem byteOfNibbles_ofWord (w : UInt16) :
    byteOfNibbles (Nibbles.ofWord w).third (Nibbles.ofWord w).fourth = UInt8.ofNat w.toNat := by
  have digits := Nibbles.ofWord_toNat w
  apply UInt8.toNat_inj.mp
  rw [byteOfNibbles_toNat, UInt8.toNat_ofNat']
  omega

theorem ofNibbles_ofWord (w : UInt16) :
    Address.ofNibbles (Nibbles.ofWord w).second (Nibbles.ofWord w).third
      (Nibbles.ofWord w).fourth = Address.ofNat w.toNat := by
  have second := (Nibbles.ofWord w).second.isLt
  have third := (Nibbles.ofWord w).third.isLt
  have fourth := (Nibbles.ofWord w).fourth.isLt
  apply Fin.ext
  rw [Address.ofNibbles_val, Address.ofNat, Fin.val_ofNat, ← Nibbles.ofWord_toNat w]
  omega

/-- The form that governs a word is the one it is read in. -/
theorem decode_of_governs {w : UInt16} {f : Form} (h : f.Governs w) :
    decode? w = some (f.read w) := by
  obtain ⟨covered, notSystem⟩ := h
  obtain ⟨first, -, third, fourth⟩ := Pattern.covers_iff.mp covered
  have byte := byteOfNibbles_toNat (Nibbles.ofWord w).third (Nibbles.ofWord w).fourth
  have x : (Nibbles.ofWord w).second = .ofNat (w.toNat / 256) := by rw [Nibbles.ofWord_eq]
  have y : (Nibbles.ofWord w).third = .ofNat (w.toNat / 16) := by rw [Nibbles.ofWord_eq]
  have n : (Nibbles.ofWord w).fourth = .ofNat w.toNat := by rw [Nibbles.ofWord_eq]
  cases f with
  | clear =>
    obtain rfl := Form.covers_clear_iff.mp covered
    rfl
  | ret =>
    obtain rfl := Form.covers_ret_iff.mp covered
    rfl
  | system =>
    obtain ⟨noClear, noRet⟩ := notSystem rfl
    simp only [decode?, first, Form.pattern, Form.read, ofNibbles_ofWord, if_neg noClear,
      if_neg noRet]
  | jump | call | setIndex => simp only [decode?, first, Form.pattern, Form.read, ofNibbles_ofWord]
  | jumpOffset =>
    simp only [decode?, first, Form.pattern, Form.read, ofNibbles_ofWord]
    rw [x]
  | byteEq | byteNe | load | add | random =>
    simp only [decode?, first, Form.pattern, Form.read, byteOfNibbles_ofWord, x]
  | draw => simp only [decode?, first, Form.pattern, Form.read, x, y, n]
  | registerEq | registerNe =>
    have zero := fourth 0 rfl
    simp only [decode?, first, Form.pattern, Form.read, zero, x, y, if_true]
  | alu op =>
    have last := Alu.ofNibble_of_nibble (fourth op.nibble rfl)
    simp only [decode?, first, Form.pattern, Form.read, last, x, y, Option.map_some]
  | _ =>
    simp only [Form.pattern, Option.some.injEq, forall_eq'] at third fourth
    rw [third, fourth] at byte
    simp only [decode?, first, Form.pattern, Form.read, byte, x]

/-- Every word that is read is covered by a form. -/
theorem exists_covers_of_decode {w : UInt16} {i : Instruction} (h : decode? w = some i) :
    ∃ f : Form, f.Covers w := by
  unfold decode? at h
  dsimp only at h
  -- The first digit leaves one form, or those that the last digit or the low byte tells apart.
  split at h <;> rename_i first
  case h_1 => exact ⟨.system, Form.covers_of_first first rfl⟩
  case h_2 => exact ⟨.jump, Form.covers_of_first first rfl⟩
  case h_3 => exact ⟨.call, Form.covers_of_first first rfl⟩
  case h_4 => exact ⟨.byteEq, Form.covers_of_first first rfl⟩
  case h_5 => exact ⟨.byteNe, Form.covers_of_first first rfl⟩
  case h_6 =>
    split at h <;> rename_i last
    · exact ⟨.registerEq, Form.covers_of_last first last rfl⟩
    · cases h
  case h_7 => exact ⟨.load, Form.covers_of_first first rfl⟩
  case h_8 => exact ⟨.add, Form.covers_of_first first rfl⟩
  case h_9 =>
    obtain ⟨op, named, -⟩ := Option.map_eq_some_iff.mp h
    exact ⟨.alu op, Form.covers_of_last first (Alu.nibble_of_ofNibble named).symm rfl⟩
  case h_10 =>
    split at h <;> rename_i last
    · exact ⟨.registerNe, Form.covers_of_last first last rfl⟩
    · cases h
  case h_11 => exact ⟨.setIndex, Form.covers_of_first first rfl⟩
  case h_12 => exact ⟨.jumpOffset, Form.covers_of_first first rfl⟩
  case h_13 => exact ⟨.random, Form.covers_of_first first rfl⟩
  case h_14 => exact ⟨.draw, Form.covers_of_first first rfl⟩
  case h_15 =>
    split at h <;> rename_i low
    · exact ⟨.keyDown, Form.covers_of_byte first low rfl (by decide)⟩
    · exact ⟨.keyUp, Form.covers_of_byte first low rfl (by decide)⟩
    · cases h
  case h_16 =>
    have fifteen : (Nibbles.ofWord w).first.val = 0xF := by
      have bound := (Nibbles.ofWord w).first.isLt
      grind
    split at h <;> rename_i low
    · exact ⟨.readDelay, Form.covers_of_byte fifteen low rfl (by decide)⟩
    · exact ⟨.awaitKey, Form.covers_of_byte fifteen low rfl (by decide)⟩
    · exact ⟨.setDelay, Form.covers_of_byte fifteen low rfl (by decide)⟩
    · exact ⟨.setSound, Form.covers_of_byte fifteen low rfl (by decide)⟩
    · exact ⟨.addIndex, Form.covers_of_byte fifteen low rfl (by decide)⟩
    · exact ⟨.glyph, Form.covers_of_byte fifteen low rfl (by decide)⟩
    · exact ⟨.decimal, Form.covers_of_byte fifteen low rfl (by decide)⟩
    · exact ⟨.store, Form.covers_of_byte fifteen low rfl (by decide)⟩
    · exact ⟨.restore, Form.covers_of_byte fifteen low rfl (by decide)⟩
    · cases h

/-- The words without an instruction are those that no form covers. -/
theorem decode_eq_none_iff {w : UInt16} : decode? w = none ↔ ∀ f : Form, ¬f.Covers w := by
  constructor
  · intro unread f covered
    obtain ⟨g, governs⟩ := Form.exists_governs covered
    rw [decode_of_governs governs] at unread
    cases unread
  · intro uncovered
    cases read : decode? w with
    | none => rfl
    | some i =>
      obtain ⟨f, covered⟩ := exists_covers_of_decode read
      exact absurd covered (uncovered f)

theorem decode_eq_some_iff {w : UInt16} {i : Instruction} :
    decode? w = some i ↔ ∃ f : Form, f.Governs w ∧ i = f.read w := by
  constructor
  · intro read
    obtain ⟨g, covered⟩ := exists_covers_of_decode read
    obtain ⟨f, governs⟩ := Form.exists_governs covered
    rw [decode_of_governs governs] at read
    exact ⟨f, governs, (Option.some.inj read).symm⟩
  · rintro ⟨f, governs, rfl⟩
    exact decode_of_governs governs

end Instruction

namespace Form

/-- The first form of a list that covers a word reads it. -/
def lookUp? (order : List Form) (w : UInt16) : Option Instruction :=
  (order.find? fun f => decide (f.Covers w)).map (·.read w)

theorem not_of_find?_of_idxOf_lt {p : Form → Bool} {order : List Form} {f g : Form}
    (found : order.find? p = some g) (before : order.idxOf f < order.idxOf g) : p f = false := by
  induction order with
  | nil => cases found
  | cons h order ih =>
    rw [List.find?_cons] at found
    split at found
    · obtain rfl := Option.some.inj found
      simp at before
    · rename_i passed
      by_cases here : f = h
      · rw [here]
        exact passed
      · apply ih found
        grind

/-- In which order the forms are looked up makes no difference, as long as 00E0 and 00EE come before
0NNN. -/
theorem lookUp_eq_decode {order : List Form} (complete : ∀ f, f ∈ order)
    (clearFirst : order.idxOf clear < order.idxOf system)
    (retFirst : order.idxOf ret < order.idxOf system) (w : UInt16) :
    lookUp? order w = Instruction.decode? w := by
  unfold lookUp?
  cases found : order.find? fun f => decide (f.Covers w) with
  | none =>
    have uncovered (f : Form) : ¬f.Covers w := by
      simpa using List.find?_eq_none.mp found f (complete f)
    exact (Instruction.decode_eq_none_iff.mpr uncovered).symm
  | some f =>
    have covered : f.Covers w := by simpa using List.find?_some found
    have governs : f.Governs w := by
      refine ⟨covered, ?_⟩
      rintro rfl
      have noClear := not_of_find?_of_idxOf_lt found clearFirst
      have noRet := not_of_find?_of_idxOf_lt found retFirst
      rw [decide_eq_false_iff_not, covers_clear_iff] at noClear
      rw [decide_eq_false_iff_not, covers_ret_iff] at noRet
      exact ⟨noClear, noRet⟩
    exact (Instruction.decode_of_governs governs).symm

end Form

end Chip8
