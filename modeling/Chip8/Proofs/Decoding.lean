import Chip8.Instruction

/-! The words that spell instructions. `Instruction.word` writes an instruction in its pattern, and
what `decode?` reads is spelled by the word it was read from; so the word of a decoded instruction
is known up to its operands. -/
namespace Chip8

namespace Nibbles

theorem ofWord_toNat (w : UInt16) :
    (ofWord w).first.val * 4096 + (ofWord w).second.val * 256 + (ofWord w).third.val * 16 +
      (ofWord w).fourth.val = w.toNat := by
  have bound := w.toNat_lt
  simp only [ofWord, ofBytes, highNibble, lowNibble, highByte, lowByte, Nibble.ofNat, Fin.ofNat,
    UInt8.toNat_ofNat']
  omega

/-- The nibbles are the hexadecimal digits of the word. -/
theorem ofWord_eq (w : UInt16) :
    ofWord w = ⟨.ofNat (w.toNat / 4096), .ofNat (w.toNat / 256), .ofNat (w.toNat / 16),
      .ofNat w.toNat⟩ := by
  have bound := w.toNat_lt
  simp only [ofWord, ofBytes, highNibble, lowNibble, highByte, lowByte, Nibble.ofNat, Fin.ofNat,
    UInt8.toNat_ofNat', Nibbles.mk.injEq, Fin.mk.injEq]
  omega

/-- The nibbles of a word that is written digit by digit. -/
theorem ofWord_of_digits {k : Nat} {a b c d : Nibble}
    (h : k = a.val * 4096 + b.val * 256 + c.val * 16 + d.val) :
    ofWord (UInt16.ofNat k) = ⟨a, b, c, d⟩ := by
  have ha := a.isLt
  have hb := b.isLt
  have hc := c.isLt
  have hd := d.isLt
  simp only [ofWord_eq, UInt16.toNat_ofNat', Nibble.ofNat, Fin.ofNat, Nibbles.mk.injEq, Fin.ext_iff]
  omega

end Nibbles

theorem highByte_wordOfBytes (high low : UInt8) : highByte (wordOfBytes high low) = high := by
  have hh := high.toNat_lt
  have hl := low.toNat_lt
  apply UInt8.toNat_inj.mp
  simp only [highByte, wordOfBytes, UInt8.toNat_ofNat', UInt16.toNat_ofNat']
  omega

theorem lowByte_wordOfBytes (high low : UInt8) : lowByte (wordOfBytes high low) = low := by
  have hh := high.toNat_lt
  have hl := low.toNat_lt
  apply UInt8.toNat_inj.mp
  simp only [lowByte, wordOfBytes, UInt8.toNat_ofNat', UInt16.toNat_ofNat']
  omega

theorem byteOfNibbles_toNat (a b : Nibble) : (byteOfNibbles a b).toNat = a.val * 16 + b.val := by
  have ha := a.isLt
  have hb := b.isLt
  simp only [byteOfNibbles, UInt8.toNat_ofNat']
  omega

theorem Address.ofNibbles_val (a b c : Nibble) :
    (Address.ofNibbles a b c).val = a.val * 256 + b.val * 16 + c.val := by
  have ha := a.isLt
  have hb := b.isLt
  have hc := c.isLt
  simp only [Address.ofNibbles, Address.ofNat, Fin.ofNat]
  omega

/-- The last nibble of 8XYN. -/
def Alu.nibble : Alu → Nat
  | set => 0x0
  | or => 0x1
  | and => 0x2
  | xor => 0x3
  | add => 0x4
  | sub => 0x5
  | shiftRight => 0x6
  | subReverse => 0x7
  | shiftLeft => 0xE

theorem Alu.nibble_of_ofNibble {n : Nibble} {op : Alu} (h : ofNibble? n = some op) :
    op.nibble = n.val := by
  unfold ofNibble? at h
  split at h <;> cases h <;> simp_all [nibble]

def Condition.word : Condition → Nat
  | byteEq x byte => 0x3000 + x.val * 256 + byte.toNat
  | byteNe x byte => 0x4000 + x.val * 256 + byte.toNat
  | registerEq x y => 0x5000 + x.val * 256 + y.val * 16
  | registerNe x y => 0x9000 + x.val * 256 + y.val * 16
  | keyDown x => 0xE09E + x.val * 256
  | keyUp x => 0xE0A1 + x.val * 256

namespace Instruction

def word : Instruction → Nat
  | system target => target.val
  | clear => 0x00E0
  | ret => 0x00EE
  | jump target => 0x1000 + target.val
  | call target => 0x2000 + target.val
  | skip condition => condition.word
  | load x byte => 0x6000 + x.val * 256 + byte.toNat
  | add x byte => 0x7000 + x.val * 256 + byte.toNat
  | alu op x y => 0x8000 + x.val * 256 + y.val * 16 + op.nibble
  | setIndex target => 0xA000 + target.val
  | jumpOffset target _ => 0xB000 + target.val
  | random x byte => 0xC000 + x.val * 256 + byte.toNat
  | draw x y height => 0xD000 + x.val * 256 + y.val * 16 + height.val
  | readDelay x => 0xF007 + x.val * 256
  | awaitKey x => 0xF00A + x.val * 256
  | setDelay x => 0xF015 + x.val * 256
  | setSound x => 0xF018 + x.val * 256
  | addIndex x => 0xF01E + x.val * 256
  | glyph x => 0xF029 + x.val * 256
  | decimal x => 0xF033 + x.val * 256
  | store x => 0xF055 + x.val * 256
  | restore x => 0xF065 + x.val * 256

/-- An instruction is spelled by the word it is read from. -/
theorem word_of_decode {w : UInt16} {i : Instruction} (h : decode? w = some i) :
    i.word = w.toNat := by
  have digits := Nibbles.ofWord_toNat w
  have first := (Nibbles.ofWord w).first.isLt
  have byte := byteOfNibbles_toNat (Nibbles.ofWord w).third (Nibbles.ofWord w).fourth
  have target := Address.ofNibbles_val (Nibbles.ofWord w).second (Nibbles.ofWord w).third
    (Nibbles.ofWord w).fourth
  unfold decode? at h
  dsimp only at h
  split at h <;> rename_i leading
  case h_1 =>
    obtain rfl := Option.some.inj h
    split
    · rename_i clears
      rw [clears]
      rfl
    split
    · rename_i returns
      rw [returns]
      rfl
    · simp only [word]
      omega
  case h_6 | h_10 =>
    split at h
    · obtain rfl := Option.some.inj h
      simp only [word, Condition.word]
      omega
    · cases h
  case h_9 =>
    obtain ⟨op, named, rfl⟩ := Option.map_eq_some_iff.mp h
    have last := Alu.nibble_of_ofNibble named
    simp only [word]
    omega
  case h_15 =>
    split at h
    case h_3 => cases h
    all_goals
      obtain rfl := Option.some.inj h
      simp only [word, Condition.word]
      omega
  case h_16 =>
    have fifteen : (Nibbles.ofWord w).first.val = 15 := by grind
    split at h
    case h_10 => cases h
    all_goals
      obtain rfl := Option.some.inj h
      simp only [word]
      omega
  all_goals
    obtain rfl := Option.some.inj h
    simp only [word, Condition.word]
    omega

end Instruction

/-- Every word 2NNN is a call. -/
theorem Machine.decode_of_first_two {w : UInt16} (h : w.toNat / 4096 = 2) :
    ∃ t, Instruction.decode? w = some (.call t) := by
  have first : (Nibbles.ofWord w).first.val = 2 := by
    simp only [Nibbles.ofWord, Nibbles.ofBytes, highNibble, highByte, Nibble.ofNat, Fin.ofNat,
      UInt8.toNat_ofNat']
    omega
  simp only [Instruction.decode?, first]
  exact ⟨_, rfl⟩

namespace Instruction

theorem decode_ret_iff {w : UInt16} : decode? w = some .ret ↔ w = 0x00EE := by
  constructor
  · intro h
    exact UInt16.toNat_inj.mp (word_of_decode h).symm
  · rintro rfl
    decide

theorem decode_call_iff {w : UInt16} :
    (∃ t, decode? w = some (.call t)) ↔ w.toNat / 4096 = 2 := by
  constructor
  · rintro ⟨t, h⟩
    have spelled := word_of_decode h
    have bound := t.isLt
    simp only [word] at spelled
    omega
  · exact Machine.decode_of_first_two

/-- The words CXNN draw. -/
theorem decode_random_iff {w : UInt16} {x : Register} {byte : UInt8} :
    decode? w = some (.random x byte) ↔
      w.toNat / 4096 = 0xC ∧ x = Nibble.ofNat (w.toNat / 256) ∧ byte = lowByte w := by
  constructor
  · intro h
    have spelled := word_of_decode h
    have second := x.isLt
    have low := byte.toNat_lt
    simp only [word] at spelled
    refine ⟨by omega, Fin.ext ?_, UInt8.toNat_inj.mp ?_⟩
    · simp only [Nibble.ofNat, Fin.ofNat]
      omega
    · simp only [lowByte, UInt8.toNat_ofNat']
      omega
  · rintro ⟨leading, rfl, rfl⟩
    have bound := w.toNat_lt
    have first : (Nibble.ofNat (w.toNat / 4096)).val = 0xC := by
      simp only [Nibble.ofNat, Fin.ofNat]
      omega
    have low : byteOfNibbles (.ofNat (w.toNat / 16)) (.ofNat w.toNat) = lowByte w := by
      apply UInt8.toNat_inj.mp
      rw [byteOfNibbles_toNat]
      simp only [lowByte, Nibble.ofNat, Fin.ofNat, UInt8.toNat_ofNat']
      omega
    simp only [decode?, Nibbles.ofWord_eq, first, low]

/-- Every word DXYN draws. -/
theorem decode_draw (x y : Register) (height : Nibble) :
    decode? (UInt16.ofNat (draw x y height).word) = some (draw x y height) := by
  have nibbles : Nibbles.ofWord (UInt16.ofNat (draw x y height).word) = ⟨0xD, x, y, height⟩ :=
    Nibbles.ofWord_of_digits rfl
  simp only [decode?, nibbles]
  rfl

theorem decode_alu (op : Alu) (x y : Register) :
    decode? (UInt16.ofNat (alu op x y).word) = some (alu op x y) := by
  have bound : op.nibble < 16 := by cases op <;> decide
  have nibbles :
      Nibbles.ofWord (UInt16.ofNat (alu op x y).word) = ⟨0x8, x, y, ⟨op.nibble, bound⟩⟩ :=
    Nibbles.ofWord_of_digits rfl
  simp only [decode?, nibbles]
  cases op <;> rfl

theorem decode_store (x : Register) :
    decode? (UInt16.ofNat (store x).word) = some (store x) := by
  have nibbles : Nibbles.ofWord (UInt16.ofNat (store x).word) = ⟨0xF, x, 0x5, 0x5⟩ :=
    Nibbles.ofWord_of_digits (by simp only [word]; omega)
  simp only [decode?, nibbles]
  rfl

theorem decode_restore (x : Register) :
    decode? (UInt16.ofNat (restore x).word) = some (restore x) := by
  have nibbles : Nibbles.ofWord (UInt16.ofNat (restore x).word) = ⟨0xF, x, 0x6, 0x5⟩ :=
    Nibbles.ofWord_of_digits (by simp only [word]; omega)
  simp only [decode?, nibbles]
  rfl

end Instruction

end Chip8
