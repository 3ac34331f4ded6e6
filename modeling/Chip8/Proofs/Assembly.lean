import Chip8.Proofs.Decoding
import Chip8.Proofs.Loading
import Chip8.Session

/-! Programs written down nibble by nibble. Packing the nibbles into bytes, placing the bytes in
memory, fetching a word and cutting it into nibbles again is the identity, for every program that
memory holds; longer ones are turned down with their size. -/
namespace Chip8

theorem highNibble_byteOfNibbles (high low : Nibble) :
    highNibble (byteOfNibbles high low) = high := by
  have hh := high.isLt
  have hl := low.isLt
  apply Fin.ext
  simp only [highNibble, byteOfNibbles_toNat, Nibble.ofNat, Fin.ofNat]
  omega

theorem lowNibble_byteOfNibbles (high low : Nibble) :
    lowNibble (byteOfNibbles high low) = low := by
  have hl := low.isLt
  apply Fin.ext
  simp only [lowNibble, byteOfNibbles_toNat, Nibble.ofNat, Fin.ofNat]
  omega

/-- The two bytes of an instruction, fetched as a word, are cut into its nibbles again. -/
theorem Nibbles.ofWord_bytes (n : Nibbles) : ofWord (wordOfBytes n.bytes.1 n.bytes.2) = n := by
  rw [ofWord, highByte_wordOfBytes, lowByte_wordOfBytes]
  simp only [ofBytes, bytes, highNibble_byteOfNibbles, lowNibble_byteOfNibbles]

/-- What decoding must find in a word, in terms of the numbers the instruction was written with. -/
structure Quartet.SpelledBy (q : Quartet) (w : UInt16) : Prop where
  first : (Nibbles.ofWord w).first.val = q.first.toNat % 16
  second : (Nibbles.ofWord w).second.val = q.second.toNat % 16
  third : (Nibbles.ofWord w).third.val = q.third.toNat % 16
  fourth : (Nibbles.ofWord w).fourth.val = q.fourth.toNat % 16
  byte : (byteOfNibbles (Nibbles.ofWord w).third (Nibbles.ofWord w).fourth).toNat =
    q.third.toNat % 16 * 16 + q.fourth.toNat % 16
  target : (Address.ofNibbles (Nibbles.ofWord w).second (Nibbles.ofWord w).third
      (Nibbles.ofWord w).fourth).val =
    q.second.toNat % 16 * 256 + q.third.toNat % 16 * 16 + q.fourth.toNat % 16
  word : w.toNat = (Nibbles.ofWord w).first.val * 4096 +
    (Address.ofNibbles (Nibbles.ofWord w).second (Nibbles.ofWord w).third
      (Nibbles.ofWord w).fourth).val

theorem Quartet.spelledBy_bytes (q : Quartet) : q.SpelledBy (wordOfBytes q.bytes.1 q.bytes.2) := by
  have nibbles : Nibbles.ofWord (wordOfBytes q.bytes.1 q.bytes.2) = q.nibbles :=
    Nibbles.ofWord_bytes q.nibbles
  have digits := Nibbles.ofWord_toNat (wordOfBytes q.bytes.1 q.bytes.2)
  exact {
    first := by rw [nibbles]; rfl
    second := by rw [nibbles]; rfl
    third := by rw [nibbles]; rfl
    fourth := by rw [nibbles]; rfl
    byte := by rw [nibbles, byteOfNibbles_toNat]; rfl
    target := by rw [nibbles, Address.ofNibbles_val]; rfl
    word := by rw [Address.ofNibbles_val]; omega }

/-- The bytes of a program that is written down instruction by instruction. -/
def assemble (code : List Quartet) : Array UInt8 :=
  (code.flatMap fun q => [q.bytes.1, q.bytes.2]).toArray

theorem size_assemble (code : List Quartet) : (assemble code).size = 2 * code.length := by
  induction code with
  | nil => rfl
  | cons q code ih =>
    simp only [assemble, List.size_toArray] at ih
    simp only [assemble, List.size_toArray, List.flatMap_cons, List.length_append, ih,
      List.length_cons, List.length_nil]
    omega

theorem getElem?_assemble {code : List Quartet} {k : Nat} {q : Quartet} (h : code[k]? = some q) :
    (assemble code)[2 * k]? = some q.bytes.1 ∧ (assemble code)[2 * k + 1]? = some q.bytes.2 := by
  induction code generalizing k with
  | nil => cases h
  | cons p code ih =>
    cases k with
    | zero =>
      obtain rfl : p = q := by simpa using h
      exact ⟨rfl, rfl⟩
    | succ k =>
      have rest (j : Nat) : (assemble (p :: code))[j + 2]? = (assemble code)[j]? := by
        simp [assemble]
      exact ⟨(rest _).trans (ih h).1, (rest _).trans (ih h).2⟩

namespace Program

theorem ofBytes_of_le {bytes : Array UInt8} (h : bytes.size ≤ 3584) :
    ofBytes bytes = .ok ⟨bytes, h⟩ := dif_pos h

theorem ofBytes_of_lt {bytes : Array UInt8} (h : 3584 < bytes.size) :
    ofBytes bytes = .error (.tooLarge bytes.size) := dif_neg (by omega)

end Program

namespace Machine

/-- As long as memory is what loading has made it, the program counter finds each instruction. -/
theorem spelledBy_fetch {m n : Machine} {p : Program} {code : List Quartet}
    (assembled : p.bytes = assemble code) (same : n.memory = (m.load p).memory) {k : Nat}
    (h : k < code.length) (hpc : n.pc.toNat = programStart + 2 * k) :
    code[k].SpelledBy n.fetch := by
  have spelled := getElem?_assemble (List.getElem?_eq_getElem h)
  rw [← assembled] at spelled
  obtain ⟨_, high⟩ := Array.getElem?_eq_some_iff.mp spelled.1
  obtain ⟨inside, low⟩ := Array.getElem?_eq_some_iff.mp spelled.2
  rw [fetch_of_load same inside hpc, high, low]
  exact code[k].spelledBy_bytes

/-- A program of at most 1792 instructions is loaded from address 512 on without touching anything
else, and each of its instructions is fetched and decoded as it was written down. Bytes that are
too many for the memory reach neither a machine nor a session, and the error tells how many they
are. -/
theorem assembled_code_fetched_as_written (m : Machine) :
    (∀ code : List Quartet, code.length ≤ 1792 →
      ∃ m', m.loadBytes (assemble code) = .ok m' ∧
        m' = { m with memory := m'.memory } ∧
        (∀ a : Address, a.val < 512 ∨ 512 + 2 * code.length ≤ a.val → m'.read a = m.read a) ∧
        ∀ (k : Nat) (h : k < code.length),
          code[k].SpelledBy { m' with pc := UInt16.ofNat (512 + 2 * k) }.fetch) ∧
    ∀ bytes : Array UInt8, 3584 < bytes.size →
      m.loadBytes bytes = .error (.tooLarge bytes.size) ∧
      ∀ settings, Session.ofBytes settings bytes = .error (.tooLarge bytes.size) := by
  refine ⟨fun code short => ?_, fun bytes large => ?_⟩
  · have size := size_assemble code
    have fits : (assemble code).size ≤ 3584 := by omega
    let p : Program := ⟨assemble code, fits⟩
    refine ⟨m.load p, ?_, rfl, fun a outside => ?_, fun k h => ?_⟩
    · rw [loadBytes, Program.ofBytes_of_le fits]
      rfl
    · apply read_load_of_outside
      rw [size]
      exact outside
    · have hpc : (UInt16.ofNat (512 + 2 * k)).toNat = programStart + 2 * k := by
        simp only [UInt16.toNat_ofNat', programStart]
        omega
      have same : { m.load p with pc := UInt16.ofNat (512 + 2 * k) }.memory =
          (m.load p).memory := rfl
      exact spelledBy_fetch rfl same h hpc
  · constructor
    · rw [loadBytes, Program.ofBytes_of_lt large]
      rfl
    · intro settings
      rw [Session.ofBytes, Program.ofBytes_of_lt large]
      rfl

/-- The last instruction of a program that fills the memory, written with numbers above 15, and
bytes that are one too many. -/
theorem assembled_code_fetched_as_written_to_the_end :
    (∃ m', (powerOn ⟨0, 0⟩ .modern).loadBytes
        (assemble (List.replicate 1792 ⟨0x12, 0xA3, 0xFF, 0x0C⟩)) = .ok m' ∧
      { m' with pc := 4094 }.fetch = 0x23FC) ∧
    Session.ofBytes {} (Array.replicate 3585 0) = .error (.tooLarge 3585) := by
  obtain ⟨small, large⟩ := assembled_code_fetched_as_written (powerOn ⟨0, 0⟩ .modern)
  constructor
  · obtain ⟨m', loaded, -, -, spelled⟩ :=
      small (List.replicate 1792 ⟨0x12, 0xA3, 0xFF, 0x0C⟩) (Nat.le_of_eq List.length_replicate)
    refine ⟨m', loaded, ?_⟩
    have last := spelled 1791 (by rw [List.length_replicate]; decide)
    rw [List.getElem_replicate] at last
    have word := last.word
    rw [last.first, last.target] at word
    exact UInt16.toNat_inj.mp word
  · have size : (Array.replicate 3585 (0 : UInt8)).size = 3585 := Array.size_replicate
    have refused := (large (Array.replicate 3585 0) (by rw [size]; decide)).2 {}
    rwa [size] at refused

end Machine

end Chip8
