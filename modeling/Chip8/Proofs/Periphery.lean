import Chip8.Proofs.Decoding
import Chip8.Proofs.Loading
import Chip8.Proofs.Trace

/-! The edge of the machine. Four of its fields are for the host: the sound timer, the held keys, the
key of the random stream and the count of completed instructions. Instructions set the first and
never look at it, few of them look at the next two, and none at the last. `perform_withPeriphery`
says so for every instruction at once; from it follow what an instruction leaves in these fields, and
that a run which does not look at them goes the same way whatever they hold. -/
namespace Chip8

structure Periphery where
  sound : UInt8
  keypad : Keypad
  streamKey : StreamKey
  completed : UInt32

namespace Instruction

/-- EX9E, EXA1 and FX0A. -/
def ReadsKeys : Instruction → Prop
  | skip (.keyDown _) | skip (.keyUp _) | awaitKey _ => True
  | _ => False

/-- CXNN. -/
def Draws : Instruction → Prop
  | random _ _ => True
  | _ => False

end Instruction

namespace Machine

def periphery (m : Machine) : Periphery := ⟨m.sound, m.keypad, m.streamKey, m.completed⟩

def withPeriphery (m : Machine) (p : Periphery) : Machine :=
  { m with
    sound := p.sound
    keypad := p.keypad
    streamKey := p.streamKey
    completed := p.completed }

end Machine

/-- What the machine `m` makes of the periphery `p` when it performs an instruction. -/
def Periphery.after (p : Periphery) (m : Machine) : Instruction → Periphery
  | .setSound x => { p with sound := m.reg x }
  | .random _ _ => { p with streamKey := p.streamKey.next }
  | _ => p

namespace Machine

theorem holds_withPeriphery {m : Machine} {p : Periphery} {condition : Condition}
    (keys : (Instruction.skip condition).ReadsKeys → p.keypad = m.keypad) :
    (m.withPeriphery p).holds condition = m.holds condition := by
  cases condition with
  | keyDown x | keyUp x =>
    have same : (m.withPeriphery p).keypad = m.keypad := keys trivial
    simp only [holds, same]
    rfl
  | _ => rfl

theorem advanceIndex_withPeriphery (m : Machine) (p : Periphery) (x : Register) :
    (m.withPeriphery p).advanceIndex x = (m.advanceIndex x).withPeriphery p := by
  have dialect : (m.withPeriphery p).dialect = m.dialect := rfl
  rw [advanceIndex, advanceIndex, dialect]
  split
  · rfl
  · rfl

/-- The inside of the machine sees the keys only where an instruction reads them, the key of the
random stream only where it draws, and the rest of the periphery never. -/
theorem perform_withPeriphery {m : Machine} {p : Periphery} {i : Instruction}
    (keys : i.ReadsKeys → p.keypad = m.keypad) (stream : i.Draws → p.streamKey = m.streamKey) :
    (m.withPeriphery p).perform i = (m.perform i).withPeriphery (p.after m i) := by
  cases i with
  | skip condition =>
    simp only [perform, holds_withPeriphery keys]
    split
    · rfl
    · rfl
  | awaitKey x =>
    have same : (m.withPeriphery p).keypad.lowest? = m.keypad.lowest? :=
      congrArg Keypad.lowest? (keys trivial)
    rw [perform, perform, performAwaitKey, performAwaitKey, same]
    split
    · rfl
    · rfl
  | random x byte =>
    have same : (m.withPeriphery p).streamKey = m.streamKey := stream trivial
    simp only [perform, same, Periphery.after, stream trivial]
    rfl
  | alu op x y =>
    have dialect : (m.withPeriphery p).dialect = m.dialect := rfl
    simp only [perform, performAlu, dialect]
    split
    · rfl
    · rfl
  | addIndex x =>
    have dialect : (m.withPeriphery p).dialect = m.dialect := rfl
    simp only [perform, performAddIndex, dialect]
    split
    · rfl
    · rfl
  | store x =>
    have stored : (m.withPeriphery p).storedMemory x = m.storedMemory x := rfl
    rw [perform, perform, storeRegisters_eq, storeRegisters_eq, stored]
    exact advanceIndex_withPeriphery { m with memory := m.storedMemory x } p x
  | restore x =>
    have restored : (m.withPeriphery p).restoredRegisters x = m.restoredRegisters x := rfl
    rw [perform, perform, restoreRegisters_eq, restoreRegisters_eq, restored]
    exact advanceIndex_withPeriphery { m with registers := m.restoredRegisters x } p x
  | _ => rfl

/-- What an instruction leaves in the periphery. -/
theorem periphery_perform (m : Machine) (i : Instruction) :
    (m.perform i).periphery = m.periphery.after m i := by
  have own : m.perform i = (m.perform i).withPeriphery (m.periphery.after m i) :=
    perform_withPeriphery (p := m.periphery) (fun _ => rfl) fun _ => rfl
  exact congrArg periphery own

end Machine

/-- Two peripheries with the same count, with the same keys if `keys` holds, and at the same place of
the random stream if `stream` holds. -/
structure Periphery.Shares (keys stream : Prop) (p q : Periphery) : Prop where
  completed : q.completed = p.completed
  keypad : keys → q.keypad = p.keypad
  streamKey : stream → q.streamKey = p.streamKey

theorem Periphery.Shares.after {keys stream : Prop} {p q : Periphery} (h : p.Shares keys stream q)
    (m : Machine) (i : Instruction) : (p.after m i).Shares keys stream (q.after m i) := by
  cases i with
  | setSound x => exact ⟨h.completed, h.keypad, h.streamKey⟩
  | random x byte =>
    exact ⟨h.completed, h.keypad, fun same => congrArg StreamKey.next (h.streamKey same)⟩
  | _ => exact h

namespace Machine

/-- Two machines that differ in their periphery at most, and not in what it shares. -/
structure SameInside (keys stream : Prop) (m n : Machine) : Prop where
  inside : n = m.withPeriphery n.periphery
  shared : m.periphery.Shares keys stream n.periphery

namespace SameInside

variable {keys stream : Prop} {m n : Machine}

theorem fields (h : SameInside keys stream m n) :
    ∃ p, n = m.withPeriphery p ∧ m.periphery.Shares keys stream p :=
  ⟨n.periphery, h.inside, h.shared⟩

theorem perform (h : SameInside keys stream m n) {i : Instruction} (reads : i.ReadsKeys → keys)
    (draws : i.Draws → stream) : SameInside keys stream (m.perform i) (n.perform i) := by
  obtain ⟨p, rfl, shared⟩ := h.fields
  have moved : (m.withPeriphery p).perform i = (m.perform i).withPeriphery (p.after m i) :=
    perform_withPeriphery (fun looks => shared.keypad (reads looks))
      fun looks => shared.streamKey (draws looks)
  rw [moved]
  refine ⟨rfl, ?_⟩
  rw [periphery_perform]
  exact shared.after m i

/-- What differs stays unseen as long as no instruction looks at it. -/
theorem lockstep : Lockstep (SameInside keys stream) fun _ i =>
    (i.ReadsKeys → keys) ∧ (i.Draws → stream) where
  fetch h := by rw [h.inside]; rfl
  stack h := by rw [h.inside]; rfl
  completed h := h.shared.completed
  tick h := by
    obtain ⟨p, rfl, shared⟩ := h.fields
    exact ⟨rfl, shared.completed, shared.keypad, shared.streamKey⟩
  count h := by
    obtain ⟨p, rfl, shared⟩ := h.fields
    exact ⟨rfl, congrArg (· + 1) shared.completed, shared.keypad, shared.streamKey⟩
  free_tick h := h
  perform {m n} i h free := by
    obtain ⟨p, rfl, shared⟩ := h.fields
    have past : SameInside keys stream m.skipOver (m.withPeriphery p).skipOver :=
      ⟨rfl, shared.completed, shared.keypad, shared.streamKey⟩
    exact past.perform free.1 free.2

end SameInside

end Machine

/-- The words EX9E, EXA1 and FX0A, which read the held keys, and CXNN, which draw from the random
stream. -/
def LooksOutside (w : UInt16) : Prop :=
  (w.toNat / 4096 = 0xE ∧ (w.toNat % 256 = 0x9E ∨ w.toNat % 256 = 0xA1)) ∨
    (w.toNat / 4096 = 0xF ∧ w.toNat % 256 = 0x0A) ∨ w.toNat / 4096 = 0xC

theorem looksOutside_of_decode {w : UInt16} {i : Instruction}
    (decoded : Instruction.decode? w = some i) (looks : i.ReadsKeys ∨ i.Draws) :
    LooksOutside w := by
  have spelled := Instruction.word_of_decode decoded
  unfold LooksOutside
  cases i with
  | skip condition =>
    cases condition with
    | keyDown x | keyUp x =>
      have bound := x.isLt
      simp only [Instruction.word, Condition.word] at spelled
      omega
    | _ => exact looks.elim False.elim False.elim
  | awaitKey x =>
    have bound := x.isLt
    simp only [Instruction.word] at spelled
    omega
  | random x byte =>
    have bound := x.isLt
    have low := byte.toNat_lt
    simp only [Instruction.word] at spelled
    omega
  | _ => exact looks.elim False.elim False.elim

namespace Machine

/-- Whatever the sound timer, the held keys and the random stream are replaced by: a run that
completes no instruction which looks at the keys or draws goes the same way, with the same fault after
as many instructions and the same machine but for these three. The sound timer alone is never
seen. -/
theorem periphery_noninterference (s : Session) (n : Nat) (m : Machine) (sound : UInt8)
    (keypad : Keypad) (key : StreamKey) :
    let r := m.run s.perTick n n
    ((∀ a ∈ m.trace s.perTick n, ¬LooksOutside a.fetch) →
      let r' := { m with sound := sound, keypad := keypad, streamKey := key }.run s.perTick n n
      r'.fault = r.fault ∧ r'.executed = r.executed ∧
      r'.machine =
        { r.machine with
          sound := r'.machine.sound
          keypad := r'.machine.keypad
          streamKey := r'.machine.streamKey }) ∧
    let r' := { m with sound := sound }.run s.perTick n n
    r'.fault = r.fault ∧ r'.executed = r.executed ∧
    r'.machine = { r.machine with sound := r'.machine.sound } := by
  intro r
  constructor
  · intro blind r'
    have start : SameInside False False m
        { m with sound := sound, keypad := keypad, streamKey := key } :=
      ⟨rfl, rfl, False.elim, False.elim⟩
    have together : r.Matches (SameInside False False) r' := by
      refine SameInside.lockstep.run_self n start fun a visited i decoded => ⟨?_, ?_⟩
      · exact fun reads => blind a visited (looksOutside_of_decode decoded (.inl reads))
      · exact fun draws => blind a visited (looksOutside_of_decode decoded (.inr draws))
    obtain ⟨p, same, shared⟩ := together.machine.fields
    refine ⟨together.fault, together.executed, ?_⟩
    rw [same, withPeriphery, shared.completed]
    rfl
  · intro r'
    have start : SameInside True True m { m with sound := sound } :=
      ⟨rfl, rfl, fun _ => rfl, fun _ => rfl⟩
    have together : r.Matches (SameInside True True) r' :=
      SameInside.lockstep.run_self n start fun _ _ _ _ => ⟨fun _ => trivial, fun _ => trivial⟩
    obtain ⟨p, same, shared⟩ := together.machine.fields
    refine ⟨together.fault, together.executed, ?_⟩
    rw [same, withPeriphery, shared.completed, shared.keypad trivial, shared.streamKey trivial]
    rfl

/-- V0 takes the value of the delay timer. -/
def delayProgram : Program := ⟨#[0xF0, 0x07], by decide⟩

/-- The delay timer falls and is read while every key is held, a tone sounds and the random stream
stands elsewhere. -/
theorem periphery_noninterference_reading_delay :
    let s : Session := ⟨delayProgram, {}⟩
    let m := { s.powerOn ⟨0, 0⟩ with delay := 9 }
    let r := m.run s.perTick 1 (1 : Nat)
    let r' := { m with sound := 3, keypad := ⟨0xFFFF⟩, streamKey := ⟨1, 2⟩ }.run s.perTick 1 (1 : Nat)
    m.trace s.perTick 1 = [m] ∧ m.fetch = 0xF007 ∧
    r'.fault = r.fault ∧ r'.executed = r.executed ∧
    r'.machine =
      { r.machine with
        sound := r'.machine.sound
        keypad := r'.machine.keypad
        streamKey := r'.machine.streamKey } := by
  intro s m
  have word : m.fetch = 0xF007 := by
    have first : wordOfBytes delayProgram.bytes[0] delayProgram.bytes[1] = 0xF007 := by decide
    exact (fetch_of_load rfl (by decide) rfl).trans first
  have decoded : Instruction.decode? m.fetch = some (.readDelay 0) := by rw [word]; decide
  have ran := cycle_of_decode decoded rfl s.perTick
  have started : m.trace s.perTick 1 = [m] := trace_of_ok ran 0
  have blind : ∀ a ∈ m.trace s.perTick 1, ¬LooksOutside a.fetch := by
    rw [started, List.forall_mem_singleton, word]
    unfold LooksOutside
    decide
  exact ⟨started, word, (periphery_noninterference s 1 m 3 ⟨0xFFFF⟩ ⟨1, 2⟩).1 blind⟩

end Machine

end Chip8
