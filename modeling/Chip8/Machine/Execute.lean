import Chip8.Fault
import Chip8.Machine.Basic

/-! One instruction. `perform` is the effect of an instruction that may run; `obstacle?`
says which ones may not. A failing instruction gives back the machine that it was given. -/
namespace Chip8

namespace Machine

def holds (m : Machine) : Condition → Bool
  | .byteEq x byte => m.reg x == byte
  | .byteNe x byte => m.reg x != byte
  | .registerEq x y => m.reg x == m.reg y
  | .registerNe x y => m.reg x != m.reg y
  | .keyDown x => m.keypad.isDown (lowNibble (m.reg x))
  | .keyUp x => !m.keypad.isDown (lowNibble (m.reg x))

/-- The result goes to VX first and the flag to VF second, so the flag wins in VF. -/
def performAlu (m : Machine) (op : Alu) (x y : Register) : Machine :=
  let vy := m.reg y
  let vx := if op.isShift && m.dialect.shiftUsesVy then vy else m.reg x
  let (result, flag) := op.apply vx vy
  let m' := m.setReg x result
  if op.setsFlag || (op.isLogic && m.dialect.logicResetsVf) then m'.setReg .flag flag else m'

/-- The sprite at I with its corner at (VX mod 64, VY mod 32). -/
def spriteAt (m : Machine) (x y : Register) (height : Nibble) : Display :=
  Display.sprite m.dialect.clipSprites ((m.reg x).toNat % 64) ((m.reg y).toNat % 32) height.val
    fun r => m.read (.after m.index r)

def performDraw (m : Machine) (x y : Register) (height : Nibble) : Machine :=
  let s := m.spriteAt x y height
  let flag := if m.display.meets s then 1 else 0
  { m with display := m.display.toggle s }.setReg .flag flag

def performJumpOffset (m : Machine) (target : Address) (x : Register) : Machine :=
  let sum :=
    if m.dialect.jumpUsesVx then target.val % 256 + (m.reg x).toNat
    else target.val + (m.reg ⟨0, by decide⟩).toNat
  { m with pc := (Address.ofNat sum).toWord }

/-- Without a key held the program counter moves back onto the instruction. -/
def performAwaitKey (m : Machine) (x : Register) : Machine :=
  match m.keypad.lowest? with
  | some k => m.setReg x (UInt8.ofNat k.val)
  | none => { m with pc := m.pc - 2 }

def performAddIndex (m : Machine) (x : Register) : Machine :=
  let sum := m.index.toNat + (m.reg x).toNat
  let m' := { m with index := (Address.ofNat sum).toWord }
  if m.dialect.indexOverflowSetsVf then m'.setReg .flag (if 4095 < sum then 1 else 0) else m'

/-- The three decimal digits of VX from I on. -/
def performDecimal (m : Machine) (x : Register) : Machine :=
  let v := (m.reg x).toNat
  ((m.write (.after m.index 0) (UInt8.ofNat (v / 100))).write (.after m.index 1)
    (UInt8.ofNat (v / 10 % 10))).write (.after m.index 2) (UInt8.ofNat (v % 10))

def advanceIndex (m : Machine) (x : Register) : Machine :=
  if m.dialect.loadStoreIncrementsI then { m with index := m.index + UInt16.ofNat (x.val + 1) }
  else m

/-- V0 to VX into memory from I on. -/
def storeRegisters (m : Machine) (x : Register) : Machine :=
  (List.finRange 16).foldl
    (fun m' i => if i ≤ x then m'.write (.after m.index i.val) (m.reg i) else m') m

/-- V0 to VX out of memory from I on. -/
def restoreRegisters (m : Machine) (x : Register) : Machine :=
  { m with
    registers := Vector.ofFn fun i : Register =>
      if i ≤ x then m.read (.after m.index i.val) else m.reg i }

def perform (m : Machine) : Instruction → Machine
  | .system _ => m
  | .clear => { m with display := .blank }
  | .ret =>
    let (stack, target) := m.stack.pop
    { m with stack := stack, pc := target }
  | .jump target => { m with pc := target.toWord }
  | .call target => { m with stack := m.stack.push m.pc, pc := target.toWord }
  | .skip condition => if m.holds condition then m.skipOver else m
  | .load x byte => m.setReg x byte
  | .add x byte => m.setReg x (m.reg x + byte)
  | .alu op x y => m.performAlu op x y
  | .setIndex target => { m with index := target.toWord }
  | .jumpOffset target x => m.performJumpOffset target x
  | .random x byte =>
    { m with streamKey := m.streamKey.next }.setReg x (m.streamKey.byte &&& byte)
  | .draw x y height => m.performDraw x y height
  | .readDelay x => m.setReg x m.delay
  | .awaitKey x => m.performAwaitKey x
  | .setDelay x => { m with delay := m.reg x }
  | .setSound x => { m with sound := m.reg x }
  | .addIndex x => m.performAddIndex x
  | .glyph x => { m with index := UInt16.ofNat ((m.reg x).toNat % 16 * 5) }
  | .decimal x => m.performDecimal x
  | .store x => (m.storeRegisters x).advanceIndex x
  | .restore x => (m.restoreRegisters x).advanceIndex x

def obstacle? (m : Machine) : Option Instruction → Option Fault
  | none => some .unknownOpcode
  | some .ret => if m.stack.isEmpty then some .stackEmpty else none
  | some (.call _) => if m.stack.isFull then some .stackFull else none
  | some _ => none

/-- Runs the word `w`; the program counter is expected past it already. The machine that a fault
comes with is the one that met it. -/
def obey (m : Machine) (w : UInt16) : Machine × Option Fault :=
  let decoded := Instruction.decode? w
  let fault := m.obstacle? decoded
  (if fault = none then decoded.elim m m.perform else m, fault)

/-- The word at the program counter; both its bytes are looked up in twelve bits. -/
def fetch (m : Machine) : UInt16 :=
  wordOfBytes (m.read (.after m.pc 0)) (m.read (.after m.pc 1))

/-- Runs the instruction at the program counter, which a fault sets back onto that instruction. -/
def proceed (m : Machine) : Machine × Option Fault :=
  let (m', fault) := m.skipOver.obey m.fetch
  (if fault = none then m' else m, fault)

/-- A tick, then one instruction. The tick stays when the instruction fails. -/
def timestep (m : Machine) : Machine × Option Fault := m.tick.proceed

/-! The same for those who ask for the machine only when there is no fault. -/

def outcome : Machine × Option Fault → Except Fault Machine
  | (m, none) => .ok m
  | (_, some fault) => .error fault

def execute (m : Machine) (w : UInt16) : Except Fault Machine := outcome (m.obey w)

def step (m : Machine) : Except Fault Machine := outcome m.proceed

theorem outcome_eq_ok {r : Machine × Option Fault} {m : Machine} :
    outcome r = .ok m ↔ r = (m, none) := by
  obtain ⟨n, _ | fault⟩ := r <;> simp [outcome]

/-- A machine that is replaced only where there is no fault is still there beside one. -/
theorem outcome_eq_error {m m' : Machine} {met : Option Fault} {fault : Fault} :
    outcome (if met = none then m' else m, met) = .error fault ↔
      (if met = none then m' else m, met) = (m, some fault) := by
  cases met <;> simp [outcome]

theorem execute_ok_iff_obey {m m' : Machine} {w : UInt16} :
    m.execute w = .ok m' ↔ m.obey w = (m', none) :=
  outcome_eq_ok

theorem execute_error_iff_obey {m : Machine} {w : UInt16} {fault : Fault} :
    m.execute w = .error fault ↔ m.obey w = (m, some fault) :=
  outcome_eq_error

theorem step_ok_iff_proceed {m m' : Machine} : m.step = .ok m' ↔ m.proceed = (m', none) :=
  outcome_eq_ok

theorem step_error_iff_proceed {m : Machine} {fault : Fault} :
    m.step = .error fault ↔ m.proceed = (m, some fault) :=
  outcome_eq_error

/-- A step is the word at the program counter, run with the program counter past it. -/
theorem step_eq (m : Machine) : m.step = m.skipOver.execute m.fetch := by
  rw [step, proceed, execute]
  obtain ⟨m', _ | fault⟩ := m.skipOver.obey m.fetch <;> rfl

theorem execute_of_step {m m' : Machine} (ran : m.step = .ok m') :
    m.skipOver.execute m.fetch = .ok m' :=
  m.step_eq ▸ ran

end Machine

end Chip8
