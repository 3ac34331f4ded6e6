import Chip8.Text.Number
import Chip8.Word

/-! A progress meter over a loop of known length. It opens at the first iteration, advances in
equal steps, and closes at the last iteration with what is left. -/
namespace Chip8

structure Meter where
  total : Int
  /-- The length of a step, at least one. -/
  rate : Int
  label : String
deriving DecidableEq, Repr

namespace Meter

inductive Event
  | opened
  | advanced (steps : Int)
  | closed
deriving DecidableEq, Repr

/-- A step is a twentieth of the total but at most 1000, unless one is given; it is at least one
and at most the total. -/
def create (total : Int) (rate : Option Int) (label : Option String) : Meter where
  total := total
  rate := max 1 (min (rate.getD (min (total.fdiv 20) 1000)) total)
  label :=
    match label with
    | none => defaultLabel
    | some l => if l.isEmpty then defaultLabel else l
where
  defaultLabel : String := s!"Emulating ({Text.grouped total} instructions)"

/-- Whether the loop can count to its last iteration and to the length of a step. -/
def isCountable (m : Meter) : Bool := fitsInt32 (m.total - 1) && fitsInt32 m.rate

/-- What is left for the last step. -/
def tail (m : Meter) : Int := if m.total % m.rate = 0 then m.rate else m.total % m.rate

/-- The events of iteration `i`, and whether the meter is open after it. -/
def update (m : Meter) (isOpen : Bool) (i : Nat) : List Event × Bool :=
  let isLast := decide ((i : Int) = m.total - 1)
  let isOpen' := isOpen || i == 0
  let opening := if i = 0 then [.opened] else []
  let step := if ((i : Int) + 1) % m.rate = 0 ∧ !isLast ∧ isOpen' then [.advanced m.rate] else []
  let closing := if isLast ∧ isOpen' then [.advanced m.tail, .closed] else []
  (opening ++ step ++ closing, isOpen' && !isLast)

/-- The events of `n` iterations from iteration `i` on. -/
def eventsFrom (m : Meter) (isOpen : Bool) (i : Nat) : Nat → List Event
  | 0 => []
  | n + 1 =>
    let (es, isOpen) := m.update isOpen i
    es ++ m.eventsFrom isOpen (i + 1) n

/-- The events of the iterations before `n`. -/
def events (m : Meter) (n : Nat) : List Event := m.eventsFrom false 0 n

/-- The events of the first `n` iterations of a loop that is watched, unless it cannot count as far
as it has to. -/
def trace? (m : Meter) (n : Nat) : Option (List Event) :=
  if m.isCountable then some (m.events n) else none

/-- Display options that the meter sets itself and so leaves out. -/
def ownOptions : List String := ["mininterval", "maxinterval", "miniters"]

/-- Options that would be given twice. -/
def takenOptions : List String := ["n", "total", "print_rate", "desc", "self"]

/-- The option for what is counted; it shows only when the meter opens that it is given twice. -/
def unitOption : String := "unit"

end Meter

end Chip8
