import Mathlib.Data.Int.Bitwise
import Mathlib.Data.List.Induction
import Mathlib.Logic.ExistsUnique
import Chip8.Proofs.WindowLoop

/-! Which keys are held. A key is down when the last thing that happened to it was a press: so it is
with the calls that press and release keys by their numbers, and so it is in a window, where the
keys of a keyboard stand for those of the pad and all other events pass the pad by. -/
namespace Chip8

/-- The later of two items' last occurrences in a list. -/
def latest {α : Type} [DecidableEq α] (a b : α) (xs : List α) : Option α :=
  (xs.filter fun x => x = a ∨ x = b).getLast?

/-- Where one item sets a mark, another one clears it and nothing else touches it, the latest of the
two decides. -/
theorem mark_foldl_iff {σ α : Type} [DecidableEq α] (step : σ → α → σ) (mark : σ → Bool)
    {set clear : α} (apart : clear ≠ set) (sets : ∀ s, mark (step s set) = true)
    (clears : ∀ s, mark (step s clear) = false)
    (keeps : ∀ s x, x ≠ set → x ≠ clear → mark (step s x) = mark s) (s : σ) (xs : List α) :
    mark (xs.foldl step s) = true ↔
      latest set clear xs = some set ∨ latest set clear xs = none ∧ mark s = true := by
  induction xs using List.reverseRecOn with
  | nil => simp [latest]
  | append_singleton xs x ih =>
    rw [List.foldl_concat]
    by_cases hs : x = set
    · subst hs
      simp [latest, sets]
    · by_cases hc : x = clear
      · subst hc
        simp [latest, clears, apart]
      · rw [keeps _ x hs hc, ih]
        simp [latest, hs, hc]

namespace Keypad

theorem testBit_bit (j k : Nibble) : (bit j).toNat.testBit k.val = decide (k = j) := by
  revert j k
  decide

theorem testBit_not_bit (j k : Nibble) : (~~~bit j).toNat.testBit k.val = !decide (k = j) := by
  revert j k
  decide

theorem isDown_hold (p : Keypad) (j k : Nibble) :
    (p.hold j).isDown k = (p.isDown k || decide (k = j)) := by
  simp only [isDown, hold, UInt16.toNat_or, Nat.testBit_or, testBit_bit]

theorem isDown_drop (p : Keypad) (j k : Nibble) :
    (p.drop j).isDown k = (p.isDown k && !decide (k = j)) := by
  simp only [isDown, drop, UInt16.toNat_and, Nat.testBit_and, testBit_not_bit]

theorem isDown_hold_self (p : Keypad) (k : Nibble) : (p.hold k).isDown k = true := by
  simp [isDown_hold]

theorem isDown_drop_self (p : Keypad) (k : Nibble) : (p.drop k).isDown k = false := by
  simp [isDown_drop]

theorem isDown_hold_of_ne (p : Keypad) {j k : Nibble} (other : k ≠ j) :
    (p.hold j).isDown k = p.isDown k := by
  simp [isDown_hold, other]

theorem isDown_drop_of_ne (p : Keypad) {j k : Nibble} (other : k ≠ j) :
    (p.drop j).isDown k = p.isDown k := by
  simp [isDown_drop, other]

theorem toNat_bit (k : Nibble) : (bit k).toNat = 1 <<< k.val := by
  revert k
  decide

/-- The mask with a key held, as a number. -/
theorem toNat_mask_hold (p : Keypad) (k : Nibble) :
    (p.hold k).mask.toNat = p.mask.toNat ||| 1 <<< k.val := by
  rw [hold, UInt16.toNat_or, toNat_bit]

/-- The mask with a key dropped, as a number. -/
theorem toNat_mask_drop (p : Keypad) (k : Nibble) :
    (p.drop k).mask.toNat = p.mask.toNat.ldiff (1 <<< k.val) := by
  apply Nat.eq_of_testBit_eq
  intro i
  rw [drop, UInt16.toNat_and, Nat.testBit_and, Nat.testBit_ldiff, ← toNat_bit]
  -- Beyond the sixteenth bit the complement differs, but there the mask has no bits.
  by_cases inside : i < 16
  · have flipped : (~~~bit k).toNat.testBit i = !(bit k).toNat.testBit i := by
      rw [testBit_not_bit k ⟨i, inside⟩, testBit_bit k ⟨i, inside⟩]
    rw [flipped]
  · have small : p.mask.toNat < 2 ^ i :=
      Nat.lt_of_lt_of_le p.mask.toNat_lt (Nat.pow_le_pow_right (by decide) (by omega))
    rw [Nat.testBit_lt_two_pow small, Bool.false_and, Bool.false_and]

/-- A key pressed or released by its number. -/
inductive Call
  | press (key : Int)
  | release (key : Int)
deriving DecidableEq, Repr

namespace Call

def key : Call → Int
  | press n | release n => n

def attempt (p : Keypad) : Call → Except NoSuchKey Keypad
  | press n => p.press n
  | release n => p.release n

def operation : Call → Operation
  | press n => .press n
  | release n => .release n

end Call

theorem key_natCast (k : Nibble) : key k.val = .ok k := by
  have bound := k.isLt
  rw [key, if_pos (by omega)]
  exact congrArg Except.ok (Fin.ofNat_val_eq_self k)

theorem key_of_outside {n : Int} (outside : n < 0 ∨ 16 ≤ n) : key n = .error ⟨n⟩ := by
  rw [key, if_neg (by omega)]

/-- The keys that there are have the numbers from 0 to 15. -/
theorem exists_key {n : Int} (inside : 0 ≤ n ∧ n < 16) : ∃ k : Nibble, n = k.val :=
  ⟨⟨n.toNat, by omega⟩, (Int.toNat_of_nonneg inside.1).symm⟩

theorem attempt_of_outside (p : Keypad) {c : Call} (outside : c.key < 0 ∨ 16 ≤ c.key) :
    c.attempt p = .error ⟨c.key⟩ := by
  cases c with
  | press n => exact congrArg (Except.map p.hold) (key_of_outside outside)
  | release n => exact congrArg (Except.map p.drop) (key_of_outside outside)

theorem press_natCast (p : Keypad) (k : Nibble) : p.press k.val = .ok (p.hold k) := by
  rw [press, key_natCast]
  rfl

theorem release_natCast (p : Keypad) (k : Nibble) : p.release k.val = .ok (p.drop k) := by
  rw [release, key_natCast]
  rfl

end Keypad

namespace Machine

open Keypad (Call)

/-- A call takes effect on the keypad alone, and none if it is turned down. -/
theorem apply_call (m : Machine) (c : Call) :
    m.apply c.operation = m.rekey (c.attempt m.keypad) := by
  cases c with
  | press n => rfl
  | release n => rfl

theorem apply_call_of_outside (m : Machine) {c : Call} (outside : c.key < 0 ∨ 16 ≤ c.key) :
    m.apply c.operation = m := by
  rw [apply_call, Keypad.attempt_of_outside _ outside]
  rfl

theorem apply_press (m : Machine) (k : Nibble) :
    m.apply (Call.press k.val).operation = { m with keypad := m.keypad.hold k } := by
  rw [apply_call, Call.attempt, Keypad.press_natCast]
  rfl

theorem apply_release (m : Machine) (k : Nibble) :
    m.apply (Call.release k.val).operation = { m with keypad := m.keypad.drop k } := by
  rw [apply_call, Call.attempt, Keypad.release_natCast]
  rfl

/-- Calls one after the other. -/
def applyCalls (m : Machine) (calls : List Call) : Machine :=
  calls.foldl (fun m c => m.apply c.operation) m

theorem apply_call_of_inside (m : Machine) {c : Call} (inside : 0 ≤ c.key ∧ c.key < 16) :
    ∃ p, c.attempt m.keypad = .ok p ∧ m.apply c.operation = { m with keypad := p } := by
  obtain ⟨k, hk⟩ := Keypad.exists_key inside
  cases c with
  | press n =>
    obtain rfl : n = k.val := hk
    exact ⟨_, Keypad.press_natCast _ k, apply_press m k⟩
  | release n =>
    obtain rfl : n = k.val := hk
    exact ⟨_, Keypad.release_natCast _ k, apply_release m k⟩

/-- Calls write the keypad and nothing else. -/
theorem exists_applyCalls_eq (m : Machine) (calls : List Call) :
    ∃ p, m.applyCalls calls = { m with keypad := p } := by
  induction calls generalizing m with
  | nil => exact ⟨m.keypad, rfl⟩
  | cons c calls ih =>
    obtain ⟨p, rest⟩ := ih (m.apply c.operation)
    refine ⟨p, rest.trans ?_⟩
    by_cases inside : 0 ≤ c.key ∧ c.key < 16
    · obtain ⟨_, -, first⟩ := apply_call_of_inside m inside
      rw [first]
    · rw [apply_call_of_outside m (by omega)]

/-- A call for one key leaves the others alone. -/
theorem isDown_apply_call_of_ne (m : Machine) {k : Nibble} {c : Call} (hp : c ≠ .press k.val)
    (hr : c ≠ .release k.val) :
    (m.apply c.operation).keypad.isDown k = m.keypad.isDown k := by
  by_cases inside : 0 ≤ c.key ∧ c.key < 16
  · obtain ⟨j, hj⟩ := Keypad.exists_key inside
    cases c with
    | press n =>
      obtain rfl : n = j.val := hj
      have other : k ≠ j := fun same => hp (by rw [same])
      rw [apply_press, Keypad.isDown_hold_of_ne _ other]
    | release n =>
      obtain rfl : n = j.val := hj
      have other : k ≠ j := fun same => hr (by rw [same])
      rw [apply_release, Keypad.isDown_drop_of_ne _ other]
  · rw [apply_call_of_outside m (by omega)]

theorem isDown_applyCalls_iff (m : Machine) (calls : List Call) (k : Nibble) :
    (m.applyCalls calls).keypad.isDown k = true ↔
      latest (.press k.val) (.release k.val) calls = some (.press k.val) ∨
      latest (.press k.val) (.release k.val) calls = none ∧ m.keypad.isDown k = true := by
  have apart : Call.release k.val ≠ .press k.val := nofun
  refine mark_foldl_iff (fun m c => m.apply c.operation) (fun m => m.keypad.isDown k) apart
    ?_ ?_ ?_ m calls
  · intro m
    rw [apply_press, Keypad.isDown_hold_self]
  · intro m
    rw [apply_release, Keypad.isDown_drop_self]
  · intro m c hp hr
    exact isDown_apply_call_of_ne m hp hr

end Machine

theorem padKey_mem {name : String} {k : Nibble} (known : padKey? name = some k) :
    (name, k) ∈ padKeys := by
  obtain ⟨before, after, split, -⟩ := List.lookup_eq_some_iff.mp known
  rw [split]
  exact List.mem_append_cons_self

/-- No two keys of the keyboard stand for the same key of the pad. -/
theorem padKey_inj {a b : String} {k : Nibble} (ha : padKey? a = some k)
    (hb : padKey? b = some k) : a = b := by
  have injective : ∀ x ∈ padKeys, ∀ y ∈ padKeys, x.2 = y.2 → x.1 = y.1 := by decide
  exact injective (a, k) (padKey_mem ha) (b, k) (padKey_mem hb) rfl

/-- Every key of the pad has its key on the keyboard. -/
theorem exists_padKey (k : Nibble) : ∃ name, padKey? name = some k := by
  have named : ∀ k : Nibble, ∃ entry ∈ padKeys, padKey? entry.1 = some k := by decide
  obtain ⟨entry, -, known⟩ := named k
  exact ⟨entry.1, known⟩

namespace Window

/-- The keys with which a window is controlled. -/
def controls : List String := ["ESCAPE", "p", "F1", "F5"]

theorem padKey_control {key : String} (h : key ∈ controls) : padKey? key = none := by
  revert key
  decide

/-- What an event does to the pad. -/
def strike (p : Keypad) : Event → Keypad
  | .pressed key => ((padKey? key).map p.hold).getD p
  | .released key => ((padKey? key).map p.drop).getD p
  | .quit | .other => p

/-- Whether an event is that of a key on the pad. -/
def Event.onPad : Event → Bool
  | .pressed key | .released key => (padKey? key).isSome
  | .quit | .other => false

/-- The keys that control the window are not on the pad, so it does not matter that they are looked
at first. -/
theorem keypad_handle (s : Session) (w : Window) (e : Event) :
    (w.handle s e).1.keypad = strike w.keypad e := by
  unfold handle
  split
  case h_6 =>
    unfold strike
    split <;> simp_all
  case h_7 =>
    unfold strike
    split <;> simp_all
  all_goals rfl

theorem keypad_handleAll (s : Session) (w : Window) (events : List Event) :
    (w.handleAll s events).1.keypad = events.foldl strike w.keypad := by
  induction events generalizing w with
  | nil => rfl
  | cons e events ih => rw [handleAll, List.foldl_cons, ← keypad_handle s, ← ih]

theorem keypad_advance (s : Session) (w : Window) : (w.advance s).1.keypad = w.keypad := by
  unfold advance
  split
  · rfl
  · rfl

/-- The window after some turns of the loop. -/
def afterTurns (s : Session) (scheme : Scheme) (w : Window) (turns : List (List Event)) : Window :=
  turns.foldl (fun w events => (w.turn s scheme events).1) w

theorem keypad_afterTurns (s : Session) (scheme : Scheme) (w : Window)
    (turns : List (List Event)) :
    (w.afterTurns s scheme turns).keypad = turns.flatten.foldl strike w.keypad := by
  induction turns generalizing w with
  | nil => rfl
  | cons events turns ih =>
    have first : (w.turn s scheme events).1.keypad = events.foldl strike w.keypad := by
      rw [turn]
      exact (keypad_advance s _).trans (keypad_handleAll s w events)
    rw [List.flatten_cons, List.foldl_append, ← first]
    exact ih _

/-- The window at the moment when a frame is due: some turns have passed, and the events of the next
one are handled. -/
def due (s : Session) (scheme : Scheme) (m : Machine) (turns : List (List Event))
    (events : List Event) : Window :=
  ((afterTurns s scheme { machine := m } turns).handleAll s events).1

/-- The pad depends on the events alone, and not on what the session does. -/
theorem keypad_due (s : Session) (scheme : Scheme) (m : Machine) (turns : List (List Event))
    (events : List Event) :
    (due s scheme m turns events).keypad = (turns.flatten ++ events).foldl strike .idle := by
  rw [due, keypad_handleAll, keypad_afterTurns, List.foldl_append]

theorem strike_pressed {key : String} {k : Nibble} (known : padKey? key = some k) (p : Keypad) :
    strike p (.pressed key) = p.hold k := by
  rw [strike, known]
  rfl

theorem strike_released {key : String} {k : Nibble} (known : padKey? key = some k) (p : Keypad) :
    strike p (.released key) = p.drop k := by
  rw [strike, known]
  rfl

theorem strike_of_not_onPad {e : Event} (other : e.onPad = false) (p : Keypad) :
    strike p e = p := by
  cases e with
  | quit | other => rfl
  | pressed key | released key =>
    have unmapped : padKey? key = none := by simpa [Event.onPad] using other
    rw [strike, unmapped]
    rfl

/-- Events that are not on the pad can be left out. -/
theorem foldl_strike_filter (p : Keypad) (events : List Event) :
    (events.filter Event.onPad).foldl strike p = events.foldl strike p := by
  induction events generalizing p with
  | nil => rfl
  | cons e events ih =>
    cases kept : e.onPad with
    | true => rw [List.filter_cons_of_pos kept, List.foldl_cons, List.foldl_cons, ih]
    | false =>
      rw [List.filter_cons_of_neg (by simp [kept]), List.foldl_cons, strike_of_not_onPad kept, ih]

/-- The events of one key leave the others alone. -/
theorem isDown_strike_of_ne {name : String} {k : Nibble} (known : padKey? name = some k)
    (p : Keypad) {e : Event} (hp : e ≠ .pressed name) (hr : e ≠ .released name) :
    (strike p e).isDown k = p.isDown k := by
  cases e with
  | quit | other => rfl
  | pressed key =>
    cases found : padKey? key with
    | none => rw [strike_of_not_onPad (by simp [Event.onPad, found])]
    | some j =>
      have other : k ≠ j := by
        rintro rfl
        exact hp (congrArg _ (padKey_inj found known))
      rw [strike_pressed found, Keypad.isDown_hold_of_ne _ other]
  | released key =>
    cases found : padKey? key with
    | none => rw [strike_of_not_onPad (by simp [Event.onPad, found])]
    | some j =>
      have other : k ≠ j := by
        rintro rfl
        exact hr (congrArg _ (padKey_inj found known))
      rw [strike_released found, Keypad.isDown_drop_of_ne _ other]

theorem isDown_foldl_strike_iff {name : String} {k : Nibble} (known : padKey? name = some k)
    (p : Keypad) (events : List Event) :
    (events.foldl strike p).isDown k = true ↔
      latest (.pressed name) (.released name) events = some (.pressed name) ∨
      latest (.pressed name) (.released name) events = none ∧ p.isDown k = true := by
  have apart : Event.released name ≠ .pressed name := nofun
  refine mark_foldl_iff strike (fun p => p.isDown k) apart ?_ ?_ ?_ p events
  · intro p
    rw [strike_pressed known, Keypad.isDown_hold_self]
  · intro p
    rw [strike_released known, Keypad.isDown_drop_self]
  · intro p e hp hr
    exact isDown_strike_of_ne known p hp hr

/-- The mask after an event, kept in an integer without a bound: a key is dropped by the complement
of its bit, which is negative. -/
def maskAfter (mask : Int) : Event → Int
  | .pressed key =>
    match padKey? key with
    | some k => mask.lor (1 <<< k.val : Nat)
    | none => mask
  | .released key =>
    match padKey? key with
    | some k => mask.land (Int.lnot (1 <<< k.val : Nat))
    | none => mask
  | .quit | .other => mask

def heldMask (events : List Event) : Int := events.foldl maskAfter 0

theorem maskAfter_toNat (p : Keypad) (e : Event) :
    maskAfter p.mask.toNat e = (strike p e).mask.toNat := by
  cases e with
  | quit | other => rfl
  | pressed key =>
    cases found : padKey? key with
    | none => simp [maskAfter, strike, found]
    | some k =>
      rw [strike_pressed found, Keypad.toNat_mask_hold]
      simp only [maskAfter, found]
      rfl
  | released key =>
    cases found : padKey? key with
    | none => simp [maskAfter, strike, found]
    | some k =>
      rw [strike_released found, Keypad.toNat_mask_drop]
      simp only [maskAfter, found]
      rfl

/-- The integer stays within the sixteen bits of the pad. -/
theorem heldMask_eq (events : List Event) :
    heldMask events = (events.foldl strike .idle).mask.toNat := by
  have run (p : Keypad) :
      events.foldl maskAfter p.mask.toNat = (events.foldl strike p).mask.toNat := by
    induction events generalizing p with
    | nil => rfl
    | cons e events ih => rw [List.foldl_cons, List.foldl_cons, maskAfter_toNat, ih]
  exact run .idle

end Window

theorem wrappedWordOfInt_toNat (w : UInt16) : wrappedWordOfInt? w.toNat = some w := by
  have bound : w.toNat < 65536 := w.toNat_lt
  have fits : fitsInt32 w.toNat = true := decide_eq_true (by omega)
  have low : ((w.toNat : Int) % 65536).toNat = w.toNat := by omega
  rw [wrappedWordOfInt?, if_pos fits, low, UInt16.ofNat_toNat]

namespace Window

/-- A key of the pad is down when its key on the keyboard was last pressed. -/
theorem isDown_due_iff (s : Session) (scheme : Scheme) (m : Machine) (turns : List (List Event))
    (events : List Event) {name : String} {k : Nibble} (known : padKey? name = some k) :
    (due s scheme m turns events).keypad.isDown k = true ↔
      latest (.pressed name) (.released name) (turns.flatten ++ events) = some (.pressed name) := by
  have released : Keypad.idle.isDown k = false := Nat.zero_testBit k.val
  rw [keypad_due, isDown_foldl_strike_iff known, released]
  simp

/-- Windows that saw the same events of the pad hold the same keys, whatever else they saw. -/
theorem keypad_due_congr (s s' : Session) (scheme scheme' : Scheme) (m m' : Machine)
    {turns turns' : List (List Event)} {events events' : List Event}
    (same : (turns'.flatten ++ events').filter Event.onPad =
      (turns.flatten ++ events).filter Event.onPad) :
    (due s' scheme' m' turns' events').keypad = (due s scheme m turns events).keypad := by
  rw [keypad_due, keypad_due, ← foldl_strike_filter, same, foldl_strike_filter]

theorem heldMask_due (s : Session) (scheme : Scheme) (m : Machine) (turns : List (List Event))
    (events : List Event) :
    heldMask (turns.flatten ++ events) = (due s scheme m turns events).keypad.mask.toNat := by
  rw [heldMask_eq, keypad_due]

end Window

/-- Which keys are held. A call for a key that does not exist fails and changes nothing, any other
one succeeds; after any calls, nothing but the keypad has changed, and a key is down if the last
call for it was a press, or if there was none and it was down before.

In a window, every key of the pad has one key on the keyboard, and it is down in the mask of the
next frame if the latest event of that key was a press. The mask, kept as an integer without a
bound, stays within sixteen bits, so the frame receives it as it is. The keys that control the
window are not on the pad, and no event off the pad has any effect on the mask, nor has anything
that such events bring about. -/
theorem keys_held_by_history (m : Machine) (calls : List Keypad.Call) (s : Session)
    (scheme : Scheme) (turns : List (List Window.Event)) (events : List Window.Event) :
    (∀ (m' : Machine) (c : Keypad.Call),
      (c.key < 0 ∨ 16 ≤ c.key →
        c.attempt m'.keypad = .error ⟨c.key⟩ ∧ m'.apply c.operation = m') ∧
      (0 ≤ c.key ∧ c.key < 16 →
        ∃ p, c.attempt m'.keypad = .ok p ∧ m'.apply c.operation = { m' with keypad := p })) ∧
    (∃ p, m.applyCalls calls = { m with keypad := p } ∧ ∀ k : Nibble, p.isDown k = true ↔
      latest (.press k.val) (.release k.val) calls = some (.press k.val) ∨
      latest (.press k.val) (.release k.val) calls = none ∧ m.keypad.isDown k = true) ∧
    (∀ k, ∃! name, padKey? name = some k) ∧ (∀ key ∈ Window.controls, padKey? key = none) ∧
    let w := Window.due s scheme m turns events
    let history := turns.flatten ++ events
    (∀ name k, padKey? name = some k → (w.keypad.isDown k = true ↔
      latest (.pressed name) (.released name) history = some (.pressed name))) ∧
    (0 ≤ Window.heldMask history ∧ Window.heldMask history ≤ 65535 ∧
      wrappedWordOfInt? (Window.heldMask history) = some w.keypad.mask) ∧
    (w.paused = false → w.halted = false →
      let r := Session.frame s.perTick s.perFrame w.keypad.mask w.machine
      let v := s.judge r.machine r.fault
      (w.advance s).1 = { w with machine := v.machine, halted := v.halted }) ∧
    ∀ s' scheme' m' turns' events',
      (turns'.flatten ++ events').filter Window.Event.onPad =
        history.filter Window.Event.onPad →
      (Window.due s' scheme' m' turns' events').keypad = w.keypad := by
  refine ⟨fun m' c => ⟨fun outside => ?_, fun inside => m'.apply_call_of_inside inside⟩, ?_, ?_,
    fun key h => Window.padKey_control h, ?_⟩
  · exact ⟨Keypad.attempt_of_outside _ outside, m'.apply_call_of_outside outside⟩
  · obtain ⟨p, changed⟩ := m.exists_applyCalls_eq calls
    refine ⟨p, changed, fun k => ?_⟩
    rw [← Machine.isDown_applyCalls_iff, changed]
  · intro k
    obtain ⟨name, known⟩ := exists_padKey k
    exact ⟨name, known, fun other found => padKey_inj found known⟩
  · intro w history
    have held : Window.heldMask history = w.keypad.mask.toNat :=
      Window.heldMask_due s scheme m turns events
    have bound : w.keypad.mask.toNat < 65536 := w.keypad.mask.toNat_lt
    refine ⟨fun name k known => Window.isDown_due_iff s scheme m turns events known, ?_,
      fun active running => Window.step_frame_of_running active running,
      fun s' scheme' m' turns' events' same =>
        Window.keypad_due_congr s s' scheme scheme' m m' same⟩
    rw [held]
    exact ⟨by omega, by omega, wrappedWordOfInt_toNat _⟩

namespace Window

/-- In this turn a session is paused while a key is held. -/
def pausing : List Event := [.pressed "q", .pressed "p"]

/-- In this one it goes on with another key. -/
def resuming : List Event := [.released "q", .pressed "p", .pressed "x"]

def greenOnBlack : Scheme := ⟨[0, 255, 0], [0, 0, 0]⟩

/-- The window before the first frame that the two turns run. -/
def resumed : Window := due brokenSession greenOnBlack brokenMachine [pausing] resuming

end Window

/-- Calls on a machine of which two fail, and keys in a window that is paused for a turn. -/
theorem keys_held_by_history_of_strokes :
    Keypad.Call.attempt Window.brokenMachine.keypad (.press 16) = .error ⟨16⟩ ∧
    (∃ p, Window.brokenMachine.applyCalls
        [.press 3, .press 16, .release 3, .press (-1), .press 5] =
        { Window.brokenMachine with keypad := p } ∧
      p.isDown 5 = true ∧ ¬p.isDown 3 = true) ∧
    Window.resumed.keypad.isDown 0 = true ∧ ¬Window.resumed.keypad.isDown 4 = true ∧
    wrappedWordOfInt? 1 = some Window.resumed.keypad.mask ∧
    (∃ m halted, (Window.resumed.advance Window.brokenSession).1 =
      { Window.resumed with machine := m, halted := halted }) ∧
    (Window.due Window.brokenSession Window.greenOnBlack Window.brokenMachine []
      [.pressed "q", .pressed "ESCAPE", .released "q", .pressed "m", .pressed "x"]).keypad =
      Window.resumed.keypad := by
  obtain ⟨call, ⟨p, changed, down⟩, -, -, keys, ⟨-, -, mask⟩, frame, others⟩ :=
    keys_held_by_history Window.brokenMachine
      [.press 3, .press 16, .release 3, .press (-1), .press 5] Window.brokenSession
      Window.greenOnBlack [Window.pausing] Window.resuming
  refine ⟨((call Window.brokenMachine (.press 16)).1 (by decide)).1,
    ⟨p, changed, (down 5).mpr (.inl (by decide)), fun held => ?_⟩,
    (keys "x" 0 (by decide)).mpr (by decide),
    fun held => absurd ((keys "q" 4 (by decide)).mp held) (by decide),
    ?_, ⟨_, _, frame rfl rfl⟩, others _ _ _ [] _ (by decide)⟩
  · rcases (down 3).mp held with pressed | ⟨untouched, -⟩
    · exact absurd pressed (by decide)
    · exact absurd untouched (by decide)
  · have one : Window.heldMask ([Window.pausing].flatten ++ Window.resuming) = 1 :=
      (Window.heldMask_eq _).trans (by decide)
    rwa [one] at mask

end Chip8
