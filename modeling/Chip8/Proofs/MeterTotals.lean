import Chip8.Progress
import Mathlib.Algebra.Ring.Int.Defs

/-! The account of a progress meter. Over a whole loop it opens first, advances by exactly the
length of the loop, and closes last; on the way it never runs ahead of the iterations done. A loop
that cannot count to its last iteration, or to the length of a step, is not watched at all. -/
namespace Chip8.Meter

/-- How far an event moves the meter. -/
def Event.length : Event → Int
  | opened => 0
  | advanced steps => steps
  | closed => 0

def progress (es : List Event) : Int := (es.map Event.length).sum

theorem one_le_rate (total : Int) (rate : Option Int) (label : Option String) :
    1 ≤ (create total rate label).rate := Int.le_max_left _ _

section Loop

variable {m : Meter}

/-- The steps of iteration `i`: none, a regular one, or the last one. -/
def stepsAt (m : Meter) (i : Nat) : List Int :=
  if (i : Int) + 1 = m.total then [m.tail]
  else if ((i : Int) + 1) % m.rate = 0 then [m.rate] else []

/-- All events of iteration `i`, when every iteration before it has been reported. -/
def eventsAt (m : Meter) (i : Nat) : List Event :=
  (if i = 0 then [.opened] else []) ++ (m.stepsAt i).map .advanced ++
    if (i : Int) + 1 = m.total then [.closed] else []

/-- The meter is open from the first iteration on, and closed behind the last. -/
theorem update_eq {i : Nat} (inside : (i : Int) < m.total) :
    m.update (decide (0 < i)) i = (m.eventsAt i, decide ((i : Int) + 1 < m.total)) := by
  have always : (decide (0 < i) || i == 0) = true := by
    cases i <;> simp
  have last : decide ((i : Int) = m.total - 1) = decide ((i : Int) + 1 = m.total) := by
    rw [decide_eq_decide]
    omega
  by_cases ends : (i : Int) + 1 = m.total
  · have later : ¬(i : Int) + 1 < m.total := by omega
    simp [update, eventsAt, stepsAt, always, last, ends]
  · have later : (i : Int) + 1 < m.total := by omega
    by_cases due : ((i : Int) + 1) % m.rate = 0 <;>
      simp [update, eventsAt, stepsAt, always, last, ends, due, later]

theorem eventsFrom_eq {i n : Nat} (inside : ((i + n : Nat) : Int) ≤ m.total) :
    m.eventsFrom (decide (0 < i)) i n = (List.range' i n).flatMap m.eventsAt := by
  induction n generalizing i with
  | zero => rfl
  | succ n ih =>
    rw [eventsFrom, update_eq (by omega), List.range'_succ, List.flatMap_cons]
    cases n with
    | zero => rfl
    | succ n =>
      have more : decide ((i : Int) + 1 < m.total) = decide (0 < i + 1) := by
        rw [decide_eq_decide]
        omega
      simp only [more]
      rw [ih (by omega)]

theorem events_eq {n : Nat} (inside : (n : Int) ≤ m.total) :
    m.events n = (List.range n).flatMap m.eventsAt := by
  rw [List.range_eq_range']
  exact eventsFrom_eq (i := 0) (by omega)

theorem events_succ {n : Nat} (inside : (n : Int) < m.total) :
    m.events (n + 1) = m.events n ++ m.eventsAt n := by
  rw [events_eq (by omega), events_eq (by omega), List.range_succ, List.flatMap_append,
    List.flatMap_singleton]

theorem events_isPrefix {n k : Nat} (inside : ((n + k : Nat) : Int) ≤ m.total) :
    m.events n <+: m.events (n + k) := by
  rw [events_eq (by omega), events_eq inside, List.range_add, List.flatMap_append]
  exact List.prefix_append _ _

/-- Behind the opening there are only steps, up to the last iteration. -/
theorem events_open {n : Nat} (inside : ((n + 1 : Nat) : Int) < m.total) :
    m.events (n + 1) =
      .opened :: ((List.range (n + 1)).flatMap m.stepsAt).map .advanced := by
  induction n with
  | zero =>
    have more : ¬(1 : Int) = m.total := by omega
    simp [events_eq (m := m) (n := 1) (by omega), eventsAt, more]
  | succ n ih =>
    have more : ¬((n + 1 : Nat) : Int) + 1 = m.total := by omega
    rw [events_succ (by omega), ih (by omega), List.range_succ (n := n + 1), List.flatMap_append,
      List.map_append, eventsAt, if_neg more]
    simp

theorem events_all {n : Nat} (whole : ((n + 1 : Nat) : Int) = m.total) :
    m.events (n + 1) =
      .opened :: ((List.range (n + 1)).flatMap m.stepsAt).map .advanced ++ [.closed] := by
  have ends : (n : Int) + 1 = m.total := by omega
  rw [events_succ (by omega), List.range_succ, eventsAt, if_pos ends]
  cases n with
  | zero => simp [events, eventsFrom]
  | succ n =>
    rw [events_open (by omega)]
    simp

/-- The next remainder is one more, or zero behind the last one. -/
theorem emod_succ {r : Int} (positive : 1 ≤ r) (a : Int) :
    a % r + 1 = r ∧ (a + 1) % r = 0 ∨ a % r + 1 < r ∧ (a + 1) % r = a % r + 1 := by
  have low := Int.emod_nonneg a (b := r) (by omega)
  have high := Int.emod_lt_of_pos a (b := r) (by omega)
  have next : (a + 1) % r = (a % r + 1) % r := (Int.emod_add_emod a r 1).symm
  by_cases full : a % r + 1 = r
  · exact .inl ⟨full, by rw [next, full, Int.emod_self]⟩
  · exact .inr ⟨by omega, by rw [next, Int.emod_eq_of_lt (by omega) (by omega)]⟩

/-- Before the last iteration the meter stands at a multiple of the step. -/
theorem sum_steps {n : Nat} (positive : 1 ≤ m.rate) (inside : (n : Int) < m.total) :
    ((List.range n).flatMap m.stepsAt).sum = n - n % m.rate := by
  induction n with
  | zero => simp
  | succ n ih =>
    have more : ¬(n : Int) + 1 = m.total := by omega
    rw [List.range_succ, List.flatMap_append, List.sum_append, ih (by omega),
      List.flatMap_singleton, stepsAt, if_neg more]
    have count : ((n + 1 : Nat) : Int) = n + 1 := rfl
    obtain ⟨full, next⟩ | ⟨_, next⟩ := emod_succ positive n
    · rw [if_pos next, List.sum_singleton, count, next]
      omega
    · have low := Int.emod_nonneg (n : Int) (b := m.rate) (by omega)
      rw [count, next, if_neg (by omega), List.sum_nil]
      omega

/-- The last step makes up for what the others have left. -/
theorem sum_all {n : Nat} (positive : 1 ≤ m.rate) (whole : ((n + 1 : Nat) : Int) = m.total) :
    ((List.range (n + 1)).flatMap m.stepsAt).sum = m.total := by
  have ends : (n : Int) + 1 = m.total := by omega
  rw [List.range_succ, List.flatMap_append, List.sum_append, sum_steps positive (by omega),
    List.flatMap_singleton, stepsAt, if_pos ends, List.sum_singleton, tail, ← ends]
  obtain ⟨full, next⟩ | ⟨_, next⟩ := emod_succ positive n
  · rw [if_pos next]
    omega
  · have low := Int.emod_nonneg (n : Int) (b := m.rate) (by omega)
    rw [next, if_neg (by omega)]
    omega

end Loop

theorem progress_opened (steps : List Int) :
    progress (.opened :: steps.map .advanced) = steps.sum := by
  simp [progress, Function.comp_def, Event.length]

theorem progress_closed (es : List Event) : progress (es ++ [.closed]) = progress es := by
  simp [progress, Event.length]

theorem closed_not_mem (steps : List Int) : .closed ∉ Event.opened :: steps.map .advanced := by
  simp

/-- A loop that can be counted is watched from its first iteration to its last. -/
theorem meter_adds_up {total : Int} (positive : 1 ≤ total) (rate : Option Int)
    (label : Option String) (countable : (create total rate label).isCountable = true) :
    ∃ steps : List Int,
      (create total rate label).trace? total.toNat =
        some (.opened :: steps.map .advanced ++ [.closed]) ∧
      steps.sum = total ∧
      ∀ i : Nat, (i : Int) < total → ∃ es,
        (create total rate label).trace? (i + 1) = some es ∧
        es <+: .opened :: steps.map .advanced ++ [.closed] ∧
        (.closed ∈ es ↔ (i : Int) + 1 = total) ∧ progress es ≤ i + 1 := by
  obtain ⟨n, length⟩ : ∃ n : Nat, total = ((n + 1 : Nat) : Int) :=
    ⟨total.toNat - 1, by omega⟩
  have step := one_le_rate total rate label
  generalize made : create total rate label = m at *
  have whole : ((n + 1 : Nat) : Int) = m.total := by rw [← length, ← made]; rfl
  have traced (k : Nat) : m.trace? k = some (m.events k) := by rw [trace?, if_pos countable]
  refine ⟨(List.range (n + 1)).flatMap m.stepsAt, ?_, ?_, fun i inside => ?_⟩
  · rw [traced, length, Int.toNat_natCast, events_all whole]
  · rw [sum_all step whole, ← whole, length]
  · refine ⟨_, traced _, ?_, ?_⟩
    · obtain ⟨k, rest⟩ : ∃ k, n + 1 = i + 1 + k := ⟨n - i, by omega⟩
      rw [← events_all whole, rest]
      exact events_isPrefix (by omega)
    · by_cases last : i = n
      · subst last
        rw [events_all whole, progress_closed, progress_opened, sum_all step whole]
        exact ⟨by simp [length], by omega⟩
      · have low := Int.emod_nonneg ((i + 1 : Nat) : Int) (b := m.rate) (by omega)
        have sum := sum_steps (m := m) (n := i + 1) step (by omega)
        rw [events_open (by omega), progress_opened]
        refine ⟨⟨fun member => absurd member (closed_not_mem _), by omega⟩, by omega⟩

theorem meter_adds_up_over_seven :
    1 ≤ (7 : Int) ∧ (create 7 (some 3) none).isCountable = true ∧
      ∃ steps : List Int,
        (create 7 (some 3) none).trace? 7 = some (.opened :: steps.map .advanced ++ [.closed]) ∧
        steps = [3, 3, 1] ∧ steps.sum = 7 := by
  have countable : (create 7 (some 3) none).isCountable = true := by decide +kernel
  obtain ⟨steps, traced, sum, -⟩ := meter_adds_up (by decide) (some 3) none countable
  have shown : (create 7 (some 3) none).trace? 7 =
      some (.opened :: [3, 3, 1].map .advanced ++ [.closed]) := by decide +kernel
  have same : steps = [3, 3, 1] := by
    have bracketed := Option.some.inj (traced.symm.trans shown)
    have inside := List.append_inj_left' bracketed rfl
    exact (List.map_inj_right fun _ _ => Event.advanced.inj).mp (List.cons.inj inside).2
  exact ⟨by decide, countable, steps, traced, same, sum⟩

/-- A loop of which every iteration can be counted, but not the step: it breaks off before the
meter opens. -/
theorem step_beyond_count_breaks_off :
    let m := create 2147483648 (some 2147483648) none
    1 ≤ m.total ∧ fitsInt32 (m.total - 1) = true ∧ m.trace? 1 = none ∧
      m.trace? m.total.toNat = none := by
  decide +kernel

end Chip8.Meter
