import Chip8.Proofs.Layers

/-! Overrides of single settings make up a layer in which each setting has the value of the last
override that names it. -/
namespace Chip8.Settings

open Yaml (Datum)

/-- The key of a setting in an override. -/
def Leaf.key (l : Leaf) : String :=
  if l ∈ switches then dialectKey ++ "." ++ l.name else l.name

/-- An override of a single setting. -/
structure Override where
  leaf : Leaf
  text : String

namespace Override

def written (x : Override) : String := x.leaf.key ++ "=" ++ x.text

def value? (x : Override) : Option Datum := (read x.text).toOption

/-- An override whose value can be part of a layer. -/
def Readable (x : Override) : Prop := ∃ v, read x.text = .ok v ∧ checkValue v = .ok ()

theorem Readable.isSome {x : Override} (readable : x.Readable) : x.value?.isSome := by
  obtain ⟨v, value, -⟩ := readable
  simp [value?, value, Except.toOption]

theorem split_written (x : Override) : splitOverride x.written = (x.leaf.key, some x.text) := by
  have inside : ∀ c ∈ x.leaf.key.toList, (c != '=') = true := by
    rw [← List.all_eq_true]
    cases x.leaf <;> decide +kernel
  have chars : x.written.toList = x.leaf.key.toList ++ '=' :: x.text.toList := by
    simp [written]
  simp [splitOverride, chars, List.takeWhile_append_of_pos inside,
    List.dropWhile_append_of_pos inside]

end Override

theorem path_key (l : Leaf) :
    path l.key = if l ∈ Leaf.switches then [dialectKey, l.name] else [l.name] := by
  cases l <;> decide +kernel

/-- The last override that names a setting. -/
def last? (xs : List Override) (l : Leaf) : Option Override :=
  (xs.filter fun x => x.leaf = l).getLast?

/-- The value of the last override that names a setting. -/
def lastValue? (xs : List Override) (l : Leaf) : Option Datum := (last? xs l).bind Override.value?

theorem mem_of_last? {xs : List Override} {l : Leaf} {x : Override} (last : last? xs l = some x) :
    x ∈ xs ∧ x.leaf = l := by
  simpa using List.mem_of_getLast? last

theorem lastValue?_append {xs ys : List Override} (readable : ∀ y ∈ ys, y.value?.isSome)
    (l : Leaf) :
    lastValue? (xs ++ ys) l = (lastValue? ys l).or (lastValue? xs l) := by
  unfold lastValue?
  have split : last? (xs ++ ys) l = (last? ys l).or (last? xs l) := by
    rw [last?, List.filter_append, List.getLast?_append]
    rfl
  rw [split]
  cases last : last? ys l with
  | none => rfl
  | some y =>
    obtain ⟨v, value⟩ := Option.isSome_iff_exists.mp (readable y (mem_of_last? last).1)
    simp [value]

theorem lastValue?_cons {x : Override} {xs : List Override} (readable : ∀ y ∈ xs, y.value?.isSome)
    (l : Leaf) :
    lastValue? (x :: xs) l = (lastValue? xs l).or (if x.leaf = l then x.value? else none) := by
  have first : lastValue? [x] l = if x.leaf = l then x.value? else none := by
    by_cases same : x.leaf = l <;> simp [lastValue?, last?, same]
  rw [← first, ← lastValue?_append readable]
  rfl

/-! The layer of overrides. -/

/-- Entries of a layer that hold the given values and no more. The group of switches is there only
if one of them has a value. -/
structure Holds (given : Leaf → Option Datum) (es : List (Datum × Datum)) : Prop where
  tidy : Tidy es
  known : ∀ e ∈ es, Draft.Known e
  values : ∀ l : Leaf, l.find? es = given l
  group : ∀ v, lookup dialectKey es = some v →
    ∃ inner, v = .map inner ∧ ∃ l ∈ Leaf.switches, (given l).isSome

theorem holds_nil : Holds (fun _ => none) [] where
  tidy := tidy_nil
  known := nofun
  values := fun l => by simp [Leaf.find?, lookup_nil]
  group := nofun

/-- Values with one of them replaced. -/
def replacing (given : Leaf → Option Datum) (l : Leaf) (v : Datum) (k : Leaf) : Option Datum :=
  if k = l then some v else given k

section Step

variable {given : Leaf → Option Datum} {es : List (Datum × Datum)} {l : Leaf} {v : Datum}

theorem Holds.assign_plain (holds : Holds given es) (member : l ∉ Leaf.switches)
    (orderly : Orderly v) : Holds (replacing given l v) (assign l.name v es) where
  tidy := by
    refine ⟨distinct_assign holds.tidy.distinct _ _, fun e inside => ?_⟩
    obtain old | rfl := mem_assign inside
    · exact holds.tidy.inner e old
    · exact orderly
  known := by
    intro e inside
    obtain old | rfl := mem_assign inside
    · exact holds.known e old
    · exact .inl ⟨l, Leaf.mem_plain_iff.mpr member, rfl⟩
  values := by
    intro k
    have before := holds.values k
    by_cases switch : k ∈ Leaf.switches
    · have other : k ≠ l := fun same => member (same ▸ switch)
      simpa [Leaf.find?, switch, lookup_assign, l.name_ne_dialectKey, replacing, other] using before
    · by_cases same : k = l
      · simp [Leaf.find?, lookup_assign, replacing, same, member]
      · have other := Leaf.name_ne same
        simpa [Leaf.find?, switch, lookup_assign, other, replacing, same] using before
  group := by
    intro w found
    rw [lookup_assign, if_neg l.name_ne_dialectKey] at found
    obtain ⟨inner, rfl, k, switch, some⟩ := holds.group w found
    have other : k ≠ l := fun same => member (same ▸ switch)
    exact ⟨inner, rfl, k, switch, by simpa [replacing, other] using some⟩

/-- The group of switches as a path goes on from it. -/
theorem Holds.step_group (holds : Holds given es) :
    ∃ inner, stepOf (lookup dialectKey es) = .ok (.map inner) ∧ Distinct inner ∧
      (∀ i ∈ inner, Draft.IsSwitch i.1) ∧
      ∀ k ∈ Leaf.switches, lookup k.name inner = given k := by
  cases found : lookup dialectKey es with
  | none =>
    refine ⟨[], rfl, List.Pairwise.nil, nofun, fun k switch => ?_⟩
    rw [← holds.values k]
    simp [Leaf.find?, switch, found, lookup_nil]
  | some w =>
    obtain ⟨inner, rfl, -⟩ := holds.group w found
    have entry := mem_of_lookup found
    refine ⟨inner, rfl, holds.tidy.inner _ entry, ?_, fun k switch => ?_⟩
    · obtain ⟨k, -, key⟩ | ⟨-, switches⟩ := holds.known _ entry
      · exact absurd (Datum.text.inj key).symm k.name_ne_dialectKey
      · exact switches inner rfl
    · rw [← holds.values k]
      simp [Leaf.find?, switch, found, Leaf.inside?]

theorem Holds.assign_switch (holds : Holds given es) (member : l ∈ Leaf.switches)
    {inner : List (Datum × Datum)} (distinct : Distinct inner)
    (known : ∀ i ∈ inner, Draft.IsSwitch i.1)
    (values : ∀ k ∈ Leaf.switches, lookup k.name inner = given k) :
    Holds (replacing given l v) (assign dialectKey (.map (assign l.name v inner)) es) where
  tidy := by
    refine ⟨distinct_assign holds.tidy.distinct _ _, fun e inside => ?_⟩
    obtain old | rfl := mem_assign inside
    · exact holds.tidy.inner e old
    · exact distinct_assign distinct _ _
  known := by
    intro e inside
    obtain old | rfl := mem_assign inside
    · exact holds.known e old
    · refine .inr ⟨rfl, ?_⟩
      intro entries same i inside
      rw [← Datum.map.inj same] at inside
      obtain old | rfl := mem_assign inside
      · exact known i old
      · exact ⟨l, member, rfl⟩
  values := by
    intro k
    by_cases switch : k ∈ Leaf.switches
    · have before := values k switch
      by_cases same : k = l
      · simp [Leaf.find?, member, lookup_assign, replacing, same, Leaf.inside?]
      · have other := Leaf.name_ne same
        simpa [Leaf.find?, switch, lookup_assign, other, replacing, same, Leaf.inside?] using before
    · have other : k ≠ l := fun same => switch (same ▸ member)
      simpa [Leaf.find?, switch, lookup_assign, k.name_ne_dialectKey.symm, replacing, other]
        using holds.values k
  group := by
    intro w found
    rw [lookup_assign, if_pos rfl] at found
    exact ⟨_, (Option.some.inj found).symm, l, member, by simp [replacing]⟩

theorem replaced_of_scalar {old : Option Datum}
    (scalar : ∀ w, old = some w → w.isCollection = false) : replaced old v = .ok v := by
  cases old with
  | none => rfl
  | some w => simp [replaced, scalar w rfl]

/-- One more override replaces the value of its setting, unless it is to be merged with another
collection. -/
theorem Holds.assignPath (holds : Holds given es) (orderly : Orderly v)
    (scalar : ∀ w, given l = some w → w.isCollection = false) :
    ∃ es', assignPath v (path l.key) (.map es) = .ok (.map es') ∧
      Holds (replacing given l v) es' := by
  by_cases member : l ∈ Leaf.switches
  · obtain ⟨inner, step, distinct, known, values⟩ := holds.step_group
    have fresh : replaced (lookup l.name inner) v = .ok v :=
      replaced_of_scalar (by rwa [values l member])
    refine ⟨_, ?_, holds.assign_switch member distinct known values⟩
    simp [path_key, member, Settings.assignPath, step, fresh, bind, Except.bind, pure, Except.pure]
  · have fresh : replaced (lookup l.name es) v = .ok v := by
      refine replaced_of_scalar ?_
      have before := holds.values l
      rw [Leaf.find?, if_neg member] at before
      rwa [before]
    refine ⟨_, ?_, holds.assign_plain member orderly⟩
    simp [path_key, member, Settings.assignPath, fresh, bind, Except.bind, pure, Except.pure]

end Step

theorem addOverride_eq_ok {x : Override} {layer layer' : Datum} :
    addOverride layer x.written = .ok layer' ↔
      ∃ v, read x.text = .ok v ∧ checkValue v = .ok () ∧
        assignPath v (path x.leaf.key) layer = .ok layer' := by
  simp only [addOverride, x.split_written, bind_eq_ok]
  constructor
  · rintro ⟨v, value, ⟨⟩, checked, assigned⟩
    exact ⟨v, value, checked, assigned⟩
  · rintro ⟨v, value, checked, assigned⟩
    exact ⟨v, value, (), checked, assigned⟩

theorem readable_of_run {xs : List Override} {layer layer' : Datum}
    (run : (xs.map Override.written).foldlM addOverride layer = .ok layer') :
    ∀ x ∈ xs, x.Readable := by
  induction xs generalizing layer with
  | nil => simp
  | cons x xs ih =>
    rw [List.map_cons, List.foldlM_cons] at run
    obtain ⟨mid, added, run⟩ := bind_eq_ok.mp run
    obtain ⟨v, value, checked, -⟩ := addOverride_eq_ok.mp added
    exact List.forall_mem_cons.mpr ⟨⟨v, value, checked⟩, ih run⟩

theorem Holds.add {given : Leaf → Option Datum} {es : List (Datum × Datum)}
    (holds : Holds given es) {x : Override} {v : Datum} (value : read x.text = .ok v)
    (checked : checkValue v = .ok ())
    (scalar : ∀ w, given x.leaf = some w → w.isCollection = false) :
    ∃ es', addOverride (.map es) x.written = .ok (.map es') ∧
      Holds (replacing given x.leaf v) es' := by
  obtain ⟨es', assigned, holds'⟩ := holds.assignPath (orderly_read value) scalar
  exact ⟨es', addOverride_eq_ok.mpr ⟨v, value, checked, assigned⟩, holds'⟩

/-- Of two overrides for one setting the earlier one is no collection, so that the later one takes
its place as a whole. -/
def Flat (xs : List Override) : Prop :=
  xs.Pairwise fun x y => x.leaf = y.leaf → ∀ v, read x.text = .ok v → v.isCollection = false

/-- The run over overrides: each setting has the value of the last one that names it, and behind it
the value that was there before. -/
theorem Holds.run {xs : List Override} (readable : ∀ x ∈ xs, x.Readable) (flat : Flat xs)
    {given : Leaf → Option Datum} {es : List (Datum × Datum)} (holds : Holds given es)
    (scalar : ∀ x ∈ xs, ∀ w, given x.leaf = some w → w.isCollection = false) :
    ∃ es', (xs.map Override.written).foldlM addOverride (.map es) = .ok (.map es') ∧
      Holds (fun l => (lastValue? xs l).or (given l)) es' := by
  induction xs generalizing given es with
  | nil => exact ⟨es, rfl, holds⟩
  | cons x xs ih =>
    obtain ⟨⟨v, value, checked⟩, readable⟩ := List.forall_mem_cons.mp readable
    obtain ⟨first, scalar⟩ := List.forall_mem_cons.mp scalar
    obtain ⟨apart, flat⟩ := List.pairwise_cons.mp flat
    obtain ⟨mid, added, holds⟩ := holds.add value checked first
    have later : ∀ y ∈ xs, ∀ w, replacing given x.leaf v y.leaf = some w →
        w.isCollection = false := by
      intro y member w found
      unfold replacing at found
      split at found
      · rename_i same
        obtain rfl := Option.some.inj found
        exact apart y member same.symm v value
      · exact scalar y member w found
    obtain ⟨es', run, holds⟩ := ih readable flat holds later
    refine ⟨es', bind_eq_ok.mpr ⟨_, added, run⟩, ?_⟩
    have values : (fun l => (lastValue? (x :: xs) l).or (given l)) =
        fun l => (lastValue? xs l).or (replacing given x.leaf v l) := by
      funext l
      rw [lastValue?_cons fun y member => (readable y member).isSome]
      by_cases same : x.leaf = l
      · simp [replacing, same, Override.value?, value, Except.toOption]
      · simp [replacing, same, Ne.symm same]
    rw [values]
    exact holds

/-- The entries of overrides that can be read. -/
theorem overrideEntries_of_readable {xs : List Override} (flat : Flat xs)
    (readable : ∀ x ∈ xs, x.Readable) :
    ∃ es, overrideEntries (xs.map Override.written) = .ok es ∧ Holds (lastValue? xs) es := by
  obtain ⟨es, run, holds⟩ := Holds.run readable flat holds_nil nofun
  refine ⟨es, bind_eq_ok.mpr ⟨_, run, rfl⟩, ?_⟩
  simpa using holds

theorem readable_of_overrideEntries {xs : List Override} {es : List (Datum × Datum)}
    (entries : overrideEntries (xs.map Override.written) = .ok es) : ∀ x ∈ xs, x.Readable := by
  obtain ⟨layer, run, -⟩ := bind_eq_ok.mp entries
  exact readable_of_run run

/-- A value for any of the switches leaves no text that stands for all of them. -/
theorem Holds.dialectOver_eq {given : Leaf → Option Datum} {es : List (Datum × Datum)}
    (holds : Holds given es) (old : Option String) :
    Draft.dialectOver old (lookup dialectKey es) =
      .ok (if ∃ l ∈ Leaf.switches, (given l).isSome then none else old) := by
  cases found : lookup dialectKey es with
  | none =>
    have nothing : ¬∃ l ∈ Leaf.switches, (given l).isSome := by
      rintro ⟨l, member, some⟩
      rw [← holds.values l, Leaf.find?, if_pos member, found] at some
      contradiction
    rw [if_neg nothing]
    rfl
  | some v =>
    obtain ⟨inner, rfl, valued⟩ := holds.group v found
    rw [if_pos valued]
    rfl

/-- What overrides do to a draft depends only on the values that they hold. -/
theorem Holds.merge_eq_ok {given : Leaf → Option Datum} {es : List (Datum × Datum)}
    (holds : Holds given es) {d d' : Draft} (hidden : d.Hidden) :
    d.merge es = .ok d' ↔
      Updates given d.get d'.get ∧
        (if ∃ l ∈ Leaf.switches, (given l).isSome then none else d.dialect) = d'.dialect := by
  have values : (fun l : Leaf => l.find? es) = given := funext holds.values
  rw [Draft.merge_eq_ok holds.tidy fun _ => hidden, values, holds.dialectOver_eq, Except.ok.injEq]
  exact and_iff_right holds.known

end Chip8.Settings
