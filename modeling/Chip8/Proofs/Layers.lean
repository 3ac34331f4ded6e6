import Chip8.Proofs.Entries

/-! What a layer does to a draft, one setting at a time. A layer names no key twice, so its entries
touch different settings, and each setting depends only on what the layer says of it. -/
namespace Chip8.Settings

open Yaml (Datum)

/-- What a layer gives, unless it is still to be given. -/
def settled? (given : Option Datum) : Option Datum := given.filter fun v => !isPending v

namespace Leaf

theorem mem_plain_iff {l : Leaf} : l ∈ plain ↔ l ∉ switches := by
  cases l <;> decide

theorem name_injective {l k : Leaf} (same : l.name = k.name) : l = k := by
  have found (l : Leaf) : (plain ++ switches).find? (fun k => k.name == l.name) = some l := by
    cases l <;> decide +kernel
  have agree := found l
  rw [same, found k] at agree
  exact (Option.some.inj agree).symm

theorem name_ne {l k : Leaf} (other : k ≠ l) : l.name ≠ k.name :=
  fun same => other (name_injective same).symm

theorem name_ne_dialectKey (l : Leaf) : l.name ≠ dialectKey := by
  cases l <;> decide +kernel

theorem plain?_eq_some {name : String} {l : Leaf} :
    plain? name = some l ↔ l ∈ plain ∧ l.name = name := by
  constructor
  · intro found
    exact ⟨List.mem_of_find?_eq_some found, by simpa using List.find?_some found⟩
  · rintro ⟨member, rfl⟩
    exact (by decide +kernel : ∀ l ∈ plain, plain? l.name = some l) l member

theorem switch?_eq_some {name : String} {l : Leaf} :
    switch? name = some l ↔ l ∈ switches ∧ l.name = name := by
  constructor
  · intro found
    exact ⟨List.mem_of_find?_eq_some found, by simpa using List.find?_some found⟩
  · rintro ⟨member, rfl⟩
    exact (by decide +kernel : ∀ l ∈ switches, switch? l.name = some l) l member

/-- What a setting holds of a value: a text with references as it is, and anything else as a value
of its own type. -/
def store (l : Leaf) (value : Datum) : Except LoadError Datum :=
  if (template? value).isSome then .ok value else l.type.convert value

/-- What a setting holds after a layer that may give it a value. -/
def update (l : Leaf) (old : Datum) (given : Option Datum) : Except LoadError Datum :=
  match settled? given with
  | none => .ok old
  | some value => l.store value

@[simp] theorem update_none (l : Leaf) (old : Datum) : l.update old none = .ok old := rfl

theorem update_or {l : Leaf} {x y : Option Datum} (apart : x = none ∨ y = none)
    {old new : Datum} :
    l.update old (x.or y) = .ok new ↔
      ∃ mid, l.update old x = .ok mid ∧ l.update mid y = .ok new := by
  obtain rfl | rfl := apart
  · simp
  · simp

/-- The value of a name in a map. -/
def inside? (name : String) : Datum → Option Datum
  | .map entries => lookup name entries
  | _ => none

/-- The value of a setting in the entries of a layer. -/
def find? (l : Leaf) (entries : List (Datum × Datum)) : Option Datum :=
  if l ∈ switches then (lookup dialectKey entries).bind (inside? l.name)
  else lookup l.name entries

end Leaf

/-- From one state of all settings to the next, each goes by what is given for it. -/
def Updates (given : Leaf → Option Datum) (a b : Leaf → Datum) : Prop :=
  ∀ l : Leaf, l.update (a l) (given l) = .ok (b l)

theorem updates_none {a b : Leaf → Datum} : Updates (fun _ => none) a b ↔ a = b := by
  simp only [Updates, Leaf.update_none, Except.ok.injEq]
  exact ⟨funext, fun same l => congrFun same l⟩

/-- Updates of different settings, one after the other. -/
theorem updates_or {f g : Leaf → Option Datum} (apart : ∀ l, f l = none ∨ g l = none)
    {a c : Leaf → Datum} :
    Updates (fun l => (f l).or (g l)) a c ↔ ∃ b, Updates f a b ∧ Updates g b c := by
  have split : Updates (fun l => (f l).or (g l)) a c ↔
      ∀ l : Leaf, ∃ b, l.update (a l) (f l) = .ok b ∧ l.update b (g l) = .ok (c l) :=
    forall_congr' fun l => Leaf.update_or (apart l)
  rw [split, Classical.skolem]
  exact exists_congr fun b => forall_and

/-- One value, for one setting. -/
def only (l : Leaf) (value : Datum) (k : Leaf) : Option Datum := if k = l then some value else none

namespace Draft

theorem ext_iff {d e : Draft} : d = e ↔ d.get = e.get ∧ d.dialect = e.dialect := by
  cases d
  cases e
  simp

theorem set_get (d : Draft) (l : Leaf) : d.set l (d.get l) = d := by
  refine ext_iff.mpr ⟨funext fun k => ?_, rfl⟩
  by_cases same : k = l <;> simp [set, same]

theorem put_eq (d : Draft) (l : Leaf) (value : Datum) :
    d.put l value = (l.update (d.get l) (some value)).map (d.set l) := by
  by_cases pending : isPending value = true
  · simp [put, Leaf.update, settled?, Option.filter_some, pending, Except.map, set_get]
  · by_cases template : (template? value).isSome = true <;>
      simp [put, Leaf.update, settled?, Option.filter_some, Leaf.store, pending, template,
        Except.map]

theorem put_eq_ok {d d' : Draft} {l : Leaf} {value : Datum} :
    d.put l value = .ok d' ↔ Updates (only l value) d.get d'.get ∧ d'.dialect = d.dialect := by
  rw [put_eq, map_eq_ok]
  constructor
  · rintro ⟨w, updated, rfl⟩
    refine ⟨fun k => ?_, rfl⟩
    by_cases same : k = l
    · subst same
      simpa [only, set] using updated
    · simp [only, set, same]
  · rintro ⟨updates, same⟩
    refine ⟨d'.get l, by simpa [only] using updates l, ext_iff.mpr ⟨funext fun k => ?_, same.symm⟩⟩
    by_cases here : k = l
    · simp [set, here]
    · simpa [set, here, only] using updates k

/-! Switches. -/

/-- A key that names one of the switches. -/
def IsSwitch (key : Datum) : Prop := ∃ l ∈ Leaf.switches, key = .text l.name

theorem putSwitch_eq_ok {d d' : Draft} {e : Datum × Datum} :
    d.putSwitch e = .ok d' ↔
      ∃ l ∈ Leaf.switches, e.1 = .text l.name ∧ d.put l e.2 = .ok d' := by
  constructor
  · intro done
    unfold putSwitch at done
    split at done
    · split at done
      · rename_i found
        obtain ⟨member, rfl⟩ := Leaf.switch?_eq_some.mp found
        exact ⟨_, member, rfl, done⟩
      · contradiction
    · contradiction
  · rintro ⟨l, member, key, done⟩
    obtain ⟨k, v⟩ := e
    obtain rfl : k = .text l.name := key
    rw [putSwitch, Leaf.switch?_eq_some.mpr ⟨member, rfl⟩]
    exact done

/-- The values of the switches in the entries of their group. -/
def switchIn (entries : List (Datum × Datum)) (l : Leaf) : Option Datum :=
  if l ∈ Leaf.switches then lookup l.name entries else none

theorem switchIn_cons {l : Leaf} (member : l ∈ Leaf.switches) (v : Datum)
    (es : List (Datum × Datum)) :
    switchIn ((.text l.name, v) :: es) = fun k => (only l v k).or (switchIn es k) := by
  funext k
  by_cases same : k = l
  · simp [switchIn, only, same, member, lookup_cons_text]
  · simp [switchIn, only, same, lookup_cons_text, Leaf.name_ne same]

/-- A group of switches is merged one switch at a time. -/
theorem putSwitches_eq_ok {es : List (Datum × Datum)} (distinct : Distinct es) {d d' : Draft} :
    es.foldlM putSwitch d = .ok d' ↔
      (∀ e ∈ es, IsSwitch e.1) ∧ Updates (switchIn es) d.get d'.get ∧ d'.dialect = d.dialect := by
  induction es generalizing d with
  | nil =>
    have nothing : switchIn [] = fun _ => none := by
      funext l
      simp [switchIn, lookup_nil]
    rw [nothing, updates_none, List.foldlM_nil, pure_eq_ok, ext_iff]
    simp [eq_comm]
  | cons e es ih =>
    obtain ⟨key, v⟩ := e
    have apart {l : Leaf} (same : key = .text l.name) (k : Leaf) :
        only l v k = none ∨ switchIn es k = none := by
      by_cases here : k = l
      · subst here same
        simp [switchIn, distinct.lookup_tail]
      · simp [only, here]
    rw [List.foldlM_cons, bind_eq_ok, List.forall_mem_cons]
    constructor
    · rintro ⟨mid, first, rest⟩
      obtain ⟨l, member, rfl, done⟩ := putSwitch_eq_ok.mp first
      obtain ⟨updates, same⟩ := put_eq_ok.mp done
      obtain ⟨known, others, same'⟩ := (ih distinct.tail).mp rest
      rw [switchIn_cons member, updates_or (apart rfl)]
      exact ⟨⟨⟨l, member, rfl⟩, known⟩, ⟨_, updates, others⟩, same'.trans same⟩
    · rintro ⟨⟨⟨l, member, rfl⟩, known⟩, updates, same⟩
      rw [switchIn_cons member, updates_or (apart rfl)] at updates
      obtain ⟨mid, first, others⟩ := updates
      exact ⟨⟨mid, d.dialect⟩, putSwitch_eq_ok.mpr ⟨l, member, rfl, put_eq_ok.mpr ⟨first, rfl⟩⟩,
        (ih distinct.tail).mpr ⟨known, others, same⟩⟩

/-- Behind a text that stands for all switches they are as they are by default. -/
def Hidden (d : Draft) : Prop :=
  d.dialect.isSome → ∀ l ∈ Leaf.switches, d.get l = Leaf.of {} l

theorem hidden_of (s : Settings) : (Draft.of s).Hidden :=
  fun replaced => absurd replaced Bool.false_ne_true

theorem expanded_of_hidden {d : Draft} (hidden : d.Hidden) :
    d.expanded = { d with dialect := none } := by
  have unchanged (ls : List Leaf) (d : Draft) (same : ∀ l ∈ ls, d.get l = Leaf.of {} l) :
      ls.foldl (fun d l => d.set l (Leaf.of {} l)) d = d := by
    induction ls with
    | nil => rfl
    | cons l ls ih =>
      obtain ⟨here, same⟩ := List.forall_mem_cons.mp same
      rw [List.foldl_cons, ← here, set_get, ih same]
  unfold expanded
  split
  · rename_i replaced
    exact unchanged _ _ (hidden replaced)
  · rename_i plain
    exact ext_iff.mpr ⟨rfl, by simpa using plain⟩

/-- The text that stands for all switches after a layer that may say something of them. -/
def dialectOver (old : Option String) : Option Datum → Except LoadError (Option String)
  | none => .ok old
  | some (.map _) => .ok none
  | some value =>
    if isPending value then .ok old
    else
      match template? value with
      | some s => .ok (some s)
      | none => .error .mistyped

theorem putDialect_eq_ok {d d' : Draft} (hidden : d.Hidden) {v : Datum} (orderly : Orderly v) :
    d.putDialect v = .ok d' ↔
      (∀ inner, v = .map inner → ∀ e ∈ inner, IsSwitch e.1) ∧
      Updates (fun l => l.find? [(.text dialectKey, v)]) d.get d'.get ∧
      dialectOver d.dialect (some v) = .ok d'.dialect := by
  have found (l : Leaf) : l.find? [(.text dialectKey, v)] =
      if l ∈ Leaf.switches then Leaf.inside? l.name v else none := by
    have other := (Leaf.name_ne_dialectKey l).symm
    by_cases member : l ∈ Leaf.switches
    · simp [Leaf.find?, member, lookup_cons_text]
    · simp [Leaf.find?, member, lookup_cons_text, other, lookup_nil]
  simp only [found]
  cases v with
  | map inner =>
    rw [putDialect, expanded_of_hidden hidden, putSwitches_eq_ok orderly]
    simp [dialectOver, Leaf.inside?, switchIn, Updates, eq_comm]
  | text s =>
    by_cases pending : isPending (.text s) = true
    · simp [putDialect, dialectOver, Leaf.inside?, updates_none, ext_iff, pending]
    · cases template : template? (.text s) <;>
        simp [putDialect, dialectOver, Leaf.inside?, updates_none, ext_iff, pending, template]
  | _ => simp [putDialect, dialectOver, isPending, template?]

/-! Layers. -/

/-- An entry of a layer whose key, with those inside, names something that there is. -/
def Known (e : Datum × Datum) : Prop :=
  (∃ l ∈ Leaf.plain, e.1 = .text l.name) ∨
    e.1 = .text dialectKey ∧ ∀ inner, e.2 = .map inner → ∀ i ∈ inner, IsSwitch i.1

theorem find?_plain {l : Leaf} (member : l ∈ Leaf.plain) (v : Datum) :
    (fun k : Leaf => k.find? [(.text l.name, v)]) = only l v := by
  funext k
  by_cases same : k = l
  · subst same
    simp [Leaf.find?, only, Leaf.mem_plain_iff.mp member, lookup_cons_text]
  · have other := Leaf.name_ne same
    by_cases switch : k ∈ Leaf.switches
    · simp [Leaf.find?, only, same, switch, lookup_cons_text, l.name_ne_dialectKey, lookup_nil]
    · simp [Leaf.find?, only, same, switch, lookup_cons_text, other, lookup_nil]

theorem putEntry_plain {l : Leaf} (member : l ∈ Leaf.plain) (d : Draft) (v : Datum) :
    d.putEntry (.text l.name, v) = d.put l v := by
  rw [putEntry, if_neg l.name_ne_dialectKey, Leaf.plain?_eq_some.mpr ⟨member, rfl⟩]

theorem putEntry_dialect (d : Draft) (v : Datum) :
    d.putEntry (.text dialectKey, v) = d.putDialect v := by
  rw [putEntry, if_pos rfl]

/-- What an entry is that can be merged. -/
theorem putEntry_cases {d d' : Draft} {e : Datum × Datum} (done : d.putEntry e = .ok d') :
    (∃ l ∈ Leaf.plain, e.1 = .text l.name) ∨ e.1 = .text dialectKey := by
  unfold putEntry at done
  split at done
  · split at done
    · rename_i same
      exact .inr (congrArg _ same)
    · split at done
      · rename_i found
        obtain ⟨member, rfl⟩ := Leaf.plain?_eq_some.mp found
        exact .inl ⟨_, member, rfl⟩
      · contradiction
  · contradiction

theorem putEntry_eq_ok {d d' : Draft} {e : Datum × Datum} (orderly : Orderly e.2)
    (hidden : (lookup dialectKey [e]).isSome → d.Hidden) :
    d.putEntry e = .ok d' ↔
      Known e ∧ Updates (fun l => l.find? [e]) d.get d'.get ∧
        dialectOver d.dialect (lookup dialectKey [e]) = .ok d'.dialect := by
  obtain ⟨key, v⟩ := e
  by_cases plain : ∃ l ∈ Leaf.plain, key = .text l.name
  · obtain ⟨l, member, rfl⟩ := plain
    have other := l.name_ne_dialectKey
    have known : Known (.text l.name, v) := .inl ⟨l, member, rfl⟩
    rw [putEntry_plain member, put_eq_ok, find?_plain member]
    simp [known, lookup_cons_text, other, lookup_nil, dialectOver, eq_comm]
  · by_cases dialect : key = .text dialectKey
    · subst dialect
      have found : lookup dialectKey [(.text dialectKey, v)] = some v := by
        simp [lookup_cons_text]
      have known : Known (.text dialectKey, v) ↔
          ∀ inner, v = .map inner → ∀ i ∈ inner, IsSwitch i.1 :=
        (or_iff_right plain).trans (and_iff_right rfl)
      rw [putEntry_dialect, putDialect_eq_ok (hidden (by simp [found])) orderly, found, known]
    · constructor
      · intro done
        obtain other | other := putEntry_cases done
        · exact absurd other plain
        · exact absurd other dialect
      · rintro ⟨other | ⟨other, -⟩, -, -⟩
        · exact absurd other plain
        · exact absurd other dialect

theorem lookup_apart {e : Datum × Datum} {es : List (Datum × Datum)} (distinct : Distinct (e :: es))
    (name : String) : lookup name [e] = none ∨ lookup name es = none := by
  obtain ⟨key, v⟩ := e
  by_cases here : isKey name key = true
  · obtain rfl := isKey_iff.mp here
    exact .inr distinct.lookup_tail
  · simp [lookup_cons, here, lookup_nil]

theorem find?_cons {e : Datum × Datum} {es : List (Datum × Datum)} (distinct : Distinct (e :: es))
    (l : Leaf) :
    (l.find? [e] = none ∨ l.find? es = none) ∧
      l.find? (e :: es) = (l.find? [e]).or (l.find? es) := by
  have split (name : String) : lookup name (e :: es) = (lookup name [e]).or (lookup name es) :=
    lookup_append name [e] es
  by_cases switch : l ∈ Leaf.switches
  · obtain free | free := lookup_apart distinct dialectKey <;>
      simp [Leaf.find?, switch, split, free]
  · obtain free | free := lookup_apart distinct l.name <;> simp [Leaf.find?, switch, split, free]

theorem dialectOver_or {old new : Option String} {x y : Option Datum}
    (apart : x = none ∨ y = none) :
    dialectOver old (x.or y) = .ok new ↔
      ∃ mid, dialectOver old x = .ok mid ∧ dialectOver mid y = .ok new := by
  obtain rfl | rfl := apart
  · simp [dialectOver]
  · simp [dialectOver]

/-- A layer is merged when all its keys are known; each setting then goes by its own value in
it. -/
theorem merge_eq_ok {es : List (Datum × Datum)} (tidy : Tidy es) {d d' : Draft}
    (hidden : (lookup dialectKey es).isSome → d.Hidden) :
    d.merge es = .ok d' ↔
      (∀ e ∈ es, Known e) ∧ Updates (fun l => l.find? es) d.get d'.get ∧
        dialectOver d.dialect (lookup dialectKey es) = .ok d'.dialect := by
  induction es generalizing d with
  | nil =>
    have nothing : (fun l : Leaf => l.find? []) = fun _ => none := by
      funext l
      simp [Leaf.find?, lookup_nil]
    rw [merge, List.foldlM_nil, pure_eq_ok, nothing, updates_none, ext_iff]
    simp [lookup_nil, dialectOver]
  | cons e es ih =>
    have split := find?_cons tidy.distinct
    have apart := lookup_apart tidy.distinct dialectKey
    have whole : lookup dialectKey (e :: es) =
        (lookup dialectKey [e]).or (lookup dialectKey es) := lookup_append dialectKey [e] es
    obtain ⟨orderly, inner⟩ := List.forall_mem_cons.mp tidy.inner
    have clear (found : (lookup dialectKey [e]).isSome) : d.Hidden :=
      hidden (by rw [whole, Option.isSome_or, found, Bool.true_or])
    -- An entry in front of the switches leaves them as they are.
    have kept {mid : Draft} (updates : Updates (fun l => l.find? [e]) d.get mid.get)
        (group : dialectOver d.dialect (lookup dialectKey [e]) = .ok mid.dialect)
        (found : (lookup dialectKey es).isSome) : mid.Hidden := by
      have free : lookup dialectKey [e] = none := apart.resolve_right (by
        intro none
        simp [none] at found)
      obtain same : d.dialect = mid.dialect := by simpa [free, dialectOver] using group
      intro replaced l member
      have unchanged : d.get l = mid.get l := by
        simpa [Leaf.find?, member, free] using updates l
      rw [← unchanged]
      exact hidden (by rw [whole, Option.isSome_or, found, Bool.or_true]) (same ▸ replaced) l member
    simp only [fun l => (split l).2]
    rw [merge, List.foldlM_cons, bind_eq_ok, List.forall_mem_cons,
      updates_or fun l => (split l).1, whole, dialectOver_or apart]
    constructor
    · rintro ⟨mid, done, rest⟩
      obtain ⟨known, updates, group⟩ := (putEntry_eq_ok orderly clear).mp done
      obtain ⟨others, updates', group'⟩ :=
        (ih ⟨tidy.distinct.tail, inner⟩ (kept updates group)).mp rest
      exact ⟨⟨known, others⟩, ⟨_, updates, updates'⟩, _, group, group'⟩
    · rintro ⟨⟨known, others⟩, ⟨get, updates, updates'⟩, dialect, group, group'⟩
      exact ⟨⟨get, dialect⟩, (putEntry_eq_ok orderly clear).mpr ⟨known, updates, group⟩,
        (ih ⟨tidy.distinct.tail, inner⟩ (kept updates group)).mpr ⟨others, updates', group'⟩⟩

end Draft

/-- The value that a document gives to a setting. -/
def documentValue? (document : Option String) (l : Leaf) : Option Datum :=
  document.bind fun text => (documentEntries text).toOption.bind l.find?

/-- Each setting has the value of the document or its default. -/
theorem base_updates {document : Option String} {d : Draft} (based : base document = .ok d) :
    Updates (documentValue? document) (Leaf.of {}) d.get ∧ d.Hidden := by
  cases document with
  | none =>
    obtain rfl := pure_eq_ok.mp based
    exact ⟨updates_none.mpr rfl, Draft.hidden_of {}⟩
  | some text =>
    obtain ⟨entries, given, merged⟩ := bind_eq_ok.mp based
    obtain ⟨-, updates, group⟩ :=
      (Draft.merge_eq_ok (tidy_document given) fun _ => Draft.hidden_of {}).mp merged
    have value : documentValue? (some text) = fun l => l.find? entries := by
      funext l
      simp [documentValue?, given, Except.toOption]
    rw [value]
    refine ⟨updates, fun replaced l member => ?_⟩
    -- A text in the place of the switches gives no value to any of them.
    have nothing : l.find? entries = none := by
      unfold Leaf.find?
      rw [if_pos member]
      cases found : lookup dialectKey entries with
      | none => rfl
      | some v =>
        cases v with
        | map inner =>
          rw [found, Draft.dialectOver, Except.ok.injEq] at group
          simp [← group] at replaced
        | _ => rfl
    have unchanged := updates l
    simp only [nothing, Leaf.update_none, Except.ok.injEq] at unchanged
    exact unchanged.symm

end Chip8.Settings
