import Chip8.Proofs.Validation

/-! The entries of maps: an assignment replaces one value and leaves the others, and the maps of a
document name every key once. -/
namespace Chip8.Settings

open Yaml (Datum)

/-- Entries whose keys are all different. -/
def Distinct (entries : List (Datum × Datum)) : Prop :=
  entries.Pairwise fun a b => a.1.sameKey b.1 = false

theorem sameKey_text (name : String) (d : Datum) : d.sameKey (.text name) = isKey name d := by
  cases d <;> rfl

theorem text_sameKey (name : String) (d : Datum) :
    (Datum.text name).sameKey d = isKey name d := by
  cases d with
  | text s => exact Bool.beq_comm
  | _ => rfl

theorem isKey_iff {name : String} {d : Datum} : isKey name d = true ↔ d = .text name := by
  cases d <;> simp [isKey]

theorem lookup_nil (name : String) : lookup name [] = none := rfl

theorem lookup_cons (name : String) (e : Datum × Datum) (es : List (Datum × Datum)) :
    lookup name (e :: es) = if isKey name e.1 then some e.2 else lookup name es := by
  cases found : isKey name e.1 <;> simp [lookup, found]

theorem lookup_cons_text (name other : String) (v : Datum) (es : List (Datum × Datum)) :
    lookup name ((.text other, v) :: es) = if other = name then some v else lookup name es := by
  by_cases same : other = name <;> simp [lookup_cons, isKey, same]

theorem lookup_append (name : String) (es fs : List (Datum × Datum)) :
    lookup name (es ++ fs) = (lookup name es).or (lookup name fs) := by
  induction es with
  | nil => simp [lookup_nil]
  | cons e es ih =>
    by_cases here : isKey name e.1 = true <;> simp [lookup_cons, here, ih]

theorem lookupKey_text (name : String) (es : List (Datum × Datum)) :
    lookupKey (.text name) es = lookup name es := by
  simp only [lookupKey, lookup, sameKey_text]

theorem mem_of_lookup {name : String} {v : Datum} {es : List (Datum × Datum)}
    (found : lookup name es = some v) : (.text name, v) ∈ es := by
  obtain ⟨⟨key, value⟩, entry, rfl⟩ := Option.map_eq_some_iff.mp found
  have named : isKey name key = true := by simpa using List.find?_some entry
  obtain rfl := isKey_iff.mp named
  exact List.mem_of_find?_eq_some entry

/-- No further entry has the key of the first. -/
theorem Distinct.lookup_tail {name : String} {v : Datum} {es : List (Datum × Datum)}
    (distinct : Distinct ((.text name, v) :: es)) : lookup name es = none := by
  have apart := (List.pairwise_cons.mp distinct).1
  simp only [lookup, Option.map_eq_none_iff, List.find?_eq_none, Bool.not_eq_true]
  intro e member
  rw [← text_sameKey]
  exact apart e member

theorem Distinct.tail {e : Datum × Datum} {es : List (Datum × Datum)}
    (distinct : Distinct (e :: es)) : Distinct es := (List.pairwise_cons.mp distinct).2

/-! Assignments. -/

theorem lookupKey_isSome (key : Datum) (es : List (Datum × Datum)) :
    (lookupKey key es).isSome = es.any fun e => e.1.sameKey key := by
  rw [lookupKey, Option.isSome_map, Bool.eq_iff_iff, List.find?_isSome, List.any_eq_true]

theorem assignKey_eq (key value : Datum) (es : List (Datum × Datum)) :
    assignKey key value es =
      if es.any fun e => e.1.sameKey key then
        es.map fun e => (e.1, if e.1.sameKey key then value else e.2)
      else es ++ [(key, value)] := by
  rw [assignKey, lookupKey_isSome]
  congr 1
  refine List.map_congr_left fun (k, v) _ => ?_
  by_cases same : k.sameKey key = true <;> simp [same]

theorem distinct_assignKey {es : List (Datum × Datum)} (distinct : Distinct es)
    (key value : Datum) : Distinct (assignKey key value es) := by
  rw [assignKey_eq]
  split
  · rw [Distinct, List.pairwise_map]
    exact distinct
  · rename_i new
    rw [Distinct, List.pairwise_append]
    refine ⟨distinct, List.pairwise_singleton _ _, fun a member b same => ?_⟩
    obtain rfl := List.mem_singleton.mp same
    rw [Bool.not_eq_true, List.any_eq_false] at new
    exact Bool.not_eq_true _ ▸ new a member

theorem mem_assignKey {key value : Datum} {es : List (Datum × Datum)} {e : Datum × Datum}
    (member : e ∈ assignKey key value es) :
    e ∈ es ∨ e.2 = value ∧ (e.1 = key ∨ e.1.sameKey key = true) := by
  rw [assignKey_eq] at member
  split at member
  · obtain ⟨old, inside, rfl⟩ := List.mem_map.mp member
    by_cases same : old.1.sameKey key = true
    · simp [same]
    · simp [same, inside]
  · obtain inside | new := List.mem_append.mp member
    · exact .inl inside
    · obtain rfl := List.mem_singleton.mp new
      exact .inr ⟨rfl, .inl rfl⟩

theorem distinct_assign {es : List (Datum × Datum)} (distinct : Distinct es) (name : String)
    (value : Datum) : Distinct (assign name value es) := distinct_assignKey distinct _ _

theorem mem_assign {name : String} {value : Datum} {es : List (Datum × Datum)} {e : Datum × Datum}
    (member : e ∈ assign name value es) : e ∈ es ∨ e = (.text name, value) := by
  obtain inside | ⟨same, key⟩ := mem_assignKey member
  · exact .inl inside
  · refine .inr (Prod.ext ?_ same)
    rw [sameKey_text, isKey_iff, or_self] at key
    exact key

/-- Values that are replaced under one name. -/
theorem lookup_map (name other : String) (value : Datum) (es : List (Datum × Datum)) :
    lookup other (es.map fun e => (e.1, if isKey name e.1 then value else e.2)) =
      (lookup other es).map fun old => if name = other then value else old := by
  induction es with
  | nil => rfl
  | cons e es ih =>
    rw [List.map_cons, lookup_cons, lookup_cons, ih]
    by_cases found : isKey other e.1 = true
    · have same : isKey name e.1 = true ↔ name = other := by
        rw [isKey_iff.mp found, isKey_iff, Datum.text.injEq, eq_comm]
      simp [found, same]
    · simp [found]

theorem lookup_assign (name other : String) (value : Datum) (es : List (Datum × Datum)) :
    lookup other (assign name value es) =
      if name = other then some value else lookup other es := by
  have there : (es.any fun e => isKey name e.1) = (lookup name es).isSome := by
    simp only [← lookupKey_text, lookupKey_isSome, sameKey_text]
  simp only [assign, assignKey_eq, sameKey_text, there]
  cases found : lookup name es with
  | none =>
    rw [if_neg (by simp), lookup_append, lookup_cons_text, lookup_nil]
    by_cases same : name = other
    · simp [← same, found]
    · simp [same]
  | some old =>
    rw [if_pos (by simp), lookup_map]
    by_cases same : name = other
    · simp [← same, found]
    · simp [same]

/-! Maps of documents. -/

/-- A value that names no key twice, if it is a map. -/
def Orderly : Datum → Prop
  | .map entries => Distinct entries
  | _ => True

theorem mapOfEntries_eq (raw : List (Datum × Datum)) :
    Datum.mapOfEntries raw = .map (raw.foldl (fun es e => assignKey e.1 e.2 es) []) := by
  rw [Datum.mapOfEntries]
  congr
  funext es e
  rw [assignKey, lookupKey_isSome]

theorem distinct_foldl {es : List (Datum × Datum)} (distinct : Distinct es)
    (raw : List (Datum × Datum)) :
    Distinct (raw.foldl (fun es e => assignKey e.1 e.2 es) es) := by
  induction raw generalizing es with
  | nil => exact distinct
  | cons e raw ih => exact ih (distinct_assignKey distinct e.1 e.2)

theorem orderly_foldl {raw es : List (Datum × Datum)} (given : ∀ e ∈ raw, Orderly e.2)
    (orderly : ∀ e ∈ es, Orderly e.2) :
    ∀ e ∈ raw.foldl (fun es e => assignKey e.1 e.2 es) es, Orderly e.2 := by
  induction raw generalizing es with
  | nil => exact orderly
  | cons new raw ih =>
    obtain ⟨first, given⟩ := List.forall_mem_cons.mp given
    refine ih given fun e member => ?_
    obtain inside | ⟨same, -⟩ := mem_assignKey member
    · exact orderly e inside
    · rw [same]
      exact first

theorem map_eq_ok {ε α β : Type} {f : α → β} {x : Except ε α} {b : β} :
    x.map f = .ok b ↔ ∃ a, x = .ok a ∧ f a = b := by
  cases x <;> simp [Except.map]

theorem scalar_ne_map {kind : Yaml.Kind} {text : String} {entries : List (Datum × Datum)} :
    Yaml.Scalar.value kind text ≠ .ok (.map entries) := by
  cases kind <;> simp [Yaml.Scalar.value, map_eq_ok]

/-- Only a map of nodes stands for a map, that of its entries in their order. -/
theorem node_eq_map {n : Yaml.Node} {entries : List (Datum × Datum)}
    (valued : n.toDatum = .ok (.map entries)) :
    ∃ nodes raw, Yaml.Node.entryData nodes = .ok raw ∧
      raw.foldl (fun es e => assignKey e.1 e.2 es) [] = entries := by
  cases n with
  | scalar kind text =>
    rw [Yaml.Node.toDatum] at valued
    exact absurd valued scalar_ne_map
  | list kind items => cases kind <;> simp [Yaml.Node.toDatum, map_eq_ok] at valued
  | map kind nodes =>
    cases kind <;> simp only [Yaml.Node.toDatum, map_eq_ok, reduceCtorEq] at valued
    case map =>
      obtain ⟨raw, valued, same⟩ := valued
      rw [mapOfEntries_eq, Datum.map.injEq] at same
      exact ⟨nodes, raw, valued, same⟩
    case set => simp at valued
    all_goals
      split at valued
      · exact absurd valued scalar_ne_map
      · contradiction

theorem orderly_node {n : Yaml.Node} {d : Datum} (valued : n.toDatum = .ok d) : Orderly d := by
  cases d with
  | map entries =>
    obtain ⟨_, raw, -, rfl⟩ := node_eq_map valued
    exact distinct_foldl List.Pairwise.nil raw
  | _ => trivial

theorem orderly_own {entries : List (Yaml.Node × Yaml.Node)} {raw : List (Datum × Datum)}
    (valued : Yaml.Node.ownData entries = .ok raw) : ∀ e ∈ raw, Orderly e.2 := by
  induction entries generalizing raw with
  | nil =>
    obtain rfl : [] = raw := by simpa [Yaml.Node.ownData] using valued
    simp
  | cons entry entries ih =>
    obtain ⟨k, v⟩ := entry
    rw [Yaml.Node.ownData] at valued
    split at valued
    · exact ih valued
    · split at valued
      · contradiction
      · split at valued
        · contradiction
        · split at valued
          · contradiction
          · rename_i value own
            obtain ⟨rest, own, rfl⟩ := map_eq_ok.mp valued
            exact List.forall_mem_cons.mpr ⟨orderly_node ‹_›, ih own⟩

mutual

theorem orderly_entries {entries : List (Yaml.Node × Yaml.Node)} {raw : List (Datum × Datum)}
    (valued : Yaml.Node.entryData entries = .ok raw) : ∀ e ∈ raw, Orderly e.2 := by
  rw [Yaml.Node.entryData] at valued
  split at valued
  · contradiction
  · rename_i merged taken
    obtain ⟨own, owned, rfl⟩ := map_eq_ok.mp valued
    exact List.forall_mem_append.mpr ⟨orderly_merged taken, orderly_own owned⟩

theorem orderly_merged {entries : List (Yaml.Node × Yaml.Node)} {raw : List (Datum × Datum)}
    (valued : Yaml.Node.mergedData entries = .ok raw) : ∀ e ∈ raw, Orderly e.2 := by
  match entries with
  | [] =>
    obtain rfl : [] = raw := by simpa [Yaml.Node.mergedData] using valued
    simp
  | (k, v) :: entries =>
    rw [Yaml.Node.mergedData] at valued
    split at valued
    · split at valued
      · contradiction
      · rename_i merged taken
        obtain ⟨rest, others, rfl⟩ := map_eq_ok.mp valued
        exact List.forall_mem_append.mpr ⟨orderly_merge taken, orderly_merged others⟩
    · exact orderly_merged valued

theorem orderly_merge {n : Yaml.Node} {raw : List (Datum × Datum)}
    (valued : n.mergeData = .ok raw) : ∀ e ∈ raw, Orderly e.2 := by
  match n with
  | .scalar _ _ => simp [Yaml.Node.mergeData] at valued
  | .list _ items =>
    rw [Yaml.Node.mergeData] at valued
    exact orderly_listMerge valued
  | .map _ entries =>
    rw [Yaml.Node.mergeData] at valued
    exact orderly_entries valued

theorem orderly_listMerge {items : List Yaml.Node} {raw : List (Datum × Datum)}
    (valued : Yaml.Node.listMergeData items = .ok raw) : ∀ e ∈ raw, Orderly e.2 := by
  match items with
  | [] =>
    obtain rfl : [] = raw := by simpa [Yaml.Node.listMergeData] using valued
    simp
  | .map _ entries :: items =>
    rw [Yaml.Node.listMergeData] at valued
    split at valued
    · contradiction
    · rename_i first taken
      obtain ⟨rest, others, rfl⟩ := map_eq_ok.mp valued
      exact List.forall_mem_append.mpr ⟨orderly_listMerge others, orderly_entries taken⟩
  | .scalar _ _ :: items => simp [Yaml.Node.listMergeData] at valued
  | .list _ _ :: items => simp [Yaml.Node.listMergeData] at valued

end

/-- A map that names no key twice, as do the maps that it leads to. -/
structure Tidy (entries : List (Datum × Datum)) : Prop where
  distinct : Distinct entries
  inner : ∀ e ∈ entries, Orderly e.2

theorem tidy_node {n : Yaml.Node} {entries : List (Datum × Datum)}
    (valued : n.toDatum = .ok (.map entries)) : Tidy entries := by
  obtain ⟨_, raw, given, rfl⟩ := node_eq_map valued
  exact ⟨distinct_foldl List.Pairwise.nil raw, orderly_foldl (orderly_entries given) nofun⟩

theorem tidy_nil : Tidy [] := ⟨List.Pairwise.nil, nofun⟩

/-- What is read from a text is nothing, or the value of a node. -/
theorem read_cases {text : String} {d : Datum} (valued : read text = .ok d) :
    d = .null ∨ ∃ n : Yaml.Node, n.toDatum = .ok d := by
  simp only [read, bind_eq_ok, mapError_eq_ok] at valued
  obtain ⟨d', valued, shallow⟩ := valued
  obtain rfl : d' = d := by
    split at shallow
    · contradiction
    · exact pure_eq_ok.mp shallow
  unfold Datum.ofText at valued
  split at valued
  · contradiction
  · obtain ⟨⟨n, isEndless⟩, -, valued⟩ := bind_eq_ok.mp valued
    cases n with
    | none => exact .inl (pure_eq_ok.mp valued).symm
    | some n =>
      simp only at valued
      split at valued
      · contradiction
      · exact .inr ⟨n.node, valued⟩

theorem orderly_read {text : String} {d : Datum} (valued : read text = .ok d) : Orderly d := by
  obtain rfl | ⟨n, valued⟩ := read_cases valued
  · trivial
  · exact orderly_node valued

theorem tidy_read {text : String} {entries : List (Datum × Datum)}
    (valued : read text = .ok (.map entries)) : Tidy entries := by
  obtain nothing | ⟨n, valued⟩ := read_cases valued
  · contradiction
  · exact tidy_node valued

theorem tidy_checked {text : String} {es entries : List (Datum × Datum)}
    (given : read text = .ok (.map es))
    (valued : (do checkEntries es; return es : Except LoadError _) = .ok entries) :
    Tidy entries := by
  obtain ⟨-, -, same⟩ := bind_eq_ok.mp valued
  obtain rfl := pure_eq_ok.mp same
  exact tidy_read given

theorem tidy_single (key value : Datum) (flat : Orderly value) : Tidy [(key, value)] :=
  ⟨List.pairwise_singleton _ _, by simpa using flat⟩

/-- The entries of a document name no key twice. -/
theorem tidy_document {text : String} {entries : List (Datum × Datum)}
    (valued : documentEntries text = .ok entries) : Tidy entries := by
  unfold documentEntries at valued
  obtain ⟨d, given, valued⟩ := bind_eq_ok.mp valued
  cases d with
  | null => exact pure_eq_ok.mp valued ▸ tidy_nil
  | map es => exact tidy_checked given valued
  | list items =>
    obtain ⟨-, -, thrown⟩ := bind_eq_ok.mp valued
    contradiction
  | text s =>
    obtain ⟨d, given, valued⟩ := bind_eq_ok.mp valued
    cases d with
    | null => exact pure_eq_ok.mp valued ▸ tidy_nil
    | map es => exact tidy_checked given valued
    | list items =>
      obtain ⟨-, -, thrown⟩ := bind_eq_ok.mp valued
      contradiction
    | text s => exact pure_eq_ok.mp valued ▸ tidy_single _ _ trivial
    | _ => contradiction
  | _ => contradiction

end Chip8.Settings
