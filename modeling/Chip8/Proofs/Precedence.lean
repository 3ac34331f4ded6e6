import Chip8.CommandLine
import Chip8.Proofs.Numeral
import Chip8.Proofs.Overrides
import Chip8.Settings.Resolvers

/-! Which layer decides over a setting: an option of the command line comes before the last
override, that before the document, and the document before the default. -/
namespace Chip8.Settings

open CommandLine (Argument Options)
open Yaml (Datum)

variable {resolvers : Resolvers}

/-! Settings from overrides. -/

theorem load_eq_ok {document : Option String} {overrides : List String} {s : Settings} :
    load resolvers document overrides = .ok s ↔
      ∃ d, base document = .ok d ∧ ∃ es, overrideEntries overrides = .ok es ∧
        ∃ d' : Draft, d.merge es = .ok d' ∧
          ∃ t, d'.settings resolvers = .ok t ∧ t.validate = .ok s := by
  simp only [load, bind_eq_ok, mapError_eq_ok]

/-- Loading asks overrides for nothing but the last value of each setting. -/
theorem load_written {xs : List Override} (flat : Flat xs) {document : Option String}
    {s : Settings} :
    load resolvers document (xs.map Override.written) = .ok s ↔
      (∀ x ∈ xs, x.Readable) ∧ ∃ d, base document = .ok d ∧ ∃ d' : Draft,
        (Updates (lastValue? xs) d.get d'.get ∧
          (if ∃ l ∈ Leaf.switches, (lastValue? xs l).isSome then none else d.dialect) =
            d'.dialect) ∧
        ∃ t, d'.settings resolvers = .ok t ∧ t.validate = .ok s := by
  rw [load_eq_ok]
  constructor
  · rintro ⟨d, based, es, entries, d', merged, finished⟩
    have readable := readable_of_overrideEntries entries
    obtain ⟨es', same, holds⟩ := overrideEntries_of_readable flat readable
    obtain rfl := Except.ok.inj (entries.symm.trans same)
    exact ⟨readable, d, based, d', (holds.merge_eq_ok (base_updates based).2).mp merged, finished⟩
  · rintro ⟨readable, d, based, d', updates, finished⟩
    obtain ⟨es, entries, holds⟩ := overrideEntries_of_readable flat readable
    exact ⟨d, based, es, entries, d', (holds.merge_eq_ok (base_updates based).2).mpr updates,
      finished⟩

/-! Values of settings. -/

theorem convert_idem {t : LeafType} {u v : Datum} (converted : t.convert u = .ok v) :
    t.convert v = .ok v := by
  cases t <;> obtain ⟨w, -, rfl⟩ := map_eq_ok.mp converted <;> rfl

theorem convert_unescaped {t : LeafType} {u v : Datum} (converted : t.convert u = .ok v) :
    t.convert (unescaped v) = .ok (unescaped v) := by
  cases t <;> obtain ⟨w, -, rfl⟩ := map_eq_ok.mp converted
  · rfl
  · simp only [unescaped]
    split <;> rfl
  · rfl

/-- The value of a setting is of its type, and the one that it holds unless that has references. -/
theorem Draft.value_of_stored {d : Draft} {l : Leaf} {given v : Datum}
    (stored : l.store given = .ok (d.get l)) (value : d.value resolvers l = .ok v) :
    l.type.convert v = .ok v ∧ (template? (d.get l) = none → v = unescaped (d.get l)) := by
  obtain ⟨fuel, looked⟩ := d.value_eq resolvers l
  rw [looked, resolveLeaf] at value
  cases template : template? (d.get l) with
  | none =>
    rw [template] at value
    obtain rfl := Except.ok.inj value
    have converted : l.type.convert given = .ok (d.get l) := by
      unfold Leaf.store at stored
      split at stored
      · rename_i references
        rw [Except.ok.inj stored, template] at references
        contradiction
      · exact stored
    exact ⟨convert_unescaped converted, fun _ => rfl⟩
  | some s =>
    rw [template] at value
    refine ⟨?_, fun plain => absurd plain (Option.some_ne_none s)⟩
    obtain ⟨u, -, converted⟩ : ∃ u, resolveText resolvers d fuel [.leaf l]
        (if l ∈ Leaf.switches then .dialect else .root) s = .ok u ∧ l.type.convert u = .ok v := by
      simpa [bind_eq_ok, mapError_eq_ok] using value
    exact convert_idem converted

/-- A setting ends up with a value of its type. -/
def Draft.Yields (resolvers : Resolvers) (d : Draft) (l : Leaf) (w : Datum) : Prop :=
  ∃ v, d.value resolvers l = .ok v ∧ l.type.convert v = .ok w

theorem Draft.yields_int {d : Draft} {l : Leaf} {n : Int} (type : l.type = .int)
    (found : d.int resolvers l = .ok n) : d.Yields resolvers l (.int n) := by
  obtain ⟨v, value, read⟩ := bind_eq_ok.mp found
  exact ⟨v, value, by rw [type, LeafType.convert, read]; rfl⟩

theorem Draft.yields_text {d : Draft} {l : Leaf} {s : String} (type : l.type = .text)
    (found : d.text resolvers l = .ok s) : d.Yields resolvers l (.text s) := by
  obtain ⟨v, value, read⟩ := bind_eq_ok.mp found
  exact ⟨v, value, by rw [type, LeafType.convert, read]; rfl⟩

theorem Draft.yields_bool {d : Draft} {l : Leaf} {b : Bool} (type : l.type = .bool)
    (found : d.bool resolvers l = .ok b) : d.Yields resolvers l (.bool b) := by
  obtain ⟨v, value, read⟩ := bind_eq_ok.mp found
  exact ⟨v, value, by rw [type, LeafType.convert, read]; rfl⟩

/-- A draft stands for settings only if no text stands for all switches, and each setting then
has the value that its own one comes to. -/
theorem Draft.yields_of_settings {d : Draft} {s : Settings}
    (finished : d.settings resolvers = .ok s) :
    d.dialect = none ∧ ∀ l, d.Yields resolvers l (Leaf.of s l) := by
  unfold Draft.settings at finished
  obtain ⟨instructionFrequency, h₁, finished⟩ := bind_eq_ok.mp finished
  obtain ⟨timerFrequency, h₂, finished⟩ := bind_eq_ok.mp finished
  obtain ⟨fps, h₃, finished⟩ := bind_eq_ok.mp finished
  obtain ⟨seed, h₄, finished⟩ := bind_eq_ok.mp finished
  obtain ⟨onUnknownOpcode, h₅, finished⟩ := bind_eq_ok.mp finished
  obtain ⟨logLevel, h₆, finished⟩ := bind_eq_ok.mp finished
  obtain ⟨scale, h₇, finished⟩ := bind_eq_ok.mp finished
  obtain ⟨colorScheme, h₈, finished⟩ := bind_eq_ok.mp finished
  split at finished
  · obtain ⟨_, -, thrown⟩ := bind_eq_ok.mp finished
    contradiction
  · rename_i whole
    obtain ⟨shiftUsesVy, h₉, finished⟩ := bind_eq_ok.mp finished
    obtain ⟨logicResetsVf, h₁₀, finished⟩ := bind_eq_ok.mp finished
    obtain ⟨jumpUsesVx, h₁₁, finished⟩ := bind_eq_ok.mp finished
    obtain ⟨loadStoreIncrementsI, h₁₂, finished⟩ := bind_eq_ok.mp finished
    obtain ⟨indexOverflowSetsVf, h₁₃, finished⟩ := bind_eq_ok.mp finished
    obtain ⟨clipSprites, h₁₄, finished⟩ := bind_eq_ok.mp finished
    obtain rfl := pure_eq_ok.mp finished
    refine ⟨by simpa using whole, fun l => ?_⟩
    cases l with
    | instructionFrequency => exact yields_int rfl h₁
    | timerFrequency => exact yields_int rfl h₂
    | fps => exact yields_int rfl h₃
    | seed => exact yields_int rfl h₄
    | onUnknownOpcode => exact yields_text rfl h₅
    | logLevel => exact yields_text rfl h₆
    | scale => exact yields_int rfl h₇
    | colorScheme => exact yields_text rfl h₈
    | shiftUsesVy => exact yields_bool rfl h₉
    | logicResetsVf => exact yields_bool rfl h₁₀
    | jumpUsesVx => exact yields_bool rfl h₁₁
    | loadStoreIncrementsI => exact yields_bool rfl h₁₂
    | indexOverflowSetsVf => exact yields_bool rfl h₁₃
    | clipSprites => exact yields_bool rfl h₁₄

/-- The last touch on a value: a log level is written in upper case. -/
def Leaf.finish : Leaf → Datum → Datum
  | .logLevel, .text s => .text (Text.upper s)
  | _, v => v

theorem of_validate {s t : Settings} (valid : s.validate = .ok t) (l : Leaf) :
    Leaf.of t l = l.finish (Leaf.of s l) := by
  obtain ⟨rfl, -⟩ := validate_eq_ok.mp valid
  cases l <;> rfl

/-! Layers. -/

theorem store_default (l : Leaf) : l.store (Leaf.of {} l) = .ok (Leaf.of {} l) := by
  have plain : template? (Leaf.of {} l) = none := by
    cases l <;> decide +kernel
  rw [Leaf.store, plain]
  cases l <;> rfl

/-- Of two layers the second one decides, unless it gives nothing. -/
theorem update_update {l : Leaf} {a b : Option Datum} {old mid new : Datum}
    (stored : l.store old = .ok old) (first : l.update old a = .ok mid)
    (second : l.update mid b = .ok new) :
    l.store (((settled? b).or (settled? a)).getD old) = .ok new := by
  unfold Leaf.update at first second
  cases later : settled? b with
  | some v =>
    rw [later] at second
    exact second
  | none =>
    rw [later] at second
    obtain rfl := Except.ok.inj second
    cases earlier : settled? a with
    | some v =>
      rw [earlier] at first
      exact first
    | none =>
      rw [earlier] at first
      obtain rfl := Except.ok.inj first
      exact stored

/-! Options of the command line. -/

/-- The override that an option stands for. -/
def override? {α : Type} (l : Leaf) (shown : α → String) : Argument α → Option Override
  | .absent => none
  | .empty => some ⟨l, "[]"⟩
  | .value a => some ⟨l, shown a⟩

/-- The overrides that options stand for. -/
def optionOverrides (o : Options) : List Override :=
  (override? .scale toString o.scale).toList ++ (override? .colorScheme id o.colorScheme).toList

theorem allOverrides_eq {o : Options} {overrides : List Override}
    (given : o.overrides = overrides.map Override.written) :
    o.allOverrides = (overrides ++ optionOverrides o).map Override.written := by
  have scale : o.scale.override "scale" toString =
      (override? .scale toString o.scale).toList.map Override.written := by
    cases o.scale <;> rfl
  have scheme : o.colorScheme.override "color_scheme" id =
      (override? .colorScheme id o.colorScheme).toList.map Override.written := by
    cases o.colorScheme <;> rfl
  rw [Options.allOverrides, given, scale, scheme, optionOverrides, List.map_append,
    List.map_append, List.append_assoc]

/-- What an option gives; an option without a value gives an empty list. -/
def argumentValue? {α : Type} (value? : α → Option Datum) : Argument α → Option Datum
  | .absent => none
  | .empty => some (.list [])
  | .value a => value? a

/-- The value that an option of the command line gives to a setting. -/
def optionValue? (o : Options) : Leaf → Option Datum
  | .scale => argumentValue? (fun n => some (.int n)) o.scale
  | .colorScheme => argumentValue? (fun s => (read s).toOption) o.colorScheme
  | _ => none

/-- A plain scalar is read as the value of its kind. -/
theorem read_of_plain {word : String} {d : Datum}
    (printable : word.toList.all Yaml.isTextChar = true)
    (unmarked : Yaml.withoutMark word.toList = word.toList)
    (single : Yaml.tokens word.toList = ([.scalar word true, .finish], none))
    (value : Yaml.Scalar.value (.ofPlain word) word = .ok d) (flat : d.depth = 0) :
    read word = .ok d := by
  rw [read, Datum.ofText_of_plain printable unmarked single, value]
  change (if maxDepth < d.depth then _ else _) = _
  rw [flat]
  rfl

theorem read_emptyList : read "[]" = .ok (.list []) := by
  have brackets : Yaml.tokens "[]".toList = ([.flowListStart, .flowListEnd, .finish], none) := by
    decide +kernel
  have parsed : Yaml.Node.ofText "[]".toList = .ok (some ⟨.list .list [], 1⟩, false) := by
    rw [Yaml.Node.ofText, brackets]
    rfl
  rw [read, Datum.ofText_of_node (by decide +kernel) (by decide +kernel) parsed (by decide +kernel),
    Yaml.Node.toDatum, Yaml.Node.itemData]
  rfl

theorem lastValue?_override? {α : Type} (l k : Leaf) (shown : α → String) (a : Argument α) :
    lastValue? (override? l shown a).toList k =
      if l = k then (override? l shown a).bind Override.value? else none := by
  cases a <;> by_cases same : l = k <;> simp [override?, lastValue?, last?, same]

theorem lastValue?_options {o : Options} (readable : ∀ x ∈ optionOverrides o, x.Readable)
    (l : Leaf) : lastValue? (optionOverrides o) l = optionValue? o l := by
  obtain ⟨scaleReadable, schemeReadable⟩ := List.forall_mem_append.mp readable
  have scale : (override? .scale toString o.scale).bind Override.value? =
      argumentValue? (fun n => some (.int n)) o.scale := by
    cases given : o.scale with
    | absent => rfl
    | empty => simp [override?, Override.value?, read_emptyList, argumentValue?, Except.toOption]
    | value n =>
      obtain ⟨v, value, -⟩ := scaleReadable ⟨.scale, toString n⟩ (by simp [override?, given])
      have number := read_toString n
      rw [show read (toString n) = .ok v from value] at number
      split at number
      · contradiction
      · obtain rfl := Except.ok.inj number
        exact congrArg Except.toOption value
  have scheme : (override? .colorScheme id o.colorScheme).bind Override.value? =
      argumentValue? (fun s => (read s).toOption) o.colorScheme := by
    cases o.colorScheme with
    | absent => rfl
    | empty => simp [override?, Override.value?, read_emptyList, argumentValue?, Except.toOption]
    | value s => rfl
  rw [optionOverrides, lastValue?_append fun x member => (schemeReadable x member).isSome,
    lastValue?_override?, lastValue?_override?, scale, scheme]
  cases l <;> simp [optionValue?]

/-- An option takes the place of overrides as a whole when these are scalars. -/
theorem flat_options {overrides : List Override}
    (scalar : ∀ x ∈ overrides, ∀ v, read x.text = .ok v → v.isCollection = false) (o : Options) :
    Flat (overrides ++ optionOverrides o) := by
  have options : Flat (optionOverrides o) := by
    unfold Flat optionOverrides
    cases o.scale <;> cases o.colorScheme <;> simp [override?]
  refine List.pairwise_append.mpr ⟨?_, options, fun x member _ _ _ => scalar x member⟩
  exact List.pairwise_of_forall_mem_list fun x member _ _ _ => scalar x member

/-- The value that decides over a setting. A value that is still to be given takes the place of
earlier ones of its layer, and leaves the setting to the layer below. -/
def chosen (document : Option String) (o : Options) (overrides : List Override) (l : Leaf) :
    Datum :=
  ((settled? ((optionValue? o l).or (lastValue? overrides l))).or
    (settled? (documentValue? document l))).getD (Leaf.of {} l)

theorem lastValue?_all {overrides : List Override} {o : Options}
    (readable : ∀ x ∈ overrides ++ optionOverrides o, x.Readable) (l : Leaf) :
    lastValue? (overrides ++ optionOverrides o) l =
      (optionValue? o l).or (lastValue? overrides l) := by
  have options := (List.forall_mem_append.mp readable).2
  rw [lastValue?_append fun x member => (options x member).isSome, lastValue?_options options]

theorem mem_of_same_filters {xs ys : List Override}
    (same : ∀ l, ys.filter (fun x => x.leaf = l) = xs.filter fun x => x.leaf = l) {y : Override}
    (member : y ∈ ys) : y ∈ xs := by
  have inside : y ∈ xs.filter fun x => x.leaf = y.leaf := by
    rw [← same]
    exact List.mem_filter.mpr ⟨member, by simp⟩
  exact (List.mem_filter.mp inside).1

/-- The same overrides for each setting, however they are mixed, load the same settings. -/
theorem load_of_same_filters {xs ys : List Override} (flat : Flat xs) (flat' : Flat ys)
    (same : ∀ l, ys.filter (fun x => x.leaf = l) = xs.filter fun x => x.leaf = l)
    {document : Option String} {s : Settings}
    (loaded : load resolvers document (xs.map Override.written) = .ok s) :
    load resolvers document (ys.map Override.written) = .ok s := by
  rw [load_written flat] at loaded
  rw [load_written flat']
  have values : lastValue? ys = lastValue? xs := by
    funext l
    rw [lastValue?, last?, same]
    rfl
  rw [values]
  exact ⟨fun y member => loaded.1 y (mem_of_same_filters same member), loaded.2⟩

/-- Settings that have been loaded from a document, overrides of single settings by scalars and the
options of the command line hold, each as a value of its type, what an option gives, else what the
last override gives that names the setting, else what the document gives, else the default. Where
that has references, the setting is what they come to among all the values that have been chosen,
whatever the resolvers are. Overrides of different settings may stand in any order. -/
theorem settings_follow_precedence {document : Option String} {o : Options}
    {overrides : List Override} (given : o.overrides = overrides.map Override.written)
    (scalar : ∀ x ∈ overrides, ∀ v, read x.text = .ok v → v.isCollection = false) :
    (∀ s, load resolvers document o.allOverrides = .ok s →
      ∃ d : Draft, d.dialect = none ∧ ∀ l,
        l.store (chosen document o overrides l) = .ok (d.get l) ∧
        ∃ v, d.value resolvers l = .ok v ∧ Leaf.of s l = l.finish v ∧
          (template? (d.get l) = none → v = unescaped (d.get l))) ∧
    ∀ mixed : List Override,
      (∀ l, mixed.filter (fun x => x.leaf = l) = overrides.filter fun x => x.leaf = l) →
      ∀ s, load resolvers document
          { o with overrides := mixed.map Override.written }.allOverrides = .ok s ↔
        load resolvers document o.allOverrides = .ok s := by
  have all := allOverrides_eq given
  have flat := flat_options scalar o
  constructor
  · intro s loaded
    rw [all, load_written flat] at loaded
    obtain ⟨readable, base, based, d, ⟨updates, -⟩, t, finished, valid⟩ := loaded
    obtain ⟨whole, yields⟩ := Draft.yields_of_settings finished
    refine ⟨d, whole, fun l => ?_⟩
    have stored := update_update (store_default l) ((base_updates based).1 l) (updates l)
    rw [lastValue?_all readable] at stored
    obtain ⟨v, value, converted⟩ := yields l
    obtain ⟨typed, plain⟩ := Draft.value_of_stored stored value
    refine ⟨stored, v, value, ?_, plain⟩
    rw [of_validate valid, ← Except.ok.inj (typed.symm.trans converted)]
  · intro mixed same s
    have mixedScalar : ∀ x ∈ mixed, ∀ v, read x.text = .ok v → v.isCollection = false :=
      fun x member => scalar x (mem_of_same_filters same member)
    have mixedFlat := flat_options mixedScalar o
    have filters : ∀ l, (mixed ++ optionOverrides o).filter (fun x => x.leaf = l) =
        (overrides ++ optionOverrides o).filter fun x => x.leaf = l := by
      intro l
      rw [List.filter_append, List.filter_append, same]
    rw [all, allOverrides_eq (o := { o with overrides := mixed.map Override.written }) rfl]
    exact ⟨load_of_same_filters mixedFlat flat fun l => (filters l).symm,
      load_of_same_filters flat mixedFlat filters⟩

/-! All layers at once. -/

namespace Sample

def document : String := "fps: 30\nlog_level: debug\nquirks:\n  clip_sprites: true\n"

def entries : List (Datum × Datum) :=
  [(.text "fps", .int 30), (.text "log_level", .text "debug"),
    (.text "quirks", .map [(.text "clip_sprites", .bool true)])]

def overrides : List Override := [⟨.fps, "50"⟩, ⟨.scale, "3"⟩, ⟨.fps, "25"⟩]

/-- The same overrides in another order. -/
def mixed : List Override := [⟨.scale, "3"⟩, ⟨.fps, "50"⟩, ⟨.fps, "25"⟩]

def options (overrides : List Override) : Options :=
  { rom := "a.ch8", overrides := overrides.map Override.written, scale := .value 7 }

/-- The document over the defaults. -/
def documented : Settings :=
  { fps := 30, logLevel := "debug", dialect := { Dialect.modern with clipSprites := true } }

/-- The overrides and the option over the document. -/
def merged : Settings := { documented with fps := 25, scale := 7 }

theorem read_document : read document = .ok (.map entries) := by
  have tokens : Yaml.tokens document.toList =
      ([.blockMapStart, .key, .scalar "fps" true, .value, .scalar "30" true,
        .key, .scalar "log_level" true, .value, .scalar "debug" true,
        .key, .scalar "quirks" true, .value, .blockMapStart,
        .key, .scalar "clip_sprites" true, .value, .scalar "true" true,
        .blockEnd, .blockEnd, .finish], none) := by
    decide +kernel
  have parsed : Yaml.Node.ofText document.toList =
      .ok (some ⟨.map .map [(.scalar .text "fps", .scalar .int "30"),
        (.scalar .text "log_level", .scalar .text "debug"),
        (.scalar .text "quirks",
          .map .map [(.scalar .text "clip_sprites", .scalar .bool "true")])], 9⟩, false) := by
    rw [Yaml.Node.ofText, tokens]
    rfl
  have number : Yaml.Scalar.int "30" = .ok 30 := rfl
  have word : Yaml.Scalar.bool "true" = .ok true := by
    have lower : "true".toLower = "true" := by decide +kernel
    rw [Yaml.Scalar.bool, lower]
    rfl
  have value : Datum.ofText document = .ok (.map entries) := by
    rw [Datum.ofText_of_node (by decide +kernel) (by decide +kernel) parsed (by decide +kernel)]
    simp only [Yaml.Node.toDatum, Yaml.Node.entryData, Yaml.Node.ownData, Yaml.Node.mergedData,
      Yaml.Scalar.value, number, word]
    rfl
  rw [read, value]
  rfl

theorem base_document : base (some document) = .ok (.of documented) := by
  have plain : Term.isTemplate "debug" = false := by decide +kernel
  have checked : checkEntries entries = .ok () := by
    simp [entries, checkEntries, checkValue, plain]
  have given : documentEntries document = .ok entries :=
    bind_eq_ok.mpr ⟨_, read_document, bind_eq_ok.mpr ⟨(), checked, rfl⟩⟩
  have replaced : (((Draft.of {}).set .fps (.int 30)).set .logLevel (.text "debug")).set
      .clipSprites (.bool true) = .of documented := by
    refine Draft.ext_iff.mpr ⟨funext fun l => ?_, rfl⟩
    cases l <;> rfl
  refine bind_eq_ok.mpr ⟨entries, given, ?_⟩
  rw [← replaced]
  rfl

theorem read_numbers : read "50" = .ok (.int 50) ∧ read "3" = .ok (.int 3) ∧
    read "25" = .ok (.int 25) ∧ read "7" = .ok (.int 7) := by
  refine ⟨?_, ?_, ?_, ?_⟩ <;>
    exact read_of_plain (by decide +kernel) (by decide +kernel) (by decide +kernel) rfl rfl

theorem overrides_scalar :
    ∀ x ∈ overrides, ∀ v, read x.text = .ok v → v.isCollection = false := by
  obtain ⟨fifty, three, twentyFive, -⟩ := read_numbers
  simp [overrides, fifty, three, twentyFive, Datum.isCollection]

theorem load_overrides :
    load resolvers (some document) (options overrides).allOverrides =
      .ok { merged with logLevel := "DEBUG" } := by
  obtain ⟨fifty, three, twentyFive, seven⟩ := read_numbers
  have given : (options overrides).overrides = overrides.map Override.written := rfl
  have option : optionOverrides (options overrides) = [⟨.scale, "7"⟩] := rfl
  rw [allOverrides_eq given, load_written (flat_options overrides_scalar _), option]
  refine ⟨?_, .of documented, base_document, .of merged, ⟨fun l => ?_, ?_⟩, merged, ?_, ?_⟩
  · simp [overrides, Override.Readable, fifty, three, twentyFive, seven, checkValue]
  · cases l <;>
      simp [overrides, lastValue?, last?, Override.value?, twentyFive, seven, Except.toOption] <;>
      rfl
  · simp [Draft.of]
  · exact Draft.settings_of fun l => by cases l <;> decide +kernel
  · refine validate_eq_ok.mpr ⟨?_, ?_⟩
    · rw [show Text.upper merged.logLevel = "DEBUG" by decide +kernel]
    · exact ⟨by decide, by decide, by decide, by decide, by decide, by decide⟩

end Sample

/-- An option over an override, the later of two overrides over the document, and the document over
the defaults, in either order of the overrides. -/
theorem settings_follow_precedence_through_all_layers :
    let s : Settings := { Sample.merged with logLevel := "DEBUG" }
    let resolvers : Resolvers := .standard fun _ => none
    load resolvers (some Sample.document) (Sample.options Sample.overrides).allOverrides = .ok s ∧
      load resolvers (some Sample.document) (Sample.options Sample.mixed).allOverrides = .ok s ∧
      ∃ d : Draft, d.dialect = none ∧ ∀ l,
        l.store (chosen (some Sample.document) (Sample.options Sample.overrides)
          Sample.overrides l) = .ok (d.get l) ∧
        ∃ v, d.value resolvers l = .ok v ∧ Leaf.of s l = l.finish v := by
  intro s resolvers
  have loaded : load resolvers (some Sample.document)
      (Sample.options Sample.overrides).allOverrides = .ok s := Sample.load_overrides
  obtain ⟨values, permuted⟩ := @settings_follow_precedence resolvers (some Sample.document)
    (Sample.options Sample.overrides) Sample.overrides rfl Sample.overrides_scalar
  refine ⟨loaded, ?_, ?_⟩
  · refine (permuted Sample.mixed (fun l => ?_) s).mpr loaded
    cases l <;> rfl
  · obtain ⟨d, whole, each⟩ := values s loaded
    refine ⟨d, whole, fun l => ?_⟩
    obtain ⟨stored, v, value, same, -⟩ := each l
    exact ⟨stored, v, value, same⟩

/-- A mark for a value that is still to be given is the last word of the overrides, and yet not the
value of the setting. -/
theorem pending_mark_gives_way_to_default :
    let overrides : List Override := [⟨.colorScheme, "amber"⟩, ⟨.colorScheme, "???"⟩]
    let o : Options := { rom := "a.ch8", overrides := overrides.map Override.written }
    lastValue? overrides .colorScheme = some (.text "???") ∧
      load (.standard fun _ => none) none o.allOverrides = .ok {} ∧
      ({} : Settings).colorScheme = "classic" := by
  intro overrides o
  have amber : read "amber" = .ok (.text "amber") :=
    read_of_plain (by decide +kernel) (by decide +kernel) (by decide +kernel) rfl rfl
  have mark : read "???" = .ok (.text "???") :=
    read_of_plain (by decide +kernel) (by decide +kernel) (by decide +kernel) rfl rfl
  have scalar : ∀ x ∈ overrides, ∀ v, read x.text = .ok v → v.isCollection = false := by
    simp [overrides, amber, mark, Datum.isCollection]
  have last : lastValue? overrides .colorScheme = some (.text "???") := by
    simp [overrides, lastValue?, last?, Override.value?, mark, Except.toOption]
  have given : o.overrides = overrides.map Override.written := rfl
  have noOption : optionOverrides o = [] := rfl
  have plain : Term.isTemplate "amber" = false ∧ Term.isTemplate "???" = false := by decide +kernel
  refine ⟨last, ?_, rfl⟩
  rw [allOverrides_eq given, load_written (flat_options scalar _), noOption, List.append_nil]
  refine ⟨?_, .of {}, rfl, .of {}, ⟨fun l => ?_, ?_⟩, {}, ?_, validate_scheme "classic"⟩
  · simp [overrides, Override.Readable, amber, mark, checkValue, plain]
  · cases l
    case colorScheme =>
      rw [last]
      rfl
    all_goals rfl
  · simp [Draft.of]
  · exact Draft.settings_of fun l => by cases l <;> decide +kernel

end Chip8.Settings
