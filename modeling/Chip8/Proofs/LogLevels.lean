import Chip8.Log

/-! The levels of loggers over a history of calls that may be turned down. A call gives a level to
the logger it names; a name that is no level is turned down only after it has been put in place, so
that the logger can write nothing until it is given a level again. No other logger notices. -/
namespace Chip8.Log

theorem Level.isSome_ofName?_iff {s : String} : (ofName? s).isSome = true ↔ s ∈ names := by
  simp only [ofName?, names, List.find?_isSome, beq_iff_eq, List.mem_map]

namespace Logger

/-- A line can be written when its level and the threshold are both levels. -/
theorem isSome_log?_iff {l : Logger} {level text : String} :
    (l.log? level text).isSome = true ↔
      Text.upper level ∈ Level.names ∧ l.threshold ∈ Level.names := by
  rw [← Level.isSome_ofName?_iff, ← Level.isSome_ofName?_iff, log?]
  cases Level.ofName? (Text.upper level) with
  | none => simp
  | some given => cases found : Level.ofName? l.threshold <;> simp [write?, found]

theorem setLevel_snd (l : Logger) (given : String) :
    (l.setLevel given).2 = if Text.upper given ∈ Level.names then none else some ⟨given⟩ := by
  simp only [setLevel, Level.isSome_ofName?_iff]

/-- A logger is created with a level or not at all. -/
theorem create_eq (name level : String) (colored : Bool) :
    create name level colored =
      if Text.upper level ∈ Level.names then .ok ⟨name, Text.upper level, colored⟩
      else .error ⟨level⟩ := by
  simp only [create, setLevel, Level.isSome_ofName?_iff]
  split <;> simp_all

end Logger

/-- The error with which a call is turned down. -/
def refusal {α : Type} : Except UnknownLevel α → Option UnknownLevel
  | .ok _ => none
  | .error e => some e

namespace Registry

theorem find?_name {r : Registry} {name : String} {l : Logger} (found : r.find? name = some l) :
    l.name = name := by
  simpa using List.find?_some found

theorem find?_replace (r : Registry) (l : Logger) (name : String) :
    (r.replace l).find? name =
      if name = l.name then (r.find? name).map fun _ => l else r.find? name := by
  simp only [replace, find?]
  induction r.loggers with
  | nil => simp
  | cons k ks ih =>
    by_cases same : k.name = l.name <;> by_cases wanted : k.name = name <;> grind

theorem find?_append {r : Registry} {l : Logger} (missing : r.find? l.name = none)
    (name : String) :
    (⟨r.loggers ++ [l]⟩ : Registry).find? name =
      if name = l.name then some l else r.find? name := by
  simp only [find?] at missing ⊢
  by_cases same : name = l.name
  · simp [List.find?_append, same, missing]
  · simp [List.find?_append, same, Ne.symm same]

/-- A logger that is there already is given the level, whether or not it is one. -/
theorem get_of_some {r : Registry} {name : String} {l : Logger} (found : r.find? name = some l)
    (level : String) :
    (r.get name (some level)).1 = r.replace (l.setLevel level).1 ∧
      refusal (r.get name (some level)).2 = (l.setLevel level).2 := by
  simp only [get, found]
  split <;> simp_all [refusal]

theorem get_of_none {r : Registry} {name : String} (missing : r.find? name = none)
    (level : Option String) :
    (∃ l, l.threshold ∈ Level.names ∧ l.name = name ∧
        r.get name level = (⟨r.loggers ++ [l]⟩, .ok l)) ∨
      ∃ e, Text.upper e.name ∉ Level.names ∧ r.get name level = (r, .error e) := by
  simp only [get, missing]
  generalize (if (level.getD "").isEmpty then "INFO" else level.getD "") = level
  rw [Logger.create_eq]
  by_cases valid : Text.upper level ∈ Level.names
  · exact .inl ⟨⟨name, Text.upper level, false⟩, valid, rfl, by simp only [if_pos valid]⟩
  · exact .inr ⟨⟨level⟩, valid, by simp only [if_neg valid]⟩

end Registry

/-- How a caller gets at a logger: one of its own by its number, a shared one by its name. -/
inductive Handle
  | own (k : Nat)
  | shared (name : String)
deriving DecidableEq

structure Loggers where
  /-- Those that were created one by one. -/
  own : List Logger
  shared : Registry

/-- What a caller can do about levels. -/
inductive Call
  | create (name level : String) (colored : Bool)
  | get (name : String) (level : Option String)
  | setLevel (h : Handle) (level : String)

/-- The level that a call gives to the logger behind a handle, if it is there already. -/
def Call.given? (h : Handle) : Call → Option String
  | .create _ _ _ => none
  | .get name level => if h = .shared name then level else none
  | .setLevel target level => if h = target then some level else none

namespace Loggers

def empty : Loggers := ⟨[], .empty⟩

def find? (s : Loggers) : Handle → Option Logger
  | .own k => s.own[k]?
  | .shared name => s.shared.find? name

def put (s : Loggers) (l : Logger) : Handle → Loggers
  | .own k => { s with own := s.own.set k l }
  | .shared _ => { s with shared := s.shared.replace l }

/-- The loggers after a call, and the error with which it is turned down. -/
def call (s : Loggers) : Call → Loggers × Option UnknownLevel
  | .create name level colored =>
    match Logger.create name level colored with
    | .ok l => ({ s with own := s.own ++ [l] }, none)
    | .error e => (s, some e)
  | .get name level =>
    ({ s with shared := (s.shared.get name level).1 }, refusal (s.shared.get name level).2)
  | .setLevel h level =>
    match s.find? h with
    | none => (s, none)
    | some l => (s.put (l.setLevel level).1 h, (l.setLevel level).2)

theorem find?_put {s : Loggers} {h : Handle} {l : Logger} (found : s.find? h = some l)
    (level : String) (h' : Handle) :
    (s.put (l.setLevel level).1 h).find? h' =
      if h' = h then some (l.setLevel level).1 else s.find? h' := by
  cases h with
  | own k =>
    have bound : k < s.own.length := (List.getElem?_eq_some_iff.mp found).1
    cases h' with
    | own j => by_cases same : j = k <;> simp [put, find?, List.getElem?_set, bound, same, eq_comm]
    | shared name => simp [put, find?]
  | shared name =>
    have found : s.shared.find? name = some l := found
    have named : (l.setLevel level).1.name = name := Registry.find?_name (l := l) found
    cases h' with
    | own j => simp [put, find?]
    | shared other =>
      by_cases same : other = name <;> simp [put, find?, Registry.find?_replace, named, same, found]

/-- What a call does to the loggers that are there, and to those that are not. -/
inductive Effect (s : Loggers) (c : Call) : Loggers × Option UnknownLevel → Prop
  /-- A call that reaches no logger, turned down or not. -/
  | nothing (e : Option UnknownLevel) (idle : ∀ h, (s.find? h).isSome → c.given? h = none)
      (invalid : ∀ e', e = some e' → Text.upper e'.name ∉ Level.names) : Effect s c (s, e)
  /-- A logger comes in behind a new handle. -/
  | added (s' : Loggers) (h : Handle) (l : Logger)
      (idle : ∀ h, (s.find? h).isSome → c.given? h = none) (missing : s.find? h = none)
      (new : ∀ h', s'.find? h' = if h' = h then some l else s.find? h')
      (valid : l.threshold ∈ Level.names) : Effect s c (s', none)
  /-- One logger is given a level, and the answer is the one of that logger. -/
  | given (h : Handle) (l : Logger) (level : String) (found : s.find? h = some l)
      (only : ∀ h', c.given? h' = if h' = h then some level else none) :
      Effect s c (s.put (l.setLevel level).1 h, (l.setLevel level).2)

theorem call_effect (s : Loggers) (c : Call) : Effect s c (s.call c) := by
  cases c with
  | create name level colored =>
    simp only [call, Logger.create_eq]
    by_cases valid : Text.upper level ∈ Level.names
    · simp only [if_pos valid]
      refine .added _ (.own s.own.length) ⟨name, Text.upper level, colored⟩ (fun _ _ => rfl)
        (by simp [find?]) (fun h' => ?_) valid
      cases h' with
      | own j => grind [find?]
      | shared name => simp [find?]
    · simp only [if_neg valid]
      exact .nothing _ (fun _ _ => rfl) fun e' same => by cases same; exact valid
  | get name level =>
    cases found : s.find? (.shared name) with
    | none =>
      have idle (h : Handle) (there : (s.find? h).isSome) :
          (Call.get name level).given? h = none := by
        refine if_neg fun same => ?_
        simp [same, found] at there
      obtain ⟨l, valid, named, made⟩ | ⟨e, invalid, refused⟩ :=
        Registry.get_of_none (r := s.shared) found level
      · simp only [call, made, refusal]
        refine .added _ (.shared name) l idle found (fun h' => ?_) valid
        cases h' with
        | own j => simp [find?]
        | shared other =>
          subst named
          simpa [find?] using Registry.find?_append found other
      · simp only [call, refused, refusal]
        exact .nothing _ idle fun e' same => by cases same; exact invalid
    | some l =>
      cases level with
      | none =>
        have kept : s.shared.get name none = (s.shared, .ok l) := by
          simp only [Registry.get, show s.shared.find? name = some l from found]
        simp only [call, kept, refusal]
        exact .nothing _ (fun h _ => by simp [Call.given?]) (by simp)
      | some level =>
        obtain ⟨replaced, answer⟩ := Registry.get_of_some (r := s.shared) found level
        simp only [call, replaced, answer]
        exact .given (.shared name) l level found fun h' => rfl
  | setLevel h level =>
    cases found : s.find? h with
    | none =>
      simp only [call, found]
      refine .nothing _ (fun h' there => if_neg fun same => ?_) (by simp)
      simp [same, found] at there
    | some l =>
      simp only [call, found]
      exact .given h l level found fun h' => rfl

section Effect

variable {s : Loggers} {c : Call} {r : Loggers × Option UnknownLevel} {h : Handle} {l : Logger}

theorem Effect.find?_of_some (effect : Effect s c r) (found : s.find? h = some l) :
    r.1.find? h = some ((c.given? h).elim l fun level => (l.setLevel level).1) := by
  have there : (s.find? h).isSome := by simp [found]
  cases effect with
  | nothing e idle => simp [idle h there, found]
  | added s' new _ idle missing others =>
    have apart : h ≠ new := by rintro rfl; simp [missing] at there
    simp [others, apart, idle h there, found]
  | given target l' level found' only =>
    rw [find?_put found', only]
    by_cases same : h = target
    · subst same
      obtain rfl : l = l' := by simpa [found] using found'
      simp
    · simp [same, found]

/-- A logger that comes in has a level. -/
theorem Effect.threshold_of_none (effect : Effect s c r) (missing : s.find? h = none)
    (found : r.1.find? h = some l) : l.threshold ∈ Level.names := by
  cases effect with
  | nothing => simp [missing] at found
  | added s' new l' _ _ others valid =>
    rw [others] at found
    by_cases same : h = new <;> simp_all
  | given target l' level found' =>
    have apart : h ≠ target := by rintro rfl; simp [missing] at found'
    simp [find?_put found', apart, missing] at found

/-- A call that gives a level to a logger is turned down when that is no level. -/
theorem Effect.refused_of_given (effect : Effect s c r) (found : s.find? h = some l)
    {level : String} (given : c.given? h = some level) :
    r.2.isSome = true ↔ Text.upper level ∉ Level.names := by
  have there : (s.find? h).isSome := by simp [found]
  cases effect with
  | nothing _ idle => simp [idle h there] at given
  | added _ _ _ idle => simp [idle h there] at given
  | given target _ level' _ only =>
    obtain rfl : level' = level := by
      rw [only] at given
      by_cases same : h = target <;> simp_all
    simp [Logger.setLevel_snd]

/-- A call that is turned down brings in no logger and replaces the level of the one it names. -/
theorem Effect.of_refused (effect : Effect s c r) {e : UnknownLevel} (refused : r.2 = some e) :
    Text.upper e.name ∉ Level.names ∧ ∀ h, r.1.find? h = (s.find? h).map fun l =>
      if c.given? h = none then l else { l with threshold := Text.upper e.name } := by
  cases effect with
  | nothing _ idle invalid =>
    refine ⟨invalid e refused, fun h => ?_⟩
    cases found : s.find? h with
    | none => rfl
    | some l => simp [idle h (by simp [found])]
  | added => cases refused
  | given target l level found only =>
    have invalid : Text.upper level ∉ Level.names := by
      intro valid
      simp [Logger.setLevel_snd, valid] at refused
    obtain rfl : (⟨level⟩ : UnknownLevel) = e := by
      simpa [Logger.setLevel_snd, invalid] using refused
    refine ⟨invalid, fun h => ?_⟩
    rw [find?_put found, only]
    by_cases same : h = target
    · subst same
      simp [found, Logger.setLevel]
    · simp [same]

end Effect

/-- The loggers after a history of calls, the last call first. -/
def after : List Call → Loggers
  | [] => empty
  | c :: past => ((after past).call c).1

/-- Whether the last call that gave a level to the logger behind a handle was turned down. -/
def spoiled (h : Handle) : List Call → Bool
  | [] => false
  | c :: past =>
    if ((after past).find? h).isSome ∧ (c.given? h).isSome then ((after past).call c).2.isSome
    else spoiled h past

theorem spoiled_of_missing {h : Handle} {past : List Call} (missing : (after past).find? h = none) :
    spoiled h past = false := by
  induction past with
  | nil => rfl
  | cons c past ih =>
    -- No call takes a logger away, so it was not there before the last one either.
    cases found : (after past).find? h with
    | none => simpa [spoiled, found] using ih found
    | some l =>
      have kept := (call_effect (after past) c).find?_of_some found
      exact absurd (missing.symm.trans kept) (by simp)

/-- A logger is without a level just when the last call that gave it one was turned down. -/
theorem threshold_mem_iff {h : Handle} {past : List Call} {l : Logger}
    (found : (after past).find? h = some l) :
    l.threshold ∈ Level.names ↔ spoiled h past = false := by
  induction past generalizing l with
  | nil => cases h <;> simp [after, empty, find?, Registry.empty, Registry.find?] at found
  | cons c past ih =>
    have effect := call_effect (after past) c
    cases before : (after past).find? h with
    | none =>
      have clean : spoiled h (c :: past) = false := by
        simpa [spoiled, before] using spoiled_of_missing before
      simp [clean, effect.threshold_of_none before found]
    | some l' =>
      have now := (effect.find?_of_some before).symm.trans found
      cases given : c.given? h with
      | none =>
        obtain rfl : l' = l := by simpa [given] using now
        simpa [spoiled, given] using ih before
      | some level =>
        obtain rfl : (l'.setLevel level).1 = l := by simpa [given] using now
        have refused := effect.refused_of_given before given
        simp [spoiled, before, given, Logger.setLevel, Bool.eq_false_iff, refused]

/-- A call that is turned down leaves its level with the logger it names and every other logger as
it was. That logger can write no line at all until a call that gives it a level is accepted. -/
theorem refused_level_stays_in_place (past : List Call) :
    (∀ c e, ((after past).call c).2 = some e → Text.upper e.name ∉ Level.names ∧
      ∀ h, ((after past).call c).1.find? h = ((after past).find? h).map fun l =>
        if c.given? h = none then l else { l with threshold := Text.upper e.name }) ∧
    ∀ h l, (after past).find? h = some l → ∀ level text, Text.upper level ∈ Level.names →
      (l.log? level text = none ↔ spoiled h past = true) := by
  constructor
  · intro c e refused
    exact (call_effect (after past) c).of_refused refused
  · intro h l found level text valid
    have writable : (l.log? level text).isSome = true ↔ spoiled h past = false := by
      rw [Logger.isSome_log?_iff, threshold_mem_iff found, and_iff_right valid]
    rw [← Option.not_isSome_iff_eq_none, writable, Bool.not_eq_false]

theorem refused_level_stays_in_place_on_shared_logger :
    let past : List Call := [.setLevel (.shared "chipax") "loud", .get "chipax" none]
    (after past).find? (.shared "chipax") = some ⟨"chipax", "LOUD", false⟩ ∧
      Text.upper "warning" ∈ Level.names ∧
      Logger.log? ⟨"chipax", "LOUD", false⟩ "warning" "low battery" = none := by
  refine ⟨by decide +kernel, by decide +kernel, ?_⟩
  exact ((refused_level_stays_in_place [.setLevel (.shared "chipax") "loud", .get "chipax" none]).2
    (.shared "chipax") _ (by decide +kernel) _ _ (by decide +kernel)).mpr (by decide +kernel)

/-- A logger that writes loses its level to a call that is turned down, and then writes nothing. -/
theorem turned_down_call_changes_level :
    let before := after [.get "chipax" none]
    let c : Call := .setLevel (.shared "chipax") "LOUD"
    (before.call c).2 = some ⟨"LOUD"⟩ ∧
      before.find? (.shared "chipax") = some ⟨"chipax", "INFO", false⟩ ∧
      (before.call c).1.find? (.shared "chipax") = some ⟨"chipax", "LOUD", false⟩ ∧
      "LOUD" ∉ Level.names ∧
      (Logger.log? ⟨"chipax", "INFO", false⟩ "INFO" "still here").isSome = true ∧
      Logger.log? ⟨"chipax", "LOUD", false⟩ "INFO" "still here" = none := by
  decide +kernel

end Loggers
end Chip8.Log
