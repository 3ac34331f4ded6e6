import Chip8.Proofs.Headless
import Chip8.Proofs.Loading
import Chip8.Proofs.LogLevels
import Chip8.Proofs.PlainScalar
import Chip8.Settings.Resolvers

/-! What settings that have been loaded are good for. Every tick and every frame has an instruction
at least, and the policy and the log level are known. Whether the color scheme is known has not been
looked at, and a headless run finds out about it when it comes to its picture. Numbers have no upper
bound: a seed, a count or a picture can still be too large for what takes it. -/
namespace Chip8

namespace Settings

open Yaml (Datum)

/-- Settings whose values have been checked. -/
structure Checked (s : Settings) : Prop where
  instructionFrequency : 0 < s.instructionFrequency
  timerFrequency : 0 < s.timerFrequency
  fps : 0 < s.fps
  scale : 0 < s.scale
  policy : s.onUnknownOpcode ∈ policies
  level : s.logLevel ∈ Log.Level.names

theorem bind_eq_ok {ε α β : Type} {x : Except ε α} {f : α → Except ε β} {b : β} :
    x >>= f = .ok b ↔ ∃ a, x = .ok a ∧ f a = .ok b := by
  cases x <;> simp [bind, Except.bind]

theorem pure_eq_ok {ε α : Type} {a b : α} : (pure a : Except ε α) = .ok b ↔ a = b := by
  simp [pure, Except.pure]

theorem mapError_eq_ok {ε ε' α : Type} {f : ε → ε'} {x : Except ε α} {a : α} :
    x.mapError f = .ok a ↔ x = .ok a := by
  cases x with
  | ok b => exact ⟨fun h => congrArg _ (Except.ok.inj h), fun h => congrArg _ (Except.ok.inj h)⟩
  | error e => exact ⟨nofun, nofun⟩

theorem checkPositive_eq_ok {field : String} {value : Int} {u : Unit} :
    checkPositive field value = .ok u ↔ 0 < value := by
  unfold checkPositive
  split <;> simp <;> omega

theorem checkPolicy_eq_ok {given : String} {u : Unit} :
    checkPolicy given = .ok u ↔ given ∈ policies := by
  unfold checkPolicy
  split <;> simp_all

theorem checkLevel_eq_ok {given level : String} :
    checkLevel given = .ok level ↔ level = Text.upper given ∧ level ∈ Log.Level.names := by
  simp only [checkLevel]
  split <;> simp_all [eq_comm]

/-- Settings pass when their values do; the level is then in upper case. -/
theorem validate_eq_ok {s t : Settings} :
    s.validate = .ok t ↔ t = { s with logLevel := Text.upper s.logLevel } ∧ t.Checked := by
  simp only [validate, bind_eq_ok, checkPositive_eq_ok, checkPolicy_eq_ok, checkLevel_eq_ok,
    pure_eq_ok, exists_const]
  constructor
  · rintro ⟨frequency, timer, fps, scale, policy, level, ⟨rfl, valid⟩, rfl⟩
    exact ⟨rfl, frequency, timer, fps, scale, policy, valid⟩
  · rintro ⟨rfl, frequency, timer, fps, scale, policy, valid⟩
    exact ⟨frequency, timer, fps, scale, policy, _, ⟨rfl, valid⟩, rfl⟩

variable {resolvers : Resolvers}

theorem Checked.of_load {document : Option String} {overrides : List String} {s : Settings}
    (loaded : load resolvers document overrides = .ok s) : s.Checked := by
  simp only [load, bind_eq_ok, mapError_eq_ok] at loaded
  obtain ⟨_, -, _, -, _, -, _, -, valid⟩ := loaded
  exact (validate_eq_ok.mp valid).2

/-- A clock that runs has turns of at least one instruction. -/
theorem perTurn?_of_pos {instructions clock : Int} (runs : 0 < clock) :
    ∃ n, 1 ≤ n ∧ perTurn? instructions clock = some n :=
  ⟨_, by omega, if_neg (by omega)⟩

/-- A level is its own name in upper case, so that a logger can be created with it. -/
theorem Checked.create_logger {s : Settings} (checked : s.Checked) (name : String)
    (colored : Bool) :
    Log.Logger.create name s.logLevel colored = .ok ⟨name, s.logLevel, colored⟩ := by
  have upper : ∀ level ∈ Log.Level.names, Text.upper level = level := by decide +kernel
  rw [Log.Logger.create_eq, upper _ checked.level, if_pos checked.level]

/-- A value that is neither a text with references nor one that starts with an escape. -/
def isPlain : Datum → Bool
  | .text s => !Term.isTemplate s && !s.startsWith "\\"
  | _ => true

/-- There is always room to look at the setting itself. -/
theorem Draft.value_eq (resolvers : Resolvers) (d : Draft) (l : Leaf) :
    ∃ fuel, d.value resolvers l = resolveLeaf resolvers d (fuel + 1) []
      (if l ∈ Leaf.switches then .dialect else .root) l := by
  have enough : d.bound ≠ 0 := by simp only [bound]; omega
  obtain ⟨fuel, bound⟩ := Nat.exists_eq_succ_of_ne_zero enough
  exact ⟨fuel, by rw [value, bound]⟩

theorem Draft.value_of_plain {d : Draft} {l : Leaf} (plain : isPlain (d.get l) = true) :
    d.value resolvers l = .ok (d.get l) := by
  have direct : template? (d.get l) = none ∧ unescaped (d.get l) = d.get l := by
    revert plain
    cases d.get l <;> simp +contextual [isPlain, template?, unescaped]
  obtain ⟨fuel, value⟩ := d.value_eq resolvers l
  rw [value, resolveLeaf, direct.1]
  exact congrArg _ direct.2

/-- Settings of plain values are what their draft stands for. -/
theorem Draft.settings_of {s : Settings} (plain : ∀ l, isPlain (Leaf.of s l) = true) :
    (Draft.of s).settings resolvers = .ok s := by
  have value (l : Leaf) : (Draft.of s).value resolvers l = .ok (Leaf.of s l) :=
    Draft.value_of_plain (d := .of s) (plain l)
  simp only [settings, int, text, bool, value]
  rfl

theorem load_of_merge {overrides : List String} {entries : List (Datum × Datum)} {s : Settings}
    (read : overrideEntries overrides = .ok entries)
    (merged : (Draft.of {}).merge entries = .ok (.of s))
    (plain : ∀ l, isPlain (Leaf.of s l) = true) (valid : s.validate = .ok s) :
    load resolvers none overrides = .ok s := by
  simp only [load, base, pure_bind, bind_eq_ok, mapError_eq_ok]
  exact ⟨entries, read, .of s, merged, s, Draft.settings_of plain, valid⟩

theorem checked_default : ({} : Settings).Checked :=
  ⟨by decide, by decide, by decide, by decide, by decide, by decide⟩

/-- Nobody looks at the scheme. -/
theorem Checked.withScheme {s : Settings} (checked : s.Checked) (name : String) :
    ({ s with colorScheme := name } : Settings).Checked :=
  ⟨checked.instructionFrequency, checked.timerFrequency, checked.fps, checked.scale,
    checked.policy, checked.level⟩

theorem validate_scheme (name : String) :
    ({ colorScheme := name } : Settings).validate = .ok { colorScheme := name } :=
  validate_eq_ok.mpr ⟨by rw [show Text.upper "INFO" = "INFO" by decide +kernel],
    checked_default.withScheme name⟩

theorem load_nothing : load resolvers none [] = .ok {} :=
  load_of_merge rfl rfl (fun l => by cases l <;> decide +kernel) (validate_scheme "classic")

/-- A word that is a plain scalar is read as itself. -/
theorem ofText_of_word {word : String} (printable : word.toList.all Yaml.isTextChar = true)
    (unmarked : Yaml.withoutMark word.toList = word.toList)
    (single : Yaml.tokens word.toList = ([.scalar word true, .finish], none))
    (kind : Yaml.Kind.ofPlain word = .text) : Datum.ofText word = .ok (.text word) := by
  rw [Datum.ofText_of_plain printable unmarked single, kind]
  rfl

theorem overrideEntries_pink :
    overrideEntries ["color_scheme=pink"] = .ok [(.text "color_scheme", .text "pink")] := by
  have split : splitOverride "color_scheme=pink" = ("color_scheme", some "pink") := by
    decide +kernel
  have value : Datum.ofText "pink" = .ok (.text "pink") :=
    ofText_of_word (by decide +kernel) (by decide +kernel) (by decide +kernel) (by decide +kernel)
  have names : path "color_scheme" = ["color_scheme"] := by decide +kernel
  simp only [overrideEntries, List.foldlM, addOverride, split, read, value, names]
  rfl

theorem load_pink :
    load resolvers none ["color_scheme=pink"] = .ok { colorScheme := "pink" } := by
  have replaced :
      (Draft.of {}).set .colorScheme (.text "pink") = .of { colorScheme := "pink" } := by
    simp only [Draft.set, Draft.of]
    congr
    funext l
    cases l <;> rfl
  refine load_of_merge overrideEntries_pink ?_ (fun l => by cases l <;> decide +kernel)
    (validate_scheme "pink")
  rw [← replaced]
  rfl

end Settings

namespace Scheme

def names : List String := all.map Prod.fst

theorem named_of_mem {name : String} (known : name ∈ names) :
    ∃ colors, named name = .ok colors := by
  unfold named
  cases found : all.lookup name with
  | some colors => exact ⟨colors, rfl⟩
  | none =>
    obtain ⟨entry, member, rfl⟩ := List.mem_map.mp known
    simpa using List.lookup_eq_none_iff.mp found entry member

theorem named_of_not_mem {name : String} (unknown : name ∉ names) :
    named name = .error (.unknownScheme name) := by
  have missing : all.lookup name = none := by
    refine List.lookup_eq_none_iff.mpr fun entry member => ?_
    have apart : name ≠ entry.1 := fun same => unknown (List.mem_map.mpr ⟨entry, member, same.symm⟩)
    simpa using apart
  rw [named, missing]

end Scheme

namespace Host

/-- A headless run that comes to the end of its steps with a picture to save. -/
structure PictureDue (o : CommandLine.Options) (s : Session) (steps : Int) (m : Machine)
    (h : Headless) (path : String) : Prop where
  booted : s.boot? = some m
  asked : o.steps = .value steps
  ran : s.headless steps m = some h
  running : h.halted = false
  wanted : o.screenshot = .value path
  named : path ≠ ""

/-- How a run ends that comes to its picture. -/
def endingOf {α : Type} : Except Failure α → Ending
  | .ok _ => .exit 0
  | .error f => .broken f

variable {o : CommandLine.Options} {s : Session} {steps : Int} {m : Machine} {h : Headless}
  {path : String}

theorem PictureDue.ending (due : PictureDue o s steps m h path) (painter : Painter)
    (files : Files) :
    (runHeadless painter files o s).ending = endingOf (screenshot painter files path
      s.settings.scale s.settings.colorScheme (.single h.machine.display)) := by
  have named : path.isEmpty = false := by simpa using due.named
  simp only [runHeadless, due.booted, due.asked, due.wanted, runSteps, due.ran, due.running, finish,
    named]
  cases screenshot painter files path s.settings.scale s.settings.colorScheme
    (.single h.machine.display) <;> rfl

/-- The colors of a known scheme leave the picture to the libraries and the file. -/
theorem PictureDue.ending_of_named (due : PictureDue o s steps m h path) (painter : Painter)
    (files : Files) {colors : Scheme} (known : Scheme.named s.settings.colorScheme = .ok colors) :
    (runHeadless painter files o s).ending = endingOf (save painter files path
      (Image.render s.settings.scale colors.on colors.off h.machine.display)) := by
  have taken : (Frames.single h.machine.display).screenshot s.settings.scale
      s.settings.colorScheme =
        .ok (Image.render s.settings.scale colors.on colors.off h.machine.display) := by
    rw [Frames.screenshot, known]
    rfl
  rw [due.ending, screenshot, taken]
  rfl

theorem PictureDue.ending_of_unknown (due : PictureDue o s steps m h path) (painter : Painter)
    (files : Files) (unknown : s.settings.colorScheme ∉ Scheme.names) :
    (runHeadless painter files o s).ending =
      .broken (.picture (.unknownScheme s.settings.colorScheme)) := by
  have failed : (Frames.single h.machine.display).screenshot s.settings.scale
      s.settings.colorScheme = .error (.unknownScheme s.settings.colorScheme) := by
    rw [Frames.screenshot, Scheme.named_of_not_mem unknown]
    rfl
  rw [due.ending, screenshot, failed]
  rfl

end Host

/-- A program that clears the display, in the colors of a scheme. -/
def Session.clearing (scheme : String) : Session :=
  ⟨⟨#[0x00, 0xE0], by decide⟩, { colorScheme := scheme }⟩

theorem Session.headless_clearing (scheme : String) :
    ∃ h, (clearing scheme).headless 1 ((clearing scheme).powerOn ⟨0, 0⟩) = some h ∧
      h.halted = false := by
  have word : ((clearing scheme).powerOn ⟨0, 0⟩).fetch = wordOfBytes 0x00 0xE0 :=
    Machine.fetch_of_load (p := (clearing scheme).program) rfl (k := 0) Nat.one_lt_two rfl
  have decoded : Instruction.decode? ((clearing scheme).powerOn ⟨0, 0⟩).fetch = some .clear := by
    rw [word]
    decide
  obtain ⟨w, walked, running⟩ : ∃ w, (clearing scheme).walk 1 ((clearing scheme).powerOn ⟨0, 0⟩) =
      some w ∧ w.halted = false := by
    rw [walk_of_counts rfl, Machine.cycle_of_decode decoded rfl]
    exact ⟨_, rfl, rfl⟩
  have agree := (clearing scheme).resume_agrees 1 1 (Int.self_le_toNat 1)
    ((clearing scheme).powerOn ⟨0, 0⟩) (by decide)
  rw [show (1 : Int).toNat = 1 from rfl, walked] at agree
  obtain ⟨h, ran, alike⟩ := exists_of_rel_some agree
  exact ⟨h, ran, alike.halted.trans running⟩

theorem Host.pictureDue_clearing (scheme : String) :
    ∃ h, PictureDue { rom := "a.ch8", steps := .value 1, screenshot := .value "s.png" }
      (.clearing scheme) 1 ((Session.clearing scheme).powerOn ⟨0, 0⟩) h "s.png" := by
  obtain ⟨h, ran, running⟩ := Session.headless_clearing scheme
  exact ⟨h, rfl, rfl, ran, running, rfl, by decide⟩

/-- Settings that have been loaded give every tick and every frame an instruction at least, and hold
a level and a policy that are known. A scheme of the table has its colors, and a headless run that
comes to its picture with it ends as the libraries and the file let the picture be saved. A scheme
that is not in the table breaks the run off there. -/
theorem loaded_settings_usable_up_to_scheme {resolvers : Settings.Resolvers}
    {document : Option String} {overrides : List String} {s : Settings}
    (loaded : Settings.load resolvers document overrides = .ok s) :
    (∃ n, 1 ≤ n ∧ s.perTick? = some n) ∧ (∃ n, 1 ≤ n ∧ s.perFrame? = some n) ∧
    (∀ name colored,
      Log.Logger.create name s.logLevel colored = .ok ⟨name, s.logLevel, colored⟩) ∧
    s.onUnknownOpcode ∈ Settings.policies ∧
    (s.colorScheme ∈ Scheme.names → ∃ colors, Scheme.named s.colorScheme = .ok colors) ∧
    ∀ painter files o program steps m h path,
      Host.PictureDue o ⟨program, s⟩ steps m h path →
      let ending := (Host.runHeadless painter files o ⟨program, s⟩).ending
      (∀ colors, Scheme.named s.colorScheme = .ok colors →
        ending = Host.endingOf (Host.save painter files path
          (Image.render s.scale colors.on colors.off h.machine.display))) ∧
      (s.colorScheme ∉ Scheme.names →
        ending = .broken (.picture (.unknownScheme s.colorScheme))) := by
  have checked := Settings.Checked.of_load loaded
  refine ⟨Settings.perTurn?_of_pos checked.timerFrequency, Settings.perTurn?_of_pos checked.fps,
    checked.create_logger, checked.policy, Scheme.named_of_mem, ?_⟩
  intro painter files o program steps m h path due
  constructor
  · intro colors known
    exact due.ending_of_named painter files known
  · intro unknown
    exact due.ending_of_unknown painter files unknown

/-- The default settings, which save a picture. -/
theorem loaded_settings_usable_up_to_scheme_by_default :
    let s := Session.clearing "classic"
    let m := s.powerOn ⟨0, 0⟩
    let o : CommandLine.Options :=
      { rom := "a.ch8", steps := .value 1, screenshot := .value "s.png" }
    Settings.load (.standard fun _ => none) none [] = .ok s.settings ∧
      (∃ h, Host.PictureDue o s 1 m h "s.png") ∧
      Scheme.named s.settings.colorScheme = .ok ⟨[0, 255, 0], [0, 0, 0]⟩ ∧
      (Host.runHeadless .unlimited ⟨fun _ => .error .missing, fun _ => .ok ()⟩ o s).ending =
        .exit 0 := by
  intro s m o
  have loaded : Settings.load (.standard fun _ => none) none [] = .ok s.settings :=
    Settings.load_nothing
  have known : Scheme.named s.settings.colorScheme = .ok ⟨[0, 255, 0], [0, 0, 0]⟩ := rfl
  obtain ⟨h, due⟩ := Host.pictureDue_clearing "classic"
  obtain ⟨-, -, -, -, -, ends⟩ := loaded_settings_usable_up_to_scheme loaded
  refine ⟨loaded, ⟨h, due⟩, known, ?_⟩
  have format : Format.support? (Format.extension "s.png").toLower = some (.writes .png) := by
    decide +kernel
  rw [(ends .unlimited _ o s.program 1 m h _ due).1 _ known, Host.save, Format.ofPath, format]
  rfl

/-- A scheme that does not exist is accepted, and breaks off a run that has done its steps. -/
theorem accepted_scheme_breaks_off_picture :
    let s := Session.clearing "pink"
    let m := s.powerOn ⟨0, 0⟩
    Settings.load (.standard fun _ => none) none ["color_scheme=pink"] = .ok s.settings ∧
      Scheme.named s.settings.colorScheme = .error (.unknownScheme "pink") ∧
      s.boot? = some m ∧ (s.headless 1 m).map Headless.halted = some false ∧
      (Host.runHeadless .unlimited ⟨fun _ => .error .missing, fun _ => .ok ()⟩
        { rom := "a.ch8", steps := .value 1, screenshot := .value "s.png" } s).ending =
          .broken (.picture (.unknownScheme "pink")) := by
  intro s m
  obtain ⟨h, due⟩ := Host.pictureDue_clearing "pink"
  have unknown : s.settings.colorScheme ∉ Scheme.names := by decide
  refine ⟨Settings.load_pink, Scheme.named_of_not_mem unknown, due.booted, ?_, ?_⟩
  · rw [show s.headless 1 m = some h from due.ran]
    exact congrArg some due.running
  · exact due.ending_of_unknown .unlimited _ unknown

end Chip8
