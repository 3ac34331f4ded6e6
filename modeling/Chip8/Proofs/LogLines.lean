import Chip8.Proofs.LogLevels
import Mathlib.Data.List.Flatten

/-! A stream of log calls read back as lines. Whatever breaks a message holds, every line of the
stream stands behind its own label, the lines are those of the messages in order, and a higher
threshold only takes lines away. -/
namespace Chip8

namespace Text

def Unbroken (cs : List Char) : Prop := ∀ c ∈ cs, isBreak c = false

@[simp] theorem unbroken_nil : Unbroken [] := by simp [Unbroken]

@[simp] theorem unbroken_cons {c : Char} {cs : List Char} :
    Unbroken (c :: cs) ↔ isBreak c = false ∧ Unbroken cs := List.forall_mem_cons

@[simp] theorem unbroken_append {a b : List Char} : Unbroken (a ++ b) ↔ Unbroken a ∧ Unbroken b :=
  List.forall_mem_append

theorem ne_return_of_not_isBreak {c : Char} (plain : isBreak c = false) : c ≠ '\r' := by
  rintro rfl
  exact absurd plain (by decide)

theorem unbroken_of_mem_splitLines {cs line : List Char} (member : line ∈ splitLines cs) :
    Unbroken line := by
  fun_induction splitLines cs generalizing line with
  | case1 => simp at member
  | case2 rest ih =>
    obtain rfl | later := List.mem_cons.mp member
    · exact unbroken_nil
    · exact ih later
  | case3 c rest _ _ ih =>
    obtain rfl | later := List.mem_cons.mp member
    · exact unbroken_nil
    · exact ih later
  | case4 c rest _ plain none ih =>
    obtain rfl := List.mem_singleton.mp member
    exact unbroken_cons.mpr ⟨by simpa using plain, unbroken_nil⟩
  | case5 c rest _ plain first more found ih =>
    rw [found] at ih
    obtain rfl | later := List.mem_cons.mp member
    · exact unbroken_cons.mpr ⟨by simpa using plain, ih List.mem_cons_self⟩
    · exact ih (List.mem_cons_of_mem _ later)

example : ['\n', '\r', '\x0b', '\x0c', '\x1c', '\x1d', '\x1e', '\u0085', '\u2028', '\u2029'].all
    isBreak = true := by decide

theorem splitLines_unbroken_append {line : List Char} (unbroken : Unbroken line)
    (rest : List Char) : splitLines (line ++ '\n' :: rest) = line :: splitLines rest := by
  induction line with
  | nil => simp [splitLines, isBreak]
  | cons c line ih =>
    obtain ⟨plain, unbroken⟩ := unbroken_cons.mp unbroken
    have noReturn := ne_return_of_not_isBreak plain
    rw [List.cons_append, splitLines, ih unbroken]
    · simp [plain]
    · intro more same
      exact absurd same noReturn

/-- Lines without breaks, each ended by a newline, are read back as they are. -/
theorem lines_join {ls : List String} (unbroken : ∀ line ∈ ls, Unbroken line.toList) :
    lines (String.join (ls.map (· ++ "\n"))) = ls := by
  have ended : (String.join (ls.map (· ++ "\n"))).toList =
      (ls.map String.toList).flatMap (· ++ ['\n']) := by
    simp [String.toList_join, List.flatMap_map]
  have split : splitLines ((ls.map String.toList).flatMap (· ++ ['\n'])) =
      ls.map String.toList := by
    clear ended
    induction ls with
    | nil => rfl
    | cons line ls ih =>
      obtain ⟨first, unbroken⟩ := List.forall_mem_cons.mp unbroken
      simp only [List.map_cons, List.flatMap_cons, List.append_assoc, List.singleton_append]
      rw [splitLines_unbroken_append first, ih unbroken]
  rw [lines, ended, split, List.map_map]
  simp [Function.comp_def]

theorem unbroken_of_mem_lines {s line : String} (member : line ∈ lines s) :
    Unbroken line.toList := by
  obtain ⟨cs, inside, rfl⟩ := List.mem_map.mp member
  simpa using unbroken_of_mem_splitLines inside

end Text

namespace Log

namespace Level

theorem mem_names_iff {s : String} : s ∈ names ↔ ∃ l : Level, l.name = s := by
  constructor
  · intro member
    obtain ⟨l, -, rfl⟩ := List.mem_map.mp member
    exact ⟨l, rfl⟩
  · rintro ⟨l, rfl⟩
    cases l <;> decide

theorem ofName?_name (l : Level) : ofName? l.name = some l := by
  cases l <;> decide

theorem idxOf_name (l : Level) : names.idxOf l.name = l.rank := by
  cases l <;> decide

end Level

/-- A log call: the name of a level, in any case, and a text. -/
structure Message where
  level : String
  text : String

namespace Message

/-- The label in front of every line at a level: the level in eight columns, and a name. -/
def label (name level : String) : String :=
  "[" ++ String.ofList (level.toList.leftpad 8 ' ') ++ "][" ++ name ++ "]"

/-- The lines of the text, at least one. -/
def body (m : Message) : List String := if Text.lines m.text = [] then [""] else Text.lines m.text

/-- The lines that a message takes up in the log of a logger with a name and a threshold. -/
def printed (name threshold : String) (m : Message) : List String :=
  if Level.names.idxOf threshold ≤ Level.names.idxOf (Text.upper m.level) then
    m.body.map (label name (Text.upper m.level) ++ " " ++ ·)
  else []

theorem body_eq (m : Message) : m.body = Logger.messageLines m.text := by
  cases found : Text.lines m.text <;> simp [body, Logger.messageLines, found]

theorem unbroken_of_mem_body {m : Message} {line : String} (member : line ∈ m.body) :
    Text.Unbroken line.toList := by
  unfold body at member
  split at member
  · obtain rfl := List.mem_singleton.mp member
    exact Text.unbroken_nil
  · exact Text.unbroken_of_mem_lines member

theorem unbroken_label {name : String} (unbroken : Text.Unbroken name.toList) (l : Level) :
    Text.Unbroken (label name l.name).toList := by
  have level : Text.Unbroken (l.name.toList.leftpad 8 ' ') := by
    cases l <;> simp [Level.name, List.leftpad, Text.isBreak]
  simpa [label, unbroken, Text.isBreak] using level

theorem unbroken_of_mem_printed {name threshold line : String} {m : Message}
    (unbroken : Text.Unbroken name.toList) (valid : Text.upper m.level ∈ Level.names)
    (member : line ∈ m.printed name threshold) : Text.Unbroken line.toList := by
  obtain ⟨l, same⟩ := Level.mem_names_iff.mp valid
  unfold printed at member
  split at member
  · obtain ⟨rest, inside, rfl⟩ := List.mem_map.mp member
    simp [← same, unbroken_label unbroken l, unbroken_of_mem_body inside, Text.isBreak]
  · simp at member

theorem label_of_mem_printed {name threshold line : String} {m : Message}
    (member : line ∈ m.printed name threshold) :
    (label name (Text.upper m.level) ++ " ").toList <+: line.toList := by
  unfold printed at member
  split at member
  · obtain ⟨rest, -, rfl⟩ := List.mem_map.mp member
    exact ⟨rest.toList, String.toList_append.symm⟩
  · simp at member

/-- A higher threshold shows the same lines of a message, or none. -/
theorem printed_sublist {name low high : String}
    (raised : Level.names.idxOf low ≤ Level.names.idxOf high) (m : Message) :
    (m.printed name high).Sublist (m.printed name low) := by
  by_cases shown : Level.names.idxOf high ≤ Level.names.idxOf (Text.upper m.level)
  · have before : Level.names.idxOf low ≤ Level.names.idxOf (Text.upper m.level) := by omega
    simp only [printed, if_pos shown, if_pos before, List.Sublist.refl]
  · simp only [printed, if_neg shown, List.nil_sublist]

end Message

namespace Logger

/-- All that a series of log calls writes, if every one of them can be written. -/
def stream? (l : Logger) (ms : List Message) : Option String :=
  (ms.mapM fun m => l.log? m.level m.text).map String.join

theorem lead_eq {l : Logger} (plain : l.colored = false) (level : Level) :
    l.lead level = Message.label l.name level.name := by
  have aligned : Text.padLeft 8 ' ' level.name =
      String.ofList (level.name.toList.leftpad 8 ' ') := by
    cases level <;> decide +kernel
  simp [lead, Message.label, plain, aligned, String.append_assoc]

/-- A call whose level and whose threshold are levels writes the lines of its message. -/
theorem log?_eq {l : Logger} (plain : l.colored = false) (threshold : l.threshold ∈ Level.names)
    {m : Message} (valid : Text.upper m.level ∈ Level.names) :
    l.log? m.level m.text =
      some (String.join ((m.printed l.name l.threshold).map (· ++ "\n"))) := by
  obtain ⟨level, given⟩ := Level.mem_names_iff.mp valid
  obtain ⟨least, least_name⟩ := Level.mem_names_iff.mp threshold
  simp only [log?, write?, Message.printed, ← given, ← least_name, Level.ofName?_name,
    Level.idxOf_name]
  by_cases enabled : least.rank ≤ level.rank
  · simp [enabled, format, lead_eq plain, Message.body_eq, Function.comp_def]
  · simp [enabled]

theorem stream?_eq {l : Logger} (plain : l.colored = false)
    (threshold : l.threshold ∈ Level.names) {ms : List Message}
    (valid : ∀ m ∈ ms, Text.upper m.level ∈ Level.names) :
    l.stream? ms = some (String.join
      ((ms.flatMap (Message.printed l.name l.threshold)).map (· ++ "\n"))) := by
  have written : ms.mapM (fun m => l.log? m.level m.text) =
      some (ms.map fun m => String.join ((m.printed l.name l.threshold).map (· ++ "\n"))) := by
    induction ms with
    | nil => rfl
    | cons m ms ih =>
      obtain ⟨first, valid⟩ := List.forall_mem_cons.mp valid
      simp [List.mapM_cons, log?_eq plain threshold first, ih valid]
  rw [stream?, written, Option.map_some]
  congr 1
  rw [← String.toList_inj]
  simp [String.toList_join, List.flatMap_map, List.map_flatMap, List.flatMap_assoc]

/-- Every line of a stream has a label, the lines are those of the messages whose level reaches the
threshold, and a higher threshold only takes lines away. -/
theorem stream_lines_labelled {l : Logger} (plain : l.colored = false)
    (unbroken : ∀ c ∈ l.name.toList, Text.isBreak c = false)
    (threshold : l.threshold ∈ Level.names) {ms : List Message}
    (valid : ∀ m ∈ ms, Text.upper m.level ∈ Level.names) :
    ∃ out, l.stream? ms = some out ∧
      Text.lines out = ms.flatMap (Message.printed l.name l.threshold) ∧
      (∀ line ∈ Text.lines out, ∃ level ∈ Level.names,
        (Message.label l.name level ++ " ").toList <+: line.toList) ∧
      ∀ higher ∈ Level.names, Level.names.idxOf l.threshold ≤ Level.names.idxOf higher →
        ∃ out', ({ l with threshold := higher } : Logger).stream? ms = some out' ∧
          (Text.lines out').Sublist (Text.lines out) := by
  have read (level : String) : Text.lines (String.join
      ((ms.flatMap (Message.printed l.name level)).map (· ++ "\n"))) =
        ms.flatMap (Message.printed l.name level) := by
    refine Text.lines_join fun line member => ?_
    obtain ⟨m, inside, member⟩ := List.mem_flatMap.mp member
    exact Message.unbroken_of_mem_printed unbroken (valid m inside) member
  refine ⟨_, stream?_eq plain threshold valid, read _, ?_, ?_⟩
  · intro line member
    rw [read] at member
    obtain ⟨m, inside, member⟩ := List.mem_flatMap.mp member
    exact ⟨Text.upper m.level, valid m inside, Message.label_of_mem_printed member⟩
  · intro higher level raised
    refine ⟨_, stream?_eq (l := { l with threshold := higher }) plain level valid, ?_⟩
    rw [read, read]
    exact List.Sublist.flatMap_right ms fun m _ => Message.printed_sublist raised m

theorem stream_lines_labelled_across_breaks :
    let l : Logger := ⟨"chipax", "INFO", false⟩
    let ms : List Message :=
      [⟨"warning", "low\r\nbattery\x0b\u2028"⟩, ⟨"debug", "left out"⟩, ⟨"Info", ""⟩]
    l.colored = false ∧ (∀ c ∈ l.name.toList, Text.isBreak c = false) ∧
      l.threshold ∈ Level.names ∧ (∀ m ∈ ms, Text.upper m.level ∈ Level.names) ∧
      ∃ out, l.stream? ms = some out ∧ Text.lines out =
        ["[ WARNING][chipax] low", "[ WARNING][chipax] battery", "[ WARNING][chipax] ",
          "[    INFO][chipax] "] := by
  intro l ms
  have unbroken : ∀ c ∈ l.name.toList, Text.isBreak c = false := by
    have all : l.name.toList.all (fun c => !Text.isBreak c) = true := by decide +kernel
    simpa using all
  have threshold : l.threshold ∈ Level.names := by decide
  have valid : ∀ m ∈ ms, Text.upper m.level ∈ Level.names := by decide +kernel
  have printed : ms.flatMap (Message.printed l.name l.threshold) =
      ["[ WARNING][chipax] low", "[ WARNING][chipax] battery", "[ WARNING][chipax] ",
        "[    INFO][chipax] "] := by decide +kernel
  obtain ⟨out, written, lines, -⟩ := stream_lines_labelled rfl unbroken threshold valid
  exact ⟨rfl, unbroken, threshold, valid, out, written, lines.trans printed⟩

end Logger

end Log

end Chip8
