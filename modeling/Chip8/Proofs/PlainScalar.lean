import Chip8.Settings.Layer

/-! A text without gaps that starts with no mark is a single plain scalar. The scanner holds it back
as long as it may turn out to be a key, and lets go of it at the end or when it gets too long. -/
namespace Chip8.Yaml

/-- Characters of which plain text is made without a break. -/
def isSolid (c : Char) : Bool := !isGap c && c != ':'

namespace Layout

/-- The place in front of a text. -/
def start (cs : List Char) : Layout := { cursor := { rest := cs } }

/-- The place behind a text of one line. -/
def behind (cs : List Char) : Cursor := ⟨[], cs.length, 0, cs.length⟩

def firstCandidate : Candidate := ⟨false, 0, 0, 0, 0⟩

/-- Behind a token that fills the text, which may still turn out to be a key. -/
def filledBy (cs : List Char) (t : Token) : Layout :=
  ⟨behind cs, -1, [], false, [some firstCandidate], [t], 0⟩

end Layout

theorem Lexeme.plainRun_solid {cs : List Char} (solid : ∀ c ∈ cs, isSolid c = true)
    (acc : List Char) : plainRun false acc cs = .ok (cs.reverse ++ acc, []) := by
  induction cs generalizing acc with
  | nil => rfl
  | cons c cs ih =>
    obtain ⟨first, solid⟩ := List.forall_mem_cons.mp solid
    simp only [isSolid, Bool.and_eq_true, Bool.not_eq_true', bne_iff_ne] at first
    simp [plainRun, first, ih solid]

namespace Layout

/-- A text without gaps is one plain scalar. -/
theorem fetchPlain_start {cs : List Char} (filled : cs ≠ []) (solid : ∀ c ∈ cs, isSolid c = true)
    (unmarked : ({ rest := cs } : Cursor).atDocumentMark = false) (open_ : cs.head? ≠ some '#') :
    (start cs).fetchPlain = .ok (filledBy cs (.scalar (String.ofList cs) true)) := by
  have whole : cs.reverse.isEmpty = false := by simpa using filled
  have uncommented : ({ rest := cs } : Cursor).sees '#' = false := by
    simpa [Cursor.sees] using open_
  have saved : (start cs).saveCandidate =
      .ok { start cs with candidates := [some firstCandidate] } := rfl
  have scanned : Lexeme.scanPlain false (-1) { rest := cs } =
      .ok ((.scalar (String.ofList cs) true, false), behind cs) := by
    simp [Lexeme.scanPlain, Lexeme.plainFrom, unmarked, uncommented, whole, Cursor.skip, Gap.text,
      Lexeme.plainRun_solid solid, behind, bind, Except.bind, startsGap]
    rfl
  rw [fetchPlain, saved]
  change Lexeme.scanPlain false (-1) { rest := cs } >>= _ = _
  rw [scanned]
  rfl

/-- The characters that start something other than plain text wherever they stand. -/
def marks : List Char :=
  ['%', '[', '\x7b', ']', '\x7d', ',', '?', ':', '*', '&', '!', '|', '>', '\x27', '"', '#']

/-- A text that starts with no mark starts with plain text. -/
theorem fetch_start {x : Char} {after : List Char} (solid : isSolid x = true)
    (inside : x ≠ '\ufeff') (first : x ∉ indicators ∨ x = '-' ∧ startsGap after = false)
    (unmarked : ({ rest := x :: after } : Cursor).atDocumentMark = false) :
    (start (x :: after)).fetch = (start (x :: after)).fetchPlain := by
  simp only [isSolid, isGap, isBlank, Bool.and_eq_true, Bool.not_eq_true', Bool.or_eq_false_iff,
    beq_eq_false_iff_ne] at solid
  obtain ⟨⟨⟨noSpace, noTab⟩, noBreak⟩, -⟩ := solid
  rw [Cursor.atDocumentMark, Bool.or_eq_false_iff] at unmarked
  have apart : ∀ y ∈ marks, x ≠ y := by
    rintro y mark rfl
    obtain other | ⟨rfl, -⟩ := first
    · have all : marks.all (fun y => decide (y ∈ indicators)) = true := by decide
      exact other (of_decide_eq_true (List.all_eq_true.mp all x mark))
    · exact absurd mark (by decide)
  simp only [marks, List.forall_mem_cons, List.not_mem_nil, false_imp_iff, implies_true,
    and_true] at apart
  have item : (decide (x = '-') && startsGap after) = false := by
    obtain other | ⟨-, more⟩ := first
    · have noMinus : x ≠ '-' := by
        rintro rfl
        exact other (by decide)
      simp [noMinus]
    · simp [more]
  have plain : startsPlain false x after = true := by
    obtain other | ⟨rfl, more⟩ := first
    · simp [startsPlain, isGap, isBlank, noSpace, noTab, noBreak, other]
    · cases after with
      | nil => simp [startsGap] at more
      | cons y after =>
        simp only [startsGap, isGap, Bool.or_eq_false_iff] at more
        simp [startsPlain, more]
  have skipped : skipFiller ((start (x :: after)).cursor.rest.length + 1) (start (x :: after)) =
      start (x :: after) := by
    simp [skipFiller, start, inFlow, Cursor.sees, inside, noSpace, Cursor.skipWhile, Cursor.skip,
      Cursor.atLineEnd, noBreak, apart]
  have kept : (start (x :: after)).dropStale = .ok (start (x :: after)) := rfl
  have flat : (start (x :: after)).unindentTo ((0 : Nat) : Int) = start (x :: after) := rfl
  have here : (start (x :: after)).cursor = { rest := x :: after } := rfl
  have block : (start (x :: after)).inFlow = false := rfl
  rw [fetch, skipped, kept]
  change (if (decide (x = '%') && (0 == 0)) = true then _ else _) = _
  simp only [here, flat, block, unmarked, item, plain, apart, decide_false, Bool.false_and,
    Bool.or_false, Bool.false_eq_true, if_false, if_true]

/-- Behind a text of one line there is only the end, whether or not a key could still start. -/
theorem fetch_behind {cs : List Char} (filled : cs ≠ []) {l : Layout}
    (there : l.cursor = behind cs) (flat : l.indent = -1)
    (free : l.candidates = [none] ∨ l.candidates = [some firstCandidate]) :
    l.fetch = .ok { l with
      keyAllowed := false, cursor := ⟨[], cs.length, 1, 0⟩, candidates := [none],
      queue := l.queue ++ [.finish] } := by
  obtain ⟨cursor, indent, outer, keyAllowed, candidates, queue, released⟩ := l
  dsimp only at there flat free
  subst there flat
  have inside : ¬(cs.length : Int) < -1 := by omega
  have skipped : skipFiller ((behind cs).rest.length + 1)
      ⟨behind cs, -1, outer, keyAllowed, candidates, queue, released⟩ =
        ⟨behind cs, -1, outer, keyAllowed, candidates, queue, released⟩ := by
    simp [skipFiller, behind, Cursor.skipWhile, Cursor.skip, Cursor.sees, Cursor.atLineEnd]
  rw [fetch, skipped]
  obtain rfl | rfl := free
  · simp [dropStale, bind, Except.bind, unindentTo, inFlow, unindent, behind, fetchFinish, filled,
      inside, dropCandidate, push]
    rfl
  · by_cases stale : maxKeyLength < cs.length
    · simp [dropStale, isStale, firstCandidate, stale, bind, Except.bind, unindentTo, inFlow,
        unindent, behind, fetchFinish, filled, inside, dropCandidate, push]
      rfl
    · simp [dropStale, isStale, firstCandidate, stale, bind, Except.bind, unindentTo, inFlow,
        unindent, behind, fetchFinish, filled, inside, dropCandidate, push]
      rfl

/-- The last step brings the end, and lets go of all that has been held back. -/
theorem step_behind {cs : List Char} (filled : cs ≠ []) {l : Layout}
    (there : l.cursor = behind cs) (flat : l.indent = -1)
    (free : l.candidates = [none] ∨ l.candidates = [some firstCandidate]) :
    ∃ l', l.step = .ok (l.queue ++ [.finish], l', true) := by
  simp [step, fetch_behind filled there flat free, release, dropStale, bind, Except.bind, pure,
    Except.pure, List.take_of_length_le]

/-- The first step holds the scalar back as long as it can be a key. -/
theorem step_start {cs : List Char} {t : Token} (inner : t ≠ .finish)
    (fetched : (start cs).fetch = .ok (filledBy cs t)) :
    ∃ ts l, (start cs).step = .ok (ts, l, false) ∧ ts ++ l.queue = [t] ∧
      l.cursor = behind cs ∧ l.indent = -1 ∧
      (l.candidates = [none] ∨ l.candidates = [some firstCandidate]) := by
  have more : (t == Token.finish) = false := by simpa using inner
  rw [step, fetched]
  by_cases stale : maxKeyLength < cs.length
  · refine ⟨[t], ⟨behind cs, -1, [], false, [none], [], 1⟩, ?_, rfl, rfl, rfl, .inl rfl⟩
    simp [filledBy, release, dropStale, isStale, firstCandidate, stale, bind, Except.bind, pure,
      Except.pure, behind, more]
  · refine ⟨[], filledBy cs t, ?_, rfl, rfl, rfl, .inr rfl⟩
    simp [filledBy, release, dropStale, isStale, firstCandidate, stale, bind, Except.bind, pure,
      Except.pure, behind, more]

/-- A scalar that fills the text is the only token before the end. -/
theorem tokens_of_fetch {cs : List Char} (filled : cs ≠ []) {t : Token} (inner : t ≠ .finish)
    (fetched : (start cs).fetch = .ok (filledBy cs t)) :
    tokens cs = ([t, .finish], none) := by
  obtain ⟨ts, l, first, held, there, flat, free⟩ := step_start inner fetched
  obtain ⟨l', last⟩ := step_behind filled there flat free
  change run (cs.length + 1 + 1) (start cs) = _
  rw [run, first]
  simp only [Bool.false_eq_true, if_false]
  rw [run, last]
  simp only [if_true]
  rw [← List.append_assoc, held]
  rfl

/-- A text without gaps that starts with no mark is one plain scalar. -/
theorem tokens_of_solid {x : Char} {after : List Char}
    (solid : ∀ c ∈ x :: after, isSolid c = true) (inside : x ≠ '\ufeff')
    (first : x ∉ indicators ∨ x = '-' ∧ startsGap after = false)
    (unmarked : ({ rest := x :: after } : Cursor).atDocumentMark = false) :
    tokens (x :: after) = ([.scalar (String.ofList (x :: after)) true, .finish], none) := by
  have uncommented : (x :: after).head? ≠ some '#' := by
    intro same
    obtain rfl : x = '#' := by simpa using same
    obtain other | ⟨minus, -⟩ := first
    · exact other (by decide)
    · exact absurd minus (by decide)
  refine tokens_of_fetch (by simp) (by simp) ?_
  rw [fetch_start (solid x (by simp)) inside first unmarked,
    fetchPlain_start (by simp) solid unmarked uncommented]

end Layout

/-- A text has the value of its node. -/
theorem Datum.ofText_of_node {text : String} {n : Node.Sized}
    (printable : text.toList.all isTextChar = true)
    (unmarked : withoutMark text.toList = text.toList)
    (parsed : Node.ofText text.toList = .ok (some n, false))
    (sound : (decide (Node.maxSize < n.size) || n.node.hasTwice) = false) :
    Datum.ofText text = n.node.toDatum := by
  have small : (false || decide (Node.maxSize < n.size) || n.node.hasTwice) = false := sound
  simp only [Datum.ofText, printable, unmarked, parsed, bind, Except.bind, small]
  rfl

/-- A text that is one plain scalar has the value of that scalar. -/
theorem Datum.ofText_of_plain {word : String} (printable : word.toList.all isTextChar = true)
    (unmarked : withoutMark word.toList = word.toList)
    (single : tokens word.toList = ([.scalar word true, .finish], none)) :
    Datum.ofText word = Scalar.value (.ofPlain word) word := by
  have parsed : Node.ofText word.toList = .ok (some ⟨.scalar (.ofPlain word) word, 1⟩, false) := by
    rw [Node.ofText, single]
    rfl
  rw [Datum.ofText_of_node printable unmarked parsed rfl, Node.toDatum]

end Chip8.Yaml
