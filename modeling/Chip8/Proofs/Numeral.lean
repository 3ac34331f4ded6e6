import Chip8.Proofs.PlainScalar

/-! Integers written out in decimal are read as themselves: the notation is one plain scalar, which
is neither a word nor a float, and whose digits add up to the integer. -/
namespace Chip8

namespace Text

theorem mem_digits {c : Char} (digit : c.isDigit = true) : c ∈ "0123456789".toList := by
  have known : ∀ n : Fin 10, Char.ofNat (48 + n) ∈ "0123456789".toList := by decide
  simp only [Char.isDigit, Bool.and_eq_true, decide_eq_true_eq, ge_iff_le,
    UInt32.le_iff_toNat_le] at digit
  have low : 48 ≤ c.toNat := digit.1
  have high : c.toNat ≤ 57 := digit.2
  have same : c = Char.ofNat (48 + (c.toNat - 48)) := by
    rw [Nat.add_sub_cancel' low, Char.ofNat_toNat]
  rw [same]
  exact known ⟨c.toNat - 48, by omega⟩

/-- What holds of the ten digits holds of every digit. -/
theorem of_digit {p : Char → Bool} (all : "0123456789".toList.all p = true) {c : Char}
    (digit : c.isDigit = true) : p c = true :=
  List.all_eq_true.mp all c (mem_digits digit)

theorem digitIn?_digit {c : Char} (digit : c.isDigit = true) :
    digitIn? 10 c = some (c.toNat - '0'.toNat) := by
  have known := of_digit (p := fun c => digitIn? 10 c == some (c.toNat - '0'.toNat))
    (by decide +kernel) digit
  simpa using known

theorem digitsFrom_digits {ds : List Char} (digits : ∀ c ∈ ds, c.isDigit = true) (value : Nat) :
    digitsFrom 10 value ds = some (Nat.ofDigitChars 10 ds value) := by
  induction ds generalizing value with
  | nil => rfl
  | cons c ds ih =>
    obtain ⟨digit, digits⟩ := List.forall_mem_cons.mp digits
    have plain : c ≠ '_' := by
      rintro rfl
      exact absurd digit (by decide)
    rw [digitsFrom, digitIn?_digit digit, Option.bind_some, ih digits, Nat.ofDigitChars_cons,
      Nat.mul_comm]
    exact fun _ _ same _ => plain same

theorem naturalIn?_digits {ds : List Char} (digits : ∀ c ∈ ds, c.isDigit = true)
    (filled : ds ≠ []) : naturalIn? 10 ds = some (Nat.ofDigitChars 10 ds 0) := by
  obtain ⟨c, ds, rfl⟩ := List.exists_cons_of_ne_nil filled
  obtain ⟨digit, digits⟩ := List.forall_mem_cons.mp digits
  rw [naturalIn?, digitIn?_digit digit, Option.bind_some, digitsFrom_digits digits,
    Nat.ofDigitChars_cons, Nat.mul_zero, Nat.zero_add]

theorem trimBlanks_digits {ds : List Char} (digits : ∀ c ∈ ds, c.isDigit = true) :
    trimBlanks ds = ds := by
  have solid : ∀ c ∈ ds, isBlank c = false := fun c member => by
    have known := of_digit (p := fun c => !isBlank c) (by decide) (digits c member)
    simpa using known
  have kept (cs : List Char) (solid : ∀ c ∈ cs, isBlank c = false) :
      cs.dropWhile isBlank = cs := by
    cases cs with
    | nil => rfl
    | cons c cs => simp [solid c]
  rw [trimBlanks, kept ds solid, kept ds.reverse fun c member => solid c (by simpa using member),
    List.reverse_reverse]

theorem integer?_digits {ds : List Char} (digits : ∀ c ∈ ds, c.isDigit = true)
    (filled : ds ≠ []) :
    integer? (String.ofList ds) =
      if maxDigits < ds.length then none else some (Nat.ofDigitChars 10 ds 0 : Int) := by
  have whole : ds.filter (· != '_') = ds := List.filter_eq_self.mpr fun c member => by
    exact of_digit (p := (· != '_')) (by decide) (digits c member)
  have unsigned : signed? natural? ds = (natural? ds).map fun n => (n : Int) := by
    obtain ⟨c, ds, rfl⟩ := List.exists_cons_of_ne_nil filled
    have plain := of_digit (p := fun c => c != '-' && c != '+') (by decide)
      (digits c (by simp))
    simp only [Bool.and_eq_true, bne_iff_ne] at plain
    rw [signed?]
    · exact fun _ same => plain.1 (List.cons.inj same).1
    · exact fun _ same => plain.2 (List.cons.inj same).1
  rw [integer?, String.toList_ofList, trimBlanks_digits digits, unsigned, natural?, whole,
    naturalIn?_digits digits filled]
  split <;> rfl

theorem toDigits_head {n : Nat} (positive : 0 < n) :
    ∃ c cs, Nat.toDigits 10 n = c :: cs ∧ c ≠ '0' := by
  induction n using Nat.strongRecOn with
  | _ n ih =>
    rw [Nat.toDigits_eq_if (by decide)]
    by_cases small : n < 10
    · have code := Nat.toNat_digitChar_of_lt_ten small
      refine ⟨_, [], if_pos small, fun zero => ?_⟩
      rw [zero] at code
      simp at code
      omega
    · obtain ⟨c, cs, head, nonzero⟩ := ih (n / 10) (by omega) (by omega)
      exact ⟨c, cs ++ [Nat.digitChar (n % 10)], by rw [if_neg small, head]; rfl, nonzero⟩

/-- The digits of a natural number: zero alone, or a first digit that is not zero. -/
theorem toDigits_cases (n : Nat) :
    Nat.toDigits 10 n = ['0'] ∨ ∃ c cs, Nat.toDigits 10 n = c :: cs ∧ c ≠ '0' := by
  obtain rfl | positive := Nat.eq_zero_or_pos n
  · exact .inl (Nat.toDigits_zero 10)
  · exact .inr (toDigits_head positive)

theorem isDigit_toDigits (n : Nat) : ∀ c ∈ Nat.toDigits 10 n, c.isDigit = true :=
  fun _ member => Nat.isDigit_of_mem_toDigits (by decide) (by decide) member

end Text

namespace Yaml

open Text (of_digit isDigit_toDigits toDigits_head toDigits_cases)

/-- Digits behind an optional sign. -/
structure IsNumeral (cs : List Char) : Prop where
  digits : ∀ c ∈ Kind.dropSign cs, c.isDigit = true
  filled : Kind.dropSign cs ≠ []
  signed : cs = Kind.dropSign cs ∨ cs = '-' :: Kind.dropSign cs

namespace IsNumeral

variable {cs : List Char}

theorem solid (numeral : IsNumeral cs) : ∀ c ∈ cs, isSolid c = true := by
  have digits : ∀ c ∈ Kind.dropSign cs, isSolid c = true := fun c member =>
    of_digit (p := isSolid) (by decide) (numeral.digits c member)
  obtain same | same := numeral.signed
  · rw [same]
    exact digits
  · rw [same]
    exact List.forall_mem_cons.mpr ⟨by decide, digits⟩

/-- The notation of a number is one token. -/
theorem tokens_eq (numeral : IsNumeral cs) :
    tokens cs = ([.scalar (String.ofList cs) true, .finish], none) := by
  obtain ⟨x, after, rest⟩ := List.exists_cons_of_ne_nil numeral.filled
  have digit : x.isDigit = true := numeral.digits x (by simp [rest])
  have plain : x ≠ '-' ∧ x ≠ '.' ∧ x ≠ '\ufeff' := by
    have known := of_digit (p := fun c => c != '-' && c != '.' && c != '\ufeff') (by decide) digit
    simpa [and_assoc] using known
  have free : x ∉ Layout.indicators := by
    have known := of_digit (p := fun c => !Layout.indicators.contains c) (by decide) digit
    simpa using known
  have solid := numeral.solid
  obtain same | same := numeral.signed
  · obtain rfl : cs = x :: after := same.trans rest
    have unmarked : ({ rest := x :: after } : Cursor).atDocumentMark = false := by
      simp [Cursor.atDocumentMark, Cursor.atDocumentStart, Cursor.atDocumentEnd, Cursor.isMark,
        plain.1.symm, plain.2.1.symm]
    exact Layout.tokens_of_solid solid plain.2.2 (.inl free) unmarked
  · obtain rfl : cs = '-' :: x :: after := by rw [same, rest]
    have gapless : startsGap (x :: after) = false := by
      have known := solid x (by simp)
      simp only [isSolid, Bool.and_eq_true, Bool.not_eq_true'] at known
      exact known.1
    have unmarked : ({ rest := '-' :: x :: after } : Cursor).atDocumentMark = false := by
      simp [Cursor.atDocumentMark, Cursor.atDocumentStart, Cursor.atDocumentEnd, Cursor.isMark,
        plain.1.symm]
    exact Layout.tokens_of_solid solid (by decide) (.inr ⟨rfl, gapless⟩) unmarked

end IsNumeral

theorem dropSign_digits {ds : List Char} (digits : ∀ c ∈ ds, c.isDigit = true) :
    Kind.dropSign ds = ds := by
  cases ds with
  | nil => rfl
  | cons c ds =>
    have plain := of_digit (p := fun c => c != '-' && c != '+') (by decide) (digits c (by simp))
    simp only [Bool.and_eq_true, bne_iff_ne] at plain
    rw [Kind.dropSign]
    · exact fun _ same => plain.1 (List.cons.inj same).1
    · exact fun _ same => plain.2 (List.cons.inj same).1

/-- The notation of an integer, character by character. -/
theorem toList_toString (n : Int) :
    (toString n).toList = (if n < 0 then ['-'] else []) ++ Nat.toDigits 10 n.natAbs := by
  rw [Int.toString_eq_repr, Int.repr_eq_if]
  by_cases negative : n < 0
  · have size : (-n).toNat = n.natAbs := by omega
    rw [if_neg (by omega), if_pos negative, size]
    simp
  · have size : n.toNat = n.natAbs := by omega
    rw [if_pos (by omega), if_neg negative, size]
    simp

theorem dropSign_toString (n : Int) :
    Kind.dropSign (toString n).toList = Nat.toDigits 10 n.natAbs := by
  rw [toList_toString]
  split
  · rfl
  · exact dropSign_digits (isDigit_toDigits _)

theorem isNumeral_toString (n : Int) : IsNumeral (toString n).toList where
  digits := by rw [dropSign_toString]; exact isDigit_toDigits _
  filled := by rw [dropSign_toString]; exact Nat.toDigits_ne_nil
  signed := by
    rw [dropSign_toString, toList_toString]
    split
    · exact .inr rfl
    · exact .inl rfl

theorem isDecimalInt_toDigits (n : Nat) : Kind.isDecimalInt (Nat.toDigits 10 n) = true := by
  have digits := isDigit_toDigits n
  obtain zero | ⟨c, cs, head, nonzero⟩ := toDigits_cases n
  · rw [zero]
    decide
  · rw [head] at digits ⊢
    obtain ⟨digit, digits⟩ := List.forall_mem_cons.mp digits
    have first := of_digit (p := fun c => c == '0' || ('1' ≤ c && c ≤ '9')) (by decide) digit
    have more : cs.all Kind.isDigitOr_ = true :=
      List.all_eq_true.mpr fun d member => by simp [Kind.isDigitOr_, digits d member]
    rw [Kind.isDecimalInt]
    · simpa [nonzero, more] using first
    · exact fun same _ => absurd same nonzero

theorem isInt_toString (n : Int) : Kind.isInt (toString n).toList = true := by
  have decimal := isDecimalInt_toDigits n.natAbs
  rw [Kind.isInt, dropSign_toString]
  obtain zero | ⟨c, cs, head, nonzero⟩ := toDigits_cases n.natAbs
  · rw [zero]
    decide
  · rw [head] at decimal ⊢
    split
    · exact absurd (List.cons.inj ‹_›).1 nonzero
    · exact absurd (List.cons.inj ‹_›).1 nonzero
    · exact absurd (List.cons.inj ‹_›).1 nonzero
    · simp [decimal]

/-- The notation of an integer is none of the words with a meaning. -/
theorem ofPlain_toString (n : Int) : Kind.ofPlain (toString n) = .int := by
  have noWord : ∀ w ∈ ["", "~", "null", "Null", "NULL"] ++ (Kind.trueWords ++ Kind.falseWords),
      toString n ≠ w := by
    rintro w member rfl
    have spelled := (by decide +kernel : ∀ w ∈ ["", "~", "null", "Null", "NULL"] ++
      (Kind.trueWords ++ Kind.falseWords), Kind.isInt w.toList = false) _ member
    rw [isInt_toString] at spelled
    contradiction
  have noNull : toString n ∉ ["", "~", "null", "Null", "NULL"] := fun member =>
    noWord _ (List.mem_append_left _ member) rfl
  have noBool : toString n ∉ Kind.trueWords ++ Kind.falseWords := fun member =>
    noWord _ (List.mem_append_right _ member) rfl
  rw [Kind.ofPlain, if_neg noNull, if_neg noBool, if_pos (isInt_toString n)]

theorem colonParts_digits {ds : List Char} (digits : ∀ c ∈ ds, c.isDigit = true) :
    Kind.colonParts ds = [ds] := by
  induction ds with
  | nil => rfl
  | cons c ds ih =>
    obtain ⟨digit, digits⟩ := List.forall_mem_cons.mp digits
    have plain : c ≠ ':' := by
      rintro rfl
      exact absurd digit (by decide)
    rw [Kind.colonParts, ih digits]
    exact fun same => plain same

theorem unsignedInt_toDigits (n : Nat) :
    Scalar.unsignedInt (Nat.toDigits 10 n) =
      if Text.maxDigits < (Nat.toDigits 10 n).length then .error .number else .ok n := by
  obtain rfl | positive := Nat.eq_zero_or_pos n
  · rw [Nat.toDigits_zero]
    rfl
  · have digits := isDigit_toDigits n
    have read := Text.integer?_digits digits Nat.toDigits_ne_nil
    have parts := colonParts_digits digits
    rw [Nat.ofDigitChars_ten_toDigits] at read
    obtain ⟨c, cs, head, nonzero⟩ := toDigits_head positive
    rw [head] at read parts ⊢
    rw [Scalar.unsignedInt]
    · simp only [parts, List.mapM_cons, List.mapM_nil, read]
      by_cases long : Text.maxDigits < (c :: cs).length
      · simp only [if_pos long]
        rfl
      · simp only [if_neg long]
        simp [Scalar.sexagesimal]
    · simp
    · exact fun same => nonzero (List.cons.inj same).1
    · exact fun _ same => nonzero (List.cons.inj same).1
    · exact fun _ same => nonzero (List.cons.inj same).1
    · exact fun _ same => nonzero (List.cons.inj same).1

theorem int_toString (n : Int) :
    Scalar.int (toString n) =
      if Text.maxDigits < (Nat.toDigits 10 n.natAbs).length then .error .number else .ok n := by
  have whole : (toString n).toList.filter (· != '_') = (toString n).toList := by
    rw [toList_toString, List.filter_append, List.filter_eq_self (l := Nat.toDigits 10 _) |>.mpr]
    · split <;> rfl
    · intro c member
      exact of_digit (p := (· != '_')) (by decide) (isDigit_toDigits _ c member)
  have filled : (toString n).toList.isEmpty = false := by
    rw [toList_toString]
    simp
  have negative : Scalar.isNegative (toString n).toList = decide (n < 0) := by
    obtain ⟨c, cs, head⟩ :=
      List.exists_cons_of_ne_nil (Nat.toDigits_ne_nil (b := 10) (n := n.natAbs))
    have plain := of_digit (p := (· != '-')) (by decide)
      (isDigit_toDigits n.natAbs c (by simp [head]))
    rw [toList_toString, head]
    by_cases below : n < 0
    · simp [below, Scalar.isNegative]
    · simpa [below, Scalar.isNegative] using plain
  simp only [Scalar.int, whole, filled, dropSign_toString, unsignedInt_toDigits, negative]
  by_cases long : Text.maxDigits < (Nat.toDigits 10 n.natAbs).length
  · simp only [if_pos long]
    rfl
  · have value : (if n < 0 then -(n.natAbs : Int) else n.natAbs) = n := by
      split <;> omega
    simp only [if_neg long, Except.map, decide_eq_true_eq, value]
    rfl

theorem IsNumeral.printable {cs : List Char} (numeral : IsNumeral cs) :
    cs.all isTextChar = true ∧ withoutMark cs = cs := by
  have digits : ∀ c ∈ Kind.dropSign cs, (isTextChar c && c != '\ufeff') = true := fun c member =>
    of_digit (p := fun c => isTextChar c && c != '\ufeff') (by decide) (numeral.digits c member)
  have all : ∀ c ∈ cs, (isTextChar c && c != '\ufeff') = true := by
    obtain same | same := numeral.signed
    · rw [same]
      exact digits
    · rw [same]
      exact List.forall_mem_cons.mpr ⟨by decide, digits⟩
  simp only [Bool.and_eq_true, bne_iff_ne] at all
  refine ⟨List.all_eq_true.mpr fun c member => (all c member).1, ?_⟩
  cases cs with
  | nil => rfl
  | cons c cs =>
    rw [withoutMark]
    exact fun _ same => (all c (by simp)).2 (List.cons.inj same).1

end Yaml

namespace Settings

open Yaml (Datum)

/-- The notation of an integer is read as the integer, unless it is longer than any that is read. -/
theorem read_toString (n : Int) :
    read (toString n) =
      if Text.maxDigits < (Nat.toDigits 10 n.natAbs).length then .error (.document .number)
      else .ok (.int n) := by
  have numeral := Yaml.isNumeral_toString n
  have value : Datum.ofText (toString n) = (Yaml.Scalar.int (toString n)).map .int := by
    rw [Datum.ofText_of_plain numeral.printable.1 numeral.printable.2
      (by rw [numeral.tokens_eq, String.ofList_toList]), Yaml.ofPlain_toString]
    rfl
  rw [read, value, Yaml.int_toString]
  by_cases long : Text.maxDigits < (Nat.toDigits 10 n.natAbs).length
  · simp only [if_pos long]
    rfl
  · simp only [if_neg long]
    rfl

end Settings

end Chip8
