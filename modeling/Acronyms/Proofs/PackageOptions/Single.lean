import Acronyms.Proofs.Glossary.Assignment

/-!
# The option for single uses

By its documentation the option `single` is on if its value is `true` or the decimal text of
any positive integer (`TurnsOn`), and its value is reported unless it is `true`, `false` or
the decimal text of an integer (`IsKnown`).

The value is read as a count: without a minus sign, and at most `maxCount`.  So the
documentation is met **exactly by the values that are no integers beyond `maxCount`**, and in
what is reported exactly by those that have no minus sign either.  An option that is on is
never reported, and up to `maxCount` a larger integer does not turn the option off.
-/

set_option autoImplicit false

namespace Acronyms.PackageOptions

/-! ## Decimal texts -/

/-- Decimal digits, of which there is at least one, have a value. -/
structure Numeral (digits : List Char) (value : Nat) : Prop where
  nonempty : digits ≠ []
  isDigit : ∀ character ∈ digits, character.isDigit = true
  value : Nat.ofDigitChars 10 digits 0 = value

/-- The decimal texts of an integer: a numeral, perhaps with a sign. -/
inductive IntegerText : List Char → Int → Prop where
  | bare {digits : List Char} {value : Nat} : Numeral digits value → IntegerText digits value
  | plus {digits : List Char} {value : Nat} :
      Numeral digits value → IntegerText ('+' :: digits) value
  | minus {digits : List Char} {value : Nat} :
      Numeral digits value → IntegerText ('-' :: digits) (-value)

theorem numeral_toDigits (value : Nat) : Numeral (Nat.toDigits 10 value) value where
  nonempty := Nat.toDigits_ne_nil
  isDigit _ member := Nat.isDigit_of_mem_toDigits (by decide) (by decide) member
  value := Nat.ofDigitChars_ten_toDigits

/-- An integer is written as one of its decimal texts. -/
theorem integerText_toString (number : Int) : IntegerText (toString number).toList number := by
  cases number with
  | ofNat value =>
    have text : (toString (Int.ofNat value)).toList = Nat.toDigits 10 value := Nat.toList_repr
    rw [text]
    exact .bare (numeral_toDigits value)
  | negSucc value =>
    have text : (toString (Int.negSucc value)).toList = '-' :: Nat.toDigits 10 (value + 1) := by
      simp [Int.repr]
    rw [text]
    exact .minus (numeral_toDigits (value + 1))

theorem numeral_iff {digits : List Char} {value : Nat} :
    Numeral digits value ↔
      digits ≠ [] ∧ digits.all Char.isDigit = true ∧ digitsValue digits = value := by
  constructor
  · rintro ⟨nonempty, isDigit, rfl⟩
    exact ⟨nonempty, List.all_eq_true.mpr isDigit, rfl⟩
  · rintro ⟨nonempty, isDigit, rfl⟩
    exact ⟨nonempty, List.all_eq_true.mp isDigit, rfl⟩

/-- A numeral has no sign in front. -/
theorem Numeral.dropPlus_eq {digits : List Char} {value : Nat} (numeral : Numeral digits value) :
    dropPlus digits = digits := by
  cases digits with
  | nil => rfl
  | cons first rest =>
    have isDigit := numeral.isDigit first List.mem_cons_self
    unfold dropPlus
    split
    next same =>
      obtain ⟨rfl, _⟩ := List.cons.inj same
      cases isDigit
    next => rfl

theorem Numeral.head?_ne_minus {digits : List Char} {value : Nat}
    (numeral : Numeral digits value) : digits.head? ≠ some '-' := by
  intro head
  obtain ⟨rest, rfl⟩ := List.head?_eq_some_iff.mp head
  cases numeral.isDigit '-' List.mem_cons_self

/-! ## Values of the option -/

/-- A value that turns the option on, by its documentation: `true` or any positive integer. -/
def TurnsOn (value : String) : Prop :=
  value = "true" ∨ ∃ number, IntegerText value.toList number ∧ 0 < number

/-- A value that is not to be reported, by its documentation: `true`, `false` or an
integer. -/
def IsKnown (value : String) : Prop :=
  value = "true" ∨ value = "false" ∨ ∃ number, IntegerText value.toList number

/-- An integer that is larger than any count. -/
def IsBeyondCount (value : String) : Prop :=
  ∃ number, IntegerText value.toList number ∧ maxCount < number

/-- An integer with a minus sign. -/
def HasMinus (value : String) : Prop :=
  value.toList.head? = some '-' ∧ ∃ number, IntegerText value.toList number

/-- **A count is an integer without a minus sign that is at most `maxCount`.** -/
theorem count?_eq_some_iff {value : String} {count : Nat} :
    count? value = some count ↔
      IntegerText value.toList count ∧ value.toList.head? ≠ some '-' ∧ count ≤ maxCount := by
  have counted : count? value = some count ↔
      Numeral (dropPlus value.toList) count ∧ count ≤ maxCount := by
    unfold count?
    dsimp only
    rw [numeral_iff]
    split
    next valid =>
      constructor
      · rintro ⟨⟩
        exact ⟨⟨valid.1, valid.2.1, rfl⟩, valid.2.2⟩
      · rintro ⟨⟨_, _, same⟩, _⟩
        rw [same]
    next invalid =>
      refine iff_of_false (by simp) ?_
      rintro ⟨⟨nonempty, isDigit, rfl⟩, bound⟩
      exact invalid ⟨nonempty, isDigit, bound⟩
  rw [counted]
  generalize value.toList = characters
  rw [← and_assoc]
  refine and_congr_left fun _ => ⟨fun numeral => ?_, ?_⟩
  · unfold dropPlus at numeral
    split at numeral
    next => exact ⟨.plus numeral, by simp⟩
    next => exact ⟨.bare numeral, numeral.head?_ne_minus⟩
  · rintro ⟨text, unsigned⟩
    generalize number : (count : Int) = read at text
    cases text with
    | bare numeral =>
      obtain rfl := Int.ofNat.inj number
      rwa [numeral.dropPlus_eq]
    | plus numeral =>
      obtain rfl := Int.ofNat.inj number
      exact numeral
    | minus => exact absurd rfl unsigned

/-- The number that a text stands for if it is the text of an integer. -/
def integerValue : List Char → Int
  | '-' :: digits => -(Nat.ofDigitChars 10 digits 0 : Int)
  | characters => Nat.ofDigitChars 10 (dropPlus characters) 0

theorem IntegerText.eq_integerValue {characters : List Char} {number : Int}
    (text : IntegerText characters number) : number = integerValue characters := by
  cases text with
  | bare numeral =>
    unfold integerValue
    split
    next => exact absurd rfl numeral.head?_ne_minus
    next => rw [numeral.dropPlus_eq, numeral.value]
  | plus numeral => exact congrArg Int.ofNat numeral.value.symm
  | minus numeral => exact congrArg (fun value : Nat => -(value : Int)) numeral.value.symm

/-- A text is the text of one integer at most. -/
theorem IntegerText.unique {characters : List Char} {first second : Int}
    (text : IntegerText characters first) (other : IntegerText characters second) :
    first = second :=
  text.eq_integerValue.trans other.eq_integerValue.symm

theorem IntegerText.exists_nat {characters : List Char} {number : Int}
    (text : IntegerText characters number) (unsigned : characters.head? ≠ some '-') :
    ∃ count : Nat, number = count := by
  cases text with
  | bare => exact ⟨_, rfl⟩
  | plus => exact ⟨_, rfl⟩
  | minus => exact absurd rfl unsigned

/-- A positive integer has no minus sign. -/
theorem IntegerText.unsigned_of_pos {characters : List Char} {number : Int}
    (text : IntegerText characters number) (positive : 0 < number) :
    characters.head? ≠ some '-' := by
  cases text with
  | bare numeral => exact numeral.head?_ne_minus
  | plus => simp
  | minus => omega

/-- No word is the text of an integer. -/
theorem IntegerText.head?_ne {characters : List Char} {number : Int}
    (text : IntegerText characters number) {letter : Char} (notDigit : letter.isDigit = false)
    (notPlus : letter ≠ '+') (notMinus : letter ≠ '-') : characters.head? ≠ some letter := by
  intro head
  obtain ⟨rest, rfl⟩ := List.head?_eq_some_iff.mp head
  cases text with
  | bare numeral =>
    have isDigit := numeral.isDigit letter List.mem_cons_self
    rw [notDigit] at isDigit
    cases isDigit
  | plus => exact notPlus rfl
  | minus => exact notMinus rfl

theorem IntegerText.ne_true {value : String} {number : Int}
    (text : IntegerText value.toList number) : value ≠ "true" := by
  rintro rfl
  exact text.head?_ne (by decide) (by decide) (by decide) (by decide : _ = some 't')

theorem IntegerText.ne_false {value : String} {number : Int}
    (text : IntegerText value.toList number) : value ≠ "false" := by
  rintro rfl
  exact text.head?_ne (by decide) (by decide) (by decide) (by decide : _ = some 'f')

/-! ## What the option does -/

/-- **The option is turned on by `true` and by the positive integers up to `maxCount`.** -/
theorem enablesSingle_iff {value : String} :
    enablesSingle value = true ↔
      value = "true" ∨ ∃ number, IntegerText value.toList number ∧ 0 < number ∧
        number ≤ maxCount := by
  unfold enablesSingle
  rw [Bool.or_eq_true, beq_iff_eq, Option.any_eq_true]
  refine or_congr_right ⟨?_, ?_⟩
  · rintro ⟨count, counted, positive⟩
    obtain ⟨text, _, bound⟩ := count?_eq_some_iff.mp counted
    exact ⟨count, text, Int.natCast_pos.mpr (of_decide_eq_true positive), Int.ofNat_le.mpr bound⟩
  · rintro ⟨number, text, positive, bound⟩
    have unsigned := text.unsigned_of_pos positive
    obtain ⟨count, rfl⟩ := text.exists_nat unsigned
    exact ⟨count, count?_eq_some_iff.mpr ⟨text, unsigned, Int.ofNat_le.mp bound⟩,
      decide_eq_true (Int.natCast_pos.mp positive)⟩

/-- **Its value may be `true`, `false`, and an integer without a minus sign that is at most
`maxCount`.** -/
theorem isValidItem_single_iff {value : String} :
    isValidItem ("single", value) = true ↔
      value = "true" ∨ value = "false" ∨ ∃ number, IntegerText value.toList number ∧
        value.toList.head? ≠ some '-' ∧ number ≤ maxCount := by
  have valid : isValidItem ("single", value) =
      (value == "true" || value == "false" || (count? value).isSome) := rfl
  rw [valid, Bool.or_eq_true, Bool.or_eq_true, beq_iff_eq, beq_iff_eq, or_assoc,
    Option.isSome_iff_exists]
  refine or_congr_right (or_congr_right ⟨?_, ?_⟩)
  · rintro ⟨count, counted⟩
    obtain ⟨text, unsigned, bound⟩ := count?_eq_some_iff.mp counted
    exact ⟨count, text, unsigned, Int.ofNat_le.mpr bound⟩
  · rintro ⟨number, text, unsigned, bound⟩
    obtain ⟨count, rfl⟩ := text.exists_nat unsigned
    exact ⟨count, count?_eq_some_iff.mpr ⟨text, unsigned, Int.ofNat_le.mp bound⟩⟩

/-- A value of `single` is reported among the problems. -/
def ReportsSingle (options : PackageOptions) : Prop :=
  ∃ value : String, s!"unknown value '{value}' for 'single'" ∈ options.problems

/-- The end of a report tells the option. -/
theorem eq_of_report_eq {item : String × String} {value : String}
    (invalid : isValidItem item = false)
    (same : s!"unknown value '{item.2}' for '{item.1}'" =
      s!"unknown value '{value}' for 'single'") : item = ("single", value) := by
  obtain ⟨key, own⟩ := item
  have backwards := congrArg (fun report => report.toList.reverse) same
  unfold isValidItem at invalid
  dsimp only at invalid
  split at invalid
  next => simp [toString] at backwards
  next => simp [toString] at backwards
  next =>
    have own : own = value := String.toList_inj.mp (by simpa [toString] using backwards)
    rw [own]
  next => cases invalid

theorem reportsSingle_iff {options : PackageOptions} :
    ReportsSingle options ↔
      ∃ value ∈ options.get? "single", isValidItem ("single", value) = false := by
  simp only [ReportsSingle, problems, List.mem_map, List.mem_filter, Bool.not_eq_true',
    Option.mem_def, get?, lookup_eq_some_iff_mem_of_nodup options.distinct]
  constructor
  · rintro ⟨value, item, ⟨member, invalid⟩, same⟩
    obtain rfl := eq_of_report_eq invalid same
    exact ⟨value, member, invalid⟩
  · rintro ⟨value, member, invalid⟩
    exact ⟨value, ("single", value), ⟨member, invalid⟩, String.toList_inj.mp (by simp [toString])⟩

/-! ## Documentation and behaviour -/

/-- A value turns the option on as documented, unless it is beyond all counts. -/
theorem enablesSingle_iff_turnsOn_iff {value : String} :
    (enablesSingle value = true ↔ TurnsOn value) ↔ ¬IsBeyondCount value := by
  rw [enablesSingle_iff]
  constructor
  · rintro documented ⟨number, text, beyond⟩
    have positive : 0 < number := by omega
    obtain isTrue | ⟨other, otherText, _, bound⟩ := documented.mpr (.inr ⟨number, text, positive⟩)
    · exact text.ne_true isTrue
    · obtain rfl := text.unique otherText
      omega
  · intro within
    refine or_congr_right (exists_congr fun number => and_congr_right fun text => ?_)
    exact and_iff_left_of_imp fun _ => Int.not_lt.mp fun beyond => within ⟨number, text, beyond⟩

/-- A value is accepted as documented, unless it is beyond all counts or has a minus sign. -/
theorem isValidItem_iff_isKnown_iff {value : String} :
    (isValidItem ("single", value) = true ↔ IsKnown value) ↔
      ¬IsBeyondCount value ∧ ¬HasMinus value := by
  rw [isValidItem_single_iff]
  constructor
  · intro documented
    have accepted : ∀ number, IntegerText value.toList number →
        value.toList.head? ≠ some '-' ∧ number ≤ maxCount := by
      intro number text
      obtain isTrue | isFalse | ⟨other, otherText, unsigned, bound⟩ :=
        documented.mpr (.inr (.inr ⟨number, text⟩))
      · exact absurd isTrue text.ne_true
      · exact absurd isFalse text.ne_false
      · obtain rfl := text.unique otherText
        exact ⟨unsigned, bound⟩
    constructor
    · rintro ⟨number, text, beyond⟩
      exact Int.not_lt.mpr (accepted number text).2 beyond
    · rintro ⟨minus, number, text⟩
      exact (accepted number text).1 minus
  · rintro ⟨within, unsigned⟩
    refine or_congr_right (or_congr_right (exists_congr fun number => ?_))
    refine and_iff_left_of_imp fun text => ⟨fun minus => unsigned ⟨minus, number, text⟩, ?_⟩
    exact Int.not_lt.mp fun beyond => within ⟨number, text, beyond⟩

/-- A value that turns the option on is accepted. -/
theorem isValidItem_of_enablesSingle {value : String} (enables : enablesSingle value = true) :
    isValidItem ("single", value) = true := by
  obtain isTrue | ⟨number, text, positive, bound⟩ := enablesSingle_iff.mp enables
  · exact isValidItem_single_iff.mpr (.inl isTrue)
  · exact isValidItem_single_iff.mpr
      (.inr (.inr ⟨number, text, text.unsigned_of_pos positive, bound⟩))

/-- Where the option is set to an integer, it is on exactly for the positive ones up to
`maxCount`. -/
theorem single_set_integer_iff (options : PackageOptions) {value : String} {number : Int}
    (text : IntegerText value.toList number) :
    (options.set "single" value).single = true ↔ 0 < number ∧ number ≤ maxCount := by
  rw [single, get?_set_self, Option.any_some, enablesSingle_iff, or_iff_right text.ne_true]
  constructor
  · rintro ⟨other, otherText, range⟩
    obtain rfl := text.unique otherText
    exact range
  · exact fun range => ⟨number, text, range⟩

/-- **The option follows its documentation exactly where its value is no integer beyond all
counts**, and in what is reported exactly where the value has no minus sign either.  An option
that is on is never reported, and a larger integer that is a count leaves it on. -/
theorem single_followsDocumentation_iff (options : PackageOptions) :
    ((options.single = true ↔ ∃ value ∈ options.get? "single", TurnsOn value) ↔
      ∀ value ∈ options.get? "single", ¬IsBeyondCount value) ∧
    ((ReportsSingle options ↔ ∃ value ∈ options.get? "single", ¬IsKnown value) ↔
      ∀ value ∈ options.get? "single", ¬IsBeyondCount value ∧ ¬HasMinus value) ∧
    (options.single = true → ¬ReportsSingle options) ∧
    (∀ (smaller larger : String) (low high : Int), IntegerText smaller.toList low →
      IntegerText larger.toList high → low ≤ high → high ≤ maxCount →
      (options.set "single" smaller).single = true →
        (options.set "single" larger).single = true) := by
  refine ⟨?_, ?_, ?_, ?_⟩
  · rw [single]
    cases options.get? "single" with
    | none => simp
    | some value => simp [← enablesSingle_iff_turnsOn_iff]
  · rw [reportsSingle_iff]
    cases options.get? "single" with
    | none => simp
    | some value =>
      simp only [Option.mem_some_iff, exists_eq_left', forall_eq', ← isValidItem_iff_isKnown_iff]
      rw [← Bool.not_eq_true, not_iff_not]
  · rw [reportsSingle_iff, single]
    cases options.get? "single" with
    | none => simp
    | some value =>
      intro enables
      simp [isValidItem_of_enablesSingle enables]
  · intro smaller larger low high smallerText largerText order bound enabled
    have positive := ((single_set_integer_iff options smallerText).mp enabled).1
    exact (single_set_integer_iff options largerText).mpr ⟨by omega, bound⟩

/-! ## Integers that are no counts -/

/-- The least integer beyond all counts. -/
def firstBeyond : PackageOptions := ofList [("single", "4294967296")]

/-- A negative integer. -/
def minusOne : PackageOptions := ofList [("single", "-1")]

/-- **A positive integer beyond all counts does not turn the option on**, and is reported, as
a negative integer is.  So a larger integer may turn the option off. -/
theorem single_disregards_integers_beyond :
    (IntegerText "4294967296".toList 4294967296 ∧ firstBeyond.single = false ∧
      firstBeyond.problems = ["unknown value '4294967296' for 'single'"]) ∧
    (IntegerText "-1".toList (-1) ∧
      minusOne.problems = ["unknown value '-1' for 'single'"]) ∧
    ¬(∀ options : PackageOptions,
      options.single = true ↔ ∃ value ∈ options.get? "single", TurnsOn value) ∧
    ¬(∀ options : PackageOptions,
      ReportsSingle options ↔ ∃ value ∈ options.get? "single", ¬IsKnown value) ∧
    ¬(∀ (smaller larger : String) (low high : Int), IntegerText smaller.toList low →
      IntegerText larger.toList high → low ≤ high → (ofList [("single", smaller)]).single = true →
        (ofList [("single", larger)]).single = true) := by
  have large : IntegerText "4294967296".toList 4294967296 := integerText_toString 4294967296
  have counted : IntegerText "4294967295".toList 4294967295 := integerText_toString 4294967295
  have negative : IntegerText "-1".toList (-1) := .minus (numeral_toDigits 1)
  have off : firstBeyond.single = false := by decide
  have reported : minusOne.problems = ["unknown value '-1' for 'single'"] := by decide
  refine ⟨⟨large, off, by decide⟩, ⟨negative, reported⟩, fun documented => ?_,
    fun documented => ?_, fun monotone => ?_⟩
  · have on := (documented firstBeyond).mpr ⟨_, rfl, .inr ⟨_, large, by decide⟩⟩
    rw [off] at on
    cases on
  · have reports : ReportsSingle minusOne := ⟨"-1", by rw [reported]; simp [toString]⟩
    obtain ⟨value, given, unknown⟩ := (documented minusOne).mp reports
    obtain rfl : "-1" = value := Option.some.inj given
    exact unknown (.inr (.inr ⟨_, negative⟩))
  · have on := monotone _ _ _ _ counted large (by decide) (by decide)
    rw [firstBeyond] at off
    rw [off] at on
    cases on

end Acronyms.PackageOptions
