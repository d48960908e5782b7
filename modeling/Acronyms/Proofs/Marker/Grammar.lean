import Acronyms.Marker.Reading
import Mathlib

/-!
# The grammar of markers

The headers of markers form a small language: an optional capital `A`, the tag, the
letter of a form, the plural letter and the star, the last three of which may be
missing.  This module gives the language as inductive relations that say what each
piece of text stands for, and proves that the header reader accepts it and nothing
else (`header?_eq_some_iff`).

The reader tries two readings of a word, one after the other.  They exclude each
other, since the second letter of the tag cannot be the first letter of one; so the
order of the two does not matter.
-/

set_option autoImplicit false

namespace Acronyms.Marker

/-! ## Header texts -/

/-- The tag, with letters of either case. -/
inductive TagText : List Char → Prop where
  | letters {first second : Char} (a : first = 'a' ∨ first = 'A')
      (c : second = 'c' ∨ second = 'C') : TagText [first, second]

/-- The letter of a form; without one the form is automatic. -/
inductive FormText : List Char → Form → Prop where
  | auto : FormText [] .auto
  | long {letter : Char} (l : letter = 'l' ∨ letter = 'L') : FormText [letter] .long
  | short {letter : Char} (s : letter = 's' ∨ letter = 'S') : FormText [letter] .short
  | full {letter : Char} (f : letter = 'f' ∨ letter = 'F') : FormText [letter] .full

/-- The plural letter, which may be missing. -/
inductive PluralText : List Char → Bool → Prop where
  | singular : PluralText [] false
  | plural {letter : Char} (p : letter = 'p' ∨ letter = 'P') : PluralText [letter] true

/-- The star of a marker that does not count, which may be missing. -/
inductive StarText : List Char → Bool → Prop where
  | counted : StarText [] true
  | uncounted : StarText ['*'] false

/-- The pieces between the tag and the colon, with the form, the plural and whether the
marker counts. -/
inductive SuffixText : List Char → Form → Bool → Bool → Prop where
  | pieces {formText pluralText starText : List Char} {form : Form} {plural counted : Bool}
      (hasForm : FormText formText form) (hasPlural : PluralText pluralText plural)
      (hasStar : StarText starText counted) :
      SuffixText (formText ++ pluralText ++ starText) form plural counted

/-- Everything before the colon. -/
inductive HeaderText : List Char → Form → Bool → Bool → Prop where
  | bare {tag suffix : List Char} {form : Form} {plural counted : Bool} (hasTag : TagText tag)
      (hasSuffix : SuffixText suffix form plural counted) :
      HeaderText (tag ++ suffix) form plural counted
  | capital {tag suffix : List Char} {form : Form} {plural counted : Bool} (hasTag : TagText tag)
      (hasSuffix : SuffixText suffix form plural counted) :
      HeaderText ('A' :: (tag ++ suffix)) form plural counted

/-! ## Letters of either case -/

/-- A letter counts as a small ASCII letter when it is that letter or its capital. -/
theorem toLower_eq_iff {letter small : Char} (lower : small.isLower = true) :
    letter.toLower = small ↔ letter = small ∨ letter = small.toUpper := by
  simp only [Char.isLower, Bool.and_eq_true, decide_eq_true_eq, UInt32.le_iff_toNat_le] at lower
  simp only [Char.toLower, Char.toUpper, Char.ext_iff]
  split <;> split <;> grind [UInt32.toNat_add, UInt32.toNat_sub, UInt32.le_iff_toNat_le]

/-! ## The readers of the pieces -/

theorem afterTag?_eq_some_iff {characters rest : List Char} :
    afterTag? characters = some rest ↔ ∃ tag, TagText tag ∧ characters = tag ++ rest := by
  have isA : ∀ letter : Char, letter.toLower = 'a' ↔ letter = 'a' ∨ letter = 'A' :=
    fun letter => toLower_eq_iff (by decide)
  have isC : ∀ letter : Char, letter.toLower = 'c' ↔ letter = 'c' ∨ letter = 'C' :=
    fun letter => toLower_eq_iff (by decide)
  constructor
  · intro read
    match characters with
    | [] => cases read
    | [_] => cases read
    | first :: second :: others =>
      simp only [afterTag?, isA, isC] at read
      split at read
      next letters =>
        cases read
        exact ⟨[first, second], .letters letters.1 letters.2, rfl⟩
      next => cases read
  · rintro ⟨tag, hasTag, rfl⟩
    cases hasTag with
    | letters a c => simp [afterTag?, isA, isC, a, c]

theorem ofLetter?_eq_some_iff {letter : Char} {form : Form} :
    Form.ofLetter? letter = some form ↔ FormText [letter] form := by
  constructor
  · intro asks
    unfold Form.ofLetter? at asks
    split at asks
    next l => cases asks; exact .long ((toLower_eq_iff (by decide)).mp l)
    next s => cases asks; exact .short ((toLower_eq_iff (by decide)).mp s)
    next f => cases asks; exact .full ((toLower_eq_iff (by decide)).mp f)
    next => cases asks
  · intro spells
    cases spells with
    | long l => rcases l with rfl | rfl <;> rfl
    | short s => rcases s with rfl | rfl <;> rfl
    | full f => rcases f with rfl | rfl <;> rfl

/-- What the form reader takes off the front spells the form it reports. -/
theorem formText_takeForm (characters : List Char) :
    ∃ text, FormText text (takeForm characters).1 ∧
      characters = text ++ (takeForm characters).2 := by
  match characters with
  | [] => exact ⟨[], .auto, rfl⟩
  | letter :: rest =>
    cases asks : Form.ofLetter? letter with
    | none => exact ⟨[], by simp only [takeForm, asks]; exact .auto, by simp [takeForm, asks]⟩
    | some form =>
      refine ⟨[letter], ?_, by simp [takeForm, asks]⟩
      simpa only [takeForm, asks] using ofLetter?_eq_some_iff.mp asks

theorem pluralText_takePlural (characters : List Char) :
    ∃ text, PluralText text (takePlural characters).1 ∧
      characters = text ++ (takePlural characters).2 := by
  match characters with
  | [] => exact ⟨[], .singular, rfl⟩
  | letter :: rest =>
    by_cases p : letter.toLower = 'p'
    · refine ⟨[letter], ?_, by simp [takePlural, p]⟩
      simpa only [takePlural, p, if_true] using .plural ((toLower_eq_iff (by decide)).mp p)
    · exact ⟨[], by simp only [takePlural, p, if_false]; exact .singular, by simp [takePlural, p]⟩

theorem starText_takeStar (characters : List Char) :
    ∃ text, StarText text (takeStar characters).1 ∧
      characters = text ++ (takeStar characters).2 := by
  unfold takeStar
  split
  next rest => exact ⟨['*'], .uncounted, rfl⟩
  next => exact ⟨[], .counted, rfl⟩

/-! ## Suffixes -/

/-- **The suffix reader accepts a suffix with a colon after it, and nothing else.** -/
theorem suffix?_eq_some_iff {capitalize : Bool} {characters : List Char} {header : Header} :
    suffix? capitalize characters = some header ↔
      header.capitalize = capitalize ∧
        ∃ text, SuffixText text header.form header.plural header.counted ∧
          characters = text ++ ':' :: header.rest := by
  constructor
  · intro read
    obtain ⟨formText, hasForm, first⟩ := formText_takeForm characters
    obtain ⟨pluralText, hasPlural, second⟩ := pluralText_takePlural (takeForm characters).2
    obtain ⟨starText, hasStar, third⟩ := starText_takeStar (takePlural (takeForm characters).2).2
    unfold suffix? at read
    dsimp only at read
    split at read
    next rest colon =>
      cases read
      refine ⟨rfl, formText ++ pluralText ++ starText, .pieces hasForm hasPlural hasStar, ?_⟩
      calc
        characters = formText ++ (takeForm characters).2 := first
        _ = formText ++ (pluralText ++ (starText ++ ':' :: rest)) := by
          rw [← colon, ← third, ← second]
        _ = formText ++ pluralText ++ starText ++ ':' :: rest := by simp
    next => cases read
  · obtain ⟨capital, form, plural, counted, rest⟩ := header
    rintro ⟨rfl, text, hasSuffix, rfl⟩
    cases hasSuffix with
    | pieces hasForm hasPlural hasStar =>
      -- Each piece in turn is one of finitely many texts, none of which begins a later one.
      rcases hasForm with _ | ⟨rfl | rfl⟩ | ⟨rfl | rfl⟩ | ⟨rfl | rfl⟩ <;>
        rcases hasPlural with _ | ⟨rfl | rfl⟩ <;> rcases hasStar with _ | _ <;> rfl

/-! ## Headers -/

theorem afterCapitalTag?_eq_some_iff {characters rest : List Char} :
    afterCapitalTag? characters = some rest ↔
      ∃ tag, TagText tag ∧ characters = 'A' :: (tag ++ rest) := by
  constructor
  · intro read
    unfold afterCapitalTag? at read
    split at read
    next others =>
      obtain ⟨tag, hasTag, rfl⟩ := afterTag?_eq_some_iff.mp read
      exact ⟨tag, hasTag, rfl⟩
    next => cases read
  · rintro ⟨tag, hasTag, rfl⟩
    exact afterTag?_eq_some_iff.mpr ⟨tag, hasTag, rfl⟩

/-- A word that starts with a tag does not start with a capital and a tag: the second
letter of a tag is no first letter of one. -/
theorem afterCapitalTag?_eq_none {tag rest : List Char} (hasTag : TagText tag) :
    afterCapitalTag? (tag ++ rest) = none := by
  rw [Option.eq_none_iff_forall_ne_some]
  intro others read
  obtain ⟨inner, hasInner, same⟩ := afterCapitalTag?_eq_some_iff.mp read
  cases hasTag with
  | letters a c =>
    cases hasInner with
    | letters innerA _ =>
      simp only [List.cons_append, List.nil_append, List.cons.injEq] at same
      rw [← same.2.1] at innerA
      rcases c with rfl | rfl <;> simp at innerA

/-- **The header reader accepts a header with a colon after it, and nothing else**; the
header is capitalized exactly when the word starts with a capital `A`. -/
theorem header?_eq_some_iff {token : List Char} {header : Header} :
    header? token = some header ↔
      header.capitalize = (token.head? == some 'A') ∧
        ∃ text, HeaderText text header.form header.plural header.counted ∧
          token = text ++ ':' :: header.rest := by
  unfold header?
  rw [Option.or_eq_some_iff, Option.bind_eq_some_iff, Option.bind_eq_none_iff,
    Option.bind_eq_some_iff]
  constructor
  · rintro (⟨suffix, front, read⟩ | ⟨_, suffix, front, read⟩)
    · obtain ⟨tag, hasTag, rfl⟩ := afterCapitalTag?_eq_some_iff.mp front
      obtain ⟨capital, text, hasSuffix, rfl⟩ := suffix?_eq_some_iff.mp read
      exact ⟨capital, 'A' :: (tag ++ text), .capital hasTag hasSuffix, by simp⟩
    · obtain ⟨tag, hasTag, rfl⟩ := afterTag?_eq_some_iff.mp front
      obtain ⟨capital, text, hasSuffix, rfl⟩ := suffix?_eq_some_iff.mp read
      exact ⟨capital, tag ++ text, .bare hasTag hasSuffix, by simp⟩
  · obtain ⟨capitalize, form, plural, counted, rest⟩ := header
    rintro ⟨capital, text, hasHeader, rfl⟩
    cases hasHeader with
    | @bare tag suffix _ _ _ hasTag hasSuffix =>
      rw [List.append_assoc] at capital ⊢
      refine Or.inr ⟨?_, suffix ++ ':' :: rest, afterTag?_eq_some_iff.mpr ⟨tag, hasTag, rfl⟩,
        suffix?_eq_some_iff.mpr ⟨capital, suffix, hasSuffix, rfl⟩⟩
      intro others read
      rw [afterCapitalTag?_eq_none hasTag] at read
      cases read
    | @capital tag suffix _ _ _ hasTag hasSuffix =>
      rw [List.cons_append, List.append_assoc] at capital ⊢
      exact Or.inl ⟨suffix ++ ':' :: rest, afterCapitalTag?_eq_some_iff.mpr ⟨tag, hasTag, rfl⟩,
        suffix?_eq_some_iff.mpr ⟨capital, suffix, hasSuffix, rfl⟩⟩

/-! ## One colon, one header -/

theorem colon_notMem_of_headerText {text : List Char} {form : Form} {plural counted : Bool}
    (hasHeader : HeaderText text form plural counted) : ':' ∉ text := by
  have noTag : ∀ tag, TagText tag → ':' ∉ tag := by
    rintro _ ⟨rfl | rfl, rfl | rfl⟩ <;> decide
  have noSuffix : ∀ suffix, SuffixText suffix form plural counted → ':' ∉ suffix := by
    rintro _ ⟨hasForm, hasPlural, hasStar⟩
    rcases hasForm with _ | ⟨rfl | rfl⟩ | ⟨rfl | rfl⟩ | ⟨rfl | rfl⟩ <;>
      rcases hasPlural with _ | ⟨rfl | rfl⟩ <;> rcases hasStar with _ | _ <;> decide
  cases hasHeader with
  | bare hasTag hasSuffix => simp [noTag _ hasTag, noSuffix _ hasSuffix]
  | capital hasTag hasSuffix => simp [noTag _ hasTag, noSuffix _ hasSuffix]

/-- Characters are cut in one way only at the first of their delimiters. -/
theorem cut_unique {delimiter : Char} {front other back rest : List Char}
    (free : delimiter ∉ front) (freeOther : delimiter ∉ other)
    (same : front ++ delimiter :: back = other ++ delimiter :: rest) :
    front = other ∧ back = rest := by
  have upTo : ∀ {start : List Char}, delimiter ∉ start → ∀ later,
      (start ++ delimiter :: later).takeWhile (· != delimiter) = start := by
    intro start absent later
    have kept : ∀ letter ∈ start, (letter != delimiter) = true := by
      intro letter member
      simpa using fun here : letter = delimiter => absent (here ▸ member)
    rw [List.takeWhile_append_of_pos kept]
    simp
  have fronts : front = other := by
    rw [← upTo free back, same, upTo freeOther]
  subst fronts
  exact ⟨rfl, by simpa using same⟩

/-- A word is cut in one way only into a header and what follows its colon. -/
theorem headerText_unique {text other rest remaining : List Char} {form asked : Form}
    {plural counted inPlural counts : Bool} (first : HeaderText text form plural counted)
    (second : HeaderText other asked inPlural counts)
    (same : text ++ ':' :: rest = other ++ ':' :: remaining) : text = other ∧ rest = remaining :=
  -- The header is what stands before the first colon of the word.
  cut_unique (colon_notMem_of_headerText first) (colon_notMem_of_headerText second) same

end Acronyms.Marker
