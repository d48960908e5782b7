import Acronyms.Yaml.Token.Scalars

/-!
# Texts in a frame

A text may stand in a frame: behind some lines, and before spaces and line breaks.  In the
frame every place has another index and another line, and more characters after it
(`Frame.cursor`), but the same column.

Moving to the end of a run of characters, over blanks or over a line break comes to the same
place with and without the frame, as long as the text does not end there (`Solid`).
-/

set_option autoImplicit false

namespace Acronyms.Yaml

/-! ## Spaces and line breaks -/

/-- Whether a character is a space or a line break. -/
def isSpacing (character : Char) : Bool := character == ' ' || isBreak character

/-- A text of spaces and line breaks. -/
def Spacing (characters : List Char) : Prop := ∀ character ∈ characters, isSpacing character = true

/-- The space and the five characters that end a line. -/
def spacingCharacters : List Char := [' ', '\n', '\r', '\u0085', '\u2028', '\u2029']

/-- What holds of these characters holds of every space and every line break. -/
theorem of_isSpacing {property : Char → Bool} (all : spacingCharacters.all property = true)
    {character : Char} (spacing : isSpacing character = true) : property character = true := by
  refine List.all_eq_true.mp all character ?_
  simpa [spacingCharacters, isSpacing, isBreak, or_assoc] using spacing

theorem blank_of_isSpacing {character : Char} (spacing : isSpacing character = true) :
    (isBlank character || isBreak character) = true := by
  simp only [isSpacing, isBlank, Bool.or_eq_true] at spacing ⊢
  exact spacing.imp .inl id

/-- Whether a class of characters has neither the space nor a line break. -/
def LacksSpacing (inClass : Char → Bool) : Prop :=
  ∀ character, isSpacing character = true → inClass character = false

theorem lacksSpacing_of_all {inClass : Char → Bool}
    (lacks : (spacingCharacters.all fun character => !inClass character) = true) :
    LacksSpacing inClass := fun _ spacing => by
  simpa using of_isSpacing lacks spacing

theorem Spacing.suffix {characters rest : List Char} (spacing : Spacing characters)
    (isSuffix : rest <:+ characters) : Spacing rest :=
  fun character member => spacing character (isSuffix.subset member)

theorem spacing_of_eq_nil {characters : List Char} (empty : characters = []) :
    Spacing characters := by
  subst empty
  exact fun _ member => nomatch member

theorem Spacing.head {character : Char} {rest : List Char} (spacing : Spacing (character :: rest)) :
    isSpacing character = true := spacing character List.mem_cons_self

section Stopping

variable {inClass : Char → Bool} {tail : List Char} (spacing : Spacing tail)

include spacing

theorem takeWhile_append_spacing (lacks : LacksSpacing inClass) (characters : List Char) :
    (characters ++ tail).takeWhile inClass = characters.takeWhile inClass := by
  induction characters with
  | nil =>
    cases tail with
    | nil => rfl
    | cons character rest => simp [lacks character spacing.head]
  | cons character rest ih =>
    rw [List.cons_append, List.takeWhile_cons, List.takeWhile_cons, ih]

theorem dropWhile_append_spacing (lacks : LacksSpacing inClass) (characters : List Char) :
    (characters ++ tail).dropWhile inClass = characters.dropWhile inClass ++ tail := by
  induction characters with
  | nil =>
    cases tail with
    | nil => rfl
    | cons character rest => simp [lacks character spacing.head]
  | cons character rest ih =>
    rw [List.cons_append, List.dropWhile_cons, List.dropWhile_cons, ih]
    split <;> rfl

theorem atBlankOrEnd_append_spacing (characters : List Char) :
    atBlankOrEnd (characters ++ tail) = atBlankOrEnd characters := by
  cases characters with
  | cons character rest => rfl
  | nil =>
    cases tail with
    | nil => rfl
    | cons character rest =>
      have head := spacing.head
      simp only [isSpacing, Bool.or_eq_true, beq_iff_eq] at head
      rcases head with rfl | isBreak
      · rfl
      · simp [atBlankOrEnd, isBreak]

theorem head?_any_append_spacing (lacks : LacksSpacing inClass) (characters : List Char) :
    (characters ++ tail).head?.any inClass = characters.head?.any inClass := by
  cases characters with
  | cons character rest => rfl
  | nil =>
    cases tail with
    | nil => rfl
    | cons character rest => exact lacks character spacing.head

end Stopping

/-! ## Solid texts -/

/-- A text that ends in a character that is neither a blank nor a line break. -/
def Solid (characters : List Char) : Prop :=
  ∃ last, characters.getLast? = some last ∧ isBlank last = false ∧ isBreak last = false

namespace Solid

variable {characters : List Char}

theorem ne_nil (solid : Solid characters) : characters ≠ [] := by
  rintro rfl
  obtain ⟨_, ends, _⟩ := solid
  cases ends

theorem suffix (solid : Solid characters) {rest : List Char} (isSuffix : rest <:+ characters)
    (nonempty : rest ≠ []) : Solid rest := by
  obtain ⟨last, ends, kind⟩ := solid
  obtain ⟨front, rfl⟩ := isSuffix
  refine ⟨last, ?_, kind⟩
  rwa [List.getLast?_append, List.getLast?_eq_some_getLast nonempty, Option.some_or,
    ← List.getLast?_eq_some_getLast nonempty] at ends

/-- In a solid text something follows a blank or a line break. -/
theorem tail {character : Char} {rest : List Char} (solid : Solid (character :: rest))
    (blank : isBlank character = true ∨ isBreak character = true) : Solid rest := by
  refine solid.suffix (List.suffix_cons character rest) ?_
  rintro rfl
  obtain ⟨last, ends, notBlank, notBreak⟩ := solid
  obtain rfl : character = last := Option.some.inj ends
  rw [notBlank, notBreak] at blank
  rcases blank with absurd | absurd <;> cases absurd

/-- In a solid text something follows its first blanks. -/
theorem dropWhile (solid : Solid characters) {inClass : Char → Bool}
    (blanks : ∀ character, inClass character = true → isBlank character = true) :
    Solid (characters.dropWhile inClass) := by
  induction characters with
  | nil => exact absurd rfl solid.ne_nil
  | cons character rest ih =>
    rw [List.dropWhile_cons]
    split
    next inside => exact ih (solid.tail (.inl (blanks character inside)))
    next => exact solid

end Solid

/-- A run that stops inside a text stops there also when something is appended. -/
theorem takeWhile_append_of_stop {inClass : Char → Bool} {characters : List Char}
    (stops : characters.dropWhile inClass ≠ []) (tail : List Char) :
    (characters ++ tail).takeWhile inClass = characters.takeWhile inClass := by
  induction characters with
  | nil => exact absurd rfl stops
  | cons character rest ih =>
    rw [List.dropWhile_cons] at stops
    rw [List.cons_append, List.takeWhile_cons, List.takeWhile_cons]
    split
    next inside =>
      rw [if_pos inside] at stops
      rw [ih stops]
    next => rfl

/-! ## Line breaks -/

/-- The number of characters of the line break at the head of a text, and the line break as
it is kept. -/
def lineBreak? : List Char → Option (Nat × List Char)
  | [] => none
  | first :: rest =>
    if first = '\r' ∧ rest.head? = some '\n' then some (2, ['\n'])
    else if first = '\u2028' ∨ first = '\u2029' then some (1, [first])
    else if isBreak first then some (1, ['\n'])
    else none

/-- The start of the next line, so many characters further on. -/
def Cursor.nextLine (cursor : Cursor) (count : Nat) : Cursor where
  rest := cursor.rest.drop count
  index := cursor.index + count
  line := cursor.line + 1

theorem skipLine_eq (cursor : Cursor) :
    cursor.skipLine = match lineBreak? cursor.rest with
      | some (count, kept) => (cursor.nextLine count, kept)
      | none => (cursor, []) := by
  obtain ⟨rest, index, line, column⟩ := cursor
  simp only [Cursor.skipLine, Cursor.nextLine]
  split
  · rfl
  · rfl
  · rfl
  next character rest notPair notLine notParagraph =>
    have notBoth : ¬(character = '\r' ∧ rest.head? = some '\n') := by
      rintro ⟨rfl, next⟩
      obtain ⟨more, rfl⟩ := List.head?_eq_some_iff.mp next
      exact notPair _ rfl rfl
    rw [lineBreak?, if_neg notBoth, if_neg (not_or.mpr ⟨notLine, notParagraph⟩)]
    split <;> rfl
  · rfl

theorem bounds_of_lineBreak? {characters : List Char} {lineBreak : Nat × List Char}
    (found : lineBreak? characters = some lineBreak) :
    0 < lineBreak.1 ∧ lineBreak.1 ≤ characters.length ∧
      ∃ first, characters.head? = some first ∧ isBreak first = true := by
  cases characters with
  | nil => cases found
  | cons first rest =>
    rw [lineBreak?] at found
    split at found
    next pair =>
      obtain ⟨rfl, next⟩ := pair
      obtain ⟨more, rfl⟩ := List.head?_eq_some_iff.mp next
      cases found
      exact ⟨Nat.zero_lt_two, by simp, _, rfl, rfl⟩
    next =>
      split at found
      next separator =>
        cases found
        refine ⟨Nat.one_pos, by simp, _, rfl, ?_⟩
        rcases separator with rfl | rfl <;> rfl
      next =>
        split at found
        next breaks =>
          cases found
          exact ⟨Nat.one_pos, by simp, _, rfl, breaks⟩
        next => cases found

theorem lineBreak?_append {characters : List Char} (solid : Solid characters) (tail : List Char) :
    lineBreak? (characters ++ tail) = lineBreak? characters := by
  cases characters with
  | nil => exact absurd rfl solid.ne_nil
  | cons first rest =>
    rw [List.cons_append, lineBreak?, lineBreak?]
    by_cases breaks : isBreak first = true
    · obtain ⟨second, more, rfl⟩ := List.exists_cons_of_ne_nil (solid.tail (.inr breaks)).ne_nil
      rfl
    · have notReturn : first ≠ '\r' := by rintro rfl; exact breaks rfl
      simp only [notReturn, false_and, if_false]

namespace Cursor

theorem rest_skip_suffix (cursor : Cursor) (count : Nat) :
    (cursor.skip count).rest <:+ cursor.rest :=
  List.drop_suffix count cursor.rest

theorem rest_skipTo {cursor : Cursor} {rest : List Char} (isSuffix : rest <:+ cursor.rest) :
    (cursor.skipTo rest).rest = rest :=
  (List.suffix_iff_eq_drop.mp isSuffix).symm

theorem rest_skipLine_suffix (cursor : Cursor) : cursor.skipLine.1.rest <:+ cursor.rest := by
  rw [skipLine_eq]
  cases lineBreak? cursor.rest with
  | none => exact List.suffix_rfl
  | some lineBreak => exact List.drop_suffix lineBreak.1 cursor.rest

/-- A line break is skipped, and leaves a solid text solid. -/
theorem skipLine_of_isBreak {cursor : Cursor} {first : Char} {more : List Char}
    (starts : cursor.rest = first :: more) (breaks : isBreak first = true) :
    cursor.skipLine.1.rest.length < cursor.rest.length ∧
      (Solid cursor.rest → Solid cursor.skipLine.1.rest) := by
  have step : ∀ count kept, lineBreak? cursor.rest = some (count, kept) →
      cursor.skipLine.1.rest = cursor.rest.drop count := by
    intro count kept found
    rw [skipLine_eq, found]
    rfl
  rw [starts] at step ⊢
  by_cases pair : first = '\r' ∧ more.head? = some '\n'
  · obtain ⟨rfl, next⟩ := pair
    obtain ⟨further, rfl⟩ := List.head?_eq_some_iff.mp next
    rw [step 2 ['\n'] rfl]
    refine ⟨?_, fun solid => (solid.tail (.inr breaks)).tail (.inr rfl)⟩
    simp only [List.length_drop, List.length_cons]
    omega
  · have one : ∃ kept, lineBreak? (first :: more) = some (1, kept) := by
      rw [lineBreak?, if_neg pair, if_pos breaks]
      split
      · exact ⟨_, rfl⟩
      · exact ⟨_, rfl⟩
    obtain ⟨kept, found⟩ := one
    rw [step 1 kept found]
    exact ⟨by simp, fun solid => solid.tail (.inr breaks)⟩

end Cursor

/-! ## Frames -/

/-- What stands around a text: the number of characters and of lines before it, and the
spaces and line breaks after it. -/
structure Frame where
  characters : Nat
  lines : Nat
  tail : List Char

namespace Frame

variable (frame : Frame)

/-- The place in the frame. -/
def cursor (cursor : Cursor) : Cursor where
  rest := cursor.rest ++ frame.tail
  index := cursor.index + frame.characters
  line := cursor.line + frame.lines
  column := cursor.column

@[simp] theorem cursor_rest (cursor : Cursor) :
    (frame.cursor cursor).rest = cursor.rest ++ frame.tail := rfl

@[simp] theorem cursor_column (cursor : Cursor) :
    (frame.cursor cursor).column = cursor.column := rfl

theorem cursor_skip {cursor : Cursor} {count : Nat} (within : count ≤ cursor.rest.length) :
    (frame.cursor cursor).skip count = frame.cursor (cursor.skip count) := by
  simp only [Frame.cursor, Cursor.skip, Cursor.mk.injEq, and_true]
  exact ⟨List.drop_append_of_le_length within, by omega⟩

theorem cursor_skipTo (cursor : Cursor) (rest : List Char) :
    (frame.cursor cursor).skipTo (rest ++ frame.tail) = frame.cursor (cursor.skipTo rest) := by
  have same : (cursor.rest ++ frame.tail).length - (rest ++ frame.tail).length =
      cursor.rest.length - rest.length := by
    rw [List.length_append, List.length_append]
    omega
  rw [Cursor.skipTo, Cursor.skipTo, cursor_rest, same]
  exact frame.cursor_skip (Nat.sub_le _ _)

theorem cursor_skipWhile {cursor : Cursor} {inClass : Char → Bool}
    (stops : cursor.rest.dropWhile inClass ≠ []) :
    (frame.cursor cursor).skipWhile inClass = frame.cursor (cursor.skipWhile inClass) := by
  rw [Cursor.skipWhile, Cursor.skipWhile, cursor_rest, takeWhile_append_of_stop stops]
  exact frame.cursor_skip (List.takeWhile_prefix _).length_le

theorem cursor_head? {cursor : Cursor} (nonempty : cursor.rest ≠ []) :
    (frame.cursor cursor).head? = cursor.head? := by
  obtain ⟨first, rest, starts⟩ := List.exists_cons_of_ne_nil nonempty
  rw [Cursor.head?, Cursor.head?, cursor_rest, starts]
  rfl

/-- A line break is never the last character of a solid text, so that the frame adds nothing
to it. -/
theorem cursor_skipLine {cursor : Cursor} (solid : Solid cursor.rest) :
    (frame.cursor cursor).skipLine =
      (frame.cursor cursor.skipLine.1, cursor.skipLine.2) := by
  rw [skipLine_eq, skipLine_eq, cursor_rest, lineBreak?_append solid]
  cases found : lineBreak? cursor.rest with
  | none => rfl
  | some lineBreak =>
    obtain ⟨_, within, _⟩ := bounds_of_lineBreak? found
    simp only [Cursor.nextLine, Frame.cursor, Prod.mk.injEq, Cursor.mk.injEq, and_true]
    exact ⟨List.drop_append_of_le_length within, by omega, by omega⟩

theorem cursor_atMarker (spacing : Spacing frame.tail) {mark : Char}
    (visible : isSpacing mark = false) (cursor : Cursor) :
    (frame.cursor cursor).atMarker mark = cursor.atMarker mark := by
  obtain ⟨rest, index, line, column⟩ := cursor
  have differ : ∀ character ∈ frame.tail, (character == mark) = false := by
    intro character member
    refine beq_false_of_ne ?_
    rintro rfl
    rw [spacing character member] at visible
    cases visible
  unfold Cursor.atMarker
  simp only [Frame.cursor]
  match rest with
  | first :: second :: third :: rest =>
    simp only [List.cons_append, atBlankOrEnd_append_spacing spacing]
  | [first, second] =>
    match tail : frame.tail with
    | [] => rfl
    | third :: more => simp [differ third (by simp [tail])]
  | [first] =>
    match tail : frame.tail with
    | [] => rfl
    | [second] => rfl
    | second :: third :: more => simp [differ second (by simp [tail])]
  | [] =>
    match tail : frame.tail with
    | [] => rfl
    | [first] => rfl
    | [first, second] => rfl
    | first :: second :: third :: more => simp [differ first (by simp [tail])]

end Frame

end Acronyms.Yaml
