import Acronyms.Proofs.Yaml.FramedPlain

/-!
# Quoted scalars in a frame

A quoted scalar ends with its quote.  **It is the same in a frame**, as the frame holds no quote
that could close it.
-/

set_option autoImplicit false

namespace Acronyms.Yaml

variable {frame : Frame}

/-! ## Quoted words -/

/-- What a word of a quoted scalar stops at. -/
def WordEnd.StopsBefore : WordEnd → List Char → Prop
  | .closed, rest => rest ≠ []
  | .blank, rest => ∃ first more, rest = first :: more ∧ atBlankOrEnd rest = true
  | .escapedBreak, rest => ∃ first more, rest = first :: more ∧ isBreak first = true
  | .unclosed, _ => False

/-- A word of a quoted scalar is read in the frame as without it, unless it has no end, and
then the quote is not closed in the frame either. -/
inductive FramedWord (frame : Frame) :
    Option (List Char × WordEnd × List Char) → Option (List Char × WordEnd × List Char) → Prop where
  | inside {word rest : List Char} {ending : WordEnd} : ending.StopsBefore rest →
      FramedWord frame (some (word, ending, rest)) (some (word, ending, rest ++ frame.tail))
  | unclosed {read inFrame : Option (List Char × WordEnd × List Char)} :
      (∀ word ending rest, read = some (word, ending, rest) → ending = .unclosed) →
      (∀ word ending rest, inFrame = some (word, ending, rest) →
        ending ≠ .closed ∧ Spacing rest) →
      FramedWord frame read inFrame

/-- A further character before a word does not matter to its end. -/
theorem FramedWord.cons {read inFrame : Option (List Char × WordEnd × List Char)}
    (framed : FramedWord frame read inFrame) (character : Char) :
    FramedWord frame (read.map fun found => (character :: found.1, found.2))
      (inFrame.map fun found => (character :: found.1, found.2)) := by
  cases framed with
  | inside stops => exact .inside stops
  | unclosed outside within =>
    refine .unclosed ?_ ?_
    · intro word ending rest same
      obtain ⟨⟨_, _, _⟩, found, equal⟩ := Option.map_eq_some_iff.mp same
      cases equal
      exact outside _ _ _ found
    · intro word ending rest same
      obtain ⟨⟨_, _, _⟩, found, equal⟩ := Option.map_eq_some_iff.mp same
      cases equal
      exact within _ _ _ found

/-- Where nothing can be read, no quote is closed in the frame if it is not closed there. -/
theorem FramedWord.of_none {inFrame : Option (List Char × WordEnd × List Char)}
    (unclosed : ∀ word ending rest, inFrame = some (word, ending, rest) →
      ending ≠ .closed ∧ Spacing rest) : FramedWord frame none inFrame :=
  .unclosed (fun _ _ _ same => nomatch same) unclosed

theorem singleQuotedWord_spacing {characters : List Char} (spacing : Spacing characters) :
    ∃ ending, singleQuotedWord characters = ([], ending, characters) ∧ ending ≠ .closed := by
  cases characters with
  | nil => exact ⟨.unclosed, rfl, by decide⟩
  | cons character rest =>
    have notQuote : character ≠ '\'' := by
      rintro rfl
      have spaced := spacing.head
      revert spaced
      decide
    refine ⟨.blank, ?_, by decide⟩
    rw [singleQuotedWord, if_neg (by simpa using notQuote),
      if_pos (blank_of_isSpacing spacing.head)]
    exact fun _ quote => absurd quote notQuote

section Framed

variable (spacing : Spacing frame.tail)

include spacing

theorem singleQuotedWord_frame (characters : List Char) :
    FramedWord frame (some (singleQuotedWord characters))
      (some (singleQuotedWord (characters ++ frame.tail))) := by
  -- No quote follows in the frame where none followed without it.
  have noPair : ∀ {character : Char} {rest : List Char},
      (∀ more, character = '\'' → rest = '\'' :: more → False) →
      ∀ more, character = '\'' → rest ++ frame.tail = '\'' :: more → False := by
    intro character rest single more quote starts
    cases rest with
    | cons next rest =>
      obtain ⟨rfl, _⟩ := List.cons.inj starts
      exact single rest quote rfl
    | nil =>
      have spaced := spacing '\'' (by rw [List.nil_append] at starts; simp [starts])
      revert spaced
      decide
  induction characters using singleQuotedWord.induct with
  | case1 =>
    obtain ⟨ending, read, notClosed⟩ := singleQuotedWord_spacing spacing
    refine .unclosed (fun _ _ _ same => ?_) (fun _ _ _ same => ?_)
    · cases same
      rfl
    · rw [List.nil_append, read] at same
      cases same
      exact ⟨notClosed, spacing⟩
  | case2 rest _ _ _ _ ih =>
    simp only [List.cons_append, singleQuotedWord]
    exact ih.cons '\''
  | case3 character rest single quote =>
    rw [List.cons_append, singleQuotedWord, singleQuotedWord, if_pos quote, if_pos quote]
    · exact .inside (List.cons_ne_nil character rest)
    · exact noPair single
    · exact single
  | case4 character rest single notQuote blank =>
    rw [List.cons_append, singleQuotedWord, singleQuotedWord, if_neg notQuote, if_neg notQuote,
      if_pos blank, if_pos blank]
    · exact .inside ⟨character, rest, rfl, blank⟩
    · exact noPair single
    · exact single
  | case5 character rest single notQuote visible _ _ _ _ ih =>
    rw [List.cons_append, singleQuotedWord, singleQuotedWord, if_neg notQuote, if_neg notQuote,
      if_neg visible, if_neg visible]
    · exact ih.cons character
    · exact noPair single
    · exact single

end Framed

theorem doubleQuotedWord?_spacing {characters : List Char} (spacing : Spacing characters)
    (fuel : Nat) :
    ∃ ending, doubleQuotedWord? fuel characters = some ([], ending, characters) ∧
      ending ≠ .closed := by
  cases fuel with
  | zero => exact ⟨.unclosed, rfl, by decide⟩
  | succ fuel =>
    cases characters with
    | nil => exact ⟨.unclosed, rfl, by decide⟩
    | cons character rest =>
      have notQuote : ¬(character == '"') = true := by
        rw [beq_iff_eq]
        rintro rfl
        have spaced := spacing.head
        revert spaced
        decide
      refine ⟨.blank, ?_, by decide⟩
      rw [doubleQuotedWord?.eq_def]
      dsimp only
      rw [if_neg notQuote, if_pos (blank_of_isSpacing spacing.head)]

theorem FramedWord.of_spacing {characters : List Char} (spacing : Spacing characters) (fuel : Nat)
    {read : Option (List Char × WordEnd × List Char)}
    (unclosed : ∀ word ending rest, read = some (word, ending, rest) → ending = .unclosed) :
    FramedWord frame read (doubleQuotedWord? fuel characters) := by
  refine .unclosed unclosed fun _ _ _ same => ?_
  obtain ⟨ending, found, notClosed⟩ := doubleQuotedWord?_spacing spacing fuel
  rw [found] at same
  cases same
  exact ⟨notClosed, spacing⟩

/-- Digits that end before a space or a line break are too few. -/
theorem hexValue?_append_of_lt {count : Nat} {digits tail : List Char} (spacing : Spacing tail)
    (few : digits.length < count) : hexValue? count (digits ++ tail) = none := by
  have noDigit : ∀ character ∈ tail, hexDigit? character = none := fun character member => by
    have all : spacingCharacters.all (fun character => (hexDigit? character).isNone) = true := by
      decide
    simpa using of_isSpacing all (spacing character member)
  rw [hexValue?]
  split
  · rfl
  next enough =>
    rw [List.length_append] at enough
    obtain ⟨character, rest, rfl⟩ : ∃ character rest, tail = character :: rest :=
      List.exists_cons_of_ne_nil (by rintro rfl; simp at enough; omega)
    obtain ⟨further, cut⟩ : ∃ further, count - digits.length = further + 1 :=
      ⟨count - digits.length - 1, by omega⟩
    rw [List.take_append, cut, List.take_succ_cons, List.foldl_append, List.foldl_cons,
      noDigit character List.mem_cons_self]
    generalize (digits.take count).foldl _ _ = value
    have failed : ∀ digits : List Char, digits.foldl (fun value? digit => do
        return 16 * (← value?) + (← hexDigit? digit)) (none : Option Nat) = none := by
      intro digits
      induction digits with
      | nil => rfl
      | cons digit rest ih => exact ih
    cases value with
    | none => exact failed _
    | some value => exact failed _

theorem hexValue?_append_of_le {count : Nat} {digits : List Char} (enough : count ≤ digits.length)
    (tail : List Char) : hexValue? count (digits ++ tail) = hexValue? count digits := by
  rw [hexValue?, hexValue?, if_neg (by simp; omega), if_neg (by omega),
    List.take_append_of_le_length enough]

/-- Read on behind the backslash of an escape. -/
def escapedWord? (fuel : Nat) : List Char → Option (List Char × WordEnd × List Char)
  | [] => none
  | mark :: after =>
    if isBreak mark then some ([], .escapedBreak, mark :: after)
    else
      (escapeOf? mark).bind fun
        | .inl escaped =>
          (doubleQuotedWord? fuel after).map fun found => (escaped :: found.1, found.2)
        | .inr count => ((hexValue? count after).bind scalarValue?).bind fun escaped =>
          (doubleQuotedWord? fuel (after.drop count)).map fun found =>
            (escaped :: found.1, found.2)

theorem doubleQuotedWord?_cons (fuel : Nat) (character : Char) (rest : List Char) :
    doubleQuotedWord? (fuel + 1) (character :: rest) =
      if character == '"' then some ([], .closed, character :: rest)
      else if isBlank character || isBreak character then some ([], .blank, character :: rest)
      else if character == '\\' then escapedWord? fuel rest
      else (doubleQuotedWord? fuel rest).map fun found => (character :: found.1, found.2) := by
  rw [doubleQuotedWord?.eq_def]
  dsimp only
  split
  · rfl
  split
  · rfl
  split
  · cases rest with
    | nil => rfl
    | cons mark after =>
      rw [escapedWord?]
      dsimp only
      split
      · rfl
      cases escapeOf? mark with
      | none => rfl
      | some escaped =>
        cases escaped with
        | inl escaped => rfl
        | inr count =>
          dsimp only [Option.bind_some]
          cases (hexValue? count after).bind scalarValue? <;> rfl
  · rfl

section Framed

variable (spacing : Spacing frame.tail)

include spacing

/-- The escape of a space or a line break closes no quote. -/
theorem escapedWord?_atEnd (fuel : Nat) : FramedWord frame none (escapedWord? fuel frame.tail) := by
  refine .of_none ?_
  cases tail : frame.tail with
  | nil => exact fun _ _ _ same => nomatch same
  | cons mark after =>
    rw [tail] at spacing
    have spaced := spacing.suffix (List.suffix_cons mark after)
    obtain ⟨ending, read, notClosed⟩ := doubleQuotedWord?_spacing spaced fuel
    intro word ending rest same
    rw [escapedWord?] at same
    split at same
    · cases same
      exact ⟨by decide, spacing⟩
    next notBreak =>
      have space : mark = ' ' := by
        have head := spacing.head
        simp only [isSpacing, Bool.or_eq_true, beq_iff_eq] at head
        exact head.resolve_right notBreak
      simp only [space, escapeOf?, read, Option.bind_some, Option.map_some, Option.some.injEq,
        Prod.mk.injEq] at same
      obtain ⟨_, rfl, rfl⟩ := same
      exact ⟨notClosed, spaced⟩

/-- An escape is the same in the frame, if the word behind it is. -/
theorem escapedWord?_frame {fuel fuelInFrame : Nat} {characters : List Char}
    (below : ∀ {rest : List Char}, rest.length ≤ characters.length →
      FramedWord frame (doubleQuotedWord? fuel rest)
        (doubleQuotedWord? fuelInFrame (rest ++ frame.tail))) :
    FramedWord frame (escapedWord? fuel characters)
      (escapedWord? fuelInFrame (characters ++ frame.tail)) := by
  have failed : FramedWord frame none none := .of_none fun _ _ _ same => nomatch same
  cases characters with
  | nil => exact escapedWord?_atEnd spacing fuelInFrame
  | cons mark after =>
    rw [List.cons_append, escapedWord?, escapedWord?]
    by_cases breaks : isBreak mark = true
    · rw [if_pos breaks, if_pos breaks]
      exact .inside ⟨mark, after, rfl, breaks⟩
    rw [if_neg breaks, if_neg breaks]
    cases escapeOf? mark with
    | none => exact failed
    | some escaped =>
      cases escaped with
      | inl escaped => exact (below (Nat.le_succ _)).cons escaped
      | inr count =>
        dsimp only [Option.bind_some]
        by_cases few : after.length < count
        · have nothing : hexValue? count after = none := if_pos few
          rw [nothing, hexValue?_append_of_lt spacing few]
          exact failed
        · rw [hexValue?_append_of_le (Nat.le_of_not_lt few),
            List.drop_append_of_le_length (Nat.le_of_not_lt few)]
          cases (hexValue? count after).bind scalarValue? with
          | none => exact failed
          | some escaped =>
            refine (below ?_).cons escaped
            rw [List.length_drop, List.length_cons]
            omega

theorem doubleQuotedWord?_frame {fuel fuelInFrame : Nat} {characters : List Char}
    (enough : characters.length ≤ fuel)
    (enoughInFrame : (characters ++ frame.tail).length ≤ fuelInFrame) :
    FramedWord frame (doubleQuotedWord? fuel characters)
      (doubleQuotedWord? fuelInFrame (characters ++ frame.tail)) := by
  induction fuel generalizing fuelInFrame characters with
  | zero =>
    obtain rfl := List.length_eq_zero_iff.mp (Nat.le_zero.mp enough)
    refine .of_spacing spacing _ fun _ _ _ same => ?_
    cases same
    rfl
  | succ fuel ih =>
    cases characters with
    | nil =>
      refine .of_spacing spacing _ fun _ _ _ same => ?_
      cases same
      rfl
    | cons character rest =>
      simp only [List.cons_append, List.length_cons] at enough enoughInFrame
      obtain ⟨further, rfl⟩ : ∃ further, fuelInFrame = further + 1 := ⟨fuelInFrame - 1, by omega⟩
      rw [List.cons_append, doubleQuotedWord?_cons, doubleQuotedWord?_cons]
      by_cases quote : (character == '"') = true
      · rw [if_pos quote, if_pos quote]
        exact .inside (List.cons_ne_nil character rest)
      rw [if_neg quote, if_neg quote]
      by_cases blank : (isBlank character || isBreak character) = true
      · rw [if_pos blank, if_pos blank]
        exact .inside ⟨character, rest, rfl, blank⟩
      rw [if_neg blank, if_neg blank]
      have below : ∀ {onward : List Char}, onward.length ≤ rest.length →
          FramedWord frame (doubleQuotedWord? fuel onward)
            (doubleQuotedWord? further (onward ++ frame.tail)) := by
        intro characters shorter
        rw [List.length_append] at enoughInFrame
        exact ih (by omega) (by rw [List.length_append]; omega)
      by_cases escape : (character == '\\') = true
      · rw [if_pos escape, if_pos escape]
        exact escapedWord?_frame spacing below
      · rw [if_neg escape, if_neg escape]
        exact (below (Nat.le_refl _)).cons character

end Framed

theorem singleQuotedWord_suffix (characters : List Char) :
    (singleQuotedWord characters).2.2 <:+ characters := by
  induction characters using singleQuotedWord.induct with
  | case1 => exact List.suffix_rfl
  | case2 rest _ _ _ _ ih =>
    simp only [singleQuotedWord]
    exact ih.trans ⟨['\'', '\''], rfl⟩
  | case3 character rest single quote =>
    have closed : singleQuotedWord (character :: rest) = ([], .closed, character :: rest) := by
      rw [singleQuotedWord, if_pos quote]
      exact single
    exact closed ▸ List.suffix_rfl
  | case4 character rest single notQuote blank =>
    have stopped : singleQuotedWord (character :: rest) = ([], .blank, character :: rest) := by
      rw [singleQuotedWord, if_neg notQuote, if_pos blank]
      exact single
    exact stopped ▸ List.suffix_rfl
  | case5 character rest single notQuote visible _ _ _ _ ih =>
    rw [singleQuotedWord, if_neg notQuote, if_neg visible]
    · exact ih.trans (List.suffix_cons character rest)
    · exact single

theorem doubleQuotedWord?_suffix {fuel : Nat} {characters word rest : List Char}
    {ending : WordEnd} (read : doubleQuotedWord? fuel characters = some (word, ending, rest)) :
    rest <:+ characters := by
  induction fuel generalizing characters word with
  | zero =>
    cases read
    exact List.suffix_rfl
  | succ fuel ih =>
    have below : ∀ {further : List Char} (escaped : Char), further <:+ characters →
        (doubleQuotedWord? fuel further).map (fun found => (escaped :: found.1, found.2)) =
          some (word, ending, rest) → rest <:+ characters := by
      intro further escaped isSuffix same
      obtain ⟨⟨_, _, _⟩, found, equal⟩ := Option.map_eq_some_iff.mp same
      cases equal
      exact (ih found).trans isSuffix
    cases characters with
    | nil =>
      cases read
      exact List.suffix_rfl
    | cons character more =>
      rw [doubleQuotedWord?_cons] at read
      split at read
      · cases read
        exact List.suffix_rfl
      split at read
      · cases read
        exact List.suffix_rfl
      split at read
      · cases more with
        | nil => cases read
        | cons mark after =>
          have isSuffix : after <:+ character :: mark :: after := ⟨[character, mark], rfl⟩
          rw [escapedWord?] at read
          split at read
          · cases read
            exact List.suffix_cons character _
          obtain ⟨escaped, _, readOn⟩ := Option.bind_eq_some_iff.mp read
          cases escaped with
          | inl escaped => exact below escaped isSuffix readOn
          | inr count =>
            obtain ⟨escaped, _, readOn⟩ := Option.bind_eq_some_iff.mp readOn
            exact below escaped ((List.drop_suffix _ _).trans isSuffix) readOn
      · exact below character (List.suffix_cons character more) read

/-- A word of a quoted scalar of either kind. -/
def quotedWord? (single : Bool) (characters : List Char) :
    Option (List Char × WordEnd × List Char) :=
  if single then some (singleQuotedWord characters)
  else doubleQuotedWord? characters.length characters

theorem quotedWord?_suffix {single : Bool} {characters word rest : List Char} {ending : WordEnd}
    (read : quotedWord? single characters = some (word, ending, rest)) : rest <:+ characters := by
  cases single with
  | true =>
    have isSuffix := singleQuotedWord_suffix characters
    rw [Option.some.inj read] at isSuffix
    exact isSuffix
  | false => exact doubleQuotedWord?_suffix read

section Framed

variable (spacing : Spacing frame.tail)

include spacing

theorem quotedWord?_frame (single : Bool) (characters : List Char) :
    FramedWord frame (quotedWord? single characters)
      (quotedWord? single (characters ++ frame.tail)) := by
  cases single with
  | true => exact singleQuotedWord_frame spacing characters
  | false => exact doubleQuotedWord?_frame spacing (Nat.le_refl _) (Nat.le_refl _)

end Framed

/-! ## Quoted scalars -/

/-- At the end of a text no quote is closed. -/
theorem quotedWords?_atEnd (single : Bool) (fuel : Nat) (text : List Char) {cursor : Cursor}
    (ended : cursor.rest = []) : quotedWords? single fuel text cursor = none := by
  cases fuel with
  | zero => rfl
  | succ fuel =>
    rw [quotedWords?, ended]
    cases single <;> simp [singleQuotedWord, doubleQuotedWord?]

/-- Read on behind a word of a quoted scalar, over the gap that follows it. -/
def quotedFrom? (single : Bool) (fuel : Nat) (text : List Char) (gap : Gap) (place : Cursor) :
    Option ReadScalar :=
  (gap? none (place.rest.length + 1) gap place).bind fun found =>
    quotedWords? single fuel (text ++ found.1.text) found.2

/-- Read on behind a word of a quoted scalar, as the end of the word asks for. -/
def afterQuotedWord? (single : Bool) (fuel : Nat) (text : List Char) (cursor : Cursor) :
    Option (List Char × WordEnd × List Char) → Option ReadScalar
  | some (word, .closed, rest) =>
    some { text := text ++ word, cursor := (cursor.skipTo rest).skip 1 }
  | some (word, .blank, rest) => quotedFrom? single fuel (text ++ word) {} (cursor.skipTo rest)
  | some (word, .escapedBreak, rest) =>
    quotedFrom? single fuel (text ++ word) { broken := true } (cursor.skipTo rest).skipLine.1
  | _ => none

theorem quotedWords?_succ (single : Bool) (fuel : Nat) (text : List Char) (cursor : Cursor) :
    quotedWords? single (fuel + 1) text cursor =
      if cursor.atDocumentMarker then none
      else afterQuotedWord? single fuel text cursor (quotedWord? single cursor.rest) := by
  rw [quotedWords?, quotedWord?]
  split
  · rfl
  dsimp only
  cases (if single then some (singleQuotedWord cursor.rest)
    else doubleQuotedWord? cursor.rest.length cursor.rest) with
  | none => rfl
  | some read =>
    obtain ⟨word, ending, rest⟩ := read
    cases ending with
    | closed => rfl
    | unclosed => rfl
    | blank =>
      dsimp only [afterQuotedWord?, quotedFrom?]
      cases gap? none _ _ _ <;> rfl
    | escapedBreak =>
      dsimp only [afterQuotedWord?, quotedFrom?]
      cases gap? none _ _ _ <;> rfl

theorem quotedFrom?_spacing (single : Bool) (fuel : Nat) (text : List Char) (gap : Gap)
    {place : Cursor} (spacing : Spacing place.rest) :
    quotedFrom? single fuel text gap place = none := by
  obtain ⟨whole, last, read, ended⟩ := gap?_spacing none gap spacing (Nat.le_succ _)
  rw [quotedFrom?, read, Option.bind_some, quotedWords?_atEnd single fuel _ ended]

/-- Behind a word that has no end nothing can be read. -/
theorem afterQuotedWord?_unclosed {single : Bool} {fuel : Nat} {text : List Char} {cursor : Cursor}
    {read : Option (List Char × WordEnd × List Char)}
    (unclosed : ∀ word ending rest, read = some (word, ending, rest) → ending = .unclosed) :
    afterQuotedWord? single fuel text cursor read = none := by
  match read, unclosed with
  | none, _ => rfl
  | some (word, ending, rest), unclosed =>
    obtain rfl := unclosed word ending rest rfl
    rfl

/-- Behind a word that ends before spaces and line breaks no quote is closed. -/
theorem afterQuotedWord?_spacing {single : Bool} {fuel : Nat} {text : List Char} {cursor : Cursor}
    {read : Option (List Char × WordEnd × List Char)}
    (unclosed : ∀ word ending rest, read = some (word, ending, rest) →
      ending ≠ .closed ∧ Spacing rest)
    (isSuffix : ∀ word ending rest, read = some (word, ending, rest) → rest <:+ cursor.rest) :
    afterQuotedWord? single fuel text cursor read = none := by
  match read, unclosed, isSuffix with
  | none, _, _ => rfl
  | some (word, ending, rest), unclosed, isSuffix =>
    obtain ⟨notClosed, spaced⟩ := unclosed word ending rest rfl
    have reached := Cursor.rest_skipTo (isSuffix _ _ _ rfl)
    cases ending with
    | closed => exact absurd rfl notClosed
    | unclosed => rfl
    | blank => exact quotedFrom?_spacing single fuel _ _ (reached.symm ▸ spaced)
    | escapedBreak =>
      exact quotedFrom?_spacing single fuel _ _
        (Spacing.suffix (reached.symm ▸ spaced) (Cursor.rest_skipLine_suffix _))

/-- The scalar with its end in the frame. -/
def ReadScalar.inFrame (frame : Frame) (scalar : ReadScalar) : ReadScalar :=
  { scalar with cursor := frame.cursor scalar.cursor }

/-- Over a gap reading goes on alike, if it does so behind the gap. -/
theorem quotedFrom?_frame {single : Bool} {fuel fuelInFrame : Nat} {text : List Char} {gap : Gap}
    {place : Cursor} (solid : Solid place.rest)
    (below : ∀ {text : List Char} {after : Cursor}, StopsAt place after →
      quotedWords? single fuelInFrame text (frame.cursor after) =
        (quotedWords? single fuel text after).map (ReadScalar.inFrame frame)) :
    quotedFrom? single fuelInFrame text gap (frame.cursor place) =
      (quotedFrom? single fuel text gap place).map (ReadScalar.inFrame frame) := by
  have enoughForGap : place.rest.length ≤ (frame.cursor place).rest.length + 1 := by
    rw [frame.cursor_rest, List.length_append]
    omega
  obtain ⟨same, stops⟩ := gap?_frame frame none gap solid (Nat.le_succ _) enoughForGap
  rw [quotedFrom?, quotedFrom?, same]
  cases read : gap? none (place.rest.length + 1) gap place with
  | none => rfl
  | some found => exact below (stops found read)

/-- Behind a word with an end reading goes on alike, if it does so behind the next gap. -/
theorem afterQuotedWord?_frame {single : Bool} {fuel fuelInFrame : Nat} {text word rest : List Char}
    {ending : WordEnd} {cursor : Cursor} (isSuffix : rest <:+ cursor.rest)
    (solid : rest ≠ [] → Solid rest) (stops : ending.StopsBefore rest)
    (below : ∀ {text : List Char} {after : Cursor}, Solid after.rest →
      after.rest.length < cursor.rest.length →
      quotedWords? single fuelInFrame text (frame.cursor after) =
        (quotedWords? single fuel text after).map (ReadScalar.inFrame frame)) :
    afterQuotedWord? single fuelInFrame text (frame.cursor cursor)
        (some (word, ending, rest ++ frame.tail)) =
      (afterQuotedWord? single fuel text cursor (some (word, ending, rest))).map
        (ReadScalar.inFrame frame) := by
  have reached := Cursor.rest_skipTo isSuffix
  have solidHere : rest ≠ [] → Solid (cursor.skipTo rest).rest := fun nonempty =>
    reached.symm ▸ solid nonempty
  have length := isSuffix.length_le
  cases ending with
  | unclosed => exact absurd stops id
  | closed =>
    have one : 1 ≤ (cursor.skipTo rest).rest.length := by
      rw [reached]
      exact List.length_pos_iff.mpr stops
    simp only [afterQuotedWord?, frame.cursor_skipTo, frame.cursor_skip one]
    rfl
  | blank =>
    obtain ⟨first, more, rfl, blank⟩ := stops
    have solidRest := solidHere (List.cons_ne_nil first more)
    simp only [afterQuotedWord?, frame.cursor_skipTo]
    refine quotedFrom?_frame solidRest fun {_ after} stopped => ?_
    have shorter := stopped.shorter (reached.symm ▸ blank)
    rw [reached] at shorter
    exact below (solidRest.suffix stopped.1 stopped.ne_nil) (by omega)
  | escapedBreak =>
    obtain ⟨first, more, rfl, breaks⟩ := stops
    have solidRest := solidHere (List.cons_ne_nil first more)
    obtain ⟨shorter, onward⟩ := Cursor.skipLine_of_isBreak reached breaks
    simp only [afterQuotedWord?, frame.cursor_skipTo, frame.cursor_skipLine solidRest]
    refine quotedFrom?_frame (onward solidRest) fun {_ after} stopped => ?_
    have later := stopped.1.length_le
    rw [reached] at shorter
    exact below ((onward solidRest).suffix stopped.1 stopped.ne_nil) (by omega)

section Framed

variable (spacing : Spacing frame.tail)

include spacing

/-- **A quoted scalar is the same in the frame**, since it ends with its quote. -/
theorem quotedWords?_frame {single : Bool} {fuel fuelInFrame : Nat} {text : List Char}
    {cursor : Cursor} (ends : cursor.rest ≠ [] → Solid cursor.rest)
    (enough : cursor.rest.length < fuel) (enoughInFrame : cursor.rest.length < fuelInFrame) :
    quotedWords? single fuelInFrame text (frame.cursor cursor) =
      (quotedWords? single fuel text cursor).map (ReadScalar.inFrame frame) := by
  induction fuel generalizing fuelInFrame text cursor with
  | zero => exact absurd enough (Nat.not_lt_zero _)
  | succ fuel ih =>
    obtain ⟨further, rfl⟩ : ∃ further, fuelInFrame = further + 1 := ⟨fuelInFrame - 1, by omega⟩
    have framed := quotedWord?_frame spacing single cursor.rest
    have suffixOutside : ∀ word ending rest,
        quotedWord? single cursor.rest = some (word, ending, rest) → rest <:+ cursor.rest :=
      fun _ _ _ => quotedWord?_suffix
    have suffixInFrame : ∀ word ending rest,
        quotedWord? single (cursor.rest ++ frame.tail) = some (word, ending, rest) →
          rest <:+ (frame.cursor cursor).rest := fun _ _ _ => quotedWord?_suffix
    rw [quotedWords?_succ, quotedWords?_succ, cursor_atDocumentMarker spacing, frame.cursor_rest]
    split
    · rfl
    generalize quotedWord? single cursor.rest = outside at framed suffixOutside ⊢
    generalize quotedWord? single (cursor.rest ++ frame.tail) = inFrame at framed suffixInFrame ⊢
    cases framed with
    | inside stops =>
      have isSuffix := suffixOutside _ _ _ rfl
      refine afterQuotedWord?_frame isSuffix (fun nonempty => ?_) stops ?_
      · have here := ends fun empty => nonempty (List.suffix_nil.mp (empty ▸ isSuffix))
        exact here.suffix isSuffix nonempty
      · intro text after solid shorter
        exact ih (fun _ => solid) (by omega) (by omega)
    | unclosed outsideUnclosed inFrameUnclosed =>
      rw [afterQuotedWord?_unclosed outsideUnclosed,
        afterQuotedWord?_spacing inFrameUnclosed suffixInFrame]
      rfl

theorem quotedScalar?_frame {single : Bool} {cursor : Cursor} (solid : Solid cursor.rest) :
    quotedScalar? single (frame.cursor cursor) =
      (quotedScalar? single cursor).map (ReadScalar.inFrame frame) := by
  have one : 1 ≤ cursor.rest.length := List.length_pos_iff.mpr solid.ne_nil
  have fewer := (cursor.rest_skip_suffix 1).length_le
  rw [quotedScalar?, quotedScalar?, frame.cursor_skip one]
  refine quotedWords?_frame spacing (solid.suffix (cursor.rest_skip_suffix 1)) (by omega) ?_
  rw [frame.cursor_rest, List.length_append]
  omega

end Framed

theorem quotedWords?_suffix {single : Bool} {fuel : Nat} {text : List Char} {cursor : Cursor}
    {scalar : ReadScalar} (read : quotedWords? single fuel text cursor = some scalar) :
    scalar.cursor.rest <:+ cursor.rest := by
  induction fuel generalizing text cursor with
  | zero => cases read
  | succ fuel ih =>
    have below : ∀ (text : List Char) (gap : Gap) (place : Cursor), place.rest <:+ cursor.rest →
        quotedFrom? single fuel text gap place = some scalar →
        scalar.cursor.rest <:+ cursor.rest := by
      intro text gap place isSuffix readOn
      obtain ⟨found, gapRead, rest⟩ := Option.bind_eq_some_iff.mp readOn
      exact ((ih rest).trans (gap?_suffix gapRead)).trans isSuffix
    rw [quotedWords?_succ] at read
    split at read
    · cases read
    match quotedWord? single cursor.rest, read with
    | none, read => cases read
    | some (word, .unclosed, rest), read => cases read
    | some (word, .closed, rest), read =>
      cases read
      exact (Cursor.rest_skip_suffix _ 1).trans (cursor.rest_skip_suffix _)
    | some (word, .blank, rest), read => exact below _ _ _ (cursor.rest_skip_suffix _) read
    | some (word, .escapedBreak, rest), read =>
      exact below _ _ _ ((Cursor.rest_skipLine_suffix _).trans (cursor.rest_skip_suffix _)) read

end Acronyms.Yaml
