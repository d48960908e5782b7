import Acronyms.Proofs.Yaml.Frame

/-!
# Plain scalars in a frame

A gap of a solid text ends at a visible character, before the frame does.  **A plain scalar is
the same in a frame**; where it goes on to the end of the text, it may take spaces and line
breaks of the frame with it, which add nothing to it.
-/

set_option autoImplicit false

namespace Acronyms.Yaml

variable {frame : Frame}

/-! ## Gaps -/

/-- Reading has stopped at a place further on, before a character that is neither a blank nor
a line break. -/
def StopsAt (cursor after : Cursor) : Prop :=
  after.rest <:+ cursor.rest ∧ ∃ first more, after.rest = first :: more ∧
    isBlank first = false ∧ isBreak first = false

theorem StopsAt.ne_nil {cursor after : Cursor} (stops : StopsAt cursor after) :
    after.rest ≠ [] := by
  obtain ⟨_, first, more, starts, _⟩ := stops
  exact starts ▸ List.cons_ne_nil first more

theorem StopsAt.of_suffix {cursor between after : Cursor} (stops : StopsAt between after)
    (isSuffix : between.rest <:+ cursor.rest) : StopsAt cursor after :=
  ⟨stops.1.trans isSuffix, stops.2⟩

/-- Reading has gone on, when it began at a blank or a line break. -/
theorem StopsAt.shorter {cursor after : Cursor} (stops : StopsAt cursor after)
    (blank : atBlankOrEnd cursor.rest = true) : after.rest.length < cursor.rest.length := by
  obtain ⟨isSuffix, first, more, starts, notBlank, notBreak⟩ := stops
  refine Nat.lt_of_le_of_ne isSuffix.length_le fun same => ?_
  rw [← isSuffix.eq_of_length same, starts, atBlankOrEnd, notBlank, notBreak] at blank
  cases blank

/-- **In a solid text a gap ends before the frame does**, and is the same in the frame. -/
theorem gap?_frame (frame : Frame) (leastColumn : Option Int) (gap : Gap)
    {fuel fuelInFrame : Nat} {cursor : Cursor} (solid : Solid cursor.rest)
    (enough : cursor.rest.length ≤ fuel) (enoughInFrame : cursor.rest.length ≤ fuelInFrame) :
    gap? leastColumn fuelInFrame gap (frame.cursor cursor) =
        (gap? leastColumn fuel gap cursor).map (fun found => (found.1, frame.cursor found.2)) ∧
      ∀ found, gap? leastColumn fuel gap cursor = some found → StopsAt cursor found.2 := by
  induction fuel generalizing fuelInFrame gap cursor with
  | zero => exact absurd (List.length_eq_zero_iff.mp (Nat.le_zero.mp enough)) solid.ne_nil
  | succ fuel ih =>
    obtain ⟨character, more, starts⟩ := List.exists_cons_of_ne_nil solid.ne_nil
    have length : cursor.rest.length = more.length + 1 := by rw [starts, List.length_cons]
    obtain ⟨further, rfl⟩ : ∃ further, fuelInFrame = further + 1 := ⟨fuelInFrame - 1, by omega⟩
    have head : cursor.head? = some character := by rw [Cursor.head?, starts]; rfl
    -- Behind a blank and behind a line break, reading goes on in a solid text.
    have below : ∀ next : Cursor, Solid next.rest → next.rest <:+ cursor.rest →
        next.rest.length < cursor.rest.length → ∀ gap,
          gap? leastColumn further gap (frame.cursor next) =
            (gap? leastColumn fuel gap next).map (fun found => (found.1, frame.cursor found.2)) ∧
          ∀ found, gap? leastColumn fuel gap next = some found → StopsAt cursor found.2 := by
      intro next onward isSuffix shorter gap
      obtain ⟨same, stops⟩ :=
        ih gap onward (by omega) (show next.rest.length ≤ further by omega)
      exact ⟨same, fun found read => (stops found read).of_suffix isSuffix⟩
    rw [gap?, gap?, frame.cursor_head? solid.ne_nil, head]
    dsimp only
    by_cases blank : isBlank character = true
    · have onward : Solid (cursor.skip 1).rest := by
        rw [Cursor.skip, starts]
        exact (starts ▸ solid).tail (.inl blank)
      have shorter : (cursor.skip 1).rest.length < cursor.rest.length := by
        simp only [Cursor.skip, List.length_drop]
        omega
      rw [if_pos blank, if_pos blank, frame.cursor_skip (by omega), frame.cursor_column]
      split
      · refine ⟨rfl, fun _ read => ?_⟩
        cases read
      split
      · exact below _ onward (cursor.rest_skip_suffix 1) shorter _
      · exact below _ onward (cursor.rest_skip_suffix 1) shorter _
    · rw [if_neg blank, if_neg blank]
      by_cases breaks : isBreak character = true
      · obtain ⟨shorter, onward⟩ := Cursor.skipLine_of_isBreak starts breaks
        rw [if_pos breaks, if_pos breaks, frame.cursor_skipLine solid]
        dsimp only
        split
        · exact below _ (onward solid) cursor.rest_skipLine_suffix shorter _
        · exact below _ (onward solid) cursor.rest_skipLine_suffix shorter _
      · rw [if_neg breaks, if_neg breaks]
        refine ⟨rfl, fun found read => ?_⟩
        cases read
        exact ⟨List.suffix_rfl, character, more, starts, Bool.eq_false_iff.mpr blank,
          Bool.eq_false_iff.mpr breaks⟩

theorem gap?_suffix {leastColumn : Option Int} {fuel : Nat} {gap : Gap} {cursor : Cursor}
    {found : Gap × Cursor} (read : gap? leastColumn fuel gap cursor = some found) :
    found.2.rest <:+ cursor.rest := by
  induction fuel generalizing gap cursor with
  | zero =>
    cases read
    exact List.suffix_rfl
  | succ fuel ih =>
    rw [gap?] at read
    split at read
    · cases read
      exact List.suffix_rfl
    split at read
    · split at read
      · cases read
      split at read
      · exact (ih read).trans (cursor.rest_skip_suffix 1)
      · exact (ih read).trans (cursor.rest_skip_suffix 1)
    split at read
    · dsimp only at read
      split at read
      · exact (ih read).trans cursor.rest_skipLine_suffix
      · exact (ih read).trans cursor.rest_skipLine_suffix
    · cases read
      exact List.suffix_rfl

/-- A gap of spaces and line breaks goes on to the end of the text. -/
theorem gap?_spacing (leastColumn : Option Int) {fuel : Nat} (gap : Gap) {cursor : Cursor}
    (spacing : Spacing cursor.rest) (enough : cursor.rest.length ≤ fuel) :
    ∃ whole atEnd, gap? leastColumn fuel gap cursor = some (whole, atEnd) ∧ atEnd.rest = [] := by
  induction fuel generalizing gap cursor with
  | zero =>
    exact ⟨gap, cursor, rfl, List.length_eq_zero_iff.mp (Nat.le_zero.mp enough)⟩
  | succ fuel ih =>
    cases starts : cursor.rest with
    | nil => exact ⟨gap, cursor, by rw [gap?, Cursor.head?, starts]; rfl, starts⟩
    | cons character more =>
      have head : cursor.head? = some character := by rw [Cursor.head?, starts]; rfl
      have spaced : isSpacing character = true := spacing character (starts ▸ List.mem_cons_self)
      have length : cursor.rest.length = more.length + 1 := by rw [starts, List.length_cons]
      rw [gap?, head]
      dsimp only
      by_cases blank : isBlank character = true
      · have notTab : (character == '\t') = false := by
          refine beq_false_of_ne ?_
          rintro rfl
          revert spaced
          decide
        have below := fun gap => ih gap (spacing.suffix (cursor.rest_skip_suffix 1))
          (show (cursor.skip 1).rest.length ≤ fuel by
            simp only [Cursor.skip, List.length_drop]
            omega)
        rw [if_pos blank, notTab, Bool.and_false, Bool.false_and, if_neg Bool.false_ne_true]
        split
        · exact below _
        · exact below _
      · have breaks : isBreak character = true := by
          simp only [isSpacing, isBlank, Bool.or_eq_true, beq_iff_eq, not_or] at spaced blank
          exact spaced.resolve_left blank.1
        obtain ⟨shorter, _⟩ := Cursor.skipLine_of_isBreak starts breaks
        have below := fun gap => ih gap (spacing.suffix cursor.rest_skipLine_suffix)
          (show cursor.skipLine.1.rest.length ≤ fuel by omega)
        rw [if_neg blank, if_pos breaks]
        split
        · exact below _
        · exact below _

/-! ## Plain scalars -/

theorem plainWord?_suffix {inFlow : Bool} {characters word rest : List Char}
    (read : plainWord? inFlow characters = some (word, rest)) : rest <:+ characters := by
  induction characters generalizing word with
  | nil =>
    cases read
    exact List.suffix_rfl
  | cons character more ih =>
    rw [plainWord?] at read
    split at read
    · cases read
      exact List.suffix_rfl
    split at read
    · cases read
    split at read
    · cases read
      exact List.suffix_rfl
    · obtain ⟨⟨further, after⟩, below, same⟩ := Option.map_eq_some_iff.mp read
      cases same
      exact (ih below).trans (List.suffix_cons character more)

section Framed

variable (spacing : Spacing frame.tail)

include spacing

theorem plainWord?_append (inFlow : Bool) (characters : List Char) :
    plainWord? inFlow (characters ++ frame.tail) =
      (plainWord? inFlow characters).map fun found => (found.1, found.2 ++ frame.tail) := by
  have indicators : LacksSpacing fun next => isFlowIndicator next || next == '?' :=
    lacksSpacing_of_all (by decide)
  induction characters with
  | nil =>
    cases tail : frame.tail with
    | nil => rfl
    | cons character more =>
      have blank := blank_of_isSpacing (spacing character (tail ▸ List.mem_cons_self))
      change plainWord? inFlow (character :: more) = some ([], character :: more)
      rw [plainWord?, if_pos blank]
  | cons character more ih =>
    rw [List.cons_append, plainWord?, plainWord?, head?_any_append_spacing spacing indicators,
      atBlankOrEnd_append_spacing spacing, ih, Option.map_map]
    split
    · rfl
    split
    · rfl
    split
    · rfl
    · rw [Option.map_map]
      rfl

end Framed

/-- Read on behind a word of a plain scalar, over the gap that follows it. -/
def afterPlainWord? (inFlow : Bool) (leastColumn : Int) (fuel : Nat) (text : List Char) (gap : Gap)
    (place : Cursor) : Option ReadScalar :=
  if atBlankOrEnd place.rest && !place.rest.isEmpty then
    (gap? (some leastColumn) place.rest.length {} place).bind fun found =>
      if !inFlow && (found.2.column : Int) < leastColumn then
        some ⟨text, found.2, found.1.broken⟩
      else plainWords? inFlow leastColumn fuel text found.1 found.2
  else some ⟨text, place, gap.broken⟩

theorem plainWords?_succ (inFlow : Bool) (leastColumn : Int) (fuel : Nat) (text : List Char)
    (gap : Gap) (cursor : Cursor) :
    plainWords? inFlow leastColumn (fuel + 1) text gap cursor =
      if cursor.atDocumentMarker || cursor.head? == some '#' then some ⟨text, cursor, gap.broken⟩
      else
        (plainWord? inFlow cursor.rest).bind fun found =>
          afterPlainWord? inFlow leastColumn fuel
            (if found.1 = [] then text else text ++ gap.text ++ found.1)
            (if found.1 = [] then gap else {}) (cursor.skipTo found.2) := by
  rw [plainWords?]
  split
  · rfl
  cases read : plainWord? inFlow cursor.rest with
  | none => rfl
  | some found =>
    have reached := Cursor.rest_skipTo (plainWord?_suffix read)
    dsimp only [Option.bind_some, afterPlainWord?]
    rw [reached]
    split
    · cases gap? (some leastColumn) found.2.length {} (cursor.skipTo found.2) <;> rfl
    · rfl

section Suffixes

variable {inFlow : Bool} {leastColumn : Int} {fuel : Nat} {text : List Char} {gap : Gap}
  {scalar : ReadScalar}

theorem afterPlainWord?_suffix_of {place : Cursor}
    (below : ∀ {text : List Char} {gap : Gap} {cursor : Cursor},
      plainWords? inFlow leastColumn fuel text gap cursor = some scalar →
        scalar.cursor.rest <:+ cursor.rest)
    (read : afterPlainWord? inFlow leastColumn fuel text gap place = some scalar) :
    scalar.cursor.rest <:+ place.rest := by
  rw [afterPlainWord?] at read
  split at read
  · obtain ⟨found, gapRead, further⟩ := Option.bind_eq_some_iff.mp read
    have overGap := gap?_suffix gapRead
    split at further
    · cases further
      exact overGap
    · exact (below further).trans overGap
  · cases read
    exact List.suffix_rfl

theorem plainWords?_suffix {cursor : Cursor}
    (read : plainWords? inFlow leastColumn fuel text gap cursor = some scalar) :
    scalar.cursor.rest <:+ cursor.rest := by
  induction fuel generalizing text gap cursor with
  | zero =>
    cases read
    exact List.suffix_rfl
  | succ fuel ih =>
    rw [plainWords?_succ] at read
    split at read
    · cases read
      exact List.suffix_rfl
    · obtain ⟨found, _, further⟩ := Option.bind_eq_some_iff.mp read
      exact (afterPlainWord?_suffix_of ih further).trans (cursor.rest_skip_suffix _)

theorem afterPlainWord?_suffix {place : Cursor}
    (read : afterPlainWord? inFlow leastColumn fuel text gap place = some scalar) :
    scalar.cursor.rest <:+ place.rest :=
  afterPlainWord?_suffix_of plainWords?_suffix read

end Suffixes

/-- A scalar is read in the frame as without it.  One that goes on to the end of the text may
go on into the spaces and line breaks of the frame. -/
inductive FramedScalar (frame : Frame) : ReadScalar → ReadScalar → Prop where
  | inside (scalar : ReadScalar) : scalar.cursor.rest ≠ [] →
      FramedScalar frame scalar { scalar with cursor := frame.cursor scalar.cursor }
  | ended {scalar inFrame : ReadScalar} : scalar.cursor.rest = [] → Spacing inFrame.cursor.rest →
      inFrame.text = scalar.text → FramedScalar frame scalar inFrame

/-- At the end of a text there are no further words. -/
theorem plainWords?_atEnd (inFlow : Bool) (leastColumn : Int) (fuel : Nat) (text : List Char)
    (gap : Gap) {cursor : Cursor} (ended : cursor.rest = []) :
    ∃ scalar, plainWords? inFlow leastColumn fuel text gap cursor = some scalar ∧
      scalar.text = text ∧ scalar.cursor.rest = [] := by
  cases fuel with
  | zero => exact ⟨_, rfl, rfl, ended⟩
  | succ fuel =>
    refine ⟨⟨text, cursor.skipTo [], gap.broken⟩, ?_, rfl, ?_⟩
    · simp [plainWords?, Cursor.atDocumentMarker, Cursor.atMarker, Cursor.head?, ended, plainWord?]
    · simp [Cursor.skipTo, Cursor.skip, ended]

section Framed

variable (spacing : Spacing frame.tail)

include spacing

theorem cursor_atDocumentMarker (cursor : Cursor) :
    (frame.cursor cursor).atDocumentMarker = cursor.atDocumentMarker := by
  rw [Cursor.atDocumentMarker, Cursor.atDocumentMarker,
    frame.cursor_atMarker spacing (by decide), frame.cursor_atMarker spacing (by decide)]

omit spacing in
/-- Behind a word at the end of the text nothing follows in the frame either. -/
theorem afterPlainWord?_atEnd {inFlow : Bool} {leastColumn : Int} {fuel fuelInFrame : Nat}
    {text : List Char} {gap : Gap} {place placeInFrame : Cursor} (ended : place.rest = [])
    (spaced : Spacing placeInFrame.rest) :
    Option.Rel (FramedScalar frame)
      (afterPlainWord? inFlow leastColumn fuel text gap place)
      (afterPlainWord? inFlow leastColumn fuelInFrame text gap placeInFrame) := by
  rw [afterPlainWord?, ended, afterPlainWord?, if_neg (by simp [atBlankOrEnd])]
  split
  · obtain ⟨nextGap, last, gapRead, empty⟩ :=
      gap?_spacing (some leastColumn) {} spaced (Nat.le_refl _)
    rw [gapRead, Option.bind_some]
    split
    · exact .some (.ended ended (spacing_of_eq_nil empty) rfl)
    · obtain ⟨scalar, readOn, same, finished⟩ :=
        plainWords?_atEnd inFlow leastColumn fuelInFrame text nextGap empty
      rw [readOn]
      exact .some (.ended ended (spacing_of_eq_nil finished) same)
  · exact .some (.ended ended spaced rfl)

/-- Behind a word inside the text reading goes on alike, if it does so behind the gap. -/
theorem afterPlainWord?_frame {inFlow : Bool} {leastColumn : Int} {fuel fuelInFrame : Nat}
    {text : List Char} {gap : Gap} {place : Cursor} (solid : Solid place.rest)
    (below : ∀ {gap : Gap} {cursor : Cursor}, Solid cursor.rest →
      cursor.rest.length < place.rest.length →
      Option.Rel (FramedScalar frame)
        (plainWords? inFlow leastColumn fuel text gap cursor)
        (plainWords? inFlow leastColumn fuelInFrame text gap (frame.cursor cursor))) :
    Option.Rel (FramedScalar frame)
      (afterPlainWord? inFlow leastColumn fuel text gap place)
      (afterPlainWord? inFlow leastColumn fuelInFrame text gap (frame.cursor place)) := by
  have more : (frame.cursor place).rest.isEmpty = place.rest.isEmpty := by
    rw [frame.cursor_rest]
    cases rest : place.rest with
    | nil => exact absurd rest solid.ne_nil
    | cons character rest => rfl
  rw [afterPlainWord?, afterPlainWord?, more, frame.cursor_rest,
    atBlankOrEnd_append_spacing spacing]
  split
  next blank =>
    have enoughForGap : place.rest.length ≤ (place.rest ++ frame.tail).length := by
      rw [List.length_append]
      exact Nat.le_add_right _ _
    obtain ⟨same, stops⟩ :=
      gap?_frame frame (some leastColumn) {} solid (Nat.le_refl _) enoughForGap
    rw [same]
    cases gapRead : gap? (some leastColumn) place.rest.length {} place with
    | none => exact .none
    | some found =>
      have stopped : StopsAt place found.2 := stops _ gapRead
      have shorter := stopped.shorter (Bool.and_eq_true_iff.mp blank).1
      have sameColumn : (frame.cursor found.2).column = found.2.column := rfl
      simp only [Option.map_some, Option.bind_some]
      by_cases outdented : (!inFlow && decide ((found.2.column : Int) < leastColumn)) = true
      · rw [sameColumn, if_pos outdented, if_pos outdented]
        exact .some (.inside _ stopped.ne_nil)
      · rw [sameColumn, if_neg outdented, if_neg outdented]
        exact below (solid.suffix stopped.1 stopped.ne_nil) shorter
  next => exact .some (.inside _ solid.ne_nil)

/-- **The words of a plain scalar are the same in the frame.** -/
theorem plainWords?_frame {inFlow : Bool} {leastColumn : Int} {fuel fuelInFrame : Nat}
    {text : List Char} {gap : Gap} {cursor : Cursor} (solid : Solid cursor.rest)
    (enough : cursor.rest.length < fuel) (enoughInFrame : cursor.rest.length < fuelInFrame) :
    Option.Rel (FramedScalar frame)
      (plainWords? inFlow leastColumn fuel text gap cursor)
      (plainWords? inFlow leastColumn fuelInFrame text gap (frame.cursor cursor)) := by
  induction fuel generalizing fuelInFrame text gap cursor with
  | zero => exact absurd enough (Nat.not_lt_zero _)
  | succ fuel ih =>
    obtain ⟨further, rfl⟩ : ∃ further, fuelInFrame = further + 1 := ⟨fuelInFrame - 1, by omega⟩
    rw [plainWords?_succ, plainWords?_succ, cursor_atDocumentMarker spacing,
      frame.cursor_head? solid.ne_nil, frame.cursor_rest, plainWord?_append spacing]
    split
    · exact .some (.inside _ solid.ne_nil)
    cases read : plainWord? inFlow cursor.rest with
    | none => exact .none
    | some found =>
      have isSuffix := plainWord?_suffix read
      have reached := Cursor.rest_skipTo isSuffix
      have fewer := isSuffix.length_le
      simp only [Option.map_some, Option.bind_some, frame.cursor_skipTo]
      by_cases ended : found.2 = []
      · refine afterPlainWord?_atEnd (reached.trans ended) ?_
        rw [frame.cursor_rest, reached, ended]
        exact spacing
      · have onward : Solid (cursor.skipTo found.2).rest := by
          rw [reached]
          exact solid.suffix isSuffix ended
        refine afterPlainWord?_frame spacing onward ?_
        intro gap next onward shorter
        rw [reached] at shorter
        exact ih onward (by omega) (by omega)

theorem plainScalar?_frame {inFlow : Bool} {indentation : Int} {cursor : Cursor}
    (solid : Solid cursor.rest) :
    Option.Rel (FramedScalar frame) (plainScalar? inFlow indentation cursor)
      (plainScalar? inFlow indentation (frame.cursor cursor)) := by
  refine plainWords?_frame spacing solid (Nat.lt_succ_self _) ?_
  rw [frame.cursor_rest, List.length_append]
  omega

end Framed

end Acronyms.Yaml
