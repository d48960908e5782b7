import Acronyms.Proofs.EndRuns
import Acronyms.Proofs.Yaml.FramedTokens

/-!
# The next token in a frame

Between tokens a reader moves over blanks, comments and line breaks, and then reads one token.
**Both come to the same in a frame** (`skipToToken_frame`, `follows_token?`).  A reader that has
come to the end of the text may in the frame have come to any place before its spaces and line
breaks (`FramedReader.ended`).
-/

set_option autoImplicit false

namespace Acronyms.Yaml

open TokenReader

/-! ## Blanks and comments -/

namespace Cursor

/-- The place behind blanks and behind the comment that follows them. -/
def skipComment (inClass : Char → Bool) (cursor : Cursor) : Cursor :=
  let blanks := cursor.skipWhile inClass
  if blanks.head? == some '#' then blanks.skipWhile (!isBreak ·) else blanks

theorem rest_skipWhile (inClass : Char → Bool) (cursor : Cursor) :
    (cursor.skipWhile inClass).rest = cursor.rest.dropWhile inClass := by
  have parts := List.takeWhile_append_dropWhile (p := inClass) (l := cursor.rest)
  calc cursor.rest.drop (cursor.rest.takeWhile inClass).length
      = (cursor.rest.takeWhile inClass ++ cursor.rest.dropWhile inClass).drop
          (cursor.rest.takeWhile inClass).length := by rw [parts]
    _ = cursor.rest.dropWhile inClass := List.drop_left

theorem rest_skipComment_suffix (inClass : Char → Bool) (cursor : Cursor) :
    (cursor.skipComment inClass).rest <:+ cursor.rest := by
  have blanks : (cursor.skipWhile inClass).rest <:+ cursor.rest := cursor.rest_skip_suffix _
  rw [skipComment]
  split
  · exact (Cursor.rest_skip_suffix _ _).trans blanks
  · exact blanks

/-- Behind blanks and a comment there is no further blank. -/
theorem not_inClass_of_skipComment {inClass : Char → Bool} {cursor : Cursor} {character : Char}
    (head : (cursor.skipComment inClass).head? = some character)
    (notBreak : isBreak character = false) : inClass character = false := by
  have stops : ∀ (inClass : Char → Bool) (cursor : Cursor),
      (cursor.skipWhile inClass).head? = some character → inClass character = false := by
    intro inClass cursor head
    rw [Cursor.head?, rest_skipWhile] at head
    exact eq_false_of_head?_dropWhile character head
  rw [skipComment] at head
  split at head
  · have breaks := stops _ _ head
    rw [notBreak] at breaks
    cases breaks
  · exact stops _ _ head

end Cursor

/-- A place in the frame and without it.  Where it is the end of the text, it may be any place
before the spaces and line breaks of the frame. -/
inductive FramedCursor (frame : Frame) : Cursor → Cursor → Prop where
  | inside {cursor : Cursor} : Solid cursor.rest → FramedCursor frame cursor (frame.cursor cursor)
  | ended {cursor inFrame : Cursor} : cursor.rest = [] → Spacing inFrame.rest →
      FramedCursor frame cursor inFrame

section Framed

variable {frame : Frame} (spacing : Spacing frame.tail)

include spacing

theorem framedCursor_of_suffix {cursor after : Cursor} (solid : Solid cursor.rest)
    (isSuffix : after.rest <:+ cursor.rest) : FramedCursor frame after (frame.cursor after) := by
  by_cases ended : after.rest = []
  · refine .ended ended ?_
    rw [frame.cursor_rest, ended]
    exact spacing
  · exact .inside (solid.suffix isSuffix ended)

/-- **A comment ends before the frame does, or goes on to the end of the text** and in the
frame at most to the end of its line. -/
theorem skipComment_frame {inClass : Char → Bool}
    (blanks : ∀ character, inClass character = true → isBlank character = true)
    {cursor inFrame : Cursor} (framed : FramedCursor frame cursor inFrame) :
    FramedCursor frame (cursor.skipComment inClass) (inFrame.skipComment inClass) := by
  cases framed with
  | ended finished spaced =>
    refine .ended ?_ (spaced.suffix (Cursor.rest_skipComment_suffix _ _))
    exact List.suffix_nil.mp (finished ▸ cursor.rest_skipComment_suffix inClass)
  | inside solid =>
    have dropped := solid.dropWhile blanks
    have behind : Solid (cursor.skipWhile inClass).rest :=
      (cursor.rest_skipWhile inClass).symm ▸ dropped
    rw [Cursor.skipComment, Cursor.skipComment, frame.cursor_skipWhile dropped.ne_nil,
      frame.cursor_head? behind.ne_nil]
    split
    · by_cases finished : ((cursor.skipWhile inClass).rest.dropWhile (!isBreak ·)) = []
      · refine .ended ((Cursor.rest_skipWhile _ _).trans finished) ?_
        rw [Cursor.rest_skipWhile, frame.cursor_rest, List.dropWhile_append, finished]
        exact spacing.suffix (List.dropWhile_suffix _)
      · rw [frame.cursor_skipWhile finished]
        refine .inside ?_
        rw [Cursor.rest_skipWhile]
        exact behind.suffix (List.dropWhile_suffix _) finished
    · exact .inside behind

end Framed

/-! ## Moving to the next token -/

/-- Whether a character is a blank between tokens. -/
def isGap (tabs : Bool) (character : Char) : Bool :=
  character == ' ' || (tabs && character == '\t')

theorem isBlank_of_isGap {tabs : Bool} {character : Char} (gap : isGap tabs character = true) :
    isBlank character = true := by
  simp only [isGap, isBlank, Bool.or_eq_true, Bool.and_eq_true] at gap ⊢
  exact gap.imp id And.right

namespace TokenReader

/-- The place behind the blanks and the comment before a token. -/
def afterComment (reader : TokenReader) : Cursor :=
  reader.cursor.skipComment (isGap (reader.inFlow || !reader.keyAllowed))

/-- Go on to the next line, where a key may stand. -/
def enterLine (reader : TokenReader) (cursor : Cursor) : TokenReader :=
  { reader with
    cursor := cursor.skipLine.1, keyAllowed := reader.keyAllowed || !reader.inFlow }

theorem skipToToken_succ (fuel : Nat) (reader : TokenReader) :
    reader.skipToToken (fuel + 1) =
      if reader.afterComment.head?.any isBreak then
        (reader.enterLine reader.afterComment).skipToToken fuel
      else reader.moveTo reader.afterComment := rfl

/-- Where a line break follows, the next line is nearer to the end. -/
theorem rest_enterLine_shorter (reader : TokenReader) {cursor : Cursor}
    (breaks : cursor.head?.any isBreak = true) :
    (reader.enterLine cursor).cursor.rest.length < cursor.rest.length ∧
      (Solid cursor.rest → Solid (reader.enterLine cursor).cursor.rest) := by
  obtain ⟨first, head, isBreak⟩ := (Option.any_eq_true _ _).mp breaks
  obtain ⟨more, starts⟩ := List.head?_eq_some_iff.mp head
  exact Cursor.skipLine_of_isBreak starts isBreak

/-- Moving to a token changes nothing else in a reader. -/
theorem skipToToken_eq (fuel : Nat) (reader : TokenReader) :
    ∃ cursor keyAllowed, reader.skipToToken fuel = { reader with cursor, keyAllowed } ∧
      cursor.rest <:+ reader.cursor.rest := by
  induction fuel generalizing reader with
  | zero => exact ⟨_, _, rfl, List.suffix_rfl⟩
  | succ fuel ih =>
    have comment : reader.afterComment.rest <:+ reader.cursor.rest :=
      reader.cursor.rest_skipComment_suffix _
    rw [skipToToken_succ]
    split
    · obtain ⟨cursor, keyAllowed, same, isSuffix⟩ := ih (reader.enterLine reader.afterComment)
      exact ⟨cursor, keyAllowed, same,
        (isSuffix.trans (Cursor.rest_skipLine_suffix _)).trans comment⟩
    · exact ⟨_, _, rfl, comment⟩

/-- Before a token there is no space and no line break. -/
theorem head?_skipToToken {fuel : Nat} {reader : TokenReader}
    (enough : reader.cursor.rest.length < fuel) :
    (reader.skipToToken fuel).cursor.head?.any isSpacing = false := by
  induction fuel generalizing reader with
  | zero => exact absurd enough (Nat.not_lt_zero _)
  | succ fuel ih =>
    have comment : reader.afterComment.rest <:+ reader.cursor.rest :=
      reader.cursor.rest_skipComment_suffix _
    have length := comment.length_le
    rw [skipToToken_succ]
    split
    next breaks =>
      have shorter := (rest_enterLine_shorter reader breaks).1
      exact ih (by omega)
    next notBreak =>
      change reader.afterComment.head?.any isSpacing = false
      cases head : reader.afterComment.head? with
      | none => rfl
      | some character =>
        have notBreak : isBreak character = false := by simpa [head] using notBreak
        have notGap := Cursor.not_inClass_of_skipComment head notBreak
        simp only [isGap, Bool.or_eq_false_iff] at notGap
        simp [isSpacing, notBreak, notGap.1]

/-- More fuel than there are characters makes no difference. -/
theorem skipToToken_fuel {fuel more : Nat} {reader : TokenReader}
    (enough : reader.cursor.rest.length < fuel) (enoughMore : reader.cursor.rest.length < more) :
    reader.skipToToken more = reader.skipToToken fuel := by
  induction fuel generalizing more reader with
  | zero => exact absurd enough (Nat.not_lt_zero _)
  | succ fuel ih =>
    obtain ⟨further, rfl⟩ : ∃ further, more = further + 1 := ⟨more - 1, by omega⟩
    have comment : reader.afterComment.rest <:+ reader.cursor.rest :=
      reader.cursor.rest_skipComment_suffix _
    have length := comment.length_le
    rw [skipToToken_succ, skipToToken_succ]
    split
    next breaks =>
      have shorter := (rest_enterLine_shorter reader breaks).1
      exact ih (by omega) (by omega)
    next => rfl

end TokenReader

/-! ## The start of a plain scalar -/

/-- The first character of a plain scalar belongs to its first word. -/
theorem plainWord?_of_startsPlain {inFlow : Bool} {first : Char} {more : List Char}
    (starts : startsPlain inFlow (first :: more) = true) :
    first ≠ '#' ∧ plainWord? inFlow (first :: more) =
      (plainWord? inFlow more).map fun found => (first :: found.1, found.2) := by
  have word : (isBlank first || isBreak first) = false →
      (inFlow = true → first ≠ ':' ∧ isFlowIndicator first = false) →
      (first = ':' → atBlankOrEnd more = false) →
      plainWord? inFlow (first :: more) =
        (plainWord? inFlow more).map fun found => (first :: found.1, found.2) := by
    intro visible inside colon
    rw [plainWord?, visible]
    cases inFlow with
    | false =>
      by_cases mark : first = ':'
      · simp [mark, colon mark]
      · simp [mark]
    | true =>
      obtain ⟨notColon, notIndicator⟩ := inside rfl
      simp [notColon, notIndicator]
  rw [startsPlain] at starts
  by_cases dash : first = '-'
  · subst dash
    exact ⟨by decide, word rfl (fun _ => ⟨by decide, rfl⟩) (absurd · (by decide))⟩
  by_cases question : first = '?'
  · subst question
    exact ⟨by decide, word rfl (fun _ => ⟨by decide, rfl⟩) (absurd · (by decide))⟩
  by_cases colon : first = ':'
  · subst colon
    obtain ⟨outside, more⟩ : inFlow = false ∧ atBlankOrEnd more = false := by simpa using starts
    exact ⟨by decide, word rfl (by simp [outside]) fun _ => more⟩
  · have indicators : isBlank first = false ∧ isBreak first = false ∧
        first ∉ ",[]\x7b\x7d#&*!|>'\"%@`".toList := by
      simpa [dash, question, colon, and_assoc] using starts
    obtain ⟨notBlank, notBreak, notIndicator⟩ := indicators
    have comment : first ≠ '#' := by
      rintro rfl
      exact notIndicator (by decide)
    have noFlow : isFlowIndicator first = false := Bool.eq_false_iff.mpr fun flow => by
      simp only [isFlowIndicator, Bool.or_eq_true, beq_iff_eq] at flow
      rcases flow with (((rfl | rfl) | rfl) | rfl) | rfl <;> exact notIndicator (by decide)
    exact ⟨comment, word (by rw [notBlank, notBreak, Bool.or_false]) (fun _ => ⟨colon, noFlow⟩)
      (absurd · colon)⟩

/-- A plain scalar takes up at least the character it starts with. -/
theorem plainScalar?_shorter {inFlow : Bool} {indentation : Int} {cursor : Cursor}
    {scalar : ReadScalar} (starts : startsPlain inFlow cursor.rest = true)
    (noMarker : cursor.atDocumentMarker = false)
    (read : Yaml.plainScalar? inFlow indentation cursor = some scalar) :
    scalar.cursor.rest.length < cursor.rest.length := by
  cases rest : cursor.rest with
  | nil =>
    rw [rest] at starts
    cases starts
  | cons first more =>
    rw [rest] at starts
    obtain ⟨notComment, word⟩ := plainWord?_of_startsPlain starts
    have head : (cursor.head? == some '#') = false := by
      rw [Cursor.head?, rest]
      exact beq_false_of_ne fun same => notComment (Option.some.inj same)
    rw [Yaml.plainScalar?, plainWords?_succ, noMarker, head, rest, word] at read
    obtain ⟨found, wordRead, further⟩ := Option.bind_eq_some_iff.mp read
    obtain ⟨tail, tailRead, rfl⟩ := Option.map_eq_some_iff.mp wordRead
    have isSuffix : tail.2 <:+ more := plainWord?_suffix tailRead
    have reached : (cursor.skipTo tail.2).rest = tail.2 :=
      Cursor.rest_skipTo (rest ▸ isSuffix.trans (List.suffix_cons first more))
    have onward := afterPlainWord?_suffix further
    rw [reached] at onward
    exact Nat.lt_succ_of_le (Nat.le_trans onward.length_le isSuffix.length_le)

/-! ## Readers with and without the frame -/

/-- The reader is in the frame what it is without it.  One that has come to the end of the
text may have come to the spaces and line breaks of the frame. -/
inductive FramedReader (frame : Frame) : TokenReader → TokenReader → Prop where
  | inside {reader : TokenReader} : Solid reader.cursor.rest →
      FramedReader frame reader (frame.reader reader)
  | ended {reader : TokenReader} {cursor : Cursor} (keyAllowed : Bool) :
      reader.cursor.rest = [] → Spacing cursor.rest →
      FramedReader frame reader { frame.reader reader with cursor, keyAllowed }

/-- A step of reading comes to the same in the frame, and goes on in the text. -/
structure Follows (frame : Frame) (reader : TokenReader)
    (outside inFrame : Option TokenReader) : Prop where
  framed : Option.Rel (FramedReader frame) outside inFrame
  advances : ∀ after, outside = some after → Advances reader after

/-- Two steps between which is chosen alike. -/
theorem Follows.ite {frame : Frame} {reader : TokenReader} {choice : Bool}
    {first firstInFrame second secondInFrame : Option TokenReader}
    (yes : choice = true → Follows frame reader first firstInFrame)
    (no : choice = false → Follows frame reader second secondInFrame) :
    Follows frame reader (if choice then first else second)
      (if choice then firstInFrame else secondInFrame) := by
  cases choice with
  | true => exact yes rfl
  | false => exact no rfl

section Framed

variable {frame : Frame} (spacing : Spacing frame.tail)

include spacing

/-- A step that is the same in the frame comes to the same. -/
theorem Keeps.follows {reader : TokenReader} {step : TokenReader → Option TokenReader}
    (keeps : Keeps frame reader step) (solid : Solid reader.cursor.rest) :
    Follows frame reader (step reader) (step (frame.reader reader)) where
  advances := keeps.advances
  framed := by
    rw [keeps.same]
    cases taken : step reader with
    | none => exact .none
    | some after =>
      refine .some ?_
      by_cases ended : after.cursor.rest = []
      · have atTail : Spacing (frame.cursor after.cursor).rest := by
          rw [frame.cursor_rest, ended]
          exact spacing
        exact .ended after.keyAllowed ended atTail
      · exact .inside (solid.suffix (keeps.advances after taken).suffix ended)

omit spacing in
theorem enterLine_frame {reader : TokenReader} {cursor : Cursor} (solid : Solid cursor.rest) :
    (frame.reader reader).enterLine (frame.cursor cursor) =
      frame.reader (reader.enterLine cursor) := by
  rw [enterLine, enterLine, frame.cursor_skipLine solid, frame.inFlow_reader]
  rfl

theorem skipToToken_frame {fuel fuelInFrame : Nat} {reader : TokenReader}
    (solid : Solid reader.cursor.rest) (enough : reader.cursor.rest.length < fuel)
    (enoughInFrame : reader.cursor.rest.length < fuelInFrame) :
    FramedReader frame (reader.skipToToken fuel)
      ((frame.reader reader).skipToToken fuelInFrame) := by
  induction fuel generalizing fuelInFrame reader with
  | zero => exact absurd enough (Nat.not_lt_zero _)
  | succ fuel ih =>
    obtain ⟨further, rfl⟩ : ∃ further, fuelInFrame = further + 1 := ⟨fuelInFrame - 1, by omega⟩
    have comment : reader.afterComment.rest <:+ reader.cursor.rest :=
      reader.cursor.rest_skipComment_suffix _
    have length := comment.length_le
    have place : (frame.reader reader).afterComment =
        (frame.cursor reader.cursor).skipComment
          (isGap (reader.inFlow || !reader.keyAllowed)) := by
      rw [afterComment, frame.inFlow_reader]
      rfl
    have blanks : ∀ character, isGap (reader.inFlow || !reader.keyAllowed) character = true →
        isBlank character = true := fun _ => isBlank_of_isGap
    rw [skipToToken_succ, skipToToken_succ, place]
    have framed := skipComment_frame spacing blanks (.inside solid)
    generalize (frame.cursor reader.cursor).skipComment _ = inFrame at framed ⊢
    change FramedCursor frame reader.afterComment inFrame at framed
    cases framed with
    | inside solidAfter =>
      rw [frame.cursor_head? solidAfter.ne_nil]
      split
      next breaks =>
        obtain ⟨shorter, onward⟩ := rest_enterLine_shorter reader breaks
        rw [enterLine_frame solidAfter]
        exact ih (onward solidAfter) (by omega) (by omega)
      next => exact .inside solidAfter
    | ended finished spaced =>
      rw [if_neg (by simp [Cursor.head?, finished])]
      split
      · obtain ⟨cursor, keyAllowed, same, isSuffix⟩ :=
          skipToToken_eq further ((frame.reader reader).enterLine inFrame)
        rw [same]
        exact .ended _ finished
          (spaced.suffix (isSuffix.trans (Cursor.rest_skipLine_suffix _)))
      · exact .ended _ finished spaced

/-! ## Scalars -/

theorem keeps_quotedScalar? {reader : TokenReader} (solid : Solid reader.cursor.rest)
    (single : Bool) : Keeps frame reader (TokenReader.quotedScalar? · single) where
  same := by
    have inFrame : (frame.reader reader).cursor = frame.cursor reader.cursor := rfl
    simp only [TokenReader.quotedScalar?, frame.noteKey?_frame, inFrame,
      quotedScalar?_frame spacing solid]
    cases reader.noteKey? with
    | none => rfl
    | some noted => cases Yaml.quotedScalar? single reader.cursor <;> rfl
  advances := by
    intro after read
    obtain ⟨noted, note, further⟩ := Option.bind_eq_some_iff.mp read
    obtain ⟨scalar, scalarRead, same⟩ := Option.bind_eq_some_iff.mp further
    have isSuffix : scalar.cursor.rest <:+ (reader.cursor.skip 1).rest :=
      quotedWords?_suffix scalarRead
    have positive := List.length_pos_iff.mpr solid.ne_nil
    have skipped : (reader.cursor.skip 1).rest.length < reader.cursor.rest.length := by
      rw [Cursor.skip, List.length_drop]
      omega
    have kept := noteKey?_outerKeys note
    cases same
    exact ⟨isSuffix.trans (reader.cursor.rest_skip_suffix 1),
      Nat.lt_of_le_of_lt isSuffix.length_le skipped, fun outside => kept.trans outside⟩

theorem follows_plainScalar? {reader : TokenReader} (solid : Solid reader.cursor.rest)
    (starts : startsPlain reader.inFlow reader.cursor.rest = true)
    (noMarker : reader.cursor.atDocumentMarker = false) :
    Follows frame reader reader.plainScalar? (frame.reader reader).plainScalar? where
  framed := by
    have inFrame : (frame.reader reader).cursor = frame.cursor reader.cursor := rfl
    have indentation : (frame.reader reader).indentation = reader.indentation := rfl
    simp only [TokenReader.plainScalar?, frame.noteKey?_frame, inFrame, frame.inFlow_reader,
      indentation]
    cases reader.noteKey? with
    | none => exact .none
    | some noted =>
      have framed : Option.Rel (FramedScalar frame)
          (Yaml.plainScalar? reader.inFlow reader.indentation reader.cursor)
          (Yaml.plainScalar? reader.inFlow reader.indentation (frame.cursor reader.cursor)) :=
        plainScalar?_frame spacing solid
      have isSuffix : ∀ scalar,
          Yaml.plainScalar? reader.inFlow reader.indentation reader.cursor = some scalar →
            scalar.cursor.rest <:+ reader.cursor.rest := fun _ => plainWords?_suffix
      simp only [Option.map_some, Option.bind_eq_bind, Option.bind_some]
      generalize Yaml.plainScalar? reader.inFlow reader.indentation reader.cursor = outside
        at framed isSuffix ⊢
      generalize Yaml.plainScalar? reader.inFlow reader.indentation (frame.cursor reader.cursor) =
        inFrame at framed ⊢
      cases framed with
      | none => exact .none
      | some framed =>
        cases framed with
        | inside more => exact .some (.inside (solid.suffix (isSuffix _ rfl) more))
        | ended finished spaced same =>
          simp only [Option.bind_some, same]
          exact .some (.ended _ finished spaced)
  advances := by
    intro after read
    obtain ⟨noted, note, further⟩ := Option.bind_eq_some_iff.mp read
    obtain ⟨scalar, scalarRead, same⟩ := Option.bind_eq_some_iff.mp further
    have kept := noteKey?_outerKeys note
    cases same
    exact ⟨plainWords?_suffix scalarRead, plainScalar?_shorter starts noMarker scalarRead,
      fun outside => kept.trans outside⟩

end Framed

/-! ## Directives -/

/-- The start of the next line, where only blanks and a comment precede it. -/
def Cursor.lineEnd? (cursor : Cursor) : Option Cursor :=
  let comment := cursor.skipComment isBlank
  if atBreakOrEnd comment.rest then some comment.skipLine.1 else none

theorem Cursor.lineEnd?_suffix {cursor after : Cursor} (ended : cursor.lineEnd? = some after) :
    after.rest <:+ cursor.rest := by
  rw [lineEnd?] at ended
  split at ended
  · cases ended
    exact (rest_skipLine_suffix _).trans (cursor.rest_skipComment_suffix isBlank)
  · cases ended

theorem directive?_eq (reader : TokenReader) :
    reader.directive? = (reader.closeTo (-1)).dropKey?.bind fun cleared =>
      let afterName := reader.cursor.skip ((nameAt reader.cursor).length + 1)
      if nameAt reader.cursor = [] ∨ !atBlankOrEnd afterName.rest then none
      else
        (directiveBody? (String.ofList (nameAt reader.cursor)) afterName.rest).bind fun found =>
          (afterName.skipTo found.2).lineEnd?.map fun next =>
            { cleared.push found.1 with cursor := next, keyAllowed := false } := by
  have finish : ∀ (cleared : TokenReader) (token : Token) (cursor : Cursor),
      (cursor.lineEnd?.map fun next =>
        { cleared.push token with cursor := next, keyAllowed := false }) =
      let comment := cursor.skipComment isBlank
      if !atBreakOrEnd comment.rest then none
      else some { cleared.push token with cursor := comment.skipLine.1, keyAllowed := false } := by
    intro cleared token cursor
    dsimp only [Cursor.lineEnd?]
    cases atBreakOrEnd (cursor.skipComment isBlank).rest <;> rfl
  simp only [finish]
  rfl

section Framed

variable {frame : Frame} (spacing : Spacing frame.tail)

include spacing

theorem lineEnd?_frame {cursor inFrame : Cursor} (framed : FramedCursor frame cursor inFrame) :
    Option.Rel (FramedCursor frame) cursor.lineEnd? inFrame.lineEnd? := by
  have comment := skipComment_frame spacing (fun _ (blank : isBlank _ = true) => blank) framed
  have stops : ∀ character, (inFrame.skipComment isBlank).head? = some character →
      isBreak character = false → isBlank character = false := fun _ head notBreak =>
    Cursor.not_inClass_of_skipComment head notBreak
  rw [Cursor.lineEnd?, Cursor.lineEnd?]
  generalize cursor.skipComment isBlank = outside at comment ⊢
  generalize inFrame.skipComment isBlank = inside at comment stops ⊢
  cases comment with
  | inside solid =>
    obtain ⟨first, more, starts⟩ := List.exists_cons_of_ne_nil solid.ne_nil
    rw [frame.cursor_rest, frame.cursor_skipLine solid, starts]
    by_cases breaks : isBreak first = true
    · have onward := (Cursor.skipLine_of_isBreak starts breaks).2 solid
      simp only [List.cons_append, atBreakOrEnd, breaks, if_true]
      exact .some (.inside onward)
    · simp only [List.cons_append, atBreakOrEnd, breaks]
      exact .none
  | ended finished spaced =>
    have atEnd : atBreakOrEnd inside.rest = true := by
      cases rest : inside.rest with
      | nil => rfl
      | cons first more =>
        have spacing : isSpacing first = true := spaced first (rest ▸ List.mem_cons_self)
        have notBlank := stops first (by rw [Cursor.head?, rest]; rfl)
        simp only [isSpacing, isBlank, Bool.or_eq_true, Bool.or_eq_false_iff] at spacing notBlank
        by_cases breaks : isBreak first = true
        · exact breaks
        · have space := spacing.resolve_right breaks
          rw [(notBlank (Bool.eq_false_iff.mpr breaks)).1] at space
          cases space
    rw [if_pos (by rw [finished]; rfl), if_pos atEnd]
    refine .some (.ended ?_ (spaced.suffix (Cursor.rest_skipLine_suffix _)))
    exact List.suffix_nil.mp (finished ▸ outside.rest_skipLine_suffix)

theorem follows_directive? {reader : TokenReader} (solid : Solid reader.cursor.rest) :
    Follows frame reader reader.directive? (frame.reader reader).directive? where
  framed := by
    have name : nameAt (frame.reader reader).cursor = nameAt reader.cursor :=
      nameAt_frame spacing solid.ne_nil
    have inFrame : (frame.reader reader).cursor = frame.cursor reader.cursor := rfl
    have skipped := frame.cursor_skip (length_nameAt reader.cursor solid.ne_nil)
    have isSuffix := reader.cursor.rest_skip_suffix ((nameAt reader.cursor).length + 1)
    rw [directive?_eq, directive?_eq, frame.closeTo_frame, frame.dropKey?_frame, name, inFrame,
      skipped]
    cases (reader.closeTo (-1)).dropKey? with
    | none => exact .none
    | some cleared =>
      generalize reader.cursor.skip ((nameAt reader.cursor).length + 1) = afterName at isSuffix ⊢
      simp only [Option.map_some, Option.bind_some, frame.cursor_rest,
        atBlankOrEnd_append_spacing spacing]
      split
      · exact .none
      by_cases ended : afterName.rest = []
      · rw [ended, List.nil_append, directiveBody?_spacing _ spacing,
          directiveBody?_spacing _ (spacing_of_eq_nil rfl)]
        exact .none
      rw [directiveBody?_append spacing _ (solid.suffix isSuffix ended)]
      cases body : directiveBody? (String.ofList (nameAt reader.cursor)) afterName.rest with
      | none => exact .none
      | some found =>
        have onward : (afterName.skipTo found.2).rest <:+ reader.cursor.rest :=
          (afterName.rest_skip_suffix _).trans isSuffix
        have line := lineEnd?_frame spacing (framedCursor_of_suffix spacing solid onward)
        simp only [Option.map_some, Option.bind_some, frame.cursor_skipTo]
        generalize (afterName.skipTo found.2).lineEnd? = outside at line ⊢
        generalize (frame.cursor (afterName.skipTo found.2)).lineEnd? = inFrame at line ⊢
        cases line with
        | none => exact .none
        | some line =>
          cases line with
          | inside solidNext => exact .some (.inside solidNext)
          | ended finished spaced => exact .some (.ended _ finished spaced)
  advances := by
    intro after read
    rw [directive?_eq] at read
    obtain ⟨cleared, dropped, further⟩ := Option.bind_eq_some_iff.mp read
    have kept := (dropKey?_outerKeys dropped).trans (closeTo_outerKeys reader (-1))
    have within := length_nameAt reader.cursor solid.ne_nil
    dsimp only at further
    split at further
    · cases further
    obtain ⟨found, body, line⟩ := Option.bind_eq_some_iff.mp further
    obtain ⟨next, ended, same⟩ := Option.map_eq_some_iff.mp line
    have isSuffix : next.rest <:+
        (reader.cursor.skip ((nameAt reader.cursor).length + 1)).rest :=
      (Cursor.lineEnd?_suffix ended).trans (Cursor.rest_skip_suffix _ _)
    have shorter : (reader.cursor.skip ((nameAt reader.cursor).length + 1)).rest.length <
        reader.cursor.rest.length := by
      rw [Cursor.skip, List.length_drop]
      omega
    cases same
    exact ⟨isSuffix.trans (Cursor.rest_skip_suffix _ _),
      Nat.lt_of_le_of_lt isSuffix.length_le shorter, fun outside => kept.trans outside⟩

end Framed

/-! ## The next token -/

/-- Whether a character may begin a flow collection or a block scalar. -/
def isOpening (character : Char) : Bool :=
  character == '[' || character == '\x7b' || character == '|' || character == '>'

/-- A text in which no flow collection and no block scalar begins. -/
def Flat (characters : List Char) : Prop :=
  ∀ character ∈ characters, isOpening character = false

theorem Flat.suffix {characters rest : List Char} (flat : Flat characters)
    (isSuffix : rest <:+ characters) : Flat rest :=
  fun character member => flat character (isSuffix.subset member)

theorem length_of_atMarker {cursor : Cursor} {mark : Char} (marked : cursor.atMarker mark = true) :
    3 ≤ cursor.rest.length := by
  rw [Cursor.atMarker] at marked
  split at marked
  next starts => simp [starts]
  · cases marked

section Framed

variable {frame : Frame} (spacing : Spacing frame.tail)

include spacing

theorem startsPlain_append {inFlow : Bool} {first : Char} {more : List Char}
    (notEntry : (first == '-' && atBlankOrEnd more) = false) :
    startsPlain inFlow (first :: (more ++ frame.tail)) = startsPlain inFlow (first :: more) := by
  rw [startsPlain, startsPlain, atBlankOrEnd_append_spacing spacing]
  by_cases dash : first = '-'
  · -- A dash before a blank begins an item, so that something follows this one.
    subst dash
    cases more with
    | nil => cases notEntry
    | cons next rest => rfl
  · simp [dash]

theorem follows_token? {reader : TokenReader} (solid : Solid reader.cursor.rest)
    (flat : Flat reader.cursor.rest) :
    Follows frame reader reader.token? (frame.reader reader).token? := by
  have nonempty := solid.ne_nil
  obtain ⟨first, more, starts⟩ := List.exists_cons_of_ne_nil nonempty
  have inFrame : (frame.reader reader).cursor.rest = first :: (more ++ frame.tail) := by
    change reader.cursor.rest ++ frame.tail = _
    rw [starts]
    rfl
  have column : (frame.reader reader).cursor.column = reader.cursor.column := rfl
  have dashes : (frame.reader reader).cursor.atMarker '-' = reader.cursor.atMarker '-' :=
    frame.cursor_atMarker spacing (by decide) _
  have dots : (frame.reader reader).cursor.atMarker '.' = reader.cursor.atMarker '.' :=
    frame.cursor_atMarker spacing (by decide) _
  have noOpening : ∀ {mark : Char} {outside inFrame : Option TokenReader},
      isOpening mark = true → (first == mark) = true → Follows frame reader outside inFrame := by
    intro mark outside inFrame opening same
    obtain rfl : first = mark := beq_iff_eq.mp same
    rw [flat first (starts ▸ List.mem_cons_self)] at opening
    cases opening
  have marker : ∀ {mark : Char} {token : Token}, reader.cursor.atMarker mark = true →
      Follows frame reader (reader.documentMarker? token)
        ((frame.reader reader).documentMarker? token) := fun marked =>
    (keeps_documentMarker? frame nonempty (length_of_atMarker marked) _).follows spacing solid
  unfold token?
  simp only [starts, inFrame]
  rw [column, dashes, dots, frame.inFlow_reader, atBlankOrEnd_append_spacing spacing]
  -- The kind of the token is chosen alike, and each kind has its law.
  refine .ite (fun _ => follows_directive? spacing solid) fun _ => ?_
  refine .ite marker fun noDashes => ?_
  refine .ite marker fun noDots => ?_
  refine .ite (noOpening rfl) fun _ => ?_
  refine .ite (noOpening rfl) fun _ => ?_
  refine .ite (fun _ => (keeps_closeFlow? frame nonempty _).follows spacing solid) fun _ => ?_
  refine .ite (fun _ => (keeps_closeFlow? frame nonempty _).follows spacing solid) fun _ => ?_
  refine .ite (fun _ => (keeps_separator? frame nonempty).follows spacing solid) fun _ => ?_
  refine .ite (fun _ => (keeps_itemMark? frame nonempty).follows spacing solid) fun notEntry => ?_
  refine .ite (fun _ => (keeps_explicitKey? frame nonempty).follows spacing solid) fun _ => ?_
  refine .ite (fun _ => (keeps_value? frame nonempty).follows spacing solid) fun _ => ?_
  refine .ite (fun _ => (keeps_anchor? spacing nonempty _).follows spacing solid) fun _ => ?_
  refine .ite (fun _ => (keeps_anchor? spacing nonempty _).follows spacing solid) fun _ => ?_
  refine .ite (fun _ => (keeps_tag? spacing reader).follows spacing solid) fun _ => ?_
  refine .ite (fun block => noOpening rfl (Bool.and_eq_true_iff.mp block).1) fun _ => ?_
  refine .ite (fun block => noOpening rfl (Bool.and_eq_true_iff.mp block).1) fun _ => ?_
  refine .ite (fun _ => (keeps_quotedScalar? spacing solid true).follows spacing solid) fun _ => ?_
  refine .ite (fun _ => (keeps_quotedScalar? spacing solid false).follows spacing solid) fun _ => ?_
  rw [startsPlain_append spacing notEntry]
  refine .ite (fun begins => ?_) fun _ => ⟨.none, fun _ read => nomatch read⟩
  refine follows_plainScalar? spacing solid (starts ▸ begins) ?_
  rw [Cursor.atDocumentMarker, noDashes, noDots, Bool.or_false]

end Framed

end Acronyms.Yaml
