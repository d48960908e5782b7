import Acronyms.Proofs.Yaml.FramedReading
import Acronyms.Yaml.Document
import Mathlib.Data.List.TakeWhile

/-!
# Documents in a frame

**Blank lines before a text and spaces and line breaks behind it add no tokens**
(`tokensOf?_surrounded`), if no flow collection and no block scalar begins in the text.  At the
end of a text the blocks end, wherever that is (`finish?`); a flow collection or a block scalar
that is still open there could tell the two ends apart.
-/

set_option autoImplicit false

namespace Acronyms.Yaml

open TokenReader

/-! ## The end of a text -/

theorem closeBlocks_cursor (column : Int) (outer : List Int) (reader : TokenReader) :
    (closeBlocks column outer reader).cursor = reader.cursor ∧
      (closeBlocks column outer reader).possibleKey = reader.possibleKey := by
  induction outer generalizing reader with
  | nil => exact ⟨rfl, rfl⟩
  | cons indentation rest ih =>
    rw [closeBlocks]
    split
    · exact ih _
    · exact ⟨rfl, rfl⟩

/-- The tokens of the blocks that end depend on the blocks alone. -/
theorem closeBlocks_tokens {reader other : TokenReader} (column : Int) (outer : List Int)
    (tokens : other.tokens = reader.tokens) (indentation : other.indentation = reader.indentation) :
    (closeBlocks column outer other).tokens = (closeBlocks column outer reader).tokens := by
  induction outer generalizing reader other with
  | nil => exact tokens
  | cons outside rest ih =>
    rw [closeBlocks, closeBlocks, indentation]
    split
    · refine ih ?_ rfl
      simp [push, tokens]
    · exact tokens

/-- Closing some blocks first makes no difference. -/
theorem closeBlocks_closeBlocks {below column : Int} (isBelow : below ≤ column)
    (reader : TokenReader) :
    closeBlocks below (closeBlocks column reader.outerIndentations reader).outerIndentations
        (closeBlocks column reader.outerIndentations reader) =
      closeBlocks below reader.outerIndentations reader := by
  obtain ⟨outer, same⟩ : ∃ outer, reader.outerIndentations = outer := ⟨_, rfl⟩
  rw [same]
  induction outer generalizing reader with
  | nil => rw [closeBlocks, same]
  | cons outside rest ih =>
    rw [closeBlocks, closeBlocks]
    by_cases ends : column < reader.indentation
    · rw [if_pos ends, if_pos (Int.lt_of_le_of_lt isBelow ends)]
      exact ih _ rfl
    · rw [if_neg ends, same, closeBlocks]

/-- The tokens at the end of the text, where all blocks end; a key that is still required is
an error. -/
def finish? (reader : TokenReader) : Option (List Token) :=
  if reader.possibleKey.any PossibleKey.required then none
  else some (closeBlocks (-1) reader.outerIndentations reader).tokens.toList

/-- Read all tokens from the start of a token on. -/
def tokensFrom? (fuel : Nat) (atToken : TokenReader) : Option (List Token) :=
  atToken.dropStaleKeys?.bind fun fresh =>
    let ready := fresh.closeTo fresh.cursor.column
    if ready.cursor.rest.isEmpty then
      (ready.closeTo (-1)).dropKey?.bind fun closed => some closed.tokens.toList
    else ready.token?.bind (tokens? fuel)

theorem tokens?_succ (fuel : Nat) (reader : TokenReader) :
    tokens? (fuel + 1) reader =
      tokensFrom? fuel (reader.skipToToken (reader.cursor.rest.length + 1)) := rfl

theorem dropStaleKeys?_outside {reader : TokenReader} (outside : reader.outerKeys = []) :
    reader.dropStaleKeys? = (freshKey? reader.cursor reader.possibleKey).map fun key =>
      { reader with possibleKey := key } := by
  rw [dropStaleKeys?, outside]
  cases freshKey? reader.cursor reader.possibleKey with
  | none => rfl
  | some key => simp

theorem closeTo_outside {reader : TokenReader} (outside : reader.outerKeys = []) (column : Int) :
    reader.closeTo column = closeBlocks column reader.outerIndentations reader := by
  simp [closeTo, inFlow, outside]

theorem finish?_congr {reader other : TokenReader} (tokens : other.tokens = reader.tokens)
    (indentation : other.indentation = reader.indentation)
    (outer : other.outerIndentations = reader.outerIndentations)
    (required : other.possibleKey.any PossibleKey.required =
      reader.possibleKey.any PossibleKey.required) : finish? other = finish? reader := by
  rw [finish?, finish?, required, outer, closeBlocks_tokens (-1) _ tokens indentation]

theorem tokensFrom?_atEnd (fuel : Nat) {reader : TokenReader} (ended : reader.cursor.rest = [])
    (outside : reader.outerKeys = []) : tokensFrom? fuel reader = finish? reader := by
  have closing : ∀ fresh : TokenReader, fresh.cursor.rest = [] → fresh.outerKeys = [] →
      (if (fresh.closeTo fresh.cursor.column).cursor.rest.isEmpty then
          ((fresh.closeTo fresh.cursor.column).closeTo (-1)).dropKey?.bind fun closed =>
            some closed.tokens.toList
        else (fresh.closeTo fresh.cursor.column).token?.bind (tokens? fuel)) = finish? fresh := by
    intro fresh ended outside
    have kept := closeBlocks_cursor fresh.cursor.column fresh.outerIndentations fresh
    have stays := closeBlocks_outerKeys fresh.cursor.column fresh.outerIndentations fresh
    rw [closeTo_outside outside, kept.1, ended, closeTo_outside (stays.trans outside),
      closeBlocks_closeBlocks (by omega), dropKey?, (closeBlocks_cursor _ _ _).2, finish?]
    simp only [List.isEmpty_nil, if_true]
    split <;> rfl
  rw [tokensFrom?, dropStaleKeys?_outside outside]
  cases possible : reader.possibleKey with
  | none =>
    exact (closing { reader with possibleKey := none } ended outside).trans
      (finish?_congr rfl rfl rfl (by rw [possible]))
  | some key =>
    rw [freshKey?]
    split
    · split
      next required => simp [finish?, possible, required]
      next optional =>
        refine (closing { reader with possibleKey := none } ended outside).trans
          (finish?_congr rfl rfl rfl ?_)
        simp [possible, optional]
    · exact (closing { reader with possibleKey := some key } ended outside).trans
        (finish?_congr rfl rfl rfl (by rw [possible]))

theorem rest_eq_nil_of_stops {cursor : Cursor} (spacing : Spacing cursor.rest)
    (stops : cursor.head?.any isSpacing = false) : cursor.rest = [] := by
  cases rest : cursor.rest with
  | nil => rfl
  | cons character more =>
    have head : cursor.head? = some character := by rw [Cursor.head?, rest]; rfl
    rw [head, Option.any_some, spacing character (rest ▸ List.mem_cons_self)] at stops
    cases stops

/-- Spaces and line breaks hold no tokens. -/
theorem tokens?_spacing (fuel : Nat) {reader : TokenReader} (spacing : Spacing reader.cursor.rest)
    (outside : reader.outerKeys = []) : tokens? (fuel + 1) reader = finish? reader := by
  obtain ⟨cursor, keyAllowed, same, isSuffix⟩ :=
    skipToToken_eq (reader.cursor.rest.length + 1) reader
  have stops := head?_skipToToken (Nat.lt_succ_self reader.cursor.rest.length)
  rw [same] at stops
  rw [tokens?_succ, same, tokensFrom?_atEnd fuel
    (rest_eq_nil_of_stops (spacing.suffix isSuffix) stops) outside]
  exact finish?_congr rfl rfl rfl rfl

theorem finish?_frame (frame : Frame) (reader : TokenReader) (cursor : Cursor)
    (keyAllowed : Bool) :
    finish? { frame.reader reader with cursor, keyAllowed } = finish? reader := by
  refine finish?_congr rfl rfl rfl ?_
  cases key : reader.possibleKey <;> simp [Frame.reader, key, Frame.key]

theorem outerKeys_frame (frame : Frame) {reader : TokenReader} (outside : reader.outerKeys = []) :
    (frame.reader reader).outerKeys = [] := by
  simp [Frame.reader, outside]

/-! ## All tokens -/

theorem dropStaleKeys?_keeps {reader fresh : TokenReader} (outside : reader.outerKeys = [])
    (dropped : reader.dropStaleKeys? = some fresh) :
    fresh.cursor = reader.cursor ∧ fresh.outerKeys = [] := by
  rw [dropStaleKeys?_outside outside] at dropped
  obtain ⟨key, _, same⟩ := Option.map_eq_some_iff.mp dropped
  cases same
  exact ⟨rfl, outside⟩

section Framed

variable {frame : Frame} (spacing : Spacing frame.tail)

include spacing

/-- From the start of a token on reading is the same, if it is from behind the token on. -/
theorem tokensFrom?_frame {fuel fuelInFrame : Nat} {atToken : TokenReader}
    (solid : Solid atToken.cursor.rest) (flat : Flat atToken.cursor.rest)
    (outside : atToken.outerKeys = [])
    (below : ∀ after, Advances atToken after → Solid after.cursor.rest →
      tokens? (fuelInFrame + 1) (frame.reader after) = tokens? (fuel + 1) after) :
    tokensFrom? (fuelInFrame + 1) (frame.reader atToken) = tokensFrom? (fuel + 1) atToken := by
  rw [tokensFrom?, tokensFrom?, frame.dropStaleKeys?_frame]
  cases dropped : atToken.dropStaleKeys? with
  | none => rfl
  | some fresh =>
    obtain ⟨samePlace, stillOutside⟩ := dropStaleKeys?_keeps outside dropped
    have column : (frame.reader fresh).cursor.column = fresh.cursor.column := rfl
    simp only [Option.map_some, Option.bind_some, column, frame.closeTo_frame]
    have place : (fresh.closeTo fresh.cursor.column).cursor = atToken.cursor := by
      rw [closeTo_outside stillOutside, (closeBlocks_cursor _ _ _).1, samePlace]
    have readyOutside : (fresh.closeTo fresh.cursor.column).outerKeys = [] :=
      (closeTo_outerKeys fresh _).trans stillOutside
    generalize fresh.closeTo fresh.cursor.column = ready at place readyOutside ⊢
    rw [← place] at solid flat
    have more : (frame.reader ready).cursor.rest ≠ [] :=
      List.append_ne_nil_of_left_ne_nil solid.ne_nil _
    rw [if_neg (by simpa using more), if_neg (by simpa using solid.ne_nil)]
    obtain ⟨framed, advances⟩ := follows_token? spacing solid flat
    generalize ready.token? = outsideNext at framed advances ⊢
    generalize (frame.reader ready).token? = inFrameNext at framed ⊢
    cases framed with
    | none => rfl
    | some framed =>
      have onward := advances _ rfl
      cases framed with
      | inside solidAfter =>
        refine below _ ⟨?_, ?_, fun _ => onward.outside readyOutside⟩ solidAfter
        · exact place ▸ onward.suffix
        · exact place ▸ onward.shorter
      | ended _ finished spaced =>
        have stillOutside := onward.outside readyOutside
        have atEnd := tokens?_spacing fuel (spacing_of_eq_nil finished) stillOutside
        refine Eq.trans (tokens?_spacing fuelInFrame ?_ ?_) ((finish?_frame ..).trans atEnd.symm)
        · exact spaced
        · exact outerKeys_frame frame stillOutside

/-- **The tokens of a text are the same in a frame.** -/
theorem tokens?_frame {fuel fuelInFrame : Nat} {reader : TokenReader}
    (solid : Solid reader.cursor.rest) (flat : Flat reader.cursor.rest)
    (outside : reader.outerKeys = []) (enough : reader.cursor.rest.length < fuel)
    (enoughInFrame : reader.cursor.rest.length < fuelInFrame) :
    tokens? fuelInFrame (frame.reader reader) = tokens? fuel reader := by
  induction fuel generalizing fuelInFrame reader with
  | zero => exact absurd enough (Nat.not_lt_zero _)
  | succ fuel ih =>
    obtain ⟨further, rfl⟩ : ∃ further, fuelInFrame = further + 1 := ⟨fuelInFrame - 1, by omega⟩
    have longer : reader.cursor.rest.length < (frame.reader reader).cursor.rest.length + 1 := by
      change _ < (reader.cursor.rest ++ frame.tail).length + 1
      rw [List.length_append]
      omega
    have framed := skipToToken_frame spacing solid (Nat.lt_succ_self _) longer
    have stops := head?_skipToToken (Nat.lt_succ_self (frame.reader reader).cursor.rest.length)
    obtain ⟨cursor, keyAllowed, same, isSuffix⟩ :=
      skipToToken_eq (reader.cursor.rest.length + 1) reader
    rw [tokens?_succ, tokens?_succ]
    rw [same] at framed ⊢
    generalize (frame.reader reader).skipToToken _ = inFrame at framed stops ⊢
    cases framed with
    | ended _ finished spaced =>
      rw [tokensFrom?_atEnd fuel finished outside,
        tokensFrom?_atEnd further (rest_eq_nil_of_stops spaced stops)
          (outerKeys_frame frame outside), finish?_frame]
    | inside solidAt =>
      have shorter := isSuffix.length_le
      have positive : 0 < cursor.rest.length := List.length_pos_iff.mpr solidAt.ne_nil
      obtain ⟨last, rfl⟩ : ∃ last, fuel = last + 1 := ⟨fuel - 1, by omega⟩
      obtain ⟨lastInFrame, rfl⟩ : ∃ last, further = last + 1 := ⟨further - 1, by omega⟩
      refine tokensFrom?_frame spacing solidAt (flat.suffix isSuffix) outside ?_
      intro after onward solidAfter
      have nearer : after.cursor.rest.length < cursor.rest.length := onward.shorter
      exact ih solidAfter (flat.suffix (onward.suffix.trans isSuffix)) (onward.outside outside)
        (by omega) (by omega)

end Framed

/-! ## Lines before the text -/

/-- Lines of spaces, each of them with its line break. -/
structure BlankLines (characters : List Char) : Prop where
  spacing : Spacing characters
  closed : ∀ last, characters.getLast? = some last → isBreak last = true

theorem BlankLines.suffix {characters rest : List Char} (blank : BlankLines characters)
    (isSuffix : rest <:+ characters) : BlankLines rest where
  spacing := blank.spacing.suffix isSuffix
  closed := by
    intro last ends
    obtain ⟨front, rfl⟩ := isSuffix
    refine blank.closed last ?_
    rw [List.getLast?_append, ends]
    rfl

theorem isBreak_of_isGap {tabs : Bool} {character : Char} (gap : isGap tabs character = true) :
    isBreak character = false := by
  have blank := isBlank_of_isGap gap
  simp only [isBlank, Bool.or_eq_true, beq_iff_eq] at blank
  rcases blank with rfl | rfl <;> rfl

/-- The spaces of the first line end before its line break. -/
theorem BlankLines.dropWhile {characters : List Char} (blank : BlankLines characters)
    (nonempty : characters ≠ []) (tabs : Bool) :
    ∃ first more, characters.dropWhile (isGap tabs) = first :: more ∧ isBreak first = true := by
  have last := blank.closed _ (List.getLast?_eq_some_getLast nonempty)
  have notGap : isGap tabs (characters.getLast nonempty) = false :=
    Bool.eq_false_iff.mpr fun gap => by
      rw [isBreak_of_isGap gap] at last
      cases last
  cases dropped : characters.dropWhile (isGap tabs) with
  | nil =>
    rw [List.dropWhile_eq_nil_iff.mp dropped _ (List.getLast_mem nonempty)] at notGap
    cases notGap
  | cons first more =>
    have notGap := List.head?_dropWhile_not (isGap tabs) characters
    rw [dropped] at notGap
    have spacing : isSpacing first = true :=
      blank.spacing first ((List.dropWhile_suffix _).subset (dropped ▸ List.mem_cons_self))
    simp only [List.head?_cons, isGap, Bool.or_eq_false_iff] at notGap
    rw [isSpacing, notGap.1, Bool.false_or] at spacing
    exact ⟨first, more, rfl, spacing⟩

/-- A line break at the end of blank lines is not continued by a visible character. -/
theorem lineBreak?_of_visible {first : Char} (more : List Char) {rest : List Char}
    (breaks : isBreak first = true)
    (visible : ∀ next, rest.head? = some next → isBreak next = false) :
    ∃ count kept, lineBreak? (first :: more ++ rest) = some (count, kept) ∧
      0 < count ∧ count ≤ (first :: more).length := by
  rw [List.cons_append, lineBreak?]
  by_cases pair : first = '\r' ∧ (more ++ rest).head? = some '\n'
  · rw [if_pos pair]
    refine ⟨2, _, rfl, Nat.zero_lt_two, ?_⟩
    cases more with
    | nil => cases visible '\n' pair.2
    | cons next more => simp
  · rw [if_neg pair, if_pos breaks]
    split
    · exact ⟨1, _, rfl, Nat.one_pos, by simp⟩
    · exact ⟨1, _, rfl, Nat.one_pos, by simp⟩

/-- The first blank line is left behind with its line break. -/
theorem enterLine_blankLines {lead rest : List Char} (blank : BlankLines lead)
    (visible : ∀ next, rest.head? = some next → isBreak next = false) (nonempty : lead ≠ [])
    {reader : TokenReader} {index line : Nat}
    (starts : reader.cursor = ⟨lead ++ rest, index, line, 0⟩) :
    ∃ remaining, remaining <:+ lead ∧ remaining.length < lead.length ∧
      reader.afterComment.head?.any isBreak = true ∧
      reader.afterComment.skipLine.1 =
        ⟨remaining ++ rest, index + (lead.length - remaining.length), line + 1, 0⟩ := by
  obtain ⟨first, more, dropped, breaks⟩ :=
    blank.dropWhile nonempty (reader.inFlow || !reader.keyAllowed)
  have isSuffix : first :: more <:+ lead := dropped ▸ List.dropWhile_suffix _
  have spaces : (reader.cursor.rest.dropWhile (isGap (reader.inFlow || !reader.keyAllowed))) =
      first :: more ++ rest := by
    rw [starts, List.dropWhile_append, dropped]
    rfl
  have parts := congrArg List.length (List.takeWhile_append_dropWhile
    (p := isGap (reader.inFlow || !reader.keyAllowed)) (l := reader.cursor.rest))
  have place : reader.afterComment =
      reader.cursor.skipWhile (isGap (reader.inFlow || !reader.keyAllowed)) := by
    rw [afterComment, Cursor.skipComment, Cursor.head?, Cursor.rest_skipWhile, spaces]
    refine if_neg ?_
    rintro comment
    obtain rfl : first = '#' := by simpa using comment
    cases breaks
  have after : reader.afterComment.rest = first :: more ++ rest := by
    rw [place, Cursor.rest_skipWhile, spaces]
  obtain ⟨count, kept, found, positive, within⟩ := lineBreak?_of_visible more breaks visible
  refine ⟨(first :: more).drop count, (List.drop_suffix _ _).trans isSuffix, ?_, ?_, ?_⟩
  · have length := isSuffix.length_le
    rw [List.length_drop]
    omega
  · rw [Cursor.head?, after]
    exact breaks
  · have remaining : (first :: more ++ rest).drop count = (first :: more).drop count ++ rest :=
      List.drop_append_of_le_length within
    have length := isSuffix.length_le
    have index : reader.afterComment.index =
        index + (reader.cursor.rest.takeWhile
          (isGap (reader.inFlow || !reader.keyAllowed))).length := by
      rw [place, starts]
      rfl
    have line : reader.afterComment.line = line := by
      rw [place, starts]
      rfl
    rw [skipLine_eq, after, found]
    dsimp only [Cursor.nextLine]
    rw [after, remaining, index, line]
    simp only [Cursor.mk.injEq, true_and, and_true, List.length_drop]
    have total : reader.cursor.rest.length = lead.length + rest.length := by
      rw [starts]
      exact List.length_append
    rw [spaces, List.length_append, List.length_append, total] at parts
    omega

theorem skipToToken_blankLines {lead rest : List Char} (blank : BlankLines lead)
    (visible : ∀ next, rest.head? = some next → isBreak next = false) {reader : TokenReader}
    (allowed : reader.keyAllowed = true) {index line : Nat}
    (starts : reader.cursor = ⟨lead ++ rest, index, line, 0⟩) :
    ∃ lines, reader.skipToToken ((lead ++ rest).length + 1) =
      (reader.moveTo ⟨rest, index + lead.length, line + lines, 0⟩).skipToToken
        (rest.length + 1) := by
  induction size : lead.length using Nat.strongRecOn generalizing lead reader index line with
  | ind size ih =>
    subst size
    by_cases empty : lead = []
    · subst empty
      have still : reader.moveTo ⟨rest, index, line, 0⟩ = reader :=
        congrArg reader.moveTo starts.symm
      exact ⟨0, congrArg (skipToToken (rest.length + 1)) still.symm⟩
    · obtain ⟨remaining, isSuffix, shorter, breaks, next⟩ :=
        enterLine_blankLines blank visible empty starts
      have allowedNext : (reader.enterLine reader.afterComment).keyAllowed = true := by
        rw [enterLine, allowed, Bool.true_or]
      obtain ⟨lines, same⟩ :=
        ih remaining.length shorter (blank.suffix isSuffix) allowedNext next rfl
      have fewer : (reader.enterLine reader.afterComment).cursor.rest.length <
          (lead ++ rest).length := by
        rw [show (reader.enterLine reader.afterComment).cursor = _ from next]
        simp only [List.length_append]
        omega
      have enough : (reader.enterLine reader.afterComment).cursor.rest.length <
          (remaining ++ rest).length + 1 := by
        rw [show (reader.enterLine reader.afterComment).cursor = _ from next]
        exact Nat.lt_succ_self _
      refine ⟨1 + lines, ?_⟩
      have moved : ∀ cursor, (reader.enterLine reader.afterComment).moveTo cursor =
          reader.moveTo cursor := by
        intro cursor
        rw [moveTo, moveTo, allowedNext, allowed]
        rfl
      have characters : index + (lead.length - remaining.length) + remaining.length =
          index + lead.length := by omega
      rw [skipToToken_succ, if_pos breaks, skipToToken_fuel enough fewer, same, moved, characters,
        Nat.add_assoc line]

/-! ## Whole texts -/

theorem Spacing.all_isPrintable {characters : List Char} (spacing : Spacing characters) :
    characters.all isPrintable = true :=
  List.all_eq_true.mpr fun character member => of_isSpacing (by decide) (spacing character member)

theorem dropByteOrderMark_of_head? {characters : List Char}
    (visible : characters.head? ≠ some '\ufeff') : dropByteOrderMark characters = characters := by
  unfold dropByteOrderMark
  split
  · exact absurd rfl visible
  · rfl

/-- A text behind blank lines and before spaces and line breaks. -/
structure Surrounded (lead body tail : List Char) : Prop where
  before : BlankLines lead
  behind : Spacing tail
  /-- The text begins and ends in a visible character. -/
  begins : ∃ first, body.head? = some first ∧ isBreak first = false ∧ first ≠ '\ufeff'
  solid : Solid body

/-- **The tokens of a text are those of the text that blank lines surround.** -/
theorem tokensOf?_surrounded {lead body tail : List Char} (surrounded : Surrounded lead body tail)
    (flat : Flat body) :
    tokensOf? (String.ofList (lead ++ (body ++ tail))) = tokensOf? (String.ofList body) := by
  obtain ⟨first, head, notBreak, notMark⟩ := surrounded.begins
  have mark : (lead ++ (body ++ tail)).head? ≠ some '\ufeff' := by
    cases lead with
    | nil =>
      rw [List.nil_append, List.head?_append, head]
      exact fun same => notMark (Option.some.inj same)
    | cons space more =>
      rintro same
      obtain rfl : space = '\ufeff' := Option.some.inj same
      cases surrounded.before.spacing.head
  have markBody : body.head? ≠ some '\ufeff' := by
    rw [head]
    exact fun same => notMark (Option.some.inj same)
  have printable : (lead ++ (body ++ tail)).all isPrintable = body.all isPrintable := by
    rw [List.all_append, List.all_append, surrounded.before.spacing.all_isPrintable,
      surrounded.behind.all_isPrintable, Bool.true_and, Bool.and_true]
  have visible : ∀ next, (body ++ tail).head? = some next → isBreak next = false := by
    intro next same
    rw [List.head?_append, head] at same
    exact Option.some.inj same ▸ notBreak
  simp only [tokensOf?, String.toList_ofList, dropByteOrderMark_of_head? mark,
    dropByteOrderMark_of_head? markBody, printable]
  split
  · let whole : TokenReader := { cursor := { rest := lead ++ (body ++ tail) } }
    have atStart : whole.cursor = ⟨lead ++ (body ++ tail), 0, 0, 0⟩ := rfl
    obtain ⟨lines, skipped⟩ := skipToToken_blankLines surrounded.before visible rfl atStart
    let frame : Frame := ⟨lead.length, lines, tail⟩
    let inside : TokenReader := { cursor := { rest := body } }
    have sameStart : whole.moveTo ⟨body ++ tail, 0 + lead.length, 0 + lines, 0⟩ =
        frame.reader inside := rfl
    have behind : Spacing frame.tail := surrounded.behind
    have shorter : inside.cursor.rest.length < (lead ++ (body ++ tail)).length + 1 := by
      simp only [List.length_append, inside]
      omega
    calc tokens? ((lead ++ (body ++ tail)).length + 1) whole
        = tokens? ((lead ++ (body ++ tail)).length + 1) (frame.reader inside) := by
          rw [tokens?_succ, skipped, sameStart]
          rfl
      _ = tokens? (body.length + 1) inside :=
          tokens?_frame behind surrounded.solid flat rfl (Nat.lt_succ_self _) shorter
  · rfl

theorem pairsOfText?_surrounded {lead body tail : List Char}
    (surrounded : Surrounded lead body tail) (flat : Flat body) :
    pairsOfText? (String.ofList (lead ++ (body ++ tail))) = pairsOfText? (String.ofList body) := by
  rw [pairsOfText?, pairsOfText?, nodeOfText?, nodeOfText?, tokensOf?_surrounded surrounded flat]

end Acronyms.Yaml
