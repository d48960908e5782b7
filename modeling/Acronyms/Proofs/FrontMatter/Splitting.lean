import Acronyms.FrontMatter.Offsets
import Mathlib.Data.List.DropRight

/-!
# Front matter is cut at the first complete block

A text has front matter when it is an opening line, ended lines of which none is a
delimiter, a delimiter line, and a body (`Block`).  A delimiter line is `---` or `...`
followed by carriage returns and line feeds only; the last line of a text need not end in a
line feed.

Splitting finds exactly the blocks.  What it takes for front matter is a block, so nothing of
the text is lost; and a block put together from parts is split into these parts again, even
if its body contains delimiter lines.  Without a block the whole text is the body.

Both rest on the lines of a text: cutting a text into lines is undone by joining them
(`flatten_linesOf`), and ended lines, joined, are cut into these lines (`linesOf_flatten_append`).
Splitting at byte offsets gives the same result, since every line begins where the bytes of
the lines before it end (`splitAtOffsets_eq`).
-/

set_option autoImplicit false

namespace Acronyms.FrontMatter

/-! ## Lines -/

/-- A line that a line feed ends, and that holds no other one. -/
def EndedLine (line : List Char) : Prop := ∃ content, '\n' ∉ content ∧ line = content ++ ['\n']

/-- A line that stands before the given rest of a text: it is ended, or it is the last one. -/
def LineBefore (line rest : List Char) : Prop :=
  EndedLine line ∨ line ≠ [] ∧ '\n' ∉ line ∧ rest = []

/-- The lines of a text are the text again. -/
theorem flatten_linesOf (characters : List Char) : (linesOf characters).flatten = characters := by
  induction characters with
  | nil => rfl
  | cons character rest ih =>
    rw [linesOf]
    split
    next feed => rw [List.flatten_cons, ih, feed, List.singleton_append]
    next =>
      split
      next none =>
        rw [none] at ih
        simp [← ih]
      next line lines found =>
        rw [found] at ih
        simpa using ih

/-- A character that is no line feed begins the line of the characters behind it. -/
theorem linesOf_cons_of_eq_cons {character : Char} (inside : character ≠ '\n')
    {rest line : List Char} {lines : List (List Char)} (next : linesOf rest = line :: lines) :
    linesOf (character :: rest) = (character :: line) :: lines := by
  rw [linesOf, if_neg inside, next]

/-- **A line is cut off the text that it stands before.** -/
theorem linesOf_line_append {line rest : List Char} (stands : LineBefore line rest) :
    linesOf (line ++ rest) = line :: linesOf rest := by
  rcases stands with ⟨content, free, rfl⟩ | ⟨nonempty, free, rfl⟩
  · induction content with
    | nil => simp [linesOf]
    | cons character content ih =>
      rw [List.mem_cons, not_or] at free
      exact linesOf_cons_of_eq_cons (Ne.symm free.1) (ih free.2)
  · rw [List.append_nil]
    induction line with
    | nil => exact absurd rfl nonempty
    | cons character line ih =>
      rw [List.mem_cons, not_or] at free
      cases line with
      | nil => simp [linesOf, Ne.symm free.1]
      | cons second later =>
        exact linesOf_cons_of_eq_cons (Ne.symm free.1) (ih (List.cons_ne_nil _ _) free.2)

/-- **Ended lines, joined, are cut into these lines.** -/
theorem linesOf_flatten_append {lines : List (List Char)}
    (ended : ∀ line ∈ lines, EndedLine line) (rest : List Char) :
    linesOf (lines.flatten ++ rest) = lines ++ linesOf rest := by
  induction lines with
  | nil => rfl
  | cons line lines ih =>
    obtain ⟨first, later⟩ := List.forall_mem_cons.mp ended
    rw [List.flatten_cons, List.append_assoc, linesOf_line_append (.inl first), ih later,
      List.cons_append]

/-- The first line of a text stands before the others. -/
theorem lineBefore_of_linesOf_eq_cons {text line : List Char} {lines : List (List Char)}
    (cut : linesOf text = line :: lines) : LineBefore line lines.flatten := by
  induction text generalizing line lines with
  | nil => cases cut
  | cons character rest ih =>
    rw [linesOf] at cut
    split at cut
    next feed =>
      cases cut
      exact .inl ⟨[], List.not_mem_nil, rfl⟩
    next inside =>
      split at cut
      next none =>
        cases cut
        exact .inr ⟨List.cons_ne_nil _ _, by simpa using Ne.symm inside, rfl⟩
      next first later found =>
        cases cut
        rcases ih found with ⟨content, free, rfl⟩ | ⟨_, free, last⟩
        · refine .inl ⟨character :: content, ?_, rfl⟩
          simpa [free] using Ne.symm inside
        · refine .inr ⟨List.cons_ne_nil _ _, ?_, last⟩
          simpa [free] using Ne.symm inside

/-- The lines behind the first are the lines of the rest. -/
theorem linesOf_flatten_of_eq_cons {text line : List Char} {lines : List (List Char)}
    (cut : linesOf text = line :: lines) : linesOf lines.flatten = lines := by
  have stands := lineBefore_of_linesOf_eq_cons cut
  have whole : text = line ++ lines.flatten := by
    rw [← flatten_linesOf text, cut, List.flatten_cons]
  rw [whole, linesOf_line_append stands] at cut
  exact (List.cons.inj cut).2

/-- **Of the lines of a text all but the last are ended.** -/
theorem lines_of_linesOf_eq {text line : List Char} {before after : List (List Char)}
    (cut : linesOf text = before ++ line :: after) :
    (∀ earlier ∈ before, EndedLine earlier) ∧ LineBefore line after.flatten := by
  induction before generalizing text with
  | nil => exact ⟨fun _ member => absurd member List.not_mem_nil, lineBefore_of_linesOf_eq_cons cut⟩
  | cons first before ih =>
    obtain ⟨ended, stands⟩ := ih (linesOf_flatten_of_eq_cons cut)
    refine ⟨fun earlier member => ?_, stands⟩
    rcases List.mem_cons.mp member with rfl | later
    · rcases lineBefore_of_linesOf_eq_cons cut with feed | ⟨_, _, nothing⟩
      · exact feed
      · -- The line at hand is not empty, so a line before it is not the last one.
        rcases stands with ⟨content, _, rfl⟩ | ⟨nonempty, _, _⟩
        · simp at nothing
        · simp [nonempty] at nothing
    · exact ended earlier later

/-! ## Delimiter lines -/

/-- A line is `---` or `...`, once the carriage returns and line feeds at its end are removed. -/
def IsDelimiter (line : List Char) : Prop :=
  ∃ mark ending, (mark = ['-', '-', '-'] ∨ mark = ['.', '.', '.']) ∧
    (∀ character ∈ ending, character = '\r' ∨ character = '\n') ∧ line = mark ++ ending

theorem trimLineEnd_append {mark ending : List Char}
    (visible : ∀ last ∈ mark.getLast?, last ≠ '\r' ∧ last ≠ '\n')
    (invisible : ∀ character ∈ ending, character = '\r' ∨ character = '\n') :
    trimLineEnd (mark ++ ending) = mark := by
  have dropped : ∀ character ∈ ending.reverse,
      (character == '\n' || character == '\r') = true := by
    intro character member
    simpa [or_comm] using invisible character (List.mem_reverse.mp member)
  rw [trimLineEnd, List.reverse_append, List.dropWhile_append_of_pos dropped]
  cases last : mark.getLast? with
  | none => simp [List.getLast?_eq_none_iff.mp last]
  | some character =>
    obtain ⟨front, rfl⟩ := List.getLast?_eq_some_iff.mp last
    obtain ⟨notReturn, notFeed⟩ := visible character last
    simp [notReturn, notFeed]

/-- **The lines at which front matter is closed are the delimiter lines.** -/
theorem isClosing_iff {line : List Char} : isClosing line = true ↔ IsDelimiter line := by
  rw [isClosing, Bool.or_eq_true, beq_iff_eq, beq_iff_eq]
  constructor
  · intro trimmed
    refine ⟨trimLineEnd line,
      line.rtakeWhile fun character => character == '\n' || character == '\r',
      trimmed, ?_, List.rdropWhile_append_rtakeWhile.symm⟩
    intro character member
    simpa [or_comm] using List.mem_rtakeWhile_imp member
  · rintro ⟨mark, ending, isMark, invisible, rfl⟩
    rw [trimLineEnd_append ?_ invisible]
    · exact isMark
    · rcases isMark with rfl | rfl <;> simp

theorem IsDelimiter.ne_nil {line : List Char} (delimiter : IsDelimiter line) : line ≠ [] := by
  obtain ⟨mark, ending, isMark, _, rfl⟩ := delimiter
  rcases isMark with rfl | rfl <;> simp

/-- Lines are cut at the first delimiter among them. -/
theorem splitAtClosing?_append {before after : List (List Char)} {closing : List Char}
    (delimiter : IsDelimiter closing) (first : ∀ line ∈ before, ¬ IsDelimiter line) :
    splitAtClosing? (before ++ closing :: after) = some (before, after) := by
  induction before with
  | nil => rw [List.nil_append, splitAtClosing?, if_pos (isClosing_iff.mpr delimiter)]
  | cons line before ih =>
    obtain ⟨passed, later⟩ := List.forall_mem_cons.mp first
    rw [List.cons_append, splitAtClosing?, if_neg (isClosing_iff.not.mpr passed), ih later]
    rfl

theorem exists_of_splitAtClosing?_eq_some {lines before after : List (List Char)}
    (cut : splitAtClosing? lines = some (before, after)) :
    ∃ closing, lines = before ++ closing :: after ∧ IsDelimiter closing ∧
      ∀ line ∈ before, ¬ IsDelimiter line := by
  induction lines generalizing before with
  | nil => cases cut
  | cons line rest ih =>
    rw [splitAtClosing?] at cut
    split at cut
    next closes =>
      cases cut
      exact ⟨line, rfl, isClosing_iff.mp closes, fun _ member => absurd member List.not_mem_nil⟩
    next passed =>
      obtain ⟨⟨front, back⟩, found, same⟩ := Option.map_eq_some_iff.mp cut
      cases same
      obtain ⟨closing, rfl, delimiter, first⟩ := ih found
      refine ⟨closing, rfl, delimiter, fun other member => ?_⟩
      rcases List.mem_cons.mp member with rfl | later
      · exact fun closes => passed (isClosing_iff.mpr closes)
      · exact first other later

theorem splitAtClosing?_eq_none_iff {lines : List (List Char)} :
    splitAtClosing? lines = none ↔ ∀ line ∈ lines, ¬ IsDelimiter line := by
  simp only [← isClosing_iff]
  induction lines with
  | nil => simp [splitAtClosing?]
  | cons line rest ih =>
    by_cases closes : isClosing line = true
    · simp [splitAtClosing?, closes]
    · simp [splitAtClosing?, closes, ih]

/-! ## Blocks -/

/-- A text is an opening line, ended lines of which none is a delimiter, a delimiter line that
is ended or ends the text, and a body. -/
structure Block (text opening yaml closing body : String) : Prop where
  text_eq : text = opening ++ yaml ++ closing ++ body
  opening_line : opening = "---\n" ∨ opening = "---\r\n"
  yaml_lines : ∃ lines : List (List Char), yaml.toList = lines.flatten ∧
    ∀ line ∈ lines, EndedLine line ∧ ¬ IsDelimiter line
  closing_delimiter : IsDelimiter closing.toList
  closing_line : EndedLine closing.toList ∨ '\n' ∉ closing.toList ∧ body = ""

/-- Among the lines of a text there is a delimiter. -/
def HasDelimiter (text : String) : Prop :=
  ∃ (before : List (List Char)) (line rest : List Char),
    text.toList = before.flatten ++ line ++ rest ∧ (∀ earlier ∈ before, EndedLine earlier) ∧
      IsDelimiter line ∧ (EndedLine line ∨ '\n' ∉ line ∧ rest = [])

theorem afterOpening?_eq_some_iff {text rest : List Char} :
    afterOpening? text = some rest ↔
      text = ['-', '-', '-', '\n'] ++ rest ∨ text = ['-', '-', '-', '\r', '\n'] ++ rest := by
  constructor
  · intro opens
    unfold afterOpening? at opens
    split at opens
    next => cases opens; exact .inl rfl
    next => cases opens; exact .inr rfl
    next => cases opens
  · rintro (rfl | rfl) <;> rfl

/-- What stands behind the opening is what stands behind an opening line of the text. -/
theorem afterOpening?_toList_eq_some_iff {text rest : String} :
    afterOpening? text.toList = some rest.toList ↔
      ∃ opening, (opening = "---\n" ∨ opening = "---\r\n") ∧ text = opening ++ rest := by
  simp only [afterOpening?_eq_some_iff, exists_eq_or_imp, exists_eq_left]
  rw [← String.toList_inj, ← String.toList_inj, String.toList_append, String.toList_append]
  exact Iff.rfl

theorem hasDelimiter_iff {text : String} :
    HasDelimiter text ↔ ∃ line ∈ linesOf text.toList, IsDelimiter line := by
  constructor
  · rintro ⟨before, line, rest, whole, ended, delimiter, lasts⟩
    refine ⟨line, ?_, delimiter⟩
    have stands : LineBefore line rest :=
      lasts.imp_right fun last => ⟨delimiter.ne_nil, last⟩
    rw [whole, List.append_assoc, linesOf_flatten_append ended, linesOf_line_append stands]
    simp
  · rintro ⟨line, member, delimiter⟩
    obtain ⟨before, after, cut⟩ := List.append_of_mem member
    obtain ⟨ended, stands⟩ := lines_of_linesOf_eq cut
    refine ⟨before, line, after.flatten, ?_, ended, delimiter, stands.imp_right And.right⟩
    rw [← flatten_linesOf text.toList, cut]
    simp

/-! ## Splitting -/

/-- **A block is split into the parts that it is put together from.** -/
theorem Block.split_eq {text opening yaml closing body : String}
    (block : Block text opening yaml closing body) : split text = ⟨some yaml, body⟩ := by
  obtain ⟨whole, opens, ⟨lines, joined, inner⟩, delimiter, lasts⟩ := block
  have rest : afterOpening? text.toList = some (yaml ++ closing ++ body).toList :=
    afterOpening?_toList_eq_some_iff.mpr
      ⟨opening, opens, by rw [whole, String.append_assoc, String.append_assoc, String.append_assoc]⟩
  have stands : LineBefore closing.toList body.toList := by
    refine lasts.imp_right fun ⟨free, last⟩ => ⟨delimiter.ne_nil, free, ?_⟩
    rw [last]
    rfl
  have cut : linesOf (yaml ++ closing ++ body).toList =
      lines ++ closing.toList :: linesOf body.toList := by
    rw [String.toList_append, String.toList_append, joined, List.append_assoc,
      linesOf_flatten_append fun line member => (inner line member).1, linesOf_line_append stands]
  have found : splitAtClosing? (linesOf (yaml ++ closing ++ body).toList) =
      some (lines, linesOf body.toList) := by
    rw [cut, splitAtClosing?_append delimiter fun line member => (inner line member).2]
  simp only [split, rest, Option.bind_some, found, ← joined, flatten_linesOf, String.ofList_toList]

/-- **What is taken for front matter is a block**; nothing of the text is lost. -/
theorem exists_block_of_split_eq {text yaml body : String}
    (cut : split text = ⟨some yaml, body⟩) :
    ∃ opening closing, Block text opening yaml closing body := by
  unfold split at cut
  split at cut
  next before after found =>
    cases cut
    obtain ⟨rest, opens, lines⟩ := Option.bind_eq_some_iff.mp found
    rw [← String.toList_ofList (l := rest)] at opens
    obtain ⟨opening, isOpening, whole⟩ := afterOpening?_toList_eq_some_iff.mp opens
    obtain ⟨closing, cut, delimiter, first⟩ := exists_of_splitAtClosing?_eq_some lines
    obtain ⟨ended, stands⟩ := lines_of_linesOf_eq cut
    have joined : rest = before.flatten ++ (closing ++ after.flatten) := by
      rw [← flatten_linesOf rest, cut, List.flatten_append, List.flatten_cons]
    refine ⟨opening, String.ofList closing, ?_, isOpening, ⟨before, ?_, ?_⟩, ?_, ?_⟩
    · simp only [whole, joined, String.ofList_append, String.append_assoc]
    · rw [String.toList_ofList]
    · exact fun line member => ⟨ended line member, first line member⟩
    · rwa [String.toList_ofList]
    · rw [String.toList_ofList]
      refine stands.imp_right fun ⟨_, free, last⟩ => ⟨free, ?_⟩
      rw [last]
  next => cases cut

/-- **A text has no front matter exactly when it has no opening line, or no delimiter behind
it**; it is then its own body. -/
theorem split_eq_none_iff {text body : String} :
    split text = ⟨none, body⟩ ↔
      body = text ∧ ∀ opening rest, (opening = "---\n" ∨ opening = "---\r\n") →
        text = opening ++ rest → ¬ HasDelimiter rest := by
  have uncut :
      (afterOpening? text.toList).bind (fun rest => splitAtClosing? (linesOf rest)) = none ↔
      ∀ opening rest, (opening = "---\n" ∨ opening = "---\r\n") →
        text = opening ++ rest → ¬ HasDelimiter rest := by
    simp only [Option.bind_eq_none_iff, splitAtClosing?_eq_none_iff, hasDelimiter_iff, not_exists,
      not_and]
    constructor
    · intro free opening rest isOpening whole
      exact free _ (afterOpening?_toList_eq_some_iff.mpr ⟨opening, isOpening, whole⟩)
    · intro free rest opens
      rw [← String.toList_ofList (l := rest)] at opens ⊢
      obtain ⟨opening, isOpening, whole⟩ := afterOpening?_toList_eq_some_iff.mp opens
      exact free opening _ isOpening whole
  rw [← uncut, split]
  split
  next before after found => simp [found]
  next none => simp [none, eq_comm]

/-! ## Byte offsets -/

theorem byteCount_append (front back : List Char) :
    byteCount (front ++ back) = byteCount front + byteCount back := by
  induction front with
  | nil => simp [byteCount]
  | cons character front ih => simp only [List.cons_append, byteCount, ih, Nat.add_assoc]

/-- **Where the bytes of the characters before it end is a place to cut.** -/
theorem cutAt?_byteCount (front back : List Char) :
    cutAt? (byteCount front) (front ++ back) = some (front, back) := by
  induction front with
  | nil => simp [byteCount, cutAt?]
  | cons character front ih =>
    have positive := character.utf8Size_pos
    obtain ⟨offset, more⟩ : ∃ offset, character.utf8Size + byteCount front = offset + 1 :=
      ⟨character.utf8Size + byteCount front - 1, by omega⟩
    have rest : offset + 1 - character.utf8Size = byteCount front := by omega
    rw [byteCount, more, List.cons_append, cutAt?, if_neg (by omega), rest, ih]
    rfl

theorem closingSpan?_eq_none {lines : List (List Char)} (free : ∀ line ∈ lines, ¬ IsDelimiter line)
    (offset : Nat) : closingSpan? offset lines = none := by
  induction lines generalizing offset with
  | nil => rfl
  | cons line rest ih =>
    obtain ⟨passed, later⟩ := List.forall_mem_cons.mp free
    rw [closingSpan?, if_neg (isClosing_iff.not.mpr passed), ih later]

/-- The closing line begins where the bytes of the lines before it end. -/
theorem closingSpan?_append {before after : List (List Char)} {closing : List Char}
    (delimiter : IsDelimiter closing) (first : ∀ line ∈ before, ¬ IsDelimiter line)
    (offset : Nat) :
    closingSpan? offset (before ++ closing :: after) =
      some (offset + byteCount before.flatten,
        offset + byteCount (before.flatten ++ closing)) := by
  induction before generalizing offset with
  | nil =>
    rw [List.nil_append, closingSpan?, if_pos (isClosing_iff.mpr delimiter)]
    rfl
  | cons line before ih =>
    obtain ⟨passed, later⟩ := List.forall_mem_cons.mp first
    rw [List.cons_append, closingSpan?, if_neg (isClosing_iff.not.mpr passed), ih later,
      List.flatten_cons]
    simp only [byteCount_append, Nat.add_assoc]

/-- **Splitting at byte offsets never cuts inside a character, and gives the same result.** -/
theorem splitAtOffsets_eq (text : String) : splitAtOffsets text = some (split text) := by
  unfold splitAtOffsets split
  cases afterOpening? text.toList with
  | none => rfl
  | some rest =>
    rw [Option.bind_some]
    cases cut : splitAtClosing? (linesOf rest) with
    | none =>
      simp only [closingSpan?_eq_none (splitAtClosing?_eq_none_iff.mp cut)]
    | some parts =>
      obtain ⟨before, after⟩ := parts
      obtain ⟨closing, lines, delimiter, first⟩ := exists_of_splitAtClosing?_eq_some cut
      have span : closingSpan? 0 (before ++ closing :: after) = _ :=
        closingSpan?_append delimiter first 0
      have joined : rest = before.flatten ++ closing ++ after.flatten := by
        rw [← flatten_linesOf rest, lines]
        simp
      have start : cutAt? (0 + byteCount before.flatten) rest =
          some (before.flatten, closing ++ after.flatten) := by
        rw [joined, Nat.zero_add, List.append_assoc, cutAt?_byteCount]
      have stop : cutAt? (0 + byteCount (before.flatten ++ closing)) rest =
          some (before.flatten ++ closing, after.flatten) := by
        rw [joined, Nat.zero_add, cutAt?_byteCount]
      simp only [lines, span, start, stop]

/-- **Front matter is cut losslessly at the first complete block.**  A text is split into
front matter and a body exactly when it is a block with these parts: an opening line, ended
lines of which none is a delimiter, a delimiter line, and the body.  A text is its own body
exactly when it has no opening line, or no delimiter among the lines behind it.  One of the
two is the case for every text, and cutting it at byte offsets comes to the same. -/
theorem split_cuts_at_block (text : String) :
    (∀ yaml body, split text = ⟨some yaml, body⟩ ↔
      ∃ opening closing, Block text opening yaml closing body) ∧
    (∀ body, split text = ⟨none, body⟩ ↔
      body = text ∧ ∀ opening rest, (opening = "---\n" ∨ opening = "---\r\n") →
        text = opening ++ rest → ¬ HasDelimiter rest) ∧
    splitAtOffsets text = some (split text) := by
  refine ⟨fun yaml body => ⟨exists_block_of_split_eq, ?_⟩, fun body => split_eq_none_iff,
    splitAtOffsets_eq text⟩
  rintro ⟨opening, closing, block⟩
  exact block.split_eq

/-! The body of a block may hold delimiter lines; the last one may lack its line feed. -/

example : split "---\r\ntitle: é\n...\r\nbody\n---\n" = ⟨some "title: é\n", "body\n---\n"⟩ := by
  decide +kernel

end Acronyms.FrontMatter
