import Acronyms.Proofs.EndRuns
import Acronyms.TextDocument
import Mathlib.Data.List.SplitBy

/-!
# Texts joined where no word runs across

Two texts are separable when the first is empty or ends in a blank, or the second is
empty or starts with one.  Joining separable texts fuses no words: the words of the
joined text are those of the one followed by those of the other (`words_append`).  The
blanks at the seam may fuse into one piece, but they carry no word, so replacing words in
the joined text yields the two replaced texts, joined (`toText_apply_append`).

Both rest on one cut of the joined text into three, at the ends of the blank run that
lies over the seam (`exists_cut`).
-/

set_option autoImplicit false

namespace Acronyms.TextDocument

/-- The first text is empty or ends in a blank, or the second is empty or starts with
one. -/
def Separable (front back : String) : Prop :=
  (∀ last ∈ front.toList.getLast?, Text.isBlank last = true) ∨
    ∀ first ∈ back.toList.head?, Text.isBlank first = true

/-! ## Pieces -/

/-- The pieces of a list of characters. -/
def piecesOf (characters : List Char) : List Piece :=
  (characters.splitBy sameKind).map pieceOf

theorem pieces_ofText (text : String) : (ofText text).pieces = piecesOf text.toList := rfl

/-- Between characters of different kinds the pieces end. -/
theorem piecesOf_append {front back : List Char}
    (apart : ∀ last ∈ front.getLast?, ∀ first ∈ back.head?, sameKind last first = false) :
    piecesOf (front ++ back) = piecesOf front ++ piecesOf back := by
  rw [piecesOf, List.splitBy_append apart, List.map_append]
  rfl

/-- A run of blanks has blank pieces only. -/
theorem isBlank_of_mem_piecesOf {run : List Char}
    (blanks : ∀ character ∈ run, Text.isBlank character = true) {piece : Piece}
    (member : piece ∈ piecesOf run) : piece.isBlank = true := by
  obtain ⟨part, cut, rfl⟩ := List.mem_map.mp member
  cases part with
  | nil => exact absurd rfl (List.ne_nil_of_mem_splitBy cut)
  | cons character rest =>
    have inside : character ∈ (run.splitBy sameKind).flatten :=
      List.mem_flatten_of_mem cut List.mem_cons_self
    rw [List.flatten_splitBy] at inside
    exact blanks character inside

/-- The text of a list of pieces. -/
def textOf (pieces : List Piece) : String := String.join (pieces.map Piece.text)

theorem textOf_cons (piece : Piece) (rest : List Piece) :
    textOf (piece :: rest) = piece.text ++ textOf rest := by
  rw [textOf, List.map_cons, String.join_cons, textOf]

theorem textOf_append (front back : List Piece) :
    textOf (front ++ back) = textOf front ++ textOf back := by
  rw [textOf, List.map_append, String.join_append]
  rfl

/-- The pieces of some characters are these characters again. -/
theorem textOf_piecesOf (characters : List Char) :
    textOf (piecesOf characters) = String.ofList characters := by
  have joined : ∀ parts : List (List Char),
      textOf (parts.map pieceOf) = String.ofList parts.flatten := by
    intro parts
    induction parts with
    | nil => rfl
    | cons part rest ih =>
      rw [List.map_cons, List.flatten_cons, String.ofList_append, ← ih, textOf_cons]
      rfl
  rw [piecesOf, joined, List.flatten_splitBy]

/-! ## The cut over a seam -/

theorem sameKind_eq_false {left right : Char} (differ : Text.isBlank left ≠ Text.isBlank right) :
    sameKind left right = false :=
  beq_false_of_ne differ

/-- **Separable texts are cut at the two ends of the blanks over their seam**: the pieces
on either side are those of the texts, and those between them are blank. -/
theorem exists_cut {front back : String} (separable : Separable front back) :
    ∃ body run start rest,
      front.toList = body ++ run ∧ back.toList = start ++ rest ∧
      (∀ character ∈ run ++ start, Text.isBlank character = true) ∧
      piecesOf front.toList = piecesOf body ++ piecesOf run ∧
      piecesOf back.toList = piecesOf start ++ piecesOf rest ∧
      piecesOf (front.toList ++ back.toList) =
        piecesOf body ++ (piecesOf (run ++ start) ++ piecesOf rest) := by
  obtain ⟨body, run, frontCut, bodyEnd, runBlank⟩ := exists_run_end Text.isBlank front.toList
  obtain ⟨start, rest, backCut, startBlank, restStart⟩ := exists_run_start Text.isBlank back.toList
  have seamBlank : ∀ character ∈ run ++ start, Text.isBlank character = true := by
    intro character member
    rcases List.mem_append.mp member with inRun | inStart
    · exact runBlank character inRun
    · exact startBlank character inStart
  refine ⟨body, run, start, rest, frontCut, backCut, seamBlank, ?_, ?_, ?_⟩
  · rw [frontCut]
    refine piecesOf_append fun last ends first begins => sameKind_eq_false ?_
    simp [bodyEnd last ends, runBlank first (List.mem_of_mem_head? begins)]
  · rw [backCut]
    refine piecesOf_append fun last ends first begins => sameKind_eq_false ?_
    simp [startBlank last (List.mem_of_mem_getLast? ends), restStart first begins]
  · have inner : piecesOf ((run ++ start) ++ rest) = piecesOf (run ++ start) ++ piecesOf rest := by
      refine piecesOf_append fun last ends first begins => sameKind_eq_false ?_
      simp [seamBlank last (List.mem_of_mem_getLast? ends), restStart first begins]
    rw [frontCut, backCut, ← inner, ← piecesOf_append]
    · simp only [List.append_assoc]
    · intro last ends first begins
      refine sameKind_eq_false ?_
      have blank : Text.isBlank first = true := by
        cases run with
        | cons character later =>
          rw [List.cons_append, List.cons_append, List.head?_cons, Option.mem_some] at begins
          exact begins ▸ runBlank character List.mem_cons_self
        | nil =>
          -- Without blanks at its end the first text does not separate the two.
          rw [List.append_nil] at frontCut
          rcases separable with endsBlank | startsBlank
          · have blank := endsBlank last (frontCut ▸ ends)
            rw [bodyEnd last ends] at blank
            cases blank
          · exact startsBlank first (backCut ▸ begins)
      simp [bodyEnd last ends, blank]

/-! ## Words -/

/-- The number of words among some pieces. -/
def wordCount (pieces : List Piece) : Nat := pieces.countP fun piece => !piece.isBlank

theorem wordCount_pieces (document : TextDocument) :
    wordCount document.pieces = document.words.length := by
  rw [words, List.length_map, wordCount, List.countP_eq_length_filter]

theorem wordCount_append (front back : List Piece) :
    wordCount (front ++ back) = wordCount front + wordCount back :=
  List.countP_append

theorem wordCount_of_blank {pieces : List Piece}
    (blank : ∀ piece ∈ pieces, piece.isBlank = true) : wordCount pieces = 0 := by
  refine List.countP_eq_zero.mpr fun piece member => ?_
  simp [blank piece member]

/-- **The words of separable texts, joined, are the words of both.** -/
theorem words_append {front back : String} (separable : Separable front back) :
    (ofText (front ++ back)).words = (ofText front).words ++ (ofText back).words := by
  obtain ⟨body, run, start, rest, _, _, seamBlank, frontPieces, backPieces, pieces⟩ :=
    exists_cut separable
  have silent : ∀ blanks : List Char, (∀ character ∈ blanks, Text.isBlank character = true) →
      (piecesOf blanks).filter (fun piece => !piece.isBlank) = [] := by
    intro blanks blank
    refine List.filter_eq_nil_iff.mpr fun piece member => ?_
    simp [isBlank_of_mem_piecesOf blank member]
  have runSilent := silent run fun character member =>
    seamBlank character (List.mem_append_left _ member)
  have startSilent := silent start fun character member =>
    seamBlank character (List.mem_append_right _ member)
  unfold words
  rw [pieces_ofText, pieces_ofText, pieces_ofText, String.toList_append, pieces, frontPieces,
    backPieces]
  simp only [List.filter_append, silent _ seamBlank, runSilent, startSilent, List.append_nil,
    List.nil_append, List.map_append]

/-! ## Replaced words -/

theorem replaceWords_append (replacements : Replacements) (position : Nat)
    (front back : List Piece) :
    replaceWords replacements position (front ++ back) =
      replaceWords replacements position front ++
        replaceWords replacements (position + wordCount front) back := by
  induction front generalizing position with
  | nil => rfl
  | cons piece rest ih =>
    by_cases blank : piece.isBlank = true
    · simp [replaceWords, blank, ih, wordCount]
    · simp [replaceWords, blank, ih, wordCount, Nat.add_assoc, Nat.add_comm]

/-- Blank pieces are left alone. -/
theorem replaceWords_of_blank (replacements : Replacements) (position : Nat)
    {pieces : List Piece} (blank : ∀ piece ∈ pieces, piece.isBlank = true) :
    replaceWords replacements position pieces = pieces := by
  induction pieces with
  | nil => rfl
  | cons piece rest ih =>
    rw [replaceWords, if_pos (blank piece List.mem_cons_self),
      ih fun later member => blank later (List.mem_cons_of_mem _ member)]

/-- What words become depends only on the replacements of their positions. -/
theorem replaceWords_congr {replacements other : Replacements} {position place : Nat}
    {pieces : List Piece}
    (agree : ∀ index < wordCount pieces,
      replacements.get? (position + index) = other.get? (place + index)) :
    replaceWords replacements position pieces = replaceWords other place pieces := by
  induction pieces generalizing position place with
  | nil => rfl
  | cons piece rest ih =>
    by_cases blank : piece.isBlank = true
    · have count : wordCount (piece :: rest) = wordCount rest := by simp [wordCount, blank]
      rw [count] at agree
      simp [replaceWords, blank, ih agree]
    · have count : wordCount (piece :: rest) = wordCount rest + 1 := by simp [wordCount, blank]
      rw [count] at agree
      have first := agree 0 (Nat.succ_pos _)
      have later : replaceWords replacements (position + 1) rest =
          replaceWords other (place + 1) rest := by
        refine ih fun index bound => ?_
        rw [Nat.add_right_comm position, Nat.add_right_comm place]
        exact agree (index + 1) (Nat.succ_lt_succ bound)
      simp only [Nat.add_zero] at first
      simp [replaceWords, blank, first, later]

theorem toText_apply (replacements : Replacements) (text : String) :
    toText (Document.apply replacements (ofText text)) =
      textOf (replaceWords replacements 0 (piecesOf text.toList)) := rfl

/-- **Replacing words in separable texts, joined, joins the replaced texts.**  The words
of the second text stand behind those of the first. -/
theorem toText_apply_append {front back : String} (separable : Separable front back)
    {whole first second : Replacements}
    (inFront : ∀ position < (ofText front).words.length,
      whole.get? position = first.get? position)
    (inBack : ∀ position,
      whole.get? ((ofText front).words.length + position) = second.get? position) :
    toText (Document.apply whole (ofText (front ++ back))) =
      toText (Document.apply first (ofText front)) ++
        toText (Document.apply second (ofText back)) := by
  obtain ⟨body, run, start, rest, _, _, seamBlank, frontPieces, backPieces, pieces⟩ :=
    exists_cut separable
  have runBlank : ∀ piece ∈ piecesOf run, piece.isBlank = true := fun piece =>
    isBlank_of_mem_piecesOf fun character member =>
      seamBlank character (List.mem_append_left _ member)
  have startBlank : ∀ piece ∈ piecesOf start, piece.isBlank = true := fun piece =>
    isBlank_of_mem_piecesOf fun character member =>
      seamBlank character (List.mem_append_right _ member)
  have middleBlank : ∀ piece ∈ piecesOf (run ++ start), piece.isBlank = true := fun piece =>
    isBlank_of_mem_piecesOf seamBlank
  have bodyCount : wordCount (piecesOf body) = (ofText front).words.length := by
    rw [← wordCount_pieces, pieces_ofText, frontPieces, wordCount_append,
      wordCount_of_blank runBlank, Nat.add_zero]
  have bodySame : replaceWords whole 0 (piecesOf body) = replaceWords first 0 (piecesOf body) := by
    refine replaceWords_congr fun index bound => ?_
    rw [Nat.zero_add]
    exact inFront index (bodyCount ▸ bound)
  have restSame : replaceWords whole (wordCount (piecesOf body)) (piecesOf rest) =
      replaceWords second 0 (piecesOf rest) := by
    refine replaceWords_congr fun index _ => ?_
    rw [Nat.zero_add, bodyCount]
    exact inBack index
  have frontText : toText (Document.apply first (ofText front)) =
      textOf (replaceWords first 0 (piecesOf body)) ++ String.ofList run := by
    rw [toText_apply, frontPieces, replaceWords_append, replaceWords_of_blank _ _ runBlank,
      textOf_append, textOf_piecesOf]
  have backText : toText (Document.apply second (ofText back)) =
      String.ofList start ++ textOf (replaceWords second 0 (piecesOf rest)) := by
    rw [toText_apply, backPieces, replaceWords_append, replaceWords_of_blank _ _ startBlank,
      wordCount_of_blank startBlank, textOf_append, textOf_piecesOf]
  calc toText (Document.apply whole (ofText (front ++ back)))
      = textOf (replaceWords whole 0 (piecesOf body)) ++ (String.ofList (run ++ start) ++
          textOf (replaceWords whole (wordCount (piecesOf body)) (piecesOf rest))) := by
        rw [toText_apply, String.toList_append, pieces, replaceWords_append, replaceWords_append,
          replaceWords_of_blank _ _ middleBlank, wordCount_of_blank middleBlank, textOf_append,
          textOf_append, textOf_piecesOf, Nat.zero_add, Nat.add_zero]
    _ = toText (Document.apply first (ofText front)) ++
          toText (Document.apply second (ofText back)) := by
        rw [bodySame, restSame, frontText, backText, String.ofList_append]
        simp only [String.append_assoc]

end Acronyms.TextDocument
