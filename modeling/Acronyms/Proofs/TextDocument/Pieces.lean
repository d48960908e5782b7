import Acronyms.Proofs.TextDocument.Concatenation
import Acronyms.TextDocument.InPlace

/-!
# The pieces of a text

The pieces of a text are runs, and blank pieces and words alternate (`Alternating`).  There is
only one way to cut a text like that (`piecesOf_charactersOf`), so a pass that keeps its pieces
alternating and adds one character after the other to them ends with the pieces of the text
(`scan_eq`).
-/

set_option autoImplicit false

namespace Acronyms

/-- A piece is a run: it is not empty, and all its characters are of its kind. -/
structure Piece.IsRun (piece : Piece) : Prop where
  nonempty : piece.text ≠ ""
  uniform : ∀ character ∈ piece.text.toList, Text.isBlank character = piece.isBlank

theorem Piece.IsRun.toList_ne_nil {piece : Piece} (run : piece.IsRun) : piece.text.toList ≠ [] :=
  fun empty => run.nonempty (String.toList_inj.mp empty)

namespace TextDocument

/-- Pieces are runs, of which no two neighbours are of the same kind. -/
structure Alternating (pieces : List Piece) : Prop where
  runs : ∀ piece ∈ pieces, piece.IsRun
  alternate : pieces.IsChain fun left right => left.isBlank ≠ right.isBlank

/-- The characters of some pieces. -/
def charactersOf (pieces : List Piece) : List Char := pieces.flatMap fun piece => piece.text.toList

theorem toList_textOf (pieces : List Piece) : (textOf pieces).toList = charactersOf pieces := by
  induction pieces with
  | nil => rfl
  | cons piece rest ih =>
    rw [textOf_cons, String.toList_append, ih]
    rfl

/-! ## Alternating pieces joined -/

theorem alternating_append_iff {front back : List Piece} :
    Alternating (front ++ back) ↔ Alternating front ∧ Alternating back ∧
      ∀ last ∈ front.getLast?, ∀ first ∈ back.head?, last.isBlank ≠ first.isBlank := by
  constructor
  · rintro ⟨runs, alternate⟩
    obtain ⟨frontRuns, backRuns⟩ := List.forall_mem_append.mp runs
    obtain ⟨inFront, inBack, apart⟩ := List.isChain_append.mp alternate
    exact ⟨⟨frontRuns, inFront⟩, ⟨backRuns, inBack⟩, apart⟩
  · rintro ⟨⟨frontRuns, inFront⟩, ⟨backRuns, inBack⟩, apart⟩
    exact ⟨List.forall_mem_append.mpr ⟨frontRuns, backRuns⟩,
      List.isChain_append.mpr ⟨inFront, inBack, apart⟩⟩

theorem alternating_singleton_iff {piece : Piece} : Alternating [piece] ↔ piece.IsRun :=
  ⟨fun alternating => alternating.runs piece (List.mem_singleton_self piece),
    fun run => ⟨by simpa using run, List.isChain_singleton _⟩⟩

theorem alternating_cons_iff {piece : Piece} {rest : List Piece} :
    Alternating (piece :: rest) ↔
      piece.IsRun ∧ Alternating rest ∧ ∀ next ∈ rest.head?, piece.isBlank ≠ next.isBlank := by
  rw [← List.singleton_append, alternating_append_iff, alternating_singleton_iff]
  simp

theorem alternating_concat_iff {pieces : List Piece} {piece : Piece} :
    Alternating (pieces ++ [piece]) ↔
      Alternating pieces ∧ piece.IsRun ∧
        ∀ last ∈ pieces.getLast?, last.isBlank ≠ piece.isBlank := by
  rw [alternating_append_iff, alternating_singleton_iff]
  simp

/-! ## One way to cut a text -/

/-- A run is cut into itself. -/
theorem piecesOf_run {piece : Piece} (run : piece.IsRun) :
    piecesOf piece.text.toList = [piece] := by
  have chain : piece.text.toList.IsChain fun left right => sameKind left right = true := by
    refine (List.pairwise_of_forall_mem_list ?_).isChain
    intro left leftMember right rightMember
    simp [sameKind, run.uniform left leftMember, run.uniform right rightMember]
  rw [piecesOf, List.splitBy_of_isChain run.toList_ne_nil chain, List.map_singleton]
  obtain ⟨first, rest, characters⟩ := List.exists_cons_of_ne_nil run.toList_ne_nil
  have kind : Text.isBlank first = piece.isBlank :=
    run.uniform first (characters ▸ List.mem_cons_self)
  have same : pieceOf piece.text.toList = piece := by
    rw [pieceOf, String.ofList_toList, characters, List.head?_cons, Option.any_some, kind]
  rw [same]

/-- The first character of alternating pieces is of the kind of the first piece. -/
theorem Alternating.isBlank_head? {piece : Piece} {rest : List Piece}
    (alternating : Alternating (piece :: rest)) {first : Char}
    (starts : first ∈ (charactersOf (piece :: rest)).head?) :
    Text.isBlank first = piece.isBlank := by
  have run := alternating.runs piece List.mem_cons_self
  rw [charactersOf, List.flatMap_cons, List.head?_append_of_ne_nil _ run.toList_ne_nil] at starts
  exact run.uniform first (List.mem_of_mem_head? starts)

/-- **Alternating pieces are the pieces of their text.** -/
theorem piecesOf_charactersOf {pieces : List Piece} (alternating : Alternating pieces) :
    piecesOf (charactersOf pieces) = pieces := by
  induction pieces with
  | nil => rfl
  | cons piece rest ih =>
    obtain ⟨run, later, apart⟩ := alternating_cons_iff.mp alternating
    rw [charactersOf, List.flatMap_cons]
    rw [piecesOf_append, piecesOf_run run]
    · rw [← charactersOf, ih later]
      rfl
    · intro last ends first starts
      refine sameKind_eq_false ?_
      rw [run.uniform last (List.mem_of_mem_getLast? ends)]
      cases rest with
      | nil => cases starts
      | cons second later =>
        rw [later.isBlank_head? starts]
        exact apart second rfl

/-! ## One character more -/

theorem charactersOf_pushChar (pieces : List Piece) (character : Char) :
    charactersOf (pushChar pieces character) = charactersOf pieces ++ [character] := by
  unfold pushChar
  cases last : pieces.getLast? with
  | none =>
    rw [List.getLast?_eq_none_iff.mp last]
    simp [charactersOf]
  | some piece =>
    obtain ⟨front, rfl⟩ := List.getLast?_eq_some_iff.mp last
    by_cases same : piece.isBlank = Text.isBlank character
    · simp [same, charactersOf]
    · simp [same, charactersOf]

/-- **A character more keeps pieces alternating.** -/
theorem alternating_pushChar {pieces : List Piece} (alternating : Alternating pieces)
    (character : Char) : Alternating (pushChar pieces character) := by
  have single : Piece.IsRun ⟨String.singleton character, Text.isBlank character⟩ :=
    ⟨by simp, by simp⟩
  unfold pushChar
  cases last : pieces.getLast? with
  | none => exact alternating_singleton_iff.mpr single
  | some piece =>
    obtain ⟨front, rfl⟩ := List.getLast?_eq_some_iff.mp last
    obtain ⟨earlier, run, apart⟩ := alternating_concat_iff.mp alternating
    by_cases same : piece.isBlank = Text.isBlank character
    · have longer : Piece.IsRun { piece with text := piece.text.push character } := by
        refine ⟨by simp, fun other member => ?_⟩
        rw [String.toList_push] at member
        rcases List.mem_append.mp member with inside | here
        · exact run.uniform other inside
        · rw [List.mem_singleton.mp here, same]
      simp only [same, if_true, List.dropLast_concat]
      exact alternating_concat_iff.mpr ⟨earlier, same ▸ longer, same ▸ apart⟩
    · simp only [same, if_false]
      refine alternating_concat_iff.mpr ⟨alternating, single, fun other ends => ?_⟩
      rw [List.getLast?_concat, Option.mem_some] at ends
      rw [← ends]
      exact same

/-- **Pieces to which characters are added one by one stay alternating and hold them all.** -/
theorem foldl_pushChar {pieces : List Piece} (alternating : Alternating pieces)
    (characters : List Char) :
    Alternating (characters.foldl pushChar pieces) ∧
      charactersOf (characters.foldl pushChar pieces) = charactersOf pieces ++ characters := by
  induction characters generalizing pieces with
  | nil => exact ⟨alternating, (List.append_nil _).symm⟩
  | cons character rest ih =>
    obtain ⟨kept, held⟩ := ih (alternating_pushChar alternating character)
    refine ⟨kept, ?_⟩
    rw [List.foldl_cons, held, charactersOf_pushChar, List.append_assoc, List.singleton_append]

/-- **A text that is scanned is cut into its pieces.** -/
theorem scan_eq (text : String) : scan text = ofText text := by
  obtain ⟨alternating, held⟩ := foldl_pushChar ⟨by simp, List.isChain_nil⟩ text.toList
  have pieces := piecesOf_charactersOf alternating
  rw [held] at pieces
  exact congrArg TextDocument.mk pieces.symm

/-- **The pieces of a text alternate.** -/
theorem alternating_pieces_ofText (text : String) : Alternating (ofText text).pieces := by
  rw [← scan_eq]
  exact (foldl_pushChar ⟨by simp, List.isChain_nil⟩ text.toList).1

end TextDocument

end Acronyms
