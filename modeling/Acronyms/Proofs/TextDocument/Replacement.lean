import Acronyms.Proofs.Glossary.Assignment
import Acronyms.Proofs.TextDocument.Concatenation
import Acronyms.TextDocument.InPlace

/-!
# Words put in the place of words

Replacing the words of a document gives every word the content that is planned for its
position, or leaves it (`words_apply`).  Since a replaced word stays one piece, whatever its
content, the positions are the same afterwards.  So a second plan finds the words where the
first one found them, and **two plans one after the other are their union, in which the second
wins** (`apply_apply`).

A pass that takes each replacement out of the plan when its number comes up does the same,
since no number comes up twice (`rewrite_eq`).
-/

set_option autoImplicit false

namespace Acronyms

/-- What planned replacements make of the word at a position. -/
def Replacements.contentOf (replacements : Replacements) (position : Nat) (word : String) :
    String :=
  ((replacements.get? position).map Inline.content).getD word

/-- A content that is replaced again is the later one. -/
theorem Replacements.contentOf_union (first second : Replacements) (position : Nat)
    (word : String) :
    Replacements.contentOf (first.union second) position word =
      second.contentOf position (first.contentOf position word) := by
  unfold contentOf
  rw [SortedMap.get?_union]
  cases second.get? position with
  | none => rfl
  | some inline => rfl

namespace TextDocument

/-! ## The words -/

theorem replaceWords_word (replacements : Replacements) (position : Nat) {piece : Piece}
    (visible : ¬ piece.isBlank = true) (rest : List Piece) :
    replaceWords replacements position (piece :: rest) =
      { piece with text := replacements.contentOf position piece.text } ::
        replaceWords replacements (position + 1) rest := by
  rw [replaceWords, if_neg visible]
  rfl

theorem words_replaceWords (replacements : Replacements) (position : Nat)
    (pieces : List Piece) :
    (TextDocument.mk (replaceWords replacements position pieces)).words =
      (TextDocument.mk pieces).words.mapIdx fun index word =>
        replacements.contentOf (position + index) word := by
  induction pieces generalizing position with
  | nil => rfl
  | cons piece rest ih =>
    have later := ih (position + 1)
    have same := ih position
    unfold words at later same ⊢
    by_cases blank : piece.isBlank = true
    · simpa [replaceWords, blank] using same
    · simp only [Nat.add_assoc, Nat.add_comm 1] at later
      simp [replaceWords_word, blank, later]

/-- **The words of a text become the contents of their replacements.** -/
theorem words_apply (replacements : Replacements) (document : TextDocument) :
    (Document.apply replacements document).words =
      document.words.mapIdx replacements.contentOf := by
  refine (words_replaceWords replacements 0 document.pieces).trans ?_
  simp only [Nat.zero_add]

theorem numberedWords_eq (document : TextDocument) :
    numberedWords document = document.words.mapIdx Prod.mk := by
  refine List.ext_getElem? fun position => ?_
  simp only [numberedWords, words, List.getElem?_mapIdx, List.getElem?_map, Option.map_map]
  rfl

/-! ## Two plans -/

theorem replaceWords_replaceWords (first second : Replacements) (position : Nat)
    (pieces : List Piece) :
    replaceWords second position (replaceWords first position pieces) =
      replaceWords (first.union second) position pieces := by
  induction pieces generalizing position with
  | nil => rfl
  | cons piece rest ih =>
    by_cases blank : piece.isBlank = true
    · simp [replaceWords, blank, ih]
    · rw [replaceWords_word first position blank,
        replaceWords_word second position (by exact blank), replaceWords_word _ position blank, ih,
        Replacements.contentOf_union]

/-- **Two plans one after the other are their union**, in which the second one wins. -/
theorem apply_apply (first second : Replacements) (document : TextDocument) :
    Document.apply second (Document.apply first document) =
      Document.apply (first.union second) document :=
  congrArg TextDocument.mk (replaceWords_replaceWords first second 0 document.pieces)

/-! ## Rewriting in place -/

/-- Taking replacements out of a plan replaces the words that the plan has. -/
theorem takeWords_eq (plan : Replacements) (number : Nat) (pieces : List Piece) :
    takeWords plan number pieces = replaceWords plan number pieces := by
  induction pieces generalizing plan number with
  | nil => rfl
  | cons piece rest ih =>
    -- What is taken out is not asked for again.
    have later : replaceWords (plan.erase number) (number + 1) rest =
        replaceWords plan (number + 1) rest :=
      replaceWords_congr fun index _ => SortedMap.get?_erase_of_ne _ (by omega)
    obtain ⟨text, isBlank⟩ := piece
    by_cases blank : isBlank = true
    · simp [takeWords, replaceWords, blank, ih]
    · cases found : plan.get? number with
      | none => simp [takeWords, replaceWords, Replacements.take, blank, ih, found, later]
      | some inline => simp [takeWords, replaceWords, Replacements.take, blank, ih, found, later]

theorem replaceWords_of_get?_eq_none {plan : Replacements}
    (nothing : ∀ number, plan.get? number = none) (number : Nat) (pieces : List Piece) :
    replaceWords plan number pieces = pieces := by
  induction pieces generalizing number with
  | nil => rfl
  | cons piece rest ih => simp [replaceWords, nothing, ih]

/-- **Rewriting a document in place applies the plan to it.** -/
theorem rewrite_eq (plan : Replacements) (document : TextDocument) :
    rewrite plan document = Document.apply plan document := by
  unfold rewrite
  split
  next empty =>
    have nothing : ∀ number, plan.get? number = none := by
      intro number
      rw [SortedMap.get?, List.isEmpty_iff.mp empty, List.lookup_nil]
    exact congrArg TextDocument.mk (replaceWords_of_get?_eq_none nothing 0 document.pieces).symm
  next => exact congrArg TextDocument.mk (takeWords_eq plan 0 document.pieces)

end TextDocument

end Acronyms
