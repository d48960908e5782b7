import Acronyms.Proofs.TextDocument.Pieces
import Acronyms.Proofs.TextDocument.Replacement

/-!
# The layout of a text

A text is laid out as blanks, a word, blanks, a word, and so on.  A layout is sound when its
words are not empty and hold no blank, everything around them is blank, and between two words
there is at least one blank.  The words of a sound layout are the maximal runs of visible
characters of its text, since what stands on either side of a word is blank or an end of the
text.

Every text has exactly one sound layout (`eq_layoutOf_iff`): its pieces alternate, and
alternating pieces can be read as a layout in one way.  The words of a document are the words of
the layout, and replacing them replaces the words of the layout and leaves the blanks
(`layoutOf_replaceWords`).  The main statement is `ofText_has_layout`.
-/

set_option autoImplicit false

namespace Acronyms.TextDocument

/-- A word and the blanks behind it. -/
structure SpacedWord where
  word : String
  gap : String
  deriving DecidableEq, Repr

/-- Blanks, and then words with the blanks behind them. -/
structure Layout where
  lead : String
  spaced : List SpacedWord
  deriving DecidableEq, Repr

namespace Layout

def words (layout : Layout) : List String := layout.spaced.map SpacedWord.word

/-- The text that is laid out. -/
def toText (layout : Layout) : String :=
  layout.lead ++ String.join (layout.spaced.map fun spaced => spaced.word ++ spaced.gap)

/-- Put planned contents in the place of the words, the first of which has the given number. -/
def replaceFrom (plan : Replacements) (number : Nat) (layout : Layout) : Layout where
  lead := layout.lead
  spaced := layout.spaced.mapIdx fun index spaced =>
    { spaced with word := plan.contentOf (number + index) spaced.word }

/-- The words are visible and not empty, everything around them is blank, and no word directly
follows another. -/
structure Sound (layout : Layout) : Prop where
  lead_blank : ∀ character ∈ layout.lead.toList, Text.isBlank character = true
  word_nonempty : ∀ spaced ∈ layout.spaced, spaced.word ≠ ""
  word_visible : ∀ spaced ∈ layout.spaced, ∀ character ∈ spaced.word.toList,
    Text.isBlank character = false
  gap_blank : ∀ spaced ∈ layout.spaced, ∀ character ∈ spaced.gap.toList,
    Text.isBlank character = true
  gap_nonempty : layout.spaced.IsChain fun spaced _ => spaced.gap ≠ ""

end Layout

/-! ## Pieces read as a layout -/

/-- The layout of some pieces. -/
def layoutOf : List Piece → Layout
  | [] => ⟨"", []⟩
  | piece :: rest =>
    if piece.isBlank then { layoutOf rest with lead := piece.text ++ (layoutOf rest).lead }
    else ⟨"", ⟨piece.text, (layoutOf rest).lead⟩ :: (layoutOf rest).spaced⟩

theorem layoutOf_blank {piece : Piece} (blank : piece.isBlank = true) (rest : List Piece) :
    layoutOf (piece :: rest) =
      { layoutOf rest with lead := piece.text ++ (layoutOf rest).lead } := by
  rw [layoutOf, if_pos blank]

theorem layoutOf_word {piece : Piece} (visible : ¬ piece.isBlank = true) (rest : List Piece) :
    layoutOf (piece :: rest) =
      ⟨"", ⟨piece.text, (layoutOf rest).lead⟩ :: (layoutOf rest).spaced⟩ := by
  rw [layoutOf, if_neg visible]

theorem toText_layoutOf (pieces : List Piece) : (layoutOf pieces).toText = textOf pieces := by
  induction pieces with
  | nil => rfl
  | cons piece rest ih =>
    unfold Layout.toText at ih ⊢
    rw [textOf_cons, ← ih]
    by_cases blank : piece.isBlank = true
    · rw [layoutOf_blank blank, String.append_assoc]
    · rw [layoutOf_word blank]
      simp [String.join_cons, String.append_assoc]

theorem words_layoutOf (pieces : List Piece) :
    (layoutOf pieces).words = (TextDocument.mk pieces).words := by
  induction pieces with
  | nil => rfl
  | cons piece rest ih =>
    unfold Layout.words words at ih ⊢
    by_cases blank : piece.isBlank = true
    · simpa [layoutOf_blank blank, blank] using ih
    · simpa [layoutOf_word blank, blank] using ih

/-- **Replacing the words of pieces replaces the words of their layout**, and nothing else. -/
theorem layoutOf_replaceWords (plan : Replacements) (number : Nat) (pieces : List Piece) :
    layoutOf (replaceWords plan number pieces) = (layoutOf pieces).replaceFrom plan number := by
  induction pieces generalizing number with
  | nil => rfl
  | cons piece rest ih =>
    by_cases blank : piece.isBlank = true
    · rw [replaceWords, if_pos blank, layoutOf_blank blank, layoutOf_blank blank, ih]
      rfl
    · have shifted : ∀ index, number + 1 + index = number + (index + 1) := by omega
      rw [replaceWords_word plan number blank, layoutOf_word (by exact blank), layoutOf_word blank,
        ih]
      simp only [Layout.replaceFrom, List.mapIdx_cons, shifted, Nat.add_zero]

/-! ## Soundness -/

/-- **The layout of alternating pieces is sound.** -/
theorem sound_layoutOf {pieces : List Piece} (alternating : Alternating pieces) :
    (layoutOf pieces).Sound := by
  induction pieces with
  | nil => exact ⟨by simp [layoutOf], by simp [layoutOf], by simp [layoutOf], by simp [layoutOf],
      List.isChain_nil⟩
  | cons piece rest ih =>
    obtain ⟨run, later, apart⟩ := alternating_cons_iff.mp alternating
    obtain ⟨leadBlank, wordNonempty, wordVisible, gapBlank, gapNonempty⟩ := ih later
    by_cases blank : piece.isBlank = true
    · rw [layoutOf_blank blank]
      refine ⟨fun character member => ?_, wordNonempty, wordVisible, gapBlank, gapNonempty⟩
      rw [String.toList_append] at member
      rcases List.mem_append.mp member with here | behind
      · rw [run.uniform character here, blank]
      · exact leadBlank character behind
    · have visible : piece.isBlank = false := by simpa using blank
      rw [layoutOf_word blank]
      refine ⟨by simp, List.forall_mem_cons.mpr ⟨run.nonempty, wordNonempty⟩,
        List.forall_mem_cons.mpr ⟨fun character member => ?_, wordVisible⟩,
        List.forall_mem_cons.mpr ⟨leadBlank, gapBlank⟩,
        List.isChain_cons.mpr ⟨fun next follows => ?_, gapNonempty⟩⟩
      · rw [run.uniform character member, visible]
      · -- Behind a word there is nothing, or a blank piece and so a lead that is not empty.
        cases rest with
        | nil => cases follows
        | cons second others =>
          have secondBlank : second.isBlank = true := by
            simpa [visible] using apart second rfl
          have nonempty := (later.runs second List.mem_cons_self).nonempty
          rw [layoutOf_blank secondBlank]
          simp [nonempty]

/-! ## A layout cut into pieces -/

/-- The piece of some blanks, if there are any. -/
def blankPieces (gap : String) : List Piece := if gap = "" then [] else [⟨gap, true⟩]

/-- The pieces of words and the blanks behind them. -/
def spacedPieces (spaced : List SpacedWord) : List Piece :=
  spaced.flatMap fun spaced => ⟨spaced.word, false⟩ :: blankPieces spaced.gap

def Layout.pieces (layout : Layout) : List Piece :=
  blankPieces layout.lead ++ spacedPieces layout.spaced

theorem layoutOf_blankPieces_append (gap : String) (rest : List Piece) :
    layoutOf (blankPieces gap ++ rest) =
      { layoutOf rest with lead := gap ++ (layoutOf rest).lead } := by
  unfold blankPieces
  split
  next empty => simp [empty]
  next => rw [List.singleton_append, layoutOf_blank rfl]

theorem spacedPieces_cons (first : SpacedWord) (rest : List SpacedWord) :
    spacedPieces (first :: rest) =
      ⟨first.word, false⟩ :: (blankPieces first.gap ++ spacedPieces rest) := rfl

theorem layoutOf_spacedPieces (spaced : List SpacedWord) :
    layoutOf (spacedPieces spaced) = ⟨"", spaced⟩ := by
  induction spaced with
  | nil => rfl
  | cons first rest ih =>
    rw [spacedPieces_cons, layoutOf_word (by simp), layoutOf_blankPieces_append, ih,
      String.append_empty]

/-- **The pieces of a layout are laid out as that layout.** -/
theorem layoutOf_pieces (layout : Layout) : layoutOf layout.pieces = layout := by
  rw [Layout.pieces, layoutOf_blankPieces_append, layoutOf_spacedPieces, String.append_empty]

theorem head?_spacedPieces {spaced : List SpacedWord} {first : Piece}
    (starts : first ∈ (spacedPieces spaced).head?) : first.isBlank = false := by
  cases spaced with
  | nil => cases starts
  | cons word rest =>
    cases starts
    rfl

theorem alternating_blankPieces_append {gap : String} {rest : List Piece}
    (blank : ∀ character ∈ gap.toList, Text.isBlank character = true)
    (alternating : Alternating rest) (visible : ∀ first ∈ rest.head?, first.isBlank = false) :
    Alternating (blankPieces gap ++ rest) := by
  unfold blankPieces
  split
  next => exact alternating
  next nonempty =>
    refine alternating_cons_iff.mpr ⟨⟨nonempty, blank⟩, alternating, fun next follows => ?_⟩
    simp [visible next follows]

theorem alternating_spacedPieces {lead : String} {spaced : List SpacedWord}
    (sound : Layout.Sound ⟨lead, spaced⟩) : Alternating (spacedPieces spaced) := by
  induction spaced generalizing lead with
  | nil => exact ⟨by simp [spacedPieces], List.isChain_nil⟩
  | cons first rest ih =>
    obtain ⟨_, wordNonempty, wordVisible, gapBlank, gapNonempty⟩ := sound
    rw [List.forall_mem_cons] at wordNonempty wordVisible gapBlank
    rw [List.isChain_cons] at gapNonempty
    have fromGap : Layout.Sound ⟨first.gap, rest⟩ :=
      ⟨gapBlank.1, wordNonempty.2, wordVisible.2, gapBlank.2, gapNonempty.2⟩
    have later := ih fromGap
    have behind := alternating_blankPieces_append gapBlank.1 later fun _ => head?_spacedPieces
    rw [spacedPieces_cons]
    refine alternating_cons_iff.mpr
      ⟨⟨wordNonempty.1, wordVisible.1⟩, behind, fun next follows => ?_⟩
    -- An empty gap is the last one, and nothing follows it.
    have blank : next.isBlank = true := by
      by_cases empty : first.gap = ""
      · cases rest with
        | nil => simp [blankPieces, empty, spacedPieces] at follows
        | cons second others => exact absurd empty (gapNonempty.1 second rfl)
      · rw [blankPieces, if_neg empty, List.singleton_append, List.head?_cons, Option.mem_some]
          at follows
        rw [← follows]
    simp [blank]

/-- **The pieces of a sound layout alternate.** -/
theorem Layout.Sound.alternating {layout : Layout} (sound : layout.Sound) :
    Alternating layout.pieces :=
  alternating_blankPieces_append sound.lead_blank (alternating_spacedPieces sound)
    fun _ => head?_spacedPieces

/-! ## The layout of a text -/

/-- **A text has one sound layout**, that of its pieces. -/
theorem eq_layoutOf_iff {text : String} {layout : Layout} :
    layout.Sound ∧ layout.toText = text ↔ layout = layoutOf (ofText text).pieces := by
  constructor
  · rintro ⟨sound, rfl⟩
    have text : layout.toText.toList = charactersOf layout.pieces := by
      rw [← toList_textOf, ← toText_layoutOf, layoutOf_pieces]
    rw [pieces_ofText, text, piecesOf_charactersOf sound.alternating, layoutOf_pieces]
  · rintro rfl
    refine ⟨sound_layoutOf (alternating_pieces_ofText text), ?_⟩
    rw [toText_layoutOf, pieces_ofText, textOf_piecesOf, String.ofList_toList]

/-- **Cutting a text into words is faithful, and replacing words is exact.**  A text has one
sound layout.  Its document, which a pass over the characters builds as well, is written as
the text again, has alternating pieces, and its words are those of the layout, numbered from
zero.  A plan, which may as well be carried out in place, puts the planned contents in the
place of the words of the layout and leaves the rest of the text; as many words are there
afterwards, with the same numbers, whatever their contents.  Two plans one after the other
are their union, in which the second one wins. -/
theorem ofText_has_layout (text : String) :
    ∃ layout : Layout, (∀ other : Layout, other.Sound ∧ other.toText = text ↔ other = layout) ∧
      scan text = ofText text ∧ (ofText text).toText = text ∧
      Alternating (ofText text).pieces ∧
      Document.tokens (ofText text) = layout.words ∧
      numberedWords (ofText text) = layout.words.mapIdx Prod.mk ∧
      (∀ plan : Replacements,
        rewrite plan (ofText text) = Document.apply plan (ofText text) ∧
        (Document.apply plan (ofText text)).toText = (layout.replaceFrom plan 0).toText ∧
        numberedWords (Document.apply plan (ofText text)) =
          layout.words.mapIdx fun number word => (number, plan.contentOf number word)) ∧
      ∀ first second : Replacements,
        Document.apply second (Document.apply first (ofText text)) =
          Document.apply (first.union second) (ofText text) := by
  have written : (ofText text).toText = text := by
    rw [toText, ← textOf, pieces_ofText, textOf_piecesOf, String.ofList_toList]
  have words : Document.tokens (ofText text) = (layoutOf (ofText text).pieces).words :=
    (words_layoutOf _).symm
  refine ⟨layoutOf (ofText text).pieces, fun other => eq_layoutOf_iff, scan_eq text, written,
    alternating_pieces_ofText text, words, ?_, fun plan => ⟨rewrite_eq plan _, ?_, ?_⟩,
    fun first second => apply_apply first second _⟩
  · rw [numberedWords_eq, words_layoutOf]
  · rw [← layoutOf_replaceWords, toText_layoutOf]
    rfl
  · rw [numberedWords_eq, words_apply, words_layoutOf]
    refine List.ext_getElem? fun position => ?_
    simp only [List.getElem?_mapIdx, Option.map_map]
    rfl

/-! A word that is replaced by nothing, or by a text with blanks, stays one word. -/

example : numberedWords (Document.apply (SortedMap.ofList [(0, .text ""), (2, .text "x y")])
    (ofText "a  b\nc")) = [(0, ""), (1, "b"), (2, "x y")] := by decide +kernel

end Acronyms.TextDocument
