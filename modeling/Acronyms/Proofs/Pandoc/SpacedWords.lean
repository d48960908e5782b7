import Acronyms.Pandoc.Listing
import Acronyms.Proofs.EndRuns
import Mathlib.Data.List.Chain
import Mathlib.Data.List.SplitBy

/-!
# The words of a text between spaces

A list is singly separated if no separator stands at either end of it, and nowhere two of
them side by side.  Parts without separators are put together to such a list exactly if none
of them is empty, or if there is nothing but one empty part
(`singlySeparated_intercalate_iff`).

The words of a text are its non-empty parts between spaces (`map_toList_spacedWords`).  This
decides the separators on both sides: **the inlines of a text are singly separated by their
spaces** whatever the text is (`singlySeparated_textInlines`), and **the text is its words
with single spaces between them exactly if it is singly separated itself**
(`intercalate_spacedWords_eq_iff`).
-/

set_option autoImplicit false

namespace Acronyms

/-! ## Single separators -/

section Separators

variable {α : Type} {separator : α}

/-- Separators stand between other elements only: not at the ends, and not side by side. -/
structure SinglySeparated (separator : α) (list : List α) : Prop where
  starts : list.head? ≠ some separator
  ends : list.getLast? ≠ some separator
  apart : list.IsChain fun left right => ¬(left = separator ∧ right = separator)

/-- A list without separators is singly separated. -/
theorem singlySeparated_of_notMem {list : List α} (clear : separator ∉ list) :
    SinglySeparated separator list where
  starts first := clear (List.mem_of_mem_head? first)
  ends last := clear (List.mem_of_mem_getLast? last)
  apart := List.isChain_iff_forall_rel_of_append_cons_cons.mpr
    fun _ _ _ _ split both => clear (by simp [split, both.1])

/-- **A separator is single if there is something on both sides of it.** -/
theorem singlySeparated_append_cons_iff {front back : List α} (clear : separator ∉ front) :
    SinglySeparated separator (front ++ separator :: back) ↔
      front ≠ [] ∧ back ≠ [] ∧ SinglySeparated separator back := by
  have own := singlySeparated_of_notMem clear
  have last (nonempty : back ≠ []) : (front ++ separator :: back).getLast? = back.getLast? := by
    rw [List.getLast?_append_cons, List.getLast?_cons_of_ne_nil nonempty]
  constructor
  · rintro ⟨starts, ends, apart⟩
    have nonempty : back ≠ [] := by
      rintro rfl
      exact ends (by simp)
    obtain ⟨next, behind⟩ := List.isChain_cons.mp apart.right_of_append
    refine ⟨?_, nonempty, fun first => next _ first ⟨rfl, rfl⟩, last nonempty ▸ ends, behind⟩
    rintro rfl
    exact starts rfl
  · rintro ⟨frontNonempty, backNonempty, behind⟩
    refine ⟨?_, last backNonempty ▸ behind.ends, ?_⟩
    · rw [List.head?_append_of_ne_nil _ frontNonempty]
      exact own.starts
    · refine List.isChain_append.mpr ⟨own.apart, List.isChain_cons.mpr ⟨?_, behind.apart⟩, ?_⟩
      · rintro next first ⟨_, rfl⟩
        exact behind.starts first
      · rintro previous ends _ _ ⟨rfl, _⟩
        exact own.ends ends

theorem intercalate_eq_nil_iff {parts : List (List α)} (nonempty : parts ≠ []) :
    [separator].intercalate parts = [] ↔ parts = [[]] := by
  cases parts with
  | nil => exact absurd rfl nonempty
  | cons part rest =>
    cases rest with
    | nil => simp
    | cons next rest => simp

/-- **Parts with separators between them are singly separated exactly if none of them is
empty**, or if the list is. -/
theorem singlySeparated_intercalate_iff {parts : List (List α)}
    (clear : ∀ part ∈ parts, separator ∉ part) :
    SinglySeparated separator ([separator].intercalate parts) ↔ parts = [[]] ∨ [] ∉ parts := by
  induction parts with
  | nil => exact iff_of_true (singlySeparated_of_notMem (by simp)) (.inr (by simp))
  | cons part rest ih =>
    obtain ⟨partClear, restClear⟩ := List.forall_mem_cons.mp clear
    by_cases last : rest = []
    · subst last
      rw [List.intercalate_singleton]
      refine iff_of_true (singlySeparated_of_notMem partClear) ?_
      by_cases empty : part = []
      · exact .inl (by rw [empty])
      · exact .inr (by simpa using Ne.symm empty)
    · have empty : rest = [[]] → [] ∈ rest := by
        rintro rfl
        exact List.mem_cons_self
      rw [List.intercalate_cons_of_ne_nil last, List.append_assoc, List.singleton_append,
        singlySeparated_append_cons_iff partClear, ne_eq, ne_eq, intercalate_eq_nil_iff last,
        ih restClear]
      simp only [List.cons.injEq, last, and_false, false_or, List.mem_cons, not_or, eq_comm]
      tauto

/-- Separators between elements are separators between lists of one element. -/
theorem intersperse_eq_intercalate (list : List α) :
    list.intersperse separator = [separator].intercalate (list.map fun element => [element]) := by
  fun_induction List.intersperse separator list with
  | case1 => rfl
  | case2 only => rfl
  | case3 first rest nonempty ih =>
    rw [List.map_cons, List.intercalate_cons_of_ne_nil (by simpa using nonempty), ih]
    rfl

theorem notMem_of_mem_splitOn [BEq α] [LawfulBEq α] {list part : List α}
    (member : part ∈ list.splitOn separator) : separator ∉ part := by
  induction list generalizing part with
  | nil =>
    obtain rfl : part = [] := by simpa using member
    exact List.not_mem_nil
  | cons first rest ih =>
    rw [List.splitOn_cons_eq_if_modifyHead] at member
    split at member
    next =>
      rcases List.mem_cons.mp member with rfl | later
      · exact List.not_mem_nil
      · exact ih later
    next differ =>
      obtain ⟨head, tail, split⟩ := List.exists_cons_of_ne_nil (List.splitOn_ne_nil separator rest)
      rw [split, List.modifyHead_cons] at member
      rcases List.mem_cons.mp member with rfl | later
      · rw [List.mem_cons, not_or]
        refine ⟨fun same => differ (by simp [same]), ih ?_⟩
        rw [split]
        exact List.mem_cons_self
      · refine ih ?_
        rw [split]
        exact List.mem_cons_of_mem head later

end Separators

namespace Pandoc

/-! ## Words between spaces -/

/-- The runs of characters that are no spaces. -/
def visibleRuns (characters : List Char) : List (List Char) :=
  (characters.splitBy fun left right => (left == ' ') == (right == ' ')).filter
    fun run => run.head? != some ' '

theorem spacedWords_eq (text : String) :
    spacedWords text = (visibleRuns text.toList).map String.ofList := rfl

/-- Between a space and another character the runs end. -/
theorem visibleRuns_append {front back : List Char}
    (apart : ∀ last ∈ front.getLast?, ∀ first ∈ back.head?, (last == ' ') ≠ (first == ' ')) :
    visibleRuns (front ++ back) = visibleRuns front ++ visibleRuns back := by
  have seam : ∀ last ∈ front.getLast?, ∀ first ∈ back.head?,
      ((last == ' ') == (first == ' ')) = false :=
    fun last ends first begins => beq_false_of_ne (apart last ends first begins)
  rw [visibleRuns, List.splitBy_append seam, List.filter_append]
  rfl

/-- Characters that are all spaces, or of which none is one, make a single run. -/
theorem splitBy_of_uniform {run : List Char} {isSpace : Bool} (nonempty : run ≠ [])
    (uniform : ∀ character ∈ run, (character == ' ') = isSpace) :
    run.splitBy (fun left right => (left == ' ') == (right == ' ')) = [run] := by
  refine List.splitBy_of_isChain nonempty ?_
  refine List.isChain_iff_forall_rel_of_append_cons_cons.mpr fun left right _ _ split => ?_
  rw [uniform left (by simp [split]), uniform right (by simp [split])]
  exact beq_self_eq_true isSpace

theorem visibleRuns_of_spaces {run : List Char}
    (spaces : ∀ character ∈ run, (character == ' ') = true) : visibleRuns run = [] := by
  cases run with
  | nil => rfl
  | cons first rest =>
    have isSpace := spaces first List.mem_cons_self
    rw [visibleRuns, splitBy_of_uniform (by simp) spaces]
    simpa using isSpace

theorem visibleRuns_of_word {run : List Char} (clear : ' ' ∉ run) :
    visibleRuns run = [run].filter (· ≠ []) := by
  cases run with
  | nil => rfl
  | cons first rest =>
    have visible : ∀ character ∈ first :: rest, (character == ' ') = false :=
      fun character member => beq_false_of_ne fun same => clear (same ▸ member)
    rw [visibleRuns, splitBy_of_uniform (by simp) visible]
    simpa using visible first List.mem_cons_self

/-- Spaces in front of something else add no run. -/
theorem visibleRuns_spaces_append {spaces rest : List Char}
    (blank : ∀ character ∈ spaces, (character == ' ') = true)
    (stops : ∀ first ∈ rest.head?, (first == ' ') = false) :
    visibleRuns (spaces ++ rest) = visibleRuns rest := by
  rw [visibleRuns_append, visibleRuns_of_spaces blank, List.nil_append]
  intro last ends first begins
  rw [blank last (List.mem_of_mem_getLast? ends), stops first begins]
  decide

/-- A space in front adds no run, also where more of them follow. -/
theorem visibleRuns_space_cons (characters : List Char) :
    visibleRuns (' ' :: characters) = visibleRuns characters := by
  obtain ⟨spaces, rest, cut, blank, stops⟩ := exists_run_start (· == ' ') characters
  have longer : ∀ character ∈ ' ' :: spaces, (character == ' ') = true :=
    List.forall_mem_cons.mpr ⟨rfl, blank⟩
  rw [cut, visibleRuns_spaces_append blank stops, ← List.cons_append,
    visibleRuns_spaces_append longer stops]

/-- **The visible runs are the parts between spaces that are not empty.** -/
theorem visibleRuns_intercalate {parts : List (List Char)} (clear : ∀ part ∈ parts, ' ' ∉ part) :
    visibleRuns ([' '].intercalate parts) = parts.filter (· ≠ []) := by
  induction parts with
  | nil => rfl
  | cons part rest ih =>
    obtain ⟨partClear, restClear⟩ := List.forall_mem_cons.mp clear
    by_cases last : rest = []
    · rw [last, List.intercalate_singleton]
      exact visibleRuns_of_word partClear
    · rw [List.intercalate_cons_of_ne_nil last, List.append_assoc, List.singleton_append,
        visibleRuns_append, visibleRuns_of_word partClear, visibleRuns_space_cons, ih restClear,
        ← List.filter_append, List.singleton_append]
      intro character ends space begins
      obtain rfl : ' ' = space := by simpa using begins
      have visible : (character == ' ') = false :=
        beq_false_of_ne fun same => partClear (same ▸ List.mem_of_mem_getLast? ends)
      rw [visible]
      decide

theorem map_toList_spacedWords (text : String) :
    (spacedWords text).map String.toList = (text.toList.splitOn ' ').filter (· ≠ []) := by
  have clear : ∀ part ∈ text.toList.splitOn ' ', ' ' ∉ part := fun _ => notMem_of_mem_splitOn
  have runs := visibleRuns_intercalate clear
  rw [List.intercalate_splitOn] at runs
  rw [spacedWords_eq, List.map_map, runs]
  simp

/-- Words are not empty. -/
theorem ne_empty_of_mem_spacedWords {text written : String} (member : written ∈ spacedWords text) :
    written ≠ "" := by
  have part := List.mem_map_of_mem (f := String.toList) member
  rw [map_toList_spacedWords, List.mem_filter] at part
  rintro rfl
  simp at part

/-! ## Spaces in the text and among the inlines -/

/-- **A text is its words with single spaces between them exactly if it is singly
separated.** -/
theorem intercalate_spacedWords_eq_iff (text : String) :
    " ".intercalate (spacedWords text) = text ↔ SinglySeparated ' ' text.toList := by
  have clear : ∀ part ∈ text.toList.splitOn ' ', ' ' ∉ part := fun _ => notMem_of_mem_splitOn
  have whole : [' '].intercalate (text.toList.splitOn ' ') = text.toList :=
    List.intercalate_splitOn ' '
  have single := singlySeparated_intercalate_iff clear
  rw [whole] at single
  have spelled : (" ".intercalate (spacedWords text)).toList =
      [' '].intercalate ((text.toList.splitOn ' ').filter (· ≠ [])) := by
    rw [String.toList_intercalate, map_toList_spacedWords]
    rfl
  rw [← String.toList_inj, spelled]
  constructor
  · intro same
    rw [← same]
    refine (singlySeparated_intercalate_iff fun part member => ?_).mpr (.inr (by simp))
    exact clear part (List.mem_of_mem_filter member)
  · intro separated
    rcases single.mp separated with empty | nonempty
    · rw [← whole, empty]
      rfl
    · rw [List.filter_eq_self.mpr, whole]
      intro part member
      exact decide_eq_true fun empty => nonempty (empty ▸ member)

theorem word_ne_space (written : String) : word written ≠ bareNode "Space" := by
  simp [word, node, bareNode]

/-- **The inlines of a text are singly separated by their spaces.** -/
theorem singlySeparated_textInlines (text : String) :
    SinglySeparated (bareNode "Space") (textInlines text) := by
  rw [textInlines, intersperse_eq_intercalate]
  refine (singlySeparated_intercalate_iff ?_).mpr (.inr (by simp))
  intro part member
  rw [List.map_map] at member
  obtain ⟨written, _, rfl⟩ := List.mem_map.mp member
  exact mt List.mem_singleton.mp (word_ne_space written).symm

end Pandoc

end Acronyms
