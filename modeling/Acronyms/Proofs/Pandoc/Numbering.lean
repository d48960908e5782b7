import Acronyms.Proofs.Pandoc.Walk
import Mathlib.Order.Defs.LinearOrder
import Mathlib.Data.List.Lex

/-!
# The numbers of the words

A walk comes to some places of a value after a certain number of words
(`wordsAhead?`), and never comes to the others.  The number of the words ahead of a word
is the number of the word (`wordNumber?`).

The numbers are the positions in the list of the words, and nothing else: a word of a
number has the text at that position (`text_of_wordNumber?`), every position is the
number of a word (`exists_wordNumber?`), and the numbers increase with the paths
(`wordNumber?_lt_of_lt`), so that no two words have the same number.
-/

set_option autoImplicit false

namespace Acronyms.Pandoc

/-! ## Words ahead of a place -/

/-- The number of words a walk lists before it comes to a path; there is none when the
walk does not come there. -/
def wordsAhead? : Json → List Nat → Option Nat
  | _, [] => some 0
  | value, index :: path =>
    if enters value index then
      value.children[index]?.bind fun child =>
        (wordsAhead? child path).map (wordsBefore value index + ·)
    else none

/-- The number of the word at a path, among the words of the value. -/
def wordNumber? (value : Json) (path : List Nat) : Option Nat :=
  if ((value.follow? path).bind wordIn?).isSome then wordsAhead? value path else none

theorem wordsAhead?_cons_eq_some_iff {value : Json} {index ahead : Nat} {path : List Nat} :
    wordsAhead? value (index :: path) = some ahead ↔
      enters value index = true ∧ ∃ child below, value.children[index]? = some child ∧
        wordsAhead? child path = some below ∧ ahead = wordsBefore value index + below := by
  rw [wordsAhead?]
  constructor
  · intro reached
    split at reached
    next entered =>
      obtain ⟨child, found, inside⟩ := Option.bind_eq_some_iff.mp reached
      obtain ⟨below, rest, rfl⟩ := Option.map_eq_some_iff.mp inside
      exact ⟨entered, child, below, found, rest, rfl⟩
    next => cases reached
  · rintro ⟨entered, child, below, found, rest, rfl⟩
    rw [if_pos entered, found, Option.bind_some, rest, Option.map_some]

theorem exists_follow?_of_wordsAhead? {value : Json} {path : List Nat} {ahead : Nat}
    (reached : wordsAhead? value path = some ahead) :
    ∃ inside, value.follow? path = some inside := by
  induction path generalizing value ahead with
  | nil => exact ⟨value, rfl⟩
  | cons index path ih =>
    obtain ⟨_, child, below, found, rest, _⟩ := wordsAhead?_cons_eq_some_iff.mp reached
    obtain ⟨inside, followed⟩ := ih rest
    refine ⟨inside, ?_⟩
    rw [Json.follow?, found, Option.bind_some, followed]

theorem wordsAhead?_append {value inside : Json} {path below : List Nat} {ahead further : Nat}
    (reached : wordsAhead? value path = some ahead) (followed : value.follow? path = some inside)
    (onward : wordsAhead? inside below = some further) :
    wordsAhead? value (path ++ below) = some (ahead + further) := by
  induction path generalizing value ahead with
  | nil =>
    cases reached
    cases followed
    rwa [List.nil_append, Nat.zero_add]
  | cons index path ih =>
    obtain ⟨entered, child, between, here, rest, rfl⟩ :=
      wordsAhead?_cons_eq_some_iff.mp reached
    rw [Json.follow?, here, Option.bind_some] at followed
    exact wordsAhead?_cons_eq_some_iff.mpr
      ⟨entered, child, between + further, here, ih rest followed, Nat.add_assoc _ _ _⟩

/-- A word has a number exactly when a walk comes to it. -/
theorem wordNumber?_eq_some_iff {value : Json} {path : List Nat} {number : Nat} :
    wordNumber? value path = some number ↔
      wordsAhead? value path = some number ∧
        ∃ inside text, value.follow? path = some inside ∧ wordIn? inside = some text := by
  have spoken : ((value.follow? path).bind wordIn?).isSome = true ↔
      ∃ inside text, value.follow? path = some inside ∧ wordIn? inside = some text := by
    rw [Option.isSome_iff_exists, exists_comm]
    simp only [Option.bind_eq_some_iff]
  rw [wordNumber?, ← spoken]
  split
  next here => simp [here]
  next missing => simp [missing]

/-- The number of a word below a place counts from the words ahead of the place. -/
theorem wordNumber?_append {value inside : Json} {path below : List Nat} {ahead number : Nat}
    (reached : wordsAhead? value path = some ahead) (followed : value.follow? path = some inside)
    (numbered : wordNumber? inside below = some number) :
    wordNumber? value (path ++ below) = some (ahead + number) := by
  obtain ⟨onward, word, text, found, spoken⟩ := wordNumber?_eq_some_iff.mp numbered
  refine wordNumber?_eq_some_iff.mpr
    ⟨wordsAhead?_append reached followed onward, word, text, ?_, spoken⟩
  rw [Json.follow?_append, followed, Option.bind_some, found]

theorem wordNumber?_nil {value : Json} {text : String} (spoken : wordIn? value = some text) :
    wordNumber? value [] = some 0 :=
  wordNumber?_eq_some_iff.mpr ⟨rfl, value, text, rfl, spoken⟩

/-- The words in a child are numbered on from the words before the child. -/
theorem wordNumber?_cons_eq_some_iff {value : Json} {index number : Nat} {path : List Nat} :
    wordNumber? value (index :: path) = some number ↔
      enters value index = true ∧ ∃ child below, value.children[index]? = some child ∧
        wordNumber? child path = some below ∧ number = wordsBefore value index + below := by
  rw [wordNumber?_eq_some_iff, wordsAhead?_cons_eq_some_iff]
  constructor
  · rintro ⟨⟨entered, child, below, found, rest, rfl⟩, inside, text, followed, spoken⟩
    rw [Json.follow?, found, Option.bind_some] at followed
    exact ⟨entered, child, below, found,
      wordNumber?_eq_some_iff.mpr ⟨rest, inside, text, followed, spoken⟩, rfl⟩
  · rintro ⟨entered, child, below, found, numbered, rfl⟩
    obtain ⟨rest, inside, text, followed, spoken⟩ := wordNumber?_eq_some_iff.mp numbered
    refine ⟨⟨entered, child, below, found, rest, rfl⟩, inside, text, ?_, spoken⟩
    rw [Json.follow?, found, Option.bind_some, followed]

/-! ## Lists of lists -/

/-- A joined list is cut around one of the lists it is made of. -/
theorem flatten_eq_of_getElem? {α : Type} {lists : List (List α)} {index : Nat} {inner : List α}
    (found : lists[index]? = some inner) :
    lists.flatten = (lists.take index).flatten ++ inner ++ (lists.drop (index + 1)).flatten := by
  induction lists generalizing index with
  | nil => cases found
  | cons first rest ih =>
    cases index with
    | zero =>
      cases found
      simp
    | succ index => simp [ih (by simpa using found)]

theorem getElem?_flatten {α : Type} {lists : List (List α)} {index offset : Nat} {inner : List α}
    (found : lists[index]? = some inner) (within : offset < inner.length) :
    lists.flatten[(lists.take index).flatten.length + offset]? = inner[offset]? := by
  rw [flatten_eq_of_getElem? found, List.append_assoc,
    List.getElem?_append_right (Nat.le_add_right _ _), Nat.add_sub_cancel_left,
    List.getElem?_append_left within]

/-- A position in a joined list is a position in one of the lists it is made of. -/
theorem exists_of_lt_length_flatten {α : Type} {lists : List (List α)} {position : Nat}
    (inside : position < lists.flatten.length) :
    ∃ index inner offset, lists[index]? = some inner ∧ offset < inner.length ∧
      position = (lists.take index).flatten.length + offset := by
  induction lists generalizing position with
  | nil => cases inside
  | cons first rest ih =>
    by_cases here : position < first.length
    · exact ⟨0, first, position, rfl, here, by simp⟩
    · rw [List.flatten_cons, List.length_append] at inside
      obtain ⟨index, inner, offset, found, within, cut⟩ := ih
        (show position - first.length < rest.flatten.length by omega)
      refine ⟨index + 1, inner, offset, by simpa using found, within, ?_⟩
      rw [List.take_succ_cons, List.flatten_cons, List.length_append]
      omega

/-- The elements of a list come before those of a later one. -/
theorem length_flatten_take_le {α : Type} {lists : List (List α)} {index later : Nat}
    {inner : List α} (found : lists[index]? = some inner) (before : index < later) :
    (lists.take index).flatten.length + inner.length ≤ (lists.take later).flatten.length := by
  have kept : (lists.take later)[index]? = some inner := by
    rw [List.getElem?_take_of_lt before, found]
  rw [flatten_eq_of_getElem? kept, List.take_take, Nat.min_eq_left (Nat.le_of_lt before)]
  simp only [List.length_append]
  omega

/-! ## Numbers are positions -/

theorem getElem?_wordsByChild_of_enters {value child : Json} {index : Nat}
    (entered : enters value index = true) (found : value.children[index]? = some child) :
    (wordsByChild value)[index]? = some (wordsOf child) := by
  rw [getElem?_wordsByChild, found, Option.map_some, if_pos entered]

theorem not_word_of_enters {value : Json} {index : Nat} (entered : enters value index = true) :
    wordIn? value = none := by
  rw [Option.eq_none_iff_forall_ne_some]
  intro text spoken
  rw [enters_of_word spoken] at entered
  cases entered

/-- A word of a child stands among the words of the value, behind the words before the child. -/
theorem getElem?_wordsOf_of_enters {value child : Json} {index offset : Nat}
    (entered : enters value index = true) (found : value.children[index]? = some child)
    (within : offset < (wordsOf child).length) :
    (wordsOf value)[wordsBefore value index + offset]? = (wordsOf child)[offset]? := by
  rw [wordsOf_of_not_word (not_word_of_enters entered), wordsBefore,
    getElem?_flatten (getElem?_wordsByChild_of_enters entered found) within]

/-- **The words of a place stand together in the list of the words**, after the words
ahead of the place. -/
theorem wordsOf_eq_around {value : Json} {path : List Nat} {ahead : Nat}
    (reached : wordsAhead? value path = some ahead) :
    ∃ inside front back, value.follow? path = some inside ∧
      wordsOf value = front ++ wordsOf inside ++ back ∧ front.length = ahead := by
  induction path generalizing value ahead with
  | nil =>
    cases reached
    exact ⟨value, [], [], rfl, by simp, rfl⟩
  | cons index path ih =>
    obtain ⟨entered, child, below, found, rest, rfl⟩ := wordsAhead?_cons_eq_some_iff.mp reached
    obtain ⟨inside, front, back, followed, split, length⟩ := ih rest
    refine ⟨inside, ((wordsByChild value).take index).flatten ++ front,
      back ++ ((wordsByChild value).drop (index + 1)).flatten, ?_, ?_, ?_⟩
    · rw [Json.follow?, found, Option.bind_some, followed]
    · rw [wordsOf_of_not_word (not_word_of_enters entered),
        flatten_eq_of_getElem? (getElem?_wordsByChild_of_enters entered found), split]
      simp only [List.append_assoc]
    · rw [List.length_append, length, wordsBefore]

/-- **A word of a number has the text at that position.** -/
theorem text_of_wordNumber? {value : Json} {path : List Nat} {number : Nat}
    (numbered : wordNumber? value path = some number) :
    ∃ inside text, value.follow? path = some inside ∧ wordIn? inside = some text ∧
      (wordsOf value)[number]? = some text := by
  obtain ⟨reached, inside, text, followed, spoken⟩ := wordNumber?_eq_some_iff.mp numbered
  obtain ⟨same, front, back, again, split, length⟩ := wordsOf_eq_around reached
  obtain rfl : inside = same := Option.some.inj (followed.symm.trans again)
  refine ⟨inside, text, followed, spoken, ?_⟩
  rw [split, wordsOf_of_word spoken, ← length]
  simp

theorem wordNumber?_lt_length {value : Json} {path : List Nat} {number : Nat}
    (numbered : wordNumber? value path = some number) : number < (wordsOf value).length := by
  obtain ⟨_, _, _, _, position⟩ := text_of_wordNumber? numbered
  exact (List.getElem?_eq_some_iff.mp position).1

/-- **Every position is the number of a word.** -/
theorem exists_wordNumber? (value : Json) :
    ∀ number < (wordsOf value).length, ∃ path, wordNumber? value path = some number := by
  induction value using Json.induction_on_children with
  | step value ih =>
    intro number bound
    cases spoken : wordIn? value with
    | some text =>
      rw [wordsOf_of_word spoken] at bound
      obtain rfl : number = 0 := by simpa using bound
      exact ⟨[], wordNumber?_nil spoken⟩
    | none =>
      rw [wordsOf_of_not_word spoken] at bound
      obtain ⟨index, words, offset, listed, within, rfl⟩ := exists_of_lt_length_flatten bound
      rw [getElem?_wordsByChild, Option.map_eq_some_iff] at listed
      obtain ⟨child, found, rfl⟩ := listed
      split at within
      next entered =>
        obtain ⟨path, numbered⟩ := ih child (List.mem_of_getElem? found) offset within
        exact ⟨index :: path, wordNumber?_cons_eq_some_iff.mpr
          ⟨entered, child, offset, found, numbered, rfl⟩⟩
      next => cases within

/-- **The numbers increase in reading order**, which is the order of the paths. -/
theorem wordNumber?_lt_of_lt {value : Json} {path later : List Nat} {number other : Nat}
    (order : path < later) (first : wordNumber? value path = some number)
    (second : wordNumber? value later = some other) : number < other := by
  induction order generalizing value number other with
  | nil =>
    -- The first path is that of a word, and no walk goes on below a word.
    obtain ⟨_, inside, text, followed, spoken⟩ := wordNumber?_eq_some_iff.mp first
    obtain ⟨entered, _⟩ := wordNumber?_cons_eq_some_iff.mp second
    cases followed
    rw [enters_of_word spoken] at entered
    cases entered
  | rel before =>
    -- The paths part here: all words of the earlier child come before the later child.
    obtain ⟨entered, child, below, found, numbered, rfl⟩ := wordNumber?_cons_eq_some_iff.mp first
    obtain ⟨_, _, further, _, _, rfl⟩ := wordNumber?_cons_eq_some_iff.mp second
    have inside := wordNumber?_lt_length numbered
    have ordered := length_flatten_take_le (getElem?_wordsByChild_of_enters entered found) before
    unfold wordsBefore
    omega
  | cons _ ih =>
    obtain ⟨_, child, below, found, numbered, rfl⟩ := wordNumber?_cons_eq_some_iff.mp first
    obtain ⟨_, same, further, again, counted, rfl⟩ := wordNumber?_cons_eq_some_iff.mp second
    obtain rfl : child = same := Option.some.inj (found.symm.trans again)
    exact Nat.add_lt_add_left (ih numbered counted) _

/-- **No two words have the same number.** -/
theorem path_unique {value : Json} {path other : List Nat} {number : Nat}
    (first : wordNumber? value path = some number)
    (second : wordNumber? value other = some number) : path = other := by
  rcases lt_trichotomy path other with before | same | after
  · exact absurd (wordNumber?_lt_of_lt before first second) (Nat.lt_irrefl number)
  · exact same
  · exact absurd (wordNumber?_lt_of_lt after second first) (Nat.lt_irrefl number)

/-! A closed node between two words takes no number. -/

example :
    let value := Json.array [word "one", node "Code" (.array [word "hidden"]),
      .object [("note", node "Emph" (.array [word "two"]))]]
    wordsOf value = ["one", "two"] ∧ wordNumber? value [2, 0, 0, 0] = some 1 ∧
      wordNumber? value [1, 0, 0] = none := by decide +kernel

end Acronyms.Pandoc
