import Acronyms.Proofs.Pandoc.Numbering

/-!
# What a replacement does to a document

Replacing words by position has two sides.  On the side of the words, each word gives
way to the words that stand in for it (`standIns`), in its own place
(`wordsOf_replaceFrom`).  On the side of the tree, the node of a word that has a number
in the replacements becomes the node of the replacement, and every place that is neither
such a word nor inside one keeps its outline.

The main statement is `apply_replacesExactly`: **a replacement changes the words that the
listing walk numbered, and nothing else**.  It follows that the replacements of positions
beyond the last word do nothing, and that a document without replacements is left alone.
-/

set_option autoImplicit false

namespace Acronyms

namespace Pandoc

variable {replacements : Replacements}

/-! ## The words that stand in -/

/-- The words that take the place of the word at a position. -/
def standIns (replacements : Replacements) (position : Nat) (word : String) : List String :=
  match replacements.get? position with
  | none => [word]
  | some (.text content) => [content]
  | some (.raw _ _) => []

/-- A list of words, the first of which has the given position, with their stand-ins. -/
def substituted (replacements : Replacements) (position : Nat) (words : List String) :
    List String :=
  (words.mapIdx fun index word => standIns replacements (position + index) word).flatten

theorem substituted_append (position : Nat) (words more : List String) :
    substituted replacements position (words ++ more) =
      substituted replacements position words ++
        substituted replacements (position + words.length) more := by
  unfold substituted
  rw [List.mapIdx_append, List.flatten_append]
  simp only [Nat.add_assoc, Nat.add_comm words.length]

theorem substituted_flatten (position : Nat) (lists : List (List String)) :
    substituted replacements position lists.flatten = (lists.mapIdx fun index words =>
      substituted replacements (position + (lists.take index).flatten.length) words).flatten := by
  induction lists generalizing position with
  | nil => rfl
  | cons words rest ih =>
    rw [List.flatten_cons, substituted_append, List.mapIdx_cons, List.flatten_cons, ih]
    simp [Nat.add_assoc]

theorem wordsOf_inlineNode (inline : Inline) :
    wordsOf (inlineNode inline) = match inline with
      | .text content => [content]
      | .raw _ _ => [] := by
  cases inline with
  | text content =>
    exact wordsOf_of_word (show wordIn? (word content) = some content by rfl)
  | raw format content => rfl

/-- **The words of a value after a replacement are those before it, with the stand-ins
of each.** -/
theorem wordsOf_replaceFrom (value : Json) : ∀ position,
    wordsOf (replaceFrom replacements position value).1 =
      substituted replacements position (wordsOf value) := by
  induction value using Json.induction_on_children with
  | step value ih =>
    intro position
    cases spoken : wordIn? value with
    | some text =>
      have standIn : substituted replacements position [text] =
          standIns replacements position text := by
        simp [substituted]
      rw [replaceFrom_of_word spoken, wordsOf_of_word spoken, standIn, standIns]
      cases replacements.get? position with
      | none => exact wordsOf_of_word spoken
      | some inline =>
        refine (wordsOf_inlineNode inline).trans ?_
        cases inline <;> rfl
    | none =>
      -- The new value is no word either, so the words of both are compared child by child.
      rw [wordsOf_of_not_word (wordIn?_replaceFrom spoken position), wordsOf_of_not_word spoken,
        substituted_flatten]
      refine congrArg List.flatten (List.mapIdx_eq_iff.mpr fun index => ?_).symm
      rw [getElem?_wordsByChild, getElem?_wordsByChild, children_replaceFrom spoken,
        List.getElem?_mapIdx, enters_replaceFrom spoken]
      cases found : value.children[index]? with
      | none => rfl
      | some child =>
        simp only [Option.map_some]
        by_cases entered : enters value index = true
        · rw [if_pos entered, if_pos entered, if_pos entered,
            ih child (List.mem_of_getElem? found), wordsBefore]
        · rw [if_neg entered, if_neg entered]
          rfl

/-! ## Which replacements matter -/

theorem wordsBefore_add_lt {value child : Json} {index offset : Nat}
    (entered : enters value index = true) (found : value.children[index]? = some child)
    (within : offset < (wordsOf child).length) :
    wordsBefore value index + offset < (wordsOf value).length := by
  have stands := getElem?_wordsOf_of_enters entered found within
  rw [List.getElem?_eq_getElem within] at stands
  exact (List.getElem?_eq_some_iff.mp stands).1

/-- **Only the replacements of the words of a value matter to it.** -/
theorem replaceFrom_congr (others : Replacements) (value : Json) : ∀ position,
    (∀ index < (wordsOf value).length,
      others.get? (position + index) = replacements.get? (position + index)) →
    (replaceFrom others position value).1 = (replaceFrom replacements position value).1 := by
  induction value using Json.induction_on_children with
  | step value ih =>
    intro position agree
    cases spoken : wordIn? value with
    | some text =>
      have here := agree 0 (by rw [wordsOf_of_word spoken]; exact Nat.zero_lt_one)
      rw [replaceFrom_of_word spoken, replaceFrom_of_word spoken, ← Nat.add_zero position, here]
    | none =>
      refine Json.eq_of_outline_of_children ?_ ?_
      · rw [outline_replaceFrom spoken, outline_replaceFrom spoken]
      · rw [children_replaceFrom spoken, children_replaceFrom spoken]
        refine List.mapIdx_eq_mapIdx_iff.mpr fun index inside => ?_
        split
        next entered =>
          refine ih _ (List.getElem_mem inside) _ fun offset within => ?_
          rw [Nat.add_assoc]
          exact agree _ (wordsBefore_add_lt entered (List.getElem?_eq_getElem inside) within)
        next => rfl

theorem replaceFrom_empty (value : Json) : ∀ position,
    (replaceFrom .empty position value).1 = value := by
  induction value using Json.induction_on_children with
  | step value ih =>
    intro position
    cases spoken : wordIn? value with
    | some text =>
      rw [replaceFrom_of_word spoken, SortedMap.get?_empty]
      rfl
    | none =>
      refine Json.eq_of_outline_of_children (outline_replaceFrom spoken position) ?_
      rw [children_replaceFrom spoken]
      refine List.mapIdx_eq_iff.mpr fun index => ?_
      cases found : value.children[index]? with
      | none => rfl
      | some child =>
        simp only [Option.map_some, ih child (List.mem_of_getElem? found), ite_self]

/-- A value none of whose words is to be replaced is left alone. -/
theorem replaceFrom_of_none {value : Json} {position : Nat}
    (none : ∀ index < (wordsOf value).length, replacements.get? (position + index) = none) :
    (replaceFrom replacements position value).1 = value := by
  have same := replaceFrom_congr .empty value position fun index bound => (none index bound).symm
  rw [← same, replaceFrom_empty]

/-! ## Places -/

/-- None of the words that stand at a path or above it is to be replaced, where the words
of the value are numbered from a position. -/
def Spared (replacements : Replacements) (position : Nat) (value : Json) (path : List Nat) :
    Prop :=
  ∀ above number, above <+: path → wordNumber? value above = some number →
    replacements.get? (position + number) = none

theorem Spared.get?_eq_none {value : Json} {text : String} {position : Nat} {path : List Nat}
    (spared : Spared replacements position value path) (spoken : wordIn? value = some text) :
    replacements.get? position = none :=
  spared [] 0 List.nil_prefix (wordNumber?_nil spoken)

theorem Spared.child {value child : Json} {position index : Nat} {path : List Nat}
    (spared : Spared replacements position value (index :: path))
    (entered : enters value index = true) (found : value.children[index]? = some child) :
    Spared replacements (position + wordsBefore value index) child path := by
  intro above number isAbove numbered
  rw [Nat.add_assoc]
  exact spared (index :: above) _ (List.cons_prefix_cons.mpr ⟨rfl, isAbove⟩)
    (wordNumber?_cons_eq_some_iff.mpr ⟨entered, child, number, found, numbered, rfl⟩)

theorem getElem?_children_replaceFrom {value : Json} (silent : wordIn? value = none)
    (position index : Nat) :
    (replaceFrom replacements position value).1.children[index]? =
      value.children[index]?.map fun child =>
        if enters value index then
          (replaceFrom replacements (position + wordsBefore value index) child).1
        else child := by
  rw [children_replaceFrom silent, List.getElem?_mapIdx]

/-- **A place that the walks come to is replaced in its own right**, from the number of
the words ahead of it. -/
theorem follow?_replaceFrom_of_reached {value : Json} {path : List Nat} {ahead : Nat}
    (reached : wordsAhead? value path = some ahead) (position : Nat) :
    (replaceFrom replacements position value).1.follow? path =
      (value.follow? path).map fun inside =>
        (replaceFrom replacements (position + ahead) inside).1 := by
  induction path generalizing value ahead position with
  | nil =>
    cases reached
    rfl
  | cons index path ih =>
    obtain ⟨entered, child, below, found, rest, rfl⟩ := wordsAhead?_cons_eq_some_iff.mp reached
    rw [Json.follow?, Json.follow?,
      getElem?_children_replaceFrom (not_word_of_enters entered), found, Option.map_some,
      Option.bind_some, Option.bind_some, if_pos entered, ih rest, Nat.add_assoc]

/-- **A spared place that the walks do not come to is left alone.** -/
theorem follow?_replaceFrom_of_not_reached {value : Json} {path : List Nat} {position : Nat}
    (missed : wordsAhead? value path = none) (spared : Spared replacements position value path) :
    (replaceFrom replacements position value).1.follow? path = value.follow? path := by
  induction path generalizing value position with
  | nil => cases missed
  | cons index path ih =>
    cases spoken : wordIn? value with
    | some text =>
      rw [replaceFrom_of_word spoken, spared.get?_eq_none spoken]
      rfl
    | none =>
      rw [Json.follow?, Json.follow?, getElem?_children_replaceFrom spoken]
      cases found : value.children[index]? with
      | none => rfl
      | some child =>
        rw [Option.map_some, Option.bind_some, Option.bind_some]
        split
        next entered =>
          refine ih ?_ (spared.child entered found)
          rw [Option.eq_none_iff_forall_ne_some] at missed ⊢
          intro below rest
          exact missed _ (wordsAhead?_cons_eq_some_iff.mpr
            ⟨entered, child, below, found, rest, rfl⟩)
        next => rfl

/-- **A spared place keeps its outline.** -/
theorem outline_follow?_replaceFrom {value : Json} {path : List Nat} {position : Nat}
    (spared : Spared replacements position value path) :
    ((replaceFrom replacements position value).1.follow? path).map Json.outline =
      (value.follow? path).map Json.outline := by
  cases reached : wordsAhead? value path with
  | none => rw [follow?_replaceFrom_of_not_reached reached spared]
  | some ahead =>
    obtain ⟨inside, followed⟩ := exists_follow?_of_wordsAhead? reached
    rw [follow?_replaceFrom_of_reached reached, followed, Option.map_some, Option.map_some,
      Option.map_some]
    cases spoken : wordIn? inside with
    | some text =>
      have numbered := wordNumber?_eq_some_iff.mpr ⟨reached, inside, text, followed, spoken⟩
      rw [replaceFrom_of_word spoken, spared path ahead List.prefix_rfl numbered]
      rfl
    | none => rw [outline_replaceFrom spoken]

/-- **A place that is spared down to its last word is left alone.** -/
theorem follow?_replaceFrom_of_spared {value : Json} {path : List Nat} {position : Nat}
    (spared : Spared replacements position value path)
    (below : ∀ further number, path <+: further → wordNumber? value further = some number →
      replacements.get? (position + number) = none) :
    (replaceFrom replacements position value).1.follow? path = value.follow? path := by
  cases reached : wordsAhead? value path with
  | none => exact follow?_replaceFrom_of_not_reached reached spared
  | some ahead =>
    obtain ⟨inside, followed⟩ := exists_follow?_of_wordsAhead? reached
    rw [follow?_replaceFrom_of_reached reached, followed, Option.map_some]
    refine congrArg some (replaceFrom_of_none fun index bound => ?_)
    obtain ⟨further, numbered⟩ := exists_wordNumber? inside index bound
    rw [Nat.add_assoc]
    exact below (path ++ further) _ (List.prefix_append path further)
      (wordNumber?_append reached followed numbered)

/-- **The node of a word gives way to the node of its replacement.** -/
theorem follow?_replaceFrom_of_word {value inside : Json} {path : List Nat} {number : Nat}
    (numbered : wordNumber? value path = some number) (followed : value.follow? path = some inside)
    (position : Nat) :
    (replaceFrom replacements position value).1.follow? path =
      some (((replacements.get? (position + number)).map inlineNode).getD inside) := by
  obtain ⟨reached, same, text, again, spoken⟩ := wordNumber?_eq_some_iff.mp numbered
  obtain rfl : inside = same := Option.some.inj (followed.symm.trans again)
  rw [follow?_replaceFrom_of_reached reached, followed, Option.map_some,
    replaceFrom_of_word spoken]

/-- **A closed node is left alone.** -/
theorem follow?_replaceFrom_of_closed {value : Json} {members : Json.Members} {path : List Nat}
    {position : Nat} (spared : Spared replacements position value path)
    (followed : value.follow? path = some (.object members)) (kind : kindOf members = .closed) :
    (replaceFrom replacements position value).1.follow? path = some (.object members) := by
  cases reached : wordsAhead? value path with
  | none => rw [follow?_replaceFrom_of_not_reached reached spared, followed]
  | some ahead =>
    rw [follow?_replaceFrom_of_reached reached, followed, Option.map_some]
    simp only [replaceFrom, kind]

/-- **A typed node keeps its kind and every member but its content.** -/
theorem follow?_replaceFrom_of_element {value : Json} {members : Json.Members} {path : List Nat}
    {position : Nat} (spared : Spared replacements position value path)
    (followed : value.follow? path = some (.object members)) (kind : kindOf members = .element) :
    ∃ others, (replaceFrom replacements position value).1.follow? path = some (.object others) ∧
      kindOf others = .element ∧ others.map Prod.fst = members.map Prod.fst ∧
      ∀ name, name ≠ "c" → others.lookup name = members.lookup name := by
  cases reached : wordsAhead? value path with
  | none =>
    refine ⟨members, ?_, kind, rfl, fun _ _ => rfl⟩
    rw [follow?_replaceFrom_of_not_reached reached spared, followed]
  | some ahead =>
    refine ⟨(replaceContent replacements (position + ahead) members).1, ?_,
      (kindOf_replaceContent _ members).trans kind, names_replaceContent _ members,
      fun name differ => lookup_replaceContent_of_ne differ _ members⟩
    rw [follow?_replaceFrom_of_reached reached, followed, Option.map_some]
    simp only [replaceFrom, kind]

end Pandoc

end Acronyms
