import Acronyms.Pandoc.Document
import Acronyms.Proofs.Json.Path

/-!
# One step of the two walks

The walk that lists the words and the walk that replaces them go through a value in the
same way: they answer at a word, and elsewhere they enter the same children (`enters`).
This module says so once for each walk, in terms of the children of a value.

* The words of a value that is no word itself are the words of the children the walk
  enters, in order (`wordsOf_eq`).
* A replacement keeps the outline of such a value, keeps the children it does not enter
  and goes on in the others, each with the number of the words before it
  (`outline_replaceFrom`, `children_replaceFrom`).  A word is replaced or kept as a whole
  (`replaceFrom_of_word`).

The kinds of the nodes do not get in the way: **a replacement changes the kind of no
value that it goes into** (`wordIn?_replaceFrom`, `enters_replaceFrom`).
-/

set_option autoImplicit false

namespace Acronyms.Pandoc

variable {replacements : Replacements} {position : Nat}

/-! ## Where the walks go -/

/-- The text of a value that is a word. -/
def wordIn? : Json → Option String
  | .object members => wordText? members
  | _ => none

/-- Whether the walks go into the child of an index. -/
def enters : Json → Nat → Bool
  | .array _, _ => true
  | .object members, index =>
    match kindOf members with
    | .word _ => false
    | .closed => false
    | .element => (members.map Prod.fst).findIdx (· == "c") == index
    | .record => true
  | _, _ => false

/-- The words that a walk finds in each child. -/
def wordsByChild (value : Json) : List (List String) :=
  value.children.mapIdx fun index child => if enters value index then wordsOf child else []

/-- The number of words in the children before an index. -/
def wordsBefore (value : Json) (index : Nat) : Nat :=
  ((wordsByChild value).take index).flatten.length

theorem getElem?_wordsByChild (value : Json) (index : Nat) :
    (wordsByChild value)[index]? = value.children[index]?.map fun child =>
      if enters value index then wordsOf child else [] := by
  rw [wordsByChild, List.getElem?_mapIdx]

/-! ## Kinds of objects -/

theorem kindOf_eq_word_iff {members : Json.Members} {text : String} :
    kindOf members = .word text ↔ wordText? members = some text := by
  unfold kindOf
  cases spoken : wordText? members with
  | some found => simp
  | none =>
    cases nodeType? members with
    | none => simp
    | some type => dsimp only; split <;> simp

theorem kindOf_eq_record_iff {members : Json.Members} :
    kindOf members = .record ↔ nodeType? members = none := by
  unfold kindOf wordText?
  cases typed : nodeType? members with
  | none => simp
  | some type =>
    cases (if some type = some "Str" then (content? members).bind Json.asString? else none) with
    | some text => simp
    | none => dsimp only; split <;> simp

theorem kindOf_cases {members : Json.Members} (silent : wordText? members = none) :
    kindOf members = .closed ∨ kindOf members = .element ∨ kindOf members = .record := by
  cases kind : kindOf members with
  | word text => rw [kindOf_eq_word_iff.mp kind] at silent; cases silent
  | closed => exact .inl rfl
  | element => exact .inr (.inl rfl)
  | record => exact .inr (.inr rfl)

/-! ## Listing -/

theorem wordsOfItems_eq (items : List Json) :
    wordsOfItems items = (items.map wordsOf).flatten := by
  induction items with
  | nil => rfl
  | cons item rest ih => simp [wordsOfItems, ih]

theorem wordsOfMembers_eq (members : Json.Members) :
    wordsOfMembers members = wordsOfItems (members.map Prod.snd) := by
  induction members with
  | nil => rfl
  | cons member rest ih => simp [wordsOfMembers, wordsOfItems, ih]

/-- The words of the content of a node are those of its first member of that name. -/
theorem wordsOfContent_eq (members : Json.Members) :
    wordsOfContent members = ((members.map Prod.snd).mapIdx fun index child =>
      if (members.map Prod.fst).findIdx (· == "c") == index then wordsOf child
      else []).flatten := by
  induction members with
  | nil => rfl
  | cons member rest ih =>
    obtain ⟨name, value⟩ := member
    rw [wordsOfContent, List.map_cons, List.map_cons, List.mapIdx_cons, List.findIdx_cons,
      List.flatten_cons]
    by_cases isContent : name = "c"
    · simp [isContent]
    · rw [if_neg isContent, beq_false_of_ne isContent, ih]
      simp

theorem wordsByChild_of_enters (value : Json) (all : ∀ index, enters value index = true) :
    wordsByChild value = value.children.map wordsOf := by
  refine List.ext_getElem? fun index => ?_
  simp [getElem?_wordsByChild, all]

theorem flatten_wordsByChild_of_not_enters (value : Json)
    (none : ∀ index, enters value index = false) : (wordsByChild value).flatten = [] := by
  rw [List.flatten_eq_nil_iff]
  intro words member
  obtain ⟨index, _, rfl⟩ := List.mem_mapIdx.mp member
  simp [none]

/-- **One step of the listing walk.**  It answers at a word, and elsewhere lists the
words of the children it enters. -/
theorem wordsOf_eq (value : Json) :
    wordsOf value = match wordIn? value with
      | some text => [text]
      | none => (wordsByChild value).flatten := by
  cases value with
  | array items =>
    rw [wordsByChild_of_enters (.array items) fun _ => rfl]
    exact wordsOfItems_eq items
  | object members =>
    cases spoken : wordText? members with
    | some text => simp only [wordsOf, wordIn?, kindOf_eq_word_iff.mpr spoken, spoken]
    | none =>
      simp only [wordsOf, wordIn?, spoken]
      rcases kindOf_cases spoken with kind | kind | kind <;> simp only [kind]
      · refine (flatten_wordsByChild_of_not_enters (.object members) fun index => ?_).symm
        simp only [enters, kind]
      · simp only [wordsOfContent_eq, wordsByChild, enters, kind, Json.children]
      · rw [wordsByChild_of_enters (.object members) fun index => by simp only [enters, kind],
          wordsOfMembers_eq, wordsOfItems_eq]
        rfl
  | _ => rfl

theorem wordsOf_of_word {value : Json} {text : String} (spoken : wordIn? value = some text) :
    wordsOf value = [text] := by
  rw [wordsOf_eq, spoken]

theorem wordsOf_of_not_word {value : Json} (silent : wordIn? value = none) :
    wordsOf value = (wordsByChild value).flatten := by
  rw [wordsOf_eq, silent]

theorem enters_of_word {value : Json} {text : String} (spoken : wordIn? value = some text)
    (index : Nat) : enters value index = false := by
  cases value with
  | object members => simp only [enters, kindOf_eq_word_iff.mpr spoken]
  | _ => cases spoken

/-! ## Numbering -/

mutual

/-- The replacing walk counts the words as the listing walk finds them. -/
theorem replaceFrom_after (replacements : Replacements) : ∀ (position : Nat) (value : Json),
    (replaceFrom replacements position value).2 = position + (wordsOf value).length
  | position, .array items => by
    simp only [replaceFrom, wordsOf]
    exact replaceItems_after replacements position items
  | position, .object members => by
    simp only [replaceFrom, wordsOf]
    cases kindOf members with
    | word text => rfl
    | closed => rfl
    | element => exact replaceContent_after replacements position members
    | record => exact replaceMembers_after replacements position members
  | _, .null | _, .bool _ | _, .integer _ | _, .double _ | _, .string _ => rfl

theorem replaceItems_after (replacements : Replacements) : ∀ (position : Nat) (items : List Json),
    (replaceItems replacements position items).2 = position + (wordsOfItems items).length
  | _, [] => rfl
  | position, item :: rest => by
    simp only [replaceItems, wordsOfItems, List.length_append]
    rw [replaceItems_after replacements _ rest, replaceFrom_after replacements position item]
    omega

theorem replaceContent_after (replacements : Replacements) :
    ∀ (position : Nat) (members : List (String × Json)),
      (replaceContent replacements position members).2 =
        position + (wordsOfContent members).length
  | _, [] => rfl
  | position, (name, value) :: rest => by
    simp only [replaceContent, wordsOfContent]
    split
    next => exact replaceFrom_after replacements position value
    next => exact replaceContent_after replacements position rest

theorem replaceMembers_after (replacements : Replacements) :
    ∀ (position : Nat) (members : List (String × Json)),
      (replaceMembers replacements position members).2 =
        position + (wordsOfMembers members).length
  | _, [] => rfl
  | position, (name, value) :: rest => by
    simp only [replaceMembers, wordsOfMembers, List.length_append]
    rw [replaceMembers_after replacements _ rest, replaceFrom_after replacements position value]
    omega

end

/-! ## Replacing -/

/-- A list of values is replaced value by value, each from the number of the words
before it. -/
theorem replaceItems_eq (position : Nat) (items : List Json) :
    (replaceItems replacements position items).1 = items.mapIdx fun index item =>
      (replaceFrom replacements
        (position + ((items.map wordsOf).take index).flatten.length) item).1 := by
  induction items generalizing position with
  | nil => rfl
  | cons item rest ih =>
    rw [List.mapIdx_cons]
    simp only [replaceItems, ih, replaceFrom_after]
    simp [Nat.add_assoc]

theorem names_replaceMembers (position : Nat) (members : Json.Members) :
    (replaceMembers replacements position members).1.map Prod.fst = members.map Prod.fst := by
  induction members generalizing position with
  | nil => rfl
  | cons member rest ih => simp [replaceMembers, ih]

theorem values_replaceMembers (position : Nat) (members : Json.Members) :
    (replaceMembers replacements position members).1.map Prod.snd =
      (replaceItems replacements position (members.map Prod.snd)).1 := by
  induction members generalizing position with
  | nil => rfl
  | cons member rest ih => simp [replaceMembers, replaceItems, ih]

theorem names_replaceContent (position : Nat) (members : Json.Members) :
    (replaceContent replacements position members).1.map Prod.fst = members.map Prod.fst := by
  induction members with
  | nil => rfl
  | cons member rest ih =>
    simp only [replaceContent]
    split
    next => rfl
    next => simp [ih]

/-- The values of a node are kept, but for the first one that is its content. -/
theorem values_replaceContent (position : Nat) (members : Json.Members) :
    (replaceContent replacements position members).1.map Prod.snd =
      (members.map Prod.snd).mapIdx fun index child =>
        if (members.map Prod.fst).findIdx (· == "c") == index then
          (replaceFrom replacements position child).1
        else child := by
  induction members with
  | nil => rfl
  | cons member rest ih =>
    obtain ⟨name, value⟩ := member
    rw [replaceContent, List.map_cons, List.map_cons, List.mapIdx_cons, List.findIdx_cons]
    by_cases isContent : name = "c"
    · have kept : (rest.map Prod.snd).mapIdx (fun _ child => child) = rest.map Prod.snd :=
        List.mapIdx_eq_iff.mpr fun index => by cases (rest.map Prod.snd)[index]? <;> rfl
      simp [isContent, kept]
    · rw [if_neg isContent, beq_false_of_ne isContent]
      simp [ih]

/-- A word is replaced or kept as a whole. -/
theorem replaceFrom_of_word {value : Json} {text : String} (spoken : wordIn? value = some text)
    (position : Nat) :
    (replaceFrom replacements position value).1 =
      ((replacements.get? position).map inlineNode).getD value := by
  cases value with
  | object members =>
    simp only [replaceFrom, kindOf_eq_word_iff.mpr spoken, replaceWord]
  | _ => cases spoken

/-- A node whose members count as content finds no words before its content. -/
theorem wordsBefore_of_content {members : Json.Members} (kind : kindOf members = .element)
    {index : Nat} (entered : enters (.object members) index = true) :
    wordsBefore (.object members) index = 0 := by
  have content : (members.map Prod.fst).findIdx (· == "c") = index := by
    simpa only [enters, kind, beq_iff_eq] using entered
  rw [wordsBefore, List.length_eq_zero_iff, List.flatten_eq_nil_iff]
  intro words member
  obtain ⟨other, before, rfl⟩ := List.mem_take_iff_getElem.mp member
  have differ : ((members.map Prod.fst).findIdx (· == "c") == other) = false := by
    rw [beq_eq_false_iff_ne]
    omega
  simp only [wordsByChild, List.getElem_mapIdx, enters, kind, differ]
  rfl

/-! ## Kinds stay -/

/-- A replacement makes an object of an object. -/
theorem exists_replaceFrom_object (position : Nat) (members : Json.Members) :
    ∃ others, (replaceFrom replacements position (.object members)).1 = .object others := by
  cases kind : kindOf members with
  | word text =>
    simp only [replaceFrom, kind, replaceWord]
    cases replacements.get? position with
    | none => exact ⟨members, rfl⟩
    | some inline => cases inline <;> exact ⟨_, rfl⟩
  | closed => exact ⟨members, by simp only [replaceFrom, kind]⟩
  | element =>
    simp only [replaceFrom, kind]
    exact ⟨_, rfl⟩
  | record =>
    simp only [replaceFrom, kind]
    exact ⟨_, rfl⟩

/-- A replacement makes no strings and loses none. -/
theorem asString?_replaceFrom (position : Nat) (value : Json) :
    (replaceFrom replacements position value).1.asString? = value.asString? := by
  cases value with
  | object members =>
    obtain ⟨others, replaced⟩ := exists_replaceFrom_object position members
    rw [replaced]
    rfl
  | _ => rfl

/-- The first item of a value is replaced before anything else in it. -/
theorem item?_zero_replaceFrom (position : Nat) (value : Json) :
    (replaceFrom replacements position value).1.item? 0 =
      (value.item? 0).map fun item => (replaceFrom replacements position item).1 := by
  cases value with
  | array items =>
    cases items with
    | nil => rfl
    | cons item rest => rfl
  | object members =>
    obtain ⟨others, replaced⟩ := exists_replaceFrom_object position members
    rw [replaced]
    rfl
  | _ => rfl

theorem lookup_replaceContent (position : Nat) (members : Json.Members) :
    (replaceContent replacements position members).1.lookup "c" =
      (members.lookup "c").map fun value => (replaceFrom replacements position value).1 := by
  induction members with
  | nil => rfl
  | cons member rest ih =>
    obtain ⟨name, value⟩ := member
    rw [replaceContent]
    by_cases isContent : name = "c"
    · rw [if_pos isContent, isContent]
      rfl
    · rw [if_neg isContent]
      rw [List.lookup_cons, List.lookup_cons, beq_false_of_ne (Ne.symm isContent)]
      exact ih

theorem lookup_replaceContent_of_ne {name : String} (differ : name ≠ "c") (position : Nat)
    (members : Json.Members) :
    (replaceContent replacements position members).1.lookup name = members.lookup name := by
  induction members with
  | nil => rfl
  | cons member rest ih =>
    obtain ⟨other, value⟩ := member
    rw [replaceContent]
    by_cases isContent : other = "c"
    · rw [if_pos isContent, isContent]
      rw [List.lookup_cons, List.lookup_cons, beq_false_of_ne differ]
    · rw [if_neg isContent]
      simp only [List.lookup_cons, ih]

/-- A record keeps the text of every member that is a string, and gets no others. -/
theorem asString?_lookup_replaceMembers (name : String) (position : Nat) (members : Json.Members) :
    ((replaceMembers replacements position members).1.lookup name).bind Json.asString? =
      (members.lookup name).bind Json.asString? := by
  induction members generalizing position with
  | nil => rfl
  | cons member rest ih =>
    obtain ⟨other, value⟩ := member
    simp only [replaceMembers, List.lookup_cons]
    cases name == other with
    | true => exact asString?_replaceFrom position value
    | false => exact ih _

/-- **A node stays what it is when its content is replaced.** -/
theorem kindOf_replaceContent (position : Nat) (members : Json.Members) :
    kindOf (replaceContent replacements position members).1 = kindOf members := by
  have type : nodeType? (replaceContent replacements position members).1 = nodeType? members := by
    unfold nodeType?
    rw [lookup_replaceContent_of_ne (by decide)]
  have text : wordText? (replaceContent replacements position members).1 = wordText? members := by
    unfold wordText? content?
    rw [type, lookup_replaceContent]
    cases members.lookup "c" with
    | none => rfl
    | some content => simp only [Option.map_some, Option.bind_some, asString?_replaceFrom]
  -- The identifier is a string two levels down, where a replacement may put a node in place
  -- of a node but never touches a string.
  have identifier : identifier? (replaceContent replacements position members).1 =
      identifier? members := by
    unfold identifier? attributes? content?
    rw [lookup_replaceContent]
    cases members.lookup "c" with
    | none => rfl
    | some content =>
      simp only [Option.map_some, Option.bind_some, item?_zero_replaceFrom]
      cases content.item? 0 with
      | none => rfl
      | some attributes =>
        simp only [Option.map_some, Option.bind_some, item?_zero_replaceFrom]
        cases attributes.item? 0 with
        | none => rfl
        | some first => simp only [Option.map_some, Option.bind_some, asString?_replaceFrom]
  unfold kindOf isListing
  rw [text, type, identifier]

/-- **A record stays a record.** -/
theorem kindOf_replaceMembers {members : Json.Members} (kind : kindOf members = .record)
    (position : Nat) : kindOf (replaceMembers replacements position members).1 = .record := by
  rw [kindOf_eq_record_iff] at kind ⊢
  exact (asString?_lookup_replaceMembers "t" position members).trans kind

/-- **An object that is no word keeps its kind and the names of its members.** -/
theorem exists_replaceFrom_of_not_word (replacements : Replacements) {members : Json.Members}
    (silent : wordText? members = none) (position : Nat) :
    ∃ others, (replaceFrom replacements position (.object members)).1 = .object others ∧
      kindOf others = kindOf members ∧ others.map Prod.fst = members.map Prod.fst := by
  rcases kindOf_cases silent with kind | kind | kind <;> simp only [replaceFrom, kind]
  · exact ⟨members, rfl, kind, rfl⟩
  · exact ⟨_, rfl, (kindOf_replaceContent position members).trans kind,
      names_replaceContent position members⟩
  · exact ⟨_, rfl, kindOf_replaceMembers kind position, names_replaceMembers position members⟩

theorem wordIn?_replaceFrom {value : Json} (silent : wordIn? value = none) (position : Nat) :
    wordIn? (replaceFrom replacements position value).1 = none := by
  cases value with
  | object members =>
    obtain ⟨others, replaced, kind, _⟩ :=
      exists_replaceFrom_of_not_word replacements silent position
    rw [replaced, wordIn?, Option.eq_none_iff_forall_ne_some]
    intro text spoken
    rw [← kindOf_eq_word_iff, kind, kindOf_eq_word_iff] at spoken
    exact absurd (silent.symm.trans spoken) (Option.some_ne_none text).symm
  | _ => rfl

/-- The walks enter the same children after a replacement as before it. -/
theorem enters_replaceFrom {value : Json} (silent : wordIn? value = none) (position index : Nat) :
    enters (replaceFrom replacements position value).1 index = enters value index := by
  cases value with
  | object members =>
    obtain ⟨others, replaced, kind, names⟩ :=
      exists_replaceFrom_of_not_word replacements silent position
    rw [replaced, enters, enters, kind, names]
  | _ => rfl

/-! ## One step of the replacing walk -/

/-- **One step of the replacing walk, outside the children.**  A value that is no word
keeps its outline. -/
theorem outline_replaceFrom {value : Json} (silent : wordIn? value = none) (position : Nat) :
    (replaceFrom replacements position value).1.outline = value.outline := by
  cases value with
  | array items =>
    refine congrArg Json.array (List.ext_getElem ?_ fun index _ _ => ?_)
    · simp [replaceItems_eq]
    · simp
  | object members =>
    obtain ⟨others, replaced, _, names⟩ :=
      exists_replaceFrom_of_not_word replacements silent position
    rw [replaced, Json.outline_object, Json.outline_object, names]
  | _ => rfl

/-- **One step of the replacing walk, at the children.**  It goes on in the children it
enters, each from the number of the words before it, and keeps the others. -/
theorem children_replaceFrom {value : Json} (silent : wordIn? value = none) (position : Nat) :
    (replaceFrom replacements position value).1.children =
      value.children.mapIdx fun index child =>
        if enters value index then
          (replaceFrom replacements (position + wordsBefore value index) child).1
        else child := by
  have everywhere : ∀ (value : Json), (∀ index, enters value index = true) →
      (replaceItems replacements position value.children).1 =
        value.children.mapIdx fun index child =>
          if enters value index then
            (replaceFrom replacements (position + wordsBefore value index) child).1
          else child := by
    intro value all
    simp only [replaceItems_eq, wordsBefore, wordsByChild_of_enters value all, all, if_true]
  cases value with
  | array items => exact everywhere (.array items) fun _ => rfl
  | object members =>
    rcases kindOf_cases silent with kind | kind | kind <;> simp only [replaceFrom, kind]
    · refine (List.mapIdx_eq_iff.mpr fun index => ?_).symm
      simp only [enters, kind]
      cases (Json.object members).children[index]? <;> rfl
    · refine (values_replaceContent position members).trans ?_
      refine List.mapIdx_eq_mapIdx_iff.mpr fun index inside => ?_
      split
      next content =>
        have entered : enters (.object members) index = true := by
          simpa only [enters, kind] using content
        rw [if_pos entered, wordsBefore_of_content kind entered, Nat.add_zero]
      next other =>
        have kept : ¬enters (.object members) index = true := by
          simpa only [enters, kind] using other
        rw [if_neg kept]
    · refine (values_replaceMembers position members).trans ?_
      refine everywhere (.object members) fun index => ?_
      simp only [enters, kind]
  | _ => rfl

end Acronyms.Pandoc
