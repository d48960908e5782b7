import Acronyms.Pandoc.Listing
import Acronyms.Proofs.Pandoc.Replacement

/-!
# The walk over the listing placeholders

The walk that renders the listing placeholders goes through a value child by child, also
where no word is looked for, and stops at a placeholder (`children_renderListings`).
It makes no string of anything but a placeholder, so a word stays a word
(`wordIn?_renderListings`).

A walk over the words never goes through a placeholder.  So the place of a word is a place
of the rendered value as well, and what stood there after a replacement stands there still
(`inlineContent?_of_word`): **rendering the listings disturbs no word**.
-/

set_option autoImplicit false

namespace Acronyms.Pandoc

variable (render : ListingRenderer)

/-- Whether a value is the placeholder of the acronym listing. -/
def isPlaceholder : Json → Bool
  | .object members => isListing members
  | _ => false

theorem placeholder?_eq_none {members : Json.Members}
    (other : isPlaceholder (.object members) = false) : placeholder? members = none := by
  rw [isPlaceholder] at other
  rw [placeholder?, other]
  rfl

/-! ## Finding the placeholders -/

theorem placeholdersOfItems_eq (items : List Json) :
    placeholdersOfItems items = (items.map placeholdersOf).flatten := by
  induction items with
  | nil => rfl
  | cons item rest ih => simp [placeholdersOfItems, ih]

theorem placeholdersOfMembers_eq (members : Json.Members) :
    placeholdersOfMembers members = placeholdersOfItems (members.map Prod.snd) := by
  induction members with
  | nil => rfl
  | cons member rest ih => simp [placeholdersOfMembers, placeholdersOfItems, ih]

/-- The placeholders of a value that is none itself are those of its children. -/
theorem placeholdersOf_eq {value : Json} (other : isPlaceholder value = false) :
    placeholdersOf value = (value.children.map placeholdersOf).flatten := by
  cases value with
  | array items => exact placeholdersOfItems_eq items
  | object members =>
    simp only [placeholdersOf, placeholder?_eq_none other]
    rw [placeholdersOfMembers_eq, placeholdersOfItems_eq]
    rfl
  | _ => rfl

/-- The number of placeholders in the children before an index. -/
def placeholdersBefore (value : Json) (index : Nat) : Nat :=
  ((value.children.map placeholdersOf).take index).flatten.length

/-! ## One step of the walk -/

mutual

/-- The walk counts the placeholders that the listing walk finds. -/
theorem renderListings_after : ∀ (number : Nat) (value : Json),
    (renderListings render number value).2 = number + (placeholdersOf value).length
  | number, .array items => renderItems_after number items
  | number, .object members => by
    simp only [renderListings, placeholdersOf]
    split
    next => rfl
    next => exact renderMembers_after number members
  | _, .null | _, .bool _ | _, .integer _ | _, .double _ | _, .string _ => rfl

theorem renderItems_after : ∀ (number : Nat) (items : List Json),
    (renderItems render number items).2 = number + (placeholdersOfItems items).length
  | _, [] => rfl
  | number, item :: rest => by
    simp only [renderItems, placeholdersOfItems, List.length_append]
    rw [renderItems_after _ rest, renderListings_after number item]
    omega

theorem renderMembers_after : ∀ (number : Nat) (members : List (String × Json)),
    (renderMembers render number members).2 = number + (placeholdersOfMembers members).length
  | _, [] => rfl
  | number, (name, value) :: rest => by
    simp only [renderMembers, placeholdersOfMembers, List.length_append]
    rw [renderMembers_after _ rest, renderListings_after number value]
    omega

end

/-- A list of values is rendered value by value, each from the number of the placeholders
before it. -/
theorem renderItems_eq (number : Nat) (items : List Json) :
    (renderItems render number items).1 = items.mapIdx fun index item =>
      (renderListings render
        (number + ((items.map placeholdersOf).take index).flatten.length) item).1 := by
  induction items generalizing number with
  | nil => rfl
  | cons item rest ih =>
    rw [List.mapIdx_cons]
    simp only [renderItems, ih, renderListings_after]
    simp [Nat.add_assoc]

theorem getElem?_renderItems (number : Nat) (items : List Json) (index : Nat) :
    ∃ later, (renderItems render number items).1[index]? =
      items[index]?.map fun item => (renderListings render later item).1 :=
  ⟨_, by rw [renderItems_eq, List.getElem?_mapIdx]⟩

theorem values_renderMembers (number : Nat) (members : Json.Members) :
    (renderMembers render number members).1.map Prod.snd =
      (renderItems render number (members.map Prod.snd)).1 := by
  induction members generalizing number with
  | nil => rfl
  | cons member rest ih => simp [renderMembers, renderItems, ih]

/-- A member is rendered in its own right. -/
theorem lookup_renderMembers (number : Nat) (members : Json.Members) (name : String) :
    ∃ later, (renderMembers render number members).1.lookup name =
      (members.lookup name).map fun value => (renderListings render later value).1 := by
  induction members generalizing number with
  | nil => exact ⟨number, rfl⟩
  | cons member rest ih =>
    obtain ⟨other, value⟩ := member
    simp only [renderMembers, List.lookup_cons]
    cases name == other with
    | true => exact ⟨number, rfl⟩
    | false => exact ih _

/-- **One step of the rendering walk.**  Each child of a value that is no placeholder is
rendered in its own right, from the number of the placeholders before it. -/
theorem children_renderListings {value : Json} (other : isPlaceholder value = false)
    (number : Nat) :
    (renderListings render number value).1.children = value.children.mapIdx fun index child =>
      (renderListings render (number + placeholdersBefore value index) child).1 := by
  cases value with
  | array items => exact renderItems_eq render number items
  | object members =>
    simp only [renderListings, placeholder?_eq_none other]
    exact (values_renderMembers render number members).trans (renderItems_eq render number _)
  | _ => rfl

theorem getElem?_children_renderListings {value : Json} (other : isPlaceholder value = false)
    (number index : Nat) :
    ∃ later, (renderListings render number value).1.children[index]? =
      value.children[index]?.map fun child => (renderListings render later child).1 :=
  ⟨_, by rw [children_renderListings render other, List.getElem?_mapIdx]⟩

/-! ## Words stay -/

theorem isListing_eq_false_of_word {members : Json.Members} {text : String}
    (spoken : wordText? members = some text) : isListing members = false := by
  unfold wordText? at spoken
  split at spoken
  next str =>
    rw [isListing, str]
    rfl
  next => cases spoken

/-- **A word stays a word with its text.** -/
theorem wordIn?_renderListings {value : Json} {text : String} (spoken : wordIn? value = some text)
    (number : Nat) : wordIn? (renderListings render number value).1 = some text := by
  cases value with
  | object members =>
    have other : isPlaceholder (.object members) = false := isListing_eq_false_of_word spoken
    simp only [renderListings, placeholder?_eq_none other, wordIn?]
    rw [wordIn?, wordText?] at spoken
    split at spoken
    next str =>
      obtain ⟨type, typed, isStr⟩ := Option.bind_eq_some_iff.mp str
      obtain ⟨content, found, isText⟩ := Option.bind_eq_some_iff.mp spoken
      -- A string is rendered as it stands.
      have string : ∀ {value : Json} {text : String}, value.asString? = some text →
          ∀ later, (renderListings render later value).1.asString? = some text := by
        intro value text isString later
        cases value with
        | string _ => exact isString
        | _ => cases isString
      obtain ⟨_, typeRendered⟩ := lookup_renderMembers render number members "t"
      obtain ⟨_, contentRendered⟩ := lookup_renderMembers render number members "c"
      rw [typed] at typeRendered
      rw [content?] at found
      rw [found] at contentRendered
      rw [wordText?, nodeType?, typeRendered, Option.map_some, Option.bind_some, string isStr,
        if_pos rfl, content?, contentRendered, Option.map_some, Option.bind_some, string isText]
    next => cases spoken
  | _ => cases spoken

/-- A placeholder is closed to the walks over the words. -/
theorem kindOf_eq_closed_of_isListing {members : Json.Members}
    (listing : isListing members = true) : kindOf members = .closed := by
  have div : nodeType? members = some "Div" := by
    simpa using (Bool.and_eq_true_iff.mp listing).1
  have silent : wordText? members = none := by
    rw [wordText?, div]
    rfl
  unfold kindOf
  simp only [silent, div, listing, Bool.or_true, if_true]

/-- The walks over the words go through no placeholder. -/
theorem isPlaceholder_of_enters {value : Json} {index : Nat} (entered : enters value index = true) :
    isPlaceholder value = false := by
  cases value with
  | object members =>
    rw [isPlaceholder, Bool.eq_false_iff]
    intro listing
    simp only [enters, kindOf_eq_closed_of_isListing listing] at entered
    cases entered
  | _ => rfl

/-! ## What stands in the place of a word -/

/-- The markup of a raw inline node. -/
def rawInlineContent? : Json → Option String
  | .object members =>
    if nodeType? members = some "RawInline" then
      ((content? members).bind fun content => content.item? 1).bind Json.asString?
    else none
  | _ => none

/-- The text of a word, or the markup of a raw inline node. -/
def inlineContent? (value : Json) : Option String :=
  (wordIn? value).or (rawInlineContent? value)

theorem inlineContent?_inlineNode (inline : Inline) (number : Nat) :
    inlineContent? (renderListings render number (inlineNode inline)).1 = some inline.content := by
  cases inline with
  | text content => rfl
  | raw format content => rfl

/-- **The place of a word holds its content**, once words are replaced and the listings are
rendered: that of its replacement, or its own text where it has none. -/
theorem inlineContent?_of_word (replacements : Replacements) {value : Json} {path : List Nat}
    {number : Nat} {inside : Json} {text : String}
    (numbered : wordNumber? value path = some number) (followed : value.follow? path = some inside)
    (spoken : wordIn? inside = some text) (position place : Nat) :
    ∃ node,
      (renderListings render place (replaceFrom replacements position value).1).1.follow? path =
        some node ∧
      inlineContent? node =
        some (((replacements.get? (position + number)).map Inline.content).getD text) := by
  induction path generalizing value number position place with
  | nil =>
    cases followed
    obtain rfl : number = 0 := by
      rw [wordNumber?_nil spoken] at numbered
      exact (Option.some.inj numbered).symm
    refine ⟨_, rfl, ?_⟩
    rw [replaceFrom_of_word spoken, Nat.add_zero]
    cases replacements.get? position with
    | none =>
      rw [Option.map_none, Option.getD_none, inlineContent?, wordIn?_renderListings render spoken]
      rfl
    | some inline => exact inlineContent?_inlineNode render inline place
  | cons index path ih =>
    obtain ⟨entered, child, below, found, numberedBelow, rfl⟩ :=
      wordNumber?_cons_eq_some_iff.mp numbered
    have silent := not_word_of_enters entered
    rw [Json.follow?, found, Option.bind_some] at followed
    have replaced : (replaceFrom replacements position value).1.children[index]? =
        some (replaceFrom replacements (position + wordsBefore value index) child).1 := by
      rw [getElem?_children_replaceFrom silent, found, Option.map_some, if_pos entered]
    -- The replacement keeps what the walks enter, so the value has not become a placeholder.
    have stillEntered : enters (replaceFrom replacements position value).1 index = true := by
      rw [enters_replaceFrom silent, entered]
    obtain ⟨later, rendered⟩ :=
      getElem?_children_renderListings render (isPlaceholder_of_enters stillEntered) place index
    rw [replaced, Option.map_some] at rendered
    rw [Json.follow?, rendered, Option.bind_some, ← Nat.add_assoc]
    exact ih numberedBelow followed (position + wordsBefore value index) later

end Acronyms.Pandoc
