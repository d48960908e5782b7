import Acronyms.Proofs.Pandoc.ListingWalk

/-!
# What is left when the listings are rendered

Rendering the listing placeholders of a value leaves everything else in its place.  Together
with a replacement of words, each place of the value has become the node of a replacement,
or what is rendered for a placeholder, or has kept its outline (`Retouched`).  The two walks
can be taken one after the other, since the walk over the words enters no placeholder and
makes none (`retouched_of_walks`).

A placeholder is recognised by strings: the type of the node and its identifier.  So where
every rendering is an object, rendering the children of a value cannot make it a
placeholder, and where no rendering has a placeholder inside, **none is left**
(`noPlaceholder_renderListings`).
-/

set_option autoImplicit false

namespace Acronyms.Pandoc

/-! ## Placeholders -/

theorem exists_placeholder? {value : Json} (listing : isPlaceholder value = true) :
    ∃ members placeholder, value = .object members ∧ placeholder? members = some placeholder := by
  cases value with
  | object members =>
    rw [isPlaceholder] at listing
    exact ⟨members, _, rfl, by rw [placeholder?, if_pos listing]⟩
  | _ => cases listing

/-- A placeholder is closed to the walks over the words, so a replacement keeps it. -/
theorem replaceFrom_of_placeholder (replacements : Replacements) {value : Json}
    (listing : isPlaceholder value = true) (position : Nat) :
    (replaceFrom replacements position value).1 = value := by
  cases value with
  | object members => simp only [replaceFrom, kindOf_eq_closed_of_isListing listing]
  | _ => cases listing

/-- A replacement makes a placeholder of nothing that it goes into. -/
theorem isPlaceholder_replaceFrom (replacements : Replacements) {value : Json}
    (silent : wordIn? value = none) (other : isPlaceholder value = false) (position : Nat) :
    isPlaceholder (replaceFrom replacements position value).1 = false := by
  cases value with
  | object members =>
    obtain ⟨others, replaced, kind, _⟩ :=
      exists_replaceFrom_of_not_word replacements silent position
    rw [replaced, Bool.eq_false_iff]
    intro listing
    -- A closed node is left alone, and this one was no placeholder.
    have closed : kindOf members = .closed := kind.symm.trans (kindOf_eq_closed_of_isListing listing)
    have kept : others = members := by simpa only [replaceFrom, closed, Json.object.injEq,
      eq_comm] using replaced
    rw [kept, other] at listing
    cases listing
  | _ => rfl

/-- No value inside is the placeholder of the acronym listing. -/
def NoPlaceholder (value : Json) : Prop :=
  ∀ path inside, value.follow? path = some inside → isPlaceholder inside = false

theorem noPlaceholder_iff {value : Json} :
    NoPlaceholder value ↔
      isPlaceholder value = false ∧ ∀ child ∈ value.children, NoPlaceholder child := by
  constructor
  · intro none
    refine ⟨none [] value rfl, fun child member path inside followed => ?_⟩
    obtain ⟨index, found⟩ := List.getElem?_of_mem member
    refine none (index :: path) inside ?_
    rw [Json.follow?, found, Option.bind_some, followed]
  · rintro ⟨here, below⟩ path inside followed
    cases path with
    | nil =>
      cases followed
      exact here
    | cons index path =>
      obtain ⟨child, found, rest⟩ := Option.bind_eq_some_iff.mp followed
      exact below child (List.mem_of_getElem? found) path inside rest

theorem noPlaceholder_string (text : String) : NoPlaceholder (.string text) :=
  noPlaceholder_iff.mpr ⟨rfl, fun _ member => nomatch member⟩

theorem noPlaceholder_array {items : List Json} (inside : ∀ item ∈ items, NoPlaceholder item) :
    NoPlaceholder (.array items) :=
  noPlaceholder_iff.mpr ⟨rfl, inside⟩

/-- A node that is no `Div` is no placeholder. -/
theorem noPlaceholder_node {type : String} (differ : type ≠ "Div") {content : Json}
    (inside : NoPlaceholder content) : NoPlaceholder (node type content) := by
  refine noPlaceholder_iff.mpr ⟨?_, ?_⟩
  · have typed : nodeType? [("c", content), ("t", .string type)] = some type := rfl
    simp [node, isPlaceholder, isListing, typed, differ]
  · intro child member
    rcases List.mem_pair.mp member with rfl | rfl
    · exact inside
    · exact noPlaceholder_string type

theorem noPlaceholder_bareNode {type : String} (differ : type ≠ "Div") :
    NoPlaceholder (bareNode type) := by
  refine noPlaceholder_iff.mpr ⟨?_, ?_⟩
  · have typed : nodeType? [("t", .string type)] = some type := rfl
    simp [bareNode, isPlaceholder, isListing, typed, differ]
  · intro child member
    obtain rfl := List.mem_singleton.mp member
    exact noPlaceholder_string type

theorem noPlaceholder_rawNode {type : String} (differ : type ≠ "Div") (format content : String) :
    NoPlaceholder (rawNode type format content) := by
  refine noPlaceholder_node differ (noPlaceholder_array fun item member => ?_)
  rcases List.mem_pair.mp member with rfl | rfl
  · exact noPlaceholder_string format
  · exact noPlaceholder_string content

theorem noPlaceholder_textInlines (text : String) :
    ∀ inline ∈ textInlines text, NoPlaceholder inline := by
  intro inline member
  rcases mem_textInlines member with rfl | ⟨written, _, rfl⟩
  · exact noPlaceholder_bareNode (by decide)
  · exact noPlaceholder_node (by decide) (noPlaceholder_string written)

/-! ## One step of the walk, outside the children -/

section Walk

variable (render : ListingRenderer)

theorem names_renderMembers (number : Nat) (members : Json.Members) :
    (renderMembers render number members).1.map Prod.fst = members.map Prod.fst := by
  induction members generalizing number with
  | nil => rfl
  | cons member rest ih => simp [renderMembers, ih]

theorem length_renderItems (number : Nat) (items : List Json) :
    (renderItems render number items).1.length = items.length := by
  induction items generalizing number with
  | nil => rfl
  | cons item rest ih => simp [renderItems, ih]

/-- **One step of the rendering walk, outside the children.**  A value that is no placeholder
keeps its outline. -/
theorem outline_renderListings {value : Json} (other : isPlaceholder value = false)
    (number : Nat) : (renderListings render number value).1.outline = value.outline := by
  cases value with
  | array items =>
    refine congrArg Json.array ?_
    rw [List.map_const', List.map_const', length_renderItems]
  | object members =>
    simp only [renderListings, placeholder?_eq_none other]
    rw [Json.outline_object, Json.outline_object, names_renderMembers]
  | _ => rfl

/-- A word that took the place of a marker has nothing to render. -/
theorem renderListings_inlineNode (inline : Inline) (number : Nat) :
    (renderListings render number (inlineNode inline)).1 = inlineNode inline := by
  cases inline with
  | text content => rfl
  | raw format content => rfl

/-! ## No placeholder is left -/

variable {render} (objects : ∀ number placeholder, ∃ members,
  render number placeholder = .object members)

include objects

theorem asString?_renderListings (number : Nat) (value : Json) :
    (renderListings render number value).1.asString? = value.asString? := by
  cases value with
  | object members =>
    cases listed : placeholder? members with
    | none => simp only [renderListings, listed, Json.asString?]
    | some placeholder =>
      obtain ⟨rendered, isObject⟩ := objects number placeholder
      simp only [renderListings, listed, isObject, Json.asString?]
  | _ => rfl

theorem item?_renderListings (number : Nat) (value : Json) (index : Nat) :
    ∃ later, (renderListings render number value).1.item? index =
      (value.item? index).map fun item => (renderListings render later item).1 := by
  cases value with
  | array items => exact getElem?_renderItems render number items index
  | object members =>
    refine ⟨number, ?_⟩
    cases listed : placeholder? members with
    | none => simp only [renderListings, listed]; rfl
    | some placeholder =>
      obtain ⟨rendered, isObject⟩ := objects number placeholder
      simp only [renderListings, listed, isObject]
      rfl
  | _ => exact ⟨number, rfl⟩

/-- Rendering the children of an object leaves what it is recognised by. -/
theorem isListing_renderMembers (number : Nat) (members : Json.Members) :
    isListing (renderMembers render number members).1 = isListing members := by
  have type : nodeType? (renderMembers render number members).1 = nodeType? members := by
    obtain ⟨later, rendered⟩ := lookup_renderMembers render number members "t"
    rw [nodeType?, nodeType?, rendered]
    cases members.lookup "t" with
    | none => rfl
    | some type => exact asString?_renderListings objects later type
  have identifier : identifier? (renderMembers render number members).1 = identifier? members := by
    unfold identifier? attributes? content?
    obtain ⟨inside, content⟩ := lookup_renderMembers render number members "c"
    rw [content]
    cases members.lookup "c" with
    | none => rfl
    | some content =>
      simp only [Option.map_some, Option.bind_some]
      obtain ⟨further, attributes⟩ := item?_renderListings objects inside content 0
      rw [attributes]
      cases content.item? 0 with
      | none => rfl
      | some attributes =>
        simp only [Option.map_some, Option.bind_some]
        obtain ⟨last, first⟩ := item?_renderListings objects further attributes 0
        rw [first]
        cases attributes.item? 0 with
        | none => rfl
        | some first => exact asString?_renderListings objects last first
  rw [isListing, isListing, type, identifier]

theorem isPlaceholder_renderListings {value : Json} (other : isPlaceholder value = false)
    (number : Nat) : isPlaceholder (renderListings render number value).1 = false := by
  cases value with
  | object members =>
    simp only [renderListings, placeholder?_eq_none other]
    exact (isListing_renderMembers objects number members).trans other
  | _ => rfl

/-- **No placeholder is left**, where every rendering is an object without one. -/
theorem noPlaceholder_renderListings
    (clean : ∀ number placeholder, NoPlaceholder (render number placeholder)) (value : Json) :
    ∀ number, NoPlaceholder (renderListings render number value).1 := by
  induction value using Json.induction_on_children with
  | step value ih =>
    intro number
    cases listed : isPlaceholder value with
    | true =>
      obtain ⟨members, placeholder, rfl, found⟩ := exists_placeholder? listed
      simp only [renderListings, found]
      exact clean number placeholder
    | false =>
      refine noPlaceholder_iff.mpr ⟨isPlaceholder_renderListings objects listed number, ?_⟩
      intro child member
      obtain ⟨index, stands⟩ := List.getElem?_of_mem member
      obtain ⟨later, rendered⟩ := getElem?_children_renderListings render listed number index
      rw [rendered] at stands
      obtain ⟨before, found, rfl⟩ := Option.map_eq_some_iff.mp stands
      exact ih before (List.mem_of_getElem? found) later

end Walk

/-! ## Retouched values -/

/-- A value differs from another one only by words that are rewritten, and by placeholders
that are rendered. -/
inductive Retouched (rewrites : String → Inline → Prop) (render : ListingPlaceholder → Json) :
    Json → Json → Prop where
  /-- A word gives way to a node that it is rewritten to. -/
  | word {value : Json} {text : String} {inline : Inline} : wordIn? value = some text →
      rewrites text inline → Retouched rewrites render value (inlineNode inline)
  /-- A placeholder gives way to its rendering. -/
  | listing {members : Json.Members} {placeholder : ListingPlaceholder} :
      placeholder? members = some placeholder →
      Retouched rewrites render (.object members) (render placeholder)
  /-- Any other value keeps its outline, and at most its children are retouched. -/
  | within {value after : Json} : after.outline = value.outline →
      (∀ (index : Nat) (before later : Json), value.children[index]? = some before →
        after.children[index]? = some later → Retouched rewrites render before later) →
      Retouched rewrites render value after

section Retouched

variable {rewrites : String → Inline → Prop} (render : ListingPlaceholder → Json)

theorem retouched_renderListings (value : Json) : ∀ number,
    Retouched rewrites render value
      (renderListings (fun _ placeholder => render placeholder) number value).1 := by
  induction value using Json.induction_on_children with
  | step value ih =>
    intro number
    cases listed : isPlaceholder value with
    | true =>
      obtain ⟨members, placeholder, rfl, found⟩ := exists_placeholder? listed
      simp only [renderListings, found]
      exact .listing found
    | false =>
      refine .within (outline_renderListings _ listed number) ?_
      intro index before later found stands
      obtain ⟨further, rendered⟩ := getElem?_children_renderListings _ listed number index
      rw [rendered, found, Option.map_some] at stands
      obtain rfl := Option.some.inj stands
      exact ih before (List.mem_of_getElem? found) further

/-- **A value is retouched by the two walks**, the replacement of its words and the rendering
of its listings, if what replaces a word is what the word is rewritten to. -/
theorem retouched_of_walks (replacements : Replacements) (value : Json) : ∀ position number,
    (∀ index text inline, (wordsOf value)[index]? = some text →
      replacements.get? (position + index) = some inline → rewrites text inline) →
    Retouched rewrites render value
      (renderListings (fun _ placeholder => render placeholder) number
        (replaceFrom replacements position value).1).1 := by
  induction value using Json.induction_on_children with
  | step value ih =>
    intro position number justified
    cases spoken : wordIn? value with
    | some text =>
      rw [replaceFrom_of_word spoken]
      cases replaced : replacements.get? position with
      | none => exact retouched_renderListings render value number
      | some inline =>
        rw [Option.map_some, Option.getD_some, renderListings_inlineNode]
        refine .word spoken (justified 0 text inline ?_ replaced)
        rw [wordsOf_of_word spoken]
        rfl
    | none =>
      cases listed : isPlaceholder value with
      | true =>
        rw [replaceFrom_of_placeholder replacements listed]
        exact retouched_renderListings render value number
      | false =>
        have other := isPlaceholder_replaceFrom replacements spoken listed position
        refine .within ?_ ?_
        · rw [outline_renderListings _ other, outline_replaceFrom spoken]
        · intro index before later found stands
          obtain ⟨further, rendered⟩ := getElem?_children_renderListings _ other number index
          rw [rendered, getElem?_children_replaceFrom spoken, found, Option.map_some,
            Option.map_some] at stands
          obtain rfl := Option.some.inj stands
          split
          next entered =>
            refine ih before (List.mem_of_getElem? found) _ further ?_
            intro offset text inline inside replaced
            rw [Nat.add_assoc] at replaced
            refine justified _ text inline ?_ replaced
            rw [getElem?_wordsOf_of_enters entered found
              (List.getElem?_eq_some_iff.mp inside).1, inside]
          next => exact retouched_renderListings render before further

end Retouched

end Acronyms.Pandoc
