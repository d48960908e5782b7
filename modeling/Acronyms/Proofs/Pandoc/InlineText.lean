import Acronyms.Pandoc.Metadata
import Acronyms.Proofs.Pandoc.SpacedWords

/-!
# The text of inlines

Reading the text of inlines drops their formatting.  The text of a list is the texts of its
items one after the other (`plainTextOfItems_append`), values without nodes have none
(`plainText_of_isBare`), and so a node that only formats its content has exactly the text of
this content, whatever attributes and target it carries (`plainText_around`).

A text that is written as inlines is read back as its words with single spaces between them,
and **nothing of it is lost exactly if it had only single spaces**
(`plainText_keepsWords`).
-/

set_option autoImplicit false

namespace Acronyms.Pandoc

/-! ## Lists of inlines -/

/-- Inlines as a metadata value. -/
def metaInlines (inlines : List Json) : Json := node "MetaInlines" (.array inlines)

theorem metadataText?_metaInlines (inlines : List Json) :
    metadataText? (metaInlines inlines) = some (plainText (.array inlines)) := rfl

theorem plainText_array (inlines : List Json) :
    plainText (.array inlines) = plainTextOfItems inlines := by
  rw [plainText]

/-- **The text of joined inlines is their texts, joined.** -/
theorem plainTextOfItems_append (front back : List Json) :
    plainTextOfItems (front ++ back) = plainTextOfItems front ++ plainTextOfItems back := by
  induction front with
  | nil => rw [List.nil_append, plainTextOfItems, String.empty_append]
  | cons first rest ih =>
    rw [List.cons_append, plainTextOfItems, plainTextOfItems, ih, String.append_assoc]

/-! ## Formatting -/

/-- A value in which nothing is an object. -/
inductive IsBare : Json → Prop where
  | null : IsBare .null
  | bool (value : Bool) : IsBare (.bool value)
  | integer (value : Int) : IsBare (.integer value)
  | double (value : Float) : IsBare (.double value)
  | string (value : String) : IsBare (.string value)
  | array {items : List Json} : (∀ item ∈ items, IsBare item) → IsBare (.array items)

/-- Attributes and targets are bare values: strings, and arrays of such values. -/
structure Bare where
  value : Json
  isBare : IsBare value

/-- The attributes of a node: its identifier, its classes, and pairs of a name and a value. -/
def attributes (identifier : String) (classes : List String) (pairs : List (String × String)) :
    Bare where
  value := .array [.string identifier, .array (classes.map .string),
    .array (pairs.map fun pair => .array [.string pair.1, .string pair.2])]
  isBare := by
    have strings : ∀ texts : List String, IsBare (.array (texts.map .string)) := by
      refine fun texts => .array fun item member => ?_
      obtain ⟨text, _, rfl⟩ := List.mem_map.mp member
      exact .string text
    have named : IsBare (.array (pairs.map fun pair => .array [.string pair.1, .string pair.2])) := by
      refine .array fun item member => ?_
      obtain ⟨pair, _, rfl⟩ := List.mem_map.mp member
      exact strings [pair.1, pair.2]
    refine .array fun item member => ?_
    simp only [List.mem_cons, List.not_mem_nil, or_false] at member
    rcases member with rfl | rfl | rfl
    · exact .string identifier
    · exact strings classes
    · exact named

/-- The target of a link: its address and its title. -/
def target (address title : String) : Bare where
  value := .array [.string address, .string title]
  isBare := by
    refine .array fun item member => ?_
    rcases List.mem_pair.mp member with rfl | rfl
    · exact .string address
    · exact .string title

/-- A node around inlines that changes how they look or what they are for. -/
inductive Wrapping where
  | emph
  | strong
  | span (attributes : Bare)
  | link (attributes target : Bare)

/-- The node of a wrapping with its inlines. -/
def Wrapping.around (inlines : List Json) : Wrapping → Json
  | emph => node "Emph" (.array inlines)
  | strong => node "Strong" (.array inlines)
  | span attributes => node "Span" (.array [attributes.value, .array inlines])
  | link attributes target =>
    node "Link" (.array [attributes.value, .array inlines, target.value])

/-- Where there is no node there is no text. -/
theorem plainText_of_isBare {value : Json} (bare : IsBare value) : plainText value = "" := by
  induction bare with
  | @array items bare silent =>
    rw [plainText_array]
    clear bare
    induction items with
    | nil => rfl
    | cons first rest ih =>
      obtain ⟨own, others⟩ := List.forall_mem_cons.mp silent
      rw [plainTextOfItems, own, ih others, String.empty_append]
  | _ => rfl

/-- A node whose text is that of its content has the text of its content. -/
theorem plainText_node {type : String} {content : Json}
    (rule : textRule [("c", content), ("t", .string type)] = .inner) :
    plainText (node type content) = plainText content := by
  rw [node, plainText, rule]
  rfl

/-- **A wrapping has the text of the inlines in it.** -/
theorem plainText_around (wrapping : Wrapping) (inlines : List Json) :
    plainText (wrapping.around inlines) = plainText (.array inlines) := by
  cases wrapping with
  | emph => exact plainText_node rfl
  | strong => exact plainText_node rfl
  | span attributes =>
    rw [Wrapping.around, plainText_node rfl, plainText_array]
    simp only [plainTextOfItems, plainText_of_isBare attributes.isBare, String.empty_append,
      String.append_empty]
  | link attributes target =>
    rw [Wrapping.around, plainText_node rfl, plainText_array]
    simp only [plainTextOfItems, plainText_of_isBare attributes.isBare,
      plainText_of_isBare target.isBare, String.empty_append, String.append_empty]

/-! ## Words and spaces -/

theorem plainText_word (written : String) : plainText (word written) = written := by
  rw [word, node, plainText]
  rfl

theorem plainText_space : plainText (bareNode "Space") = " " := by
  rw [bareNode, plainText]
  rfl

theorem plainTextOfItems_intersperse (words : List String) :
    plainTextOfItems ((words.map word).intersperse (bareNode "Space")) = " ".intercalate words := by
  induction words with
  | nil => rfl
  | cons first rest ih =>
    cases rest with
    | nil =>
      rw [String.intercalate_singleton, List.map_singleton, List.intersperse_singleton,
        plainTextOfItems, plainText_word]
      exact String.append_empty
    | cons second rest =>
      rw [String.intercalate_cons_cons, ← ih, List.map_cons, List.map_cons,
        List.intersperse_cons_cons, plainTextOfItems, plainTextOfItems, plainText_word,
        plainText_space, ← List.map_cons, String.append_assoc]

/-- The text of the inlines of a text is its words with single spaces between them. -/
theorem metadataText?_textInlines (text : String) :
    metadataText? (metaInlines (textInlines text)) = some (" ".intercalate (spacedWords text)) := by
  rw [metadataText?_metaInlines, plainText_array, textInlines, plainTextOfItems_intersperse]

/-- No word among the inlines of a text is empty. -/
theorem wordText?_textInlines {text : String} {members : Json.Members}
    (member : .object members ∈ textInlines text) : wordText? members ≠ some "" := by
  rcases mem_textInlines member with space | ⟨written, known, isWord⟩
  · obtain rfl := Json.object.inj space
    exact nofun
  · obtain rfl := Json.object.inj isWord
    have shown : wordText? [("c", .string written), ("t", .string "Str")] = some written := rfl
    rw [shown]
    exact fun empty => ne_empty_of_mem_spacedWords known (Option.some.inj empty)

/-- The inlines of a text, told from the text. -/
structure KeepsWords (text : String) (inlines : List Json) : Prop where
  separated : SinglySeparated (bareNode "Space") inlines
  nonempty : ∀ members, .object members ∈ inlines → wordText? members ≠ some ""
  words : metadataText? (metaInlines inlines) = some (" ".intercalate
    (((text.toList.splitOn ' ').filter fun part => part ≠ []).map String.ofList))
  lossless_iff : metadataText? (metaInlines inlines) = some text ↔
    SinglySeparated ' ' text.toList

/-- **Inlines keep the words of a text.**  They are singly separated by their spaces and have
no empty words.  Read back they give the non-empty parts between the spaces of the text with
single spaces between them, which is the text itself exactly if it was singly separated.
Reading takes joined inlines to joined texts, and drops emphasis, spans and links around any
part of them. -/
theorem plainText_keepsWords :
    (∀ text, KeepsWords text (textInlines text)) ∧
    (∀ inlines, metadataText? (metaInlines inlines) = some (plainText (.array inlines))) ∧
    (∀ front back : List Json,
      plainText (.array (front ++ back)) = plainText (.array front) ++ plainText (.array back)) ∧
    ∀ (wrapping : Wrapping) (front inside back : List Json),
      plainText (.array (front ++ wrapping.around inside :: back)) =
        plainText (.array (front ++ inside ++ back)) := by
  refine ⟨fun text => ?_, metadataText?_metaInlines, fun front back => ?_,
    fun wrapping front inside back => ?_⟩
  · refine ⟨singlySeparated_textInlines text, fun _ => wordText?_textInlines, ?_, ?_⟩
    · rw [metadataText?_textInlines, ← map_toList_spacedWords, List.map_map]
      simp
    · rw [metadataText?_textInlines, Option.some.injEq]
      exact intercalate_spacedWords_eq_iff text
  · simp only [plainText_array, plainTextOfItems_append]
  · simp only [plainText_array, plainTextOfItems_append, plainTextOfItems, plainText_around,
      String.append_assoc]

example :
    plainText (Wrapping.around [word "machine", bareNode "Space", word "learning"]
      (.link (attributes "ml" ["term"] [("lang", "en")]) (target "http://x" "title"))) =
        "machine learning" := by
  decide

end Acronyms.Pandoc
