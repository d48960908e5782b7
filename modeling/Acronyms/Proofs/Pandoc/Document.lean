import Acronyms.Proofs.Pandoc.Replacement
import Acronyms.Proofs.Pandoc.Root

/-!
# Replacing the words of a document

The main statement is `apply_replacesExactly`: **applying replacements to a document
changes the words that the listing walk numbered, and nothing else**.  The positions of
the words are the numbers of the places in reading order, one place a position; the node
of a word becomes the node of its replacement; and whatever is neither such a word nor
inside one stays (`ReplacesExactly`).  Replacements of positions beyond the last word do
nothing, and a document without replacements is left alone.
-/

set_option autoImplicit false

namespace Acronyms.PandocDocument

open Pandoc

/-- The blocks of a document as one value. -/
def tree (document : PandocDocument) : Json := .array document.blocks

/-- What the replacements make of a document, and what they leave alone. -/
structure ReplacesExactly (replacements : Replacements) (document after : PandocDocument) :
    Prop where
  /-- Each word gives way to its stand-ins. -/
  words : after.words =
    (document.words.mapIdx fun position word => standIns replacements position word).flatten
  /-- The word of a number is the word at that position, and its node becomes the node of
  the replacement of the position, if there is one. -/
  numbered : ∀ path number, wordNumber? document.tree path = some number →
    ∃ inside text, document.tree.follow? path = some inside ∧ wordIn? inside = some text ∧
      document.words[number]? = some text ∧
      after.tree.follow? path =
        some (((replacements.get? number).map inlineNode).getD inside)
  /-- A place keeps its outline when no word at it or above it is replaced. -/
  outline : ∀ path, Spared replacements 0 document.tree path →
    (after.tree.follow? path).map Json.outline = (document.tree.follow? path).map Json.outline
  /-- A place stays as a whole when no word at it, above it or below it is replaced. -/
  unchanged : ∀ path, Spared replacements 0 document.tree path →
    (∀ below number, path <+: below → wordNumber? document.tree below = some number →
      replacements.get? number = none) →
    after.tree.follow? path = document.tree.follow? path
  /-- A closed node and the placeholder of the listing stay as a whole. -/
  closed : ∀ path members, Spared replacements 0 document.tree path →
    document.tree.follow? path = some (.object members) → kindOf members = .closed →
    after.tree.follow? path = some (.object members)
  /-- Any other node with a type keeps all of its members but the content. -/
  element : ∀ path members, Spared replacements 0 document.tree path →
    document.tree.follow? path = some (.object members) → kindOf members = .element →
    ∃ others, after.tree.follow? path = some (.object others) ∧ kindOf others = .element ∧
      others.map Prod.fst = members.map Prod.fst ∧
      ∀ name, name ≠ "c" → others.lookup name = members.lookup name
  /-- The document keeps all of its members but the blocks. -/
  members : ∀ name, after.toMembers.lookup name =
    if name = "blocks" then some after.tree else document.toMembers.lookup name

theorem tree_apply (replacements : Replacements) (document : PandocDocument) :
    (Document.apply replacements document).tree =
      (replaceFrom replacements 0 document.tree).1 := rfl

/-- The members of a document other than its blocks do not depend on them. -/
theorem lookup_toMembers (document : PandocDocument) (blocks : List Json) (name : String) :
    ({ document with blocks } : PandocDocument).toMembers.lookup name =
      if name = "blocks" then some (.array blocks) else document.toMembers.lookup name := by
  rw [lookup_toMembers_eq, lookup_toMembers_eq]
  split <;> rfl

theorem existsUnique_wordNumber? (document : PandocDocument) {number : Nat}
    (bound : number < document.words.length) :
    ∃! path, wordNumber? document.tree path = some number := by
  obtain ⟨path, numbered⟩ := exists_wordNumber? document.tree number bound
  exact ⟨path, numbered, fun other again => path_unique again numbered⟩

/-- Replacements that agree on the positions of the words make the same document. -/
theorem apply_congr {replacements others : Replacements} (document : PandocDocument)
    (agree : ∀ number < document.words.length,
      others.get? number = replacements.get? number) :
    Document.apply others document = Document.apply replacements document := by
  have same : (replaceFrom others 0 document.tree).1 =
      (replaceFrom replacements 0 document.tree).1 := by
    refine replaceFrom_congr others document.tree 0 fun number bound => ?_
    rw [Nat.zero_add]
    exact agree number bound
  exact congrArg (fun blocks => { document with blocks }) (Json.array.inj same)

theorem apply_empty (document : PandocDocument) : Document.apply .empty document = document :=
  congrArg (fun blocks => { document with blocks })
    (Json.array.inj (replaceFrom_empty document.tree 0))

theorem words_apply (replacements : Replacements) (document : PandocDocument) :
    (Document.apply replacements document).words =
      (document.words.mapIdx fun position word => standIns replacements position word).flatten := by
  refine (wordsOf_replaceFrom document.tree 0).trans ?_
  unfold substituted
  simp only [Nat.zero_add]
  rfl

/-- **Applying replacements changes the words that the listing walk numbered, and nothing
else.**  Every position is the number of exactly one word, in reading order. -/
theorem apply_replacesExactly (document : PandocDocument) (replacements : Replacements) :
    (∀ number < document.words.length, ∃! path, wordNumber? document.tree path = some number) ∧
    (∀ path later number other, path < later → wordNumber? document.tree path = some number →
      wordNumber? document.tree later = some other → number < other) ∧
    ReplacesExactly replacements document (Document.apply replacements document) ∧
    (∀ others : Replacements,
      (∀ number < document.words.length, others.get? number = replacements.get? number) →
        Document.apply others document = Document.apply replacements document) ∧
    Document.apply .empty document = document := by
  refine ⟨fun number bound => existsUnique_wordNumber? document bound,
    fun path later number other order first second => wordNumber?_lt_of_lt order first second,
    ?_, fun others agree => apply_congr document agree, apply_empty document⟩
  constructor
  case words => exact words_apply replacements document
  case numbered =>
    intro path number numbered
    obtain ⟨inside, text, followed, spoken, position⟩ := text_of_wordNumber? numbered
    refine ⟨inside, text, followed, spoken, position, ?_⟩
    rw [tree_apply, follow?_replaceFrom_of_word numbered followed, Nat.zero_add]
  case outline =>
    intro path spared
    exact outline_follow?_replaceFrom spared
  case unchanged =>
    intro path spared below
    refine follow?_replaceFrom_of_spared spared fun further number isBelow numbered => ?_
    rw [Nat.zero_add]
    exact below further number isBelow numbered
  case closed =>
    intro path members spared followed kind
    exact follow?_replaceFrom_of_closed spared followed kind
  case element =>
    intro path members spared followed kind
    exact follow?_replaceFrom_of_element spared followed kind
  case members =>
    intro name
    exact lookup_toMembers document _ name

end Acronyms.PandocDocument
