import Acronyms.ExpandedText
import Acronyms.Proofs.Expansion.Reference
import Acronyms.Proofs.Glossary.Merge
import Acronyms.Proofs.Pandoc.Document
import Acronyms.Proofs.Pandoc.ListingWalk
import Acronyms.Proofs.TextDocument.Replacement

/-!
# Texts and Pandoc documents are expanded alike

A text and a Pandoc document find their own definitions in different places, number their
words in different ways, and put replacements of different shapes in their places.  Apart
from that they are expanded alike.  Both merge the definitions of their own into the shared
ones, which they override (`Overrides`), and let the package options switch the single-use
rule on.  Both plan the same replacements, since a plan looks at nothing but the words.
What the plan gives for a word is read off the words of the text, and in a Pandoc document
off the place of the word, which the preamble and the listings leave alone
(`showsWords_finish`).

The main statement is `run_expandedAlike_ofText`: **a Pandoc document and a text with the same
definitions and the same words are refused with the same error, or end with the same
definitions, the same registry and the same content for every word**.  There is one
exception.  A Pandoc document for which nothing is defined is not read at all.
-/

set_option autoImplicit false

namespace Acronyms

/-! ## The definitions in effect -/

/-- Some definitions and options are joined from two glossaries, of which the first one
wins. -/
structure Glossary.Overrides (own shared joint : Glossary) : Prop where
  definitions : ∀ identifier, joint.table.get? identifier =
    (own.table.get? identifier).or (shared.table.get? identifier)
  options : ∀ key, joint.options.get? key = (own.options.get? key).or (shared.options.get? key)

theorem Glossary.overrides_merge (shared own : Glossary) :
    Overrides own shared (shared.merge own) where
  definitions identifier := get?_table_merge shared own identifier
  options key := get?_options_merge shared own key

theorem PandocFilter.effective?_eq_some {filter : PandocFilter} {own : Option Glossary}
    (defined : own.isSome = true ∨ filter.shared.table.isEmpty = false) :
    filter.effective? own = some (filter.shared.merge (own.getD .empty)) := by
  cases own with
  | some own => rfl
  | none =>
    -- A merge with nothing keeps the shared definitions as they stand.
    have shared : filter.shared.table.isEmpty = false := defined.resolve_left (by simp)
    rw [effective?, shared, Option.getD_none, Glossary.merge_empty]
    rfl

/-! ## The contents of the words -/

/-- Every word of a document has made room for its part of a list of contents: each number
of a word is that of one content, and the place of the word holds it, as the text of a
string or as raw markup. -/
structure PandocDocument.ShowsWords (document after : PandocDocument) (contents : List String) :
    Prop where
  length : contents.length = document.words.length
  places : ∀ number < document.words.length, ∃ path node content,
    Pandoc.wordNumber? document.tree path = some number ∧
      after.tree.follow? path = some node ∧
      Pandoc.inlineContent? node = some content ∧ contents[number]? = some content

/-- The blocks of a finished document are the expanded ones with the listings rendered. -/
theorem PandocFilter.tree_finish (filter : PandocFilter) (glossary : Glossary)
    (document : PandocDocument) (registry : UsageRegistry) :
    (filter.finish glossary document registry).document.tree =
      (Pandoc.renderListings (fun _ placeholder =>
        filter.listingBlock glossary.table registry placeholder) 0 document.tree).1 := by
  unfold PandocFilter.finish
  cases filter.mode with
  | plain => rfl
  | latex => rfl

/-- **The words of a finished document have become the contents of their replacements.** -/
theorem PandocFilter.showsWords_finish (filter : PandocFilter) (glossary : Glossary)
    (registry : UsageRegistry) (replacements : Replacements) (document : PandocDocument) :
    document.ShowsWords
      (filter.finish glossary (Document.apply replacements document) registry).document
      (document.words.mapIdx replacements.contentOf) := by
  constructor
  case length => rw [List.length_mapIdx]
  case places =>
    intro number bound
    obtain ⟨path, numbered, _⟩ := document.existsUnique_wordNumber? bound
    obtain ⟨inside, text, followed, spoken, position⟩ := Pandoc.text_of_wordNumber? numbered
    obtain ⟨node, stands, content⟩ :=
      Pandoc.inlineContent?_of_word (fun _ placeholder =>
        filter.listingBlock glossary.table registry placeholder) replacements numbered followed
        spoken 0 0
    rw [Nat.zero_add] at content
    refine ⟨path, node, replacements.contentOf number text, numbered, ?_, content, ?_⟩
    · rw [filter.tree_finish, PandocDocument.tree_apply, stands]
    · rw [List.getElem?_mapIdx]
      exact congrArg (Option.map (replacements.contentOf number)) position

/-! ## The two expansions side by side -/

/-- How the expansion of a text and that of a Pandoc document end alike, by the plan for
their words. -/
inductive ExpandedAlike (planned : Except ExpansionError (Replacements × UsageRegistry))
    (glossary : Glossary) (document : PandocDocument) :
    Except TextError ExpandedText → Except PandocError Filtered → Prop where
  /-- Both are refused with the error of the plan. -/
  | refused (error : ExpansionError) : planned = .error error →
      ExpandedAlike planned glossary document (.error (.expansion error))
        (.error (.expansion error))
  /-- Both have the same definitions, the registry of the plan, and for every word the
  content that the plan gives. -/
  | expanded (replacements : Replacements) (text : ExpandedText) (filtered : Filtered) :
      planned = .ok (replacements, text.registry) → filtered.registry = text.registry →
      text.glossary = glossary → filtered.glossary = glossary →
      text.document.words = document.words.mapIdx replacements.contentOf →
      document.ShowsWords filtered.document text.document.words →
      ExpandedAlike planned glossary document (.ok text) (.ok filtered)

/-- Under one glossary in effect for both, a text and a Pandoc document end alike. -/
theorem expandedAlike_of_effective {filter : PandocFilter} {own : Option Glossary}
    {definitions glossary : Glossary} {text : String} {document : PandocDocument}
    (front : (FrontMatter.split text).glossary = .ok definitions)
    (joint : filter.shared.merge definitions = glossary)
    (metadata : document.glossary? = .ok own) (effective : filter.effective? own = some glossary)
    (words : (TextDocument.ofText (FrontMatter.split text).body).words = document.words) :
    ExpandedAlike
      (Expansion.plan glossary.table filter.mode (filter.policy.withOptions glossary.options)
        .empty document.words)
      glossary document (ExpandedText.ofText filter.mode filter.policy filter.shared text)
      (filter.run document) := by
  have textTokens : Document.tokens (TextDocument.ofText (FrontMatter.split text).body) =
      document.words := words
  have documentTokens : Document.tokens document = document.words := rfl
  cases planned : Expansion.plan glossary.table filter.mode
      (filter.policy.withOptions glossary.options) .empty document.words with
  | error error =>
    simp only [ExpandedText.ofText, PandocFilter.run, front, joint, metadata, effective,
      Expansion.expand, Expansion.expandFrom, textTokens, documentTokens, planned]
    exact .refused error rfl
  | ok result =>
    obtain ⟨replacements, registry⟩ := result
    simp only [ExpandedText.ofText, PandocFilter.run, front, joint, metadata, effective,
      Expansion.expand, Expansion.expandFrom, textTokens, documentTokens, planned]
    have contents : (Document.apply replacements
        (TextDocument.ofText (FrontMatter.split text).body)).words =
          document.words.mapIdx replacements.contentOf := by
      rw [TextDocument.words_apply, words]
    refine .expanded replacements _ _ rfl rfl rfl rfl contents ?_
    rw [contents]
    exact filter.showsWords_finish _ registry replacements document

/-- **A text and a Pandoc document with the same definitions and the same words are expanded
alike**, under the same definitions and the same single-use rule.  A Pandoc document for
which nothing is defined passes through unread instead. -/
theorem run_expandedAlike_ofText (filter : PandocFilter) (own : Option Glossary) (text : String)
    (document : PandocDocument)
    (front : (FrontMatter.split text).glossary = .ok (own.getD .empty))
    (metadata : document.glossary? = .ok own)
    (words : (TextDocument.ofText (FrontMatter.split text).body).words = document.words) :
    let glossary := filter.shared.merge (own.getD .empty)
    let policy := filter.policy.withOptions glossary.options
    (own.isSome = true ∨ filter.shared.table.isEmpty = false →
      (own.getD .empty).Overrides filter.shared glossary ∧
      (policy.single = true ↔ filter.policy.single = true ∨ glossary.options.single = true) ∧
      policy.forcedFormsMarkUsed = filter.policy.forcedFormsMarkUsed ∧
      policy.pluralSuffix = filter.policy.pluralSuffix ∧
      ExpandedAlike (Expansion.plan glossary.table filter.mode policy .empty document.words)
        glossary document (ExpandedText.ofText filter.mode filter.policy filter.shared text)
        (filter.run document)) ∧
    (own = none → filter.shared.table.isEmpty = true →
      filter.run document =
        .ok { document, glossary := .empty, registry := .empty, warnings := [] }) := by
  intro glossary policy
  constructor
  case left =>
    intro defined
    have alike := expandedAlike_of_effective front rfl metadata
      (PandocFilter.effective?_eq_some defined) words
    exact ⟨filter.shared.overrides_merge _, Bool.or_eq_true_iff, rfl, rfl, alike⟩
  case right =>
    rintro rfl empty
    simp only [PandocFilter.run, metadata, PandocFilter.effective?, empty, if_true]

/-! ## A worked document

The first acronym is defined twice, and the shared definition gives way; the second one is
shared. -/

/-- Shared definitions. -/
def workedShared : Glossary where
  table := SortedMap.ofList [("ai", { long := "artificial intelligence", short := "AI" }),
    ("ml", { long := "maximum likelihood", short := "ML" })]

/-- The definitions of the document. -/
def workedOwn : Glossary where
  table := SortedMap.ofList [("ml", { long := "machine learning", short := "ML" })]

/-- A text with the definitions in its front matter. -/
def workedFront : String :=
  "---\nacronyms:\n  ml:\n    long: machine learning\n    short: ML\n---\nac:ml acs:ai"

/-- A Pandoc document with the definitions in its metadata and the words of the text. -/
def workedPandoc : PandocDocument where
  blocks := [Pandoc.node "Para" (.array (Pandoc.textInlines "ac:ml acs:ai"))]
  metadata :=
    let field (text : String) : Json := Pandoc.node "MetaInlines" (.array (Pandoc.textInlines text))
    some [("acronyms", Pandoc.node "MetaMap" (.object [("ml", Pandoc.node "MetaMap"
      (.object [("long", field "machine learning"), ("short", field "ML")]))]))]

/-- The words of the worked document become those of the worked text. -/
theorem run_expandedAlike_ofText_workedFront :
    (FrontMatter.split workedFront).glossary = .ok workedOwn ∧
    workedPandoc.glossary? = .ok (some workedOwn) ∧
    (TextDocument.ofText (FrontMatter.split workedFront).body).words = workedPandoc.words ∧
    ∃ filtered, ({ shared := workedShared } : PandocFilter).run workedPandoc = .ok filtered ∧
      filtered.registry = UsageRegistry.empty.run [.record "ml", .record "ai"] ∧
      workedPandoc.ShowsWords filtered.document ["machine learning (ML)", "AI"] := by
  have front : (FrontMatter.split workedFront).glossary = .ok workedOwn :=
    Expansion.eq_ok_of_toOption (by decide +kernel)
  have metadata : workedPandoc.glossary? = .ok (some workedOwn) :=
    Expansion.eq_ok_of_toOption (by decide +kernel)
  have words : (TextDocument.ofText (FrontMatter.split workedFront).body).words =
      workedPandoc.words := by decide +kernel
  have outcome : (ExpandedText.ofText .plain {} workedShared workedFront).toOption.map
      (fun text => (text.document.words, text.registry)) =
        some (["machine learning (ML)", "AI"],
          UsageRegistry.empty.run [.record "ml", .record "ai"]) := by decide +kernel
  obtain ⟨_, _, _, _, alike⟩ := (run_expandedAlike_ofText { shared := workedShared }
    (some workedOwn) workedFront workedPandoc front metadata words).1 (.inl rfl)
  refine ⟨front, metadata, words, ?_⟩
  generalize ExpandedText.ofText .plain {} workedShared workedFront = text at alike outcome
  generalize ({ shared := workedShared } : PandocFilter).run workedPandoc = result at alike
  cases alike with
  | refused error _ => cases outcome
  | expanded _ text filtered _ registries _ _ _ shown =>
    obtain ⟨contents, registry⟩ := Prod.mk.inj (Option.some.inj outcome)
    refine ⟨filtered, rfl, registries.trans registry, ?_⟩
    rw [← contents]
    exact shown

end Acronyms
