import Acronyms.SortedMap

/-!
# Documents and planned replacements

All that an expansion needs of a document is the list of its words in reading
order and a way to replace words by position.  Positions count the words from
zero.  Replacements are collected for a whole document first and applied in one
go, so a document is never left half expanded.
-/

set_option autoImplicit false

namespace Acronyms

/-- What takes the place of a word. -/
inductive Inline where
  /-- Literal text. -/
  | text (content : String)
  /-- Raw markup for one output format. -/
  | raw (format content : String)
  deriving DecidableEq, Repr

namespace Inline

def content : Inline → String
  | text content => content
  | raw _ content => content

end Inline

/-- Planned replacements, by the position of the word. -/
abbrev Replacements := SortedMap Nat Inline

namespace Replacements

/-- Remove the replacement of a position and hand it over. -/
def take (replacements : Replacements) (position : Nat) : Option Inline × Replacements :=
  (replacements.get? position, replacements.erase position)

end Replacements

/-- A document whose words can be read and replaced by position. -/
class Document (δ : Type) where
  tokens : δ → List String
  /-- The document with the words replaced for which a replacement is planned. -/
  apply : Replacements → δ → δ

end Acronyms
