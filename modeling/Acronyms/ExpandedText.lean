import Acronyms.FrontMatter
import Acronyms.Pandoc.Filter
import Acronyms.TextDocument

/-!
# Expanding a text with front matter

The definitions in front matter are merged into shared ones, which they override, and
the words of the body are expanded.  As in a Pandoc document, the package options may
switch the single-use rule on.  The front matter itself is not part of the outcome.
-/

set_option autoImplicit false

namespace Acronyms

/-- Why a text could not be expanded. -/
inductive TextError where
  /-- Its front matter is faulty. -/
  | frontMatter (error : LoadError)
  /-- Its words could not be expanded. -/
  | expansion (error : ExpansionError)
  deriving DecidableEq, Repr

/-- An expanded text. -/
structure ExpandedText where
  document : TextDocument
  glossary : Glossary
  registry : UsageRegistry

namespace ExpandedText

def ofText (mode : OutputMode) (policy : Policy) (shared : Glossary) (text : String) :
    Except TextError ExpandedText :=
  let front := FrontMatter.split text
  match front.glossary with
  | .error error => .error (.frontMatter error)
  | .ok own =>
    let glossary := shared.merge own
    match Expansion.expand glossary.table mode (policy.withOptions glossary.options)
        (TextDocument.ofText front.body) with
    | .error error => .error (.expansion error)
    | .ok (document, registry) => .ok { document, glossary, registry }

end ExpandedText

end Acronyms
