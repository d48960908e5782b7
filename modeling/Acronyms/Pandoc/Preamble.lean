import Acronyms.Glossary
import Acronyms.Pandoc.Document

/-!
# The preamble of a typeset document

When a document is typeset, the definitions in effect go into its preamble: the
typesetting package is loaded, its options are set, and every acronym is declared.
These lines are appended to the `header-includes` of the metadata, which are made a
list if they are none.  Nothing else in the document changes.
-/

set_option autoImplicit false

namespace Acronyms

/-- The declaration of an acronym, one option a line. -/
def Acronym.declaration (acronym : Acronym) (identifier : String) : String :=
  let options := acronym.declarationOptions.map fun field =>
    "  " ++ field.1 ++ " = \x7b" ++ field.2 ++ "\x7d"
  "\\DeclareAcronym\x7b" ++ identifier ++ "\x7d\x7b\n" ++ ",\n".intercalate options ++ "\n\x7d"

/-- The lines of the preamble: the package, its options and the declarations. -/
def Glossary.preambleLines (glossary : Glossary) : List String :=
  "\\usepackage\x7bacro\x7d" :: glossary.options.setupLine?.toList ++
    glossary.table.toList.map fun entry => entry.2.declaration entry.1

namespace Pandoc

/-- The name of the preamble in the metadata. -/
def headerIncludesName : String := "header-includes"

/-- The includes that a metadata value stands for: the items of a list, and any other
value as the only include. -/
def existingIncludes : Option Json → List Json
  | none => []
  | some value =>
    if (value.member? "t").bind Json.asString? = some "MetaList" then
      ((value.member? "c").bind Json.asArray?).getD []
    else [value]

def includeLine (line : String) : Json :=
  node "MetaInlines" (.array [rawNode "RawInline" "latex" line])

def appendIncludes (lines : List String) (metadata : Json.Members) : Json.Members :=
  let includes := existingIncludes (metadata.lookup headerIncludesName) ++ lines.map includeLine
  insertEntry headerIncludesName (node "MetaList" (.array includes)) metadata

end Pandoc

/-- A document with the preamble of a glossary. -/
def PandocDocument.addPreamble (glossary : Glossary) (document : PandocDocument) :
    PandocDocument :=
  { document with
    metadata := some (Pandoc.appendIncludes glossary.preambleLines (document.metadata.getD [])) }

end Acronyms
