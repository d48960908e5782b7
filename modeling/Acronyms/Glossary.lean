import Acronyms.Acronym
import Acronyms.PackageOptions

/-!
# Glossaries

A glossary is a table of acronym definitions together with package options.
Every source of definitions hands over a list of entries, an identifier with its
fields; the reserved identifier `options` names the package options instead of a
definition.  Glossaries from several sources are merged, and the later one wins.
-/

set_option autoImplicit false

namespace Acronyms

/-- An identifier and its fields, as a source of definitions gives them. -/
abbrev Entry := String × List Field

def optionsIdentifier : String := "options"

/-- Acronym definitions and package options. -/
structure Glossary where
  table : Table := ∅
  options : PackageOptions := ∅
  deriving DecidableEq, Inhabited

namespace Glossary

def empty : Glossary := {}

instance : EmptyCollection Glossary := ⟨empty⟩

/-- Enter one entry: package options are set, a definition replaces an earlier one
of its identifier. -/
def addEntry (glossary : Glossary) (entry : Entry) : Except DefinitionError Glossary :=
  if entry.1 = optionsIdentifier then
    .ok { glossary with options := glossary.options.merge (.ofList entry.2) }
  else
    match Acronym.ofFields entry.1 entry.2 with
    | .ok acronym => .ok { glossary with table := glossary.table.insert entry.1 acronym }
    | .error error => .error error

/-- Enter entries one after the other, up to the first incomplete definition. -/
def addEntries (glossary : Glossary) : List Entry → Except DefinitionError Glossary
  | [] => .ok glossary
  | entry :: rest =>
    match glossary.addEntry entry with
    | .ok extended => extended.addEntries rest
    | .error error => .error error

def ofEntries (entries : List Entry) : Except DefinitionError Glossary :=
  empty.addEntries entries

/-- Two glossaries joined; definitions and options of the second win. -/
def merge (glossary other : Glossary) : Glossary where
  table := glossary.table.union other.table
  options := glossary.options.merge other.options

end Glossary

end Acronyms
