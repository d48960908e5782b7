import Acronyms.Glossary
import Acronyms.LoadError
import Acronyms.Text.Blank
import Acronyms.Yaml.Document

/-!
# Definitions in YAML

Definitions are a mapping from identifiers to mappings of fields.  Identifiers, names
of fields and their values are scalars, and count as the text that the scalar has as a
value: `+5` is `5`, and `TRUE` is `true`.

A file of definitions is trimmed of blanks before it is read, and an empty file holds
no definitions.  Whether every identifier and every field is a scalar is checked
before any definition is.
-/

set_option autoImplicit false

namespace Acronyms.Definitions

open Yaml (Value)

def fieldsOf (identifier : String) : Value.Pairs → Except LoadError (List Field)
  | [] => .ok []
  | (name, value) :: rest =>
    match name.scalarText?, value.scalarText? with
    | some name, some value => (fieldsOf identifier rest).map ((name, value) :: ·)
    | _, _ => .error (.fieldNotScalar identifier)

def entryOf (key value : Value) : Except LoadError Entry :=
  match key.scalarText? with
  | none => .error .identifierNotScalar
  | some identifier =>
    match value with
    | .mapping fields => (fieldsOf identifier fields).map fun fields => (identifier, fields)
    | _ => .error (.notMapping identifier)

def entriesOf : Value.Pairs → Except LoadError (List Entry)
  | [] => .ok []
  | (key, value) :: rest => do
    let entry ← entryOf key value
    return entry :: (← entriesOf rest)

def ofPairs (pairs : Value.Pairs) : Except LoadError Glossary :=
  match entriesOf pairs with
  | .error error => .error error
  | .ok entries =>
    match Glossary.ofEntries entries with
    | .ok glossary => .ok glossary
    | .error error => .error (.definition error)

/-- The glossary of a text as it stands. -/
def ofUntrimmedText (text : String) : Except LoadError Glossary :=
  match Yaml.pairsOfText? text with
  | some pairs => ofPairs pairs
  | none => .error .yaml

/-- The glossary of the text of a file. -/
def ofText (text : String) : Except LoadError Glossary :=
  match Text.trimBlanks text.toList with
  | [] => .ok .empty
  | trimmed => ofUntrimmedText (String.ofList trimmed)

variable {m : Type → Type} [Monad m]

/-- The glossary of the file that a path leads to. -/
def load (files : FileAccess m) (path : String) : m (Except LoadError Glossary) := do
  if ← files.doesExist path then
    match ← files.readText path with
    | .ok text => return ofText text
    | .error fault => return .error (.unreadable fault)
  else return .error (.notFound path)

end Acronyms.Definitions
