import Acronyms.Definitions
import Acronyms.Proofs.Yaml.FramedDocument

/-!
# Trimming definitions

A file of definitions is trimmed before it is read.  **Trimming keeps definitions that stand
behind blank lines and before spaces and line breaks**, as long as no flow collection and no
block scalar begins in them.

Other blanks at the ends of the file may belong to its definitions: the line break that ends a
literal block, and the indentation of a mapping that is indented as a whole.  There trimming
changes what is read.
-/

set_option autoImplicit false

namespace Acronyms.Definitions

/-- The spelled-out form that the text of a file defines for an identifier. -/
def longOf? (outcome : Except LoadError Glossary) (identifier : String) : Option String :=
  outcome.toOption.bind fun glossary => (glossary.table.get? identifier).map Acronym.long

/-! ## Blanks that trimming may take away -/

/-- Definitions behind blank lines and before spaces and line breaks, which begin and end in a
visible character. -/
structure Bordered (lead body tail : List Char) : Prop where
  before : Yaml.BlankLines lead
  behind : Yaml.Spacing tail
  begins : ∃ first, body.head? = some first ∧ Text.isBlank first = false ∧ first ≠ '\ufeff'
  ends : ∃ last, body.getLast? = some last ∧ Text.isBlank last = false

theorem isBlank_of_isSpacing {character : Char} (spacing : Yaml.isSpacing character = true) :
    Text.isBlank character = true :=
  Yaml.of_isSpacing (by decide) spacing

/-- What is no blank of a file is neither a blank nor a line break of YAML. -/
theorem visible_of_isBlank {character : Char} (visible : Text.isBlank character = false) :
    Yaml.isBlank character = false ∧ Yaml.isBreak character = false := by
  have tab : character ≠ '\t' := by rintro rfl; cases visible
  have notSpacing : Yaml.isSpacing character = false := Bool.eq_false_iff.mpr fun spacing => by
    rw [isBlank_of_isSpacing spacing] at visible
    cases visible
  simp only [Yaml.isSpacing, Bool.or_eq_false_iff] at notSpacing
  exact ⟨by simp [Yaml.isBlank, notSpacing.1, tab], notSpacing.2⟩

theorem dropWhile_isBlank_append {blanks rest : List Char} {first : Char}
    (blank : ∀ character ∈ blanks, Text.isBlank character = true)
    (head : rest.head? = some first) (visible : Text.isBlank first = false) :
    (blanks ++ rest).dropWhile Text.isBlank = rest := by
  obtain ⟨more, rfl⟩ := List.head?_eq_some_iff.mp head
  rw [List.dropWhile_append_of_pos blank, List.dropWhile_cons_of_neg (by simp [visible])]

namespace Bordered

variable {lead body tail : List Char} (bordered : Bordered lead body tail)

include bordered

theorem surrounded : Yaml.Surrounded lead body tail where
  before := bordered.before
  behind := bordered.behind
  begins := by
    obtain ⟨first, head, visible, notMark⟩ := bordered.begins
    exact ⟨first, head, (visible_of_isBlank visible).2, notMark⟩
  solid := by
    obtain ⟨last, ends, visible⟩ := bordered.ends
    exact ⟨last, ends, visible_of_isBlank visible⟩

/-- Trimming takes away what surrounds the definitions. -/
theorem trimBlanks_eq : Text.trimBlanks (lead ++ (body ++ tail)) = body := by
  obtain ⟨first, head, firstVisible, _⟩ := bordered.begins
  obtain ⟨last, ends, lastVisible⟩ := bordered.ends
  have before : ∀ character ∈ lead, Text.isBlank character = true := fun character member =>
    isBlank_of_isSpacing (bordered.before.spacing character member)
  have behind : ∀ character ∈ tail.reverse, Text.isBlank character = true :=
    fun character member =>
      isBlank_of_isSpacing (bordered.behind character (List.mem_reverse.mp member))
  have front : (body ++ tail).head? = some first := by
    rw [List.head?_append, head, Option.some_or]
  have back : body.reverse.head? = some last := by
    rw [List.head?_reverse, ends]
  rw [Text.trimBlanks, dropWhile_isBlank_append before front firstVisible, List.reverse_append,
    dropWhile_isBlank_append behind back lastVisible, List.reverse_reverse]

end Bordered

/-- **Trimming keeps definitions that stand between blank lines and spaces**, if no flow
collection and no block scalar begins in them. -/
theorem ofText_eq_ofUntrimmedText {text : String} {lead body tail : List Char}
    (parts : text.toList = lead ++ (body ++ tail)) (bordered : Bordered lead body tail)
    (flat : Yaml.Flat body) : ofText text = ofUntrimmedText text := by
  have whole : text = String.ofList (lead ++ (body ++ tail)) := by
    rw [← parts, String.ofList_toList]
  have same := Yaml.pairsOfText?_surrounded bordered.surrounded flat
  rw [← whole] at same
  rw [ofText, parts, bordered.trimBlanks_eq]
  cases body with
  | nil =>
    obtain ⟨_, head, _⟩ := bordered.begins
    cases head
  | cons first more =>
    dsimp only
    rw [ofUntrimmedText, ofUntrimmedText, same]

/-- Definitions behind a blank line and before spaces and a line feed. -/
def borderedText : String := " \nml:\n  long: machine learning\n  short: ML  \n"

theorem ofText_eq_ofUntrimmedText_borderedText :
    borderedText.toList = [' ', '\n'] ++
      ("ml:\n  long: machine learning\n  short: ML".toList ++ [' ', ' ', '\n']) ∧
    ofText borderedText = ofUntrimmedText borderedText ∧
    longOf? (ofText borderedText) "ml" = some "machine learning" := by
  have parts : borderedText.toList = [' ', '\n'] ++
      ("ml:\n  long: machine learning\n  short: ML".toList ++ [' ', ' ', '\n']) := by
    decide +kernel
  have blankLine : Yaml.BlankLines [' ', '\n'] := by
    refine ⟨List.all_eq_true.mp (by decide), ?_⟩
    rintro last ⟨⟩
    rfl
  have bordered : Bordered [' ', '\n'] "ml:\n  long: machine learning\n  short: ML".toList
      [' ', ' ', '\n'] :=
    ⟨blankLine, List.all_eq_true.mp (by decide), ⟨'m', by decide +kernel⟩, ⟨'L', by decide +kernel⟩⟩
  have flat : Yaml.Flat "ml:\n  long: machine learning\n  short: ML".toList := fun _ member =>
    Bool.eq_false_iff.mpr (List.any_eq_false.mp (by decide +kernel) _ member)
  exact ⟨parts, ofText_eq_ofUntrimmedText parts bordered flat, by decide +kernel⟩

/-! ## Blanks that belong to definitions -/

/-- A definition whose spelled-out form is a literal block at the end of the file. -/
def blockAtEnd : String := "ml:\n  short: ML\n  long: |\n    machine learning\n"

/-- Definitions that are indented as a whole. -/
def indentedRoot : String :=
  "  ml:\n    long: machine learning\n    short: ML\n  ai:\n    long: intelligence\n    short: AI\n"

/-- **Trimming does change definitions.**  A literal block at the end of the file loses its
line break, and definitions that are indented as a whole cannot be read any more. -/
theorem trimming_changes_definitions :
    Text.isAllBlank blockAtEnd = false ∧
    longOf? (ofUntrimmedText blockAtEnd) "ml" = some "machine learning\n" ∧
    longOf? (ofText blockAtEnd) "ml" = some "machine learning" ∧
    Text.isAllBlank indentedRoot = false ∧
    longOf? (ofUntrimmedText indentedRoot) "ml" = some "machine learning" ∧
    (ofText indentedRoot).toOption = none ∧
    ¬∀ text, Text.isAllBlank text = false → ofText text = ofUntrimmedText text := by
  have kept : longOf? (ofUntrimmedText blockAtEnd) "ml" = some "machine learning\n" := by
    decide +kernel
  have lost : longOf? (ofText blockAtEnd) "ml" = some "machine learning" := by decide +kernel
  refine ⟨by decide +kernel, kept, lost, by decide +kernel, by decide +kernel, by decide +kernel,
    fun same => ?_⟩
  rw [same blockAtEnd (by decide +kernel), kept] at lost
  revert lost
  decide

end Acronyms.Definitions
