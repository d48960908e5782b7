import Acronyms.Proofs.Expansion.Independence
import Acronyms.Proofs.Marker.Canonical

/-!
# LaTeX output, word by word

In LaTeX output a marker becomes a macro call, which repeats the wishes of the marker and names
its identifier, with the trailing text of the marker behind it (`macroCall`).  An expansion
consults the registry and the definitions for every marker, but nothing that it finds there
shows: it succeeds exactly when no word is malformed and every marker is defined, and each word
then becomes a function of that word alone.

A macro call loses nothing (`macroCall_injective`).  Up to the brace its letters are those of a
canonical suffix, which can be read in one way; the identifier holds no closing brace, so it
ends at the first one, and whatever follows is trailing text.
-/

set_option autoImplicit false

namespace Acronyms

/-! ## Macro calls -/

/-- The macro call of a marker, with the trailing text behind it: a backslash, the name with the
letters of the wishes, and the identifier in braces. -/
def macroCall (marker : Marker) : String :=
  "\\" ++ (if marker.capitalize then "A" else "a") ++ "c" ++ marker.form.suffix ++
    (if marker.plural then "p" else "") ++ (if marker.counted then "" else "*") ++
    "\x7b" ++ marker.identifier ++ "\x7d" ++ marker.trailing

namespace Marker

/-- The letters of the wishes of a marker. -/
def suffixLetters (marker : Marker) : List Char :=
  marker.form.letters ++ (if marker.plural then ['p'] else []) ++
    (if marker.counted then [] else ['*'])

theorem suffixText_suffixLetters (marker : Marker) :
    SuffixText marker.suffixLetters marker.form marker.plural marker.counted :=
  suffixText_canonical marker.form marker.plural marker.counted

theorem toList_macroCall (marker : Marker) :
    (macroCall marker).toList =
      '\\' :: (if marker.capitalize then 'A' else 'a') :: 'c' ::
        (marker.suffixLetters ++ '{' :: (marker.identifier.toList ++ '}' ::
          marker.trailing.toList)) := by
  unfold macroCall suffixLetters Form.suffix
  cases marker.capitalize <;> cases marker.plural <;> cases marker.counted <;> simp

/-- The rendering of a marker and its trailing text are its macro call. -/
theorem render_append_trailing (marker : Marker) :
    Latex.render marker ++ marker.trailing = macroCall marker := by
  rw [← String.toList_inj, toList_macroCall, String.toList_append, Latex.render,
    String.toList_ofList]
  unfold Latex.macroName Latex.argument suffixLetters
  cases marker.capitalize <;> simp

/-! ## What a macro call says -/

/-- A suffix can be read in one way. -/
theorem SuffixText.unique {text : List Char} {form asked : Form}
    {plural counted inPlural counts : Bool} (first : SuffixText text form plural counted)
    (second : SuffixText text asked inPlural counts) :
    form = asked ∧ plural = inPlural ∧ counted = counts := by
  have read : suffix? true (text ++ [':']) = some ⟨true, form, plural, counted, []⟩ :=
    suffix?_eq_some_iff.mpr ⟨rfl, text, first, rfl⟩
  have again : suffix? true (text ++ [':']) = some ⟨true, asked, inPlural, counts, []⟩ :=
    suffix?_eq_some_iff.mpr ⟨rfl, text, second, rfl⟩
  rw [read] at again
  cases again
  exact ⟨rfl, rfl, rfl⟩

theorem brace_notMem_suffixLetters (marker : Marker) : '{' ∉ marker.suffixLetters := by
  unfold suffixLetters
  cases marker.form <;> cases marker.plural <;> cases marker.counted <;> decide

/-- An identifier holds no closing brace. -/
theorem WellFormed.brace_notMem {marker : Marker} (wellFormed : marker.WellFormed) :
    '}' ∉ marker.identifier.toList := by
  intro member
  have inside := wellFormed.2.1 '}' member
  revert inside
  decide +kernel

/-- **A well-formed marker is determined by its macro call.** -/
theorem macroCall_injective {first second : Marker} (wellFormed : first.WellFormed)
    (other : second.WellFormed) (same : macroCall first = macroCall second) : first = second := by
  rw [← String.toList_inj, toList_macroCall, toList_macroCall] at same
  simp only [List.cons.injEq, true_and] at same
  obtain ⟨capital, rest⟩ := same
  obtain ⟨suffix, rest⟩ := cut_unique (brace_notMem_suffixLetters first)
    (brace_notMem_suffixLetters second) rest
  obtain ⟨identifier, trailing⟩ := cut_unique wellFormed.brace_notMem other.brace_notMem rest
  obtain ⟨form, plural, counted⟩ :=
    (suffixText_suffixLetters first).unique (suffix ▸ suffixText_suffixLetters second)
  have capitalize : first.capitalize = second.capitalize := by
    revert capital
    cases first.capitalize <;> cases second.capitalize <;> decide
  cases first
  cases second
  simp_all [String.toList_inj]

end Marker

namespace Expansion

/-! ## The words -/

/-- What LaTeX output puts in the place of the word at a position. -/
def macroCallAt (tokens : List String) (position : Nat) : Option Inline :=
  tokens[position]?.bind fun token =>
    (Marker.ofToken? token).map fun marker => .raw "latex" (macroCall marker)

/-- Every marker among some words is defined. -/
def AllDefined (table : Table) (tokens : List String) : Prop :=
  ∀ token ∈ tokens, ∀ marker, Marker.read? token = .ok (some marker) →
    ∃ acronym, table.get? marker.identifier = some acronym

section Documents

variable {δ : Type} [Document δ] {table : Table} {policy : Policy} {registry : UsageRegistry}
variable {document : δ}

theorem allDefined_iff {tokens : List String} :
    AllDefined table tokens ↔ ∀ position error, ¬ UndefinedAt table tokens position error := by
  constructor
  · rintro defined position error ⟨token, marker, stands, read, missing, _⟩
    obtain ⟨acronym, found⟩ := defined token (List.mem_of_getElem? stands) marker read
    rw [missing] at found
    cases found
  · intro defined token member marker read
    obtain ⟨position, stands⟩ := List.getElem?_of_mem member
    refine Option.ne_none_iff_exists'.mp fun missing => ?_
    exact defined position _ ⟨token, marker, stands, read, missing, rfl⟩

/-- **LaTeX output exists exactly when no word is malformed and every marker is defined.** -/
theorem exists_expandFrom_latex_iff :
    (∃ result, expandFrom table .latex policy registry document = .ok result) ↔
      AllReadable (Document.tokens document) ∧ AllDefined table (Document.tokens document) := by
  rw [exists_expandFrom_iff, allDefined_iff]
  simp only [refusedAt_latex_iff]

/-- **In LaTeX output every marker becomes its macro call.** -/
theorem inlineAt_latex {tokens : List String}
    (unrefused : NoneRefused table .latex policy registry tokens) (position : Nat) :
    inlineAt table .latex policy registry tokens position = macroCallAt tokens position := by
  unfold inlineAt macroCallAt
  cases stands : tokens[position]? with
  | none => simp [outcomeAt, stands]
  | some token =>
    cases denoted : Marker.ofToken? token with
    | none => simp [outcomeAt, stands, denoted]
    | some marker =>
      have outcome := outcomeAt_of_marker table .latex policy (references tokens) registry stands
        (Marker.ofToken?_eq_some_iff.mp denoted)
      cases becomes : outcomeIn table .latex policy
          (variantAt policy (references tokens) registry tokens position marker) token marker with
      | error error =>
        rw [becomes] at outcome
        exact absurd outcome (unrefused position error)
      | ok inline =>
        obtain ⟨acronym, output, _, rendered, rfl⟩ := outcomeIn_eq_ok_iff.mp becomes
        cases rendered
        rw [outcome, becomes, Marker.render_append_trailing, Option.bind_some, Option.bind_some,
          denoted]
        rfl

theorem expanded_latex {expanded : δ} {after : UsageRegistry}
    (succeeds : expandFrom table .latex policy registry document = .ok (expanded, after)) :
    ∃ replacements : Replacements, expanded = Document.apply replacements document ∧
      ∀ position, replacements.get? position = macroCallAt (Document.tokens document) position := by
  obtain ⟨replacements, planned, applied⟩ := expandFrom_eq_ok_iff.mp succeeds
  obtain ⟨⟨_, unrefused⟩, placed, _⟩ := plan_eq_ok_iff.mp planned
  exact ⟨replacements, applied, fun position => by rw [placed, inlineAt_latex unrefused]⟩

end Documents

/-- **LaTeX output is wordwise, does not depend on the state, and loses nothing.**  It exists
exactly when no word is malformed and every marker is defined.  Ordinary words then stay, and
every marker becomes its macro call.  So two expansions of a document, with any definitions,
policies and registries, give the same document; and two markers with the same macro call are
the same. -/
theorem expandFrom_latex_wordwise {δ : Type} [Document δ] (document : δ) :
    (∀ table policy registry,
      (∃ result, expandFrom table .latex policy registry document = .ok result) ↔
        AllReadable (Document.tokens document) ∧ AllDefined table (Document.tokens document)) ∧
    (∀ table policy registry expanded after,
      expandFrom table .latex policy registry document = .ok (expanded, after) →
      ∃ replacements : Replacements, expanded = Document.apply replacements document ∧
        ∀ position,
          replacements.get? position = macroCallAt (Document.tokens document) position) ∧
    (∀ table other policy another registry started expanded result after final,
      expandFrom table .latex policy registry document = .ok (expanded, after) →
      expandFrom other .latex another started document = .ok (result, final) →
      result = expanded) ∧
    ∀ token word marker another,
      Marker.read? token = .ok (some marker) → Marker.read? word = .ok (some another) →
      macroCall marker = macroCall another → marker = another := by
  refine ⟨fun table policy registry => exists_expandFrom_latex_iff,
    fun table policy registry expanded after => expanded_latex, ?same, ?injective⟩
  case same =>
    intro table other policy another registry started expanded result after final first second
    obtain ⟨replacements, rfl, placed⟩ := expanded_latex first
    obtain ⟨others, rfl, placedOther⟩ := expanded_latex second
    have same : others = replacements := SortedMap.ext_get? fun position => by
      rw [placedOther, placed]
    rw [same]
  case injective =>
    intro token word marker another read readOther
    exact Marker.macroCall_injective (Marker.wellFormed_of_read? read)
      (Marker.wellFormed_of_read? readOther)

end Expansion

end Acronyms
