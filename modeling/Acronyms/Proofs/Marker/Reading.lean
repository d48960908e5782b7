import Acronyms.Proofs.EndRuns
import Acronyms.Proofs.Marker.Grammar

/-!
# The words that denote markers

A word falls into exactly one of four classes.  It denotes a marker (`Denotes`) when it
is a header, a colon, an identifier and trailing text that does not continue the
identifier.  It lacks an identifier (`LacksIdentifier`) when it is a header and a colon
and goes on with no identifier character.  Otherwise it has an invalid suffix when some
other run of letters and stars stands between its tag and a colon that an identifier
character follows (`HasSuffixRun`).  Every other word is ordinary text.

The main statement is `read?_classifies`: **the reader of markers answers each class in
its own way**, and a word denotes at most one marker, in one way.
-/

set_option autoImplicit false

namespace Acronyms.Marker

/-! ## The classes of words -/

/-- A word is a header text, a colon, the identifier of a well-formed marker and its
trailing text; the marker is capitalized exactly when the word starts with `A`. -/
structure Spells (token : String) (text : List Char) (marker : Marker) : Prop where
  header : HeaderText text marker.form marker.plural marker.counted
  token_eq : token.toList = text ++ ':' :: (marker.identifier.toList ++ marker.trailing.toList)
  wellFormed : marker.WellFormed
  capital : marker.capitalize = true ↔ token.toList.head? = some 'A'

/-- A word denotes a marker when some header text and the marker spell it. -/
def Denotes (token : String) (marker : Marker) : Prop :=
  ∃ text, Spells token text marker

/-- A header and its colon are there, but no identifier follows. -/
def LacksIdentifier (token : String) : Prop :=
  ∃ text form plural counted rest, HeaderText text form plural counted ∧
    token.toList = text ++ ':' :: rest ∧
    ∀ character ∈ rest.head?, isIdentifierChar character = false

/-- Letters and stars stand between a tag and a colon that is followed by an identifier
character. -/
def HasSuffixRun (token : String) : Prop :=
  ∃ capital tag run first rest, (capital = [] ∨ capital = ['A']) ∧ TagText tag ∧
    (∀ character ∈ run, character.isAlpha = true ∨ character = '*') ∧
    isIdentifierChar first = true ∧
    token.toList = capital ++ tag ++ run ++ ':' :: first :: rest

/-! ## Identifiers -/

/-- The identifier of a rest is the longest run of identifier characters. -/
theorem takeWhile_identifier {identifier trailing : List Char}
    (all : ∀ character ∈ identifier, isIdentifierChar character = true)
    (stops : ∀ character ∈ trailing.head?, isIdentifierChar character = false) :
    (identifier ++ trailing).takeWhile isIdentifierChar = identifier ∧
      (identifier ++ trailing).dropWhile isIdentifierChar = trailing := by
  rw [List.takeWhile_append_of_pos all, List.dropWhile_append_of_pos all]
  cases trailing with
  | nil => simp
  | cons first rest => simp [stops first rfl]

/-- A header yields a marker exactly when its rest is the identifier and the trailing
text of a well-formed marker with the same flags. -/
theorem ofHeader?_eq_some_iff {header : Header} {marker : Marker} :
    ofHeader? header = some marker ↔
      (marker.form = header.form ∧ marker.plural = header.plural ∧
        marker.counted = header.counted ∧ marker.capitalize = header.capitalize) ∧
      header.rest = marker.identifier.toList ++ marker.trailing.toList ∧ marker.WellFormed := by
  unfold ofHeader?
  constructor
  · intro read
    split at read
    next => cases read
    next nonempty =>
      cases read
      refine ⟨⟨rfl, rfl, rfl, rfl⟩, by simp, by simpa using nonempty, ?_, ?_⟩
      · intro character member
        rw [String.toList_ofList] at member
        exact List.all_eq_true.mp List.all_takeWhile character member
      · rw [String.toList_ofList]
        exact eq_false_of_head?_dropWhile
  · rintro ⟨⟨form, plural, counted, capitalize⟩, rest, nonempty, all, stops⟩
    obtain ⟨taken, dropped⟩ := takeWhile_identifier all stops
    rw [rest, taken, dropped, if_neg nonempty, ← form, ← plural, ← counted, ← capitalize]
    simp

theorem ofHeader?_eq_none_iff {header : Header} :
    ofHeader? header = none ↔
      ∀ character ∈ header.rest.head?, isIdentifierChar character = false := by
  unfold ofHeader?
  cases header.rest with
  | nil => simp
  | cons first rest => simp [List.takeWhile_cons]

/-! ## The reader and the classes -/

/-- **A word is read as the markers it denotes.** -/
theorem read?_eq_some_iff {token : String} {marker : Marker} :
    read? token = .ok (some marker) ↔ Denotes token marker := by
  unfold read?
  constructor
  · intro read
    split at read
    next => split at read <;> cases read
    next header found =>
      split at read
      next denoted yields =>
        cases read
        obtain ⟨capital, text, hasHeader, spelled⟩ := header?_eq_some_iff.mp found
        obtain ⟨⟨form, plural, counted, capitalize⟩, rest, wellFormed⟩ :=
          ofHeader?_eq_some_iff.mp yields
        refine ⟨text, ⟨?_, ?_, wellFormed, ?_⟩⟩
        · rwa [form, plural, counted]
        · rw [spelled, rest]
        · rw [capitalize, capital, beq_iff_eq]
      next => cases read
  · rintro ⟨text, hasHeader, spelled, wellFormed, capital⟩
    have found : header? token.toList = some ⟨marker.capitalize, marker.form, marker.plural,
        marker.counted, marker.identifier.toList ++ marker.trailing.toList⟩ := by
      refine header?_eq_some_iff.mpr ⟨?_, text, hasHeader, spelled⟩
      rw [Bool.eq_iff_iff, capital, beq_iff_eq]
    have yields : ofHeader? ⟨marker.capitalize, marker.form, marker.plural, marker.counted,
        marker.identifier.toList ++ marker.trailing.toList⟩ = some marker :=
      ofHeader?_eq_some_iff.mpr ⟨⟨rfl, rfl, rfl, rfl⟩, rfl, wellFormed⟩
    simp only [found, yields]

theorem lacksIdentifier_iff {token : String} :
    LacksIdentifier token ↔
      ∃ header, header? token.toList = some header ∧ ofHeader? header = none := by
  constructor
  · rintro ⟨text, form, plural, counted, rest, hasHeader, spelled, ends⟩
    exact ⟨⟨token.toList.head? == some 'A', form, plural, counted, rest⟩,
      header?_eq_some_iff.mpr ⟨rfl, text, hasHeader, spelled⟩, ofHeader?_eq_none_iff.mpr ends⟩
  · rintro ⟨header, found, yields⟩
    obtain ⟨_, text, hasHeader, spelled⟩ := header?_eq_some_iff.mp found
    exact ⟨text, header.form, header.plural, header.counted, header.rest, hasHeader, spelled,
      ofHeader?_eq_none_iff.mp yields⟩

/-- **A word is read as lacking an identifier exactly when it does.** -/
theorem read?_eq_missingIdentifier_iff {token : String} :
    read? token = .error ⟨token, .missingIdentifier⟩ ↔ LacksIdentifier token := by
  rw [lacksIdentifier_iff]
  unfold read?
  constructor
  · intro refused
    split at refused
    next => split at refused <;> cases refused
    next header found =>
      split at refused
      next => cases refused
      next yields => exact ⟨header, found, yields⟩
  · rintro ⟨header, found, yields⟩
    simp only [found, yields]

/-- A word has a header exactly when it denotes a marker or lacks an identifier. -/
theorem isMarker_iff {token : String} :
    isMarker token = true ↔ (∃ marker, Denotes token marker) ∨ LacksIdentifier token := by
  unfold isMarker
  rw [Option.isSome_iff_exists]
  constructor
  · rintro ⟨header, found⟩
    cases yields : ofHeader? header with
    | none => exact .inr (lacksIdentifier_iff.mpr ⟨header, found, yields⟩)
    | some marker =>
      refine .inl ⟨marker, read?_eq_some_iff.mp ?_⟩
      unfold read?
      simp only [found, yields]
  · rintro (⟨marker, text, spells⟩ | lacks)
    · refine ⟨⟨token.toList.head? == some 'A', marker.form, marker.plural, marker.counted,
        marker.identifier.toList ++ marker.trailing.toList⟩, ?_⟩
      exact header?_eq_some_iff.mpr ⟨rfl, text, spells.header, spells.token_eq⟩
    · obtain ⟨header, found, _⟩ := lacksIdentifier_iff.mp lacks
      exact ⟨header, found⟩

/-- The letters between a tag and the first colon are misspelled exactly when they are
suffix characters and an identifier follows the colon. -/
theorem isMisspelled_iff {characters : List Char} :
    isMisspelled characters = true ↔
      ∃ run first rest, (∀ character ∈ run, character.isAlpha = true ∨ character = '*') ∧
        isIdentifierChar first = true ∧ characters = run ++ ':' :: first :: rest := by
  unfold isMisspelled
  constructor
  · intro misspelled
    split at misspelled
    next first rest fromColon =>
      rw [Bool.and_eq_true, List.all_eq_true] at misspelled
      refine ⟨characters.takeWhile (· != ':'), first, rest, ?_, misspelled.2, ?_⟩
      · intro character member
        simpa [isSuffixChar] using misspelled.1 character member
      · rw [← fromColon, List.takeWhile_append_dropWhile]
    next => cases misspelled
  · rintro ⟨run, first, rest, letters, identifier, rfl⟩
    have free : ∀ character ∈ run, (character != ':') = true := by
      intro character member
      rcases letters character member with alpha | rfl
      · have : character ≠ ':' := by rintro rfl; exact absurd alpha (by decide)
        simpa using this
      · decide
    rw [List.takeWhile_append_of_pos free, List.dropWhile_append_of_pos free]
    simpa [isSuffixChar, identifier] using letters

/-- A word has an invalid suffix when a misspelled run stands behind one of its tags. -/
theorem hasInvalidSuffix_iff {token : String} :
    hasInvalidSuffix token.toList = true ↔ HasSuffixRun token := by
  unfold hasInvalidSuffix
  rw [Bool.or_eq_true, Option.any_eq_true, Option.any_eq_true]
  constructor
  · rintro (⟨others, front, misspelled⟩ | ⟨others, front, misspelled⟩)
    · obtain ⟨tag, hasTag, spelled⟩ := afterCapitalTag?_eq_some_iff.mp front
      obtain ⟨run, first, rest, letters, identifier, rfl⟩ := isMisspelled_iff.mp misspelled
      exact ⟨['A'], tag, run, first, rest, .inr rfl, hasTag, letters, identifier,
        by simp [spelled]⟩
    · obtain ⟨tag, hasTag, spelled⟩ := afterTag?_eq_some_iff.mp front
      obtain ⟨run, first, rest, letters, identifier, rfl⟩ := isMisspelled_iff.mp misspelled
      exact ⟨[], tag, run, first, rest, .inl rfl, hasTag, letters, identifier, by simp [spelled]⟩
  · rintro ⟨capital, tag, run, first, rest, front, hasTag, letters, identifier, spelled⟩
    have misspelled : isMisspelled (run ++ ':' :: first :: rest) = true :=
      isMisspelled_iff.mpr ⟨run, first, rest, letters, identifier, rfl⟩
    rcases front with rfl | rfl
    · exact .inr ⟨_, afterTag?_eq_some_iff.mpr ⟨tag, hasTag, by simp [spelled]⟩, misspelled⟩
    · exact .inl ⟨_, afterCapitalTag?_eq_some_iff.mpr ⟨tag, hasTag, by simp [spelled]⟩, misspelled⟩

theorem read?_of_not_isMarker {token : String} (noMarker : ¬isMarker token = true) :
    read? token =
      if hasInvalidSuffix token.toList then .error ⟨token, .invalidSuffix⟩ else .ok none := by
  have noHeader : header? token.toList = none := by
    simpa [isMarker] using noMarker
  unfold read?
  simp only [noHeader]

theorem read?_of_isMarker {token : String} (marked : isMarker token = true) :
    (∃ marker, read? token = .ok (some marker)) ∨
      read? token = .error ⟨token, .missingIdentifier⟩ := by
  rcases isMarker_iff.mp marked with ⟨marker, denotes⟩ | lacks
  · exact .inl ⟨marker, read?_eq_some_iff.mpr denotes⟩
  · exact .inr (read?_eq_missingIdentifier_iff.mpr lacks)

/-- **A word is read as having an invalid suffix exactly when it has no header and a
misspelled run.** -/
theorem read?_eq_invalidSuffix_iff {token : String} :
    read? token = .error ⟨token, .invalidSuffix⟩ ↔ ¬isMarker token = true ∧ HasSuffixRun token := by
  by_cases marked : isMarker token = true
  · rcases read?_of_isMarker marked with ⟨marker, read⟩ | read <;> simp [read, marked]
  · rw [read?_of_not_isMarker marked, ← hasInvalidSuffix_iff]
    by_cases misspelled : hasInvalidSuffix token.toList = true <;> simp [marked, misspelled]

/-- **A word is read as ordinary text exactly when it has no header and no misspelled
run.** -/
theorem read?_eq_none_iff {token : String} :
    read? token = .ok none ↔ ¬isMarker token = true ∧ ¬HasSuffixRun token := by
  by_cases marked : isMarker token = true
  · rcases read?_of_isMarker marked with ⟨marker, read⟩ | read <;> simp [read, marked]
  · rw [read?_of_not_isMarker marked, ← hasInvalidSuffix_iff]
    by_cases misspelled : hasInvalidSuffix token.toList = true <;> simp [marked, misspelled]

theorem eq_of_reason_eq {fault other : MarkerFault} (same : fault.reason = other.reason) :
    fault = other := by
  revert same
  cases fault <;> cases other <;> decide

/-- A word is refused with the words of a fault exactly when it is refused for it. -/
theorem exists_read?_eq_error_iff (token : String) (fault : MarkerFault) :
    (∃ error, read? token = .error error ∧ error.token = token ∧
      error.fault.reason = fault.reason) ↔ read? token = .error ⟨token, fault⟩ := by
  constructor
  · rintro ⟨⟨named, found⟩, refused, rfl, reason⟩
    rwa [← eq_of_reason_eq reason]
  · intro refused
    exact ⟨⟨token, fault⟩, refused, rfl, rfl⟩

/-! ## Uniqueness -/

/-- A word denotes at most one marker, and is cut in one way only. -/
theorem Spells.unique {token : String} {text other : List Char} {marker another : Marker}
    (first : Spells token text marker) (second : Spells token other another) :
    text = other ∧ marker = another := by
  obtain ⟨rfl, -⟩ := headerText_unique first.header second.header
    (first.token_eq.symm.trans second.token_eq)
  refine ⟨rfl, ?_⟩
  have read := read?_eq_some_iff.mpr ⟨_, first⟩
  rw [read?_eq_some_iff.mpr ⟨_, second⟩] at read
  simpa using read.symm

/-! ## The classification -/

/-- **The reader classifies every word.**  It reads exactly the markers a word denotes,
and a word spells at most one marker, in one way; a word is refused for a missing
identifier or an invalid suffix exactly when it belongs to that class, and the error
names the word; and every other word is ordinary text. -/
theorem read?_classifies (token : String) :
    (∀ marker, read? token = .ok (some marker) ↔ ∃ text, Spells token text marker) ∧
    (∀ text other marker another, Spells token text marker → Spells token other another →
      text = other ∧ marker = another) ∧
    ((∃ error, read? token = .error error ∧ error.token = token ∧
        error.fault.reason = "missing identifier") ↔ LacksIdentifier token) ∧
    ((∃ error, read? token = .error error ∧ error.token = token ∧
        error.fault.reason = "invalid suffix") ↔
      (∀ marker, ¬Denotes token marker) ∧ ¬LacksIdentifier token ∧ HasSuffixRun token) ∧
    (read? token = .ok none ↔
      (∀ marker, ¬Denotes token marker) ∧ ¬LacksIdentifier token ∧ ¬HasSuffixRun token) ∧
    (isMarker token = true ↔ (∃ marker, Denotes token marker) ∨ LacksIdentifier token) := by
  have noHeader : ¬isMarker token = true ↔
      (∀ marker, ¬Denotes token marker) ∧ ¬LacksIdentifier token := by
    rw [isMarker_iff, not_or, not_exists]
  refine ⟨fun marker => read?_eq_some_iff, ?unique, ?missing, ?invalid, ?ordinary, isMarker_iff⟩
  case unique =>
    intro text other marker another first second
    exact first.unique second
  case missing =>
    rw [← read?_eq_missingIdentifier_iff]
    exact exists_read?_eq_error_iff token .missingIdentifier
  case invalid =>
    rw [← and_assoc, ← noHeader, ← read?_eq_invalidSuffix_iff]
    exact exists_read?_eq_error_iff token .invalidSuffix
  case ordinary =>
    rw [← and_assoc, ← noHeader]
    exact read?_eq_none_iff

end Acronyms.Marker
