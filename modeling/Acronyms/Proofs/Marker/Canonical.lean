import Acronyms.Proofs.Marker.Reading

/-!
# The canonical spelling of a marker

A word can spell a marker in several ways, since the letters of a header may be of either
case and the capital may stand in front of the tag or be its first letter.  Writing a
marker picks one spelling: small letters, and a capital in front of the tag.

Nothing is lost in that.  The written form of a well-formed marker is read as that marker
again (`read?_toToken`), because its header text is one of those that the grammar has for
the marker (`headerText_canonicalText`) and its identifier is the whole run behind the
colon.  Only well-formed markers are read from words (`wellFormed_of_read?`).  So reading a
word and writing the marker changes the header only, and a second time nothing
(`respell_toToken`).
-/

set_option autoImplicit false

namespace Acronyms.Marker

/-! ## The header -/

/-- The canonical header text of a marker, before the colon. -/
def canonicalText (marker : Marker) : List Char :=
  (if marker.capitalize then ['A'] else []) ++ ['a', 'c'] ++ marker.form.letters ++
    (if marker.plural then ['p'] else []) ++ (if marker.counted then [] else ['*'])

theorem toList_toToken (marker : Marker) :
    marker.toToken.toList =
      marker.canonicalText ++ ':' :: (marker.identifier.toList ++ marker.trailing.toList) := by
  simp [toToken, header, canonicalText]

theorem suffixText_canonical (form : Form) (plural counted : Bool) :
    SuffixText (form.letters ++ (if plural then ['p'] else []) ++ (if counted then [] else ['*']))
      form plural counted := by
  refine .pieces ?form ?plural ?star
  case form =>
    cases form with
    | auto => exact .auto
    | short => exact .short (.inl rfl)
    | long => exact .long (.inl rfl)
    | full => exact .full (.inl rfl)
  case plural =>
    cases plural with
    | false => exact .singular
    | true => exact .plural (.inl rfl)
  case star =>
    cases counted with
    | false => exact .uncounted
    | true => exact .counted

/-- **The canonical header text stands for the wishes of the marker.** -/
theorem headerText_canonicalText (marker : Marker) :
    HeaderText marker.canonicalText marker.form marker.plural marker.counted := by
  have tag : TagText ['a', 'c'] := .letters (.inl rfl) (.inl rfl)
  have suffix := suffixText_canonical marker.form marker.plural marker.counted
  unfold canonicalText
  cases marker.capitalize with
  | false => simpa using HeaderText.bare tag suffix
  | true => simpa using HeaderText.capital tag suffix

theorem head?_canonicalText (marker : Marker) :
    marker.canonicalText.head? = some (if marker.capitalize then 'A' else 'a') := by
  unfold canonicalText
  cases marker.capitalize <;> rfl

/-! ## The whole word -/

/-- A well-formed marker is spelled by its written form. -/
theorem spells_toToken {marker : Marker} (wellFormed : marker.WellFormed) :
    Spells marker.toToken marker.canonicalText marker where
  header := headerText_canonicalText marker
  token_eq := toList_toToken marker
  wellFormed := wellFormed
  capital := by
    rw [toList_toToken, List.head?_append, head?_canonicalText]
    cases marker.capitalize <;> simp

/-- **The written form of a well-formed marker is read as that marker.** -/
theorem read?_toToken {marker : Marker} (wellFormed : marker.WellFormed) :
    read? marker.toToken = .ok (some marker) :=
  read?_eq_some_iff.mpr ⟨_, spells_toToken wellFormed⟩

/-- **Every marker that is read is well formed.** -/
theorem wellFormed_of_read? {token : String} {marker : Marker}
    (read : read? token = .ok (some marker)) : marker.WellFormed := by
  obtain ⟨_, spells⟩ := read?_eq_some_iff.mp read
  exact spells.wellFormed

/-- A word that denotes a marker is some header text, the colon, the identifier and the
trailing text. -/
theorem exists_header_of_read? {token : String} {marker : Marker}
    (read : read? token = .ok (some marker)) :
    ∃ front, token = front ++ ":" ++ marker.identifier ++ marker.trailing := by
  obtain ⟨text, spells⟩ := read?_eq_some_iff.mp read
  refine ⟨String.ofList text, String.toList_inj.mp ?_⟩
  rw [spells.token_eq]
  simp

/-! ## Respelling -/

/-- Read a word and write its marker, if it denotes one. -/
def respell (token : String) : Except MarkerError (Option String) :=
  (read? token).map fun found => found.map toToken

theorem respell_toToken {marker : Marker} (wellFormed : marker.WellFormed) :
    respell marker.toToken = .ok (some marker.toToken) := by
  rw [respell, read?_toToken wellFormed]
  rfl

/-- **The written forms of well-formed markers are the words that respelling leaves as they
are.** -/
theorem respell_eq_self_iff {token : String} :
    respell token = .ok (some token) ↔
      ∃ marker : Marker, marker.WellFormed ∧ marker.toToken = token := by
  constructor
  · intro fixed
    unfold respell at fixed
    cases read : read? token with
    | error error => simp [read, Except.map] at fixed
    | ok found =>
      cases found with
      | none => simp [read, Except.map] at fixed
      | some marker =>
        refine ⟨marker, wellFormed_of_read? read, ?_⟩
        simpa [read, Except.map] using fixed
  · rintro ⟨marker, wellFormed, rfl⟩
    exact respell_toToken wellFormed

/-- **Reading and writing are inverse on well-formed markers.**  Every marker that is read
is well formed, and exactly the well-formed ones are read back from their written form.
Respelling a word that denotes a marker keeps the marker, keeps the identifier and the
trailing text at the end of the word, and yields a word that respelling leaves as it is;
such words are the written forms of the well-formed markers. -/
theorem read?_toToken_inverse :
    (∀ token marker, read? token = .ok (some marker) → marker.WellFormed) ∧
    (∀ marker, read? marker.toToken = .ok (some marker) ↔ marker.WellFormed) ∧
    (∀ token marker, read? token = .ok (some marker) →
      respell token = .ok (some marker.toToken) ∧
      read? marker.toToken = .ok (some marker) ∧
      respell marker.toToken = .ok (some marker.toToken) ∧
      ∃ front canonical,
        token = front ++ ":" ++ marker.identifier ++ marker.trailing ∧
        marker.toToken = canonical ++ ":" ++ marker.identifier ++ marker.trailing) ∧
    ∀ token, respell token = .ok (some token) ↔
      ∃ marker : Marker, marker.WellFormed ∧ marker.toToken = token := by
  refine ⟨fun token marker => wellFormed_of_read?,
    fun marker => ⟨wellFormed_of_read?, read?_toToken⟩, ?_, fun token => respell_eq_self_iff⟩
  intro token marker read
  have wellFormed := wellFormed_of_read? read
  have again := read?_toToken wellFormed
  obtain ⟨front, spelled⟩ := exists_header_of_read? read
  obtain ⟨canonical, written⟩ := exists_header_of_read? again
  refine ⟨?_, again, respell_toToken wellFormed, front, canonical, spelled, written⟩
  rw [respell, read]
  rfl

/-! A capital tag letter becomes a capital in front of the tag, and the rest of the word
stays, whatever it looks like. -/

example : (respell "ACSP*:ml:ac:x").toOption = some (some "Aacsp*:ml:ac:x") := by decide +kernel

end Acronyms.Marker
