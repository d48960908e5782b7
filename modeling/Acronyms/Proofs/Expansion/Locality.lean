import Acronyms.Proofs.Expansion.Independence

/-!
# What capitals and trailing texts decide

Whether a marker is capitalized, and what trails it, shows at the marker itself and nowhere
else.  The rest of a marker is its request.  Two documents are alike when each word of the one
is the word of the other, or both words denote markers with the same request
(`WordsAlike`).

Everything that an expansion looks at to decide about a marker is a function of the requests:
how the words change the registry (`usageSteps_of_alike`), the variant of a marker
(`variantAt_of_alike`), and whether it is refused (`RefusedAt.of_alike`).  So alike documents
expand alike.  The texts of two markers are then the same but for the capital and the trailing
text (`ShownAlike`), since capitalizing comes after everything else and the trailing text is put
behind it.
-/

set_option autoImplicit false

namespace Acronyms

/-! ## Requests -/

/-- A marker without its capital and its trailing text. -/
def Marker.request (marker : Marker) : Marker := { marker with capitalize := false, trailing := "" }

namespace Expansion

/-- Two words are the same, or denote markers with the same request. -/
inductive WordsAlike : String → String → Prop where
  | same (word : String) : WordsAlike word word
  | markers {word other : String} {marker another : Marker}
      (read : Marker.read? word = .ok (some marker))
      (readOther : Marker.read? other = .ok (some another))
      (request : marker.request = another.request) : WordsAlike word other

theorem WordsAlike.symm {word other : String} (alike : WordsAlike word other) :
    WordsAlike other word := by
  cases alike with
  | same => exact .same _
  | markers read readOther request => exact .markers readOther read request.symm

theorem WordsAlike.fault?_eq {word other : String} (alike : WordsAlike word other) :
    fault? word = fault? other := by
  cases alike with
  | same => rfl
  | markers read readOther _ => simp only [fault?, read, readOther]

/-- The request of the marker that a word denotes. -/
def request? (word : String) : Option Marker := (Marker.ofToken? word).map Marker.request

theorem WordsAlike.request?_eq {word other : String} (alike : WordsAlike word other) :
    request? word = request? other := by
  cases alike with
  | same => rfl
  | markers read readOther request =>
    rw [request?, request?, Marker.ofToken?_eq_some_iff.mpr read,
      Marker.ofToken?_eq_some_iff.mpr readOther, Option.map_some, Option.map_some, request]

/-- Documents are alike when their words are, one by one. -/
abbrev Alike (words others : List String) : Prop := List.Forall₂ WordsAlike words others

section TwoDocuments

variable {words others : List String}

theorem alike_symm (alike : Alike words others) : Alike others words :=
  alike.flip.imp fun _ _ pair => pair.symm

theorem requests_of_alike (alike : Alike words others) :
    words.filterMap request? = others.filterMap request? := by
  induction alike with
  | nil => rfl
  | cons pair _ ih => simp only [List.filterMap_cons, pair.request?_eq, ih]

theorem faults_of_alike (alike : Alike words others) :
    words.findSome? fault? = others.findSome? fault? := by
  induction alike with
  | nil => rfl
  | cons pair _ ih => simp only [List.findSome?_cons, pair.fault?_eq, ih]

theorem allReadable_of_alike (alike : Alike words others) :
    AllReadable words ↔ AllReadable others := by
  rw [← findSome?_fault?_eq_none_iff, faults_of_alike alike, findSome?_fault?_eq_none_iff]

theorem firstMalformed_of_alike (alike : Alike words others) {fault : MarkerError} :
    FirstMalformed words fault ↔ FirstMalformed others fault := by
  rw [← findSome?_fault?_eq_some_iff, faults_of_alike alike, findSome?_fault?_eq_some_iff]

/-! ## What is decided by the requests -/

theorem map_request_ofTokens (words : List String) :
    (words.filterMap Marker.ofToken?).map Marker.request = words.filterMap request? :=
  List.map_filterMap

theorem map_request_usesOf (identifier : String) (words : List String) :
    (usesOf identifier words).map Marker.request =
      (words.filterMap request?).filter fun marker =>
        marker.counted && marker.identifier == identifier := by
  rw [usesOf, ← map_request_ofTokens, List.filter_map]
  rfl

theorem usesOf_of_alike (alike : Alike words others) (identifier : String) :
    (usesOf identifier words).map Marker.request =
      (usesOf identifier others).map Marker.request := by
  rw [map_request_usesOf, map_request_usesOf, requests_of_alike alike]

/-- Alike documents count an identifier equally often. -/
theorem references_of_alike (alike : Alike words others) (identifier : String) :
    references words identifier = references others identifier := by
  have same := congrArg List.length (usesOf_of_alike alike identifier)
  rwa [List.length_map, List.length_map] at same

/-- **Alike documents do the same to the registry.** -/
theorem usageSteps_of_alike (policy : Policy) (alike : Alike words others) :
    usageSteps policy words = usageSteps policy others := by
  have byRequest : ∀ tokens : List String,
      usageSteps policy tokens = (tokens.filterMap request?).filterMap (usageStep? policy) := by
    intro tokens
    rw [usageSteps, ← map_request_ofTokens, List.filterMap_map]
    rfl
  rw [byRequest, byRequest, requests_of_alike alike]

theorem consumedBefore_of_alike {policy : Policy} {registry : UsageRegistry}
    (alike : Alike words others) (position : Nat) (identifier : String) :
    ConsumedBefore policy registry words position identifier ↔
      ConsumedBefore policy registry others position identifier := by
  have byRequest : ∀ tokens : List String,
      (∃ marker ∈ usesOf identifier tokens,
          marker.form = .auto ∨ policy.forcedFormsMarkUsed = true) ↔
        ∃ marker ∈ (usesOf identifier tokens).map Marker.request,
          marker.form = .auto ∨ policy.forcedFormsMarkUsed = true := by
    intro tokens
    simp only [List.mem_map, exists_exists_and_eq_and]
    exact Iff.rfl
  unfold ConsumedBefore
  rw [byRequest, byRequest, usesOf_of_alike (List.forall₂_take position alike)]

/-- **Markers with the same request have the same variant in alike documents.** -/
theorem variantAt_of_alike {policy : Policy} {registry : UsageRegistry}
    (alike : Alike words others) (position : Nat) {marker another : Marker}
    (request : marker.request = another.request) :
    variantAt policy (references words) registry words position marker =
      variantAt policy (references others) registry others position another := by
  have form : marker.form = another.form := congrArg (·.form) request
  have identifier : marker.identifier = another.identifier := congrArg (·.identifier) request
  unfold variantAt
  simp only [form, identifier, consumedBefore_of_alike alike, references_of_alike alike]

/-! ## Refusals -/

/-- Two errors are of the same kind: a word is malformed in the same way, or alike words name the
same identifier that is not defined, or that has no plural for the same reason. -/
inductive FailAlike : ExpansionError → ExpansionError → Prop where
  | malformed (error : MarkerError) : FailAlike (.malformed error) (.malformed error)
  | undefined {word other : String} (alike : WordsAlike word other) (identifier : String) :
      FailAlike (.unknownIdentifier word identifier) (.unknownIdentifier other identifier)
  | noPlural {word other : String} (alike : WordsAlike word other) (identifier : String)
      (cause : PluralError) :
      FailAlike (.noPlural word identifier cause) (.noPlural other identifier cause)

theorem exists_word_of_alike (alike : Alike words others) {position : Nat} {word : String}
    (stands : words[position]? = some word) :
    ∃ other, others[position]? = some other ∧ WordsAlike word other := by
  induction alike generalizing position with
  | nil => cases stands
  | @cons first second rest remaining pair _ ih =>
    cases position with
    | zero =>
      cases stands
      exact ⟨second, rfl, pair⟩
    | succ position => exact ih stands

/-- Where a word denotes a marker, an alike word denotes one with the same request. -/
theorem WordsAlike.exists_marker {word other : String} {marker : Marker}
    (alike : WordsAlike word other) (read : Marker.read? word = .ok (some marker)) :
    ∃ another, Marker.read? other = .ok (some another) ∧ marker.request = another.request := by
  cases alike with
  | same => exact ⟨marker, read, rfl⟩
  | markers readWord readOther request =>
    rw [read] at readWord
    cases readWord
    exact ⟨_, readOther, request⟩

theorem RefusedAt.of_alike {table : Table} {mode : OutputMode} {policy : Policy}
    {registry : UsageRegistry} {position : Nat} {error : ExpansionError}
    (alike : Alike words others)
    (refused : RefusedAt table mode policy registry words position error) :
    ∃ cause,
      RefusedAt table mode policy registry others position cause ∧ FailAlike error cause := by
  obtain ⟨word, marker, stands, read, refusal⟩ := refused
  obtain ⟨other, standsOther, pair⟩ := exists_word_of_alike alike stands
  obtain ⟨another, readOther, request⟩ := pair.exists_marker read
  have identifier : marker.identifier = another.identifier := congrArg (·.identifier) request
  have plural : marker.plural = another.plural := congrArg (·.plural) request
  rw [variantAt_of_alike alike position request] at refusal
  cases refusal with
  | undefined missing =>
    rw [identifier] at missing ⊢
    exact ⟨_, ⟨other, another, standsOther, readOther, .undefined missing⟩, .undefined pair _⟩
  | plural defined plain inPlural lacks =>
    rw [identifier] at defined ⊢
    rw [plural] at inPlural
    exact ⟨_, ⟨other, another, standsOther, readOther, .plural defined plain inPlural lacks⟩,
      .noPlural pair _ _⟩

/-- Where an expansion stops, the expansion of an alike document stops in the same way. -/
theorem StopsAt.of_alike {table : Table} {mode : OutputMode} {policy : Policy}
    {registry : UsageRegistry} {position : Nat} {error : ExpansionError}
    (alike : Alike words others)
    (stops : StopsAt table mode policy registry words position error) :
    ∃ cause, StopsAt table mode policy registry others position cause ∧ FailAlike error cause := by
  obtain ⟨refused, first⟩ := stops
  obtain ⟨cause, refusedOther, fails⟩ := refused.of_alike alike
  refine ⟨cause, ⟨refusedOther, fun earlier before other refusedEarlier => ?_⟩, fails⟩
  obtain ⟨error, sooner, _⟩ := refusedEarlier.of_alike (alike_symm alike)
  exact first earlier before error sooner

end TwoDocuments

/-! ## Texts -/

/-- A text begins with the full uppercase form of the first character of another text and goes on
as that text does; of the empty text it is the empty one. -/
def IsCapitalized (text capital : String) : Prop :=
  (text = "" ∧ capital = "") ∨
    ∃ first rest, text.toList = first :: rest ∧ capital.toList = Text.uppercase first ++ rest

theorem isCapitalized_capitalize (text : String) : IsCapitalized text (Text.capitalize text) := by
  cases characters : text.toList with
  | nil =>
    have empty : text = "" := String.toList_inj.mp characters
    exact .inl ⟨empty, by rw [empty, Text.capitalize_empty]⟩
  | cons first rest => exact .inr ⟨first, rest, characters, Text.toList_capitalize characters⟩

/-- Two texts, each shown with a capital or without, are the same but for the capital. -/
def ShownAlike (capital other : Bool) (shown text : String) : Prop :=
  match capital, other with
  | true, false => IsCapitalized text shown
  | false, true => IsCapitalized shown text
  | true, true => shown = text
  | false, false => shown = text

theorem shownAlike_capitalize (text : String) (capital other : Bool) :
    ShownAlike capital other (if capital then Text.capitalize text else text)
      (if other then Text.capitalize text else text) := by
  have capitalized := isCapitalized_capitalize text
  cases capital with
  | true =>
    cases other with
    | true => rfl
    | false => exact capitalized
  | false =>
    cases other with
    | true => exact capitalized
    | false => rfl

/-- **Markers with the same request are rendered alike**, in the same variant. -/
theorem render_of_request_eq {marker another : Marker} (request : marker.request = another.request)
    {acronym : Acronym} {variant : Variant} {ending output result : String}
    (rendered : OutputMode.plain.render marker acronym variant ending = .ok output)
    (renderedOther : OutputMode.plain.render another acronym variant ending = .ok result) :
    ShownAlike marker.capitalize another.capitalize output result := by
  have plural : marker.plural = another.plural := congrArg (·.plural) request
  unfold OutputMode.render Plain.render at rendered renderedOther
  rw [plural] at rendered
  cases found : Plain.variantText acronym variant another.plural ending with
  | error cause =>
    rw [found] at rendered
    cases rendered
  | ok text =>
    rw [found] at rendered renderedOther
    cases rendered
    cases renderedOther
    exact shownAlike_capitalize text _ _

/-- What is planned for two alike words, in resolved text: nothing for ordinary words, and for
markers texts that are the same but for the capital, each with the trailing text of its marker. -/
inductive ReplacedAlike : String → String → Option Inline → Option Inline → Prop where
  | ordinary {word : String} (read : Marker.read? word = .ok none) :
      ReplacedAlike word word none none
  | markers {word other : String} {marker another : Marker} {shown text : String}
      (read : Marker.read? word = .ok (some marker))
      (readOther : Marker.read? other = .ok (some another))
      (alike : ShownAlike marker.capitalize another.capitalize shown text) :
      ReplacedAlike word other (some (.text (shown ++ marker.trailing)))
        (some (.text (text ++ another.trailing)))

section Plans

variable {table : Table} {policy : Policy} {registry after final : UsageRegistry}
variable {words others : List String} {replacements replaced : Replacements}

/-- **In resolved text the words of alike documents are replaced alike.** -/
theorem replacedAlike_of_plan (alike : Alike words others)
    (planned : plan table .plain policy registry words = .ok (replacements, after))
    (plannedOther : plan table .plain policy registry others = .ok (replaced, final))
    {position : Nat} {word other : String} (stands : words[position]? = some word)
    (standsOther : others[position]? = some other) :
    ReplacedAlike word other (replacements.get? position) (replaced.get? position) := by
  obtain ⟨found, foundStands, pair⟩ := exists_word_of_alike alike stands
  rw [standsOther] at foundStands
  cases foundStands
  obtain ⟨readable, read⟩ := (readable_of_plan planned).1 word (List.mem_of_getElem? stands)
  cases readable with
  | none =>
    cases pair with
    | markers readMarker _ _ =>
      rw [read] at readMarker
      cases readMarker
    | same =>
      have silent :=
        outcomeAt_of_ordinary table .plain policy (references words) registry stands read
      have silentOther :=
        outcomeAt_of_ordinary table .plain policy (references others) registry standsOther read
      rw [get?_of_plan planned, get?_of_plan plannedOther, inlineAt, inlineAt, silent, silentOther]
      exact .ordinary read
  | some marker =>
    obtain ⟨another, readOther, request⟩ := pair.exists_marker read
    have identifier : marker.identifier = another.identifier := congrArg (·.identifier) request
    obtain ⟨acronym, output, defined, rendered, placed⟩ := rendered_of_plan planned stands read
    obtain ⟨same, result, definedOther, renderedOther, placedOther⟩ :=
      rendered_of_plan plannedOther standsOther readOther
    rw [identifier, definedOther] at defined
    cases defined
    rw [variantAt_of_alike alike position request] at rendered
    rw [placed, placedOther]
    exact .markers read readOther (render_of_request_eq request rendered renderedOther)

end Plans

/-- **Capitals and trailing texts have only a local effect.**  Let the words of two documents be
the same, or denote markers that differ at most in the capital and the trailing text.  Then
both documents are refused, with errors of the same kind that name the same identifier and the
same cause; or both expand and end in the same registry.  In resolved text each pair of
words is then replaced by the same text but for the capital, with the trailing text of each
marker behind it. -/
theorem expandFrom_alike {δ ε : Type} [Document δ] [Document ε] (table : Table)
    (mode : OutputMode) (policy : Policy) (registry : UsageRegistry) (document : δ) (other : ε)
    (alike : Alike (Document.tokens document) (Document.tokens other)) :
    (∃ error cause,
      expandFrom table mode policy registry document = .error error ∧
      expandFrom table mode policy registry other = .error cause ∧ FailAlike error cause) ∨
    ∃ replacements replaced after,
      expandFrom table mode policy registry document =
        .ok (Document.apply replacements document, after) ∧
      expandFrom table mode policy registry other = .ok (Document.apply replaced other, after) ∧
      (mode = .plain → ∀ position word second,
        (Document.tokens document)[position]? = some word →
        (Document.tokens other)[position]? = some second →
        ReplacedAlike word second (replacements.get? position) (replaced.get? position)) := by
  cases outcome : expandFrom table mode policy registry document with
  | error error =>
    refine .inl ⟨error, ?_⟩
    rcases cases_of_expandFrom_eq_error outcome with
      ⟨fault, rfl, malformed⟩ | ⟨readable, position, stops⟩
    · refine ⟨_, rfl, ?_, .malformed fault⟩
      exact expandFrom_eq_malformed_iff.mpr ((firstMalformed_of_alike alike).mp malformed)
    · obtain ⟨cause, stopsOther, fails⟩ := stops.of_alike alike
      refine ⟨cause, rfl, ?_, fails⟩
      exact expandFrom_eq_error_of_stopsAt ((allReadable_of_alike alike).mp readable) stopsOther
  | ok result =>
    obtain ⟨expanded, after⟩ := result
    obtain ⟨readable, unrefused⟩ := exists_expandFrom_iff.mp ⟨_, outcome⟩
    obtain ⟨⟨expandedOther, final⟩, succeeds⟩ :
        ∃ result, expandFrom table mode policy registry other = .ok result := by
      refine exists_expandFrom_iff.mpr ⟨(allReadable_of_alike alike).mp readable, ?_⟩
      intro position error refused
      obtain ⟨cause, refusedHere, _⟩ := refused.of_alike (alike_symm alike)
      exact unrefused position cause refusedHere
    obtain ⟨replacements, planned, rfl⟩ := expandFrom_eq_ok_iff.mp outcome
    obtain ⟨replaced, plannedOther, rfl⟩ := expandFrom_eq_ok_iff.mp succeeds
    have same : final = after := by
      rw [(plan_eq_ok_iff.mp planned).2.2, (plan_eq_ok_iff.mp plannedOther).2.2,
        usageSteps_of_alike policy alike]
    subst same
    refine .inr ⟨replacements, replaced, final, rfl, succeeds, ?_⟩
    rintro rfl position word second stands standsOther
    exact replacedAlike_of_plan alike planned plannedOther stands standsOther

/-! ## A worked pair

The first character of the spelled-out form has an uppercase form of two characters. -/

/-- One definition. -/
def gaugeTable : Table := SortedMap.ofList [("g", { long := "ßoftware gauge", short := "G" })]

/-- Two references to it. -/
def gaugeText : TextDocument := TextDocument.ofText "see ac:g and ac:g"

/-- The same references, the first one with a capital, and both with trailing texts. -/
def capitalText : TextDocument := TextDocument.ofText "see Ac:g, and ac:g's"

theorem alike_gaugeText : Alike (Document.tokens gaugeText) (Document.tokens capitalText) := by
  have words : Document.tokens gaugeText = ["see", "ac:g", "and", "ac:g"] := by decide +kernel
  have others : Document.tokens capitalText = ["see", "Ac:g,", "and", "ac:g's"] := by
    decide +kernel
  have bare : Marker.read? "ac:g" = .ok (some { identifier := "g" }) :=
    eq_ok_of_toOption (by decide +kernel)
  have capital : Marker.read? "Ac:g," =
      .ok (some { identifier := "g", capitalize := true, trailing := "," }) :=
    eq_ok_of_toOption (by decide +kernel)
  have owner : Marker.read? "ac:g's" = .ok (some { identifier := "g", trailing := "'s" }) :=
    eq_ok_of_toOption (by decide +kernel)
  rw [words, others]
  exact .cons (.same _) (.cons (.markers bare capital rfl)
    (.cons (.same _) (.cons (.markers bare owner rfl) .nil)))

/-- Both texts expand, with the same registry, and their second words are replaced alike. -/
theorem expandFrom_alike_gaugeTexts :
    Alike (Document.tokens gaugeText) (Document.tokens capitalText) ∧
    ∃ replacements replaced after,
      expandFrom gaugeTable .plain {} .empty gaugeText =
        .ok (Document.apply replacements gaugeText, after) ∧
      expandFrom gaugeTable .plain {} .empty capitalText =
        .ok (Document.apply replaced capitalText, after) ∧
      (Document.apply replacements gaugeText).toText = "see ßoftware gauge (G) and G" ∧
      (Document.apply replaced capitalText).toText = "see SSoftware gauge (G), and G's" ∧
      ReplacedAlike "ac:g" "Ac:g," (replacements.get? 1) (replaced.get? 1) := by
  have shows : ((expandFrom gaugeTable .plain {} .empty gaugeText).toOption.map
      fun result => result.1.toText) = some "see ßoftware gauge (G) and G" := by decide +kernel
  have showsOther : ((expandFrom gaugeTable .plain {} .empty capitalText).toOption.map
      fun result => result.1.toText) = some "see SSoftware gauge (G), and G's" := by decide +kernel
  rcases expandFrom_alike gaugeTable .plain {} .empty gaugeText capitalText alike_gaugeText with
    ⟨error, cause, fails, _⟩ | ⟨replacements, replaced, after, expands, expandsOther, placed⟩
  · rw [fails] at shows
    cases shows
  · rw [expands] at shows
    rw [expandsOther] at showsOther
    exact ⟨alike_gaugeText, replacements, replaced, after, expands, expandsOther,
      Option.some.inj shows, Option.some.inj showsOther,
      placed rfl 1 "ac:g" "Ac:g," (by decide +kernel) (by decide +kernel)⟩

end Expansion

end Acronyms
