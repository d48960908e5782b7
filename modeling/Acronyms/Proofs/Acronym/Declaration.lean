import Acronyms.Proofs.Acronym.Fields

/-!
# Definitions declared and read again

A definition is declared by its fields, in a fixed order (`declarationOptions`).  Under every
name the declaration has **the value that the name was given last** when the definition was
read (`lookup_declarationOptions`), and no name stands twice in it.  Overriding a plural is
giving its field once more (`ofFields_append_overrides`), so the same holds of a definition
whose plurals are overridden.

Reading depends on the last value of every name only, and a declaration has these values.  So
**reading the fields of a declaration, in whatever order, gives the definition again**.
-/

set_option autoImplicit false

namespace Acronyms.Acronym

/-- The names of fields, in their order. -/
abbrev names (fields : List Field) : List String := fields.map (·.1)

/-! ## The values of a declaration -/

theorem lookup_optionalField (own name : String) (value : Option String) :
    (optionalField own value).lookup name = if name = own then value else none := by
  cases value with
  | none => simp [optionalField]
  | some text =>
    by_cases same : name = own
    · simp [optionalField, same]
    · rw [if_neg same]
      exact lookup_cons_of_ne same []

/-- A declaration has the values of the draft that the definition was finished from. -/
theorem lookup_declarationOptions_of_finish {draft : Draft} {identifier : String}
    {acronym : Acronym} (finished : draft.finish identifier = .ok acronym)
    (free : ∀ name, Draft.isReserved name = true → draft.extra.get? name = none) (name : String) :
    acronym.declarationOptions.lookup name = draft.value? name := by
  obtain ⟨long, short, longPlural, shortPlural, longPluralForm, shortPluralForm, extra⟩ := draft
  cases long with
  | none => cases finished
  | some long =>
    cases short with
    | none => cases finished
    | some short =>
      cases finished
      have absent : ∀ name, Draft.isReserved name = true → extra.toList.lookup name = none := free
      have parts : [("short", short), ("long", long)] =
          optionalField "short" (some short) ++ optionalField "long" (some long) := rfl
      unfold Draft.value?
      split
      case h_7 _ notLong notShort notLongPlural notShortPlural notLongForm notShortForm =>
        simp only [declarationOptions, parts, List.lookup_append, lookup_optionalField,
          if_neg notLong, if_neg notShort, if_neg notLongPlural, if_neg notShortPlural,
          if_neg notLongForm, if_neg notShortForm, Option.none_or]
        rfl
      all_goals
        simp [declarationOptions, parts, List.lookup_append, lookup_optionalField, absent,
          Draft.isReserved]

/-! ## Definitions that were read -/

section Read

variable {identifier : String} {fields : List Field} {acronym : Acronym}
  (read : ofFields identifier fields = .ok acronym)

include read

/-- **A declaration has the value that each name was given last.** -/
theorem lookup_declarationOptions (name : String) :
    acronym.declarationOptions.lookup name = fields.reverse.lookup name := by
  have free : ∀ name, Draft.isReserved name = true →
      (fields.foldl Draft.set {}).extra.get? name = none := fun name reserved =>
    Draft.extra_foldl_set_of_reserved reserved fields {}
  have unset : Draft.value? {} name = none := by
    unfold Draft.value?
    split <;> rfl
  rw [lookup_declarationOptions_of_finish read free, Draft.value?_foldl_set, unset,
    Option.or_none]

/-- The identifier is needed for the refusal only. -/
theorem ofFields_of_ofFields (other : String) : ofFields other fields = .ok acronym := by
  unfold ofFields Draft.finish at *
  split at read
  next => cases read
  next => cases read
  next long short => simpa only [long, short] using read

/-- No extra field has a reserved name. -/
theorem extra_eq_none_of_reserved {name : String} (reserved : Draft.isReserved name = true) :
    acronym.extra.get? name = none := by
  unfold ofFields Draft.finish at read
  split at read
  next => cases read
  next => cases read
  next =>
    cases read
    exact Draft.extra_foldl_set_of_reserved reserved fields {}

/-- **No name stands twice in a declaration.** -/
theorem nodup_names_declarationOptions : (names acronym.declarationOptions).Nodup := by
  have optional : ∀ own value, (names (optionalField own value)).Sublist [own] := by
    rintro own (_ | _)
    · exact List.nil_sublist _
    · exact List.Sublist.refl _
  let reservedNames :=
    ["short", "long", "short-plural", "long-plural", "short-plural-form", "long-plural-form"]
  have front : (names ([("short", acronym.short), ("long", acronym.long)] ++
      optionalField "short-plural" acronym.shortPlural ++
      optionalField "long-plural" acronym.longPlural ++
      optionalField "short-plural-form" acronym.shortPluralForm ++
      optionalField "long-plural-form" acronym.longPluralForm)).Sublist reservedNames := by
    simp only [names, List.map_append]
    exact ((((List.Sublist.refl ["short", "long"]).append (optional _ _)).append
      (optional _ _)).append (optional _ _)).append (optional _ _)
  have reserved : ∀ name ∈ reservedNames, Draft.isReserved name = true := by decide
  rw [names, declarationOptions, List.map_append]
  refine List.nodup_append.mpr ⟨front.nodup (by decide), acronym.extra.nodup_keys, ?_⟩
  rintro name declared _ extra rfl
  obtain ⟨value, found⟩ := SortedMap.mem_keys_iff.mp extra
  rw [extra_eq_none_of_reserved read (reserved name (front.subset declared))] at found
  cases found

end Read

/-! ## Overriding plurals -/

/-- The field of a plural that is overridden. -/
def PluralOverride.field : PluralOverride → Field
  | .ending .long text => ("long-plural", text)
  | .ending .short text => ("short-plural", text)
  | .form .long text => ("long-plural-form", text)
  | .form .short text => ("short-plural-form", text)

theorem ofFields_concat_override {identifier : String} {fields : List Field} {acronym : Acronym}
    (read : ofFields identifier fields = .ok acronym) (override : PluralOverride) :
    ofFields identifier (fields ++ [override.field]) = .ok (acronym.overridePlural override) := by
  rw [ofFields, List.foldl_append, List.foldl_cons, List.foldl_nil]
  unfold ofFields at read
  generalize fields.foldl Draft.set {} = draft at read ⊢
  obtain ⟨long, short, longPlural, shortPlural, longPluralForm, shortPluralForm, extra⟩ := draft
  cases long with
  | none => cases read
  | some long =>
    cases short with
    | none => cases read
    | some short =>
      cases read
      cases override with
      | ending part text => cases part <;> rfl
      | form part text => cases part <;> rfl

/-- **Overriding plurals is giving their fields once more.** -/
theorem ofFields_append_overrides {identifier : String} {fields : List Field} {acronym : Acronym}
    (read : ofFields identifier fields = .ok acronym) (overrides : List PluralOverride) :
    ofFields identifier (fields ++ overrides.map PluralOverride.field) =
      .ok (acronym.overridePlurals overrides) := by
  induction overrides generalizing fields acronym with
  | nil => rwa [List.map_nil, List.append_nil]
  | cons override rest ih =>
    have next := ih (ofFields_concat_override read override)
    rwa [List.append_assoc] at next

/-! ## Fields in another order -/

/-- The same fields in another order, in which the fields of one name keep theirs. -/
structure Reordered (fields others : List Field) : Prop where
  perm : fields.Perm others
  stable : ∀ name, fields.filter (·.1 = name) = others.filter (·.1 = name)

/-- The last value of a name is the value of the last field that has it. -/
theorem lookup_reverse_eq_getLast? (fields : List Field) (name : String) :
    fields.reverse.lookup name = (fields.filter (·.1 = name)).getLast?.map (·.2) := by
  induction fields using List.reverseRecOn with
  | nil => rfl
  | append_singleton fields last ih =>
    rw [List.reverse_concat, List.filter_append]
    by_cases same : last.1 = name
    · subst same
      simp [lookup_cons_same]
    · rw [lookup_cons_of_ne (Ne.symm same), ih]
      simp [same]

theorem Reordered.lookup_eq {fields others : List Field} (reordered : Reordered fields others)
    (name : String) : fields.reverse.lookup name = others.reverse.lookup name := by
  rw [lookup_reverse_eq_getLast?, lookup_reverse_eq_getLast?, reordered.stable]

/-- Fields with distinct names have the same values in every order. -/
theorem lookup_reverse_eq_of_perm {fields options : List Field} (perm : options.Perm fields)
    (distinct : (names fields).Nodup) (name : String) :
    options.reverse.lookup name = fields.lookup name := by
  have distinctOptions : (names options).Nodup := (perm.map _).nodup_iff.mpr distinct
  rw [lookup_reverse_of_nodup distinctOptions]
  refine Option.ext fun value => ?_
  rw [lookup_eq_some_iff_mem_of_nodup distinctOptions, lookup_eq_some_iff_mem_of_nodup distinct,
    perm.mem_iff]

/-! ## Reading a declaration -/

/-- A definition is declared without a name standing twice, with the value that each name was
given last, and is read again from the fields of its declaration in every order. -/
structure Redeclared (fields : List Field) (acronym : Acronym) : Prop where
  distinct : (names acronym.declarationOptions).Nodup
  values : ∀ name, acronym.declarationOptions.lookup name = fields.reverse.lookup name
  again : ∀ identifier options, options.Perm acronym.declarationOptions →
    ofFields identifier options = .ok acronym

theorem redeclared_of_ofFields {identifier : String} {fields : List Field} {acronym : Acronym}
    (read : ofFields identifier fields = .ok acronym) : Redeclared fields acronym where
  distinct := nodup_names_declarationOptions read
  values := lookup_declarationOptions read
  again other options perm := by
    have same : ∀ name, options.reverse.lookup name = fields.reverse.lookup name := fun name => by
      rw [lookup_reverse_eq_of_perm perm (nodup_names_declarationOptions read),
        lookup_declarationOptions read]
    rw [ofFields_congr other same]
    exact ofFields_of_ofFields read other

/-- **Definitions survive the trip through their declarations.**  A definition that is read
from fields, and whose plurals are overridden after that, has a declaration from which it is
read again in every order.

Reading depends on the last value of every name, so not on the order of fields of different
names.  A definition is refused exactly for a part that no field names, and for the
spelled-out form if neither part is named. -/
theorem ofFields_survivesDeclaration (identifier : String) (fields : List Field) :
    (∀ acronym, ofFields identifier fields = .ok acronym → ∀ overrides : List PluralOverride,
      Redeclared (fields ++ overrides.map PluralOverride.field)
        (acronym.overridePlurals overrides)) ∧
    (∀ others, (∀ name, fields.reverse.lookup name = others.reverse.lookup name) →
      ofFields identifier fields = ofFields identifier others) ∧
    (∀ others, Reordered fields others →
      ofFields identifier fields = ofFields identifier others) ∧
    (∀ error, ofFields identifier fields = .error error ↔
      error.identifier = identifier ∧ Lacks fields error.missing) ∧
    ((∃ acronym, ofFields identifier fields = .ok acronym) ↔
      "long" ∈ names fields ∧ "short" ∈ names fields) := by
  refine ⟨fun acronym read overrides => ?_, fun others same => ofFields_congr identifier same,
    fun others reordered => ofFields_congr identifier reordered.lookup_eq,
    fun error => ofFields_eq_error_iff, exists_ofFields_eq_ok_iff identifier fields⟩
  exact redeclared_of_ofFields (ofFields_append_overrides read overrides)

/-- Fields in which one name is repeated and another one is not reserved. -/
def mouseFields : List Field :=
  [("long", "mouse"), ("tag", "animals"), ("short", "M"), ("long", "house mouse")]

/-- The definition of the fields, given an irregular plural, is read again from its
declaration in reverse. -/
theorem ofFields_survivesDeclaration_mouseFields :
    ∃ acronym, ofFields "mouse" mouseFields = .ok acronym ∧
      ofFields "rodent"
        (acronym.overridePlural (.form .long "house mice")).declarationOptions.reverse =
          .ok (acronym.overridePlural (.form .long "house mice")) ∧
      (acronym.overridePlural (.form .long "house mice")).declarationOptions =
        [("short", "M"), ("long", "house mouse"), ("long-plural-form", "house mice"),
          ("tag", "animals")] := by
  have read : ofFields "mouse" mouseFields =
      .ok ⟨"house mouse", "M", none, none, none, none, .ofList [("tag", "animals")]⟩ := by decide
  have survives := (ofFields_survivesDeclaration "mouse" mouseFields).1 _ read
    [.form .long "house mice"]
  exact ⟨_, read, survives.again "rodent" _ (List.reverse_perm _), by decide⟩

end Acronyms.Acronym
