import Acronyms.Acronym
import Acronyms.Proofs.Glossary.Assignment

/-!
# Definitions read from fields

A draft of a definition has a value for every field name (`Draft.value?`), and entering a
field changes the value of its own name only.  So after a list of fields each name has
**the value that the list gives it last** (`value?_foldl_set`).

A definition is refused exactly for lacking one of its parts, the spelled-out form before
the abbreviation (`ofFields_eq_error_iff`).  Nothing but the last values counts, so fields
that end with the same values make the same definition, **in whatever order they come**
(`ofFields_congr`).
-/

set_option autoImplicit false

namespace Acronyms.Acronym

/-! ## Values by name -/

namespace Draft

/-- The value of a field name; a name that is not reserved is one of the extra fields. -/
def value? (draft : Draft) (name : String) : Option String :=
  match name with
  | "long" => draft.long
  | "short" => draft.short
  | "long-plural" => draft.longPlural
  | "short-plural" => draft.shortPlural
  | "long-plural-form" => draft.longPluralForm
  | "short-plural-form" => draft.shortPluralForm
  | name => draft.extra.get? name

theorem value?_set_self (draft : Draft) (field : Field) :
    (draft.set field).value? field.1 = some field.2 := by
  obtain ⟨name, value⟩ := field
  unfold set
  dsimp only
  split
  case h_7 => simp [value?, *]
  all_goals rfl

theorem value?_set_of_ne (draft : Draft) (field : Field) (name : String)
    (differ : name ≠ field.1) : (draft.set field).value? name = draft.value? name := by
  obtain ⟨own, value⟩ := field
  unfold set value?
  dsimp only
  split <;> split <;> simp_all [SortedMap.get?_insert_of_ne]

/-- **After a list of fields each name has the value that it was given last.** -/
theorem value?_foldl_set (fields : List Field) (draft : Draft) (name : String) :
    (fields.foldl set draft).value? name =
      (fields.reverse.lookup name).or (draft.value? name) :=
  read_foldl_write value?_set_self value?_set_of_ne fields draft name

/-! ## The order of the fields -/

/-- The names of the fields that are not extra ones. -/
def isReserved (name : String) : Bool :=
  ["long", "short", "long-plural", "short-plural", "long-plural-form",
    "short-plural-form"].contains name

theorem value?_eq_extra {name : String} (free : isReserved name = false) (draft : Draft) :
    draft.value? name = draft.extra.get? name := by
  unfold value?
  split
  case h_7 => rfl
  all_goals cases free

/-- A reserved name is never one of the extra fields. -/
theorem extra_set_of_reserved {name : String} (reserved : isReserved name = true) (draft : Draft)
    (field : Field) : (draft.set field).extra.get? name = draft.extra.get? name := by
  obtain ⟨own, value⟩ := field
  unfold set
  dsimp only
  split
  case h_7 =>
    refine SortedMap.get?_insert_of_ne _ _ fun same => ?_
    subst same
    simp_all [isReserved]
  all_goals rfl

theorem extra_foldl_set_of_reserved {name : String} (reserved : isReserved name = true)
    (fields : List Field) (draft : Draft) :
    (fields.foldl set draft).extra.get? name = draft.extra.get? name := by
  induction fields generalizing draft with
  | nil => rfl
  | cons field rest ih => exact (ih _).trans (extra_set_of_reserved reserved draft field)

/-- A draft is its values, apart from extra fields under reserved names. -/
theorem eq_of_value? {left right : Draft} (values : ∀ name, left.value? name = right.value? name)
    (reserved : ∀ name, isReserved name = true → left.extra.get? name = right.extra.get? name) :
    left = right := by
  have extra : left.extra = right.extra := SortedMap.ext_get? fun name => by
    cases free : isReserved name with
    | true => exact reserved name free
    | false => rw [← value?_eq_extra free, ← value?_eq_extra free, values]
  have long : left.long = right.long := values "long"
  have short : left.short = right.short := values "short"
  have longPlural : left.longPlural = right.longPlural := values "long-plural"
  have shortPlural : left.shortPlural = right.shortPlural := values "short-plural"
  have longPluralForm : left.longPluralForm = right.longPluralForm := values "long-plural-form"
  have shortPluralForm : left.shortPluralForm = right.shortPluralForm :=
    values "short-plural-form"
  cases left
  cases right
  simp_all only

/-- **Only the last value of each name matters to a draft.** -/
theorem foldl_set_congr {fields others : List Field}
    (same : ∀ name, fields.reverse.lookup name = others.reverse.lookup name) :
    fields.foldl set {} = others.foldl set {} := by
  refine eq_of_value? (fun name => ?_) fun name reserved => ?_
  · rw [value?_foldl_set, value?_foldl_set, same]
  · rw [extra_foldl_set_of_reserved reserved, extra_foldl_set_of_reserved reserved]

end Draft

/-- **Fields that give every name the same last value make the same definition.** -/
theorem ofFields_congr (identifier : String) {fields others : List Field}
    (same : ∀ name, fields.reverse.lookup name = others.reverse.lookup name) :
    ofFields identifier fields = ofFields identifier others := by
  rw [ofFields, ofFields, Draft.foldl_set_congr same]

/-! ## Incomplete definitions -/

/-- Fields lack a part of a definition; the spelled-out form is asked for first. -/
def Lacks (fields : List Field) : Part → Prop
  | .long => "long" ∉ fields.map (·.1)
  | .short => "long" ∈ fields.map (·.1) ∧ "short" ∉ fields.map (·.1)

/-- **A definition is refused exactly for a part that its fields lack.** -/
theorem ofFields_eq_error_iff {identifier : String} {fields : List Field}
    {error : DefinitionError} :
    ofFields identifier fields = .error error ↔
      error.identifier = identifier ∧ Lacks fields error.missing := by
  have long : (fields.foldl Draft.set {}).long = fields.reverse.lookup "long" :=
    (Draft.value?_foldl_set fields {} "long").trans Option.or_none
  have short : (fields.foldl Draft.set {}).short = fields.reverse.lookup "short" :=
    (Draft.value?_foldl_set fields {} "short").trans Option.or_none
  have missing : ∀ name, fields.reverse.lookup name = none ↔ name ∉ fields.map (·.1) := by
    intro name
    rw [lookup_eq_none_iff_notMem, List.map_reverse, List.mem_reverse]
  obtain ⟨owner, part⟩ := error
  unfold ofFields Draft.finish
  rw [long, short]
  cases part with
  | long =>
    rw [Lacks, ← missing]
    cases fields.reverse.lookup "long" with
    | none => simp [eq_comm]
    | some _ => cases fields.reverse.lookup "short" <;> simp
  | short =>
    rw [Lacks, ← missing, ← not_not (a := "long" ∈ _), ← missing]
    cases fields.reverse.lookup "long" with
    | none => simp
    | some _ => cases fields.reverse.lookup "short" <;> simp [eq_comm]

/-- A definition is accepted as soon as its fields name both parts. -/
theorem exists_ofFields_eq_ok_iff (identifier : String) (fields : List Field) :
    (∃ acronym, ofFields identifier fields = .ok acronym) ↔
      "long" ∈ fields.map (·.1) ∧ "short" ∈ fields.map (·.1) := by
  cases read : ofFields identifier fields with
  | error error =>
    obtain ⟨_, lacks⟩ := ofFields_eq_error_iff.mp read
    obtain ⟨_, part⟩ := error
    cases part with
    | long => exact iff_of_false (by simp) fun both => lacks both.1
    | short => exact iff_of_false (by simp) fun both => lacks.2 both.2
  | ok acronym =>
    have accepted : ∀ part, ¬Lacks fields part := fun part lacks => by
      have refused : ofFields identifier fields = .error ⟨identifier, part⟩ :=
        ofFields_eq_error_iff.mpr ⟨rfl, lacks⟩
      rw [read] at refused
      cases refused
    have long : "long" ∈ fields.map (·.1) := not_not.mp (accepted .long)
    exact iff_of_true ⟨acronym, rfl⟩ ⟨long, not_not.mp fun short => accepted .short ⟨long, short⟩⟩

end Acronyms.Acronym
