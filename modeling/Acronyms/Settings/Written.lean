import Acronyms.Settings

/-!
# What a settings file says

A settings file may leave any of its entries out.  What it says is therefore a value for
some entries and nothing for the others (`Written`), and its settings are what it says, with
default values for what it leaves out (`ofMembers?_eq_map_settings`).
-/

set_option autoImplicit false

namespace Acronyms.Settings

open Toml (Value Members)

/-- What a settings file says about each entry, if it says anything. -/
structure Written where
  mode : Option OutputMode := none
  forcedFormsMarkUsed : Option Bool := none
  single : Option Bool := none
  pluralSuffix : Option String := none
  filter : Option ListingFilter := none
  sort : Option ListingSort := none
  acronymsFile : Option String := none
  silent : Option Bool := none
  deriving DecidableEq, Repr

namespace Written

/-- Read an entry, of which nothing is said if it is missing. -/
def entry? {α : Type} (entries : Section) (name : String) (read : Value → Option α) :
    Option (Option α) :=
  match entries name with
  | none => some none
  | some value => (read value).map some

def ofMembers? (root : Members) : Option Written := do
  let output ← sectionOf? root "output" ["format"]
  let usage ← sectionOf? root "usage" ["forced_forms_mark_used", "single"]
  let plural ← sectionOf? root "plural" ["suffix"]
  let listing ← sectionOf? root "listing" ["filter", "sort"]
  let acronyms ← sectionOf? root "acronyms" ["file", "silent"]
  return {
    forcedFormsMarkUsed := ← entry? usage "forced_forms_mark_used" boolean?
    single := ← entry? usage "single" boolean?
    pluralSuffix := ← entry? plural "suffix" text?
    mode := ← entry? output "format" (choice? OutputMode.ofName)
    filter := ← entry? listing "filter" (choice? ListingFilter.ofName)
    sort := ← entry? listing "sort" (choice? ListingSort.ofName)
    acronymsFile := ← entry? acronyms "file" text?
    silent := ← entry? acronyms "silent" boolean? }

def ofText? (text : String) : Option Written :=
  (Toml.ofText? text).bind ofMembers?

/-- The settings of a file: what it says, and the default value of an entry otherwise. -/
def settings (written : Written) : Settings where
  mode := written.mode.getD .plain
  policy := {
    forcedFormsMarkUsed := written.forcedFormsMarkUsed.getD true
    single := written.single.getD false
    pluralSuffix := written.pluralSuffix.getD "s" }
  filter := written.filter.getD .used
  sort := written.sort.getD .alphabetical
  acronymsFile := written.acronymsFile
  silent := written.silent.getD false

end Written

/-! ## Reading is reading what is said -/

theorem entry?_eq_map {α : Type} (entries : Section) (name : String) (read : Value → Option α)
    (default : α) :
    entry? entries name read default = (Written.entry? entries name read).map (·.getD default) := by
  unfold entry? Written.entry?
  cases entries name with
  | none => rfl
  | some value =>
    dsimp only
    cases read value <;> rfl

/-- An entry without a default value is read as what is said about it. -/
theorem entry?_none_eq {α : Type} (entries : Section) (name : String) (read : Value → Option α) :
    entry? entries name (fun value => (read value).map some) none =
      Written.entry? entries name read := by
  unfold entry? Written.entry?
  cases entries name <;> rfl

/-- Two readings that go on from the same value, and whose results then correspond. -/
theorem bind_eq_map_bind {α β γ : Type} (first : Option α) {settle : β → γ}
    {later : α → Option γ} {said : α → Option β}
    (corresponds : ∀ value, later value = (said value).map settle) :
    first >>= later = (first >>= said).map settle := by
  cases first with
  | none => rfl
  | some value => exact corresponds value

/-- A reading that goes on from an entry with a default value corresponds to one that goes on
from what is said about the entry. -/
theorem entry?_bind_eq_map_bind {α β γ : Type} (entries : Section) (name : String)
    (read : Value → Option α) (default : α) {settle : β → γ} {later : α → Option γ}
    {said : Option α → Option β}
    (corresponds : ∀ entry, later (entry.getD default) = (said entry).map settle) :
    entry? entries name read default >>= later =
      (Written.entry? entries name read >>= said).map settle := by
  rw [entry?_eq_map]
  cases Written.entry? entries name read with
  | none => rfl
  | some entry => exact corresponds entry

/-- **The settings of a file are what it says, with default values for what it leaves
out.** -/
theorem ofMembers?_eq_map_settings (root : Members) :
    ofMembers? root = (Written.ofMembers? root).map Written.settings := by
  unfold ofMembers? Written.ofMembers?
  simp only [entry?_none_eq]
  refine bind_eq_map_bind _ fun output => bind_eq_map_bind _ fun usage =>
    bind_eq_map_bind _ fun plural => bind_eq_map_bind _ fun listing =>
    bind_eq_map_bind _ fun acronyms => ?_
  refine entry?_bind_eq_map_bind _ _ _ _ fun forced =>
    entry?_bind_eq_map_bind _ _ _ _ fun single => entry?_bind_eq_map_bind _ _ _ _ fun suffix =>
    entry?_bind_eq_map_bind _ _ _ _ fun mode => entry?_bind_eq_map_bind _ _ _ _ fun filter =>
    entry?_bind_eq_map_bind _ _ _ _ fun sort => bind_eq_map_bind _ fun file =>
    entry?_bind_eq_map_bind _ _ _ _ fun silent => ?_
  rfl

end Acronyms.Settings
