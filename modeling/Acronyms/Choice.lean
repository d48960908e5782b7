import Acronyms.Listing

/-!
# Choices by name

Output modes, listing filters and listing orders are chosen by name, on the
command line, in the settings file and in documents.  A name that is none of the
two that a choice offers is an error, which repeats the name and both offers.
-/

set_option autoImplicit false

namespace Acronyms

/-- The three things that are chosen by name. -/
inductive Choice where
  | outputMode
  | listingFilter
  | listingSort
  deriving DecidableEq, Repr

namespace Choice

def subject : Choice → String
  | outputMode => "output mode"
  | listingFilter => "listing filter"
  | listingSort => "listing sort"

def offers : Choice → String × String
  | outputMode => ("plain", "latex")
  | listingFilter => ("all", "used")
  | listingSort => ("alphabetical", "first-use")

end Choice

/-- A name that a choice does not offer. -/
structure ChoiceError where
  choice : Choice
  given : String
  deriving DecidableEq, Repr

namespace ChoiceError

def message (error : ChoiceError) : String :=
  let offers := error.choice.offers
  s!"unknown {error.choice.subject} '{error.given}' (expected '{offers.1}' or '{offers.2}')"

end ChoiceError

def OutputMode.ofName : String → Except ChoiceError OutputMode
  | "plain" => .ok .plain
  | "latex" => .ok .latex
  | name => .error ⟨.outputMode, name⟩

def OutputMode.name : OutputMode → String
  | .plain => "plain"
  | .latex => "latex"

def ListingFilter.ofName : String → Except ChoiceError ListingFilter
  | "all" => .ok .all
  | "used" => .ok .used
  | name => .error ⟨.listingFilter, name⟩

def ListingFilter.name : ListingFilter → String
  | .all => "all"
  | .used => "used"

def ListingSort.ofName : String → Except ChoiceError ListingSort
  | "alphabetical" => .ok .alphabetical
  | "first-use" => .ok .firstUse
  | name => .error ⟨.listingSort, name⟩

def ListingSort.name : ListingSort → String
  | .alphabetical => "alphabetical"
  | .firstUse => "first-use"

end Acronyms
