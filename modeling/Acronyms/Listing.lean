import Acronyms.Render
import Acronyms.Usage

/-!
# Listings of acronyms

A listing selects acronyms of a table, all or only the used ones, orders them by
identifier or by first use, and renders each in its full form.  Under the
first-use order the unused acronyms come last, by identifier.

A listing is consumed from the front: its state is the list of identifiers still
to come, all of which the table defines.
-/

set_option autoImplicit false

namespace Acronyms

/-- Which acronyms to list. -/
inductive ListingFilter where
  /-- Every defined acronym. -/
  | all
  /-- The acronyms that were counted at least once. -/
  | used
  deriving DecidableEq, Repr, Inhabited

/-- The order of a listing. -/
inductive ListingSort where
  /-- By identifier. -/
  | alphabetical
  /-- By first use. -/
  | firstUse
  deriving DecidableEq, Repr, Inhabited

/-- One line of a listing. -/
structure ListingEntry where
  identifier : String
  text : String
  deriving DecidableEq, Repr

/-- A listing of which some identifiers are still to come. -/
structure Listing where
  table : Table
  mode : OutputMode
  remaining : List String

namespace Listing

/-- Whether an identifier was counted at least once. -/
def isUsed (registry : UsageRegistry) (identifier : String) : Bool :=
  0 < registry.seenCount identifier

def identifiers (table : Table) (registry : UsageRegistry) (filter : ListingFilter)
    (sort : ListingSort) : List String :=
  match sort with
  | .alphabetical =>
    table.keys.filter fun identifier => filter == .all || isUsed registry identifier
  | .firstUse =>
    (registry.firstUseOrder.filter fun identifier =>
        table.contains identifier && isUsed registry identifier) ++
      match filter with
      | .all => table.keys.filter fun identifier => !isUsed registry identifier
      | .used => []

/-- The listing of a table with respect to a registry. -/
def make (table : Table) (registry : UsageRegistry) (mode : OutputMode) (filter : ListingFilter)
    (sort : ListingSort) : Listing where
  table := table
  mode := mode
  remaining := identifiers table registry filter sort

/-- The next entry, and the listing after it. -/
def next? (listing : Listing) : Option (ListingEntry × Listing) :=
  match listing.remaining with
  | [] => none
  | identifier :: rest =>
    (listing.table.get? identifier).map fun acronym =>
      let entry : ListingEntry := ⟨identifier, listing.mode.listingText identifier acronym⟩
      (entry, { listing with remaining := rest })

/-- The bounds of the number of entries still to come. -/
def sizeBounds (listing : Listing) : Nat × Option Nat :=
  (listing.remaining.length, some listing.remaining.length)

/-- The entries of a list of identifiers, up to the first that the table does not
define. -/
def entriesOf (table : Table) (mode : OutputMode) : List String → List ListingEntry
  | [] => []
  | identifier :: rest =>
    match table.get? identifier with
    | some acronym => ⟨identifier, mode.listingText identifier acronym⟩ :: entriesOf table mode rest
    | none => []

def toList (listing : Listing) : List ListingEntry :=
  entriesOf listing.table listing.mode listing.remaining

end Listing

end Acronyms
