import Acronyms.Proofs.Expansion.Success
import Acronyms.Proofs.Listing.Selection
import Acronyms.TextDocument

/-!
# The listing after an expansion is the usage of the document

With a registry that reflects a history, a listing by first use lists the first-use order of
the history.  The history of a document is written by its markers.  Hence the main statement
`expand_showsUsage`: **after a document is expanded, the listings of the table are told
from its markers alone**.  The used acronyms are those of the counted markers; those of
which a marker consumed the first use come first, by that marker, and the others follow
by their first counted marker.  What only starred markers refer to is not used, and
stands with the other definitions behind the used ones.
-/

set_option autoImplicit false

namespace Acronyms

namespace Expansion

/-! ## The usage that a document shows -/

/-- The identifiers of the counted markers among some words, marker by marker. -/
def countedIdentifiers (tokens : List String) : List String :=
  ((tokens.filterMap Marker.ofToken?).filter fun marker => marker.counted).map (·.identifier)

/-- The identifiers of the markers that consume a first use, marker by marker: those
that count and are automatic, or force a form where forced forms mark an identifier as
used. -/
def consumingIdentifiers (policy : Policy) (tokens : List String) : List String :=
  ((tokens.filterMap Marker.ofToken?).filter fun marker =>
    marker.counted && (marker.form == .auto || policy.forcedFormsMarkUsed)).map (·.identifier)

/-- An identifier has markers among the words, and all of them are starred. -/
def StarredOnly (tokens : List String) (identifier : String) : Prop :=
  (∃ token ∈ tokens, ∃ marker, Marker.read? token = .ok (some marker) ∧
    marker.identifier = identifier) ∧
  ∀ token ∈ tokens, ∀ marker, Marker.read? token = .ok (some marker) →
    marker.identifier = identifier → marker.counted = false

/-- The definitions of a table that no counted marker refers to. -/
def unreferenced (table : Table) (tokens : List String) : List String :=
  table.keys.filter fun identifier => !(countedIdentifiers tokens).contains identifier

/-- The listings of a table show the usage of a document; `listed` gives the identifiers
that each of them yields. -/
structure ShowsUsage (table : Table) (policy : Policy) (tokens : List String)
    (listed : ListingFilter → ListingSort → List String) : Prop where
  /-- First the identifiers with a consuming marker, by the first of these; then the
  others, by their first counted marker. -/
  used_firstUse : listed .used .firstUse =
    (consumingIdentifiers policy tokens).eraseDups ++
      (countedIdentifiers tokens).eraseDups.filter fun identifier =>
        !(consumingIdentifiers policy tokens).contains identifier
  used_once : (listed .used .firstUse).Nodup
  mem_used : ∀ identifier,
    identifier ∈ listed .used .firstUse ↔ identifier ∈ countedIdentifiers tokens
  used_alphabetical : (listed .used .alphabetical).Pairwise (· < ·)
  used_same : (listed .used .alphabetical).Perm (listed .used .firstUse)
  all_firstUse : listed .all .firstUse = listed .used .firstUse ++ unreferenced table tokens
  all_once : (listed .all .firstUse).Nodup
  all_alphabetical : listed .all .alphabetical = table.keys
  starredOnly : ∀ identifier, StarredOnly tokens identifier →
    identifier ∉ listed .used .firstUse ∧ identifier ∉ listed .used .alphabetical ∧
      identifier ∈ unreferenced table tokens

/-- A marker counts its identifier if it is not starred. -/
theorem counted?_usageStep? (policy : Policy) (marker : Marker) :
    (usageStep? policy marker).bind UsageRegistry.Step.counted? =
      if marker.counted then some marker.identifier else none := by
  unfold usageStep? consumesFirstUse
  by_cases counts : marker.counted = true
  · by_cases consumes : (marker.form == .auto || policy.forcedFormsMarkUsed) = true
    · simp [counts, consumes, UsageRegistry.Step.counted?]
    · simp [counts, consumes, UsageRegistry.Step.counted?]
  · simp [counts]

/-- A marker records its identifier if it consumes the first use. -/
theorem recorded?_usageStep? (policy : Policy) (marker : Marker) :
    (usageStep? policy marker).bind UsageRegistry.Step.recorded? =
      if marker.counted && (marker.form == .auto || policy.forcedFormsMarkUsed)
      then some marker.identifier else none := by
  unfold usageStep? consumesFirstUse
  by_cases counts : marker.counted = true
  · by_cases consumes : (marker.form == .auto || policy.forcedFormsMarkUsed) = true
    · simp [counts, consumes, UsageRegistry.Step.recorded?]
    · simp [counts, consumes, UsageRegistry.Step.recorded?]
  · simp [counts]

theorem countedOrder_usageSteps (policy : Policy) (tokens : List String) :
    UsageRegistry.countedOrder (usageSteps policy tokens) =
      (countedIdentifiers tokens).eraseDups := by
  rw [UsageRegistry.countedOrder, usageSteps, countedIdentifiers, List.filterMap_filterMap,
    ← List.filterMap_eq_map', List.filterMap_filter]
  simp only [counted?_usageStep?]

theorem recordedOrder_usageSteps (policy : Policy) (tokens : List String) :
    UsageRegistry.recordedOrder (usageSteps policy tokens) =
      (consumingIdentifiers policy tokens).eraseDups := by
  rw [UsageRegistry.recordedOrder, usageSteps, consumingIdentifiers, List.filterMap_filterMap,
    ← List.filterMap_eq_map', List.filterMap_filter]
  simp only [recorded?_usageStep?]

theorem notedOrder_usageSteps (policy : Policy) (tokens : List String) :
    UsageRegistry.notedOrder (usageSteps policy tokens) =
      (countedIdentifiers tokens).eraseDups.filter fun identifier =>
        !(consumingIdentifiers policy tokens).contains identifier := by
  rw [UsageRegistry.notedOrder, countedOrder_usageSteps, recordedOrder_usageSteps]
  refine List.filter_congr fun identifier _ => ?_
  rw [Bool.eq_iff_iff]
  simp [List.mem_eraseDups]

/-- The registry after the expansion of a whole document reflects its markers. -/
theorem reflects_of_expand {δ : Type} [Document δ] {table : Table} {mode : OutputMode}
    {policy : Policy} {document expanded : δ} {after : UsageRegistry}
    (succeeds : expand table mode policy document = .ok (expanded, after)) :
    after.Reflects (usageSteps policy (Document.tokens document)) := by
  obtain ⟨replacements, planned, _⟩ := expandFrom_eq_ok succeeds
  have final := (plan_eq_ok_iff.mp planned).2.2
  have reflects := UsageRegistry.reflects_run (usageSteps policy (Document.tokens document))
  rwa [sinceReset_usageSteps, ← final] at reflects

/-- Every marker of a document that expands is defined. -/
theorem defined_of_expand {δ : Type} [Document δ] {table : Table} {mode : OutputMode}
    {policy : Policy} {document expanded : δ} {after : UsageRegistry}
    (succeeds : expand table mode policy document = .ok (expanded, after))
    {token : String} {marker : Marker} (member : token ∈ Document.tokens document)
    (read : Marker.read? token = .ok (some marker)) : marker.identifier ∈ table.keys := by
  obtain ⟨replacements, planned, _⟩ := expandFrom_eq_ok succeeds
  exact SortedMap.mem_keys_iff.mpr (defined_of_plan planned member read)

theorem mem_countedIdentifiers {tokens : List String} {identifier : String} :
    identifier ∈ countedIdentifiers tokens ↔
      ∃ token ∈ tokens, ∃ marker, Marker.read? token = .ok (some marker) ∧
        marker.counted = true ∧ marker.identifier = identifier := by
  simp only [countedIdentifiers, List.mem_map, List.mem_filter, List.mem_filterMap,
    Marker.ofToken?_eq_some_iff]
  constructor
  · rintro ⟨marker, ⟨⟨token, member, read⟩, counts⟩, same⟩
    exact ⟨token, member, marker, read, counts, same⟩
  · rintro ⟨token, member, marker, read, counts, same⟩
    exact ⟨marker, ⟨⟨token, member, read⟩, counts⟩, same⟩

/-- The acronyms that are used after an expansion are those of the counted markers. -/
theorem isUsed_iff_of_expand {δ : Type} [Document δ] {table : Table} {mode : OutputMode}
    {policy : Policy} {document expanded : δ} {after : UsageRegistry}
    (succeeds : expand table mode policy document = .ok (expanded, after)) (identifier : String) :
    Listing.isUsed after identifier = true ↔
      identifier ∈ countedIdentifiers (Document.tokens document) := by
  rw [Listing.isUsed_iff (reflects_of_expand succeeds), countedOrder_usageSteps,
    List.mem_eraseDups]

theorem StarredOnly.notMem_countedIdentifiers {tokens : List String} {identifier : String}
    (starredOnly : StarredOnly tokens identifier) : identifier ∉ countedIdentifiers tokens := by
  intro member
  obtain ⟨token, stands, marker, read, counts, same⟩ := mem_countedIdentifiers.mp member
  rw [starredOnly.2 token stands marker read same] at counts
  cases counts

/-- **After the expansion of a document the listings show its usage**, in whatever mode
they are rendered. -/
theorem expand_showsUsage {δ : Type} [Document δ] (table : Table) (mode : OutputMode)
    (policy : Policy) (document expanded : δ) (after : UsageRegistry) (listingMode : OutputMode)
    (succeeds : expand table mode policy document = .ok (expanded, after)) :
    ShowsUsage table policy (Document.tokens document) fun filter sort =>
      (Listing.make table after listingMode filter sort).toList.map ListingEntry.identifier := by
  have reflects := reflects_of_expand succeeds
  have used := isUsed_iff_of_expand succeeds
  have defined : ∀ identifier, Listing.isUsed after identifier = true →
      identifier ∈ table.keys := by
    intro identifier isUsed
    obtain ⟨token, stands, marker, read, _, rfl⟩ := mem_countedIdentifiers.mp ((used _).mp isUsed)
    exact defined_of_expand succeeds stands read
  have mem_used : ∀ identifier, identifier ∈ Listing.identifiers table after .used .firstUse ↔
      identifier ∈ countedIdentifiers (Document.tokens document) := by
    intro identifier
    rw [Listing.mem_identifiers_used_firstUse reflects, ← used]
    exact and_iff_right_of_imp (defined identifier)
  have same := @Listing.perm_identifiers_used table _ _ reflects
  simp only [Listing.map_identifier_toList_make]
  constructor
  case used_firstUse =>
    rw [Listing.identifiers_used_firstUse reflects fun identifier counted =>
      defined identifier ((Listing.isUsed_iff reflects).mpr counted),
      recordedOrder_usageSteps, notedOrder_usageSteps]
  case used_once => exact Listing.nodup_identifiers_used_firstUse reflects
  case mem_used => exact mem_used
  case used_alphabetical => exact Listing.pairwise_identifiers_alphabetical table after .used
  case used_same => exact same
  case all_firstUse =>
    rw [Listing.identifiers_all_firstUse, unreferenced]
    refine congrArg _ (List.filter_congr fun identifier _ => ?_)
    rw [Bool.eq_iff_iff]
    simp [← used]
  case all_once => exact Listing.nodup_identifiers_all_firstUse reflects
  case all_alphabetical => exact Listing.identifiers_all_alphabetical table after
  case starredOnly =>
    intro identifier starredOnly
    have uncounted := starredOnly.notMem_countedIdentifiers
    obtain ⟨⟨token, stands, marker, read, rfl⟩, _⟩ := starredOnly
    refine ⟨mt (mem_used _).mp uncounted, ?_, ?_⟩
    · exact fun member => uncounted ((mem_used _).mp (same.mem_iff.mp member))
    · exact List.mem_filter.mpr ⟨defined_of_expand succeeds stands read, by simpa using uncounted⟩

/-! ## A worked listing

The forced marker of `a` leaves the first use, the starred marker of `d` counts nothing,
and nothing refers to `c`. -/

def listedTable : Table :=
  SortedMap.ofList [("a", { long := "alpha", short := "A" }),
    ("c", { long := "charlie", short := "C" }), ("d", { long := "delta", short := "D" }),
    ("x", { long := "x-ray", short := "X" })]

def listedText : TextDocument := TextDocument.ofText "ac*:d acs:a ac:x acs:a"

/-- In the worked listing `x` comes before `a`, and both before the unused ones. -/
theorem expand_showsUsage_listedText :
    ∃ expanded after,
      expand listedTable .plain { forcedFormsMarkUsed := false } listedText =
        .ok (expanded, after) ∧
      (Listing.make listedTable after .plain .used .firstUse).toList.map
        ListingEntry.identifier = ["x", "a"] ∧
      (Listing.make listedTable after .plain .all .firstUse).toList.map
        ListingEntry.identifier = ["x", "a", "c", "d"] := by
  have expands : expand listedTable .plain { forcedFormsMarkUsed := false } listedText = .ok
      (⟨[⟨"delta (D)", false⟩, ⟨" ", true⟩, ⟨"A", false⟩, ⟨" ", true⟩, ⟨"x-ray (X)", false⟩,
        ⟨" ", true⟩, ⟨"A", false⟩]⟩,
        UsageRegistry.empty.run [.note "a", .record "x", .note "a"]) :=
    eq_ok_of_toOption (by decide +kernel)
  have shows := expand_showsUsage listedTable .plain { forcedFormsMarkUsed := false } listedText
    _ _ .plain expands
  have used : _ = ["x", "a"] := shows.used_firstUse.trans (by decide +kernel)
  refine ⟨_, _, expands, used, ?_⟩
  rw [shows.all_firstUse, used]
  decide +kernel

end Expansion

end Acronyms
