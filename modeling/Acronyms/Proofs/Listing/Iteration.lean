import Acronyms.Proofs.Listing.Selection

/-!
# A listing taken entry by entry

A listing is consumed from the front, and looks an acronym up only when its turn comes.  A
look-up that fails would end the listing before its time, and the bounds of its length would
be wrong from the beginning.  A listing that is made from a table has only identifiers that
the table defines (`Complete`), and so has every listing that is left of it.  Hence one step
takes the first entry off (`Complete.next?_eq`), and a run takes the entries in their order
and comes to the end (`Complete.toList_of_yields`, `Complete.yields_toList`).

The main statement is `make_listsExactly`: **a listing yields exactly the acronyms that are
asked for, each once, in the order that is asked for and in the text of a full reference, and
at every point knows how many are still to come**.
-/

set_option autoImplicit false

namespace Acronyms.Listing

/-! ## Taking entries -/

/-- Taking entries from a listing one after the other leaves another listing. -/
inductive Yields : Listing → List ListingEntry → Listing → Prop where
  | nothing (listing : Listing) : Yields listing [] listing
  | next {listing after last : Listing} {entry : ListingEntry} {entries : List ListingEntry} :
      listing.next? = some (entry, after) → Yields after entries last →
        Yields listing (entry :: entries) last

/-- All identifiers still to come are defined. -/
def Complete (listing : Listing) : Prop :=
  ∀ identifier ∈ listing.remaining, identifier ∈ listing.table.keys

theorem complete_make (table : Table) (registry : UsageRegistry) (mode : OutputMode)
    (filter : ListingFilter) (sort : ListingSort) :
    (make table registry mode filter sort).Complete :=
  fun _ => mem_keys_of_mem_identifiers

theorem next?_eq_none_of_empty {listing : Listing} (empty : listing.remaining = []) :
    listing.next? = none := by
  rw [next?, empty]

theorem toList_of_empty {listing : Listing} (empty : listing.remaining = []) :
    listing.toList = [] := by
  rw [toList, empty, entriesOf]

namespace Complete

variable {listing : Listing} (complete : listing.Complete)

include complete

/-- **One step takes the first entry off**, and leaves a listing that is complete. -/
theorem next?_eq {identifier : String} {rest : List String}
    (remaining : listing.remaining = identifier :: rest) :
    ∃ entry, listing.next? = some (entry, { listing with remaining := rest }) ∧
      listing.toList = entry :: { listing with remaining := rest }.toList ∧
      { listing with remaining := rest }.Complete := by
  obtain ⟨acronym, found⟩ :=
    SortedMap.mem_keys_iff.mp (complete identifier (remaining ▸ List.mem_cons_self))
  refine ⟨⟨identifier, listing.mode.listingText identifier acronym⟩, ?_, ?_, ?_⟩
  · rw [next?, remaining]
    simp only [found, Option.map_some]
  · simp only [toList, remaining, entriesOf, found]
  · exact fun later member => complete later (remaining ▸ List.mem_cons_of_mem identifier member)

theorem length_toList : listing.toList.length = listing.remaining.length := by
  rw [← List.length_map, toList, map_identifier_entriesOf listing.table listing.mode complete]

/-- **What is taken is the front of the listing**, and what is left the rest. -/
theorem toList_of_yields {seen : List ListingEntry} {current : Listing}
    (yields : Yields listing seen current) :
    listing.toList = seen ++ current.toList ∧ current.Complete := by
  induction yields with
  | nothing listing => exact ⟨rfl, complete⟩
  | @next listing after last entry entries taken yields ih =>
    cases remaining : listing.remaining with
    | nil =>
      rw [next?_eq_none_of_empty remaining] at taken
      cases taken
    | cons identifier rest =>
      obtain ⟨first, stepped, listed, completeAfter⟩ := complete.next?_eq remaining
      obtain ⟨rfl, rfl⟩ : first = entry ∧ _ = after :=
        Prod.mk.inj (Option.some.inj (stepped.symm.trans taken))
      obtain ⟨restListed, completeLast⟩ := ih completeAfter
      exact ⟨by rw [listed, restListed, List.cons_append], completeLast⟩

end Complete

/-- **A listing can be taken to its end.** -/
theorem Complete.yields_toList {listing : Listing} (complete : listing.Complete) :
    Yields listing listing.toList { listing with remaining := [] } := by
  induction remaining : listing.remaining generalizing listing with
  | nil =>
    rw [toList_of_empty remaining, ← remaining]
    exact .nothing listing
  | cons identifier rest ih =>
    obtain ⟨entry, taken, listed, completeAfter⟩ := complete.next?_eq remaining
    rw [listed]
    exact .next taken (ih completeAfter rfl)

/-! ## What is listed -/

/-- Listings select the acronyms of a table, all or the used ones, and order them by name or
by first use; `listed` gives the identifiers that each of them yields. -/
structure SelectsExactly (table : Table) (registry : UsageRegistry)
    (listed : ListingFilter → ListingSort → List String) : Prop where
  once : ∀ filter sort, (listed filter sort).Nodup
  mem_all : ∀ sort identifier, identifier ∈ listed .all sort ↔ identifier ∈ table.keys
  mem_used : ∀ sort identifier,
    identifier ∈ listed .used sort ↔ identifier ∈ table.keys ∧ 0 < registry.seenCount identifier
  alphabetical : ∀ filter, (listed filter .alphabetical).Pairwise (· < ·)
  /-- By first use, the used acronyms are the defined ones of the first-use order. -/
  used_firstUse : listed .used .firstUse =
    registry.firstUseOrder.filter fun identifier => table.contains identifier
  /-- The unused acronyms follow by name. -/
  all_firstUse : ∃ unused, listed .all .firstUse = listed .used .firstUse ++ unused ∧
    unused.Pairwise (· < ·) ∧
    ∀ identifier, identifier ∈ unused ↔
      identifier ∈ table.keys ∧ registry.seenCount identifier = 0
  same : ∀ filter, (listed filter .alphabetical).Perm (listed filter .firstUse)

/-- **The listings of a table select exactly what is asked for**, with a registry that
reflects a history. -/
theorem selectsExactly_identifiers (table : Table) {registry : UsageRegistry}
    {history : List UsageRegistry.Step} (reflects : registry.Reflects history) :
    SelectsExactly table registry (identifiers table registry) where
  once := nodup_identifiers reflects
  mem_all sort identifier := by simp [mem_identifiers reflects]
  mem_used sort identifier := by simp [mem_identifiers reflects, isUsed]
  alphabetical := pairwise_identifiers_alphabetical table registry
  used_firstUse := identifiers_used_firstUse_eq_filter reflects
  all_firstUse := by
    refine ⟨_, identifiers_all_firstUse table registry, ?_, fun identifier => ?_⟩
    · have increase := pairwise_identifiers_alphabetical table registry .all
      rw [identifiers_all_alphabetical] at increase
      exact increase.filter _
    · simp [isUsed]
  same := perm_identifiers reflects

/-- A full reference to an acronym, in the singular, not capitalized and not counted. -/
def uncountedFull (identifier trailing : String) : Marker where
  identifier := identifier
  form := .full
  plural := false
  capitalize := false
  counted := false
  trailing := trailing

/-- The line of an acronym is the rendering of an uncounted full reference to it. -/
theorem render_full_eq_listingText (mode : OutputMode) (identifier trailing ending : String)
    (acronym : Acronym) :
    mode.render (uncountedFull identifier trailing) acronym .full ending =
      .ok (mode.listingText identifier acronym) := by
  cases mode <;> rfl

/-- Every entry shows the text of its own acronym. -/
theorem exists_of_mem_entriesOf {table : Table} {mode : OutputMode} {entry : ListingEntry}
    {identifiers : List String} (member : entry ∈ entriesOf table mode identifiers) :
    ∃ acronym, table.get? entry.identifier = some acronym ∧
      entry.text = mode.listingText entry.identifier acronym := by
  induction identifiers with
  | nil => cases member
  | cons identifier rest ih =>
    rw [entriesOf] at member
    split at member
    next acronym found =>
      rcases List.mem_cons.mp member with rfl | later
      · exact ⟨acronym, found, rfl⟩
      · exact ih later
    next => cases member

/-! ## Listings of a table -/

/-- **A listing lists exactly.**  With any registry that can be reached, it selects and orders
what is asked for.  Whatever has been taken from it, the rest can be taken to the end, and the
bounds of the length are the number of entries still to come.  Every text is that of an
uncounted full reference. -/
theorem make_listsExactly (table : Table) {registry : UsageRegistry}
    (reachable : registry.Reachable) (mode : OutputMode) :
    SelectsExactly table registry (fun filter sort =>
      (make table registry mode filter sort).toList.map ListingEntry.identifier) ∧
    ∀ filter sort,
      (∀ seen current, Yields (make table registry mode filter sort) seen current →
        ∃ rest last, Yields current rest last ∧ last.next? = none ∧
          seen ++ rest = (make table registry mode filter sort).toList ∧
          current.sizeBounds = (rest.length, some rest.length)) ∧
      ∀ entry ∈ (make table registry mode filter sort).toList,
        ∃ acronym, table.get? entry.identifier = some acronym ∧
          ∀ trailing ending,
            mode.render (uncountedFull entry.identifier trailing) acronym .full ending =
              .ok entry.text := by
  obtain ⟨steps, rfl⟩ := reachable
  refine ⟨?_, fun filter sort => ⟨fun seen current yields => ?_, fun entry member => ?_⟩⟩
  · simp only [map_identifier_toList_make]
    exact selectsExactly_identifiers table (UsageRegistry.reflects_run steps)
  · obtain ⟨listed, complete⟩ := (complete_make table _ mode filter sort).toList_of_yields yields
    refine ⟨current.toList, _, complete.yields_toList, next?_eq_none_of_empty rfl, listed.symm, ?_⟩
    rw [complete.length_toList]
    rfl
  · obtain ⟨acronym, found, text⟩ := exists_of_mem_entriesOf member
    refine ⟨acronym, found, fun trailing ending => ?_⟩
    exact (render_full_eq_listingText ..).trans (congrArg _ text.symm)

/-! ## A worked listing

The first use of `a` is not consumed, nothing refers to `c`, and the table does not define
`zz`. -/

def workedTable : Table :=
  SortedMap.ofList [("a", { long := "alpha", short := "A" }),
    ("b", { long := "bravo", short := "B" }), ("c", { long := "charlie", short := "C" })]

def workedRegistry : UsageRegistry :=
  UsageRegistry.empty.run [.note "a", .record "zz", .record "b"]

/-- The worked registry can be reached, and by first use it lists `b` and `a`, and then `c`.
Once `b` is taken, two entries are still to come. -/
theorem make_listsExactly_workedListing :
    workedRegistry.Reachable ∧
    (make workedTable workedRegistry .latex .used .firstUse).toList.map
      ListingEntry.identifier = ["b", "a"] ∧
    ∃ current rest last,
      Yields (make workedTable workedRegistry .latex .all .firstUse)
        [⟨"b", "\\acf*\x7bb\x7d"⟩] current ∧
      Yields current rest last ∧ last.next? = none ∧
      rest.map ListingEntry.identifier = ["a", "c"] ∧ current.sizeBounds = (2, some 2) := by
  have reachable : workedRegistry.Reachable := ⟨_, rfl⟩
  have reflects : workedRegistry.Reflects _ := UsageRegistry.reflects_run _
  have order : workedRegistry.firstUseOrder = ["zz", "b", "a"] :=
    reflects.firstUseOrder_eq.trans (by decide +kernel)
  have remaining : identifiers workedTable workedRegistry .all .firstUse = ["b", "a", "c"] := by
    rw [identifiers_all_firstUse, identifiers_used_firstUse_eq_filter reflects, order]
    decide +kernel
  have yields : Yields (make workedTable workedRegistry .latex .all .firstUse)
      [⟨"b", "\\acf*\x7bb\x7d"⟩] ⟨workedTable, .latex, ["a", "c"]⟩ := by
    refine .next ?_ (.nothing _)
    rw [make, remaining]
    rfl
  obtain ⟨selects, walks⟩ := make_listsExactly workedTable reachable .latex
  obtain ⟨rest, last, taken, ended, listed, -⟩ := (walks .all .firstUse).1 _ _ yields
  refine ⟨reachable, selects.used_firstUse.trans ?_, _, rest, last, yields, taken, ended, ?_, rfl⟩
  · rw [order]
    decide +kernel
  · have identifiers := congrArg (List.map ListingEntry.identifier) listed
    rw [map_identifier_toList_make, remaining] at identifiers
    exact (List.cons.inj identifiers).2

end Acronyms.Listing
