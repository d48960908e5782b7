import Acronyms.Proofs.Expansion.Success

/-!
# What introduces a short form

In a document of automatic markers a short form stands for an acronym whose first use is
consumed, so a counted marker of the same identifier stands before it.  The first such
marker finds nothing consumed (`exists_first_use`) and introduces the acronym: in full, or
spelled out where the single-use rule holds and no other marker counts the identifier.

So the full form comes first in all cases but one (`exists_introduction_of_short`).  Under
the single-use rule an acronym that is counted once is spelled out, without its
abbreviation, and a starred marker behind that place finds the first use consumed and shows
an abbreviation that was never introduced (`not_shortAfterFull_of_starred`).
-/

set_option autoImplicit false

namespace Acronyms.Expansion

variable {policy : Policy} {tokens : List String} {position : Nat} {identifier : String}

/-- Every marker among the words is automatic. -/
def AllAutomatic (tokens : List String) : Prop :=
  ∀ token ∈ tokens, ∀ marker, Marker.read? token = .ok (some marker) → marker.form = .auto

theorem allAutomatic_iff :
    AllAutomatic tokens ↔ ∀ marker ∈ tokens.filterMap Marker.ofToken?, marker.form = .auto := by
  simp only [AllAutomatic, List.mem_filterMap, Marker.ofToken?_eq_some_iff]
  exact ⟨fun automatic marker ⟨token, member, read⟩ => automatic token member marker read,
    fun automatic token member marker read => automatic marker ⟨token, member, read⟩⟩

instance (tokens : List String) : Decidable (AllAutomatic tokens) :=
  decidable_of_iff _ allAutomatic_iff.symm

/-- The word at a position of a fresh document denotes a marker, the words before it choose
a variant for it, and its replacement is its text in that variant. -/
structure ShownAs (table : Table) (policy : Policy) (tokens : List String)
    (replacements : Replacements) (position : Nat) (marker : Marker) (variant : Variant) :
    Prop where
  denoted : ∃ token, tokens[position]? = some token ∧ Marker.read? token = .ok (some marker)
  chosen : variantAt policy (references tokens) .empty tokens position marker = variant
  shown : ∃ acronym output, table.get? marker.identifier = some acronym ∧
    Plain.render marker acronym variant policy.pluralSuffix = .ok output ∧
    replacements.get? position = some (.text (output ++ marker.trailing))

/-- A marker of an identifier is shown in a variant before a position. -/
def ShownBefore (table : Table) (policy : Policy) (tokens : List String)
    (replacements : Replacements) (position : Nat) (identifier : String) (variant : Variant) :
    Prop :=
  ∃ earlier < position, ∃ marker, marker.identifier = identifier ∧
    ShownAs table policy tokens replacements earlier marker variant

/-- Every short form comes after the full form of its acronym. -/
def ShortAfterFull (table : Table) (policy : Policy) (tokens : List String)
    (replacements : Replacements) : Prop :=
  ∀ position marker, ShownAs table policy tokens replacements position marker .short →
    ShownBefore table policy tokens replacements position marker.identifier .full

/-! ## The first use of an identifier -/

/-- **Of the uses before a position one is the first.** -/
theorem exists_first_use (used : usesOf identifier (tokens.take position) ≠ []) :
    ∃ earlier < position, ∃ token marker, tokens[earlier]? = some token ∧
      Marker.read? token = .ok (some marker) ∧ marker.counted = true ∧
      marker.identifier = identifier ∧ usesOf identifier (tokens.take earlier) = [] := by
  induction position with
  | zero => exact absurd rfl used
  | succ position ih =>
    by_cases before : usesOf identifier (tokens.take position) = []
    · -- The last word of the front is the only one that can hold a use.
      rw [List.take_add_one, usesOf_append, before, List.nil_append] at used
      obtain ⟨marker, member⟩ := List.exists_mem_of_ne_nil _ used
      obtain ⟨⟨token, stands, read⟩, counted, same⟩ := mem_usesOf.mp member
      exact ⟨position, Nat.lt_succ_self position, token, marker, Option.mem_toList.mp stands, read,
        counted, same, before⟩
    · obtain ⟨earlier, less, rest⟩ := ih before
      exact ⟨earlier, Nat.lt_succ_of_lt less, rest⟩

/-- A counted marker is a use of the words from its position on. -/
theorem mem_usesOf_drop {token : String} {marker : Marker} (stands : tokens[position]? = some token)
    (read : Marker.read? token = .ok (some marker)) (counted : marker.counted = true) :
    marker ∈ usesOf marker.identifier (tokens.drop position) := by
  refine mem_usesOf.mpr ⟨⟨token, ?_, read⟩, counted, rfl⟩
  refine List.mem_of_getElem? (i := 0) ?_
  rwa [List.getElem?_drop, Nat.add_zero]

theorem references_eq_add (tokens : List String) (position : Nat) (identifier : String) :
    references tokens identifier =
      (usesOf identifier (tokens.take position)).length +
        (usesOf identifier (tokens.drop position)).length := by
  rw [← List.length_append, ← usesOf_append, List.take_append_drop, references]

/-- A counted marker behind another use is counted with it. -/
theorem two_le_references {token : String} {marker : Marker}
    (stands : tokens[position]? = some token) (read : Marker.read? token = .ok (some marker))
    (counted : marker.counted = true)
    (used : usesOf marker.identifier (tokens.take position) ≠ []) :
    2 ≤ references tokens marker.identifier := by
  have before := List.length_pos_of_ne_nil used
  have here := List.length_pos_of_mem (mem_usesOf_drop stands read counted)
  rw [references_eq_add tokens position]
  omega

/-! ## Variants of automatic markers -/

/-- In a fresh document the first use is consumed before a position only if a use stands
before it. -/
theorem usesOf_ne_nil_of_consumedBefore
    (consumed : ConsumedBefore policy .empty tokens position identifier) :
    usesOf identifier (tokens.take position) ≠ [] := by
  rcases consumed with known | ⟨marker, member, _⟩
  · cases known
  · exact List.ne_nil_of_mem member

/-- An automatic marker is short only where the first use is consumed. -/
theorem consumedBefore_of_short {marker : Marker} (automatic : marker.form = .auto)
    (short : variantAt policy (references tokens) .empty tokens position marker = .short) :
    ConsumedBefore policy .empty tokens position marker.identifier := by
  by_contra fresh
  simp only [variantAt, automatic, if_neg fresh] at short
  split at short <;> cases short

/-- **The first use of an acronym introduces it**: spelled out under the single-use rule if
nothing else counts the identifier, and in full otherwise. -/
theorem variantAt_of_first_use {marker : Marker} (automatic : marker.form = .auto)
    (first : usesOf marker.identifier (tokens.take position) = []) :
    variantAt policy (references tokens) .empty tokens position marker =
      if policy.single = true ∧ references tokens marker.identifier ≤ 1 then .long else .full := by
  have fresh : ¬ ConsumedBefore policy .empty tokens position marker.identifier :=
    fun consumed => usesOf_ne_nil_of_consumedBefore consumed first
  simp only [variantAt, automatic, if_neg fresh]

/-! ## Introductions -/

variable {table : Table} {replacements : Replacements} {after : UsageRegistry}

/-- Every marker of a planned document is shown in the variant that is chosen for it. -/
theorem shownAs_of_plan
    (planned : plan table .plain policy .empty tokens = .ok (replacements, after)) {token : String}
    {marker : Marker} (stands : tokens[position]? = some token)
    (read : Marker.read? token = .ok (some marker)) :
    ShownAs table policy tokens replacements position marker
      (variantAt policy (references tokens) .empty tokens position marker) where
  denoted := ⟨token, stands, read⟩
  chosen := rfl
  shown := rendered_of_plan planned stands read

/-- Before a short form there is a counted marker of its identifier. -/
theorem usesOf_ne_nil_of_short (automatic : AllAutomatic tokens) {marker : Marker}
    (short : ShownAs table policy tokens replacements position marker .short) :
    usesOf marker.identifier (tokens.take position) ≠ [] := by
  obtain ⟨token, stands, read⟩ := short.denoted
  have isAuto := automatic token (List.mem_of_getElem? stands) marker read
  exact usesOf_ne_nil_of_consumedBefore (consumedBefore_of_short isAuto short.chosen)

/-- The counted marker that introduces the acronym of a short form. -/
theorem exists_introduction_of_short (automatic : AllAutomatic tokens)
    (planned : plan table .plain policy .empty tokens = .ok (replacements, after)) {marker : Marker}
    (short : ShownAs table policy tokens replacements position marker .short) :
    ∃ earlier < position, ∃ introducing, introducing.counted = true ∧
      introducing.identifier = marker.identifier ∧
      ShownAs table policy tokens replacements earlier introducing
        (if policy.single = true ∧ references tokens marker.identifier ≤ 1 then .long
        else .full) := by
  obtain ⟨earlier, before, word, introducing, found, denoted, counted, same, first⟩ :=
    exists_first_use (usesOf_ne_nil_of_short automatic short)
  have introduces := shownAs_of_plan planned found denoted
  rw [← same] at first
  rw [variantAt_of_first_use (automatic word (List.mem_of_getElem? found) introducing denoted)
    first, same] at introduces
  exact ⟨earlier, before, introducing, counted, same, introduces⟩

/-- **A short form comes after its introduction.**  Where a fresh document of automatic
markers expands into resolved text, every marker is shown in some variant, and one that is
shown short comes after a marker of its identifier that is shown in full.  The exception is
an identifier that is counted once where the single-use rule holds: its short forms are
starred, and come after its one counted marker, which is spelled out. -/
theorem short_introduced_of_expand {δ : Type} [Document δ] (table : Table) (policy : Policy)
    (document expanded : δ) (after : UsageRegistry)
    (automatic : AllAutomatic (Document.tokens document))
    (succeeds : expand table .plain policy document = .ok (expanded, after)) :
    ∃ replacements,
      plan table .plain policy .empty (Document.tokens document) = .ok (replacements, after) ∧
      expanded = Document.apply replacements document ∧
      (∀ position token marker, (Document.tokens document)[position]? = some token →
        Marker.read? token = .ok (some marker) →
        ∃ variant,
          ShownAs table policy (Document.tokens document) replacements position marker variant) ∧
      ∀ position marker,
        ShownAs table policy (Document.tokens document) replacements position marker .short →
        (¬ (policy.single = true ∧ references (Document.tokens document) marker.identifier = 1) →
          ShownBefore table policy (Document.tokens document) replacements position
            marker.identifier .full) ∧
        (policy.single = true ∧ references (Document.tokens document) marker.identifier = 1 →
          marker.counted = false ∧
          ∃ earlier < position, ∃ introducing, introducing.counted = true ∧
            introducing.identifier = marker.identifier ∧
            ShownAs table policy (Document.tokens document) replacements earlier introducing
              .long) := by
  obtain ⟨replacements, planned, applied⟩ := expandFrom_eq_ok_iff.mp succeeds
  refine ⟨replacements, planned, applied,
    fun position token marker stands read => ⟨_, shownAs_of_plan planned stands read⟩, ?_⟩
  intro position marker short
  have used := usesOf_ne_nil_of_short automatic short
  have once : 1 ≤ references (Document.tokens document) marker.identifier := by
    have before := List.length_pos_of_ne_nil used
    rw [references_eq_add _ position]
    omega
  obtain ⟨earlier, before, introducing, counted, same, introduces⟩ :=
    exists_introduction_of_short automatic planned short
  constructor
  · intro common
    rw [if_neg fun rare => common ⟨rare.1, Nat.le_antisymm rare.2 once⟩] at introduces
    exact ⟨earlier, before, introducing, same, introduces⟩
  · rintro ⟨single, rare⟩
    refine ⟨?_, earlier, before, introducing, counted, same, ?_⟩
    · obtain ⟨token, stands, read⟩ := short.denoted
      by_contra isCounted
      have twice := two_le_references stands read (Bool.not_eq_false _ ▸ isCounted) used
      omega
    · rwa [if_pos ⟨single, rare.le⟩] at introduces

/-! ## Worked introductions

Under the single-use rule one identifier is counted once and the other one twice. -/

def introducedTable : Table :=
  SortedMap.ofList [("ai", { long := "artificial intelligence", short := "AI" }),
    ("ml", { long := "machine learning", short := "ML" })]

def introducedText : TextDocument := TextDocument.ofText "ac:ai ac*:ml ac*:ai ac:ml acp:ml"

/-- The plural at the end comes after a full form; the starred marker in the middle comes
after its one counted marker, which is spelled out. -/
theorem short_introduced_of_expand_introducedText :
    AllAutomatic (Document.tokens introducedText) ∧
    ∃ expanded after replacements,
      expand introducedTable .plain { single := true } introducedText = .ok (expanded, after) ∧
      expanded.toText =
        "artificial intelligence machine learning (ML) AI machine learning (ML) MLs" ∧
      ShownBefore introducedTable { single := true } (Document.tokens introducedText) replacements
        4 "ml" .full ∧
      ∃ earlier < 2, ∃ introducing, introducing.counted = true ∧ introducing.identifier = "ai" ∧
        ShownAs introducedTable { single := true } (Document.tokens introducedText) replacements
          earlier introducing .long := by
  have automatic : AllAutomatic (Document.tokens introducedText) := by decide +kernel
  have expands : expand introducedTable .plain { single := true } introducedText = .ok
      (⟨[⟨"artificial intelligence", false⟩, ⟨" ", true⟩, ⟨"machine learning (ML)", false⟩,
        ⟨" ", true⟩, ⟨"AI", false⟩, ⟨" ", true⟩, ⟨"machine learning (ML)", false⟩, ⟨" ", true⟩,
        ⟨"MLs", false⟩]⟩,
        UsageRegistry.empty.run [.record "ai", .record "ml", .record "ml"]) :=
    eq_ok_of_toOption (by decide +kernel)
  obtain ⟨replacements, _, _, shown, introduced⟩ := short_introduced_of_expand introducedTable
    { single := true } introducedText _ _ automatic expands
  obtain ⟨variant, plural⟩ := shown 4 "acp:ml" { identifier := "ml", plural := true }
    (by decide +kernel) (eq_ok_of_toOption (by decide +kernel))
  obtain ⟨other, starred⟩ := shown 2 "ac*:ai" { identifier := "ai", counted := false }
    (by decide +kernel) (eq_ok_of_toOption (by decide +kernel))
  have pluralShort : variant = .short := plural.chosen.symm.trans (by decide +kernel)
  have starredShort : other = .short := starred.chosen.symm.trans (by decide +kernel)
  rw [pluralShort] at plural
  rw [starredShort] at starred
  exact ⟨automatic, _, _, replacements, expands, by decide +kernel,
    (introduced 4 _ plural).1 (by decide +kernel),
    ((introduced 2 _ starred).2 (by decide +kernel)).2⟩

/-- One counted marker and a starred one behind it. -/
def starredText : TextDocument := TextDocument.ofText "ac:ml ac*:ml"

/-- **A short form without a full form before it.**  Under the single-use rule the one
counted marker is spelled out, and the starred marker behind it is short. -/
theorem not_shortAfterFull_of_starred :
    AllAutomatic (Document.tokens starredText) ∧
    ∃ expanded after replacements,
      expand workedTable .plain { single := true } starredText = .ok (expanded, after) ∧
      plan workedTable .plain { single := true } .empty (Document.tokens starredText) =
        .ok (replacements, after) ∧
      expanded.toText = "machine learning ML" ∧
      ¬ ShortAfterFull workedTable { single := true } (Document.tokens starredText)
        replacements := by
  have expands : expand workedTable .plain { single := true } starredText = .ok
      (⟨[⟨"machine learning", false⟩, ⟨" ", true⟩, ⟨"ML", false⟩]⟩,
        UsageRegistry.empty.run [.record "ml"]) :=
    eq_ok_of_toOption (by decide +kernel)
  obtain ⟨replacements, planned, _⟩ := expandFrom_eq_ok_iff.mp expands
  refine ⟨by decide +kernel, _, _, replacements, expands, planned, by decide +kernel, ?_⟩
  intro claimed
  have second : (Document.tokens starredText)[1]? = some "ac*:ml" := by decide +kernel
  have peeks : Marker.read? "ac*:ml" = .ok (some { identifier := "ml", counted := false }) :=
    eq_ok_of_toOption (by decide +kernel)
  have starred := shownAs_of_plan planned second peeks
  have short : variantAt { single := true } (references (Document.tokens starredText)) .empty
      (Document.tokens starredText) 1 { identifier := "ml", counted := false } = .short := by
    decide +kernel
  rw [short] at starred
  obtain ⟨earlier, before, marker, same, full⟩ := claimed 1 _ starred
  obtain rfl : earlier = 0 := Nat.lt_one_iff.mp before
  -- The only marker before the starred one is the counted one, and that one is long.
  obtain ⟨token, stands, read⟩ := full.denoted
  have first : (Document.tokens starredText)[0]? = some "ac:ml" := by decide +kernel
  have denoted : Marker.read? "ac:ml" = .ok (some { identifier := "ml" }) :=
    eq_ok_of_toOption (by decide +kernel)
  obtain rfl : token = "ac:ml" := Option.some.inj (stands.symm.trans first)
  rw [denoted] at read
  cases read
  exact absurd full.chosen (by decide +kernel)

end Acronyms.Expansion
