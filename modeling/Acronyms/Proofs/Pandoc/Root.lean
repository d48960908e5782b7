import Acronyms.Pandoc.Document

/-!
# Documents as JSON objects

A JSON value is a document exactly if it is an object whose blocks are an array and whose
metadata are an object or absent (`ofJson_eq_ok_iff`).  Reading such a value loses none of
its members: **the document has the members that the value has**
(`member?_toJson_of_ofJson`), and is read again as itself (`ofJson_toJson`).
-/

set_option autoImplicit false

namespace Acronyms.PandocDocument

/-! ## The other members -/

theorem otherMembers_insertEntry_blocks (blocks : Json) (members : Json.Members) :
    otherMembers (insertEntry "blocks" blocks members) = otherMembers members := by
  rw [otherMembers, eraseEntry_insertEntry_self, otherMembers]

theorem otherMembers_insertEntry_meta (metadata : Json) (members : Json.Members) :
    otherMembers (insertEntry "meta" metadata members) = otherMembers members := by
  rw [otherMembers, eraseEntry_comm, eraseEntry_insertEntry_self, eraseEntry_comm, otherMembers]

theorem lookup_otherMembers {name : String} (notBlocks : name ≠ "blocks") (notMeta : name ≠ "meta")
    (members : Json.Members) : (otherMembers members).lookup name = members.lookup name := by
  rw [otherMembers, lookup_eraseEntry_of_ne notMeta, lookup_eraseEntry_of_ne notBlocks]

theorem lookup_otherMembers_meta (members : Json.Members) :
    (otherMembers members).lookup "meta" = none :=
  lookup_eraseEntry_self "meta" _

theorem otherMembers_idem (members : Json.Members) :
    otherMembers (otherMembers members) = otherMembers members := by
  unfold otherMembers
  rw [eraseEntry_comm "blocks" "meta", eraseEntry_idem, eraseEntry_idem]

/-! ## Reading a document -/

/-- **A value is a document exactly if it is an object with an array of blocks, and with
metadata that are an object if there are any.** -/
theorem ofJson_eq_ok_iff {value : Json} {document : PandocDocument} :
    ofJson value = .ok document ↔
      ∃ members, value = .object members ∧
        members.lookup "blocks" = some (.array document.blocks) ∧
        members.lookup "meta" = document.metadata.map .object ∧
        document.others = otherMembers members := by
  obtain ⟨blocks, metadata, others⟩ := document
  unfold ofJson
  cases value with
  | object members =>
    simp only [Json.asObject?, Json.object.injEq, exists_eq_left']
    cases found : members.lookup "blocks" with
    | none => simp
    | some value =>
      cases value with
      | array items =>
        cases described : members.lookup "meta" with
        | none => cases metadata <;> simp [Json.asArray?, eq_comm]
        | some value => cases value <;> cases metadata <;> simp [Json.asArray?, eq_comm]
      | _ => simp [Json.asArray?]
  | _ => simp [Json.asObject?]

theorem ofJson_eq_ok {members : Json.Members} {blocks : List Json} {metadata : Option Json.Members}
    (found : members.lookup "blocks" = some (.array blocks))
    (described : members.lookup "meta" = metadata.map .object) :
    ofJson (.object members) = .ok { blocks, metadata, others := otherMembers members } :=
  ofJson_eq_ok_iff.mpr ⟨members, rfl, found, described, rfl⟩

/-! ## Writing a document -/

/-- What a document answers for the name of a member. -/
theorem lookup_toMembers_eq (document : PandocDocument) (name : String) :
    document.toMembers.lookup name =
      if name = "blocks" then some (.array document.blocks)
      else (if name = "meta" then document.metadata.map .object else none).or
        (document.others.lookup name) := by
  have written : (insertEntry "blocks" (.array document.blocks) document.others).lookup name =
      if name = "blocks" then some (.array document.blocks) else document.others.lookup name := by
    split
    next same => rw [same, lookup_insertEntry_self]
    next differ => rw [lookup_insertEntry_of_ne _ differ]
  unfold toMembers
  cases document.metadata with
  | none =>
    dsimp only
    rw [written, Option.map_none, ite_self, Option.none_or]
  | some metadata =>
    dsimp only
    by_cases isMeta : name = "meta"
    · rw [isMeta, lookup_insertEntry_self, if_neg (by decide), if_pos rfl]
      rfl
    · rw [lookup_insertEntry_of_ne _ isMeta, written, if_neg isMeta, Option.none_or]

theorem lookup_toMembers_of_others {document : PandocDocument} {members : Json.Members}
    (others : document.others = otherMembers members) (name : String) :
    document.toMembers.lookup name =
      if name = "blocks" then some (.array document.blocks)
      else if name = "meta" then document.metadata.map .object
      else members.lookup name := by
  rw [lookup_toMembers_eq, others]
  split
  next => rfl
  next notBlocks =>
    split
    next isMeta => rw [isMeta, lookup_otherMembers_meta, Option.or_none]
    next notMeta => rw [Option.none_or, lookup_otherMembers notBlocks notMeta]

theorem otherMembers_toMembers (document : PandocDocument) :
    otherMembers document.toMembers = otherMembers document.others := by
  unfold toMembers
  cases document.metadata with
  | none => exact otherMembers_insertEntry_blocks _ _
  | some metadata =>
    exact (otherMembers_insertEntry_meta _ _).trans (otherMembers_insertEntry_blocks _ _)

/-- **A document has the members of the value that it was read from.** -/
theorem member?_toJson_of_ofJson {value : Json} {document : PandocDocument}
    (read : ofJson value = .ok document) (name : String) :
    document.toJson.member? name = value.member? name := by
  obtain ⟨members, rfl, blocks, metadata, others⟩ := ofJson_eq_ok_iff.mp read
  refine (lookup_toMembers_of_others others name).trans ?_
  split
  next isBlocks => rw [isBlocks]; exact blocks.symm
  next =>
    split
    next isMeta => rw [isMeta]; exact metadata.symm
    next => rfl

/-- **A document that was read from a value is read again as itself.** -/
theorem ofJson_toJson {value : Json} {document : PandocDocument}
    (read : ofJson value = .ok document) : ofJson document.toJson = .ok document := by
  obtain ⟨members, rfl, blocks, metadata, others⟩ := ofJson_eq_ok_iff.mp read
  have kept := lookup_toMembers_of_others others
  refine ofJson_eq_ok_iff.mpr ⟨document.toMembers, rfl, ?_, ?_, ?_⟩
  · rw [kept, if_pos rfl]
  · rw [kept, if_neg (by decide), if_pos rfl]
  · rw [otherMembers_toMembers, others, otherMembers_idem]

end Acronyms.PandocDocument
