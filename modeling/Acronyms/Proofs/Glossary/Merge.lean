import Acronyms.Proofs.Glossary.Assignment

/-!
# Merged glossaries

A merge treats definitions and options alike: whatever the second glossary gives wins,
and the first one answers for the rest (`get?_table_merge`, `get?_options_merge`).
Glossaries form **a monoid under merging** (`merge_assoc`, `empty_merge`, `merge_empty`),
in which the order of the options counts.
-/

set_option autoImplicit false

namespace Acronyms.Glossary

theorem get?_table_merge (glossary other : Glossary) (identifier : String) :
    (glossary.merge other).table.get? identifier =
      (other.table.get? identifier).or (glossary.table.get? identifier) :=
  SortedMap.get?_union glossary.table other.table identifier

theorem get?_options_merge (glossary other : Glossary) (key : String) :
    (glossary.merge other).options.get? key =
      (other.options.get? key).or (glossary.options.get? key) :=
  PackageOptions.get?_merge glossary.options other.options key

theorem merge_empty (glossary : Glossary) : glossary.merge .empty = glossary := rfl

theorem empty_merge (glossary : Glossary) : empty.merge glossary = glossary :=
  congrArg₂ Glossary.mk (SortedMap.empty_union glossary.table)
    (PackageOptions.empty_merge glossary.options)

theorem merge_assoc (first second third : Glossary) :
    (first.merge second).merge third = first.merge (second.merge third) :=
  congrArg₂ Glossary.mk (SortedMap.union_assoc first.table second.table third.table)
    (PackageOptions.merge_assoc first.options second.options third.options)

end Acronyms.Glossary
