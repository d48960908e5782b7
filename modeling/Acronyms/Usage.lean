import Acronyms.SortedMap

/-!
# Usage of acronyms

The registry of a document says, for every identifier that was referred to, how
often it was counted and whether its first use has been consumed.  An occurrence
is *recorded* when it consumes the first use, and only *noted* when it counts
without doing so.

Ranks remember two orders: in which order identifiers were first seen, and in
which order first uses were consumed.  The first-use order lists the consumed
identifiers in the latter order and the remaining ones in the former.  It is a
sort of the entries by rank, and so does not depend on how the entries are
enumerated.

An entry says twice whether its first use was consumed: a flag classifies the next
occurrence, and the first-use rank, set together with the flag, decides the order.
-/

set_option autoImplicit false

namespace Acronyms

/-- What an occurrence is to its identifier. -/
inductive Occurrence where
  /-- The first use. -/
  | first
  /-- A later use. -/
  | later
  deriving DecidableEq, Repr

/-- The usage of one identifier. -/
structure UsageEntry where
  seenCount : Nat
  /-- Whether the first use is consumed. -/
  firstUseRendered : Bool
  /-- The position among the identifiers in the order they were first seen. -/
  seenRank : Nat
  /-- The position among the first uses, once the first use is consumed. -/
  firstUseRank : Option Nat
  deriving DecidableEq, Repr

namespace UsageEntry

/-- The first-use order on entries: consumed first uses by their rank, then the
others by the order in which they were seen. -/
def precedes (left right : UsageEntry) : Bool :=
  match left.firstUseRank, right.firstUseRank with
  | some leftRank, some rightRank =>
    leftRank < rightRank || (leftRank == rightRank && left.seenRank ≤ right.seenRank)
  | some _, none => true
  | none, some _ => false
  | none, none => left.seenRank ≤ right.seenRank

end UsageEntry

/-- The usage of every identifier seen since the last reset. -/
structure UsageRegistry where
  entries : SortedMap String UsageEntry := ∅
  /-- The number of first uses consumed. -/
  firstUses : Nat := 0
  deriving DecidableEq, Inhabited

namespace UsageRegistry

def empty : UsageRegistry := {}

/-- The usage of an identifier, if it was seen. -/
def get? (registry : UsageRegistry) (identifier : String) : Option UsageEntry :=
  registry.entries.get? identifier

/-- The entry of an identifier, or the entry with which it would be first seen. -/
def entryOrNew (registry : UsageRegistry) (identifier : String) : UsageEntry :=
  (registry.get? identifier).getD ⟨0, false, registry.entries.size, none⟩

/-- What the next occurrence of an identifier would be. -/
def classify (registry : UsageRegistry) (identifier : String) : Occurrence :=
  if (registry.get? identifier).any UsageEntry.firstUseRendered then .later else .first

/-- Count an occurrence and consume the first use. -/
def record (registry : UsageRegistry) (identifier : String) : UsageRegistry :=
  let entry := registry.entryOrNew identifier
  let counted := { entry with seenCount := entry.seenCount + 1 }
  if entry.firstUseRendered then
    { registry with entries := registry.entries.insert identifier counted }
  else
    { entries := registry.entries.insert identifier
        { counted with firstUseRendered := true, firstUseRank := some registry.firstUses }
      firstUses := registry.firstUses + 1 }

/-- Record an occurrence and say what it was: the first use if the entry found or made
for the identifier had none. -/
def recordAndClassify (registry : UsageRegistry) (identifier : String) :
    Occurrence × UsageRegistry :=
  let occurrence :=
    if (registry.entryOrNew identifier).firstUseRendered then .later else .first
  (occurrence, registry.record identifier)

/-- Count an occurrence without consuming the first use. -/
def note (registry : UsageRegistry) (identifier : String) : UsageRegistry :=
  let entry := registry.entryOrNew identifier
  { registry with
    entries := registry.entries.insert identifier { entry with seenCount := entry.seenCount + 1 } }

def reset (_registry : UsageRegistry) : UsageRegistry := empty

/-- The number of counted occurrences of an identifier. -/
def seenCount (registry : UsageRegistry) (identifier : String) : Nat :=
  ((registry.get? identifier).map UsageEntry.seenCount).getD 0

def size (registry : UsageRegistry) : Nat := registry.entries.size

def isEmpty (registry : UsageRegistry) : Bool := registry.entries.isEmpty

/-- The identifiers of an enumeration of entries, in first-use order. -/
def orderOf (enumeration : List (String × UsageEntry)) : List String :=
  (enumeration.mergeSort fun left right => left.2.precedes right.2).map (·.1)

def firstUseOrder (registry : UsageRegistry) : List String :=
  orderOf registry.entries.toList

/-! ## Histories -/

/-- An operation on a registry. -/
inductive Step where
  | record (identifier : String)
  | note (identifier : String)
  | classify (identifier : String)
  | reset
  deriving DecidableEq, Repr

def step (registry : UsageRegistry) : Step → UsageRegistry
  | .record identifier => registry.record identifier
  | .note identifier => registry.note identifier
  | .classify _ => registry
  | .reset => registry.reset

def run (registry : UsageRegistry) (steps : List Step) : UsageRegistry :=
  steps.foldl step registry

/-- What an operation answers.  A recording and a classification say what the
occurrence is; the other operations are silent. -/
def answer (registry : UsageRegistry) : Step → Option Occurrence
  | .record identifier => some (registry.recordAndClassify identifier).1
  | .note _ => none
  | .classify identifier => some (registry.classify identifier)
  | .reset => none

/-- The operations of a run, each with its answer. -/
def transcript (registry : UsageRegistry) : List Step → List (Step × Option Occurrence)
  | [] => []
  | step :: rest => (step, registry.answer step) :: transcript (registry.step step) rest

/-- A registry that some sequence of operations leads to. -/
def Reachable (registry : UsageRegistry) : Prop :=
  ∃ steps, empty.run steps = registry

end UsageRegistry

end Acronyms
