import Acronyms.Listing
import Acronyms.Expansion.Draft

/-!
# Sessions

A session expands several documents with one registry, so that later documents
know the first uses of earlier ones, until it is reset.  Every expansion changes the
registry of the session in place.
-/

set_option autoImplicit false

namespace Acronyms

/-- The fixed choices of a session and its usage so far. -/
structure Session where
  table : Table
  mode : OutputMode
  policy : Policy
  registry : UsageRegistry := .empty

namespace Session

variable {δ : Type} [Document δ]

/-- What a session can be asked. -/
inductive Request (δ : Type) where
  /-- Expand a document. -/
  | expand (document : δ)
  /-- Forget the usage. -/
  | reset
  /-- List acronyms. -/
  | list (filter : ListingFilter) (sort : ListingSort)

/-- What a session answers. -/
inductive Answer (δ : Type) where
  /-- The expanded document. -/
  | expanded (document : δ)
  /-- The expansion failed. -/
  | failed (error : ExpansionError)
  /-- The usage is forgotten. -/
  | done
  /-- The listing asked for. -/
  | listed (entries : List ListingEntry)

/-- The answer to a request, and the session after it. -/
def step (session : Session) (request : Request δ) : Answer δ × Session :=
  match request with
  | .expand document =>
    match Expansion.expandIn session.table session.mode session.policy session.registry
        document with
    | (.ok expanded, registry) => (.expanded expanded, { session with registry })
    | (.error error, registry) => (.failed error, { session with registry })
  | .reset => (.done, { session with registry := session.registry.reset })
  | .list filter sort =>
    (.listed (Listing.make session.table session.registry session.mode filter sort).toList, session)

/-- The answers to a sequence of requests, each with the session after it. -/
def trace (session : Session) : List (Request δ) → List (Answer δ × Session)
  | [] => []
  | request :: rest =>
    let result := session.step request
    result :: trace result.2 rest

def run (session : Session) : List (Request δ) → Session
  | [] => session
  | request :: rest => run (session.step request).2 rest

end Session

end Acronyms
