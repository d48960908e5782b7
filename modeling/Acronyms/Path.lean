/-!
# Paths

Paths are text.  They are joined and split, but never normalized: `a/../b` stays what
it is, and only reading a file follows it.

The directory that a path lies in is a shorter text (`length_lt_of_parent?`), so going
up from a directory ends, and a directory has finitely many ancestors.
-/

set_option autoImplicit false

namespace Acronyms.Path

/-! ## Components -/

/-- The pieces of a text between its slashes. -/
def splitAtSlashes : List Char → List (List Char)
  | [] => [[]]
  | character :: rest =>
    if character = '/' then [] :: splitAtSlashes rest
    else
      match splitAtSlashes rest with
      | [] => [[character]]
      | piece :: pieces => (character :: piece) :: pieces

/-- The components of a path, with an empty one for every superfluous slash. -/
def components (path : String) : List String :=
  (splitAtSlashes path.toList).map String.ofList

/-- Whether a path starts at the root of the machine. -/
def isAbsolute (path : String) : Bool := path.toList.head? == some '/'

/-- A path seen from a directory; an absolute path stands for itself. -/
def join (directory path : String) : String :=
  if isAbsolute path ∨ directory = "" then path
  else if directory.toList.getLast? = some '/' then directory ++ path
  else directory ++ "/" ++ path

def isIdle (component : String) : Bool := component == "" || component == "."

/-- Components without the idle ones at the end; a leading one is kept. -/
def trimIdle (components : List String) : List String :=
  match components with
  | [] => []
  | first :: rest => first :: (rest.reverse.dropWhile isIdle).reverse

/-! ## Going up -/

/-- The directory that a path lies in: the path without its last component; `none` for
a path without components. -/
def parent? (path : String) : Option String :=
  match trimIdle (components path) with
  | [] => none
  | [first] => if first = "" then none else some ""
  | first :: rest =>
    match trimIdle (first :: rest.dropLast) with
    | [""] => some "/"
    | shorter => some ("/".intercalate shorter)

/-- The length of components with a slash behind each. -/
def slashedLength : List String → Nat
  | [] => 0
  | component :: rest => component.length + 1 + slashedLength rest

theorem slashedLength_splitAtSlashes (characters : List Char) :
    slashedLength ((splitAtSlashes characters).map String.ofList) = characters.length + 1 := by
  induction characters with
  | nil => rfl
  | cons character rest ih =>
    rw [splitAtSlashes]
    split
    next =>
      rw [List.map_cons, slashedLength, ih]
      simp [Nat.add_comm]
    next =>
      split
      next none => simp [none, slashedLength] at ih
      next piece pieces split =>
        simp only [split, slashedLength, List.map_cons, List.length_cons,
          String.length_ofList] at ih ⊢
        omega

theorem slashedLength_components (path : String) :
    slashedLength (components path) = path.length + 1 :=
  slashedLength_splitAtSlashes path.toList

theorem length_intercalate_slash (first : String) (rest : List String) :
    ("/".intercalate (first :: rest)).length + 1 = slashedLength (first :: rest) := by
  induction rest generalizing first with
  | nil => rw [String.intercalate_singleton, slashedLength, slashedLength, Nat.add_zero]
  | cons second rest ih =>
    have later := ih second
    have slash : "/".length = 1 := rfl
    rw [String.intercalate_cons_cons, String.length_append, String.length_append, slashedLength,
      ← later]
    omega

theorem slashedLength_append (front back : List String) :
    slashedLength (front ++ back) = slashedLength front + slashedLength back := by
  induction front with
  | nil => simp [slashedLength]
  | cons component front ih =>
    rw [List.cons_append, slashedLength, slashedLength, ih]
    omega

/-- Trimming takes components away at the end, and a component that is kept there behind
another one is not idle. -/
theorem trimIdle_eq_cons {components : List String} {first : String} {kept : List String}
    (trimmed : trimIdle components = first :: kept) :
    (∃ idle, components = first :: kept ++ idle) ∧
      (kept = [] ∨ ∃ front last, kept = front ++ [last] ∧ isIdle last = false) := by
  cases components with
  | nil => cases trimmed
  | cons head rest =>
    obtain ⟨rfl, rfl⟩ := List.cons.inj trimmed
    refine ⟨⟨(rest.reverse.takeWhile isIdle).reverse, ?_⟩, ?_⟩
    · rw [List.cons_append, ← List.reverse_append, List.takeWhile_append_dropWhile,
        List.reverse_reverse]
    · cases kept : rest.reverse.dropWhile isIdle with
      | nil => exact .inl rfl
      | cons last front =>
        have solid := List.head?_dropWhile_not isIdle rest.reverse
        rw [kept] at solid
        exact .inr ⟨front.reverse, last, List.reverse_cons, by simpa using solid⟩

/-- **The directory that a path lies in is a shorter text.** -/
theorem length_lt_of_parent? {path up : String} (found : parent? path = some up) :
    up.length < path.length := by
  have whole := slashedLength_components path
  unfold parent? at found
  split at found
  next => cases found
  next first trimmed =>
    -- One component is left out, and nothing remains.
    obtain ⟨⟨idle, parts⟩, _⟩ := trimIdle_eq_cons trimmed
    split at found
    next => cases found
    next visible =>
      cases found
      have positive : 0 < first.length := Nat.pos_of_ne_zero fun zero =>
        visible (String.length_eq_zero_iff.mp zero)
      rw [parts, slashedLength_append] at whole
      simp only [slashedLength] at whole
      have empty : "".length = 0 := rfl
      omega
  next first rest several trimmed =>
    -- The last component, which is not empty, is left out.
    obtain ⟨⟨idle, parts⟩, none | ⟨front, last, rfl, solid⟩⟩ := trimIdle_eq_cons trimmed
    · exact absurd none several
    have positive : 0 < last.length := Nat.pos_of_ne_zero fun zero => by
      rw [String.length_eq_zero_iff.mp zero] at solid
      cases solid
    have shorter : slashedLength (first :: front) + (last.length + 1) ≤ path.length + 1 := by
      rw [← whole, parts, ← List.cons_append, slashedLength_append, slashedLength_append]
      simp only [slashedLength]
      omega
    rw [List.dropLast_concat] at found
    split at found
    next root trimmedFront =>
      cases found
      have slash : "/".length = 1 := rfl
      simp only [slashedLength] at shorter
      omega
    next remaining _ trimmedFront =>
      cases found
      have joined := length_intercalate_slash first (front.reverse.dropWhile isIdle).reverse
      have trimmedAgain : trimIdle (first :: front) = first :: _ := rfl
      obtain ⟨⟨dropped, frontParts⟩, _⟩ := trimIdle_eq_cons trimmedAgain
      rw [frontParts, slashedLength_append, ← joined] at shorter
      rw [trimIdle]
      omega

/-- A path and the directories that it lies in, up to one that lies in none. -/
def ancestors (path : String) : List String :=
  path :: match _found : parent? path with
    | none => []
    | some up => ancestors up
termination_by path.length
decreasing_by exact length_lt_of_parent? ‹_›

theorem ancestors_eq (path : String) :
    ancestors path = path :: ((parent? path).map ancestors).getD [] := by
  rw [ancestors]
  split
  next found => rw [found]; rfl
  next up found => rw [found]; rfl

/-! ## Names of files -/

/-- The name of the file that a path leads to. -/
def fileName? (path : String) : Option String :=
  (trimIdle (components path)).getLast?.filter fun name => !isIdle name && name != ".."

/-- The extension of a name: what follows its last dot, unless that is its first
character. -/
def extension? (path : String) : Option String :=
  (fileName? path).bind fun name =>
    let backwards := name.toList.reverse
    match backwards.dropWhile (· != '.') with
    | '.' :: _ :: _ => some (String.ofList (backwards.takeWhile (· != '.')).reverse)
    | _ => none

end Acronyms.Path
