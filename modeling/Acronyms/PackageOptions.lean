/-!
# Package options

Package options are kept in the order in which their keys were first set, each
with the value it was given last, and no key stands twice.  They are handed to the
typesetting package as they are; only `single` also steers the plain output, and
only the values of three known keys are checked.
-/

set_option autoImplicit false

namespace Acronyms

/-! ## Item lists -/

/-- Give a key a value where the key stands, or at the end if it is new. -/
def setItem (key value : String) : List (String × String) → List (String × String)
  | [] => [(key, value)]
  | (head, kept) :: rest =>
    if head = key then (key, value) :: rest else (head, kept) :: setItem key value rest

/-- Setting a key keeps the keys, and adds the key at the end if it is new. -/
theorem map_fst_setItem (key value : String) (items : List (String × String)) :
    (setItem key value items).map (·.1) =
      if key ∈ items.map (·.1) then items.map (·.1) else items.map (·.1) ++ [key] := by
  induction items with
  | nil => simp [setItem]
  | cons first rest ih =>
    obtain ⟨head, kept⟩ := first
    by_cases same : head = key
    · simp [setItem, same]
    · have other : ¬ key = head := fun equal => same equal.symm
      simp only [setItem, if_neg same, List.map_cons, ih, List.mem_cons, other, false_or]
      split <;> simp

/-- Setting a key keeps the keys distinct. -/
theorem nodup_setItem {key value : String} {items : List (String × String)}
    (distinct : (items.map (·.1)).Nodup) : ((setItem key value items).map (·.1)).Nodup := by
  rw [map_fst_setItem]
  split
  next => exact distinct
  next fresh =>
    refine List.nodup_append.mpr ⟨distinct, by simp, fun left leftMember right rightMember => ?_⟩
    rw [List.mem_singleton.mp rightMember]
    exact fun same => fresh (same ▸ leftMember)

/-! ## Options -/

/-- Options in the order in which their keys were first set. -/
@[ext]
structure PackageOptions where
  items : List (String × String)
  /-- No key stands twice. -/
  distinct : (items.map (·.1)).Nodup

namespace PackageOptions

def empty : PackageOptions where
  items := []
  distinct := List.nodup_nil

instance : EmptyCollection PackageOptions := ⟨empty⟩

instance : Inhabited PackageOptions := ⟨empty⟩

instance : DecidableEq PackageOptions := fun left right =>
  decidable_of_iff (left.items = right.items) PackageOptions.ext_iff.symm

def isEmpty (options : PackageOptions) : Bool := options.items.isEmpty

/-- Set an option, replacing its earlier value in place. -/
def set (options : PackageOptions) (key value : String) : PackageOptions where
  items := setItem key value options.items
  distinct := nodup_setItem options.distinct

def setAll (options : PackageOptions) (assignments : List (String × String)) : PackageOptions :=
  assignments.foldl (fun result item => result.set item.1 item.2) options

/-- The options that a list of assignments leaves. -/
def ofList (assignments : List (String × String)) : PackageOptions :=
  empty.setAll assignments

/-- Set the options of a second list in a first; the second wins. -/
def merge (options other : PackageOptions) : PackageOptions :=
  options.setAll other.items

def get? (options : PackageOptions) (key : String) : Option String :=
  options.items.lookup key

/-! ## Known options -/

/-- The value of a list of decimal digits. -/
def digitsValue (digits : List Char) : Nat :=
  digits.foldl (fun value digit => 10 * value + (digit.toNat - '0'.toNat)) 0

/-- The digits of a number without a leading plus sign. -/
def dropPlus : List Char → List Char
  | '+' :: rest => rest
  | characters => characters

def maxCount : Nat := 4294967295

/-- The count that a value gives: decimal digits, with an optional plus sign, up to
`maxCount`. -/
def count? (value : String) : Option Nat :=
  let digits := dropPlus value.toList
  if digits ≠ [] ∧ digits.all Char.isDigit ∧ digitsValue digits ≤ maxCount then
    some (digitsValue digits)
  else none

/-- Whether a value of `single` turns the single-use policy on: `true` or a
positive count. -/
def enablesSingle (value : String) : Bool :=
  value == "true" || (count? value).any (0 < ·)

/-- Whether acronyms that are used once are to be spelled out. -/
def single (options : PackageOptions) : Bool :=
  (options.get? "single").any enablesSingle

/-- The styles that `first-style` and `single-style` may name. -/
def styles : List String := ["long-short", "short-long", "short", "long", "footnote"]

/-- Whether an option has a value it may have; unknown options may have any. -/
def isValidItem (item : String × String) : Bool :=
  match item.1 with
  | "first-style" => styles.contains item.2
  | "single-style" => styles.contains item.2
  | "single" => item.2 == "true" || item.2 == "false" || (count? item.2).isSome
  | _ => true

/-- One sentence for each option with an invalid value, in order. -/
def problems (options : PackageOptions) : List String :=
  (options.items.filter fun item => !isValidItem item).map fun item =>
    s!"unknown value '{item.2}' for '{item.1}'"

/-- The setup line of the typesetting package, if there is anything to set. -/
def setupLine? (options : PackageOptions) : Option String :=
  if options.isEmpty then none
  else
    let assignments := options.items.map fun item => item.1 ++ "=" ++ item.2
    some ("\\acsetup\x7b" ++ ",".intercalate assignments ++ "\x7d")

end PackageOptions

end Acronyms
