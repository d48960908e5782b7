import Acronyms.Decimal.Shortest
import Acronyms.Json

/-!
# Writing JSON

JSON is written compactly, members in key order.  In strings only the quote, the
backslash and the control characters below U+0020 are escaped.  A double is
written with the fewest digits that read back as it, positionally from `1e-5` up to
`1e16`.
-/

set_option autoImplicit false

namespace Acronyms.Json

/-- Doubles are positional between `1e-5` and `1e16`, and a positive exponent has a
plus sign. -/
def doubleLayout : Decimal.Layout := ⟨-5, 16, true⟩

def hexDigit (value : Nat) : Char := Nat.digitChar (value % 16)

/-- A character as it stands in a string. -/
def escape (character : Char) : List Char :=
  match character with
  | '"' => ['\\', '"']
  | '\\' => ['\\', '\\']
  | '\x08' => ['\\', 'b']
  | '\x0c' => ['\\', 'f']
  | '\n' => ['\\', 'n']
  | '\r' => ['\\', 'r']
  | '\t' => ['\\', 't']
  | _ =>
    if character.toNat < 0x20 then
      ['\\', 'u', '0', '0', hexDigit (character.toNat / 16), hexDigit character.toNat]
    else [character]

def quoted (text : String) : List Char := '"' :: text.toList.flatMap escape ++ ['"']

/-- A list of written values with commas between them. -/
def commaSeparated : List (List Char) → List Char
  | [] => []
  | [last] => last
  | first :: rest => first ++ ',' :: commaSeparated rest

mutual

def write : Json → List Char
  | .null => "null".toList
  | .bool true => "true".toList
  | .bool false => "false".toList
  | .integer value => (toString value).toList
  | .double value => (Decimal.spell doubleLayout (Decimal.ofFloat value)).toList
  | .string value => quoted value
  | .array items => '[' :: commaSeparated (writeItems items) ++ [']']
  | .object members => '{' :: commaSeparated (writeMembers members) ++ ['}']

def writeItems : List Json → List (List Char)
  | [] => []
  | item :: rest => write item :: writeItems rest

def writeMembers : List (String × Json) → List (List Char)
  | [] => []
  | (name, value) :: rest => (quoted name ++ ':' :: write value) :: writeMembers rest

end

def toText (value : Json) : String := String.ofList (write value)

end Acronyms.Json
