import Acronyms.FrontMatter

/-!
# Front matter by byte offsets

A text that is held as its bytes can be split without taking its lines apart.  The lines
after the opening are passed one by one, and the bytes passed so far are the offset of the
next line.  At the first closing line the text is cut twice: where that line begins and
where it ends.

Offsets count the bytes of the characters in UTF-8.  An offset that falls inside a
character, or behind the text, is no place to cut.
-/

set_option autoImplicit false

namespace Acronyms.FrontMatter

/-- The number of bytes that characters take in UTF-8. -/
def byteCount : List Char → Nat
  | [] => 0
  | character :: rest => character.utf8Size + byteCount rest

/-- Cut characters at a byte offset, if that is a place to cut. -/
def cutAt? : Nat → List Char → Option (List Char × List Char)
  | 0, characters => some ([], characters)
  | _ + 1, [] => none
  | offset + 1, character :: rest =>
    if offset + 1 < character.utf8Size then none
    else (cutAt? (offset + 1 - character.utf8Size) rest).map fun (front, back) =>
      (character :: front, back)

/-- The offsets at which the first closing line begins and ends, where the first of the
lines begins at the given offset. -/
def closingSpan? : Nat → List (List Char) → Option (Nat × Nat)
  | _, [] => none
  | offset, line :: rest =>
    if isClosing line then some (offset, offset + byteCount line)
    else closingSpan? (offset + byteCount line) rest

/-- Split a text at the offsets of its closing line; there is no result if one of them is no
place to cut. -/
def splitAtOffsets (text : String) : Option FrontMatter :=
  match afterOpening? text.toList with
  | none => some ⟨none, text⟩
  | some rest =>
    match closingSpan? 0 (linesOf rest) with
    | none => some ⟨none, text⟩
    | some (start, stop) =>
      match cutAt? start rest, cutAt? stop rest with
      | some (yaml, _), some (_, body) => some ⟨some (String.ofList yaml), String.ofList body⟩
      | _, _ => none

end Acronyms.FrontMatter
