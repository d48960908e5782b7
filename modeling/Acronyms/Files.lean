import Acronyms.Path

/-!
# Files

The library reads files through a `FileAccess`, which can tell whether a path leads
anywhere and can read the text it leads to.  Access to the files of the machine lives
in the program's outermost layer; `FileTree` is an access to a given set of files.
-/

set_option autoImplicit false

namespace Acronyms

/-- Why a file cannot be read as text. -/
inductive ReadFault where
  /-- Nothing is there. -/
  | missing
  /-- The path goes on behind a file. -/
  | notADirectory
  /-- A directory is there. -/
  | isDirectory
  /-- The octets are no text. -/
  | notText
  /-- The machine refuses for a reason of its own. -/
  | refused (reason : String)
  deriving DecidableEq, Repr

namespace ReadFault

def message : ReadFault → String
  | missing => "No such file or directory (os error 2)"
  | notADirectory => "Not a directory (os error 20)"
  | isDirectory => "Is a directory (os error 21)"
  | notText => "stream did not contain valid UTF-8"
  | refused reason => reason

end ReadFault

def textOfOctets (octets : ByteArray) : Except ReadFault String :=
  match String.fromUTF8? octets with
  | some text => .ok text
  | none => .error .notText

/-- A way to look at files. -/
structure FileAccess (m : Type → Type) where
  /-- Whether a path leads to a file or a directory. -/
  doesExist : String → m Bool
  /-- The text of the file a path leads to. -/
  readText : String → m (Except ReadFault String)

/-! ## A given set of files -/

/-- What a tree of files holds at a place. -/
inductive FileContent where
  | octets (content : ByteArray)
  | directory

/-- A set of files below a directory of the machine.  Outside of it there is nothing to
read. -/
structure FileTree where
  root : String
  /-- The files and directories, by their components below the root. -/
  entries : List (List String × FileContent)

namespace FileTree

/-- A place that a path leads to. -/
inductive Place where
  /-- Below the root, by components. -/
  | inside (components : List String)
  /-- Above or beside the root. -/
  | outside

/-- What a tree holds at components below its root; a directory is there if anything
is below it. -/
def contentAt? (tree : FileTree) (components : List String) : Option FileContent :=
  if components = [] then some .directory
  else
    match tree.entries.lookup components with
    | some content => some content
    | none =>
      if tree.entries.any fun entry => components.isPrefixOf entry.1 then some .directory else none

def follow (tree : FileTree) : Place → List String → Except ReadFault Place
  | place, [] => .ok place
  | .outside, component :: rest =>
    if Path.isIdle component ∨ component = ".." then tree.follow .outside rest
    else .error .missing
  | .inside here, component :: rest =>
    match tree.contentAt? here with
    | some (.octets _) => .error .notADirectory
    | none => .error .missing
    | some .directory =>
      if Path.isIdle component then tree.follow (.inside here) rest
      else if component = ".." then
        tree.follow (if here = [] then .outside else .inside here.dropLast) rest
      else
        match tree.contentAt? (here ++ [component]) with
        | none => .error .missing
        | some _ => tree.follow (.inside (here ++ [component])) rest

/-- The place that a path leads to, from a directory below the root. -/
def locate (tree : FileTree) (directory : List String) (path : String) : Except ReadFault Place :=
  if Path.isAbsolute path then
    let rootComponents := Path.components tree.root
    let components := Path.components path
    if rootComponents.isPrefixOf components then
      tree.follow (.inside []) (components.drop rootComponents.length)
    else tree.follow .outside components
  else tree.follow (.inside directory) (Path.components path)

/-- Read the text that a path leads to. -/
def readText (tree : FileTree) (directory : List String) (path : String) :
    Except ReadFault String :=
  match tree.locate directory path with
  | .error fault => .error fault
  | .ok .outside => .error .isDirectory
  | .ok (.inside components) =>
    match tree.contentAt? components with
    | none => .error .missing
    | some .directory => .error .isDirectory
    | some (.octets content) => textOfOctets content

def doesExist (tree : FileTree) (directory : List String) (path : String) : Bool :=
  match tree.locate directory path with
  | .error _ => false
  | .ok _ => true

/-- The access to a tree from a directory below its root. -/
def access (tree : FileTree) (directory : List String) : FileAccess Id where
  doesExist := tree.doesExist directory
  readText := tree.readText directory

end FileTree

end Acronyms
