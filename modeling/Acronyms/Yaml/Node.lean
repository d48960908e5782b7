import Acronyms.Yaml.Token

/-!
# Nodes of YAML

Tokens form a tree: scalars, sequences, mappings, and aliases of nodes that carry an
anchor.  A text holds at most one document here, and a text without any document is
told apart from an empty document.

A node that is missing where the structure has a place for one is an empty plain
scalar.
-/

set_option autoImplicit false

namespace Acronyms.Yaml

/-- What may stand before a node. -/
structure Properties where
  /-- The name under which aliases refer to the node. -/
  anchor : Option String := none
  tag : Option String := none
  deriving DecidableEq, Repr, Inhabited

/-- A node. -/
inductive Node where
  | scalar (properties : Properties) (text : String) (plain : Bool)
  | alias (name : String)
  | sequence (properties : Properties) (items : List Node)
  | mapping (properties : Properties) (pairs : List (Node × Node))
  deriving Repr, Inhabited

def Node.missing : Node := .scalar {} "" true

/-! ## Properties -/

def standardHandles : List (String × String) := [("!", "!"), ("!!", "tag:yaml.org,2002:")]

def expandTag? (handles : List (String × String)) (handle suffix : String) : Option String :=
  if handle = "" then some suffix
  else (handles.lookup handle).map fun expansion => expansion ++ suffix

/-- Read the properties of a node: an anchor and a tag, in either order. -/
def properties? (handles : List (String × String)) : List Token → Option (Properties × List Token)
  | .anchor name :: .tag handle suffix :: rest => do
    return ({ anchor := some name, tag := some (← expandTag? handles handle suffix) }, rest)
  | .tag handle suffix :: .anchor name :: rest => do
    return ({ anchor := some name, tag := some (← expandTag? handles handle suffix) }, rest)
  | .anchor name :: rest => some ({ anchor := some name }, rest)
  | .tag handle suffix :: rest => do
    return ({ tag := some (← expandTag? handles handle suffix) }, rest)
  | rest => some ({}, rest)

/-! ## The tree -/

/-- Where a node stands, as far as that decides what it may be. -/
inductive Place where
  /-- In a flow collection. -/
  | flow
  /-- In a block. -/
  | block
  /-- A key or a value of a block mapping, which may be a sequence at the indentation
  of the mapping. -/
  | mappingPart
  deriving DecidableEq

mutual

def node? (handles : List (String × String)) (place : Place) :
    Nat → List Token → Option (Node × List Token)
  | 0, _ => none
  | _ + 1, .alias name :: rest => some (.alias name, rest)
  | fuel + 1, tokens => do
    let (properties, rest) ← properties? handles tokens
    match rest with
    | .scalar text plain :: after => return (.scalar properties text plain, after)
    | .flowSequenceStart :: after =>
      let (items, after) ← flowItems? handles true fuel after
      return (.sequence properties items, after)
    | .flowMappingStart :: after =>
      let (pairs, after) ← flowPairs? handles true fuel after
      return (.mapping properties pairs, after)
    | token :: after =>
      if token = .blockEntry ∧ place = .mappingPart then
        let (items, after) ← levelItems? handles fuel rest
        return (.sequence properties items, after)
      else if token = .blockSequenceStart ∧ place ≠ .flow then
        let (items, after) ← blockItems? handles fuel after
        return (.sequence properties items, after)
      else if token = .blockMappingStart ∧ place ≠ .flow then
        let (pairs, after) ← blockPairs? handles fuel after
        return (.mapping properties pairs, after)
      else if properties = {} then none
      else return (.scalar properties "" true, rest)
    | [] => if properties = {} then none else return (.scalar properties "" true, [])

/-- Read the items of a block sequence and its end. -/
def blockItems? (handles : List (String × String)) :
    Nat → List Token → Option (List Node × List Token)
  | 0, _ => none
  | _ + 1, .blockEnd :: rest => some ([], rest)
  | fuel + 1, .blockEntry :: rest => do
    let (item, after) ← match rest with
      | .blockEntry :: _ | .blockEnd :: _ => some (Node.missing, rest)
      | _ => node? handles .block fuel rest
    let (items, after) ← blockItems? handles fuel after
    return (item :: items, after)
  | _ + 1, _ => none

/-- Read the items of a sequence at the indentation of the mapping around it; it ends
where no further item comes. -/
def levelItems? (handles : List (String × String)) :
    Nat → List Token → Option (List Node × List Token)
  | 0, _ => none
  | fuel + 1, .blockEntry :: rest => do
    let (item, after) ← match rest with
      | .blockEntry :: _ | .key :: _ | .value :: _ | .blockEnd :: _ => some (Node.missing, rest)
      | _ => node? handles .block fuel rest
    let (items, after) ← levelItems? handles fuel after
    return (item :: items, after)
  | _ + 1, rest => some ([], rest)

/-- Read the pairs of a block mapping and its end. -/
def blockPairs? (handles : List (String × String)) :
    Nat → List Token → Option (List (Node × Node) × List Token)
  | 0, _ => none
  | _ + 1, .blockEnd :: rest => some ([], rest)
  | fuel + 1, .key :: rest => do
    let (key, afterKey) ← match rest with
      | .key :: _ | .value :: _ | .blockEnd :: _ => some (Node.missing, rest)
      | _ => node? handles .mappingPart fuel rest
    let (value, after) ← blockValue? handles fuel afterKey
    let (pairs, after) ← blockPairs? handles fuel after
    return ((key, value) :: pairs, after)
  | _ + 1, _ => none

/-- Read the value of a pair of a block mapping. -/
def blockValue? (handles : List (String × String)) : Nat → List Token → Option (Node × List Token)
  | 0, _ => none
  | fuel + 1, .value :: rest =>
    match rest with
    | .key :: _ | .value :: _ | .blockEnd :: _ => some (Node.missing, rest)
    | _ => node? handles .mappingPart fuel rest
  | _ + 1, rest => some (Node.missing, rest)

/-- Read the items of a flow sequence and its end; a pair in it is a mapping of its
own. -/
def flowItems? (handles : List (String × String)) (first : Bool) :
    Nat → List Token → Option (List Node × List Token)
  | 0, _ => none
  | _ + 1, .flowSequenceEnd :: rest => some ([], rest)
  | fuel + 1, tokens => do
    let rest ← match first, tokens with
      | true, _ => some tokens
      | false, .flowEntry :: rest => some rest
      | false, _ => none
    match rest with
    | .flowSequenceEnd :: after => return ([], after)
    | .key :: after =>
      let (pair, after) ← flowPair? handles fuel after
      let (items, after) ← flowItems? handles false fuel after
      return (.mapping {} [pair] :: items, after)
    | _ =>
      let (item, after) ← node? handles .flow fuel rest
      let (items, after) ← flowItems? handles false fuel after
      return (item :: items, after)

/-- Read the pair of a flow sequence, behind its key mark.  Where the key is missing,
the token in its place is passed over. -/
def flowPair? (handles : List (String × String)) :
    Nat → List Token → Option ((Node × Node) × List Token)
  | 0, _ => none
  | fuel + 1, tokens => do
    let (key, afterKey) ← match tokens with
      | .value :: rest | .flowEntry :: rest | .flowSequenceEnd :: rest => some (Node.missing, rest)
      | _ => node? handles .flow fuel tokens
    match afterKey with
    | .value :: rest =>
      match rest with
      | .flowEntry :: _ | .flowSequenceEnd :: _ => return ((key, Node.missing), rest)
      | _ =>
        let (value, after) ← node? handles .flow fuel rest
        return ((key, value), after)
    | _ => return ((key, Node.missing), afterKey)

/-- Read the pairs of a flow mapping and its end. -/
def flowPairs? (handles : List (String × String)) (first : Bool) :
    Nat → List Token → Option (List (Node × Node) × List Token)
  | 0, _ => none
  | _ + 1, .flowMappingEnd :: rest => some ([], rest)
  | fuel + 1, tokens => do
    let rest ← match first, tokens with
      | true, _ => some tokens
      | false, .flowEntry :: rest => some rest
      | false, _ => none
    match rest with
    | .flowMappingEnd :: after => return ([], after)
    | .key :: afterMark =>
      let (key, afterKey) ← match afterMark with
        | .value :: _ | .flowEntry :: _ | .flowMappingEnd :: _ => some (Node.missing, afterMark)
        | _ => node? handles .flow fuel afterMark
      let (value, after) ← match afterKey with
        | .value :: rest =>
          match rest with
          | .flowEntry :: _ | .flowMappingEnd :: _ => some (Node.missing, rest)
          | _ => node? handles .flow fuel rest
        | _ => some (Node.missing, afterKey)
      let (pairs, after) ← flowPairs? handles false fuel after
      return ((key, value) :: pairs, after)
    | _ =>
      let (key, after) ← node? handles .flow fuel rest
      let (pairs, after) ← flowPairs? handles false fuel after
      return ((key, Node.missing) :: pairs, after)

end

/-! ## Documents -/

/-- Read the directives before a document: the version at most once and of a known
kind, and every handle at most once. -/
def directives? (versionSeen : Bool) (handles : List (String × String)) :
    List Token → Option (List (String × String) × List Token)
  | .versionDirective major minor :: rest =>
    if versionSeen ∨ major ≠ 1 ∨ (minor ≠ 1 ∧ minor ≠ 2) then none
    else directives? true handles rest
  | .tagDirective handle expansion :: rest =>
    if handles.any (·.1 == handle) then none
    else directives? versionSeen (handles ++ [(handle, expansion)]) rest
  | rest => some (handles, rest)

/-- Whether a document that begins here is empty. -/
def atEmptyDocument : List Token → Bool
  | [] => true
  | .versionDirective _ _ :: _ => true
  | .tagDirective _ _ :: _ => true
  | .documentStart :: _ => true
  | .documentEnd :: _ => true
  | _ => false

/-- Whether a document that begins here has a line that marks its beginning. -/
def startsExplicitly : List Token → Bool
  | .versionDirective _ _ :: _ => true
  | .tagDirective _ _ :: _ => true
  | .documentStart :: _ => true
  | _ => false

def root? (tokens : List Token) : Option (Node × List Token) :=
  let fuel := 2 * tokens.length + 2
  if startsExplicitly tokens then do
    let (handles, rest) ← directives? false [] tokens
    match rest with
    | .documentStart :: content =>
      if atEmptyDocument content then return (Node.missing, content)
      else node? (handles ++ standardHandles) .block fuel content
    | _ => none
  else node? standardHandles .block fuel tokens

/-- The only document of a stream of tokens; `some none` if there is no document. -/
def document? (tokens : List Token) : Option (Option Node) :=
  if tokens.isEmpty then some none
  else
    match root? tokens with
    | none => none
    | some (root, rest) =>
      if (rest.dropWhile (· == .documentEnd)).isEmpty then some (some root) else none

end Acronyms.Yaml
