import Acronyms.Proofs.Yaml.FramedQuoted
import Acronyms.Yaml.Token.Reading

/-!
# Marks, anchors, tags and directives in a frame

The reader in a frame (`Frame.reader`) has the tokens, the blocks and the possible keys of the
reader without it; only the places of its cursor and of its possible keys are moved.  A mark, an
anchor and a tag never reach into the spaces and line breaks of the frame, so that **reading one
is the same in the frame** (`Keeps`), and so is what a directive says.
-/

set_option autoImplicit false

namespace Acronyms.Yaml

open TokenReader

namespace Frame

variable (frame : Frame)

/-! ## Readers in a frame -/

/-- The possible key in the frame. -/
def key (key : PossibleKey) : PossibleKey :=
  { key with index := key.index + frame.characters, line := key.line + frame.lines }

/-- The reader in the frame. -/
def reader (reader : TokenReader) : TokenReader :=
  { reader with
    cursor := frame.cursor reader.cursor
    possibleKey := reader.possibleKey.map frame.key
    outerKeys := reader.outerKeys.map (Option.map frame.key) }

theorem inFlow_reader (reader : TokenReader) : (frame.reader reader).inFlow = reader.inFlow := by
  unfold inFlow
  cases keys : reader.outerKeys <;> simp [Frame.reader, keys]

theorem isStale_frame (cursor : Cursor) (key : PossibleKey) :
    isStale (frame.cursor cursor) (frame.key key) = isStale cursor key := by
  have lines : (frame.key key).line < (frame.cursor cursor).line ↔ key.line < cursor.line :=
    Nat.add_lt_add_iff_right
  have indices : (frame.key key).index + 1024 < (frame.cursor cursor).index ↔
      key.index + 1024 < cursor.index := by
    change key.index + frame.characters + 1024 < cursor.index + frame.characters ↔ _
    omega
  rw [isStale, isStale, decide_eq_decide.mpr lines, decide_eq_decide.mpr indices]

theorem freshKey?_frame (cursor : Cursor) (key : Option PossibleKey) :
    freshKey? (frame.cursor cursor) (key.map frame.key) =
      (freshKey? cursor key).map (Option.map frame.key) := by
  cases key with
  | none => rfl
  | some key =>
    simp only [freshKey?, Option.map_some, isStale_frame]
    have required : (frame.key key).required = key.required := rfl
    rw [required]
    split
    · split <;> rfl
    · rfl

theorem mapM_freshKey?_frame (cursor : Cursor) (keys : List (Option PossibleKey)) :
    (keys.map (Option.map frame.key)).mapM (freshKey? (frame.cursor cursor)) =
      (keys.mapM (freshKey? cursor)).map (List.map (Option.map frame.key)) := by
  induction keys with
  | nil => rfl
  | cons key rest ih =>
    simp only [List.map_cons, List.mapM_cons, freshKey?_frame, ih]
    cases freshKey? cursor key with
    | none => rfl
    | some fresh =>
      cases rest.mapM (freshKey? cursor) <;> rfl

theorem dropStaleKeys?_frame (reader : TokenReader) :
    (frame.reader reader).dropStaleKeys? = reader.dropStaleKeys?.map frame.reader := by
  have outer := frame.mapM_freshKey?_frame reader.cursor reader.outerKeys
  have inner := frame.freshKey?_frame reader.cursor reader.possibleKey
  simp only [dropStaleKeys?, Frame.reader, inner, outer]
  cases freshKey? reader.cursor reader.possibleKey with
  | none => rfl
  | some fresh =>
    cases reader.outerKeys.mapM (freshKey? reader.cursor) <;> rfl

theorem dropKey?_frame (reader : TokenReader) :
    (frame.reader reader).dropKey? = reader.dropKey?.map frame.reader := by
  have required : (frame.reader reader).possibleKey.any PossibleKey.required =
      reader.possibleKey.any PossibleKey.required := by
    cases key : reader.possibleKey <;> simp [Frame.reader, key, Frame.key]
  rw [dropKey?, dropKey?, required]
  split <;> rfl

theorem noteKey?_frame (reader : TokenReader) :
    (frame.reader reader).noteKey? = reader.noteKey?.map frame.reader := by
  have allowed : (frame.reader reader).keyAllowed = reader.keyAllowed := rfl
  rw [noteKey?, noteKey?, allowed, dropKey?_frame, inFlow_reader]
  split
  · cases reader.dropKey? <;> rfl
  · rfl

/-! ## Blocks in a frame -/

theorem openBlock_frame (reader : TokenReader) (column position : Nat) (start : Token) :
    (frame.reader reader).openBlock column position start =
      frame.reader (reader.openBlock column position start) := by
  have indentation : (frame.reader reader).indentation = reader.indentation := rfl
  rw [openBlock, openBlock, inFlow_reader, indentation]
  split <;> rfl

theorem closeBlocks_frame (column : Int) (outer : List Int) (reader : TokenReader) :
    closeBlocks column outer (frame.reader reader) =
      frame.reader (closeBlocks column outer reader) := by
  induction outer generalizing reader with
  | nil => rfl
  | cons indentation rest ih =>
    have same : (frame.reader reader).indentation = reader.indentation := rfl
    rw [closeBlocks, closeBlocks, same]
    split
    · exact ih { reader.push .blockEnd with
        indentation := indentation, outerIndentations := rest }
    · rfl

theorem closeTo_frame (reader : TokenReader) (column : Int) :
    (frame.reader reader).closeTo column = frame.reader (reader.closeTo column) := by
  have outer : (frame.reader reader).outerIndentations = reader.outerIndentations := rfl
  rw [closeTo, closeTo, inFlow_reader, outer, closeBlocks_frame]
  split <;> rfl

end Frame

/-! ## What stays outside of flow collections -/

theorem dropKey?_outerKeys {reader after : TokenReader} (dropped : reader.dropKey? = some after) :
    after.outerKeys = reader.outerKeys := by
  rw [dropKey?] at dropped
  split at dropped
  · cases dropped
  · cases dropped
    rfl

theorem noteKey?_outerKeys {reader after : TokenReader} (noted : reader.noteKey? = some after) :
    after.outerKeys = reader.outerKeys := by
  rw [noteKey?] at noted
  split at noted
  · obtain ⟨cleared, dropped, same⟩ := Option.bind_eq_some_iff.mp noted
    have kept := dropKey?_outerKeys dropped
    cases same
    exact kept
  · cases noted
    rfl

theorem openBlock_outerKeys (reader : TokenReader) (column position : Nat) (start : Token) :
    (reader.openBlock column position start).outerKeys = reader.outerKeys := by
  rw [openBlock]
  split <;> rfl

theorem closeBlocks_outerKeys (column : Int) (outer : List Int) (reader : TokenReader) :
    (closeBlocks column outer reader).outerKeys = reader.outerKeys := by
  induction outer generalizing reader with
  | nil => rfl
  | cons indentation rest ih =>
    rw [closeBlocks]
    split
    · exact ih _
    · rfl

theorem closeTo_outerKeys (reader : TokenReader) (column : Int) :
    (reader.closeTo column).outerKeys = reader.outerKeys := by
  rw [closeTo]
  split
  · rfl
  · exact closeBlocks_outerKeys column _ reader

/-! ## Steps of reading -/

/-- A reader has gone on in the text, and enters no flow collection. -/
structure Advances (reader after : TokenReader) : Prop where
  suffix : after.cursor.rest <:+ reader.cursor.rest
  shorter : after.cursor.rest.length < reader.cursor.rest.length
  outside : reader.outerKeys = [] → after.outerKeys = []

theorem advances_of_skip {reader after : TokenReader} (count : Nat)
    (skipped : after.cursor = reader.cursor.skip (count + 1)) (nonempty : reader.cursor.rest ≠ [])
    (outside : reader.outerKeys = [] → after.outerKeys = []) : Advances reader after := by
  refine ⟨skipped ▸ reader.cursor.rest_skip_suffix _, ?_, outside⟩
  have positive := List.length_pos_iff.mpr nonempty
  rw [skipped, Cursor.skip, List.length_drop]
  omega

/-- A step of reading is the same in the frame, and goes on in the text. -/
structure Keeps (frame : Frame) (reader : TokenReader)
    (step : TokenReader → Option TokenReader) : Prop where
  same : step (frame.reader reader) = (step reader).map frame.reader
  advances : ∀ after, step reader = some after → Advances reader after

/-- The mark of an item or of an explicit key, which opens a block where it has to. -/
def mark? (start mark : Token) (keyAllowed : Bool → Bool) (reader : TokenReader) :
    Option TokenReader :=
  if !reader.inFlow && !reader.keyAllowed then none
  else
    (reader.openBlock reader.cursor.column reader.tokens.size start).dropKey?.bind fun cleared =>
      some { cleared.push mark with
        cursor := reader.cursor.skip 1, keyAllowed := keyAllowed reader.inFlow }

section Marks

variable (frame : Frame) {reader : TokenReader} (nonempty : reader.cursor.rest ≠ [])

include nonempty

theorem skip_one_reader :
    (frame.reader reader).cursor.skip 1 = frame.cursor (reader.cursor.skip 1) :=
  frame.cursor_skip (List.length_pos_iff.mpr nonempty)

theorem keeps_closeFlow? (stop : Token) : Keeps frame reader (closeFlow? · stop) where
  same := by
    simp only [closeFlow?, frame.dropKey?_frame, skip_one_reader frame nonempty]
    cases dropped : reader.dropKey? with
    | none => rfl
    | some cleared =>
      cases keys : cleared.outerKeys <;> simp [Frame.reader, keys, push]
  advances := by
    intro after read
    obtain ⟨cleared, dropped, same⟩ := Option.bind_eq_some_iff.mp read
    have kept := dropKey?_outerKeys dropped
    refine advances_of_skip 0 ?_ nonempty fun outside => ?_
    · cases same
      rfl
    · rw [outside] at kept
      cases same
      simp [kept]

theorem keeps_separator? : Keeps frame reader flowEntry? where
  same := by
    simp only [ flowEntry?, frame.dropKey?_frame, skip_one_reader frame nonempty]
    cases reader.dropKey? <;> rfl
  advances := by
    intro after read
    obtain ⟨cleared, dropped, same⟩ := Option.bind_eq_some_iff.mp read
    have kept := dropKey?_outerKeys dropped
    cases same
    exact advances_of_skip 0 rfl nonempty fun outside => kept.trans outside

theorem keeps_mark? (start mark : Token) (keyAllowed : Bool → Bool) :
    Keeps frame reader (mark? start mark keyAllowed) where
  same := by
    have allowed : (frame.reader reader).keyAllowed = reader.keyAllowed := rfl
    have column : (frame.reader reader).cursor.column = reader.cursor.column := rfl
    have tokens : (frame.reader reader).tokens = reader.tokens := rfl
    simp only [mark?, frame.inFlow_reader, allowed, column, tokens, frame.openBlock_frame,
      frame.dropKey?_frame, skip_one_reader frame nonempty]
    split
    · rfl
    · cases (reader.openBlock _ _ _).dropKey? <;> rfl
  advances := by
    intro after read
    rw [mark?] at read
    split at read
    · cases read
    · obtain ⟨cleared, dropped, same⟩ := Option.bind_eq_some_iff.mp read
      have kept := (dropKey?_outerKeys dropped).trans (openBlock_outerKeys ..)
      cases same
      exact advances_of_skip 0 rfl nonempty fun outside => kept.trans outside

theorem keeps_itemMark? : Keeps frame reader blockEntry? :=
  keeps_mark? frame nonempty .blockSequenceStart .blockEntry fun _ => true

theorem keeps_explicitKey? : Keeps frame reader explicitKey? :=
  keeps_mark? frame nonempty .blockMappingStart .key not

theorem keeps_value? : Keeps frame reader value? where
  same := by
    have allowed : (frame.reader reader).keyAllowed = reader.keyAllowed := rfl
    have column : (frame.reader reader).cursor.column = reader.cursor.column := rfl
    have tokens : (frame.reader reader).tokens = reader.tokens := rfl
    cases possible : reader.possibleKey with
    | some key =>
      have inFrame : (frame.reader reader).possibleKey = some (frame.key key) := by
        simp [Frame.reader, possible]
      have keyed := frame.openBlock_frame
        { reader.insertAt key.tokensBefore .key with possibleKey := none } key.column
        key.tokensBefore .blockMappingStart
      simp only [value?, possible, inFrame, skip_one_reader frame nonempty, Option.map_some]
      exact congrArg (fun opened => some { opened.push .value with
        cursor := frame.cursor (reader.cursor.skip 1), keyAllowed := false }) keyed
    | none =>
      have inFrame : (frame.reader reader).possibleKey = none := by
        simp [Frame.reader, possible]
      simp only [value?, possible, inFrame, frame.inFlow_reader, allowed, column, tokens,
        frame.openBlock_frame, skip_one_reader frame nonempty]
      split
      · rfl
      split
      · rfl
      · rfl
  advances := by
    intro after read
    rw [value?] at read
    dsimp only at read
    split at read
    · cases read
      exact advances_of_skip 0 rfl nonempty fun outside =>
        (openBlock_outerKeys ..).trans outside
    split at read
    · cases read
      exact advances_of_skip 0 rfl nonempty id
    split at read
    · cases read
      exact advances_of_skip 0 rfl nonempty fun outside =>
        (openBlock_outerKeys ..).trans outside
    · cases read

theorem keeps_documentMarker? (long : 3 ≤ reader.cursor.rest.length) (marker : Token) :
    Keeps frame reader (documentMarker? · marker) where
  same := by
    have skipped : (frame.reader reader).cursor.skip 3 = frame.cursor (reader.cursor.skip 3) :=
      frame.cursor_skip long
    simp only [documentMarker?, frame.closeTo_frame, frame.dropKey?_frame, skipped]
    cases (reader.closeTo (-1)).dropKey? <;> rfl
  advances := by
    intro after read
    obtain ⟨cleared, dropped, same⟩ := Option.bind_eq_some_iff.mp read
    have kept := (dropKey?_outerKeys dropped).trans (closeTo_outerKeys reader (-1))
    cases same
    exact advances_of_skip 2 rfl nonempty fun outside => kept.trans outside

end Marks

/-! ## Anchors and tags -/

theorem lacksSpacing_isNameChar : LacksSpacing isNameChar := lacksSpacing_of_all (by decide)

theorem lacksSpacing_isTagChar (enclosed : Bool) : LacksSpacing (isTagChar enclosed) := by
  cases enclosed <;> exact lacksSpacing_of_all (by decide)

/-- The name behind the mark at a place. -/
def nameAt (cursor : Cursor) : List Char := (cursor.rest.drop 1).takeWhile isNameChar

theorem length_nameAt (cursor : Cursor) (nonempty : cursor.rest ≠ []) :
    (nameAt cursor).length + 1 ≤ cursor.rest.length := by
  have shorter : (nameAt cursor).length ≤ _ := (List.takeWhile_prefix isNameChar).length_le
  have positive := List.length_pos_iff.mpr nonempty
  rw [List.length_drop] at shorter
  omega

theorem anchor?_eq (reader : TokenReader) (make : String → Token) :
    reader.anchor? make = reader.noteKey?.bind fun noted =>
      let cursor := reader.cursor.skip ((nameAt reader.cursor).length + 1)
      if nameAt reader.cursor = [] ∨ !endsAnchor cursor.rest then none
      else some { noted.push (make (String.ofList (nameAt reader.cursor))) with
        cursor, keyAllowed := false } := rfl

section Names

variable {frame : Frame} (spacing : Spacing frame.tail)

include spacing

theorem endsAnchor_append (characters : List Char) :
    endsAnchor (characters ++ frame.tail) = endsAnchor characters := by
  cases characters with
  | cons character rest => rfl
  | nil =>
    cases tail : frame.tail with
    | nil => rfl
    | cons character rest =>
      have blank := blank_of_isSpacing (spacing character (tail ▸ List.mem_cons_self))
      change (isBlank character || isBreak character || _) = true
      rw [blank, Bool.true_or]

theorem nameAt_frame {cursor : Cursor} (nonempty : cursor.rest ≠ []) :
    nameAt (frame.cursor cursor) = nameAt cursor := by
  obtain ⟨first, more, starts⟩ := List.exists_cons_of_ne_nil nonempty
  rw [nameAt, nameAt, frame.cursor_rest, starts]
  exact takeWhile_append_spacing spacing lacksSpacing_isNameChar more

theorem keeps_anchor? {reader : TokenReader} (nonempty : reader.cursor.rest ≠ [])
    (make : String → Token) : Keeps frame reader (anchor? · make) where
  same := by
    have skipped := frame.cursor_skip (length_nameAt reader.cursor nonempty)
    have ended := endsAnchor_append spacing
      (reader.cursor.skip ((nameAt reader.cursor).length + 1)).rest
    have name : nameAt (frame.reader reader).cursor = nameAt reader.cursor :=
      nameAt_frame spacing nonempty
    rw [anchor?_eq, anchor?_eq, frame.noteKey?_frame, name]
    cases reader.noteKey? with
    | none => rfl
    | some noted =>
      have inFrame : (frame.reader reader).cursor = frame.cursor reader.cursor := rfl
      simp only [Option.map_some, Option.bind_some]
      rw [inFrame, skipped, frame.cursor_rest, ended]
      split <;> rfl
  advances := by
    intro after read
    obtain ⟨noted, note, rest⟩ := Option.bind_eq_some_iff.mp read
    have kept := noteKey?_outerKeys note
    dsimp only at rest
    split at rest
    · cases rest
    · cases rest
      exact advances_of_skip _ rfl nonempty fun outside => kept.trans outside

theorem head_ne_of_spacing {character other : Char} {rest : List Char}
    (tail : frame.tail = character :: rest) (visible : isSpacing other = false) :
    character ≠ other := by
  rintro rfl
  rw [spacing character (tail ▸ List.mem_cons_self)] at visible
  cases visible

theorem tagHandle?_append (characters : List Char) :
    tagHandle? (characters ++ frame.tail) =
      (tagHandle? characters).map fun found => (found.1, found.2 ++ frame.tail) := by
  cases characters with
  | nil =>
    cases tail : frame.tail with
    | nil => rfl
    | cons character rest =>
      simp [tagHandle?, head_ne_of_spacing spacing tail (show isSpacing '!' = false by decide)]
  | cons character rest =>
    by_cases mark : character = '!'
    · subst mark
      simp only [List.cons_append, tagHandle?,
        takeWhile_append_spacing spacing lacksSpacing_isNameChar,
        dropWhile_append_spacing spacing lacksSpacing_isNameChar]
      cases rest.dropWhile isNameChar with
      | nil =>
        cases tail : frame.tail with
        | nil => rfl
        | cons next more =>
          simp [head_ne_of_spacing spacing tail (show isSpacing '!' = false by decide)]
      | cons next more =>
        by_cases again : next = '!'
        · subst again
          rfl
        · simp [again]
    · simp [tagHandle?, mark]

theorem tagParts?_append (characters : List Char) :
    tagParts? (characters ++ frame.tail) =
      (tagParts? characters).map fun found => (found.1, found.2.1, found.2.2 ++ frame.tail) := by
  by_cases enclosed : ∃ rest, characters = '!' :: '<' :: rest
  · obtain ⟨rest, rfl⟩ := enclosed
    simp only [List.cons_append, tagParts?,
      takeWhile_append_spacing spacing (lacksSpacing_isTagChar true),
      dropWhile_append_spacing spacing (lacksSpacing_isTagChar true)]
    cases rest.dropWhile (isTagChar true) with
    | nil =>
      cases tail : frame.tail with
      | nil => rfl
      | cons next more =>
        simp [head_ne_of_spacing spacing tail (show isSpacing '>' = false by decide)]
    | cons next after =>
      by_cases closes : next = '>'
      · subst closes
        simp only [List.cons_append]
        split
        · rfl
        · cases tagText? (rest.takeWhile (isTagChar true)) <;> rfl
      · simp [closes]
  · have notEnclosed : ∀ rest, characters ++ frame.tail = '!' :: '<' :: rest → False := by
      intro rest same
      match characters, enclosed, same with
      | [], _, same => exact head_ne_of_spacing spacing same (by decide) rfl
      | [_], _, same =>
        exact head_ne_of_spacing spacing (List.cons.inj same).2 (by decide) rfl
      | first :: second :: more, enclosed, same =>
        simp only [List.cons_append, List.cons.injEq] at same
        obtain ⟨rfl, rfl, _⟩ := same
        exact enclosed ⟨more, rfl⟩
    rw [tagParts?, tagParts?, tagHandle?_append spacing]
    · cases tagHandle? characters with
      | none => rfl
      | some found =>
        obtain ⟨handle, after⟩ := found
        simp only [Option.map_some, Option.bind_eq_bind, Option.bind_some,
          takeWhile_append_spacing spacing (lacksSpacing_isTagChar false),
          dropWhile_append_spacing spacing (lacksSpacing_isTagChar false)]
        split
        · split
          · rfl
          · cases tagText? (after.takeWhile (isTagChar false)) <;> rfl
        · cases tagText? (handle.drop 1 ++ after.takeWhile (isTagChar false)) with
          | none => rfl
          | some whole =>
            simp only [Option.bind_some]
            split <;> rfl
    · exact fun rest same => enclosed ⟨rest, same⟩
    · exact notEnclosed

end Names

theorem tagHandle?_suffix {characters : List Char} {found : List Char × List Char}
    (read : tagHandle? characters = some found) :
    found.2 <:+ characters ∧ found.2.length < characters.length := by
  unfold tagHandle? at read
  split at read
  next rest =>
    have isSuffix := List.dropWhile_suffix (l := rest) isNameChar
    split at read
    next after closed =>
      cases read
      have onward := (List.suffix_cons '!' after).trans (closed ▸ isSuffix)
      exact ⟨onward.trans (List.suffix_cons '!' rest), Nat.lt_succ_of_le onward.length_le⟩
    next =>
      cases read
      exact ⟨isSuffix.trans (List.suffix_cons '!' rest), Nat.lt_succ_of_le isSuffix.length_le⟩
  · cases read

theorem tagParts?_suffix {characters : List Char} {found : String × String × List Char}
    (read : tagParts? characters = some found) :
    found.2.2 <:+ characters ∧ found.2.2.length < characters.length := by
  unfold tagParts? at read
  split at read
  next rest =>
    have isSuffix := List.dropWhile_suffix (l := rest) (isTagChar true)
    dsimp only at read
    split at read
    next after closed =>
      split at read
      · cases read
      · obtain ⟨_, _, same⟩ := Option.bind_eq_some_iff.mp read
        cases same
        have onward := (List.suffix_cons '>' after).trans (closed ▸ isSuffix)
        exact ⟨onward.trans ⟨['!', '<'], rfl⟩, by
          have := onward.length_le
          simp only [List.length_cons]
          omega⟩
    · cases read
  · obtain ⟨⟨handle, after⟩, handled, further⟩ := Option.bind_eq_some_iff.mp read
    obtain ⟨isSuffix, shorter⟩ := tagHandle?_suffix handled
    have rest := List.dropWhile_suffix (l := after) (isTagChar false)
    have same : found.2.2 = after.dropWhile (isTagChar false) := by
      dsimp only at further
      split at further
      · split at further
        · cases further
        · obtain ⟨_, _, same⟩ := Option.bind_eq_some_iff.mp further
          cases same
          rfl
      · obtain ⟨_, _, same⟩ := Option.bind_eq_some_iff.mp further
        split at same <;> (cases same; rfl)
    rw [same]
    exact ⟨rest.trans isSuffix, Nat.lt_of_le_of_lt rest.length_le shorter⟩

theorem keeps_tag? {frame : Frame} (spacing : Spacing frame.tail) (reader : TokenReader) :
    Keeps frame reader tag? where
  same := by
    have inFrame : (frame.reader reader).cursor = frame.cursor reader.cursor := rfl
    simp only [tag?, frame.noteKey?_frame, inFrame, frame.cursor_rest, tagParts?_append spacing,
      frame.inFlow_reader]
    cases reader.noteKey? with
    | none => rfl
    | some noted =>
      cases tagParts? reader.cursor.rest with
      | none => rfl
      | some found =>
        obtain ⟨handle, suffix, rest⟩ := found
        have ended : (atBlankOrEnd (rest ++ frame.tail) ||
            (reader.inFlow && (rest ++ frame.tail).head? == some ',')) =
            (atBlankOrEnd rest || (reader.inFlow && rest.head? == some ',')) := by
          cases rest with
          | nil => rw [atBlankOrEnd_append_spacing spacing]; rfl
          | cons first more => rfl
        simp only [Option.map_some, Option.bind_eq_bind, Option.bind_some, ended,
          frame.cursor_skipTo]
        split <;> rfl
  advances := by
    intro after read
    obtain ⟨noted, note, further⟩ := Option.bind_eq_some_iff.mp read
    obtain ⟨⟨handle, suffix, rest⟩, parts, finish⟩ := Option.bind_eq_some_iff.mp further
    obtain ⟨isSuffix, shorter⟩ := tagParts?_suffix parts
    have reached := Cursor.rest_skipTo isSuffix
    have kept := noteKey?_outerKeys note
    dsimp only at finish
    split at finish
    · cases finish
    · cases finish
      exact ⟨reached ▸ isSuffix, reached ▸ shorter, fun outside => kept.trans outside⟩

/-! ## Directives -/

/-- Blanks are passed over inside a solid text. -/
theorem dropWhile_isBlank_append {characters : List Char} (solid : Solid characters)
    (tail : List Char) :
    (characters ++ tail).dropWhile isBlank = characters.dropWhile isBlank ++ tail := by
  rw [List.dropWhile_append, if_neg]
  simpa using (solid.dropWhile fun _ => id).ne_nil

section Directives

variable {frame : Frame} (spacing : Spacing frame.tail)

include spacing

theorem versionNumber?_append (characters : List Char) :
    versionNumber? (characters ++ frame.tail) =
      (versionNumber? characters).map fun found => (found.1, found.2 ++ frame.tail) := by
  have digits : LacksSpacing Char.isDigit := lacksSpacing_of_all (by decide)
  simp only [versionNumber?, takeWhile_append_spacing spacing digits,
    dropWhile_append_spacing spacing digits]
  split <;> rfl

theorem directiveBody?_append (name : String) {characters : List Char}
    (solid : Solid characters) :
    directiveBody? name (characters ++ frame.tail) =
      (directiveBody? name characters).map fun found => (found.1, found.2 ++ frame.tail) := by
  have dropped := dropWhile_isBlank_append solid frame.tail
  have solidBody : Solid (characters.dropWhile isBlank) := solid.dropWhile fun _ => id
  by_cases version : name = "YAML"
  · subst version
    simp only [directiveBody?, dropped, versionNumber?_append spacing]
    cases versionNumber? (characters.dropWhile isBlank) with
    | none => rfl
    | some found =>
      obtain ⟨major, after⟩ := found
      simp only [Option.map_some, Option.bind_eq_bind, Option.bind_some]
      cases after with
      | nil =>
        cases tail : frame.tail with
        | nil => rfl
        | cons next more =>
          simp [head_ne_of_spacing spacing tail (show isSpacing '.' = false by decide)]
      | cons next rest =>
        by_cases point : next = '.'
        · subst point
          simp only [List.cons_append, versionNumber?_append spacing]
          cases versionNumber? rest <;> rfl
        · simp [point]
  by_cases tag : name = "TAG"
  · subst tag
    simp only [directiveBody?, dropped, tagHandle?_append spacing]
    cases read : tagHandle? (characters.dropWhile isBlank) with
    | none => rfl
    | some found =>
      obtain ⟨handle, after⟩ := found
      simp only [Option.map_some, Option.bind_eq_bind, Option.bind_some]
      split
      · rfl
      by_cases ended : after = []
      · subst ended
        have nothing : ((frame.tail.dropWhile isBlank).takeWhile (isTagChar true)) = [] :=
          takeWhile_append_spacing (spacing.suffix (List.dropWhile_suffix isBlank))
            (lacksSpacing_isTagChar true) []
        simp [nothing]
      · have solidAfter : Solid after := solidBody.suffix (tagHandle?_suffix read).1 ended
        have head : (after ++ frame.tail).head? = after.head? := by
          cases after with
          | nil => exact absurd rfl ended
          | cons first rest => rfl
        rw [head, dropWhile_isBlank_append solidAfter frame.tail,
          takeWhile_append_spacing spacing (lacksSpacing_isTagChar true),
          dropWhile_append_spacing spacing (lacksSpacing_isTagChar true),
          atBlankOrEnd_append_spacing spacing]
        split
        · rfl
        split
        · rfl
        · cases tagText? ((after.dropWhile isBlank).takeWhile (isTagChar true)) <;> rfl
  · simp [directiveBody?]

end Directives

/-- Spaces and line breaks say nothing. -/
theorem directiveBody?_spacing (name : String) {characters : List Char}
    (spacing : Spacing characters) : directiveBody? name characters = none := by
  have body : Spacing (characters.dropWhile isBlank) :=
    spacing.suffix (List.dropWhile_suffix isBlank)
  by_cases version : name = "YAML"
  · subst version
    have digits : (characters.dropWhile isBlank).takeWhile Char.isDigit = [] :=
      takeWhile_append_spacing body (lacksSpacing_of_all (by decide)) []
    simp [directiveBody?, versionNumber?, digits]
  by_cases tag : name = "TAG"
  · subst tag
    have handle : tagHandle? (characters.dropWhile isBlank) = none := by
      have framed : Spacing (Frame.mk 0 0 (characters.dropWhile isBlank)).tail := body
      exact tagHandle?_append framed []
    simp [directiveBody?, handle]
  · simp [directiveBody?]

end Acronyms.Yaml
