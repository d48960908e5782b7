import Acronyms.CommandLine.Run
import Acronyms.Proofs.Path.Ancestors
import Acronyms.Settings.Written

/-!
# Which settings a run has

A run without a named settings file uses the file of the nearest directory that has one: a
directory from which every other one with a settings file is reached by going further up
(`Nearest`).  The search goes up one directory at a time, and finds this file or finds that
there is none (`uses_discover`).

The file that is used says something about some of the settings, and the caller overrides
some.  **A configuration is loaded exactly when it combines the two, setting by setting**
(`load_resolution`): what the caller sets, otherwise what the file says, otherwise the default
value; a file of definitions is seen from the directory of the settings file, unless the
caller names it.
-/

set_option autoImplicit false

namespace Acronyms.Configuration

open Acronyms.Path (ancestors parent? absolute IsName)
open Settings (Written)

/-! ## The settings file of a run -/

section Search

variable (files : FileAccess Id)

/-- A directory with a settings file. -/
def HasSettings (directory : String) : Prop :=
  files.doesExist (Path.join directory fileName) = true

/-- The nearest directory from one up that has a settings file. -/
structure Nearest (start directory : String) : Prop where
  ancestor : directory ∈ ancestors start
  hasSettings : HasSettings files directory
  below : ∀ other ∈ ancestors start, HasSettings files other → other ∈ ancestors directory

/-- The settings file that is used, if any, when one is named or none is. -/
inductive Uses (start : String) : Option String → Option String → Prop
  | named {path : String} (there : files.doesExist path = true) :
      Uses start (some path) (some path)
  | found {directory : String} (nearest : Nearest files start directory) :
      Uses start none (some (Path.join directory fileName))
  | nothing (absent : ∀ directory ∈ ancestors start, ¬HasSettings files directory) :
      Uses start none none

end Search

/-! ## What a run combines -/

/-- What is said about the settings by the file that is used, or without one. -/
inductive States (files : FileAccess Id) : Option String → Written → Prop
  | file {path text : String} {written : Written} (read : files.readText path = .ok text)
      (means : Written.ofText? text = some written) : States files (some path) written
  | nothing : States files none {}

/-- The directory from which a settings file sees others. -/
def viewpoint (source : Option String) : String := (source.bind parent?).getD "."

/-- A configuration decides each setting for itself, from what is overridden and what is
written. -/
structure Combines (overrides : Overrides) (source : Option String) (written : Written)
    (configuration : Configuration) : Prop where
  path : configuration.path = source
  mode : configuration.settings.mode = (overrides.mode.or written.mode).getD .plain
  filter : configuration.settings.filter = (overrides.filter.or written.filter).getD .used
  sort : configuration.settings.sort = (overrides.sort.or written.sort).getD .alphabetical
  acronymsFile : configuration.acronymsFile = overrides.acronymsFile.or
    (written.acronymsFile.map fun file =>
      if Path.isAbsolute file then file else Path.join (viewpoint source) file)
  forcedFormsMarkUsed : configuration.settings.policy.forcedFormsMarkUsed =
    written.forcedFormsMarkUsed.getD true
  single : configuration.settings.policy.single = written.single.getD false
  pluralSuffix : configuration.settings.policy.pluralSuffix = written.pluralSuffix.getD "s"
  silent : configuration.settings.silent = written.silent.getD false
  asWritten : configuration.settings.acronymsFile = written.acronymsFile

/-! ## The search -/

variable {files : FileAccess Id} {start : String} {named : Option String}

theorem discover_of_hasSettings {directory : String} (hasSettings : HasSettings files directory) :
    discover files directory = some (Path.join directory fileName) := by
  rw [discover]
  exact if_pos hasSettings

theorem discover_of_not_hasSettings {directory : String} (bare : ¬HasSettings files directory) :
    discover files directory = (parent? directory).bind fun up => (discover files up).run := by
  rw [discover]
  refine (if_neg bare).trans ?_
  split
  next found => rw [found]; rfl
  next up found => rw [found]; rfl

/-- A directory that has a settings file is the nearest one. -/
theorem nearest_self (hasSettings : HasSettings files start) : Nearest files start start where
  ancestor := Path.self_mem_ancestors start
  hasSettings
  below _ above _ := above

/-- One step of the search: a directory without a settings file uses the one that the
directory above it uses. -/
theorem Uses.up {up : String} {source : Option String} (found : parent? start = some up)
    (bare : ¬HasSettings files start) (used : Uses files up none source) :
    Uses files start none source := by
  cases used with
  | found nearest =>
    have ancestor := (Path.mem_ancestors_of_parent?_eq_some found).mpr (.inr nearest.ancestor)
    refine .found ⟨ancestor, nearest.hasSettings, fun other above hasSettings => ?_⟩
    obtain rfl | further := (Path.mem_ancestors_of_parent?_eq_some found).mp above
    · exact absurd hasSettings bare
    · exact nearest.below other further hasSettings
  | nothing absent =>
    refine .nothing fun other above => ?_
    obtain rfl | further := (Path.mem_ancestors_of_parent?_eq_some found).mp above
    · exact bare
    · exact absent other further

/-- **The search ends with the settings file that is to be used.** -/
theorem uses_discover (files : FileAccess Id) (start : String) :
    Uses files start none (discover files start) := by
  induction start using Path.ancestors.induct with
  | case1 start ih =>
    by_cases hasSettings : HasSettings files start
    · rw [discover_of_hasSettings hasSettings]
      exact .found (nearest_self hasSettings)
    rw [discover_of_not_hasSettings hasSettings]
    cases found : parent? start with
    | none =>
      refine .nothing fun other above => ?_
      rwa [(Path.mem_ancestors_of_parent?_eq_none found).mp above]
    | some up => exact (ih up found).up found hasSettings

theorem Nearest.unique {directory other : String} (nearest : Nearest files start directory)
    (otherNearest : Nearest files start other) : directory = other :=
  Path.ancestors_antisymm (otherNearest.below _ nearest.ancestor nearest.hasSettings)
    (nearest.below _ otherNearest.ancestor otherNearest.hasSettings)

/-- There is one settings file to use at most. -/
theorem Uses.unique {source other : Option String} (used : Uses files start named source)
    (otherUsed : Uses files start named other) : source = other := by
  cases used with
  | named => cases otherUsed; rfl
  | found nearest =>
    cases otherUsed with
    | found otherNearest => rw [nearest.unique otherNearest]
    | nothing absent => exact absurd nearest.hasSettings (absent _ nearest.ancestor)
  | nothing absent =>
    cases otherUsed with
    | found nearest => exact absurd nearest.hasSettings (absent _ nearest.ancestor)
    | nothing => rfl

theorem uses_iff_discover {source : Option String} :
    Uses files start none source ↔ (discover files start).run = source :=
  ⟨(uses_discover files start).unique, fun found => found ▸ uses_discover files start⟩

/-! ### Below the root of the machine -/

theorem isName_fileName : IsName fileName := ⟨by decide, by decide⟩

/-- The nearest directory of names below the root is that of the most leading names. -/
theorem nearest_absolute_iff {names : List String} (clean : ∀ name ∈ names, IsName name)
    {directory : String} :
    Nearest files (absolute names) directory ↔
      ∃ leading, leading <+: names ∧ directory = absolute leading ∧
        HasSettings files (absolute leading) ∧
        ∀ other, other <+: names → HasSettings files (absolute other) → other <+: leading := by
  have cleanPrefix : ∀ {leading : List String}, leading <+: names →
      ∀ name ∈ leading, IsName name := fun front name member => clean name (front.subset member)
  constructor
  · rintro ⟨ancestor, hasSettings, below⟩
    rw [Path.ancestors_absolute clean] at ancestor
    simp only [List.mem_map, List.mem_reverse, List.mem_inits] at ancestor
    obtain ⟨leading, front, rfl⟩ := ancestor
    refine ⟨leading, front, rfl, hasSettings, fun other otherFront otherHas => ?_⟩
    have above := (Path.mem_ancestors_absolute_iff clean (cleanPrefix otherFront)).mpr otherFront
    exact (Path.mem_ancestors_absolute_iff (cleanPrefix front) (cleanPrefix otherFront)).mp
      (below _ above otherHas)
  · rintro ⟨leading, front, rfl, hasSettings, most⟩
    refine ⟨(Path.mem_ancestors_absolute_iff clean (cleanPrefix front)).mpr front, hasSettings,
      fun other above otherHas => ?_⟩
    rw [Path.ancestors_absolute clean] at above
    simp only [List.mem_map, List.mem_reverse, List.mem_inits] at above
    obtain ⟨others, otherFront, rfl⟩ := above
    exact (Path.mem_ancestors_absolute_iff (cleanPrefix front) (cleanPrefix otherFront)).mpr
      (most others otherFront otherHas)

/-- A settings file that is found in a directory sees other files from there. -/
theorem viewpoint_join_absolute {names : List String} (clean : ∀ name ∈ names, IsName name) :
    viewpoint (some (Path.join (absolute names) fileName)) = absolute names := by
  have named : ∀ name ∈ names ++ [fileName], IsName name := by
    simpa [or_imp, forall_and] using ⟨clean, isName_fileName⟩
  rw [viewpoint, Path.join_absolute clean (by decide), Option.bind_some,
    Path.parent?_absolute named]
  rfl

/-! ## What the file says, and what the caller says -/

theorem ofText?_eq (text : String) :
    (Toml.ofText? text).bind Settings.ofMembers? = (Written.ofText? text).map Written.settings := by
  rw [Written.ofText?, Option.map_bind]
  congr 1
  exact funext Settings.ofMembers?_eq_map_settings

/-- The settings of a text are those that it says, unless something is wrong with them. -/
theorem ofText_eq_ok_iff {text : String} {settings : Settings} :
    Settings.ofText text = .ok settings ↔
      ∃ written, Written.ofText? text = some written ∧ written.settings.problem? = none ∧
        written.settings = settings := by
  rw [Settings.ofText, ofText?_eq]
  cases Written.ofText? text with
  | none => simp
  | some written => cases problem : written.settings.problem? <;> simp [problem]

/-- The configuration of what a file says, before anything is overridden. -/
def ofWritten (source : Option String) (written : Written) : Configuration where
  settings := written.settings
  acronymsFile := written.acronymsFile.map (Path.join (viewpoint source))
  path := source

theorem combines_override (overrides : Overrides) (source : Option String) (written : Written) :
    Combines overrides source written ((ofWritten source written).override overrides) where
  path := rfl
  mode := by cases mode : overrides.mode <;> simp [override, ofWritten, Written.settings, mode]
  filter := by
    cases filter : overrides.filter <;> simp [override, ofWritten, Written.settings, filter]
  sort := by cases sort : overrides.sort <;> simp [override, ofWritten, Written.settings, sort]
  acronymsFile := by
    simp only [override, ofWritten]
    congr 2
    funext file
    split
    next absolute => rw [Path.join, if_pos (.inl absolute)]
    next => rfl
  forcedFormsMarkUsed := rfl
  single := rfl
  pluralSuffix := rfl
  silent := rfl
  asWritten := rfl

theorem Combines.unique {overrides : Overrides} {source : Option String} {written : Written}
    {configuration other : Configuration}
    (combined : Combines overrides source written configuration)
    (otherCombined : Combines overrides source written other) : configuration = other := by
  have policy : configuration.settings.policy = other.settings.policy :=
    Policy.ext (combined.forcedFormsMarkUsed.trans otherCombined.forcedFormsMarkUsed.symm)
      (combined.single.trans otherCombined.single.symm)
      (combined.pluralSuffix.trans otherCombined.pluralSuffix.symm)
  have settings : configuration.settings = other.settings :=
    Settings.ext (combined.mode.trans otherCombined.mode.symm) policy
      (combined.filter.trans otherCombined.filter.symm)
      (combined.sort.trans otherCombined.sort.symm)
      (combined.asWritten.trans otherCombined.asWritten.symm)
      (combined.silent.trans otherCombined.silent.symm)
  exact Configuration.ext settings (combined.acronymsFile.trans otherCombined.acronymsFile.symm)
    (combined.path.trans otherCombined.path.symm)

theorem combines_iff {overrides : Overrides} {source : Option String} {written : Written}
    {configuration : Configuration} :
    Combines overrides source written configuration ↔
      (ofWritten source written).override overrides = configuration :=
  ⟨fun combined => (combines_override overrides source written).unique combined,
    fun same => same ▸ combines_override overrides source written⟩

/-! ## Loading -/

/-- The configuration of the settings file that is used, before anything is overridden. -/
def ofSource (files : FileAccess Id) : Option String → Except LoadError Configuration
  | some path => (ofFile files path).run
  | none => .ok {}

theorem ofSource_some (files : FileAccess Id) (path : String) :
    ofSource files (some path) =
      match (files.readText path).run with
      | .error fault => .error (.unreadable fault)
      | .ok text => (Settings.ofText text).map (ofSettings path) := by
  rfl

/-- The configuration of a file is what the file says, unless something is wrong with it. -/
theorem ofSource_eq_ok_iff {source : Option String} {configuration : Configuration} :
    ofSource files source = .ok configuration ↔
      ∃ written, States files source written ∧ written.settings.problem? = none ∧
        ofWritten source written = configuration := by
  cases source with
  | none =>
    constructor
    · intro loaded
      cases loaded
      exact ⟨{}, .nothing, by decide, rfl⟩
    · rintro ⟨written, ⟨⟩, _, rfl⟩
      rfl
  | some path =>
    rw [ofSource_some]
    constructor
    · intro loaded
      split at loaded
      next => cases loaded
      next text read =>
        cases settings : Settings.ofText text with
        | error => simp [settings, Except.map] at loaded
        | ok settings' =>
          obtain ⟨written, means, fine, rfl⟩ := ofText_eq_ok_iff.mp settings
          rw [settings] at loaded
          cases loaded
          exact ⟨written, .file read means, fine, rfl⟩
    · rintro ⟨written, ⟨read, means⟩, fine, rfl⟩
      rw [read]
      show (Settings.ofText _).map (ofSettings path) = _
      rw [ofText_eq_ok_iff.mpr ⟨written, means, fine, rfl⟩]
      rfl

/-- A configuration is loaded from the settings file that is used. -/
theorem Uses.load_eq {source : Option String} (used : Uses files start named source)
    (overrides : Overrides) :
    load files start named overrides = (ofSource files source).map (override · overrides) := by
  cases named with
  | some path =>
    cases used with
    | named there =>
      have found : ofNamed files path = ofFile files path := if_pos there
      rw [load, found]
      rfl
  | none =>
    have found : discover files start = source := uses_iff_discover.mp used
    rw [load, ofDirectory, found]
    cases source <;> rfl

theorem load_notFound {path : String} (absent : files.doesExist path = false)
    (overrides : Overrides) :
    load files start (some path) overrides = .error (.notFound path) := by
  have unfound : ofNamed files path = .error (.notFound path) := if_neg (by simp [absent])
  rw [load, unfound]
  rfl

/-- **A configuration is loaded exactly when it combines what the settings file that is used
says with what is overridden.** -/
theorem load_eq_ok_iff {overrides : Overrides} {configuration : Configuration} :
    load files start named overrides = .ok configuration ↔
      ∃ source written, Uses files start named source ∧ States files source written ∧
        written.settings.problem? = none ∧ Combines overrides source written configuration := by
  constructor
  · intro loaded
    obtain ⟨source, used⟩ : ∃ source, Uses files start named source := by
      cases named with
      | none => exact ⟨_, uses_discover files start⟩
      | some path =>
        by_cases there : files.doesExist path = true
        · exact ⟨_, .named there⟩
        · rw [load_notFound (Bool.eq_false_iff.mpr there)] at loaded
          cases loaded
    rw [used.load_eq] at loaded
    cases found : ofSource files source with
    | error => rw [found] at loaded; cases loaded
    | ok unchanged =>
      rw [found] at loaded
      obtain ⟨written, stated, fine, rfl⟩ := ofSource_eq_ok_iff.mp found
      exact ⟨source, written, used, stated, fine, combines_iff.mpr (Except.ok.inj loaded)⟩
  · rintro ⟨source, written, used, stated, fine, combined⟩
    rw [used.load_eq, ofSource_eq_ok_iff.mpr ⟨written, stated, fine, rfl⟩]
    exact congrArg Except.ok (combines_iff.mp combined)

/-! ## The whole of it -/

/-- What is overridden is never at fault. -/
theorem Combines.problem? {overrides : Overrides} {source : Option String} {written : Written}
    {configuration : Configuration}
    (combined : Combines overrides source written configuration) :
    configuration.settings.problem? = written.settings.problem? := by
  rw [Settings.problem?, combined.pluralSuffix, combined.asWritten]
  rfl

/-- A settings file that is found is used as one that is named. -/
theorem Nearest.load_eq {directory : String} (nearest : Nearest files start directory)
    (overrides : Overrides) :
    load files start none overrides =
      load files start (some (Path.join directory fileName)) overrides := by
  have found : Uses files start none (some (Path.join directory fileName)) := .found nearest
  have named : Uses files start (some (Path.join directory fileName)) _ :=
    .named nearest.hasSettings
  rw [found.load_eq, named.load_eq]

theorem Combines.path_eq_none_iff {overrides : Overrides} {written : Written}
    {source : Option String} {configuration : Configuration}
    (used : Uses files start none source)
    (combined : Combines overrides source written configuration) :
    configuration.path = none ↔ ∀ directory ∈ ancestors start, ¬HasSettings files directory := by
  rw [combined.path]
  constructor
  · rintro rfl
    cases used
    assumption
  · exact fun absent => used.unique (.nothing absent)

/-- A relative file of definitions lies in the directory of the settings file. -/
theorem Combines.acronymsFile_absolute {names : List String}
    (clean : ∀ name ∈ names, IsName name) {overrides : Overrides} {written : Written}
    {configuration : Configuration}
    (combined : Combines overrides (some (Path.join (absolute names) fileName)) written
      configuration) :
    configuration.acronymsFile = overrides.acronymsFile.or (written.acronymsFile.map fun file =>
      if Path.isAbsolute file then file else absolute (names ++ [file])) := by
  rw [combined.acronymsFile, viewpoint_join_absolute clean]
  congr 2
  funext file
  split
  next => rfl
  next relative => exact Path.join_absolute clean (Bool.eq_false_iff.mpr relative)

/-- **How the settings of a run are found.**  Without a name, the search ends with exactly one
answer: the settings file of the nearest directory, which is then used as if it had been named,
or nothing and default settings if no directory has one.  A configuration is loaded exactly
when it combines what is overridden, what the file says and the default values, and then
nothing is wrong with it.  Below the root of the machine the nearest directory is the one of
the most leading names, and a relative file of definitions is seen from it.  The command line
names the settings file and the file of definitions. -/
theorem load_resolution (files : FileAccess Id) (start : String) (overrides : Overrides) :
    (∀ source, Uses files start none source ↔ (discover files start).run = source) ∧
    (∀ directory, Nearest files start directory →
      load files start none overrides =
        load files start (some (Path.join directory fileName)) overrides) ∧
    ((∀ directory ∈ ancestors start, ¬HasSettings files directory) →
      load files start none overrides = .ok (override {} overrides)) ∧
    (∀ configuration, load files start none overrides = .ok configuration →
      (configuration.path = none ↔
        ∀ directory ∈ ancestors start, ¬HasSettings files directory)) ∧
    (∀ named configuration, load files start named overrides = .ok configuration ↔
      ∃ source written, Uses files start named source ∧ States files source written ∧
        written.settings.problem? = none ∧ Combines overrides source written configuration) ∧
    (∀ named configuration, load files start named overrides = .ok configuration →
      configuration.settings.problem? = none) ∧
    (∀ names, (∀ name ∈ names, IsName name) →
      (start = absolute names → ∀ directory, Nearest files start directory ↔
        ∃ leading, leading <+: names ∧ directory = absolute leading ∧
          HasSettings files (absolute leading) ∧
          ∀ other, other <+: names → HasSettings files (absolute other) → other <+: leading) ∧
      ∀ written configuration,
        Combines overrides (some (Path.join (absolute names) fileName)) written configuration →
        configuration.acronymsFile =
          overrides.acronymsFile.or (written.acronymsFile.map fun file =>
            if Path.isAbsolute file then file else absolute (names ++ [file]))) ∧
    ∀ (input : Except ReadFault String) (source : CommandLine.Source) (configuration),
      CommandLine.Surroundings.configuration ⟨files, start, input⟩ source overrides =
          .ok configuration ↔
        ∃ used written, Uses files start source.config used ∧ States files used written ∧
          written.settings.problem? = none ∧
          Combines { overrides with acronymsFile := source.acronyms } used written
            configuration := by
  refine ⟨fun _ => uses_iff_discover, fun _ nearest => nearest.load_eq overrides,
    fun absent => ?_, fun configuration loaded => ?_, fun _ _ => load_eq_ok_iff,
    fun _ configuration loaded => ?_,
    fun names clean => ⟨?_, fun _ _ combined => combined.acronymsFile_absolute clean⟩,
    fun _ _ _ => load_eq_ok_iff⟩
  · exact (Uses.nothing absent).load_eq overrides
  · obtain ⟨source, written, used, _, _, combined⟩ := load_eq_ok_iff.mp loaded
    exact combined.path_eq_none_iff used
  · obtain ⟨_, _, _, _, fine, combined⟩ := load_eq_ok_iff.mp loaded
    exact combined.problem?.trans fine
  · rintro rfl directory
    exact nearest_absolute_iff clean

/-- A settings file is found one directory up, and sees the definitions from there. -/
example :
    let text := "[listing]\nsort = \"first-use\"\n[acronyms]\nfile = \"words.yaml\"\n"
    let tree : FileTree :=
      ⟨"/r", [(["acro.toml"], .octets text.toUTF8), (["part"], .directory)]⟩
    (load (tree.access ["part"]) "/r/part" none { filter := some .all }).run.toOption =
      some {
        settings := { filter := .all, sort := .firstUse, acronymsFile := some "words.yaml" }
        acronymsFile := some "/r/words.yaml"
        path := some "/r/acro.toml" } := by
  decide +kernel

end Acronyms.Configuration
