import VersionFloor.Proofs.FileTree.Resolution
import VersionFloor.Proofs.Glob.Plain
import VersionFloor.Proofs.Version.Grammar
import VersionFloor.Settings.Source

set_option autoImplicit false

namespace VersionFloor.Settings

/-- The settings that a layer can set, with what it sets them to. -/
inductive Field : Type → Type
  | paths : Field (List String)
  | excludePatterns : Field (List String)
  | maxDepth : Field Nat
  | followLinks : Field Bool
  | baseline : Field String
  | dataDir : Field String
  | outputFormat : Field OutputFormat
  | outputFile : Field String
  | showNotes : Field Bool
  | quiet : Field Bool
  | verbose : Field Bool
  | useColors : Field Bool

namespace Field

/-- What a layer sets the field to. -/
def get {α : Type} : Field α → Layer → Option α
  | paths, layer => layer.paths
  | excludePatterns, layer => layer.excludePatterns
  | maxDepth, layer => layer.maxDepth
  | followLinks, layer => layer.followLinks
  | baseline, layer => layer.baseline
  | dataDir, layer => layer.dataDir
  | outputFormat, layer => layer.outputFormat
  | outputFile, layer => layer.outputFile
  | showNotes, layer => layer.showNotes
  | quiet, layer => layer.quiet
  | verbose, layer => layer.verbose
  | useColors, layer => layer.useColors

/-- The settings have the value given, or the default if none is. -/
def Holds (settings : Settings) {α : Type} : Field α → Option α → Prop
  | paths, given => settings.paths = given.getD []
  | excludePatterns, given =>
    settings.excludePatterns = given.getD ["__pycache__", ".git", ".venv", "venv", ".tox"]
  | maxDepth, given => settings.maxDepth = given
  | followLinks, given => settings.followLinks = given.getD false
  | baseline, some text => Version.parse text = .ok settings.baseline
  | baseline, none => settings.baseline = .baseline
  | dataDir, given => settings.dataDir = given
  | outputFormat, given => settings.outputFormat = given.getD .text
  | outputFile, given => settings.outputFile = given
  | showNotes, given => settings.showNotes = given.getD false
  | quiet, given => settings.quiet = given.getD false
  | verbose, given => settings.verbose = given.getD false
  | useColors, given => settings.useColors = given.getD true

/--
What the options of the command line give: nothing without a path or a pattern, or with a switch
that is off.
-/
def given (options : Arguments.AnalyzeOptions) {α : Type} : Field α → Option α
  | paths => if options.paths = [] then none else some options.paths
  | excludePatterns => if options.exclude = [] then none else some options.exclude
  | maxDepth => options.maxDepth
  | followLinks => if options.followLinks then some true else none
  | baseline => options.baseline
  | dataDir => options.dataDir
  | outputFormat => options.output
  | outputFile => options.outputFile
  | showNotes => if options.notes then some true else none
  | quiet => if options.quiet then some true else none
  | verbose => if options.verbose then some true else none
  | useColors => if options.noColors then some false else none

variable {α : Type}

theorem get_empty (field : Field α) : field.get .empty = none := by
  cases field <;> rfl

theorem get_merge (field : Field α) (lower upper : Layer) :
    field.get (lower.merge upper) = (field.get upper).or (field.get lower) := by
  cases field <;> rfl

theorem get_optionLayer (field : Field α) (options : Arguments.AnalyzeOptions) :
    field.get (Source.optionLayer options) = given options field := by
  cases field <;> rfl

end Field

/-- Settings that hold the same values are the same. -/
theorem eq_of_holds {one other : Settings} {value : {α : Type} → Field α → Option α}
    (first : ∀ {α : Type} (field : Field α), field.Holds one (value field))
    (second : ∀ {α : Type} (field : Field α), field.Holds other (value field)) : one = other := by
  -- The baseline is given as a text, so both settings have the version of the same text.
  have baselines : one.baseline = other.baseline := by
    have here := first .baseline
    have there := second .baseline
    cases named : value Field.baseline with
    | none =>
      rw [named] at here there
      exact here.trans there.symm
    | some given =>
      rw [named] at here there
      exact Except.ok.inj (here.symm.trans there)
  obtain ⟨_, _, _, _, _, _, _, _, _, _, _, _⟩ := one
  obtain ⟨_, _, _, _, _, _, _, _, _, _, _, _⟩ := other
  rw [Settings.mk.injEq]
  exact ⟨(first .paths).trans (second .paths).symm,
    (first .excludePatterns).trans (second .excludePatterns).symm,
    (first .maxDepth).trans (second .maxDepth).symm,
    (first .followLinks).trans (second .followLinks).symm, baselines,
    (first .dataDir).trans (second .dataDir).symm,
    (first .outputFormat).trans (second .outputFormat).symm,
    (first .outputFile).trans (second .outputFile).symm,
    (first .showNotes).trans (second .showNotes).symm,
    (first .quiet).trans (second .quiet).symm, (first .verbose).trans (second .verbose).symm,
    (first .useColors).trans (second .useColors).symm⟩

namespace Layer

/-- A layer is what it sets the fields to. -/
theorem ext_fields {one other : Layer}
    (same : ∀ {α : Type} (field : Field α), field.get one = field.get other) :
    one = other := by
  obtain ⟨_, _, _, _, _, _, _, _, _, _, _, _⟩ := one
  obtain ⟨_, _, _, _, _, _, _, _, _, _, _, _⟩ := other
  rw [Layer.mk.injEq]
  exact ⟨same .paths, same .excludePatterns, same .maxDepth, same .followLinks, same .baseline,
    same .dataDir, same .outputFormat, same .outputFile, same .showNotes, same .quiet,
    same .verbose, same .useColors⟩

theorem merge_assoc (first second third : Layer) :
    (first.merge second).merge third = first.merge (second.merge third) := by
  apply ext_fields
  intro α field
  simp only [Field.get_merge, Option.or_assoc]

theorem merge_empty (layer : Layer) : layer.merge .empty = layer := by
  apply ext_fields
  intro α field
  rw [Field.get_merge, Field.get_empty, Option.none_or]

theorem empty_merge (layer : Layer) : Layer.empty.merge layer = layer := by
  apply ext_fields
  intro α field
  rw [Field.get_merge, Field.get_empty, Option.or_none]

def mergeAll (layers : List Layer) : Layer :=
  layers.foldl merge .empty

/-- What the last layer that sets the field sets it to. -/
def lastSet {α : Type} (field : Field α) (layers : List Layer) : Option α :=
  layers.reverse.findSome? field.get

theorem lastSet_cons {α : Type} (field : Field α) (layer : Layer) (layers : List Layer) :
    lastSet field (layer :: layers) = (lastSet field layers).or (field.get layer) := by
  rw [lastSet, List.reverse_cons, List.findSome?_append, List.findSome?_singleton]
  rfl

theorem get_foldl_merge {α : Type} (field : Field α) (layers : List Layer) (lowest : Layer) :
    field.get (layers.foldl merge lowest) = (lastSet field layers).or (field.get lowest) := by
  induction layers generalizing lowest with
  | nil => rfl
  | cons layer layers ih => rw [List.foldl_cons, ih, Field.get_merge, lastSet_cons, Option.or_assoc]

theorem get_mergeAll {α : Type} (field : Field α) (layers : List Layer) :
    field.get (mergeAll layers) = lastSet field layers := by
  rw [mergeAll, get_foldl_merge, Field.get_empty, Option.or_none]

theorem holds_of_settings {layer : Layer} {settings : Settings}
    (done : layer.settings = .ok settings) {α : Type} (field : Field α) :
    field.Holds settings (field.get layer) := by
  unfold Layer.settings at done
  cases given : layer.baseline with
  | none =>
    simp only [given] at done
    cases done
    cases field with
    | baseline =>
      change Field.baseline.Holds _ layer.baseline
      rw [given]
      rfl
    | _ => rfl
  | some text =>
    simp only [given] at done
    obtain ⟨version, parsed, done⟩ := exists_of_bind_eq_ok done
    cases done
    cases field with
    | baseline =>
      change Field.baseline.Holds _ layer.baseline
      rw [given]
      exact Error.versionOf_eq_ok_iff.1 parsed
    | _ => rfl

/-- Only the baseline can make a layer fail. -/
theorem exists_settings {layer : Layer} {settings : Settings}
    (held : Field.baseline.Holds settings layer.baseline) :
    ∃ resolved, layer.settings = .ok resolved := by
  unfold Layer.settings
  cases given : layer.baseline with
  | none => exact ⟨_, rfl⟩
  | some text =>
    rw [given] at held
    simp only [Error.versionOf_eq_ok_iff.2 held]
    exact ⟨_, rfl⟩

/-- The settings of a layer are those that hold what its fields are set to. -/
theorem settings_eq_ok_iff {layer : Layer} {settings : Settings} :
    layer.settings = .ok settings ↔
      ∀ {α : Type} (field : Field α), field.Holds settings (field.get layer) := by
  refine ⟨fun done _ field => holds_of_settings done field, fun holds => ?_⟩
  obtain ⟨resolved, done⟩ := exists_settings (holds .baseline)
  rw [done, eq_of_holds (holds_of_settings done) holds]

theorem checked_eq_ok_iff {origin : String} {layer result : Layer} :
    layer.checked origin = .ok result ↔ layer.fault = .ok () ∧ result = layer := by
  unfold checked
  cases layer.fault with
  | ok _ => simp only [Except.ok.injEq, true_and, eq_comm]
  | error fault => simp only [reduceCtorEq, false_and]

end Layer

theorem ofLayer_eq_ok_iff {tree : FileTree} {layer : Layer} {settings : Settings} :
    ofLayer tree layer = .ok settings ↔
      layer.settings = .ok settings ∧ settings.check tree = .ok () := by
  unfold ofLayer
  rw [bind_eq_ok_iff]
  constructor
  · rintro ⟨resolved, done, checked⟩
    obtain ⟨_, passed, same⟩ := exists_of_bind_eq_ok checked
    cases same
    exact ⟨done, passed⟩
  · rintro ⟨done, passed⟩
    exact ⟨settings, done, bind_eq_ok_iff.2 ⟨(), passed, rfl⟩⟩

theorem contains_of_read {tree : FileTree} {path text : String} (read : tree.read path = .ok text) :
    tree.contains path = true := by
  obtain ⟨found, present, -⟩ := exists_of_bind_eq_ok read
  rw [FileTree.contains, present]

theorem fileLayer_eq_ok_iff {tree : FileTree} {path : String} {layer : Layer} :
    fileLayer tree path = .ok layer ↔
      ∃ text, tree.read path = .ok text ∧ Layer.ofText path text = .ok layer := by
  constructor
  · intro layered
    by_cases present : tree.contains path = true
    · simp only [fileLayer, present, not_true_eq_false, if_false] at layered
      cases read : tree.read path with
      | ok text => exact ⟨text, rfl, by simpa only [read] using layered⟩
      | error fault =>
        simp only [read] at layered
        cases layered
    · simp only [fileLayer, if_pos present] at layered
      cases layered
  · rintro ⟨text, read, layered⟩
    simp only [fileLayer, contains_of_read read, not_true_eq_false, if_false, read]
    exact layered

/--
The layer of the file that is named, or of the first of the default files that is there, if one is.
-/
inductive FromFile (tree : FileTree) (env : Environment) : Option String → Layer → Prop
  | named {path text : String} {layer : Layer} (present : tree.isFile path = true)
      (read : tree.read path = .ok text)
      (layered : Layer.ofText path text = .ok layer) : FromFile tree env (some path) layer
  | default {path text : String} {layer : Layer}
      (found : (defaultFiles env).find? tree.isFile = some path)
      (read : tree.read path = .ok text) (layered : Layer.ofText path text = .ok layer) :
        FromFile tree env none layer
  | absent (missing : ∀ path ∈ defaultFiles env, tree.isFile path = false) :
      FromFile tree env none .empty

theorem addTo_file {tree : FileTree} {path : String} (present : tree.isFile path = true)
    (lower : Layer) :
    (Source.file tree (some path)).addTo lower = fileLayer tree path >>= fun layer =>
      pure (lower.merge layer) := by
  have available : (Source.file tree (some path)).isAvailable = true := present
  have layered : (Source.file tree (some path)).layer = fileLayer tree path := if_pos present
  rw [Source.addTo, if_pos available, layered]

theorem overFile_eq_ok_iff {tree : FileTree} {env : Environment} {path : String} {layer : Layer} :
    overFile tree path .empty = .ok layer ↔ FromFile tree env (some path) layer := by
  rw [overFile]
  constructor
  · intro loaded
    split at loaded
    · next present =>
      rw [addTo_file present] at loaded
      obtain ⟨_, given, merging⟩ := exists_of_bind_eq_ok loaded
      cases merging
      obtain ⟨text, read, layered⟩ := fileLayer_eq_ok_iff.1 given
      rw [Layer.empty_merge]
      exact .named present read layered
    · cases loaded
  · rintro ⟨present, read, layered⟩
    rw [if_pos present, addTo_file present, bind_eq_ok_iff]
    exact ⟨layer, fileLayer_eq_ok_iff.2 ⟨_, read, layered⟩, pure_eq_ok_iff.2 layer.empty_merge.symm⟩

theorem overDefaultFile_eq_ok_iff {tree : FileTree} {env : Environment} {layer : Layer} :
    overDefaultFile tree env .empty = .ok layer ↔ FromFile tree env none layer := by
  unfold overDefaultFile
  constructor
  · intro loaded
    cases found : (defaultFiles env).find? tree.isFile with
    | some path =>
      simp only [found] at loaded
      obtain ⟨_, given, merging⟩ := exists_of_bind_eq_ok loaded
      cases merging
      obtain ⟨text, read, layered⟩ := fileLayer_eq_ok_iff.1 given
      rw [Layer.empty_merge]
      exact .default found read layered
    | none =>
      simp only [found] at loaded
      cases loaded
      exact .absent fun path listed => Bool.not_eq_true _ ▸ List.find?_eq_none.1 found path listed
  · rintro (_ | ⟨found, read, layered⟩ | missing)
    · rw [found]
      exact bind_eq_ok_iff.2
        ⟨layer, fileLayer_eq_ok_iff.2 ⟨_, read, layered⟩, pure_eq_ok_iff.2 layer.empty_merge.symm⟩
    · have absent : (defaultFiles env).find? tree.isFile = none :=
        List.find?_eq_none.2 fun path listed => Bool.not_eq_true _ ▸ missing path listed
      rw [absent]
      rfl

theorem Environment.Key.mem_all (key : Environment.Key) : key ∈ Environment.Key.all := by
  cases key <;> decide

/--
Variables that are not set make an empty layer, so that it does not matter whether it is merged.
-/
theorem Environment.layer_of_unset {env : Environment} {lead : String}
    (unset : Environment.isSet env lead = false) :
    Environment.layer env lead = .ok .empty := by
  have absent : ∀ key, Environment.value? env lead key = none := by
    intro key
    have unset := List.any_eq_false.1 unset key key.mem_all
    rwa [Bool.not_eq_true, Option.isSome_eq_false_iff, Option.isNone_iff_eq_none] at unset
  unfold Environment.layer Environment.flag Environment.depth Environment.format
  simp only [absent]
  rfl

theorem addTo_environment_eq_ok_iff {env : Environment} {lead : String} {lower merged : Layer} :
    (Source.environment env lead).addTo lower = .ok merged ↔
      ∃ layer, Environment.layer env lead = .ok layer ∧ merged = lower.merge layer := by
  unfold Source.addTo
  cases set : Environment.isSet env lead with
  | true =>
    simp only [Source.environment, set, if_true, bind_eq_ok_iff]
    exact exists_congr fun layer => and_congr_right fun _ => pure_eq_ok_iff
  | false =>
    simp only [Source.environment, set, Environment.layer_of_unset set, Except.ok.injEq,
      exists_eq_left', lower.merge_empty]
    exact pure_eq_ok_iff

theorem addTo_commandLine_eq_ok_iff {options : Arguments.AnalyzeOptions} {lower merged : Layer} :
    (Source.commandLine options).addTo lower = .ok merged ↔
      (Source.optionLayer options).fault = .ok () ∧
        merged = lower.merge (Source.optionLayer options) := by
  simp only [Source.addTo, Source.commandLine, if_true, bind_eq_ok_iff, Layer.checked_eq_ok_iff]
  constructor
  · rintro ⟨_, ⟨sound, rfl⟩, merging⟩
    exact ⟨sound, pure_eq_ok_iff.1 merging⟩
  · rintro ⟨sound, merging⟩
    exact ⟨_, ⟨sound, rfl⟩, pure_eq_ok_iff.2 merging⟩

/-- The layers so far and above them that of the file that is named, or of a default file. -/
def overChosenFile (tree : FileTree) (env : Environment) (config : Option String) (lower : Layer) :
    Except Error Layer :=
  config.elim (overDefaultFile tree env lower) (overFile tree · lower)

theorem overChosenFile_eq_ok_iff {tree : FileTree} {env : Environment} {config : Option String}
    {layer : Layer} :
    overChosenFile tree env config .empty = .ok layer ↔ FromFile tree env config layer := by
  cases config with
  | some path => exact overFile_eq_ok_iff
  | none => exact overDefaultFile_eq_ok_iff

theorem load_eq_bind (tree : FileTree) (env : Environment) (lead : String)
    (options : Arguments.AnalyzeOptions) :
    load tree env lead options =
      overChosenFile tree env options.config .empty >>= fun file =>
        (Source.environment env lead).addTo file >>= fun lower =>
          (Source.commandLine options).addTo lower >>= ofLayer tree := by
  unfold load
  cases options.config <;> rfl

/-- A run has settings if each source has a layer and the layers merged have settings. -/
theorem load_eq_ok_iff {tree : FileTree} {env : Environment} {lead : String}
    {options : Arguments.AnalyzeOptions} {settings : Settings} :
    load tree env lead options = .ok settings ↔
      ∃ file environment, FromFile tree env options.config file ∧
        Environment.layer env lead = .ok environment ∧
        (Source.optionLayer options).fault = .ok () ∧
        ofLayer tree ((file.merge environment).merge (Source.optionLayer options)) =
          .ok settings := by
  simp only [load_eq_bind, bind_eq_ok_iff, overChosenFile_eq_ok_iff, addTo_environment_eq_ok_iff,
    addTo_commandLine_eq_ok_iff]
  constructor
  · rintro ⟨file, read, _, ⟨environment, set, rfl⟩, _, ⟨sound, rfl⟩, done⟩
    exact ⟨file, environment, read, set, sound, done⟩
  · rintro ⟨file, environment, read, set, sound, done⟩
    exact ⟨file, read, _, ⟨environment, set, rfl⟩, _, ⟨sound, rfl⟩, done⟩

/--
However many layers are merged, the settings are those in which each field has the value of the last
layer that sets it, or its default if none does. Merging is associative, and the layer that sets
nothing changes nothing. So the settings of a run have each field from the command line if it is
given there, else from the environment, else from the file, else the default; without a path or a
pattern and with a switch that is off nothing is given.
-/
theorem last_layer_wins :
    (∀ (tree : FileTree) (layers : List Layer) (settings : Settings),
      ofLayer tree (Layer.mergeAll layers) = .ok settings ↔
        (∀ {α : Type} (field : Field α), field.Holds settings (Layer.lastSet field layers)) ∧
        settings.check tree = .ok ()) ∧
    (∀ first second third : Layer,
      (first.merge second).merge third = first.merge (second.merge third)) ∧
    (∀ layer : Layer, layer.merge .empty = layer ∧ Layer.empty.merge layer = layer) ∧
    ∀ (tree : FileTree) (env : Environment) (lead : String) (options : Arguments.AnalyzeOptions)
      (settings : Settings),
      load tree env lead options = .ok settings ↔
        ∃ file environment, FromFile tree env options.config file ∧
          Environment.layer env lead = .ok environment ∧
          (Source.optionLayer options).fault = .ok () ∧ settings.check tree = .ok () ∧
          ∀ {α : Type} (field : Field α),
            field.Holds settings
              ((field.given options).or ((field.get environment).or (field.get file))) := by
  refine ⟨?_, Layer.merge_assoc, fun layer => ⟨layer.merge_empty, layer.empty_merge⟩, ?_⟩
  · intro tree layers settings
    simp only [ofLayer_eq_ok_iff, Layer.settings_eq_ok_iff, Layer.get_mergeAll]
  · intro tree env lead options settings
    simp only [load_eq_ok_iff, ofLayer_eq_ok_iff, Layer.settings_eq_ok_iff, Field.get_merge,
      Field.get_optionLayer]
    constructor
    · rintro ⟨file, environment, read, set, sound, holds, passed⟩
      exact ⟨file, environment, read, set, sound, passed, holds⟩
    · rintro ⟨file, environment, read, set, sound, passed, holds⟩
      exact ⟨file, environment, read, set, sound, holds, passed⟩

/-- The text of a file that sets four fields, one of them to an empty list. -/
def sampleText : String :=
  "quiet = true\nbaseline = \"3.4\"\noutput_format = \"csv\"\nexclude_patterns = []\n"

def sampleTree : FileTree :=
  { entries := [([fileName], .file (.ok sampleText))] }

def sampleVariables : Environment where
  values := Table.ofList
    [("DETECT_VERSION_BASELINE", "3.5"), ("DETECT_VERSION_OUTPUT_FORMAT", "JSON"),
      ("DETECT_VERSION_EXCLUDE", " venv,, build ")]

def samplePatterns : List String :=
  ["venv", "build"]

theorem look_sampleTree : sampleTree.look fileName = .ok ([fileName], .file (.ok sampleText)) :=
  FileTree.look_name (by decide) rfl

theorem fromFile_sampleTree : FromFile sampleTree sampleVariables none
    { quiet := some true, baseline := some "3.4", outputFormat := some .csv,
      excludePatterns := some [] } := by
  have present : sampleTree.isFile fileName = true := by rw [FileTree.isFile, look_sampleTree]
  have found : (defaultFiles sampleVariables).find? sampleTree.isFile = some fileName :=
    List.find?_cons_of_pos present
  have read : sampleTree.read fileName = .ok sampleText := by
    rw [FileTree.read, look_sampleTree]
    rfl
  have set : Layer.ofText? sampleText = some
      { quiet := some true, baseline := some "3.4", outputFormat := some .csv,
        excludePatterns := some [] } := by
    decide +kernel
  refine .default found read ?_
  rw [Layer.ofText, set]
  exact Layer.checked_eq_ok_iff.2 ⟨by rfl, rfl⟩

theorem compile_samplePatterns :
    ∀ pattern ∈ samplePatterns, Glob.compile pattern = .ok ⟨Glob.chars pattern.toList⟩ := by
  intro pattern listed
  have plain : ∀ pattern ∈ samplePatterns, Glob.Plain pattern.toList := by decide
  exact Glob.compile_plain (plain pattern listed)

theorem checkPattern_samplePatterns : samplePatterns.forM Layer.checkPattern = .ok () := by
  apply forM_list_eq_ok_iff.2
  intro pattern listed
  have solid : pattern ≠ "" := by
    rintro rfl
    revert listed
    decide
  rw [Layer.checkPattern, if_neg solid, compile_samplePatterns pattern listed]

theorem check_samplePatterns : samplePatterns.forM checkPattern = .ok () := by
  apply forM_list_eq_ok_iff.2
  intro pattern listed
  rw [checkPattern, compile_samplePatterns pattern listed]

theorem layer_sampleVariables : Environment.layer sampleVariables variableLead =
    .ok { baseline := some "3.5", outputFormat := some .json,
          excludePatterns := some samplePatterns } := by
  have unset : ∀ key, key ∉ [Environment.Key.baseline, .outputFormat, .exclude] →
      Environment.value? sampleVariables variableLead key = none := by
    intro key
    cases key <;> decide +kernel
  have versioned : Environment.value? sampleVariables variableLead .baseline = some "3.5" := by
    decide +kernel
  have formatted : Environment.format sampleVariables variableLead = .ok (some .json) := by
    decide +kernel
  have parted : (Environment.value? sampleVariables variableLead .exclude).map
      Environment.patterns = some samplePatterns := by
    decide +kernel
  simp only [Environment.layer, Environment.flag, Environment.depth, versioned, formatted, parted,
    unset, List.mem_cons, List.not_mem_nil, reduceCtorEq, or_self, not_false_eq_true]
  refine Layer.checked_eq_ok_iff.2 ⟨?_, rfl⟩
  simp only [Layer.fault, Option.getD_some, checkPattern_samplePatterns]
  rfl

/--
The command line gives the format, which the environment and the file set too; the environment the
baseline and the two patterns between its commas, which the file sets too; and the file alone quiet.
-/
theorem sample_layers_win :
    load sampleTree sampleVariables variableLead { output := some .text, verbose := true } = .ok
      { outputFormat := .text, verbose := true, baseline := ⟨5, none⟩, quiet := true,
        excludePatterns := samplePatterns } := by
  refine (last_layer_wins.2.2.2 _ _ _ _ _).2
    ⟨_, _, fromFile_sampleTree, layer_sampleVariables, by rfl, ?_, fun field => ?_⟩
  · simp only [check, check_samplePatterns]
    rfl
  · cases field <;> rfl

end VersionFloor.Settings
