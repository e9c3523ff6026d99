import VersionFloor.Proofs.Settings.Layers

set_option autoImplicit false

namespace VersionFloor.Settings

namespace Environment

variable {env : Environment} {lead : String} {layer : Layer}

/-- What the variables say, each in its field of a layer. -/
structure Gives (env : Environment) (lead : String) (layer : Layer) : Prop where
  excludePatterns : layer.excludePatterns = (value? env lead .exclude).map patterns
  maxDepth : depth env lead = .ok layer.maxDepth
  followLinks : flag env lead .followLinks = .ok layer.followLinks
  baseline : layer.baseline = value? env lead .baseline
  dataDir : layer.dataDir = value? env lead .dataDir
  outputFormat : format env lead = .ok layer.outputFormat
  outputFile : layer.outputFile = value? env lead .outputFile
  showNotes : flag env lead .showNotes = .ok layer.showNotes
  quiet : flag env lead .quiet = .ok layer.quiet
  verbose : flag env lead .verbose = .ok layer.verbose
  useColors : ∃ noColors, flag env lead .noColors = .ok noColors ∧
    layer.useColors = noColors.map (!·)

theorem gives_of_layer (loaded : Environment.layer env lead = .ok layer) :
    Gives env lead layer ∧ layer.fault = .ok () := by
  unfold Environment.layer at loaded
  simp only [bind_eq_ok_iff, Layer.checked_eq_ok_iff] at loaded
  obtain ⟨followLinks, links, showNotes, notes, quiet, quieted, verbose, wordy, noColors, plain,
      maxDepth, deep, outputFormat, formatted, sound, rfl⟩ := loaded
  exact ⟨⟨rfl, deep, links, rfl, rfl, formatted, rfl, notes, quieted, wordy, noColors, plain, rfl⟩,
    sound⟩

/-- Whether the layer sets the field of the key. -/
def Key.isFilled (layer : Layer) : Key → Bool
  | baseline => layer.baseline.isSome
  | dataDir => layer.dataDir.isSome
  | exclude => layer.excludePatterns.isSome
  | maxDepth => layer.maxDepth.isSome
  | followLinks => layer.followLinks.isSome
  | outputFormat => layer.outputFormat.isSome
  | outputFile => layer.outputFile.isSome
  | showNotes => layer.showNotes.isSome
  | quiet => layer.quiet.isSome
  | verbose => layer.verbose.isSome
  | noColors => layer.useColors.isSome

/-- What is read from a text that is given, or the error of one that cannot be read. -/
def readAs {α : Type} (read? : String → Option α) (refusal : String → Error)
    (given : Option String) :
    Except Error (Option α) :=
  match given with
  | none => .ok none
  | some text =>
    match read? text with
    | some value => .ok (some value)
    | none => .error (refusal text)

theorem flag_eq (env : Environment) (lead : String) (key : Key) :
    flag env lead key = readAs (fun text => truth? (trimmed text))
      (fun text => .badSetting s!"Invalid boolean '{text}' in {key.variableName lead}")
        (value? env lead key) := by
  unfold flag readAs
  cases value? env lead key with
  | none => rfl
  | some text => cases read : truth? (trimmed text) <;> simp only [read]

theorem depth_eq (env : Environment) (lead : String) :
    depth env lead = readAs (fun text => Arguments.count? (trimmed text))
      (fun text => .badSetting s!"Invalid max depth '{text}' in {Key.maxDepth.variableName lead}")
      (value? env lead .maxDepth) := by
  unfold depth readAs
  cases value? env lead .maxDepth with
  | none => rfl
  | some text => cases read : Arguments.count? (trimmed text) <;> simp only [read]

theorem format_eq (env : Environment) (lead : String) :
    format env lead = readAs OutputFormat.ofName?
      (fun text => .badSetting (OutputFormat.refusal text)) (value? env lead .outputFormat) := by
  unfold format readAs
  cases value? env lead .outputFormat with
  | none => rfl
  | some text => cases read : OutputFormat.ofName? text <;> simp only [read]

section ReadAs

variable {α : Type} {read? : String → Option α} {refusal : String → Error} {given : Option String}

/-- Every text that is given is read. -/
theorem readAs_eq_ok_iff {result : Option α} :
    readAs read? refusal given = .ok result ↔ given.map read? = result.map some := by
  cases given with
  | none => cases result <;> simp [readAs]
  | some text =>
    cases read : read? text with
    | none => cases result <;> simp [readAs, read]
    | some value => cases result <;> simp [readAs, read]

theorem isSome_of_readAs {result : Option α} (done : readAs read? refusal given = .ok result) :
    result.isSome = given.isSome := by
  have same := congrArg Option.isSome (readAs_eq_ok_iff.1 done)
  rw [Option.isSome_map, Option.isSome_map] at same
  exact same.symm

end ReadAs

theorem isSome_of_flag {key : Key} {result : Option Bool} (read : flag env lead key = .ok result) :
    result.isSome = (value? env lead key).isSome := by
  rw [flag_eq] at read
  exact isSome_of_readAs read

/-- A layer sets the field of a key just if the key's variable is set. -/
theorem Gives.isFilled_eq (gives : Gives env lead layer) (key : Key) :
    key.isFilled layer = (value? env lead key).isSome := by
  cases key with
  | baseline => rw [Key.isFilled, gives.baseline]
  | dataDir => rw [Key.isFilled, gives.dataDir]
  | exclude => rw [Key.isFilled, gives.excludePatterns, Option.isSome_map]
  | maxDepth =>
    have read := gives.maxDepth
    rw [depth_eq] at read
    exact isSome_of_readAs read
  | followLinks => exact isSome_of_flag gives.followLinks
  | outputFormat =>
    have read := gives.outputFormat
    rw [format_eq] at read
    exact isSome_of_readAs read
  | outputFile => rw [Key.isFilled, gives.outputFile]
  | showNotes => exact isSome_of_flag gives.showNotes
  | quiet => exact isSome_of_flag gives.quiet
  | verbose => exact isSome_of_flag gives.verbose
  | noColors =>
    obtain ⟨noColors, read, opposite⟩ := gives.useColors
    rw [Key.isFilled, opposite, Option.isSome_map]
    exact isSome_of_flag read

theorem isSet_eq_false_iff : isSet env lead = false ↔ Environment.layer env lead = .ok .empty := by
  constructor
  · exact layer_of_unset
  · intro loaded
    have gives := (gives_of_layer loaded).1
    apply List.any_eq_false.2
    intro key _
    rw [← gives.isFilled_eq key]
    cases key <;> exact Bool.false_ne_true

end Environment

namespace Source

/-- The layer of the environment is merged in any case: an empty one changes nothing. -/
theorem addTo_environment (env : Environment) (lead : String) (lower : Layer) :
    (environment env lead).addTo lower = (Environment.layer env lead).map lower.merge := by
  unfold addTo
  cases set : Environment.isSet env lead with
  | true =>
    simp only [environment, set, if_true]
    cases Environment.layer env lead <;> rfl
  | false =>
    have empty := Environment.isSet_eq_false_iff.1 set
    simp only [environment, set, empty, Bool.false_eq_true, if_false, Except.map, lower.merge_empty]
    rfl

theorem addTo_of_loaded {source : Source} {upper : Layer} (loaded : source.layer = .ok upper)
    (lower : Layer) :
    source.addTo lower = .ok (source.addToIfSound lower) := by
  unfold addTo addToIfSound
  cases source.isAvailable with
  | true =>
    simp only [loaded, if_true]
    rfl
  | false => rfl

theorem addToIfSound_of_failed {source : Source} {error : Error}
    (failed : source.layer = .error error) (lower : Layer) :
    source.addToIfSound lower = lower := by
  unfold addToIfSound
  cases source.isAvailable with
  | true => simp only [failed, if_true]
  | false => rfl

end Source

/--
The layers of the environment and of the command line over the one of a file, each checked by
itself.
-/
def resolve (tree : FileTree) (env : Environment) (lead : String)
    (options : Arguments.AnalyzeOptions) (file : Layer) :
    Except Error Settings := do
  let environment ← Environment.layer env lead
  let commandLine ← (Source.optionLayer options).checked "command-line arguments"
  ofLayer tree ((file.merge environment).merge commandLine)

theorem load_eq_resolve (tree : FileTree) (env : Environment) (lead : String)
    (options : Arguments.AnalyzeOptions) :
    load tree env lead options =
      overChosenFile tree env options.config .empty >>= resolve tree env lead options := by
  rw [load_eq_bind]
  congr 1
  funext file
  rw [Source.addTo_environment]
  unfold resolve Source.addTo Source.commandLine
  cases Environment.layer env lead with
  | error error => rfl
  | ok environment => cases (Source.optionLayer options).checked "command-line arguments" <;> rfl

theorem load_of_fromFile {tree : FileTree} {env : Environment} {options : Arguments.AnalyzeOptions}
    {layer : Layer} (given : FromFile tree env options.config layer) (lead : String) :
    load tree env lead options = resolve tree env lead options layer := by
  rw [load_eq_resolve, overChosenFile_eq_ok_iff.2 given]
  rfl

/--
The environment counts as not there exactly if its layer can be loaded and sets nothing; so it does
not matter for the layers so far that it is left out then, they are what they would be with its
layer merged. A source that is to be left out if it fails comes to the same as any other if its
layer can be loaded, and else leaves the layers so far as they are.
-/
theorem availability_agrees_with_loading :
    (∀ (env : Environment) (lead : String),
      (Source.environment env lead).isAvailable = false ↔
        (Source.environment env lead).layer = .ok .empty) ∧
    (∀ (env : Environment) (lead : String) (lower : Layer),
      (Source.environment env lead).addTo lower =
        (Source.environment env lead).layer.map lower.merge) ∧
    ∀ (source : Source) (lower : Layer),
      (∀ upper, source.layer = .ok upper → source.addTo lower = .ok (source.addToIfSound lower)) ∧
      ∀ error, source.layer = .error error → source.addToIfSound lower = lower := by
  refine ⟨?_, Source.addTo_environment, ?_⟩
  · intro env lead
    exact Environment.isSet_eq_false_iff
  · intro source lower
    constructor
    · intro upper loaded
      exact Source.addTo_of_loaded loaded lower
    · intro error failed
      exact Source.addToIfSound_of_failed failed lower

/-- A list of patterns without a pattern, beside a variable that is blank. -/
def commaVariables : Environment where
  values := Table.ofList [("DV_EXCLUDE", " , "), ("DV_QUIET", "\t")]

def xmlVariables : Environment where
  values := Table.ofList [("DV_OUTPUT_FORMAT", "xml"), ("DV_VERBOSE", "on")]

theorem layer_commaVariables :
    Environment.layer commaVariables "DV" = .ok { excludePatterns := some [] } := by
  decide +kernel

/--
The comma alone makes the source available and sets the patterns to none, whereas a format that does
not exist lets the whole source fail, with the variable that is sound.
-/
theorem comma_counts_and_xml_fails :
    (Source.environment commaVariables "DV").layer = .ok { excludePatterns := some [] } ∧
    (Source.environment commaVariables "DV").isAvailable ≠ false ∧
    (Source.environment commaVariables "DV").addTo { quiet := some true } =
      .ok ((Source.environment commaVariables "DV").addToIfSound { quiet := some true }) ∧
    (Source.environment xmlVariables "DV").layer =
      .error (.badSetting "Invalid output format: xml") ∧
    (Source.environment xmlVariables "DV").addToIfSound { quiet := some true } =
      { quiet := some true } := by
  have xml : (Source.environment xmlVariables "DV").layer =
      .error (.badSetting "Invalid output format: xml") := by
    decide +kernel
  have available : (Source.environment commaVariables "DV").isAvailable ≠ false := by
    intro unset
    have empty := (availability_agrees_with_loading.1 commaVariables "DV").1 unset
    exact absurd (layer_commaVariables.symm.trans empty) (by decide)
  have agrees := availability_agrees_with_loading.2.2
  exact ⟨layer_commaVariables, available, (agrees _ _).1 _ layer_commaVariables, xml,
    (agrees _ _).2 _ xml⟩

end VersionFloor.Settings
