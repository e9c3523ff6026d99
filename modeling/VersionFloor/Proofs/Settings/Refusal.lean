import VersionFloor.Proofs.Settings.Soundness

set_option autoImplicit false

namespace VersionFloor

namespace Settings

section Source

variable {tree : FileTree} {env : Environment} {lead : String} {options : Arguments.AnalyzeOptions}
  {settings : Settings} {layer : Layer}

theorem failsOnly_fileLayer (tree : FileTree) (path : String) :
    FailsOnly Error.IsPrompt (fileLayer tree path) := by
  unfold fileLayer
  refine .refuse_then (fun _ => id) ?_
  split
  · next text _ =>
    unfold Layer.ofText
    split
    · next layer _ => exact fun error failed => (layer.failsOnly_checked path error failed).isPrompt
    · exact .of_error id
  · exact .of_error id

theorem failsOnly_overChosenFile (tree : FileTree) (env : Environment) (config : Option String)
    (lower : Layer) :
    FailsOnly Error.IsPrompt (overChosenFile tree env config lower) := by
  have merged : ∀ path, FailsOnly Error.IsPrompt
      (fileLayer tree path >>= fun layer => pure (lower.merge layer)) :=
    fun path => .bind (failsOnly_fileLayer tree path) fun _ _ => .of_ok _
  cases config with
  | some path =>
    change FailsOnly _ (overFile tree path lower)
    unfold overFile
    split
    · next present =>
      rw [addTo_file present]
      exact merged path
    · exact .of_error id
  | none =>
    change FailsOnly _ (overDefaultFile tree env lower)
    unfold overDefaultFile
    split
    · next path _ => exact merged path
    · exact .of_ok lower

namespace Environment

theorem failsOnly_readAs {α : Type} {read? : String → Option α} {refusal : String → Error}
    (told : ∀ text, (refusal text).IsRefusal) (given : Option String) :
    FailsOnly Error.IsRefusal (readAs read? refusal given) := by
  unfold readAs
  split
  · exact .of_ok none
  · next text =>
    split
    · exact .of_ok _
    · exact .of_error (told text)

theorem failsOnly_flag (env : Environment) (lead : String) (key : Key) :
    FailsOnly Error.IsRefusal (flag env lead key) := by
  rw [flag_eq]
  apply failsOnly_readAs
  intro text
  have starts : Starts 'I' s!"Invalid boolean '{text}' in {key.variableName lead}" := by
    iterate 3 apply Starts.append
    rfl
  exact isRefusal_of_starts starts (by decide)

theorem failsOnly_depth (env : Environment) (lead : String) :
    FailsOnly Error.IsRefusal (depth env lead) := by
  rw [depth_eq]
  apply failsOnly_readAs
  intro text
  have starts : Starts 'I' s!"Invalid max depth '{text}' in {Key.maxDepth.variableName lead}" := by
    iterate 3 apply Starts.append
    rfl
  exact isRefusal_of_starts starts (by decide)

theorem failsOnly_format (env : Environment) (lead : String) :
    FailsOnly Error.IsRefusal (format env lead) := by
  rw [format_eq]
  apply failsOnly_readAs
  intro text
  have starts : Starts 'I' (OutputFormat.refusal text) := by
    apply Starts.append
    rfl
  exact isRefusal_of_starts starts (by decide)

/-- Whatever is wrong with the variables is told as an error of settings. -/
theorem failsOnly_layer (env : Environment) (lead : String) :
    FailsOnly Error.IsRefusal (Environment.layer env lead) := by
  unfold Environment.layer
  refine .bind (failsOnly_flag env lead _) fun _ _ => ?_
  refine .bind (failsOnly_flag env lead _) fun _ _ => ?_
  refine .bind (failsOnly_flag env lead _) fun _ _ => ?_
  refine .bind (failsOnly_flag env lead _) fun _ _ => ?_
  refine .bind (failsOnly_flag env lead _) fun _ _ => ?_
  refine .bind (failsOnly_depth env lead) fun _ _ => ?_
  refine .bind (failsOnly_format env lead) fun _ _ => ?_
  exact Layer.failsOnly_checked _ _

theorem sound_of_layer (loaded : Environment.layer env lead = .ok layer) : layer.Sound :=
  (Layer.fault_eq_ok_iff.1 (gives_of_layer loaded).2).1

/--
The baseline, the patterns and the depth that the variables hold, whether they can be used or not.
-/
def offered (env : Environment) (lead : String) : Layer where
  baseline := value? env lead .baseline
  excludePatterns := (value? env lead .exclude).map patterns
  maxDepth := (value? env lead .maxDepth).bind fun value => Arguments.count? (trimmed value)

theorem sound_offered (loaded : Environment.layer env lead = .ok layer) :
    (offered env lead).Sound := by
  have gives := (gives_of_layer loaded).1
  have sound := sound_of_layer loaded
  have sameDepth : (offered env lead).maxDepth = layer.maxDepth := by
    have read := gives.maxDepth
    rw [depth_eq, readAs_eq_ok_iff] at read
    unfold offered
    cases deep : layer.maxDepth with
    | none =>
      have unset : value? env lead .maxDepth = none := by simpa [deep] using read
      rw [unset, Option.bind_none]
    | some depth =>
      obtain ⟨text, given, counted⟩ :=
        Option.map_eq_some_iff.1 (read.trans (congrArg (Option.map some) deep))
      rw [given, Option.bind_some, counted]
  constructor
  · intro text given
    exact sound.baseline text (gives.baseline.trans given)
  · have readable := sound.patterns
    rw [gives.excludePatterns] at readable
    exact readable
  · rw [sameDepth]
    exact sound.depth

theorem exists_refusal (unsound : ¬ (offered env lead).Sound) :
    ∃ reason, Environment.layer env lead = .error (.badSetting reason) := by
  cases loaded : Environment.layer env lead with
  | ok layer => exact absurd (sound_offered loaded) unsound
  | error error =>
    obtain ⟨reason, rfl, -⟩ := failsOnly_layer env lead error loaded
    exact ⟨reason, rfl⟩

end Environment

theorem FromFile.sound {config : Option String} (given : FromFile tree env config layer) :
    layer.Sound := by
  have ofText : ∀ {path text : String}, Layer.ofText path text = .ok layer → layer.Sound := by
    intro path text layered
    unfold Layer.ofText at layered
    split at layered
    · exact Layer.sound_of_checked layered
    · cases layered
  cases given with
  | named _ _ layered => exact ofText layered
  | default _ _ layered => exact ofText layered
  | absent => exact Layer.sound_empty

theorem failsOnly_load (tree : FileTree) (env : Environment) (lead : String)
    (options : Arguments.AnalyzeOptions) :
    FailsOnly Error.IsPrompt (load tree env lead options) := by
  rw [load_eq_resolve]
  refine .bind (failsOnly_overChosenFile tree env options.config .empty) fun file taken => ?_
  refine .bind (fun error failed => (Environment.failsOnly_layer env lead error failed).isPrompt)
    fun environment set => ?_
  refine .bind (fun error failed => (Layer.failsOnly_checked _ _ error failed).isPrompt)
    fun commandLine given => ?_
  have below := (overChosenFile_eq_ok_iff.1 taken).sound.merge (Environment.sound_of_layer set)
  exact failsOnly_ofLayer (below.merge (Layer.sound_of_checked given)) tree

theorem usable_of_load (loaded : load tree env lead options = .ok settings) : settings.Usable := by
  obtain ⟨file, environment, given, set, checked, done⟩ := load_eq_ok_iff.1 loaded
  have below := given.sound.merge (Environment.sound_of_layer set)
  have above := (Layer.fault_eq_ok_iff.1 checked).1
  exact (below.merge above).usable (ofLayer_eq_ok_iff.1 done).1

/--
The file whose settings are taken: the one that is named, or else the first of the default files
that is there.
-/
inductive Chosen (tree : FileTree) (env : Environment) : Option String → String → Prop
  | named {path : String} (present : tree.isFile path = true) : Chosen tree env (some path) path
  | default {path : String} (found : (defaultFiles env).find? tree.isFile = some path) :
      Chosen tree env none path

theorem overChosenFile_of_chosen {config : Option String} {path text : String}
    (chosen : Chosen tree env config path) (read : tree.read path = .ok text) :
    overChosenFile tree env config .empty = Layer.ofText path text := by
  have layered : fileLayer tree path = Layer.ofText path text := by
    simp only [fileLayer, contains_of_read read, not_true_eq_false, if_false, read]
  have merged : (fileLayer tree path >>= fun layer => pure (Layer.empty.merge layer)) =
      Layer.ofText path text := by
    simp only [layered, Layer.empty_merge]
    cases Layer.ofText path text <;> rfl
  cases chosen with
  | named present =>
    change overFile tree path .empty = _
    rw [overFile, if_pos present, addTo_file present, merged]
  | default found =>
    change overDefaultFile tree env .empty = _
    unfold overDefaultFile
    rw [found]
    exact merged

theorem fromFile_of_chosen {config : Option String} {path text : String}
    (chosen : Chosen tree env config path) (read : tree.read path = .ok text)
    (layered : Layer.ofText path text = .ok layer) :
    FromFile tree env config layer := by
  cases chosen with
  | named present => exact .named present read layered
  | default found => exact .default found read layered

theorem load_of_refused_file {path text : String} (chosen : Chosen tree env options.config path)
    (read : tree.read path = .ok text) {error : Error}
    (refused : Layer.ofText path text = .error error) (lead : String) :
    load tree env lead options = .error error := by
  rw [load_eq_resolve, overChosenFile_of_chosen chosen read, refused]
  rfl

theorem load_of_refused_environment (given : FromFile tree env options.config layer) {error : Error}
    (refused : Environment.layer env lead = .error error) :
    load tree env lead options = .error error := by
  rw [load_of_fromFile given, resolve, refused]
  rfl

theorem load_of_refused_options (given : FromFile tree env options.config layer)
    {environment : Layer} (set : Environment.layer env lead = .ok environment) {error : Error}
    (refused : (Source.commandLine options).layer = .error error) :
    load tree env lead options = .error error := by
  have checked : (Source.optionLayer options).checked "command-line arguments" = .error error :=
    refused
  rw [load_of_fromFile given, resolve, set, checked]
  rfl

end Source

end Settings

/-- Usable patterns are no obstacle to the search for scripts. -/
theorem Discovery.find_ne_badPattern {settings : Settings} (usable : settings.Usable)
    (tree : FileTree) (fault : Glob.Fault) :
    Discovery.find settings tree ≠ .error (.badPattern fault) := by
  have compiles : ∀ pattern ∈ settings.excludePatterns, ∃ glob,
      (Glob.compile pattern).mapError Error.badPattern = .ok glob := by
    intro pattern listed
    obtain ⟨glob, compiled⟩ := usable.patterns pattern listed
    exact ⟨glob, by rw [compiled]; rfl⟩
  have met : ∀ rules path, FailsOnly (fun error => error ≠ .badPattern fault)
      (Walk.ofPath rules settings.maxDepth path) := by
    intro rules path
    unfold Walk.ofPath
    split
    · exact .of_ok _
    · exact .of_ok _
    · exact .of_error (by simp)
  have fails : FailsOnly (fun error => error ≠ .badPattern fault)
      (Discovery.find settings tree) := by
    obtain ⟨excluded, compiled⟩ := exists_mapM_eq_ok compiles
    unfold Discovery.find
    rw [compileAll, compiled]
    refine .bind (.of_ok excluded) fun _ _ => .bind (fun error failed => ?_) fun _ _ => ?_
    · obtain ⟨path, -, refused⟩ := exists_of_mapM_eq_error failed
      exact met _ path error refused
    · exact .refuse_then (fun _ => by simp) (.of_ok _)
  exact fun failed => fails _ failed rfl

namespace Settings

/--
Values that cannot be used are refused when the layer they stand in is loaded, with an error of
settings and whatever the layers above set: so it is for the text of the file that is chosen, for
the variables and for the command line. No run is refused later for a version, a pattern or a depth
of zero; the settings of a run have patterns that can all be read and no depth of zero, and with
them the search for scripts is not refused for a pattern either.
-/
theorem layers_are_checked_before_use :
    (∀ (tree : FileTree) (env : Environment) (lead : String)
        (options : Arguments.AnalyzeOptions) (error : Error),
      load tree env lead options = .error error → ¬ error.IsLate) ∧
    (∀ (path text : String) (layer : Layer), Layer.ofText? text = some layer → ¬ layer.Sound →
      ∃ reason, Layer.ofText path text = .error (.badSetting reason) ∧
        ∀ (tree : FileTree) (env : Environment) (lead : String)
          (options : Arguments.AnalyzeOptions),
          Chosen tree env options.config path → tree.read path = .ok text →
            load tree env lead options = .error (.badSetting reason)) ∧
    (∀ (env : Environment) (lead : String), ¬ (Environment.offered env lead).Sound →
      ∃ reason, Environment.layer env lead = .error (.badSetting reason) ∧
        ∀ (tree : FileTree) (options : Arguments.AnalyzeOptions) (file : Layer),
          FromFile tree env options.config file →
            load tree env lead options = .error (.badSetting reason)) ∧
    (∀ options : Arguments.AnalyzeOptions, ¬ (Source.optionLayer options).Sound →
      ∃ reason, (Source.commandLine options).layer = .error (.badSetting reason) ∧
        ∀ (tree : FileTree) (env : Environment) (lead : String) (file environment : Layer),
          FromFile tree env options.config file → Environment.layer env lead = .ok environment →
            load tree env lead options = .error (.badSetting reason)) ∧
    ∀ (tree : FileTree) (env : Environment) (lead : String)
        (options : Arguments.AnalyzeOptions) (settings : Settings),
      load tree env lead options = .ok settings →
        (∀ pattern ∈ settings.excludePatterns, ∃ glob, Glob.compile pattern = .ok glob) ∧
        settings.maxDepth ≠ some 0 ∧
        ∀ (later : FileTree) (fault : Glob.Fault),
          Discovery.find settings later ≠ .error (.badPattern fault) := by
  refine ⟨failsOnly_load, ?_, ?_, ?_, ?_⟩
  · intro path text layer written unsound
    obtain ⟨reason, refused⟩ := Layer.exists_refusal unsound
    have told : Layer.ofText path text = .error (.badSetting reason) := by
      rw [Layer.ofText, written]
      exact refused
    exact ⟨reason, told, fun tree env lead options chosen read =>
      load_of_refused_file chosen read told lead⟩
  · intro env lead unsound
    obtain ⟨reason, refused⟩ := Environment.exists_refusal unsound
    exact ⟨reason, refused, fun tree options file given =>
      load_of_refused_environment given refused⟩
  · intro options unsound
    obtain ⟨reason, refused⟩ := Layer.exists_refusal unsound
    exact ⟨reason, refused, fun tree env lead file environment given set =>
      load_of_refused_options given set refused⟩
  · intro tree env lead options settings loaded
    have usable := usable_of_load loaded
    exact ⟨usable.patterns, usable.depth,
      fun later fault => Discovery.find_ne_badPattern usable later fault⟩

/-- A file with a baseline that is no version. -/
def staleTree : FileTree :=
  { entries := [([fileName], .file (.ok "baseline = \"2.7\"\n"))] }

def zeroVariables : Environment where
  values := Table.ofList [("DETECT_VERSION_MAX_DEPTH", " 0 ")]

theorem look_staleTree :
    staleTree.look fileName = .ok ([fileName], .file (.ok "baseline = \"2.7\"\n")) :=
  FileTree.look_name (by decide) rfl

/-- Without files there is no file of settings. -/
theorem isFile_noFiles {env : Environment} (homeless : defaultFiles env = [fileName]) :
    ∀ path ∈ defaultFiles env, ({} : FileTree).isFile path = false := by
  rw [homeless]
  intro path listed
  rw [List.mem_singleton.1 listed]
  exact FileTree.isFile_name_of_vacant (by decide) rfl

theorem fromFile_noFiles {env : Environment} (homeless : defaultFiles env = [fileName]) :
    FromFile {} env none .empty :=
  .absent (isFile_noFiles homeless)

theorem compile_openBracket : Glob.compile "[" = .error ⟨0, .set⟩ := by
  have read : Glob.compileFrom 0 none [] ['['] = .error ⟨0, .set⟩ := by
    simp [Glob.compileFrom, Glob.setToken?]
  rw [Glob.compile, show "[".toList = ['['] from rfl, read]
  rfl

theorem load_venvOptions :
    load {} .empty variableLead { exclude := ["venv"], maxDepth := some 2 } =
      .ok { excludePatterns := ["venv"], maxDepth := some 2 } := by
  have compiled := Glob.compile_plain (by decide +kernel : Glob.Plain "venv".toList)
  have sound : (Source.optionLayer { exclude := ["venv"], maxDepth := some 2 }).Sound := by
    refine ⟨?_, ?_, by decide⟩
    · intro text given
      cases given
    · intro pattern listed
      cases List.mem_singleton.1 listed
      exact ⟨by decide, _, compiled⟩
  have passed : List.forM ["venv"] checkPattern = .ok () := by
    apply forM_list_eq_ok_iff.2
    intro pattern listed
    cases List.mem_singleton.1 listed
    rw [checkPattern, compiled]
  apply load_eq_ok_iff.2
  refine ⟨.empty, .empty, fromFile_noFiles rfl, Environment.layer_of_unset rfl, ?_, ?_⟩
  · exact Layer.fault_eq_ok_iff.2 ⟨sound, by decide, by decide⟩
  · refine ofLayer_eq_ok_iff.2 ⟨rfl, ?_⟩
    unfold check
    simp only [passed]
    rfl

/--
The baseline of the file, the depth of the environment and the pattern of the command line are
refused, although the command line has a baseline and a depth of its own; a pattern that can be read
is taken.
-/
theorem overridden_values_refused :
    (∃ reason, load staleTree .empty variableLead { baseline := some "3.9" } =
      .error (.badSetting reason) ∧
      ¬ (Error.badSetting reason).IsLate) ∧
    (∃ reason, load {} zeroVariables variableLead { maxDepth := some 3 } =
      .error (.badSetting reason)) ∧
    (∃ reason, load {} .empty variableLead { exclude := ["["] } = .error (.badSetting reason)) ∧
    ∀ (later : FileTree) (fault : Glob.Fault),
      Discovery.find { excludePatterns := ["venv"], maxDepth := some 2 } later ≠
        .error (.badPattern fault) := by
  obtain ⟨prompt, refusesFile, refusesVariables, refusesOptions, usable⟩ :=
    layers_are_checked_before_use
  have stale : ∃ reason, load staleTree .empty variableLead { baseline := some "3.9" } =
    .error (.badSetting reason) := by
    have unsound : ¬ Layer.Sound { baseline := some "2.7" } := by
      intro sound
      obtain ⟨version, parsed⟩ := sound.baseline "2.7" rfl
      cases (by rfl : Version.parse "2.7" = .error .foreignMajor).symm.trans parsed
    have found : (defaultFiles .empty).find? staleTree.isFile = some fileName := by
      apply List.find?_cons_of_pos
      rw [FileTree.isFile, look_staleTree]
    have read : staleTree.read fileName = .ok "baseline = \"2.7\"\n" := by
      rw [FileTree.read, look_staleTree]
      rfl
    obtain ⟨reason, -, refused⟩ :=
      refusesFile fileName "baseline = \"2.7\"\n" _ (by decide +kernel) unsound
    exact ⟨reason, refused staleTree .empty variableLead _ (.default found) read⟩
  obtain ⟨reason, refused⟩ := stale
  refine ⟨⟨reason, refused, prompt _ _ _ _ _ refused⟩, ?_, ?_,
    (usable _ _ _ _ _ load_venvOptions).2.2⟩
  · have unsound : ¬ (Environment.offered zeroVariables variableLead).Sound := by
      intro sound
      exact sound.depth (by decide +kernel)
    obtain ⟨reason, -, refused⟩ := refusesVariables zeroVariables variableLead unsound
    exact ⟨reason, refused {} { maxDepth := some 3 } .empty (fromFile_noFiles (by decide +kernel))⟩
  · have unsound : ¬ (Source.optionLayer { exclude := ["["] }).Sound := by
      intro sound
      obtain ⟨-, glob, compiled⟩ := sound.patterns "[" (by decide)
      cases compile_openBracket.symm.trans compiled
    obtain ⟨reason, -, refused⟩ := refusesOptions { exclude := ["["] } unsound
    exact ⟨reason, refused {} .empty variableLead .empty .empty (fromFile_noFiles rfl)
      (Environment.layer_of_unset rfl)⟩

end Settings

end VersionFloor
