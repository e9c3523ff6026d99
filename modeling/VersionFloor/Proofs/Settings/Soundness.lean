import VersionFloor.Proofs.Glob.Plain
import VersionFloor.Proofs.Settings.Availability
import VersionFloor.Walk

set_option autoImplicit false

namespace VersionFloor

/-- The errors of a value that no layer has checked. -/
def Error.IsLate : Error → Prop
  | .invalidVersion _ _ => True
  | .badPattern _ => True
  | .badSetting reason => reason = "Max depth must be at least 1"
  | _ => False

def Error.IsPrompt (error : Error) : Prop :=
  ¬ error.IsLate

/-- The errors of the values of one layer. -/
def Error.IsRefusal (error : Error) : Prop :=
  ∃ reason, error = .badSetting reason ∧ error.IsPrompt

theorem Error.IsRefusal.isPrompt {error : Error} (refused : error.IsRefusal) : error.IsPrompt := by
  obtain ⟨_, -, prompt⟩ := refused
  exact prompt

namespace Settings

def Starts (c : Char) (text : String) : Prop :=
  text.toList.head? = some c

theorem Starts.append {c : Char} {front : String} (starts : Starts c front) (rest : String) :
    Starts c (front ++ rest) := by
  unfold Starts at starts ⊢
  rw [String.toList_append, List.head?_append, starts]
  rfl

/-- The text that is told of the depth after the merge has a first letter of its own. -/
theorem isRefusal_of_starts {c : Char} {reason : String} (starts : Starts c reason)
    (differs : c ≠ 'M') :
    (Error.badSetting reason).IsRefusal := by
  refine ⟨reason, rfl, ?_⟩
  intro late
  have same : reason = "Max depth must be at least 1" := late
  rw [same] at starts
  have first : Starts 'M' "Max depth must be at least 1" := rfl
  exact differs (Option.some.inj (starts.symm.trans first))

namespace Layer

variable {layer lower upper : Layer}

/-- The values that are used after the merge can be used. -/
structure Sound (layer : Layer) : Prop where
  baseline : ∀ text, layer.baseline = some text → ∃ version, Version.parse text = .ok version
  patterns : ∀ pattern ∈ layer.excludePatterns.getD [], pattern ≠ "" ∧
    ∃ glob, Glob.compile pattern = .ok glob
  depth : layer.maxDepth ≠ some 0

theorem checkBaseline_eq_ok_iff {text : String} :
    checkBaseline text = .ok () ↔ ∃ version, Version.parse text = .ok version := by
  unfold checkBaseline
  cases Version.parse text with
  | ok version => simp
  | error fault => simp

theorem checkPattern_eq_ok_iff {text : String} :
    checkPattern text = .ok () ↔ text ≠ "" ∧ ∃ glob, Glob.compile text = .ok glob := by
  unfold checkPattern
  by_cases empty : text = ""
  · simp [empty]
  · cases Glob.compile text with
    | ok glob => simp [empty]
    | error fault => simp [empty]

theorem fault_eq_ok_iff :
    layer.fault = .ok () ↔ layer.Sound ∧ layer.dataDir ≠ some "" ∧ layer.outputFile ≠ some "" := by
  unfold fault
  simp only [bind_eq_ok_iff, refuse_then_eq_ok_iff, refuse_eq_ok_iff, exists_and_right,
    exists_unit_eq_ok_iff, forM_option_eq_ok_iff, forM_list_eq_ok_iff, checkBaseline_eq_ok_iff,
    checkPattern_eq_ok_iff]
  constructor
  · intro ⟨versioned, readable, deep, named⟩
    exact ⟨⟨versioned, readable, deep⟩, named⟩
  · intro ⟨sound, named⟩
    exact ⟨sound.baseline, sound.patterns, sound.depth, named⟩

theorem sound_empty : Layer.empty.Sound where
  baseline _ given := by cases given
  patterns _ listed := by cases listed
  depth := by decide

/-- Each value of merged layers is one of theirs. -/
theorem Sound.merge (below : lower.Sound) (above : upper.Sound) : (lower.merge upper).Sound where
  baseline text given := by
    rcases Option.or_eq_some_iff.1 given with set | ⟨-, set⟩
    · exact above.baseline text set
    · exact below.baseline text set
  patterns pattern listed := by
    have merged : pattern ∈ (upper.excludePatterns.or lower.excludePatterns).getD [] := listed
    cases set : upper.excludePatterns with
    | none =>
      rw [set, Option.none_or] at merged
      exact below.patterns pattern merged
    | some patterns =>
      have upperPatterns := above.patterns pattern
      rw [set] at merged upperPatterns
      exact upperPatterns merged
  depth given := by
    rcases Option.or_eq_some_iff.1 given with set | ⟨-, set⟩
    · exact above.depth set
    · exact below.depth set

theorem Fault.exists_starts (origin : String) (fault : Fault) :
    ∃ c, Starts c (fault.message origin) ∧ c ≠ 'M' := by
  cases fault with
  | baseline text fault =>
    refine ⟨'I', ?_, by decide⟩
    iterate 3 apply Starts.append
    rfl
  | emptyPattern =>
    refine ⟨'E', ?_, by decide⟩
    apply Starts.append
    rfl
  | pattern text fault =>
    refine ⟨'I', ?_, by decide⟩
    iterate 5 apply Starts.append
    rfl
  | depth =>
    refine ⟨'I', ?_, by decide⟩
    iterate 2 apply Starts.append
    rfl
  | emptyPath key =>
    refine ⟨'I', ?_, by decide⟩
    iterate 3 apply Starts.append
    rfl

theorem failsOnly_checked (origin : String) (layer : Layer) :
    FailsOnly Error.IsRefusal (layer.checked origin) := by
  unfold checked
  cases layer.fault with
  | ok _ => exact .of_ok layer
  | error fault =>
    obtain ⟨_, starts, differs⟩ := fault.exists_starts origin
    exact .of_error (isRefusal_of_starts starts differs)

theorem sound_of_checked {origin : String} {result : Layer}
    (passed : layer.checked origin = .ok result) :
    result.Sound := by
  obtain ⟨faultless, rfl⟩ := checked_eq_ok_iff.1 passed
  exact (fault_eq_ok_iff.1 faultless).1

/-- A layer that is not sound is refused. -/
theorem exists_refusal {origin : String} (unsound : ¬ layer.Sound) :
    ∃ reason, layer.checked origin = .error (.badSetting reason) := by
  cases checks : layer.checked origin with
  | ok result =>
    have sound := sound_of_checked checks
    rw [(checked_eq_ok_iff.1 checks).2] at sound
    exact absurd sound unsound
  | error error =>
    obtain ⟨reason, rfl, -⟩ := failsOnly_checked origin layer error checks
    exact ⟨reason, rfl⟩

theorem Sound.exists_settings (sound : layer.Sound) :
    ∃ settings, layer.settings = .ok settings := by
  cases given : layer.baseline with
  | none =>
    have held : Field.baseline.Holds ({} : Settings) layer.baseline := by
      rw [given]
      rfl
    exact Layer.exists_settings held
  | some text =>
    obtain ⟨version, parsed⟩ := sound.baseline text given
    have held : Field.baseline.Holds ({ baseline := version } : Settings) layer.baseline := by
      rw [given]
      exact parsed
    exact Layer.exists_settings held

end Layer

/-- The patterns can be read, and the depth is not zero. -/
structure Usable (settings : Settings) : Prop where
  patterns : ∀ pattern ∈ settings.excludePatterns, ∃ glob, Glob.compile pattern = .ok glob
  depth : settings.maxDepth ≠ some 0

theorem exists_compile_default :
    ∀ pattern ∈ ({} : Settings).excludePatterns, ∃ glob, Glob.compile pattern = .ok glob := by
  have plain : ∀ pattern ∈ ({} : Settings).excludePatterns, Glob.Plain pattern.toList := by
    decide +kernel
  intro pattern listed
  exact ⟨_, Glob.compile_plain (plain pattern listed)⟩

theorem Layer.Sound.usable {layer : Layer} (sound : layer.Sound) {settings : Settings}
    (done : layer.settings = .ok settings) : settings.Usable where
  patterns := by
    have same := holds_of_settings done .excludePatterns
    have readable := sound.patterns
    cases given : layer.excludePatterns with
    | none =>
      have default : settings.excludePatterns = ({} : Settings).excludePatterns := by
        rw [Field.get, given] at same
        exact same
      rw [default]
      exact exists_compile_default
    | some patterns =>
      have taken : settings.excludePatterns = patterns := by
        rw [Field.get, given] at same
        exact same
      rw [given] at readable
      rw [taken]
      intro pattern listed
      exact (readable pattern listed).2
  depth := by
    have same : settings.maxDepth = layer.maxDepth := holds_of_settings done .maxDepth
    rw [same]
    exact sound.depth

section Failure

variable {settings : Settings} {layer : Layer}

/-- The check of usable settings finds fault with the files only. -/
theorem failsOnly_check (usable : settings.Usable) (tree : FileTree) :
    FailsOnly Error.IsPrompt (settings.check tree) := by
  have path : ∀ path, FailsOnly Error.IsPrompt (checkPath tree path) := by
    intro path
    unfold checkPath
    split
    · exact .of_ok ()
    · exact .of_error id
  have pattern : ∀ pattern ∈ settings.excludePatterns,
      FailsOnly Error.IsPrompt (checkPattern pattern) := by
    intro pattern listed
    obtain ⟨glob, compiled⟩ := usable.patterns pattern listed
    rw [checkPattern, compiled]
    exact .of_ok ()
  have dataDir : ∀ path, FailsOnly Error.IsPrompt (checkDataDir tree path) := by
    intro path
    unfold checkDataDir
    split
    · exact .of_ok ()
    · have starts : Starts 'D' s!"Data directory '{path}' is not a directory" := by
        iterate 2 apply Starts.append
        rfl
      exact .of_error (isRefusal_of_starts starts (by decide)).isPrompt
  have outputFile : ∀ path, FailsOnly Error.IsPrompt (checkOutputFile tree path) := by
    intro path
    have starts : Starts 'O' s!"Output file '{path}' is a directory" := by
      iterate 2 apply Starts.append
      rfl
    unfold checkOutputFile
    refine .refuse_then (fun _ => (isRefusal_of_starts starts (by decide)).isPrompt) ?_
    split
    · exact .refuse fun _ => id
    · exact .of_ok ()
  unfold check
  refine .bind (.forM_list fun given _ => path given) fun _ _ => ?_
  refine .bind (.forM_list pattern) fun _ _ => ?_
  refine .refuse_then (fun shallow => absurd shallow usable.depth) ?_
  refine .bind (.forM_option fun given _ => dataDir given) fun _ _ => ?_
  exact .forM_option fun given _ => outputFile given

theorem failsOnly_ofLayer (sound : layer.Sound) (tree : FileTree) :
    FailsOnly Error.IsPrompt (ofLayer tree layer) := by
  obtain ⟨settings, done⟩ := sound.exists_settings
  unfold ofLayer
  rw [done]
  change FailsOnly _ (settings.check tree >>= fun _ => pure settings)
  exact .bind (failsOnly_check (sound.usable done) tree) fun _ _ => .of_ok settings

end Failure

end Settings

end VersionFloor
