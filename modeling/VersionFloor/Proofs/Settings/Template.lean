import VersionFloor.Command
import VersionFloor.Proofs.FileTree.Writing
import VersionFloor.Proofs.Settings.Refusal

set_option autoImplicit false

namespace VersionFloor

namespace Settings.Text

variable {line rest : List Char} {lines : List (List Char)} {pair : List String × Value}
  {pairs : List (List String × Value)}

/-- A line that sets nothing: it is empty or a comment. -/
def isRemark : List Char → Bool
  | [] => true
  | c :: rest => c = '#' && rest.all isAllowed

/-- A line that sets one key, whatever lines follow it. -/
structure Sets (line : List Char) (pair : List String × Value) : Prop where
  bare : line.head?.any isKeyChar = true
  read : ∀ rest, pair? (line ++ '\n' :: rest) = some (pair, '\n' :: rest)

/-- The lines are remarks and settings, with these pairs of keys and values. -/
inductive Document : List (List Char) → List (List String × Value) → Prop
  | done : Document [] []
  | remark {line : List Char} {lines : List (List Char)} {pairs : List (List String × Value)}
      (remark : isRemark line = true) (rest : Document lines pairs) : Document (line :: lines) pairs
  | setting {line : List Char} {lines : List (List Char)} {pair : List String × Value}
      {pairs : List (List String × Value)} (sets : Sets line pair) (rest : Document lines pairs) :
      Document (line :: lines) (pair :: pairs)

/-- The text of lines, each with a line break at its end. -/
def joined (lines : List (List Char)) : List Char :=
  lines.flatMap (· ++ ['\n'])

theorem joined_cons (line : List Char) (lines : List (List Char)) :
    joined (line :: lines) = line ++ '\n' :: joined lines := by
  rw [joined, List.flatMap_cons, List.append_assoc]
  rfl

theorem skipComment_remark (remark : isRemark line = true) (rest : List Char) :
    skipComment (line ++ '\n' :: rest) = '\n' :: rest := by
  cases line with
  | nil => rfl
  | cons c comment =>
    have parts : c = '#' ∧ comment.all isAllowed = true := by simpa [isRemark] using remark
    rw [parts.1]
    change (comment ++ '\n' :: rest).dropWhile isAllowed = '\n' :: rest
    rw [List.dropWhile_append_of_pos (List.all_eq_true.1 parts.2)]
    rfl

theorem length_skipComment_le (cs : List Char) : (skipComment cs).length ≤ cs.length := by
  have spaces : (skipSpaces cs).length ≤ cs.length := (List.dropWhile_sublist isSpace).length_le
  unfold skipComment
  split
  · next comment start =>
    have shorter : (comment.dropWhile isAllowed).length ≤ comment.length :=
      (List.dropWhile_sublist isAllowed).length_le
    rw [start, List.length_cons] at spaces
    omega
  · exact spaces

theorem length_lt_of_lineBreak? {cs : List Char} (broken : lineBreak? cs = some rest) :
    rest.length < cs.length := by
  unfold lineBreak? at broken
  split at broken
  · cases broken
    simp
  · cases broken
    simp only [List.length_cons]
    omega
  · cases broken

/--
With as many steps as there are characters all lines are skipped, and one step more changes nothing.
-/
theorem skipLines_succ {fuel : Nat} {cs : List Char} (enough : cs.length ≤ fuel) :
    skipLines (fuel + 1) cs = skipLines fuel cs := by
  induction fuel generalizing cs with
  | zero =>
    have empty : cs = [] := List.length_eq_zero_iff.1 (Nat.le_zero.1 enough)
    rw [empty]
    rfl
  | succ fuel ih =>
    rw [skipLines, skipLines]
    cases broken : lineBreak? (skipComment cs) with
    | none => rfl
    | some rest =>
      have shorter := length_lt_of_lineBreak? broken
      have within := length_skipComment_le cs
      exact ih (by omega)

theorem skipLines_of_le {fuel : Nat} {cs : List Char} (enough : cs.length ≤ fuel) :
    skipLines fuel cs = skipLines cs.length cs := by
  induction enough with
  | refl => rfl
  | step enough ih => rw [skipLines_succ enough, ih]

theorem skipLines_remark (remark : isRemark line = true) (rest : List Char) :
    skipLines (line ++ '\n' :: rest).length (line ++ '\n' :: rest) =
      skipLines rest.length rest := by
  have length : (line ++ '\n' :: rest).length = (line.length + rest.length) + 1 := by
    simp only [List.length_append, List.length_cons]
    omega
  rw [length, skipLines, skipComment_remark remark]
  exact skipLines_of_le (by omega)

theorem isKeyChar_ne {c d : Char} (key : isKeyChar c = true) (other : isKeyChar d = false) :
    c ≠ d := by
  rintro rfl
  rw [key] at other
  cases other

theorem skipComment_key {c : Char} (key : isKeyChar c = true) (cs : List Char) :
    skipComment (c :: cs) = c :: cs := by
  have solid : ¬ isSpace c = true := by
    simp [isSpace, isKeyChar_ne key (d := ' ') rfl, isKeyChar_ne key (d := '\t') rfl]
  have spaces : skipSpaces (c :: cs) = c :: cs := List.dropWhile_cons_of_neg solid
  unfold skipComment
  rw [spaces]
  split
  · next start => exact absurd (List.cons.inj start).1 (isKeyChar_ne key rfl)
  · rfl

theorem skipLines_key {c : Char} (key : isKeyChar c = true) (fuel : Nat) (cs : List Char) :
    skipLines fuel (c :: cs) = c :: cs := by
  cases fuel with
  | zero => rfl
  | succ fuel =>
    have unbroken : lineBreak? (c :: cs) = none := by
      unfold lineBreak?
      split
      · next start => exact absurd (List.cons.inj start).1 (isKeyChar_ne key rfl)
      · next start => exact absurd (List.cons.inj start).1 (isKeyChar_ne key rfl)
      · rfl
    rw [skipLines, skipComment_key key, unbroken]

theorem pairs?_remark (remark : isRemark line = true) (fuel : Nat) (rest : List Char) :
    pairs? fuel (line ++ '\n' :: rest) = pairs? fuel rest := by
  cases fuel with
  | zero => rfl
  | succ fuel => rw [pairs?, pairs?, skipLines_remark remark]

theorem pairs?_setting (sets : Sets line pair) {fuel : Nat}
    (later : pairs? fuel rest = some (pairs, [])) :
    pairs? (fuel + 1) (line ++ '\n' :: rest) = some (pair :: pairs, []) := by
  have read := sets.read rest
  have bare := sets.bare
  cases line with
  | nil => cases bare
  | cons c cs =>
    rw [List.cons_append] at read
    rw [pairs?, List.cons_append, skipLines_key bare]
    split
    · next start => cases start
    · next start => exact absurd (List.cons.inj start).1 (isKeyChar_ne bare rfl)
    · have ended : lineEnd? ('\n' :: rest) = some rest := rfl
      rw [read]
      simp only [Option.bind_eq_bind, Option.bind_some, ended, later]
      rfl

theorem pairs?_of_document (document : Document lines pairs) {fuel : Nat}
    (enough : pairs.length < fuel) :
    pairs? fuel (joined lines) = some (pairs, []) := by
  induction document generalizing fuel with
  | done =>
    cases fuel with
    | zero => exact absurd enough (Nat.not_lt_zero _)
    | succ fuel => rfl
  | remark remark _ ih =>
    rw [joined_cons, pairs?_remark remark]
    exact ih enough
  | setting sets _ ih =>
    rw [List.length_cons] at enough
    cases fuel with
    | zero => exact absurd enough (Nat.not_lt_zero _)
    | succ fuel =>
      rw [joined_cons]
      exact pairs?_setting sets (ih (by omega))

theorem length_le_of_document (document : Document lines pairs) :
    pairs.length ≤ (joined lines).length := by
  induction document with
  | done => exact Nat.zero_le _
  | remark _ _ ih =>
    rw [joined_cons, List.length_append, List.length_cons]
    omega
  | setting _ _ ih =>
    rw [joined_cons, List.length_append, List.length_cons, List.length_cons]
    omega

/-- A text of remarks and settings is read as its settings. -/
theorem document?_of_lines {text : String} (spelled : text.toList = joined lines)
    (document : Document lines pairs) (unmarked : text.toList.head? ≠ some '\uFEFF') :
    document? text = pairs.mapM setting? := by
  have read := pairs?_of_document document (Nat.lt_succ_of_le (length_le_of_document document))
  unfold document?
  split
  · next rest start =>
    rw [start] at unmarked
    exact absurd rfl unmarked
  · rw [spelled]
    simp only [Option.bind_eq_bind, read, Option.bind_some]
    cases pairs.mapM setting? with
    | none => rfl
    | some settings =>
      change some (settings ++ []) = some settings
      rw [List.append_nil]

end Settings.Text

namespace Settings

theorem toList_template : template.toList = Text.joined (templateLines.map String.toList) := by
  rw [template, String.toList_join, Text.joined, List.flatMap_map, List.flatMap_map]
  simp only [String.toList_append]
  rfl

def templatePairs : List (List String × Text.Value) := [
  (["exclude_patterns"], .texts ["__pycache__", ".git", ".venv", "venv", ".tox"]),
  (["follow_links"], .flag false),
  (["output_format"], .text "text"),
  (["show_notes"], .flag false),
  (["quiet"], .flag false),
  (["verbose"], .flag false),
  (["use_colors"], .flag true)]

theorem document_template : Text.Document (templateLines.map String.toList) templatePairs := by
  simp only [templateLines, List.map_cons, List.map_nil, templatePairs, String.reduceToList]
  -- Seven times, the remarks up to a key and the line of the key.
  iterate 7
    repeat apply Text.Document.remark rfl
    apply Text.Document.setting ⟨rfl, fun _ => rfl⟩
  exact .done

def templateLayer : Layer where
  excludePatterns := some ["__pycache__", ".git", ".venv", "venv", ".tox"]
  followLinks := some false
  outputFormat := some .text
  showNotes := some false
  quiet := some false
  verbose := some false
  useColors := some true

theorem ofText?_template : Layer.ofText? template = some templateLayer := by
  have unmarked : template.toList.head? ≠ some '\uFEFF' := by
    rw [toList_template]
    decide
  unfold Layer.ofText?
  rw [Text.document?_of_lines toList_template document_template unmarked]
  decide +kernel

theorem ofText_template (path : String) : Layer.ofText path template = .ok templateLayer := by
  have sound : templateLayer.Sound := by
    refine ⟨?_, ?_, by decide⟩
    · intro text given
      cases given
    · intro pattern listed
      have filled : ∀ pattern ∈ ({} : Settings).excludePatterns, pattern ≠ "" := by decide
      exact ⟨filled pattern listed, exists_compile_default pattern listed⟩
  rw [Layer.ofText, ofText?_template]
  exact Layer.checked_eq_ok_iff.2 ⟨Layer.fault_eq_ok_iff.2 ⟨sound, by decide, by decide⟩, rfl⟩

/-- A value that is the default has no say below another. -/
theorem Field.holds_or {α : Type} {field : Field α} {below : Option α}
    (neutral : field.Holds {} below) (settings : Settings) (above : Option α) :
    field.Holds settings (above.or below) ↔ field.Holds settings above := by
  cases above with
  | some value => rfl
  | none =>
    rw [Option.none_or]
    cases field with
    | baseline =>
      cases below with
      | none => rfl
      | some text =>
        have parsed : Version.parse text = .ok .baseline := neutral
        change Version.parse text = .ok settings.baseline ↔ settings.baseline = .baseline
        rw [parsed, Except.ok.injEq, eq_comm]
    | _ => exact Eq.congr_right (Eq.symm neutral)

namespace Layer

theorem settings_eq_error_iff {layer : Layer} {error : Error} :
    layer.settings = .error error ↔
      ∃ text, layer.baseline = some text ∧ Error.versionOf text = .error error := by
  unfold Layer.settings
  cases layer.baseline with
  | none => simp [pure, Except.pure, bind, Except.bind]
  | some text =>
    cases parsed : Error.versionOf text <;> simp [parsed, pure, Except.pure, bind, Except.bind]

/-- A layer whose settings are the defaults has no say below another. -/
theorem settings_merge_of_neutral {layer : Layer} (neutral : layer.settings = .ok {})
    (upper : Layer) :
    (layer.merge upper).settings = upper.settings := by
  cases resolved : upper.settings with
  | ok settings =>
    apply settings_eq_ok_iff.2
    intro α field
    rw [Field.get_merge]
    exact (Field.holds_or (holds_of_settings neutral field) settings _).2
      (holds_of_settings resolved field)
  | error error =>
    obtain ⟨text, given, failed⟩ := settings_eq_error_iff.1 resolved
    have given : (layer.merge upper).baseline = some text := by
      change upper.baseline.or layer.baseline = some text
      rw [given]
      rfl
    exact settings_eq_error_iff.2 ⟨text, given, failed⟩

end Layer

theorem ofLayer_of_neutral {layer : Layer} (neutral : layer.settings = .ok {}) (tree : FileTree)
    (environment commandLine : Layer) :
    ofLayer tree ((layer.merge environment).merge commandLine) =
      ofLayer tree (environment.merge commandLine) := by
  rw [Layer.merge_assoc, ofLayer, ofLayer, Layer.settings_merge_of_neutral neutral]

theorem resolve_of_neutral {layer : Layer} (neutral : layer.settings = .ok {}) (tree : FileTree)
    (env : Environment) (lead : String) (options : Arguments.AnalyzeOptions) :
    resolve tree env lead options layer = resolve tree env lead options .empty := by
  unfold resolve
  simp only [ofLayer_of_neutral neutral, Layer.empty_merge]

theorem settings_templateLayer : templateLayer.settings = .ok {} := rfl

end Settings

namespace Run

variable {α β : Type} {session made : Session}

/-- Steps that succeed one after the other, with the session between them. -/
theorem exists_of_bind {first : Run α} {next : α → Run β} {value : β}
    (done : (first >>= next).run session = (.ok value, made)) :
    ∃ given between, first.run session = (.ok given, between) ∧
      (next given).run between = (.ok value, made) := by
  cases here : first.run session with
  | mk result between =>
    cases result with
    | ok given =>
      refine ⟨given, between, rfl, ?_⟩
      rw [← done, ExceptT.run_bind]
      simp only [bind, StateT.bind, here]
    | error error =>
      rw [ExceptT.run_bind] at done
      simp only [bind, StateT.bind, here] at done
      cases done

theorem files_of_write {path text : String}
    (done : (write path text).run session = (.ok (), made)) :
    session.files.write path text = .ok made.files := by
  unfold write at done
  obtain ⟨before, between, got, done⟩ := exists_of_bind done
  cases got
  cases written : session.files.write path text with
  | ok files =>
    simp only [written] at done
    cases done
    rfl
  | error fault =>
    simp only [written] at done
    cases done

theorem run_write {path text : String} {files : FileTree}
    (written : session.files.write path text = .ok files) :
    (write path text).run session = (.ok (), { session with files }) := by
  have got : (get : Run Session).run session = (.ok session, session) := rfl
  rw [write, ExceptT.run_bind]
  simp only [bind, StateT.bind, got, written]
  rfl

/-- Whatever folders are made for it, the file is written last. -/
theorem exists_writeTemplate {path : String}
    (done : (writeTemplate path).run session = (.ok (), made)) :
    ∃ before : FileTree, before.write path Settings.template = .ok made.files := by
  unfold writeTemplate at done
  obtain ⟨tree, between, got, done⟩ := exists_of_bind done
  split at done
  · split at done
    · obtain ⟨_, between, folders, done⟩ := exists_of_bind done
      exact ⟨_, files_of_write done⟩
    · exact ⟨_, files_of_write done⟩
  · exact ⟨_, files_of_write done⟩

end Run

namespace Settings

/--
The file of settings to start from changes nothing. Its text has a layer, and below any layers of
the environment and of the command line this layer leads to the settings, or to the error, that they
lead to above an empty layer. So once the file has been written, a run that takes its settings from
it has those of a run that finds no file.
-/
theorem template_is_neutral :
    (∀ path : String, ∃ layer, Layer.ofText path template = .ok layer ∧
      ∀ (tree : FileTree) (environment commandLine : Layer),
        ofLayer tree ((layer.merge environment).merge commandLine) =
          ofLayer tree ((Layer.empty.merge environment).merge commandLine)) ∧
    (∀ (session made : Session) (path : String),
      (Run.writeTemplate path).run session = (.ok (), made) →
      made.files.isFile path = true ∧
      ∀ (env : Environment) (lead : String) (options : Arguments.AnalyzeOptions),
        Chosen made.files env options.config path →
          load made.files env lead options = resolve made.files env lead options .empty) ∧
    ∀ (tree : FileTree) (env : Environment) (lead : String) (options : Arguments.AnalyzeOptions),
      options.config = none → (∀ path ∈ defaultFiles env, tree.isFile path = false) →
        load tree env lead options = resolve tree env lead options .empty := by
  refine ⟨?_, ?_, ?_⟩
  · intro path
    refine ⟨templateLayer, ofText_template path, ?_⟩
    intro tree environment commandLine
    rw [ofLayer_of_neutral settings_templateLayer, Layer.empty_merge]
  · intro session made path done
    obtain ⟨before, written⟩ := Run.exists_writeTemplate done
    refine ⟨FileTree.isFile_of_write written, ?_⟩
    intro env lead options chosen
    rw [load_of_fromFile
      (fromFile_of_chosen chosen (FileTree.read_of_write written) (ofText_template path))]
    exact resolve_of_neutral settings_templateLayer made.files env lead options
  · intro tree env lead options unnamed missing
    apply load_of_fromFile
    rw [unnamed]
    exact .absent missing

/-- The file is a link into a folder, where nothing stands yet. -/
def linkedSession : Session where
  files := { entries := [(["conf"], .folder), ([fileName], .link "conf/dv.toml")] }

def linkedTree : FileTree :=
  linkedSession.files.put ["conf", "dv.toml"] (.file (.ok template))

theorem writeTemplate_linkedSession :
    (Run.writeTemplate fileName).run linkedSession = (.ok (), { files := linkedTree }) := by
  have walked : linkedSession.files.target .write fileName = .ok (.vacant ["conf", "dv.toml"]) := by
    rw [FileTree.target_name (by decide) (by decide), FileTree.follow]
    change linkedSession.files.follow .write 39 [] ["conf", "dv.toml"] = _
    rw [FileTree.follow]
    change linkedSession.files.follow .write 39 ["conf"] ["dv.toml"] = _
    rw [FileTree.follow]
    rfl
  have written : linkedSession.files.write fileName template = .ok linkedTree := by
    rw [FileTree.write, walked]
    rfl
  have last : (Run.writeTemplate fileName).run linkedSession =
      (Run.write fileName template).run linkedSession := by
    rfl
  rw [last, Run.run_write written]
  rfl

def quietVariables : Environment where
  values := Table.ofList [("DETECT_VERSION_QUIET", "yes")]

/--
The file that is written through the link is taken and changes nothing for a run that is quiet, nor
for one that is refused because of a baseline; without any file it is the same.
-/
theorem linked_template_changes_nothing :
    (Run.writeTemplate fileName).run linkedSession = (.ok (), { files := linkedTree }) ∧
    Chosen linkedTree quietVariables none fileName ∧
    load linkedTree quietVariables variableLead { paths := ["conf"] } =
      resolve linkedTree quietVariables variableLead { paths := ["conf"] } .empty ∧
    load linkedTree quietVariables variableLead { baseline := some "2.7" } =
      load {} quietVariables variableLead { baseline := some "2.7" } ∧
    load {} quietVariables variableLead { baseline := some "2.7" } =
      .error (.badSetting
        ("Invalid baseline in command-line arguments: " ++
          "Invalid version '2.7': major version must be 3")) := by
  obtain ⟨-, written, without⟩ := template_is_neutral
  obtain ⟨present, same⟩ := written _ _ _ writeTemplate_linkedSession
  have homeless : defaultFiles quietVariables = [fileName] := by decide +kernel
  have chosen : Chosen linkedTree quietVariables none fileName := by
    apply Chosen.default
    rw [homeless]
    exact List.find?_cons_of_pos present
  refine ⟨writeTemplate_linkedSession, chosen, same _ _ _ chosen, ?_, ?_⟩
  · rw [same _ _ _ chosen, without {} _ _ _ rfl (isFile_noFiles homeless)]
    decide +kernel
  · rw [without {} _ _ _ rfl (isFile_noFiles homeless)]
    decide +kernel

end Settings

end VersionFloor
