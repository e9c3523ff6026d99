import VersionFloor.Proofs.FileTree.WellFormed
import VersionFloor.Proofs.Glob.Plain
import VersionFloor.Walk

set_option autoImplicit false

namespace VersionFloor

namespace Walk

/-- The path of what names lead to from a folder. -/
def pathBelow (path : String) (names : List String) : String :=
  names.foldl Path.join path

/-- Scripts have the extension `py` and do not begin with a dot. -/
def IsScriptName (name : String) : Prop :=
  name.toList.head? ≠ some '.' ∧ ∃ stem, stem ≠ "" ∧ name = stem ++ ".py"

theorem isScript_iff {path name : String} (named : Path.fileName? path = some name) :
    isScript path = true ↔ IsScriptName name := by
  have suffix : ∀ stem : String, stem ++ "." ++ "py" = stem ++ ".py" := fun _ => String.append_assoc
  have plain : '.' ∉ "py".toList := by decide
  simp only [isScript, named, Bool.and_eq_true, decide_eq_true_eq,
    Path.extension?_eq_some_iff named, plain, not_false_eq_true, true_and, IsScriptName, suffix]

/--
The names lead from a folder, which stands at `place` and is written as `path`, down to one of its
scripts: a file that is no link, named as scripts are, on the way to which nothing is excluded.
-/
structure ScriptBelow (tree : FileTree) (excluded : List Glob) (place : Place) (path : String)
    (names : List String) : Prop where
  isFile : ∃ content, tree.entry? (place ++ names) = some (.file content)
  named : ∃ name, names.getLast? = some name ∧ IsScriptName name
  included : ∀ way, way ≠ [] → way <+: names → isExcluded excluded (pathBelow path way) = false

variable {tree : FileTree} {excluded : List Glob} {place : Place} {path : String}

theorem ScriptBelow.ne_nil {names : List String}
    (script : ScriptBelow tree excluded place path names) :
    names ≠ [] := by
  rintro rfl
  obtain ⟨name, last, -⟩ := script.named
  cases last

theorem included_cons_iff {name : String} {rest : List String} :
    (∀ way, way ≠ [] → way <+: name :: rest → isExcluded excluded (pathBelow path way) = false) ↔
      isExcluded excluded (Path.join path name) = false ∧
        ∀ way, way ≠ [] → way <+: rest →
          isExcluded excluded (pathBelow (Path.join path name) way) = false := by
  constructor
  · intro included
    refine ⟨included [name] (by simp) (by simp), fun way _ along => ?_⟩
    exact included (name :: way) (by simp) (List.cons_prefix_cons.2 ⟨rfl, along⟩)
  · rintro ⟨here, later⟩ way solid along
    obtain ⟨first, way, rfl⟩ := List.exists_cons_of_ne_nil solid
    obtain ⟨rfl, inner⟩ := List.cons_prefix_cons.1 along
    by_cases more : way = []
    · subst more
      exact here
    · exact later way more inner

/-- A way to a script ends with its first name, or goes on from the folder of that name. -/
theorem scriptBelow_cons_iff (wellFormed : tree.WellFormed) {name : String} {rest : List String} :
    ScriptBelow tree excluded place path (name :: rest) ↔
      isExcluded excluded (Path.join path name) = false ∧
        (rest = [] ∧ (∃ content, tree.entry? (place ++ [name]) = some (.file content)) ∧
          IsScriptName name ∨
          tree.entry? (place ++ [name]) = some .folder ∧
            ScriptBelow tree excluded (place ++ [name]) (Path.join path name) rest) := by
  have deeper : place ++ name :: rest = place ++ [name] ++ rest := by
    rw [List.append_assoc, List.singleton_append]
  constructor
  · rintro ⟨⟨content, stands⟩, ⟨last, ends, script⟩, included⟩
    obtain ⟨here, later⟩ := included_cons_iff.1 included
    refine ⟨here, ?_⟩
    rw [deeper] at stands
    cases rest with
    | nil =>
      cases ends
      exact Or.inl ⟨rfl, ⟨content, by simpa using stands⟩, script⟩
    | cons next rest =>
      rw [List.getLast?_cons_cons] at ends
      have isFolder := wellFormed.isFolder_of_below (List.cons_ne_nil _ _) stands
      exact Or.inr ⟨isFolder, ⟨content, stands⟩, ⟨last, ends, script⟩, later⟩
  · rintro ⟨here, ⟨rfl, isFile, script⟩ | ⟨-, below⟩⟩
    · refine ⟨isFile, ⟨name, rfl, script⟩, included_cons_iff.2 ⟨here, fun way solid along => ?_⟩⟩
      exact absurd (List.prefix_nil.1 along) solid
    · obtain ⟨last, ends, script⟩ := below.named
      refine ⟨deeper ▸ below.isFile, ⟨last, ?_, script⟩, included_cons_iff.2 ⟨here, below.included⟩⟩
      obtain ⟨next, rest, rfl⟩ := List.exists_cons_of_ne_nil below.ne_nil
      rw [List.getLast?_cons_cons, ends]

/-- The ways to scripts that begin with a name; `deeper` are those from a folder on. -/
def waysThrough (tree : FileTree) (excluded : List Glob)
    (deeper : Place → String → List (List String)) (place : Place) (path name : String) :
    List (List String) :=
  if isExcluded excluded (Path.join path name) then []
  else
    match tree.entry? (place ++ [name]) with
    | some (.file _) => if isScript (Path.join path name) then [[name]] else []
    | some .folder => (deeper (place ++ [name]) (Path.join path name)).map (name :: ·)
    | _ => []

/-- The ways down from a folder to its scripts, `levels` deep, as they are met. -/
def ways (tree : FileTree) (excluded : List Glob) : Nat → Place → String → List (List String)
  | 0, _, _ => []
  | levels + 1, place, path =>
    (tree.names place).flatMap (waysThrough tree excluded (ways tree excluded levels) place path)

/--
Where links are not followed, a folder is looked through for the scripts at the ends of its ways.
-/
theorem folder_eq {rules : Rules} (linksStay : rules.followLinks = false) (levels : Nat)
    (above : List (Place × String)) (place : Place) (path : String) :
    folder rules levels above place path =
      (ways rules.tree rules.excluded levels place path).map fun names =>
        .script (pathBelow path names) := by
  induction levels generalizing above place path with
  | zero => rfl
  | succ levels ih =>
    rw [folder, ways, List.map_flatMap]
    congr 1
    funext name
    rw [waysThrough]
    cases stands : rules.tree.entry? (place ++ [name]) with
    | none => simp
    | some entry =>
      cases entry with
      | file content =>
        simp only [ofFile]
        split
        · rfl
        · split <;> rfl
      | folder =>
        simp only
        split
        · rfl
        · rw [ih, List.map_map]
          rfl
      | link target => simp [linksStay]

theorem mem_waysThrough {deeper : Place → String → List (List String)} {name : String}
    {names : List String} :
    names ∈ waysThrough tree excluded deeper place path name ↔
      isExcluded excluded (Path.join path name) = false ∧
        (names = [name] ∧ (∃ content, tree.entry? (place ++ [name]) = some (.file content)) ∧
            isScript (Path.join path name) = true ∨
          tree.entry? (place ++ [name]) = some .folder ∧
            ∃ rest ∈ deeper (place ++ [name]) (Path.join path name), name :: rest = names) := by
  rw [waysThrough]
  cases isExcluded excluded (Path.join path name) with
  | true => simp
  | false =>
    cases tree.entry? (place ++ [name]) with
    | none => simp
    | some entry =>
      cases entry with
      | file content => cases isScript (Path.join path name) <;> simp
      | folder => simp
      | link target => simp

theorem mem_ways (wellFormed : tree.WellFormed) {levels : Nat} (given : path ≠ "")
    {names : List String} :
    names ∈ ways tree excluded levels place path ↔
      names.length ≤ levels ∧ ScriptBelow tree excluded place path names := by
  induction levels generalizing place path names with
  | zero =>
    refine ⟨fun none => absurd none List.not_mem_nil, ?_⟩
    rintro ⟨short, script⟩
    exact absurd (List.length_eq_zero_iff.1 (Nat.le_zero.1 short)) script.ne_nil
  | succ levels ih =>
    have proper : ∀ {name entry}, tree.entry? (place ++ [name]) = some entry → Path.IsName name :=
      fun stands => wellFormed.isName stands (by simp)
    rw [ways, List.mem_flatMap]
    simp only [mem_waysThrough]
    constructor
    · rintro ⟨name, -, here, ⟨rfl, ⟨content, stands⟩, script⟩ | ⟨stands, rest, listed, rfl⟩⟩
      · refine ⟨by simp,
          (scriptBelow_cons_iff wellFormed).2 ⟨here, Or.inl ⟨rfl, ⟨content, stands⟩, ?_⟩⟩⟩
        exact (isScript_iff (Path.fileName?_join given (proper stands))).1 script
      · obtain ⟨short, below⟩ := (ih (Path.join_ne_empty given (proper stands).1)).1 listed
        exact ⟨Nat.succ_le_succ short,
          (scriptBelow_cons_iff wellFormed).2 ⟨here, Or.inr ⟨stands, below⟩⟩⟩
    · rintro ⟨short, script⟩
      obtain ⟨name, rest, rfl⟩ := List.exists_cons_of_ne_nil script.ne_nil
      obtain ⟨here, ⟨rfl, ⟨content, stands⟩, named⟩ | ⟨stands, below⟩⟩ :=
        (scriptBelow_cons_iff wellFormed).1 script
      · refine ⟨name, FileTree.mem_names.2 ⟨_, stands⟩, here, Or.inl ⟨rfl, ⟨content, stands⟩, ?_⟩⟩
        exact (isScript_iff (Path.fileName?_join given (proper stands))).2 named
      · refine ⟨name, FileTree.mem_names.2 ⟨_, stands⟩, here, Or.inr ⟨stands, rest, ?_, rfl⟩⟩
        exact (ih (Path.join_ne_empty given (proper stands).1)).2
          ⟨Nat.le_of_succ_le_succ short, below⟩

/-- The ways are met in the order in which names are compared one after the other. -/
theorem pairwise_ways (wellFormed : tree.WellFormed) (levels : Nat) (place : Place)
    (path : String) :
    (ways tree excluded levels place path).Pairwise (· < ·) := by
  induction levels generalizing place path with
  | zero => exact .nil
  | succ levels ih =>
    rw [ways, List.pairwise_flatMap]
    constructor
    · intro name _
      rw [waysThrough]
      split
      · exact .nil
      · split
        · split
          · exact List.pairwise_singleton _ _
          · exact .nil
        · rw [List.pairwise_map]
          exact (ih _ _).imp fun less => List.cons_lt_cons_iff.2 (Or.inr ⟨rfl, less⟩)
        · exact .nil
    · have begins : ∀ {name names}, names ∈
          waysThrough tree excluded (ways tree excluded levels) place path name →
          ∃ rest, names = name :: rest := by
        intro name names listed
        obtain ⟨-, ⟨rfl, -⟩ | ⟨-, rest, -, rfl⟩⟩ := mem_waysThrough.1 listed
        · exact ⟨[], rfl⟩
        · exact ⟨rest, rfl⟩
      refine (wellFormed.pairwise_names place).imp ?_
      intro name other less first listed second listed'
      obtain ⟨_, rfl⟩ := begins listed
      obtain ⟨_, rfl⟩ := begins listed'
      exact List.cons_lt_cons_iff.2 (Or.inl less)

theorem length_le_foldl_max (known : List (Place × FileTree.Entry)) (most : Nat) :
    most ≤ known.foldl (fun most entry => Nat.max most entry.1.length) most ∧
      ∀ entry ∈ known, entry.1.length ≤
        known.foldl (fun most entry => Nat.max most entry.1.length) most := by
  induction known generalizing most with
  | nil => exact ⟨Nat.le_refl _, List.forall_mem_nil _⟩
  | cons first known ih =>
    obtain ⟨least, each⟩ := ih (Nat.max most first.1.length)
    rw [List.foldl_cons]
    exact ⟨Nat.le_trans (Nat.le_max_left _ _) least,
      List.forall_mem_cons.2 ⟨Nat.le_trans (Nat.le_max_right _ _) least, each⟩⟩

/-- Nothing stands deeper than the walk can reach. -/
theorem length_le_reach {entry : FileTree.Entry} (stands : tree.entry? place = some entry) :
    place.length ≤ tree.reach := by
  by_cases root : place = []
  · simp [root]
  · have deepest := (length_le_foldl_max tree.entries 0).2 _
      (FileTree.mem_entries_of_stands stands root)
    rw [FileTree.reach, FileTree.linkLimit]
    dsimp only at deepest
    omega

def IsShallow (maxDepth : Option Nat) (names : List String) : Prop :=
  ∀ depth, maxDepth = some depth → names.length ≤ depth

theorem length_le_levels_iff {maxDepth : Option Nat} (deep : maxDepth ≠ some 0)
    {names : List String} (script : ScriptBelow tree excluded place path names) :
    names.length ≤ levels tree maxDepth ↔ IsShallow maxDepth names := by
  cases maxDepth with
  | none =>
    obtain ⟨content, stands⟩ := script.isFile
    have reached := length_le_reach stands
    rw [List.length_append] at reached
    simp only [levels, IsShallow]
    exact ⟨fun _ depth unset => (by cases unset), fun _ => by omega⟩
  | some depth =>
    have positive : depth ≠ 0 := fun zero => deep (congrArg some zero)
    have most : Nat.max depth 1 = depth := Nat.max_eq_left (Nat.one_le_iff_ne_zero.2 positive)
    simp only [levels, most, IsShallow, Option.some.injEq, forall_eq']

/--
What a path to analyse comes to: the path itself if it is a file; if it is a folder, the paths of
its scripts that are not too deep, in the order of the names on the way to them.
-/
inductive Listed (tree : FileTree) (excluded : List Glob) (maxDepth : Option Nat) (path : String) :
    List String → Prop
  | file (isFile : tree.isFile path = true) : Listed tree excluded maxDepth path [path]
  | folder {place : Place} {ways : List (List String)}
      (seen : tree.look path = .ok (place, .folder))
      (sorted : ways.Pairwise (· < ·))
      (members : ∀ names, names ∈ ways ↔
        IsShallow maxDepth names ∧ ScriptBelow tree excluded place path names) :
      Listed tree excluded maxDepth path (ways.map (pathBelow path))

theorem Listed.eq_of_isFile {maxDepth : Option Nat} {scripts : List String}
    (listed : Listed tree excluded maxDepth path scripts) (isFile : tree.isFile path = true) :
    scripts = [path] := by
  cases listed with
  | file => rfl
  | folder seen =>
    rw [FileTree.isFile, seen] at isFile
    cases isFile

def sighted (scripts : List String) : List Sighting :=
  scripts.map .script

theorem exists_listed (wellFormed : tree.WellFormed) {maxDepth : Option Nat}
    (deep : maxDepth ≠ some 0) (there : tree.isFile path = true ∨ tree.isFolder path = true) :
    ∃ scripts, Listed tree excluded maxDepth path scripts ∧
      ofPath ⟨tree, excluded, false⟩ maxDepth path = .ok (sighted scripts) := by
  rcases there with isFile | isFolder
  · obtain ⟨place, content, seen⟩ := FileTree.isFile_iff.1 isFile
    exact ⟨[path], .file isFile, by simp only [ofPath, seen, sighted, List.map_singleton]⟩
  · obtain ⟨place, seen⟩ := FileTree.isFolder_iff.1 isFolder
    obtain ⟨left, reached⟩ := FileTree.exists_reaches seen
    have members : ∀ names, names ∈ ways tree excluded (levels tree maxDepth) place path ↔
        IsShallow maxDepth names ∧ ScriptBelow tree excluded place path names := by
      intro names
      rw [mem_ways wellFormed reached.given]
      exact and_congr_left fun script => length_le_levels_iff deep script
    refine ⟨_, .folder seen (pairwise_ways wellFormed _ place path) members, ?_⟩
    simp only [ofPath, seen, folder_eq, sighted, List.map_map]
    rfl

theorem ofPath_eq_error {rules : Rules} (maxDepth : Option Nat)
    (notFile : rules.tree.isFile path = false) (notFolder : rules.tree.isFolder path = false) :
    ofPath rules maxDepth path = .error (.noSuchPath path) := by
  rw [ofPath]
  split
  · next place content seen => simp [FileTree.isFile, seen] at notFile
  · next place seen => simp [FileTree.isFolder, seen] at notFolder
  · rfl

/-- A script below a folder stands at the end of its way. -/
theorem place?_pathBelow (wellFormed : tree.WellFormed)
    (seen : tree.look path = .ok (place, .folder)) {names : List String}
    (script : ScriptBelow tree excluded place path names) :
    tree.place? (pathBelow path names) = some (place ++ names) := by
  induction names generalizing place path with
  | nil => exact absurd rfl script.ne_nil
  | cons name rest ih =>
    obtain ⟨left, reached⟩ := FileTree.exists_reaches seen
    obtain ⟨-, ⟨rfl, ⟨content, stands⟩, -⟩ | ⟨stands, below⟩⟩ :=
      (scriptBelow_cons_iff wellFormed).1 script
    · have proper : Path.IsName name := wellFormed.isName stands (by simp)
      change tree.place? (Path.join path name) = _
      rw [FileTree.place?, reached.look_file proper stands]
    · have proper : Path.IsName name := wellFormed.isName stands (by simp)
      have inner := (reached.join proper.1 (FileTree.leads_folder proper stands)).look
      rw [← List.singleton_append, ← List.append_assoc]
      exact ih inner below

/-- Everything listed is there. -/
theorem Listed.isSome_place? (wellFormed : tree.WellFormed) {maxDepth : Option Nat}
    {scripts : List String} (listed : Listed tree excluded maxDepth path scripts) :
    ∀ script ∈ scripts, (tree.place? script).isSome := by
  cases listed with
  | file isFile =>
    obtain ⟨place, content, seen⟩ := FileTree.isFile_iff.1 isFile
    intro script held
    rw [List.mem_singleton.1 held, FileTree.place?, seen]
    rfl
  | folder seen sorted members =>
    intro script held
    obtain ⟨names, way, rfl⟩ := List.mem_map.1 held
    rw [place?_pathBelow wellFormed seen ((members names).1 way).2]
    rfl

theorem identity_eq_iff {first second : String} (there : (tree.place? first).isSome)
    (here : (tree.place? second).isSome) :
    identity tree first = identity tree second ↔ tree.place? first = tree.place? second := by
  obtain ⟨place, found⟩ := Option.isSome_iff_exists.1 there
  obtain ⟨other, known⟩ := Option.isSome_iff_exists.1 here
  simp only [identity, found, known, Identity.place.injEq, Option.some.injEq]

/-- Of the paths that are there, those are kept whose place is not that of an earlier one. -/
theorem loop_eq_distinct {paths kept : List String}
    (there : ∀ path ∈ paths, (tree.place? path).isSome)
    (here : ∀ path ∈ kept, (tree.place? path).isSome) :
    List.eraseDupsBy.loop (fun first second => tree.place? first = tree.place? second) paths kept =
      kept.reverse ++ distinct tree (kept.map (identity tree)) paths := by
  induction paths generalizing kept with
  | nil => rw [List.eraseDupsBy.loop, distinct, List.append_nil]
  | cons path paths ih =>
    obtain ⟨found, later⟩ := List.forall_mem_cons.1 there
    have seen : identity tree path ∈ kept.map (identity tree) ↔
        kept.any (fun other => tree.place? path = tree.place? other) = true := by
      simp only [List.mem_map, List.any_eq_true, decide_eq_true_eq]
      refine exists_congr fun other => and_congr_right fun held => ?_
      rw [eq_comm, identity_eq_iff found (here other held)]
    rw [List.eraseDupsBy.loop, distinct]
    by_cases known : identity tree path ∈ kept.map (identity tree)
    · rw [if_pos known, seen.1 known]
      exact ih later here
    · rw [if_neg known, Bool.eq_false_iff.2 (mt seen.2 known)]
      have more := ih later (List.forall_mem_cons.2 ⟨found, here⟩)
      rw [List.map_cons, List.reverse_cons, List.append_assoc, List.singleton_append] at more
      exact more

theorem distinct_eq {paths : List String} (there : ∀ path ∈ paths, (tree.place? path).isSome) :
    distinct tree [] paths = paths.eraseDupsBy fun first second =>
      tree.place? first = tree.place? second :=
  (loop_eq_distinct there (List.forall_mem_nil _)).symm

theorem mem_of_mem_distinct {seen : List Identity} {paths : List String} {path : String}
    (kept : path ∈ distinct tree seen paths) : path ∈ paths ∧ identity tree path ∉ seen := by
  induction paths generalizing seen with
  | nil => exact absurd kept List.not_mem_nil
  | cons first paths ih =>
    rw [distinct] at kept
    split at kept
    · obtain ⟨listed, fresh⟩ := ih kept
      exact ⟨List.mem_cons_of_mem first listed, fresh⟩
    · next new =>
      rcases List.mem_cons.1 kept with rfl | later
      · exact ⟨List.mem_cons_self, new⟩
      · obtain ⟨listed, fresh⟩ := ih later
        exact ⟨List.mem_cons_of_mem first listed, fun known => fresh (List.mem_cons_of_mem _ known)⟩

theorem pairwise_distinct (seen : List Identity) (paths : List String) :
    (distinct tree seen paths).Pairwise fun first second =>
      identity tree first ≠ identity tree second := by
  induction paths generalizing seen with
  | nil => exact .nil
  | cons first paths ih =>
    rw [distinct]
    split
    · exact ih seen
    · refine .cons (fun other kept same => ?_) (ih _)
      exact (mem_of_mem_distinct kept).2 (same ▸ List.mem_cons_self)

/-- No two scripts that are kept stand at one place. -/
theorem nodup_places {paths : List String} (there : ∀ path ∈ paths, (tree.place? path).isSome) :
    ((distinct tree [] paths).map tree.place?).Nodup := by
  rw [List.Nodup, List.pairwise_map]
  refine (pairwise_distinct [] paths).imp_of_mem ?_
  intro first second listed listed' differs same
  have here := there first (mem_of_mem_distinct listed).1
  have there := there second (mem_of_mem_distinct listed').1
  exact differs ((identity_eq_iff here there).2 same)

theorem distinct_eq_nil_iff {paths : List String} : distinct tree [] paths = [] ↔ paths = [] := by
  cases paths with
  | nil => exact Iff.rfl
  | cons path paths =>
    rw [distinct, if_neg List.not_mem_nil]
    exact iff_of_false (List.cons_ne_nil _ _) (List.cons_ne_nil _ _)

theorem flatten_map_sighted (listed : List (List String)) :
    (listed.map sighted).flatten = sighted listed.flatten :=
  List.map_flatten.symm

theorem filterMap_script?_sighted (scripts : List String) :
    (sighted scripts).filterMap Sighting.script? = scripts := by
  rw [sighted, List.filterMap_map]
  exact List.filterMap_some

theorem filterMap_trouble?_sighted (scripts : List String) :
    (sighted scripts).filterMap Sighting.trouble? = [] := by
  rw [sighted, List.filterMap_map, List.filterMap_eq_nil_iff]
  exact fun _ _ => rfl

end Walk

namespace Discovery

open Walk

variable {settings : Settings} {tree : FileTree} {excluded : List Glob}

theorem compileAll_eq_ok {patterns : List String}
    (valid : List.Forall₂ (fun pattern glob => Glob.compile pattern = .ok glob) patterns excluded) :
    compileAll patterns = .ok excluded := by
  refine mapM_eq_ok_iff.2 (valid.imp fun pattern glob compiled => ?_)
  rw [compiled]
  rfl

/-- The scripts that are met are found, each once, unless there are none. -/
theorem find_of_met (compiled : compileAll settings.excludePatterns = .ok excluded)
    {listed : List (List String)}
    (met : settings.paths.mapM (ofPath ⟨tree, excluded, settings.followLinks⟩ settings.maxDepth) =
      .ok (listed.map sighted)) :
    find settings tree =
      if listed.flatten = [] then .error (.usage "Invalid path: No python scripts found.")
      else .ok ⟨distinct tree [] listed.flatten, []⟩ := by
  simp only [find, compiled, bind, Except.bind, met, flatten_map_sighted, filterMap_script?_sighted,
    filterMap_trouble?_sighted, distinct_eq_nil_iff]
  split <;> rfl

theorem find_of_refused (compiled : compileAll settings.excludePatterns = .ok excluded)
    {error : Error}
    (refused : settings.paths.mapM
      (ofPath ⟨tree, excluded, settings.followLinks⟩ settings.maxDepth) = .error error) :
    find settings tree = .error error := by
  simp only [find, compiled, bind, Except.bind, refused]

/-- Every path to analyse comes to a list of scripts, and nothing else is met. -/
theorem exists_allListed (wellFormed : tree.WellFormed) {maxDepth : Option Nat}
    (deep : maxDepth ≠ some 0) {paths : List String}
    (there : ∀ path ∈ paths, tree.isFile path = true ∨ tree.isFolder path = true) :
    ∃ listed, List.Forall₂ (Listed tree excluded maxDepth) paths listed ∧
      paths.mapM (ofPath ⟨tree, excluded, false⟩ maxDepth) = .ok (listed.map sighted) := by
  induction paths with
  | nil => exact ⟨[], .nil, rfl⟩
  | cons path paths ih =>
    obtain ⟨here, later⟩ := List.forall_mem_cons.1 there
    obtain ⟨scripts, first, met⟩ := exists_listed wellFormed deep here
    obtain ⟨listed, rest, others⟩ := ih later
    exact ⟨scripts :: listed, .cons first rest, by rw [List.mapM_cons, met, others]; rfl⟩

theorem isSome_place?_of_allListed (wellFormed : tree.WellFormed) {maxDepth : Option Nat}
    {paths : List String} {listed : List (List String)}
    (all : List.Forall₂ (Listed tree excluded maxDepth) paths listed) :
    ∀ script ∈ listed.flatten, (tree.place? script).isSome := by
  induction all with
  | nil => exact List.forall_mem_nil _
  | cons first _ ih =>
    intro script held
    rw [List.flatten_cons, List.mem_append] at held
    exact held.elim (first.isSome_place? wellFormed script) (ih script)

/--
In a snapshot of real folders, with patterns that can be read, links that are not followed and at
least one level of folders, the first path that is neither a file nor a folder is refused. If there
is none, every path comes to its list of scripts, in the order of the paths: the path itself if it
is a file, else the scripts of the folder with nothing excluded on the way to them, in the order of
the names. The scripts found are those of all the lists one after the other, without those that
stand where an earlier one does; if there are none this is an error of usage. No two of them stand
at one place.
-/
theorem discovery_exact (wellFormed : tree.WellFormed)
    (valid : List.Forall₂ (fun pattern glob => Glob.compile pattern = .ok glob)
      settings.excludePatterns excluded) (linksStay : settings.followLinks = false)
    (deep : settings.maxDepth ≠ some 0) :
    (∀ before path after, settings.paths = before ++ path :: after →
      (∀ earlier ∈ before, tree.isFile earlier = true ∨ tree.isFolder earlier = true) →
      tree.isFile path = false → tree.isFolder path = false →
        find settings tree = .error (.noSuchPath path)) ∧
    ((∀ path ∈ settings.paths, tree.isFile path = true ∨ tree.isFolder path = true) →
      ∃ listed, List.Forall₂ (Listed tree excluded settings.maxDepth) settings.paths listed ∧
        (listed.flatten = [] → find settings tree =
          .error (.usage "Invalid path: No python scripts found.")) ∧
        (listed.flatten ≠ [] → ∃ scripts, find settings tree = .ok ⟨scripts, []⟩ ∧
          scripts = listed.flatten.eraseDupsBy
            (fun first second => tree.place? first = tree.place? second) ∧
          (∀ script ∈ scripts, (tree.place? script).isSome) ∧
            (scripts.map tree.place?).Nodup)) := by
  have compiled := compileAll_eq_ok valid
  constructor
  · intro before path after divided there notFile notFolder
    have passed : ∀ earlier ∈ before, ∃ met,
        ofPath ⟨tree, excluded, false⟩ settings.maxDepth earlier = .ok met := by
      intro earlier listed
      obtain ⟨scripts, -, met⟩ := exists_listed wellFormed deep (there earlier listed)
      exact ⟨sighted scripts, met⟩
    have refused : ofPath ⟨tree, excluded, false⟩ settings.maxDepth path =
        .error (.noSuchPath path) :=
      ofPath_eq_error settings.maxDepth notFile notFolder
    apply find_of_refused compiled
    rw [divided, linksStay, mapM_eq_error passed refused]
  · intro there
    obtain ⟨listed, all, met⟩ := exists_allListed wellFormed deep there
    have places := isSome_place?_of_allListed wellFormed all
    have found := find_of_met compiled (linksStay ▸ met)
    refine ⟨listed, all, fun none => ?_, fun some => ?_⟩
    · rw [found, if_pos none]
    · rw [if_neg some] at found
      refine ⟨_, found, distinct_eq places, fun script kept => ?_, nodup_places places⟩
      exact places script (mem_of_mem_distinct kept).1

/--
A script without an extension, and a folder with a script, a hidden one, a link and a folder that is
excluded.
-/
def projectTree : FileTree :=
  { entries := [
      (["tool"], .file (.ok "")),
      (["pkg"], .folder),
      (["pkg", "main.py"], .file (.ok "")),
      (["pkg", ".old.py"], .file (.ok "")),
      (["pkg", "link.py"], .link "main.py"),
      (["pkg", "venv"], .folder),
      (["pkg", "venv", "site.py"], .file (.ok ""))] }

def projectSettings : Settings :=
  { paths := ["tool", "pkg"], excludePatterns := ["venv"] }

theorem wellFormed_projectTree : projectTree.WellFormed := by
  decide

theorem look_tool : projectTree.look "tool" = .ok (["tool"], .file (.ok "")) :=
  FileTree.look_name (by decide) rfl

theorem look_pkg : projectTree.look "pkg" = .ok (["pkg"], .folder) :=
  (FileTree.reaches_folder (by decide) rfl).look

def venv : Glob :=
  ⟨Glob.chars "venv".toList⟩

theorem isExcluded_venv_iff {name : String} (proper : Path.IsName name)
    (apart : Path.join "pkg" name ≠ "venv") :
    isExcluded [venv] (Path.join "pkg" name) = true ↔ name = "venv" := by
  rw [isExcluded_iff (Path.fileName?_join (by decide) proper)]
  simp only [venv, List.mem_singleton, exists_eq_left, Glob.accepts_chars_iff, apart, or_false]

/-- The hidden file, the link and what is in the folder that is excluded are left out. -/
theorem scriptBelow_pkg_iff {names : List String} :
    ScriptBelow projectTree [venv] ["pkg"] "pkg" names ↔ names = ["main.py"] := by
  constructor
  · rintro ⟨⟨content, stands⟩, ⟨last, ends, script⟩, included⟩
    have listed := FileTree.mem_entries_of_stands stands (by simp)
    simp only [projectTree, List.mem_cons, List.cons_append, List.nil_append, Prod.mk.injEq,
      List.cons.injEq, reduceCtorEq, and_false, false_or, or_false, List.not_mem_nil,
      true_and] at listed
    rcases listed with ⟨⟨other, -⟩, -⟩ | ⟨rfl, -⟩ | ⟨rfl, -⟩ | ⟨rfl, -⟩
    · exact absurd other (by decide)
    · rfl
    · cases ends
      exact absurd rfl script.1
    · have shown := included ["venv"] (by simp) (by simp)
      have hidden := (isExcluded_venv_iff (by decide) (by decide)).2 rfl
      exact absurd (hidden.symm.trans shown) (by decide)
  · rintro rfl
    refine ⟨⟨_, rfl⟩, ⟨"main.py", rfl, by decide, "main", by decide, rfl⟩, ?_⟩
    refine included_cons_iff.2 ⟨?_, fun way solid along => absurd (List.prefix_nil.1 along) solid⟩
    rw [Bool.eq_false_iff, Ne, isExcluded_venv_iff (by decide) (by decide)]
    decide

theorem listed_pkg {scripts : List String}
    (listed : Listed projectTree [venv] none "pkg" scripts) : scripts = ["pkg/main.py"] := by
  cases listed with
  | file isFile =>
    rw [FileTree.isFile, look_pkg] at isFile
    cases isFile
  | @folder place ways seen sorted members =>
    rw [look_pkg] at seen
    cases seen
    have alone : ∀ names, names ∈ ways ↔ names ∈ [["main.py"]] := by
      intro names
      rw [members, scriptBelow_pkg_iff, List.mem_singleton]
      exact and_iff_right fun _ unset => by cases unset
    have same := (List.perm_ext_iff_of_nodup sorted.nodup (List.nodup_singleton _)).2 alone
    rw [List.perm_singleton.1 same]
    decide

theorem discovery_exact_projectTree :
    find projectSettings projectTree = .ok ⟨["tool", "pkg/main.py"], []⟩ ∧
      (["tool", "pkg/main.py"].map projectTree.place?).Nodup := by
  have isFile : projectTree.isFile "tool" = true := FileTree.isFile_iff.2 ⟨_, _, look_tool⟩
  have there : ∀ path ∈ projectSettings.paths, projectTree.isFile path = true ∨
      projectTree.isFolder path = true := by
    simp only [projectSettings, List.forall_mem_cons]
    exact ⟨Or.inl isFile, Or.inr (FileTree.isFolder_iff.2 ⟨_, look_pkg⟩),
      List.forall_mem_nil _⟩
  have valid : List.Forall₂ (fun pattern glob => Glob.compile pattern = .ok glob)
      projectSettings.excludePatterns [venv] := .cons (Glob.compile_plain (by decide)) .nil
  have toolPlace : projectTree.place? "tool" = some ["tool"] := by
    rw [FileTree.place?, look_tool]
  have mainPlace : projectTree.place? "pkg/main.py" = some ["pkg", "main.py"] :=
    place?_pathBelow wellFormed_projectTree look_pkg (scriptBelow_pkg_iff.2 rfl)
  obtain ⟨listed, all, -, found⟩ :=
    (discovery_exact wellFormed_projectTree valid rfl (by decide)).2 there
  have both : listed.flatten = ["tool", "pkg/main.py"] := by
    obtain ⟨first, others, tool, rest, rfl⟩ := List.forall₂_cons_left_iff.1 all
    obtain ⟨second, none, pkg, ends, rfl⟩ := List.forall₂_cons_left_iff.1 rest
    rw [List.forall₂_nil_left_iff.1 ends, listed_pkg pkg, tool.eq_of_isFile isFile]
    rfl
  obtain ⟨scripts, finds, kept, -, nodup⟩ := found (by rw [both]; exact List.cons_ne_nil _ _)
  have apart : scripts = ["tool", "pkg/main.py"] := by
    rw [kept, both]
    simp [List.eraseDupsBy_cons, toolPlace, mainPlace]
  rw [apart] at finds nodup
  exact ⟨finds, nodup⟩

end Discovery

end VersionFloor
