import VersionFloor.Changelog.Merge
import VersionFloor.Proofs.Except
import VersionFloor.Proofs.Glob.Expand

set_option autoImplicit false

namespace VersionFloor.Changelog

variable {tree : FileTree} {folder : String} {left : Nat} {place : Place}

def ending : List Char :=
  ".json".toList

theorem toList_pattern : "*.json".toList = '*' :: ending := by
  decide

def mergedNames (tree : FileTree) (folder : String) (place : Place) : List String :=
  (tree.names place).filter fun name =>
    (Glob.endingIn ending).accepts name && tree.isFile (Path.join folder name)

theorem mem_mergedNames {name : String} :
    name ∈ mergedNames tree folder place ↔
      name ∈ tree.names place ∧ ending <:+ name.toList ∧
        tree.isFile (Path.join folder name) = true := by
  rw [mergedNames, List.mem_filter, Bool.and_eq_true, Glob.accepts_endingIn_iff]

theorem mergeFiles_of_found {found : List String} (stands : tree.isFolder folder = true)
    (expanded : Glob.expand tree (Path.join folder "*.json") = .ok found) :
    mergeFiles tree folder = .ok ((found.filter tree.isFile).mergeSort Path.isLE) := by
  rw [mergeFiles, stands, expanded]
  rfl

/--
A name leads to the same place, whether the folder is written as it was given or as it was walked
to.
-/
theorem look_below {path name : String} (reached : FileTree.Reaches tree folder left place)
    (standing : Glob.Standing tree path left place) (proper : Path.IsName name) :
    tree.look (Glob.below path name) = tree.look (Path.join folder name) := by
  have same : tree.target .look (Glob.below path name) =
      tree.target .look (Path.join folder name) := by
    rw [standing.target_below proper.1 (fun _ => proper.2.1) (Or.inl rfl),
      reached.target_join proper.1 (Or.inl rfl)]
  rw [FileTree.look, FileTree.look, same]

theorem read_below {path name text : String} (reached : FileTree.Reaches tree folder left place)
    (standing : Glob.Standing tree path left place) (proper : Path.IsName name)
    (stands : tree.entry? (place ++ [name]) = some (.file (.ok text))) :
    tree.read (Glob.below path name) = .ok text := by
  rw [FileTree.read, look_below reached standing proper, reached.look_file proper stands]
  rfl

/-- The files of a folder are taken in the order of their names. -/
theorem exists_mergeFiles (wellFormed : tree.WellFormed)
    (reached : FileTree.Reaches tree folder left place) (plain : Glob.Plain folder.toList)
    (noGap : Glob.startsWithGap folder.toList = false) :
    ∃ path, Glob.Standing tree path left place ∧
      mergeFiles tree folder = .ok ((mergedNames tree folder place).map (Glob.below path)) := by
  obtain ⟨path, standing, found⟩ :=
    Glob.exists_expand_endingIn wellFormed reached plain noGap toList_pattern
      (by decide) (by decide)
  have proper : ∀ name ∈ tree.names place, Path.IsName name :=
    fun _ listed => wellFormed.isName_of_listed listed
  have files :
      (((tree.names place).filter (Glob.endingIn ending).accepts).map (Glob.below path)).filter
        tree.isFile =
      (mergedNames tree folder place).map (Glob.below path) := by
    rw [List.filter_map, List.filter_filter, mergedNames]
    congr 1
    apply List.filter_congr
    intro name listed
    rw [Function.comp_apply, FileTree.isFile, look_below reached standing (proper name listed),
      Bool.and_comm, FileTree.isFile]
  have sorted : ((mergedNames tree folder place).map (Glob.below path)).Pairwise
      fun first second => Path.isLE first second = true := by
    -- The names come in their order, and the paths differ in nothing else, so sorting leaves them
    -- as they are.
    obtain ⟨base, parts⟩ := standing.exists_parts_below
    rw [List.pairwise_map]
    refine ((wellFormed.pairwise_names place).filter _).imp_of_mem ?_
    intro first second one other less
    have one := proper first (List.mem_filter.1 one).1
    have other := proper second (List.mem_filter.1 other).1
    rw [Path.isLE_iff_of_parts (parts first one) (parts second other)]
    exact Std.le_of_lt less
  refine ⟨path, standing, ?_⟩
  rw [mergeFiles_of_found reached.isFolder found, files, List.mergeSort_of_pairwise sorted]

theorem checked_ne_noFiles (entry : String × Record) : checked entry ≠ .error .noFiles := by
  rw [checked]
  split <;> simp

theorem parse_ne_noFiles (text : String) : parse text ≠ .error .noFiles := by
  intro failed
  rw [parse] at failed
  split at failed
  · cases failed
  · next members _ =>
    rw [ofRecords] at failed
    cases mapped : (Table.ofList members).entries.mapM checked with
    | ok entries =>
      rw [mapped] at failed
      cases failed
    | error fault =>
      rw [mapped] at failed
      cases failed
      obtain ⟨entry, -, refused⟩ := exists_of_mapM_eq_error mapped
      exact checked_ne_noFiles entry refused

theorem changelogAt_ne_noFiles (path origin : String) :
    Changelogs.changelogAt tree path ≠ .error (.badChangelog origin .noFiles) := by
  intro failed
  rw [Changelogs.changelogAt] at failed
  split at failed
  · next text _ =>
    rw [ofText] at failed
    split at failed
    · cases failed
    · next fault refused =>
      cases failed
      exact parse_ne_noFiles text refused
  · cases failed

/-- A file is refused for what is in it, never for want of files. -/
theorem mergeFile_ne_noFiles (merged : Changelog) (path origin : String) :
    mergeFile tree merged path ≠ .error (.badChangelog origin .noFiles) := by
  intro failed
  rw [mergeFile] at failed
  cases read : Changelogs.changelogAt tree path with
  | error error =>
    rw [read] at failed
    cases failed
    exact changelogAt_ne_noFiles path origin read
  | ok changelog =>
    rw [read] at failed
    simp only [bind, Except.bind, merge] at failed
    cases stopped : (Table.extend merged changelog.entries).2 with
    | none =>
      rw [stopped] at failed
      cases failed
    | some name =>
      rw [stopped] at failed
      cases failed

theorem mergeFolder_eq {files : List String} (selected : mergeFiles tree folder = .ok files)
    (given : files ≠ []) :
    mergeFolder tree folder =
      (files.foldlM (mergeFile tree) Table.empty).map fun merged => (merged, files.length) := by
  rw [mergeFolder, selected]
  simp only [bind, Except.bind, if_neg given]
  cases files.foldlM (mergeFile tree) Table.empty with
  | error error => rfl
  | ok merged => rfl

/-- A merge finds no files if there are none, and not for another reason. -/
theorem mergeFolder_eq_noFiles_iff {files : List String}
    (selected : mergeFiles tree folder = .ok files) :
    mergeFolder tree folder = .error (.badChangelog folder .noFiles) ↔ files = [] := by
  constructor
  · intro failed
    by_contra given
    rw [mergeFolder_eq selected given] at failed
    cases run : files.foldlM (mergeFile tree) Table.empty with
    | ok merged =>
      rw [run] at failed
      cases failed
    | error error =>
      rw [run] at failed
      cases failed
      obtain ⟨merged, path, -, refused⟩ := exists_of_foldlM_eq_error run
      exact mergeFile_ne_noFiles merged path folder refused
  · rintro rfl
    rw [mergeFolder, selected]
    rfl

/-- A file that is read as the name in the folder at a place. -/
structure ReadAs (tree : FileTree) (folder : String) (place : Place) (name file : String) :
    Prop where
  same : tree.look file = tree.look (Path.join folder name)
  stands : ∃ entry, tree.target .lookAtLink file = .ok (.found (place ++ [name]) entry)

theorem readAs_below {path name : String} (wellFormed : tree.WellFormed)
    (reached : FileTree.Reaches tree folder left place)
    (standing : Glob.Standing tree path left place) (listed : name ∈ tree.names place) :
    ReadAs tree folder place name (Glob.below path name) := by
  obtain ⟨entry, stands⟩ := FileTree.mem_names.1 listed
  have proper : Path.IsName name := wellFormed.isName_of_listed listed
  refine ⟨look_below reached standing proper, entry, ?_⟩
  rw [standing.target_below proper.1 (fun _ => proper.2.1) (Or.inr rfl)]
  exact FileTree.follow_lookAtLink (not_or.2 ⟨proper.2.1, proper.2.2.1⟩) proper.2.2.2 stands

/--
A path without wildcards stands for the folder it leads to: the files merged are those that are
right in it and end in `.json`, in the order of their names, and it is said that there are none if
there are none. If the path begins with a gap nothing is found behind it, and that is said in any
case.
-/
theorem mergeFolder_reads_folder (wellFormed : tree.WellFormed)
    (seen : tree.look folder = .ok (place, .folder)) (plain : Glob.Plain folder.toList) :
    (Glob.startsWithGap folder.toList = false →
      ∃ names files, mergeFiles tree folder = .ok files ∧ names.Pairwise (· < ·) ∧
        (∀ name, name ∈ names ↔ (∃ entry, tree.entry? (place ++ [name]) = some entry) ∧
          ".json".toList <:+ name.toList ∧ tree.isFile (Path.join folder name) = true) ∧
        List.Forall₂ (ReadAs tree folder place) names files ∧
        (mergeFolder tree folder = .error (.badChangelog folder .noFiles) ↔ names = [])) ∧
      (Glob.startsWithGap folder.toList = true →
        mergeFolder tree folder = .error (.badChangelog folder .noFiles)) := by
  obtain ⟨left, reached⟩ := FileTree.exists_reaches seen
  constructor
  · intro noGap
    obtain ⟨path, standing, selected⟩ := exists_mergeFiles wellFormed reached plain noGap
    refine ⟨mergedNames tree folder place, _, selected, (wellFormed.pairwise_names place).filter _,
      ?_, ?_, ?_⟩
    · intro name
      rw [mem_mergedNames, FileTree.mem_names]
      rfl
    · rw [List.forall₂_map_right_iff, List.forall₂_same]
      intro name merged
      exact readAs_below wellFormed reached standing (mem_mergedNames.1 merged).1
    · rw [mergeFolder_eq_noFiles_iff selected, List.map_eq_nil_iff]
  · intro gap
    have found : Glob.expand tree (Path.join folder "*.json") = .ok [] :=
      Glob.expand_gap plain gap toList_pattern (by decide) (by decide)
    rw [mergeFolder_eq_noFiles_iff (mergeFiles_of_found reached.isFolder found), List.filter_nil,
      List.mergeSort_nil]

/-- A folder with two changelogs and a file of another kind. -/
def modsTree : FileTree :=
  { entries := [
      (["mods"], .folder),
      (["mods", "notes.txt"], .file (.ok "")),
      (["mods", "os.json"], .file (.ok "\x7b\"os\": \x7b\"added\": \"3.0\"\x7d\x7d")),
      (["mods", "sys.json"],
        .file (.ok
          "\x7b\"sys\":\x7b\"added\":\"3.1\"\x7d,\"sys.intern\":\x7b\"added\":\"3.2\"\x7d\x7d"))] }

theorem wellFormed_modsTree : modsTree.WellFormed := by
  decide

theorem reaches_modsTree : FileTree.Reaches modsTree "mods" FileTree.linkLimit ["mods"] :=
  FileTree.reaches_folder (by decide) rfl

theorem isFile_modsTree {name text : String} (proper : Path.IsName name)
    (stands : modsTree.entry? ["mods", name] = some (.file (.ok text))) :
    modsTree.isFile (Path.join "mods" name) = true :=
  FileTree.isFile_iff.2 ⟨_, _, reaches_modsTree.look_file proper stands⟩

theorem mergeFolder_reads_modsTree :
    ∃ names files, mergeFiles modsTree "mods" = .ok files ∧
      List.Forall₂ (ReadAs modsTree "mods" ["mods"]) names files ∧
      "os.json" ∈ names ∧ "sys.json" ∈ names ∧ "notes.txt" ∉ names := by
  obtain ⟨names, files, selected, -, listed, readAs, -⟩ :=
    (mergeFolder_reads_folder wellFormed_modsTree reaches_modsTree.look (by decide)).1 (by decide)
  refine ⟨names, files, selected, readAs, ?_, ?_, ?_⟩
  · exact (listed "os.json").2 ⟨⟨_, rfl⟩, by decide, isFile_modsTree (by decide) rfl⟩
  · exact (listed "sys.json").2 ⟨⟨_, rfl⟩, by decide, isFile_modsTree (by decide) rfl⟩
  · intro held
    exact absurd ((listed "notes.txt").1 held).2.1 (by decide)

/-- Beside the folder `m[1]` stands the one that its name means as a pattern. -/
def bracketTree : FileTree :=
  { entries := [
      (["m1"], .folder),
      (["m1", "b.json"], .file (.ok "\x7b\"sys\": \x7b\"added\": \"3.1\"\x7d\x7d")),
      (["m[1]"], .folder),
      (["m[1]", "a.json"], .file (.ok "\x7b\"os\": \x7b\"added\": \"3.0\"\x7d\x7d"))] }

theorem wellFormed_bracketTree : bracketTree.WellFormed := by
  decide

theorem reaches_bracketTree {name : String} (proper : Path.IsName name)
    (stands : bracketTree.entry? [name] = some .folder) :
    FileTree.Reaches bracketTree name FileTree.linkLimit [name] :=
  FileTree.reaches_folder proper stands

/-- The pattern that `m[1]` is: the brackets are a set with one member. -/
def bracketGlob : Glob :=
  ⟨[.char 'm', .within [⟨'1', '1'⟩]]⟩

theorem expandBelow_bracketGlob (fuel : Nat) :
    Glob.expandBelow bracketTree "." (fuel + 6) [bracketGlob, Glob.endingIn ending] =
      ["m1/b.json"] := by
  have here : Glob.namesAt bracketTree "." = ["m1", "m[1]"] := by
    rw [Glob.namesAt, (Glob.reaches_here bracketTree).look]
    change bracketTree.names [] = _
    rw [FileTree.names_eq, List.mergeSort_of_pairwise (by decide)]
    decide
  have inner : bracketTree.names ["m1"] = ["b.json"] := by
    rw [FileTree.names_eq, List.mergeSort_of_pairwise (by decide)]
    decide
  have standing : Glob.Standing bracketTree "m1" FileTree.linkLimit ["m1"] :=
    .away (reaches_bracketTree (by decide) rfl) (rfl : _ = some (Path.Part.name "m1"))
      Path.Part.noConfusion
  have meant : Glob.expandAt bracketTree "m1" (fuel + 5) [bracketGlob, Glob.endingIn ending] =
      ["m1/b.json"] := by
    rw [Glob.expandAt_cons (by decide : Path.fileName? "m1" = some "m1") (by decide) (fuel + 3),
      if_pos (by decide), Glob.expandBelow_endingIn wellFormed_bracketTree standing, inner]
    decide +kernel
  have written : Glob.expandAt bracketTree "m[1]" (fuel + 5) [bracketGlob, Glob.endingIn ending] =
      [] := by
    rw [Glob.expandAt_cons (by decide : Path.fileName? "m[1]" = some "m[1]") (by decide) (fuel + 3),
      if_neg (by decide)]
  rw [Glob.expandBelow, show Glob.literal? bracketGlob = none by decide,
    show Glob.dotNames bracketGlob = [] by decide]
  simp only [here, List.flatMap_cons, List.flatMap_nil, Glob.below_here, meant, written, ite_self,
    List.append_nil]

theorem expand_bracketTree :
    Glob.expand bracketTree (Path.join "m[1]" "*.json") = .ok ["m1/b.json"] := by
  have compiled : Glob.compile (Path.join "m[1]" "*.json") =
      .ok ⟨bracketGlob.tokens ++ .char '/' :: (Glob.endingIn ending).tokens⟩ := by
    apply eq_ok_of_toOption
    decide +kernel
  have globs : (Glob.pieces (Path.join "m[1]" "*.json").toList).mapM
      (fun piece => Glob.compile (String.ofList piece)) =
      .ok [bracketGlob, Glob.endingIn ending] := by
    apply eq_ok_of_toOption
    decide +kernel
  have relative : Path.isAbsolute (Path.join "m[1]" "*.json") = false := by decide
  have reach : bracketTree.reach = 123 := by decide
  rw [Glob.expand, compiled, globs, relative]
  simp only [bind, Except.bind, reach]
  exact congrArg Except.ok (expandBelow_bracketGlob 372)

/-- Of two folders the one that was not named is read. -/
theorem brackets_lead_elsewhere :
    bracketTree.look "m[1]" = .ok (["m[1]"], .folder) ∧ bracketTree.isFile "m[1]/a.json" = true ∧
      mergeFiles bracketTree "m[1]" = .ok ["m1/b.json"] := by
  have reached := reaches_bracketTree (by decide : Path.IsName "m[1]") rfl
  have other := reaches_bracketTree (by decide : Path.IsName "m1") rfl
  have unread : bracketTree.isFile "m[1]/a.json" = true :=
    FileTree.isFile_iff.2 ⟨_, _, reached.look_file (by decide : Path.IsName "a.json") rfl⟩
  have read : bracketTree.isFile "m1/b.json" = true :=
    FileTree.isFile_iff.2 ⟨_, _, other.look_file (by decide : Path.IsName "b.json") rfl⟩
  refine ⟨reached.look, unread, ?_⟩
  rw [mergeFiles_of_found reached.isFolder expand_bracketTree, List.filter_cons_of_pos read,
    List.filter_nil, List.mergeSort_singleton]

end VersionFloor.Changelog
