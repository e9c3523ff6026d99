import Mathlib.Data.List.Induction
import VersionFloor.Proofs.Changelog.Folder
import VersionFloor.Proofs.Table

set_option autoImplicit false

namespace VersionFloor.Changelog

open Changelogs (changelogAt)

variable {tree : FileTree} {folder path : String} {files : List String}
  {merged changelog : Changelog} {earlier read : List Changelog} {error : Error}

def Apart (first second : Changelog) : Prop :=
  ∀ name ∈ first.names, name ∉ second.names

abbrev Read (tree : FileTree) (files : List String) (read : List Changelog) : Prop :=
  List.Forall₂ (fun file changelog => changelogAt tree file = .ok changelog) files read

theorem Read.unique {first second : List Changelog} (one : Read tree files first)
    (other : Read tree files second) :
    first = second := by
  refine List.right_unique_forall₂' ?_ one other
  intro file changelog same read readSame
  exact Except.ok.inj (read.symm.trans readSame)

/-- Files whose changelogs are apart are apart themselves. -/
theorem Read.pairwise (all : Read tree files read) (apart : read.Pairwise Apart) :
    files.Pairwise fun first second => ∀ one other, changelogAt tree first = .ok one →
      changelogAt tree second = .ok other → Apart one other := by
  induction all with
  | nil => exact .nil
  | @cons file changelog _ _ first rest ih =>
    obtain ⟨here, later⟩ := List.pairwise_cons.1 apart
    refine .cons ?_ (ih later)
    intro second listed one other readOne readOther
    obtain ⟨found, held, reads⟩ := exists_mem_of_forall₂ rest listed
    cases first.symm.trans readOne
    cases reads.symm.trans readOther
    exact here _ held

/-- A changelog has the entries of others, in their order. -/
def Holds (merged : Changelog) (parts : List Changelog) : Prop :=
  merged.entries = (parts.map Table.entries).flatten

/-- Why a file ends the run: it is no changelog, or an entry of it stands in a file before. -/
inductive Refused (tree : FileTree) (earlier : List Changelog) (path : String) : Error → Prop
  | unread {error : Error} (failed : changelogAt tree path = .error error) :
      Refused tree earlier path error
  | repeated {changelog : Changelog} {early late : List (String × Requirement)} {name : String}
      {r : Requirement}
      (read : changelogAt tree path = .ok changelog)
      (written : changelog.entries = early ++ (name, r) :: late)
      (new : ∀ entry ∈ early, ∀ other ∈ earlier, entry.1 ∉ other.names)
      (taken : ∃ other ∈ earlier, name ∈ other.names) :
      Refused tree earlier path (.badChangelog path (.duplicate name))

theorem Holds.mem_names_iff (holds : Holds merged earlier) {name : String} :
    name ∈ merged.names ↔ ∃ other ∈ earlier, name ∈ other.names := by
  rw [Table.names, holds, List.map_flatten, List.mem_flatten]
  simp only [List.map_map, List.mem_map, exists_exists_and_eq_and]
  rfl

/-- What stands in one of the changelogs is found in the whole. -/
theorem Holds.get?_of_mem (holds : Holds merged earlier) (held : changelog ∈ earlier)
    {name : String} {r : Requirement} (found : changelog.get? name = some r) :
    merged.get? name = some r := by
  rw [Table.get?_eq_some_iff] at found ⊢
  rw [holds, List.mem_flatten]
  exact ⟨changelog.entries, List.mem_map_of_mem held, found⟩

theorem Holds.apart_iff (holds : Holds merged earlier) :
    Apart merged changelog ↔ ∀ other ∈ earlier, Apart other changelog := by
  constructor
  · intro apart other held name known
    exact apart name (holds.mem_names_iff.2 ⟨other, held, known⟩)
  · intro apart name known
    obtain ⟨other, held, known⟩ := holds.mem_names_iff.1 known
    exact apart other held name known

theorem mergeFile_of_apart (read : changelogAt tree path = .ok changelog)
    (apart : Apart merged changelog) :
    ∃ next, mergeFile tree merged path = .ok next ∧
      next.entries = merged.entries ++ changelog.entries := by
  have new : ((merged.entries ++ changelog.entries).map (·.1)).Nodup := by
    rw [List.map_append, List.nodup_append]
    exact ⟨merged.nodup, changelog.nodup,
      fun name known other held same => apart name known (same ▸ held)⟩
  refine ⟨merged.insertAll changelog.entries, ?_, Table.entries_insertAll_of_new new⟩
  rw [mergeFile, read]
  simp only [bind, Except.bind, merge, Table.extend_of_new new, Option.map_none]
  rfl

theorem mergeFile_of_refused (holds : Holds merged earlier)
    (refused : Refused tree earlier path error) :
    mergeFile tree merged path = .error error := by
  cases refused with
  | unread failed =>
    rw [mergeFile, failed]
    rfl
  | @repeated changelog early late name r read written new taken =>
    have nodup : ((merged.entries ++ early).map (·.1)).Nodup := by
      have earlyNodup := changelog.nodup
      rw [written, List.map_append, List.nodup_append] at earlyNodup
      rw [List.map_append, List.nodup_append]
      refine ⟨merged.nodup, earlyNodup.1, ?_⟩
      rintro name held _ listed rfl
      obtain ⟨entry, among, rfl⟩ := List.mem_map.1 listed
      obtain ⟨other, before, known⟩ := holds.mem_names_iff.1 held
      exact new entry among other before known
    have stopped : (merged.extend changelog.entries).2 = some name := by
      rw [written]
      exact Table.extend_of_taken nodup (holds.mem_names_iff.2 taken)
    rw [mergeFile, read]
    simp only [bind, Except.bind, merge, stopped, Option.map_some]
    rfl

/--
A file whose changelog is not apart from those before is refused for the first name that it shares.
-/
theorem exists_refused (read : changelogAt tree path = .ok changelog)
    (meets : ¬ ∀ other ∈ earlier, Apart other changelog) :
    ∃ error, Refused tree earlier path error := by
  cases found : changelog.entries.find?
    (fun entry => earlier.any fun other => other.contains entry.1) with
  | none =>
    exfalso
    apply meets
    rintro other held name known shared
    obtain ⟨r, stands⟩ := Table.exists_mem_of_mem_names shared
    apply List.find?_eq_none.1 found _ stands
    exact List.any_eq_true.2 ⟨other, held, (other.contains_iff name).2 known⟩
  | some entry =>
    obtain ⟨taken, early, late, written, new⟩ := List.find?_eq_some_iff_append.1 found
    obtain ⟨other, held, known⟩ := List.any_eq_true.1 taken
    refine ⟨_, .repeated read written ?_ ⟨other, held, (other.contains_iff entry.1).1 known⟩⟩
    intro entry listed other held known
    have absent := new entry listed
    rw [Bool.not_eq_true', List.any_eq_false] at absent
    exact absent other held ((other.contains_iff entry.1).2 known)

/-- Files that can be read and have their names for themselves are all merged. -/
theorem exists_merged (holds : Holds merged earlier) (all : Read tree files read)
    (apart : (earlier ++ read).Pairwise Apart) :
    ∃ whole, files.foldlM (mergeFile tree) merged = .ok whole ∧ Holds whole (earlier ++ read) := by
  induction all generalizing merged earlier with
  | nil => exact ⟨merged, rfl, by rwa [List.append_nil]⟩
  | @cons file changelog files read first _ ih =>
    have fromEarlier : Apart merged changelog :=
      holds.apart_iff.2 fun other held =>
        (List.pairwise_append.1 apart).2.2 other held changelog List.mem_cons_self
    obtain ⟨next, done, entries⟩ := mergeFile_of_apart first fromEarlier
    have nextHolds : Holds next (earlier ++ [changelog]) := by
      rw [Holds, entries, holds, List.map_append, List.flatten_append, List.map_singleton,
        List.flatten_singleton]
    rw [List.append_cons] at apart ⊢
    obtain ⟨whole, run, wholeHolds⟩ := ih nextHolds apart
    exact ⟨whole, by rw [List.foldlM_cons, done]; exact run, wholeHolds⟩

/-- A run through files ends with an error at one of them, when those before it were merged. -/
structure StopsAt (tree : FileTree) (files before : List String) (file : String) (error : Error) :
    Prop where
  divided : ∃ after, files = before ++ file :: after
  refused : ∃ read, Read tree before read ∧ read.Pairwise Apart ∧ Refused tree read file error

theorem foldlM_of_stopsAt {before : List String} {file : String}
    (stops : StopsAt tree files before file error) :
    files.foldlM (mergeFile tree) Table.empty = .error error := by
  obtain ⟨⟨after, rfl⟩, read, all, apart, refused⟩ := stops
  obtain ⟨whole, run, holds⟩ := @exists_merged tree before Table.empty [] read rfl all apart
  rw [List.foldlM_append, run]
  change List.foldlM (mergeFile tree) whole (file :: after) = _
  rw [List.foldlM_cons, mergeFile_of_refused holds refused]
  rfl

/-- Either all files can be merged or there is a first one that cannot. -/
theorem read_or_stopsAt (tree : FileTree) (files : List String) :
    (∃ read, Read tree files read ∧ read.Pairwise Apart) ∨
      ∃ before file error, StopsAt tree files before file error := by
  -- From the first file on, so by induction on the last one.
  induction files using List.reverseRecOn with
  | nil => exact Or.inl ⟨[], .nil, .nil⟩
  | append_singleton files file ih =>
    rcases ih with ⟨read, all, apart⟩ | ⟨before, first, error, ⟨after, divided⟩, refused⟩
    · cases last : changelogAt tree file with
      | error error => exact Or.inr ⟨files, file, error, ⟨[], rfl⟩, read, all, apart, .unread last⟩
      | ok changelog =>
        by_cases new : ∀ other ∈ read, Apart other changelog
        · refine Or.inl ⟨read ++ [changelog], List.rel_append all (.cons last .nil), ?_⟩
          refine List.pairwise_append.2
            ⟨apart, List.pairwise_singleton _ _, fun other held _ single => ?_⟩
          exact List.mem_singleton.1 single ▸ new other held
        · obtain ⟨error, refused⟩ := exists_refused last new
          exact Or.inr ⟨files, file, error, ⟨[], rfl⟩, read, all, apart, refused⟩
    · exact Or.inr ⟨before, first, error,
        ⟨after ++ [file], by rw [divided, List.append_assoc]; rfl⟩, refused⟩

theorem mergeFolder_of_read (selected : mergeFiles tree folder = .ok files) (given : files ≠ [])
    (all : Read tree files read) (apart : read.Pairwise Apart) :
    ∃ merged, mergeFolder tree folder = .ok (merged, files.length) ∧ Holds merged read := by
  obtain ⟨merged, run, holds⟩ := @exists_merged tree files Table.empty [] read rfl all apart
  exact ⟨merged, by rw [mergeFolder_eq selected given, run]; rfl, holds⟩

theorem mergeFolder_of_stopsAt (selected : mergeFiles tree folder = .ok files) (given : files ≠ [])
    {before : List String} {file : String} (stops : StopsAt tree files before file error) :
    mergeFolder tree folder = .error error := by
  rw [mergeFolder_eq selected given, foldlM_of_stopsAt stops]
  rfl

theorem exists_read_of_ok (selected : mergeFiles tree folder = .ok files) (given : files ≠ [])
    {count : Nat} (done : mergeFolder tree folder = .ok (merged, count)) :
    ∃ read, Read tree files read ∧ read.Pairwise Apart ∧ Holds merged read ∧
      count = files.length := by
  rcases read_or_stopsAt tree files with ⟨read, all, apart⟩ | ⟨before, file, error, stops⟩
  · obtain ⟨whole, merges, holds⟩ := mergeFolder_of_read selected given all apart
    cases done.symm.trans merges
    exact ⟨read, all, apart, holds, rfl⟩
  · rw [mergeFolder_of_stopsAt selected given stops] at done
    cases done

theorem exists_stopsAt_of_error (selected : mergeFiles tree folder = .ok files) (given : files ≠ [])
    (failed : mergeFolder tree folder = .error error) :
    ∃ before file, StopsAt tree files before file error := by
  rcases read_or_stopsAt tree files with ⟨read, all, apart⟩ | ⟨before, file, other, stops⟩
  · obtain ⟨merged, done, -⟩ := mergeFolder_of_read selected given all apart
    rw [done] at failed
    cases failed
  · rw [mergeFolder_of_stopsAt selected given stops] at failed
    cases failed
    exact ⟨before, file, stops⟩

/-- Files that are in one folder stand in the order of their names. -/
def InNameOrder (files : List String) : Prop :=
  files.Pairwise fun first second => ∀ base a b,
    Path.parts first = base ++ [.name a] → Path.parts second = base ++ [.name b] → a ≤ b

theorem inNameOrder_of_mergeFiles (selected : mergeFiles tree folder = .ok files) :
    InNameOrder files := by
  rw [mergeFiles] at selected
  split at selected
  · cases selected
  obtain ⟨found, -, sorted⟩ := exists_of_bind_eq_ok selected
  cases sorted
  refine (Path.pairwise_mergeSort _).imp ?_
  intro first second ordered base a b one other
  exact (Path.isLE_iff_of_parts one other).1 ordered

/--
The files of a folder are merged in the order of their names. The merge succeeds if all of them can
be read and no name stands in two of them, and then it has all their entries in order; else the
first file at fault decides.
-/
theorem mergeFolder_outcome (selected : mergeFiles tree folder = .ok files) (given : files ≠ []) :
    InNameOrder files ∧
      ((∃ result, mergeFolder tree folder = .ok result) ↔
        ∃ read, Read tree files read ∧ read.Pairwise Apart) ∧
      (∀ merged count read, mergeFolder tree folder = .ok (merged, count) → Read tree files read →
        merged.entries = (read.map Table.entries).flatten ∧ count = files.length) ∧
      ∀ error, mergeFolder tree folder = .error error ↔
        ∃ before file, StopsAt tree files before file error := by
  refine ⟨inNameOrder_of_mergeFiles selected, ⟨?_, ?_⟩, ?_, fun error => ⟨?_, ?_⟩⟩
  · rintro ⟨⟨merged, count⟩, done⟩
    obtain ⟨read, all, apart, -⟩ := exists_read_of_ok selected given done
    exact ⟨read, all, apart⟩
  · rintro ⟨read, all, apart⟩
    obtain ⟨merged, done, -⟩ := mergeFolder_of_read selected given all apart
    exact ⟨_, done⟩
  · intro merged count read done all
    obtain ⟨other, allOther, -, holds, counted⟩ := exists_read_of_ok selected given done
    rw [all.unique allOther]
    exact ⟨holds, counted⟩
  · exact exists_stopsAt_of_error selected given
  · rintro ⟨before, file, stops⟩
    exact mergeFolder_of_stopsAt selected given stops

theorem mergedNames_modsTree : mergedNames modsTree "mods" ["mods"] = ["os.json", "sys.json"] := by
  have names : modsTree.names ["mods"] = ["notes.txt", "os.json", "sys.json"] := by
    rw [FileTree.names_eq, List.mergeSort_of_pairwise (by decide)]
    decide
  have os : modsTree.isFile (Path.join "mods" "os.json") = true := isFile_modsTree (by decide) rfl
  have sys : modsTree.isFile (Path.join "mods" "sys.json") = true := isFile_modsTree (by decide) rfl
  have dropped : (Glob.endingIn ending).accepts "notes.txt" = false := by decide
  have taken : (Glob.endingIn ending).accepts "os.json" = true ∧
      (Glob.endingIn ending).accepts "sys.json" = true := by
    decide
  simp only [mergedNames, names, List.filter_cons, List.filter_nil, dropped, taken.1, taken.2, os,
    sys, Bool.false_and, Bool.and_self, Bool.false_eq_true, if_false, if_true]

/-- A file of the folder is read and is a changelog. -/
theorem changelogAt_modsTree {path name text : String} {names : List String}
    (standing : Glob.Standing modsTree path FileTree.linkLimit ["mods"]) (proper : Path.IsName name)
    (stands : modsTree.entry? ["mods", name] = some (.file (.ok text)))
    (holds : (parse text).toOption.map Table.names = some names) :
    ∃ changelog, changelogAt modsTree (Glob.below path name) = .ok changelog ∧
      changelog.names = names := by
  obtain ⟨changelog, parsed, named⟩ := Option.map_eq_some_iff.1 holds
  have read := read_below reaches_modsTree standing proper stands
  refine ⟨changelog, ?_, named⟩
  rw [changelogAt, read]
  simp only [ofText, eq_ok_of_toOption parsed]

theorem mergeFolder_outcome_modsTree :
    ∃ files merged, mergeFiles modsTree "mods" = .ok files ∧
      mergeFolder modsTree "mods" = .ok (merged, 2) ∧
      merged.names = ["os", "sys", "sys.intern"] := by
  obtain ⟨path, standing, selected⟩ :=
    exists_mergeFiles wellFormed_modsTree reaches_modsTree (by decide) (by decide)
  rw [mergedNames_modsTree] at selected
  obtain ⟨os, readOs, namesOs⟩ :=
    @changelogAt_modsTree path "os.json" _ ["os"] standing (by decide) rfl (by decide +kernel)
  obtain ⟨sys, readSys, namesSys⟩ :=
    @changelogAt_modsTree path "sys.json" _ ["sys", "sys.intern"] standing (by decide) rfl
      (by decide +kernel)
  have all : Read modsTree (["os.json", "sys.json"].map (Glob.below path)) [os, sys] :=
    .cons readOs (.cons readSys .nil)
  have apart : [os, sys].Pairwise Apart := by
    simp only [List.pairwise_pair, Apart, namesOs, namesSys]
    decide
  obtain ⟨-, succeeds, exactly, -⟩ := mergeFolder_outcome selected (List.cons_ne_nil _ _)
  obtain ⟨⟨merged, count⟩, done⟩ := succeeds.2 ⟨[os, sys], all, apart⟩
  obtain ⟨entries, counted⟩ := exactly merged count [os, sys] done all
  subst counted
  refine ⟨_, merged, selected, done, ?_⟩
  rw [Table.names, entries]
  simp only [List.map_cons, List.map_nil, List.flatten_cons, List.flatten_nil, List.append_nil,
    List.map_append]
  exact congrArg₂ (· ++ ·) namesOs namesSys

end VersionFloor.Changelog
