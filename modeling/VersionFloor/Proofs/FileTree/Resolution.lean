import VersionFloor.FileTree
import VersionFloor.Proofs.Except
import VersionFloor.Proofs.Path

set_option autoImplicit false

namespace VersionFloor.FileTree

/--
The names lead from a folder to the folder `place`. Of the links that may be passed on the way there
are `links` before and `left` after.
-/
inductive Leads (tree : FileTree) : Nat → Place → List String → Nat → Place → Prop
  | here {links : Nat} {folder : Place} : Leads tree links folder [] links folder
  | blank {links left : Nat} {folder place : Place} {name : String} {names : List String}
      (empty : name = "" ∨ name = ".") (rest : Leads tree links folder names left place) :
      Leads tree links folder (name :: names) left place
  | up {links left : Nat} {folder place : Place} {names : List String}
      (rest : Leads tree links folder.dropLast names left place) :
        Leads tree links folder (".." :: names) left place
  | down {links left : Nat} {folder place : Place} {name : String} {names : List String}
      (solid : ¬ (name = "" ∨ name = ".")) (notUp : name ≠ "..")
      (stands : tree.entry? (folder ++ [name]) = some .folder)
      (rest : Leads tree links (folder ++ [name]) names left place) :
      Leads tree links folder (name :: names) left place
  | through {links left : Nat} {folder place : Place} {name target : String} {names : List String}
      (solid : ¬ (name = "" ∨ name = ".")) (notUp : name ≠ "..")
      (stands : tree.entry? (folder ++ [name]) = some (.link target))
      (rest : Leads tree links (start target folder) (steps target ++ names) left place) :
      Leads tree (links + 1) folder (name :: names) left place

namespace Leads

variable {tree : FileTree} {links left : Nat} {folder place : Place}

theorem append {first second : List String} {between : Nat} {inner : Place}
    (leads : Leads tree links folder first between inner)
    (on : Leads tree between inner second left place) :
    Leads tree links folder (first ++ second) left place := by
  induction leads with
  | here => exact on
  | blank empty _ ih => exact .blank empty (ih on)
  | up _ ih => exact .up (ih on)
  | down solid notUp stands _ ih => exact .down solid notUp stands (ih on)
  | through solid notUp stands _ ih =>
    rw [List.cons_append]
    refine .through solid notUp stands ?_
    rw [← List.append_assoc]
    exact ih on

/-- On the way through names stands the folder that the first of them lead to. -/
theorem divide {names first second : List String} (leads : Leads tree links folder names left place)
    (divided : names = first ++ second) :
    ∃ between inner, Leads tree links folder first between inner ∧
      Leads tree between inner second left place := by
  induction leads generalizing first with
  | here =>
    obtain ⟨rfl, rfl⟩ := List.append_eq_nil_iff.1 divided.symm
    exact ⟨_, _, .here, .here⟩
  | blank empty rest ih =>
    rcases List.cons_eq_append_iff.1 divided with ⟨rfl, rfl⟩ | ⟨first, rfl, rfl⟩
    · exact ⟨_, _, .here, .blank empty rest⟩
    · obtain ⟨between, inner, before, after⟩ := ih rfl
      exact ⟨between, inner, .blank empty before, after⟩
  | up rest ih =>
    rcases List.cons_eq_append_iff.1 divided with ⟨rfl, rfl⟩ | ⟨first, rfl, rfl⟩
    · exact ⟨_, _, .here, .up rest⟩
    · obtain ⟨between, inner, before, after⟩ := ih rfl
      exact ⟨between, inner, .up before, after⟩
  | down solid notUp stands rest ih =>
    rcases List.cons_eq_append_iff.1 divided with ⟨rfl, rfl⟩ | ⟨first, rfl, rfl⟩
    · exact ⟨_, _, .here, .down solid notUp stands rest⟩
    · obtain ⟨between, inner, before, after⟩ := ih rfl
      exact ⟨between, inner, .down solid notUp stands before, after⟩
  | through solid notUp stands rest ih =>
    rcases List.cons_eq_append_iff.1 divided with ⟨rfl, rfl⟩ | ⟨first, rfl, rfl⟩
    · exact ⟨_, _, .here, .through solid notUp stands rest⟩
    · obtain ⟨between, inner, before, after⟩ := ih (List.append_assoc _ _ _).symm
      exact ⟨between, inner, .through solid notUp stands before, after⟩

theorem append_iff {first second : List String} :
    Leads tree links folder (first ++ second) left place ↔
      ∃ between inner, Leads tree links folder first between inner ∧
        Leads tree between inner second left place :=
  ⟨fun leads => leads.divide rfl, fun ⟨_, _, before, after⟩ => before.append after⟩

theorem blank_iff {name : String} (empty : name = "" ∨ name = ".") {names : List String} :
    Leads tree links folder (name :: names) left place ↔
      Leads tree links folder names left place := by
  refine ⟨fun leads => ?_, .blank empty⟩
  cases leads with
  | blank _ rest => exact rest
  | up => simp at empty
  | down solid => exact absurd empty solid
  | through solid => exact absurd empty solid

/-- Empty names lead nowhere, so it does not matter where they stand. -/
theorem filter_iff {names : List String} :
    Leads tree links folder (names.filter (· ≠ "")) left place ↔
      Leads tree links folder names left place := by
  induction names generalizing links folder with
  | nil => rfl
  | cons name names ih =>
    by_cases empty : name = ""
    · rw [List.filter_cons_of_neg (by simp [empty]), ih, blank_iff (Or.inl empty)]
    · rw [List.filter_cons_of_pos (by simp [empty])]
      have apart : ∀ later, Leads tree links folder (name :: later) left place ↔
          ∃ between inner, Leads tree links folder [name] between inner ∧
            Leads tree between inner later left place :=
        fun later => @append_iff tree links left folder place [name] later
      rw [apart, apart]
      simp only [ih]

end Leads

variable {tree : FileTree} {links left : Nat} {folder place : Place}

/--
Following names that lead to a folder ends there and goes on. A link at the end is followed unless
it is itself looked for, in which case more names have to come.
-/
theorem follow_of_leads {names : List String} (leads : Leads tree links folder names left place)
    {purpose : Purpose} {rest : List String}
    (looking : purpose = .look ∨ purpose = .lookAtLink ∧ rest ≠ []) :
    tree.follow purpose links folder (names ++ rest) = tree.follow purpose left place rest := by
  have notWriting : ∀ more : List String, ¬ (purpose = .write ∧ more = [""]) := by
    rintro more ⟨rfl, -⟩
    simp at looking
  induction leads with
  | here => rfl
  | blank empty _ ih => rw [List.cons_append, follow, if_neg (notWriting _), if_pos empty, ih]
  | up _ ih =>
    rw [List.cons_append, follow, if_neg (notWriting _), if_neg (by decide), if_pos rfl, ih]
  | down solid notUp stands _ ih =>
    rw [List.cons_append, follow, if_neg (notWriting _), if_neg solid, if_neg notUp]
    simp only [stands]
    exact ih
  | @through _ _ _ _ _ _ names solid notUp stands _ ih =>
    have followed : ¬ (names ++ rest = [] ∧ purpose = .lookAtLink) := by
      rintro ⟨none, rfl⟩
      obtain ⟨-, more⟩ := looking.resolve_left (by decide)
      exact more (List.append_eq_nil_iff.1 none).2
    rw [List.cons_append, follow, if_neg (notWriting _), if_neg solid, if_neg notUp]
    simp only [stands, if_neg followed]
    rw [← List.append_assoc]
    exact ih

/-- Names that are followed to a folder lead to it. -/
theorem leads_of_follow {names : List String} {purpose : Purpose}
    (found : tree.follow purpose links folder names = .ok (.found place .folder)) :
    ∃ left, Leads tree links folder names left place := by
  fun_induction tree.follow purpose links folder names with
  | case1 =>
    cases found
    exact ⟨_, .here⟩
  | case3 _ _ _ _ _ empty ih =>
    obtain ⟨left, leads⟩ := ih found
    exact ⟨left, .blank empty leads⟩
  | case4 _ _ _ _ _ ih =>
    obtain ⟨left, leads⟩ := ih found
    exact ⟨left, .up leads⟩
  | case7 _ _ _ _ _ solid notUp _ stands ih =>
    obtain ⟨left, leads⟩ := ih found
    exact ⟨left, .down solid notUp stands leads⟩
  | case12 _ _ _ _ solid notUp _ _ stands _ _ ih =>
    obtain ⟨left, leads⟩ := ih found
    exact ⟨left, .through solid notUp stands leads⟩
  -- The other ways end in a fault, at a vacant place, a file or a link.
  | _ => simp at found

section Name

variable {name : String}

theorem follow_file (proper : Path.IsName name) {content : Except Fault String}
    (stands : tree.entry? (folder ++ [name]) = some (.file content)) (purpose : Purpose) :
    tree.follow purpose links folder [name] = .ok (.found (folder ++ [name]) (.file content)) := by
  rw [follow, if_neg (by simp), if_neg (not_or.2 ⟨proper.2.1, proper.2.2.1⟩), if_neg proper.2.2.2]
  simp only [stands, if_true]

/-- A name is found where it stands, be it as a link. -/
theorem follow_lookAtLink {entry : Entry} (solid : ¬ (name = "" ∨ name = ".")) (notUp : name ≠ "..")
    (stands : tree.entry? (folder ++ [name]) = some entry) :
    tree.follow .lookAtLink links folder [name] = .ok (.found (folder ++ [name]) entry) := by
  rw [follow, if_neg (by simp), if_neg solid, if_neg notUp]
  cases entry with
  | folder =>
    simp only [stands]
    rw [follow]
  | file content => simp only [stands, if_true]
  | link target => simp only [stands, and_self, if_true]

theorem follow_vacant (proper : Path.IsName name) (vacant : tree.entry? (folder ++ [name]) = none)
    (purpose : Purpose) :
    tree.follow purpose links folder [name] = .ok (.vacant (folder ++ [name])) := by
  rw [follow, if_neg (by simp), if_neg (not_or.2 ⟨proper.2.1, proper.2.2.1⟩), if_neg proper.2.2.2]
  simp only [vacant, if_true]

theorem leads_folder (proper : Path.IsName name)
    (stands : tree.entry? (folder ++ [name]) = some .folder) :
    Leads tree links folder [name] links (folder ++ [name]) :=
  .down (not_or.2 ⟨proper.2.1, proper.2.2.1⟩) proper.2.2.2 stands .here

end Name

/-- The pieces of a path as names, some of which may be empty. -/
def pieceNames (path : List Char) : List String :=
  (Path.pieces path).map String.ofList

theorem pieceNames_append_slash (front back : List Char) :
    pieceNames (front ++ '/' :: back) = pieceNames front ++ pieceNames back := by
  rw [pieceNames, Path.pieces_append_slash, List.map_append]
  rfl

theorem pieceNames_of_noSlash {name : String} (noSlash : '/' ∉ name.toList) :
    pieceNames name.toList = [name] := by
  rw [pieceNames, Path.pieces_of_noSlash noSlash, List.map_singleton, String.ofList_toList]

theorem map_ofList_filter (pieces : List (List Char)) :
    (pieces.filter (· ≠ [])).map String.ofList = (pieces.map String.ofList).filter (· ≠ "") := by
  rw [List.filter_map]
  congr 2
  funext piece
  simp [Function.comp_apply]

/-- The steps of a path lead where its pieces do. -/
theorem leads_steps_iff {path : String} :
    Leads tree links folder (steps path) left place ↔
      Leads tree links folder (pieceNames path.toList) left place := by
  have same : (steps path).filter (· ≠ "") = (pieceNames path.toList).filter (· ≠ "") := by
    rw [steps, pieceNames, map_ofList_filter]
    split <;> simp
  rw [← Leads.filter_iff, same, Leads.filter_iff]

/-- The path leads to a folder, and `left` links more could be passed. -/
structure Reaches (tree : FileTree) (path : String) (left : Nat) (place : Place) : Prop where
  given : path ≠ ""
  leads : Leads tree linkLimit (start path tree.current) (pieceNames path.toList) left place

theorem target_of_look {path : String} {entry : Entry}
    (seen : tree.look path = .ok (place, entry)) :
    tree.target .look path = .ok (.found place entry) := by
  obtain ⟨found, followed, seen⟩ := exists_of_bind_eq_ok seen
  rw [followed]
  cases found with
  | found => cases seen; rfl
  | vacant => cases seen

theorem look_of_target {path : String} {entry : Entry}
    (seen : tree.target .look path = .ok (.found place entry)) :
    tree.look path = .ok (place, entry) := by
  rw [look, seen]
  rfl

theorem isFile_iff {path : String} :
    tree.isFile path = true ↔ ∃ place content, tree.look path = .ok (place, .file content) := by
  rw [isFile]
  constructor
  · intro found
    split at found
    · next place content seen => exact ⟨place, content, seen⟩
    · cases found
  · rintro ⟨place, content, seen⟩
    rw [seen]

theorem isFolder_iff {path : String} :
    tree.isFolder path = true ↔ ∃ place, tree.look path = .ok (place, .folder) := by
  rw [isFolder]
  constructor
  · intro found
    split at found
    · next place seen => exact ⟨place, seen⟩
    · cases found
  · rintro ⟨place, seen⟩
    rw [seen]

theorem exists_reaches {path : String} (seen : tree.look path = .ok (place, .folder)) :
    ∃ left, Reaches tree path left place := by
  have followed := target_of_look seen
  rw [target] at followed
  split at followed
  · cases followed
  · next given =>
    obtain ⟨left, leads⟩ := leads_of_follow followed
    exact ⟨left, given, leads_steps_iff.1 leads⟩

/-- A name alone is looked up in the current folder. -/
theorem target_name {name : String} (noSlash : '/' ∉ name.toList) (given : name ≠ "")
    (purpose : Purpose) :
    tree.target purpose name = tree.follow purpose linkLimit tree.current [name] := by
  have stepwise : steps name = [name] := by
    have solid : name.toList ≠ [] := fun empty => given (String.toList_eq_nil_iff.1 empty)
    rw [steps, Path.pieces_of_noSlash noSlash]
    simp [solid]
  rw [target, if_neg given, start, Path.not_isAbsolute noSlash, stepwise]
  rfl

theorem look_name {name : String} (proper : Path.IsName name) {content : Except Fault String}
    (stands : tree.entry? (tree.current ++ [name]) = some (.file content)) :
    tree.look name = .ok (tree.current ++ [name], .file content) := by
  apply look_of_target
  rw [target_name proper.1 proper.2.1, follow_file proper stands]

theorem isFile_name_of_vacant {name : String} (proper : Path.IsName name)
    (vacant : tree.entry? (tree.current ++ [name]) = none) : tree.isFile name = false := by
  rw [isFile, look, target_name proper.1 proper.2.1, follow_vacant proper vacant]
  rfl

theorem reaches_name {name : String} (noSlash : '/' ∉ name.toList) (given : name ≠ "")
    (leads : Leads tree linkLimit tree.current [name] left place) :
    Reaches tree name left place := by
  refine ⟨given, ?_⟩
  rw [start, Path.not_isAbsolute noSlash, pieceNames_of_noSlash noSlash]
  exact leads

theorem reaches_folder {name : String} (proper : Path.IsName name)
    (stands : tree.entry? (tree.current ++ [name]) = some .folder) :
    Reaches tree name linkLimit (tree.current ++ [name]) :=
  reaches_name proper.1 proper.2.1 (leads_folder proper stands)

namespace Reaches

theorem look {path : String} (reached : Reaches tree path left place) :
    tree.look path = .ok (place, .folder) := by
  apply look_of_target
  have followed : tree.follow .look linkLimit (start path tree.current) (steps path ++ []) =
      tree.follow .look left place [] :=
        follow_of_leads (leads_steps_iff.2 reached.leads) (Or.inl rfl)
  rw [List.append_nil] at followed
  rw [target, if_neg reached.given, followed, follow]

theorem isFolder {path : String} (reached : Reaches tree path left place) :
    tree.isFolder path = true := by
  rw [FileTree.isFolder, reached.look]

/-- A slash at the end of a path does not change where its pieces lead. -/
theorem leads_front {path : String} (reached : Reaches tree path left place) {front : List Char}
    (stands : Path.Front path front) :
    Leads tree linkLimit (start path tree.current) (pieceNames front) left place := by
  have leads := reached.leads
  cases stands with
  | bare same => rwa [same] at leads
  | slashed ends =>
    rw [ends, pieceNames_append_slash, Leads.append_iff] at leads
    obtain ⟨between, inner, before, after⟩ := leads
    cases (Leads.blank_iff (Or.inl rfl)).1 after
    exact before

theorem start_join {path name : String} (given : path ≠ "") (noSlash : '/' ∉ name.toList)
    (folder : Place) :
    start (Path.join path name) folder = start path folder := by
  rw [start, start, Path.isAbsolute_join given noSlash]

/-- A name behind a path that leads to a folder is looked up in that folder. -/
theorem target_join {path name : String} (reached : Reaches tree path left place)
    (noSlash : '/' ∉ name.toList) {purpose : Purpose}
    (looking : purpose = .look ∨ purpose = .lookAtLink) :
    tree.target purpose (Path.join path name) = tree.follow purpose left place [name] := by
  obtain ⟨front, stands, joined⟩ := Path.exists_front reached.given
  have stepwise : steps (Path.join path name) = (pieceNames front).filter (· ≠ "") ++ [name] := by
    have several : 1 < (Path.pieces front ++ [name.toList]).length := by
      have some := List.length_pos_iff.2 (Path.pieces_ne_nil front)
      rw [List.length_append, List.length_singleton]
      omega
    rw [steps, joined name noSlash, Path.pieces_append_slash, Path.pieces_of_noSlash noSlash]
    simp only [several, List.getLast?_concat, true_and, Option.some.injEq, map_ofList_filter,
      List.map_append, List.filter_append, List.map_singleton, String.ofList_toList,
      String.toList_eq_nil_iff]
    by_cases empty : name = ""
    · simp [empty, pieceNames]
    · simp [empty, pieceNames]
  have leads := Leads.filter_iff.2 (reached.leads_front stands)
  rw [target, if_neg (Path.join_ne_empty reached.given noSlash), start_join reached.given noSlash,
    stepwise]
  exact follow_of_leads leads (looking.imp_right fun looked => ⟨looked, List.cons_ne_nil _ _⟩)

theorem look_file {path name : String} (reached : Reaches tree path left place)
    (proper : Path.IsName name) {content : Except Fault String}
    (stands : tree.entry? (place ++ [name]) = some (.file content)) :
    tree.look (Path.join path name) = .ok (place ++ [name], .file content) := by
  apply look_of_target
  rw [reached.target_join proper.1 (Or.inl rfl), follow_file proper stands]

theorem join {path name : String} (reached : Reaches tree path left place)
    (noSlash : '/' ∉ name.toList) {less : Nat} {inner : Place}
    (leads : Leads tree left place [name] less inner) :
    Reaches tree (Path.join path name) less inner := by
  obtain ⟨front, stands, joined⟩ := Path.exists_front reached.given
  refine ⟨Path.join_ne_empty reached.given noSlash, ?_⟩
  rw [start_join reached.given noSlash, joined name noSlash, pieceNames_append_slash,
    pieceNames_of_noSlash noSlash]
  exact (reached.leads_front stands).append leads

end Reaches

end VersionFloor.FileTree
