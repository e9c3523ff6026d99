import VersionFloor.Proofs.FileTree.Resolution

set_option autoImplicit false

namespace VersionFloor.FileTree

variable {tree : FileTree} {place other : Place}

/-- What a known entry is after that of a place has been put in. -/
def replaced (place : Place) (entry : Entry) (known : Place × Entry) : Place × Entry :=
  if known.1 = place then (place, entry) else known

theorem fst_replaced (place : Place) (entry : Entry) (known : Place × Entry) :
    (replaced place entry known).1 = known.1 := by
  unfold replaced
  split
  · next here => exact here.symm
  · rfl

theorem find?_map_replaced (entries : List (Place × Entry)) (place other : Place) (entry : Entry) :
    (entries.map (replaced place entry)).find? (·.1 = other) =
      (entries.find? (·.1 = other)).map (replaced place entry) := by
  have sameTest : (fun known => decide (known.1 = other)) ∘ replaced place entry =
      fun known => decide (known.1 = other) := by
    funext known
    rw [Function.comp_apply, fst_replaced]
  rw [List.find?_map, sameTest]

theorem entry_of_ne_nil (below : place ≠ []) :
    tree.entry? place = (tree.entries.find? (·.1 = place)).map (·.2) := by
  unfold entry?
  rw [if_neg below]

theorem entry_put_self (below : place ≠ []) (entry : Entry) :
    entry? (tree.put place entry) place = some entry := by
  rw [entry_of_ne_nil below]
  unfold put
  by_cases taken : tree.entries.any (·.1 = place) = true
  · obtain ⟨known, found⟩ :=
      Option.isSome_iff_exists.1 (List.find?_isSome.2 (List.any_eq_true.1 taken))
    have here : known.1 = place := by simpa using List.find?_some found
    rw [if_pos taken]
    change ((tree.entries.map (replaced place entry)).find? (·.1 = place)).map (·.2) = some entry
    rw [find?_map_replaced, found, Option.map_some, Option.map_some, replaced, if_pos here]
  · have absent : tree.entries.find? (·.1 = place) = none := by
      apply List.find?_eq_none.2
      intro known listed here
      exact taken (List.any_eq_true.2 ⟨known, listed, here⟩)
    rw [if_neg taken, List.find?_append, absent]
    simp

theorem entry_put_of_ne (apart : other ≠ place) (entry : Entry) :
    entry? (tree.put place entry) other = tree.entry? other := by
  by_cases root : other = []
  · unfold entry?
    rw [if_pos root, if_pos root]
  rw [entry_of_ne_nil root, entry_of_ne_nil root]
  unfold put
  by_cases taken : tree.entries.any (·.1 = place) = true
  · rw [if_pos taken]
    change ((tree.entries.map (replaced place entry)).find? (·.1 = other)).map (·.2) = _
    rw [find?_map_replaced]
    cases found : tree.entries.find? (·.1 = other) with
    | none => rfl
    | some known =>
      have here : known.1 = other := by simpa using List.find?_some found
      rw [Option.map_some, Option.map_some, replaced, if_neg (by rw [here]; exact apart)]
      rfl
  · rw [if_neg taken, List.find?_append]
    cases tree.entries.find? (·.1 = other) with
    | none => simp [Ne.symm apart]
    | some known => rfl

/-- A file can be put at the place: it is not the root, and no folder or link is there. -/
structure Writable (tree : FileTree) (place : Place) : Prop where
  below : place ≠ []
  noFolder : tree.entry? place ≠ some .folder
  noLink : ∀ target, tree.entry? place ≠ some (.link target)

/-- The place at which a file would be written. -/
def Target.IsAt (place : Place) : Target → Prop
  | .vacant other => other = place
  | .found other (.file _) => other = place
  | .found _ _ => False

/-- Where following names ends, but not at a folder or a link, a file can be put. -/
theorem writable_of_follow {purpose : Purpose} {links : Nat} {folder : Place} {names : List String}
    {target : Target} (followed : tree.follow purpose links folder names = .ok target)
    (ends : target.IsAt place) :
    tree.Writable place := by
  fun_induction tree.follow purpose links folder names with
  | case1 =>
    cases followed
    exact absurd ends id
  | case3 _ _ _ _ _ _ ih => exact ih followed
  | case4 _ _ _ _ _ ih => exact ih followed
  | case5 _ folder name _ _ _ free =>
    cases followed
    have here : folder ++ [name] = place := ends
    have free : tree.entry? place = none := here ▸ free
    exact ⟨by simp [← here], by simp [free], by simp [free]⟩
  | case7 _ _ _ _ _ _ _ _ _ ih => exact ih followed
  | case8 _ folder name _ _ _ content stands =>
    cases followed
    have here : folder ++ [name] = place := ends
    have stands : tree.entry? place = some (.file content) := here ▸ stands
    exact ⟨by simp [← here], by simp [stands], by simp [stands]⟩
  | case10 =>
    cases followed
    exact absurd ends id
  | case12 _ _ _ _ _ _ _ _ _ _ _ ih => exact ih followed
  -- The other ways end in a fault.
  | _ => cases followed

/-- The names that led to a place lead to the file that was put there. -/
theorem follow_put {links : Nat} {folder : Place} {names : List String} {target : Target}
    (followed : tree.follow .write links folder names = .ok target) (ends : target.IsAt place)
    (content : Except Fault String) :
    (tree.put place (.file content)).follow .look links folder names =
      .ok (.found place (.file content)) := by
  have writable := writable_of_follow followed ends
  have notWriting : ∀ rest : List String, ¬ (Purpose.look = .write ∧ rest = [""]) := by simp
  have putHere : entry? (tree.put place (.file content)) place = some (.file content) :=
    entry_put_self writable.below _
  -- What is passed on the way is a folder or a link, and that stays as it is.
  have passed : ∀ {other : Place} {entry : Entry}, tree.entry? other = some entry →
      (entry = .folder ∨ ∃ target, entry = .link target) →
        entry? (tree.put place (.file content)) other = some entry := by
    intro other entry stands kind
    rw [entry_put_of_ne, stands]
    rintro rfl
    rcases kind with rfl | ⟨target, rfl⟩
    · exact writable.noFolder stands
    · exact writable.noLink target stands
  fun_induction tree.follow .write links folder names with
  | case1 =>
    cases followed
    exact absurd ends id
  | case3 _ _ _ _ _ empty ih =>
    rw [follow, if_neg (notWriting _), if_pos empty]
    exact ih followed
  | case4 _ _ _ _ _ ih =>
    rw [follow, if_neg (notWriting _), if_neg (by decide), if_pos rfl]
    exact ih followed
  | case5 _ folder name solid notUp =>
    cases followed
    have here : folder ++ [name] = place := ends
    rw [follow, if_neg (notWriting _), if_neg solid, if_neg notUp]
    simp only [here, putHere, if_true]
  | case7 _ folder name _ _ solid notUp _ stands ih =>
    have same : entry? (tree.put place (.file content)) (folder ++ [name]) = some .folder :=
      passed stands (Or.inl rfl)
    rw [follow, if_neg (notWriting _), if_neg solid, if_neg notUp]
    simp only [same]
    exact ih followed
  | case8 _ folder name solid notUp =>
    cases followed
    have here : folder ++ [name] = place := ends
    rw [follow, if_neg (notWriting _), if_neg solid, if_neg notUp]
    simp only [here, putHere, if_true]
  | case10 _ _ _ _ _ _ _ _ _ _ looking => cases looking.2
  | case12 folder name _ _ solid notUp _ target stands _ _ ih =>
    have same : entry? (tree.put place (.file content)) (folder ++ [name]) = some (.link target) :=
      passed stands (Or.inr ⟨target, rfl⟩)
    rw [follow, if_neg (notWriting _), if_neg solid, if_neg notUp]
    simp only [same, reduceCtorEq, and_false, if_false]
    exact ih followed
  | _ => cases followed

/-- A text that was written is what the file at the path holds. -/
theorem look_of_write {path text : String} {made : FileTree}
    (written : tree.write path text = .ok made) :
    ∃ place, made.look path = .ok (place, .file (.ok text)) := by
  obtain ⟨target, found, rest⟩ := exists_of_bind_eq_ok written
  have atPlace : ∃ place, target.IsAt place ∧ made = tree.put place (.file (.ok text)) := by
    cases target with
    | vacant place =>
      cases rest
      exact ⟨place, rfl, rfl⟩
    | found place entry =>
      cases entry with
      | file content =>
        cases rest
        exact ⟨place, rfl, rfl⟩
      | folder => cases rest
      | link other => cases rest
  obtain ⟨place, ends, rfl⟩ := atPlace
  refine ⟨place, look_of_target ?_⟩
  have sameCurrent : (tree.put place (.file (.ok text))).current = tree.current := by
    unfold put
    split <;> rfl
  unfold FileTree.target at found ⊢
  split at found
  · cases found
  · next given => rw [if_neg given, sameCurrent, follow_put found ends]

theorem read_of_write {path text : String} {made : FileTree}
    (written : tree.write path text = .ok made) :
    made.read path = .ok text := by
  obtain ⟨place, seen⟩ := look_of_write written
  rw [read, seen]
  rfl

theorem isFile_of_write {path text : String} {made : FileTree}
    (written : tree.write path text = .ok made) :
    made.isFile path = true := by
  obtain ⟨place, seen⟩ := look_of_write written
  exact isFile_iff.2 ⟨place, _, seen⟩

end VersionFloor.FileTree
