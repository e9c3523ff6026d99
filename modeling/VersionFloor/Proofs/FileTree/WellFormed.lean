import Mathlib.Data.List.Induction
import Mathlib.Data.List.Nodup
import VersionFloor.Proofs.FileTree.Resolution

set_option autoImplicit false

namespace VersionFloor.FileTree

/--
A snapshot of real folders: each place is taken once, under names that a file can have, and what is
not the root stands in a folder.
-/
structure WellFormed (tree : FileTree) : Prop where
  distinct : (tree.entries.map (·.1)).Nodup
  named : ∀ known ∈ tree.entries, ∀ name ∈ known.1, Path.IsName name
  inFolder : ∀ known ∈ tree.entries, tree.entry? known.1.dropLast = some .folder

theorem wellFormed_iff {tree : FileTree} :
    tree.WellFormed ↔ (tree.entries.map (·.1)).Nodup ∧
      (∀ known ∈ tree.entries, ∀ name ∈ known.1, Path.IsName name) ∧
      ∀ known ∈ tree.entries, tree.entry? known.1.dropLast = some .folder :=
  ⟨fun wellFormed => ⟨wellFormed.distinct, wellFormed.named, wellFormed.inFolder⟩,
    fun parts => ⟨parts.1, parts.2.1, parts.2.2⟩⟩

instance (found : Option Entry) : Decidable (found = some .folder) :=
  match found with
  | some .folder => isTrue rfl
  | some (.file _) => isFalse fun same => by cases same
  | some (.link _) => isFalse fun same => by cases same
  | none => isFalse fun same => by cases same

instance (tree : FileTree) : Decidable tree.WellFormed :=
  decidable_of_iff' _ wellFormed_iff

variable {tree : FileTree} {place folder : Place} {name : String} {entry : Entry}

theorem mem_entries_of_stands (stands : tree.entry? place = some entry) (below : place ≠ []) :
    (place, entry) ∈ tree.entries := by
  unfold entry? at stands
  rw [if_neg below] at stands
  obtain ⟨⟨found, other⟩, hit, rfl⟩ := Option.map_eq_some_iff.1 stands
  have same : found = place := by simpa using List.find?_some hit
  exact same ▸ List.mem_of_find?_eq_some hit

theorem exists_entry?_of_mem (held : (place, entry) ∈ tree.entries) :
    ∃ other, tree.entry? place = some other := by
  unfold entry?
  split
  · exact ⟨.folder, rfl⟩
  · cases hit : tree.entries.find? (·.1 = place) with
    | none =>
      have differs := List.find?_eq_none.1 hit (place, entry) held
      simp at differs
    | some known => exact ⟨known.2, rfl⟩

def namesIn (tree : FileTree) (folder : Place) : List String :=
  tree.entries.filterMap fun known =>
    if known.1 ≠ [] ∧ known.1.dropLast = folder then known.1.getLast? else none

theorem names_eq (tree : FileTree) (folder : Place) :
    tree.names folder = (tree.namesIn folder).mergeSort (· ≤ ·) := rfl

theorem named_in_iff {known : Place} :
    (if known ≠ [] ∧ known.dropLast = folder then known.getLast? else none) = some name ↔
      known = folder ++ [name] := by
  constructor
  · intro found
    obtain ⟨⟨-, rfl⟩, last⟩ := Option.ite_none_right_eq_some.1 found
    obtain ⟨before, rfl⟩ := List.getLast?_eq_some_iff.1 last
    rw [List.dropLast_concat]
  · rintro rfl
    simp

theorem mem_names :
    name ∈ tree.names folder ↔ ∃ entry, tree.entry? (folder ++ [name]) = some entry := by
  rw [names_eq, List.mem_mergeSort, namesIn, List.mem_filterMap]
  simp only [named_in_iff]
  constructor
  · rintro ⟨⟨_, entry⟩, held, rfl⟩
    exact exists_entry?_of_mem held
  · rintro ⟨entry, stands⟩
    have held := mem_entries_of_stands stands (List.append_ne_nil_of_right_ne_nil _ (by simp))
    exact ⟨(folder ++ [name], entry), held, rfl⟩

namespace WellFormed

theorem nodup_namesIn (wellFormed : tree.WellFormed) (folder : Place) :
    (tree.namesIn folder).Nodup := by
  have distinct := wellFormed.distinct
  rw [List.Nodup, List.pairwise_map] at distinct
  rw [namesIn, List.Nodup, List.pairwise_filterMap]
  refine distinct.imp ?_
  intro known other differs name first second third same
  rw [named_in_iff] at first third
  exact differs (by rw [first, third, same])

/-- A folder lists its names in strict order. -/
theorem pairwise_names (wellFormed : tree.WellFormed) (folder : Place) :
    (tree.names folder).Pairwise (· < ·) := by
  have sorted : (tree.names folder).Pairwise (fun a b => decide (a ≤ b) = true) := by
    rw [names_eq]
    apply List.pairwise_mergeSort
    · intro a b c first second
      exact decide_eq_true (String.le_trans (of_decide_eq_true first) (of_decide_eq_true second))
    · intro a b
      rw [Bool.or_eq_true, decide_eq_true_eq, decide_eq_true_eq]
      exact String.le_total a b
  have distinct : (tree.names folder).Nodup := by
    rw [names_eq]
    exact (List.mergeSort_perm _ _).nodup_iff.2 (wellFormed.nodup_namesIn folder)
  refine (sorted.and distinct).imp ?_
  rintro a b ⟨le, differs⟩
  exact Std.lt_of_le_of_ne (of_decide_eq_true le) differs

theorem isName (wellFormed : tree.WellFormed) (stands : tree.entry? place = some entry)
    (held : name ∈ place) :
    Path.IsName name :=
  wellFormed.named _ (mem_entries_of_stands stands (List.ne_nil_of_mem held)) name held

theorem isName_of_listed (wellFormed : tree.WellFormed) (listed : name ∈ tree.names folder) :
    Path.IsName name := by
  obtain ⟨entry, stands⟩ := mem_names.1 listed
  exact wellFormed.isName stands (by simp)

/-- Whatever stands below a place stands in a folder there. -/
theorem isFolder_of_below (wellFormed : tree.WellFormed) {names : List String} (below : names ≠ [])
    (stands : tree.entry? (place ++ names) = some entry) : tree.entry? place = some .folder := by
  induction names using List.reverseRecOn generalizing entry with
  | nil => exact absurd rfl below
  | append_singleton names name ih =>
    rw [← List.append_assoc] at stands
    have held := mem_entries_of_stands stands (List.append_ne_nil_of_right_ne_nil _ (by simp))
    have above := wellFormed.inFolder _ held
    rw [List.dropLast_concat] at above
    by_cases more : names = []
    · rwa [more, List.append_nil] at above
    · exact ih more above

end WellFormed

end VersionFloor.FileTree
