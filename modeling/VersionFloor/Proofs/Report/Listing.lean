import VersionFloor.Proofs.Table
import VersionFloor.Proofs.Version.Order
import VersionFloor.Report

set_option autoImplicit false

namespace VersionFloor

namespace Report

/--
The order of a listing: by the version of addition, absent before all others, and then by name.
-/
def Before (a b : String × Requirement) : Prop :=
  Option.lt Version.Before a.2.added b.2.added ∨ a.2.added = b.2.added ∧ Text.Before a.1 b.1

def order : String × Requirement → String × Requirement → Ordering :=
  compareLex (compareOn fun entry : String × Requirement => entry.2.added) (compareOn (·.1))

instance : Std.TransCmp order :=
  inferInstanceAs (Std.TransCmp (compareLex _ _))

theorem order_eq_lt_iff {a b : String × Requirement} : order a b = .lt ↔ Before a b := by
  change (compare a.2.added b.2.added).then (compare a.1 b.1) = .lt ↔ _
  rw [Ordering.then_eq_lt, Version.compare_optional_eq_lt_iff, Std.compare_eq_iff_eq,
    Text.compare_eq_lt_iff]
  rfl

theorem fst_eq_of_order_eq {a b : String × Requirement} (same : order a b = .eq) : a.1 = b.1 :=
  Std.compare_eq_iff_eq.1 (Ordering.then_eq_eq.1 same).2

/-- The entries that satisfy `keep`, in the order of a listing. -/
def listing (keep : Requirement → Bool) (table : Table Requirement) : List (String × Requirement) :=
  (table.entries.filter fun entry => keep entry.2).mergeSort fun a b => (order a b).isLE

theorem required_eq (table : Table Requirement) :
    required table = listing (·.added.isSome) table := rfl

theorem warnings_eq (table : Table Requirement) :
    warnings table = listing Requirement.isWarning table := rfl

variable {keep : Requirement → Bool} {table : Table Requirement}

theorem mem_listing {entry : String × Requirement} :
    entry ∈ listing keep table ↔ entry ∈ table.entries ∧ keep entry.2 = true := by
  rw [listing, List.mem_mergeSort, List.mem_filter]

/-- Entries of a table differ in their names, so none of them compares as equal to another. -/
theorem apart_filter (keep : Requirement → Bool) (table : Table Requirement) :
    (table.entries.filter fun entry => keep entry.2).Pairwise fun a b => order a b ≠ .eq := by
  refine ((List.pairwise_map.1 table.nodup).filter _).imp ?_
  intro a b apart same
  exact apart (fst_eq_of_order_eq same)

theorem pairwise_before_listing (keep : Requirement → Bool) (table : Table Requirement) :
    (listing keep table).Pairwise Before := by
  refine (pairwise_lt_mergeSort (apart_filter keep table)).imp ?_
  intro a b less
  exact order_eq_lt_iff.1 less

theorem nodup_listing (keep : Requirement → Bool) (table : Table Requirement) :
    (listing keep table).Nodup := by
  rw [listing, (List.mergeSort_perm _ _).nodup_iff]
  exact (List.Nodup.of_map _ table.nodup).filter _

theorem listing_congr {other : Table Requirement}
    (same : ∀ name, other.get? name = table.get? name) :
    listing keep other = listing keep table :=
  mergeSort_eq_of_perm (apart_filter keep other) ((Table.perm_of_get? same).filter _)

/--
The two listings of a table hold exactly the features that were added and those that were deprecated
or removed, each once and in strict order. Together they hold every feature, and they are the same
for every table that holds the same.
-/
theorem listings_are_canonical (table : Table Requirement) :
    (∀ entry, entry ∈ required table ↔ entry ∈ table.entries ∧ ∃ v, entry.2.added = some v) ∧
    (∀ entry, entry ∈ warnings table ↔
      entry ∈ table.entries ∧
        ((∃ v, entry.2.deprecated = some v) ∨ ∃ v, entry.2.removed = some v)) ∧
    (required table).Nodup ∧ (warnings table).Nodup ∧
    (required table).Pairwise Before ∧ (warnings table).Pairwise Before ∧
    (∀ entry ∈ table.entries, entry ∈ required table ∨ entry ∈ warnings table) ∧
    ∀ other : Table Requirement, (∀ name, other.get? name = table.get? name) →
      required other = required table ∧ warnings other = warnings table := by
  simp only [required_eq, warnings_eq]
  refine ⟨fun entry => ?_, fun entry => ?_, nodup_listing _ table, nodup_listing _ table,
    pairwise_before_listing _ table, pairwise_before_listing _ table, fun entry held => ?_,
    fun other same => ?_⟩
  · rw [mem_listing, Option.isSome_iff_exists]
  · rw [mem_listing, Requirement.isWarning, Bool.or_eq_true, Option.isSome_iff_exists,
      Option.isSome_iff_exists]
  · rw [mem_listing, mem_listing, Requirement.isWarning, Bool.or_eq_true]
    rcases entry.2.populated with added | warned
    · exact Or.inl ⟨held, added⟩
    · exact Or.inr ⟨held, warned⟩
  · exact ⟨listing_congr same, listing_congr same⟩

/-- Modules of which one was never added and the other is deprecated but not removed. -/
def agedModules : Table Requirement :=
  ⟨[("imp", { deprecated := some ⟨4, none⟩, removed := some ⟨12, none⟩ }),
    ("asyncio", { added := some ⟨4, none⟩, deprecated := some ⟨99, none⟩ })], by decide⟩

def agedModulesSwapped : Table Requirement :=
  ⟨agedModules.entries.reverse, by decide⟩

theorem get?_agedModulesSwapped (name : String) :
    agedModulesSwapped.get? name = agedModules.get? name := by
  by_cases first : "imp" = name
  · subst first
    rfl
  · by_cases second : "asyncio" = name
    · subst second
      rfl
    · simp [Table.get?, agedModulesSwapped, agedModules, first, second]

/-- A module that was never added is not required, and is the first that is warned about. -/
theorem agedModules_listed_alike :
    (∀ name, agedModulesSwapped.get? name = agedModules.get? name) ∧
      (required agedModulesSwapped).map (·.1) = ["asyncio"] ∧
      (warnings agedModulesSwapped).map (·.1) = ["imp", "asyncio"] := by
  obtain ⟨-, -, -, -, -, -, -, alike⟩ := listings_are_canonical agedModules
  obtain ⟨sameRequired, sameWarnings⟩ := alike agedModulesSwapped get?_agedModulesSwapped
  refine ⟨get?_agedModulesSwapped, ?_, ?_⟩
  · rw [sameRequired, required, List.mergeSort_of_pairwise (by decide)]
    decide
  · rw [sameWarnings, warnings, List.mergeSort_of_pairwise (by decide)]
    decide

end Report

end VersionFloor
