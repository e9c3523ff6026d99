import VersionFloor.Proofs.Version.Order
import VersionFloor.Requirement

set_option autoImplicit false

namespace VersionFloor.Requirement

/--
The first field in which two requirements differ decides which of them stands before the other.
-/
inductive Before (a b : Requirement) : Prop
  | added (less : Option.lt Version.Before a.added b.added)
  | deprecated (added : a.added = b.added)
      (less : Option.lt Version.Before a.deprecated b.deprecated)
  | removed (added : a.added = b.added) (deprecated : a.deprecated = b.deprecated)
      (less : Option.lt Version.Before a.removed b.removed)
  | name (added : a.added = b.added) (deprecated : a.deprecated = b.deprecated)
      (removed : a.removed = b.removed) (less : Option.lt Text.Before a.name b.name)
  | note (added : a.added = b.added) (deprecated : a.deprecated = b.deprecated)
      (removed : a.removed = b.removed)
      (name : a.name = b.name) (less : Option.lt Text.Before a.note b.note)
  | items (added : a.added = b.added) (deprecated : a.deprecated = b.deprecated)
      (removed : a.removed = b.removed) (name : a.name = b.name) (note : a.note = b.note)
      (less : Option.lt (List.Lex Text.Before) a.items b.items)

theorem compare_eq_then (a b : Requirement) :
    compare a b =
      ((compare a.added b.added).then
        ((compare a.deprecated b.deprecated).then (compare a.removed b.removed))).then
        ((compare a.name b.name).then ((compare a.note b.note).then (compare a.items b.items))) :=
          rfl

instance : Std.TransOrd Requirement :=
  inferInstanceAs (Std.TransCmp (compareLex
    (compareLex (compareOn added) (compareLex (compareOn deprecated) (compareOn removed)))
    (compareLex (compareOn name) (compareLex (compareOn note) (compareOn items)))))

theorem compare_eq_eq_iff {a b : Requirement} :
    compare a b = .eq ↔ a.name = b.name ∧ a.added = b.added ∧ a.deprecated = b.deprecated ∧
      a.removed = b.removed ∧ a.note = b.note ∧ a.items = b.items := by
  simp only [compare_eq_then, Ordering.then_eq_eq, Std.compare_eq_iff_eq]
  constructor
  · rintro ⟨⟨added, deprecated, removed⟩, name, note, items⟩
    exact ⟨name, added, deprecated, removed, note, items⟩
  · rintro ⟨name, added, deprecated, removed, note, items⟩
    exact ⟨⟨added, deprecated, removed⟩, name, note, items⟩

instance : Std.LawfulEqOrd Requirement where
  eq_of_compare {a b} same := by
    obtain ⟨name, added, deprecated, removed, note, items⟩ := compare_eq_eq_iff.1 same
    obtain ⟨_, _, _, _, _, _, _⟩ := a
    obtain ⟨_, _, _, _, _, _, _⟩ := b
    subst name added deprecated removed note items
    rfl

theorem compare_eq_lt_iff {a b : Requirement} : compare a b = .lt ↔ Before a b := by
  have texts (s t : Option String) : compare s t = .lt ↔ Option.lt Text.Before s t :=
    compare_option_eq_lt_iff fun _ _ => Text.compare_eq_lt_iff
  have lists (s t : Option (List String)) : compare s t = .lt ↔
      Option.lt (List.Lex Text.Before) s t :=
    compare_option_eq_lt_iff fun _ _ => compare_list_eq_lt_iff fun _ _ => Text.compare_eq_lt_iff
  simp only [compare_eq_then, Ordering.then_eq_lt, Ordering.then_eq_eq, Std.compare_eq_iff_eq,
    Version.compare_optional_eq_lt_iff, texts, lists]
  constructor
  · rintro ((less | ⟨added, less | ⟨deprecated, less⟩⟩) |
      ⟨⟨added, deprecated, removed⟩, less | ⟨name, less | ⟨note, less⟩⟩⟩)
    · exact .added less
    · exact .deprecated added less
    · exact .removed added deprecated less
    · exact .name added deprecated removed less
    · exact .note added deprecated removed name less
    · exact .items added deprecated removed name note less
  · intro before
    cases before with
    | added less => exact Or.inl (Or.inl less)
    | deprecated added less => exact Or.inl (Or.inr ⟨added, Or.inl less⟩)
    | removed added deprecated less => exact Or.inl (Or.inr ⟨added, Or.inr ⟨deprecated, less⟩⟩)
    | name added deprecated removed less => exact Or.inr ⟨⟨added, deprecated, removed⟩, Or.inl less⟩
    | note added deprecated removed name less =>
      exact Or.inr ⟨⟨added, deprecated, removed⟩, Or.inr ⟨name, Or.inl less⟩⟩
    | items added deprecated removed name note less =>
      exact Or.inr ⟨⟨added, deprecated, removed⟩, Or.inr ⟨name, Or.inr ⟨note, less⟩⟩⟩

/--
Requirements are linearly ordered: two compare as equal exactly if all six fields agree, and
otherwise the first field that differs decides, the three versions before the name, the note and the
items. So there is one way to sort a list.
-/
theorem order_is_linear (a b c : Requirement) :
    (compare a b = .eq ↔ a.name = b.name ∧ a.added = b.added ∧ a.deprecated = b.deprecated ∧
      a.removed = b.removed ∧ a.note = b.note ∧ a.items = b.items) ∧
    compare b a = (compare a b).swap ∧
    ((compare a b).isLE = true → (compare b c).isLE = true → (compare a c).isLE = true) ∧
    (compare a b = .lt → compare b c = .lt → compare a c = .lt) ∧
    ((compare a b).isLE = true ∨ (compare b a).isLE = true) ∧
    (compare a b = .lt ↔ Before a b) ∧
    ∀ given sorted : List Requirement, sorted = given.mergeSort (fun r s => (compare r s).isLE) ↔
      sorted.Perm given ∧ sorted.Pairwise fun r s => (compare r s).isLE = true := by
  refine ⟨compare_eq_eq_iff, Std.OrientedOrd.eq_swap, Std.TransOrd.isLE_trans,
    Std.TransCmp.lt_trans, ?_, compare_eq_lt_iff, fun given sorted => eq_mergeSort_iff⟩
  by_cases ordered : (compare a b).isLE = true
  · exact Or.inl ordered
  · exact Or.inr (Ordering.isLE_of_eq_lt (Std.OrientedCmp.lt_of_not_isLE ordered))

/-- A feature of which only the end is known. -/
def removedOnly : Requirement :=
  { name := some "imp", removed := some ⟨12, none⟩ }

def unnoted : Requirement :=
  { name := some "tomllib", added := some ⟨11, none⟩ }

/-- The same feature with a note that says nothing. -/
def noted : Requirement :=
  { name := some "tomllib", added := some ⟨11, none⟩, note := some "" }

/-- What is absent is least, be it the version of addition or the note. -/
theorem absent_fields_sorted_first :
    compare removedOnly unnoted = .lt ∧ compare unnoted noted = .lt ∧
      compare removedOnly noted = .lt ∧
      [noted, unnoted, removedOnly].mergeSort (fun r s => (compare r s).isLE) =
        [removedOnly, unnoted, noted] := by
  obtain ⟨-, -, -, transitive, -, -, unique⟩ := order_is_linear removedOnly unnoted noted
  have first : compare removedOnly unnoted = .lt := by decide
  have second : compare unnoted noted = .lt := by decide
  refine ⟨first, second, transitive first second, ((unique _ _).2 ⟨?_, ?_⟩).symm⟩
  · decide
  · decide

end VersionFloor.Requirement
