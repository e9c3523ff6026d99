import Mathlib.Data.List.Pairwise

set_option autoImplicit false

namespace VersionFloor

variable {α : Type}

section Before

variable [Ord α] {before : α → α → Prop}

theorem compare_option_eq_lt_iff (less : ∀ a b : α, compare a b = .lt ↔ before a b)
    {a b : Option α} :
    compare a b = .lt ↔ Option.lt before a b := by
  cases a with
  | none =>
    cases b with
    | none => exact ⟨nofun, False.elim⟩
    | some b => exact ⟨fun _ => trivial, fun _ => rfl⟩
  | some a =>
    cases b with
    | none => exact ⟨nofun, False.elim⟩
    | some b => exact less a b

theorem compare_list_eq_lt_iff [Std.LawfulEqOrd α]
    (less : ∀ a b : α, compare a b = .lt ↔ before a b) {xs ys : List α} :
    compare xs ys = .lt ↔ List.Lex before xs ys := by
  change List.compareLex compare xs ys = .lt ↔ _
  induction xs generalizing ys with
  | nil =>
    cases ys with
    | nil => exact ⟨nofun, nofun⟩
    | cons y ys => exact ⟨fun _ => .nil, fun _ => List.compareLex_nil_cons⟩
  | cons x xs ih =>
    cases ys with
    | nil => exact ⟨nofun, nofun⟩
    | cons y ys =>
      rw [List.compareLex_cons_cons, Ordering.then_eq_lt, less, Std.compare_eq_iff_eq, ih,
        List.cons_lex_cons_iff]

end Before

/-- The order of texts, by the code points of their characters. -/
def Text.Before (a b : String) : Prop :=
  List.Lex (fun c d : Char => c.toNat < d.toNat) a.toList b.toList

theorem Text.compare_eq_lt_iff {a b : String} : compare a b = .lt ↔ Text.Before a b :=
  compareOfLessAndEq_eq_lt.trans String.lt_iff

section Sorting

variable {cmp : α → α → Ordering} [Std.TransCmp cmp]

theorem pairwise_mergeSort_isLE (values : List α) :
    (values.mergeSort fun a b => (cmp a b).isLE).Pairwise fun a b => (cmp a b).isLE = true := by
  apply List.pairwise_mergeSort
  · intro a b c
    exact Std.TransCmp.isLE_trans
  · intro a b
    by_cases ordered : (cmp a b).isLE = true
    · rw [ordered, Bool.true_or]
    · rw [Std.OrientedCmp.lt_of_not_isLE ordered, Ordering.isLE_lt, Bool.or_true]

/-- Where only equal values compare as equal, there is one way to sort a list. -/
theorem eq_mergeSort_iff [Std.LawfulEqCmp cmp] {values sorted : List α} :
    sorted = values.mergeSort (fun a b => (cmp a b).isLE) ↔
      sorted.Perm values ∧ sorted.Pairwise fun a b => (cmp a b).isLE = true := by
  constructor
  · rintro rfl
    exact ⟨List.mergeSort_perm values _, pairwise_mergeSort_isLE values⟩
  · rintro ⟨perm, ordered⟩
    refine List.Perm.eq_of_pairwise ?_ ordered (pairwise_mergeSort_isLE values)
      (perm.trans (List.mergeSort_perm values _).symm)
    intro a b _ _ first second
    exact Std.LawfulEqCmp.eq_of_compare (Std.OrientedCmp.isLE_antisymm first second)

theorem apart_of_perm {one other : List α} (perm : one.Perm other)
    (apart : one.Pairwise fun a b => cmp a b ≠ .eq) :
    other.Pairwise fun a b => cmp a b ≠ .eq := by
  refine (perm.pairwise_iff ?_).1 apart
  intro a b differ same
  exact differ (Std.OrientedCmp.eq_symm same)

/-- Values of which no two compare as equal are sorted strictly. -/
theorem pairwise_lt_mergeSort {values : List α} (apart : values.Pairwise fun a b => cmp a b ≠ .eq) :
    (values.mergeSort fun a b => (cmp a b).isLE).Pairwise fun a b => cmp a b = .lt := by
  have sortedApart :=
    apart_of_perm (List.mergeSort_perm values fun a b => (cmp a b).isLE).symm apart
  refine ((pairwise_mergeSort_isLE values).and sortedApart).imp ?_
  rintro a b ⟨ordered, differ⟩
  exact (Ordering.isLE_iff_eq_lt_or_eq_eq.1 ordered).resolve_right differ

/-- The order in which such values are given makes no difference. -/
theorem mergeSort_eq_of_perm {one other : List α} (apart : one.Pairwise fun a b => cmp a b ≠ .eq)
    (perm : one.Perm other) :
    one.mergeSort (fun a b => (cmp a b).isLE) = other.mergeSort fun a b => (cmp a b).isLE := by
  refine List.Perm.eq_of_pairwise ?_ (pairwise_lt_mergeSort apart)
    (pairwise_lt_mergeSort (apart_of_perm perm apart)) ?_
  · intro a b _ _ first second
    exact absurd second (Std.OrientedCmp.not_lt_of_lt first)
  · exact (List.mergeSort_perm one _).trans (perm.trans (List.mergeSort_perm other _).symm)

end Sorting

end VersionFloor
