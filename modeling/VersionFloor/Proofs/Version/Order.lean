import Mathlib.Order.Bounds.Basic
import VersionFloor.Proofs.Order
import VersionFloor.Version

set_option autoImplicit false

namespace VersionFloor.Version

instance : Std.TransOrd Version :=
  inferInstanceAs (Std.TransCmp (compareLex (compareOn minor) (compareOn micro)))

instance : Std.LawfulEqOrd Version where
  eq_of_compare {v w} same := by
    obtain ⟨minors, micros⟩ := Ordering.then_eq_eq.1 same
    have minors : v.minor = w.minor := Std.LawfulEqOrd.eq_of_compare minors
    have micros : v.micro = w.micro := Std.LawfulEqOrd.eq_of_compare micros
    obtain ⟨minor, micro⟩ := v
    obtain ⟨_, _⟩ := w
    exact Version.mk.injEq .. ▸ ⟨minors, micros⟩

instance : LE Version := leOfOrd

instance : LT Version := ltOfOrd

theorem le_iff_compare {v w : Version} : v ≤ w ↔ (compare v w).isLE = true := Iff.rfl

theorem lt_iff_compare {v w : Version} : v < w ↔ compare v w = .lt := Iff.rfl

theorem lt_iff_not_le {v w : Version} : v < w ↔ ¬ w ≤ v :=
  ⟨Std.OrientedCmp.not_isLE_of_lt, Std.OrientedCmp.lt_of_not_isLE⟩

theorem le_of_lt {v w : Version} (before : v < w) : v ≤ w :=
  Ordering.isLE_of_eq_lt before

theorem le_of_not_lt {v w : Version} (notBefore : ¬ v < w) : w ≤ v :=
  Decidable.of_not_not fun notAbove : ¬ (compare w v).isLE = true =>
    notBefore (lt_iff_not_le.2 notAbove)

theorem eq_of_le_of_le {v w : Version} (below : v ≤ w) (above : w ≤ v) : v = w :=
  Std.LawfulEqOrd.eq_of_compare (Std.OrientedCmp.isLE_antisymm below above)

/-- The order by components; a version without a third component stands before those with one. -/
instance : LinearOrder Version where
  compare := compare
  max := Version.max
  le_refl _ := le_iff_compare.2 Std.ReflCmp.isLE_rfl
  le_trans _ _ _ := Std.TransCmp.isLE_trans
  le_antisymm _ _ := eq_of_le_of_le
  le_total v w := by
    by_cases below : v ≤ w
    · exact Or.inl below
    · exact Or.inr (le_of_lt (lt_iff_not_le.2 below))
  lt_iff_le_not_ge v w :=
    ⟨fun before => ⟨le_of_lt before, lt_iff_not_le.1 before⟩, fun both => lt_iff_not_le.2 both.2⟩
  toDecidableLE v w := inferInstanceAs (Decidable ((compare v w).isLE = true))
  max_def v w := by
    by_cases below : v ≤ w
    · rw [if_pos below, Version.max]
      split
      · rfl
      · next notBefore => exact eq_of_le_of_le below (le_of_not_lt notBefore)
    · have notBefore : ¬ compare v w = .lt := fun before => below (le_of_lt before)
      rw [if_neg below, Version.max, if_neg notBefore]
  compare_eq_compareOfLessAndEq v w := by
    unfold compareOfLessAndEq
    cases order : compare v w with
    | lt => rw [if_pos (lt_iff_compare.2 order)]
    | eq =>
      have same : v = w := Std.LawfulEqOrd.eq_of_compare order
      have irreflexive : ¬ v < w := by rw [lt_iff_compare, order]; decide
      rw [if_neg irreflexive, if_pos same]
    | gt =>
      have notBefore : ¬ v < w := by rw [lt_iff_compare, order]; decide
      have differs : v ≠ w := by
        rintro rfl
        cases order.symm.trans Std.ReflOrd.compare_self
      rw [if_neg notBefore, if_neg differs]

/--
The order of versions, by their components as numbers; one stands before those that it begins.
-/
def Before (v w : Version) : Prop :=
  List.Lex (fun c d : UInt32 => c.toNat < d.toNat) v.components w.components

theorem compare_eq_compare_components (v w : Version) :
    compare v w = compare v.components w.components := by
  obtain ⟨minor, micro⟩ := v
  obtain ⟨other, otherMicro⟩ := w
  have micros : compare micro otherMicro =
      List.compareLex compare micro.toList otherMicro.toList := by
    rcases micro with _ | c <;> rcases otherMicro with _ | d
    · rfl
    · rfl
    · rfl
    · exact (List.compareLex_cons_cons.trans Ordering.then_eq).symm
  change (compare minor other).then (compare micro otherMicro) =
    List.compareLex compare (major :: minor :: micro.toList) (major :: other :: otherMicro.toList)
  rw [List.compareLex_cons_cons, List.compareLex_cons_cons, Std.ReflOrd.compare_self,
    Ordering.eq_then, micros]

theorem compare_eq_lt_iff {v w : Version} : compare v w = .lt ↔ Before v w := by
  rw [compare_eq_compare_components]
  exact compare_list_eq_lt_iff fun c d => Std.compare_eq_lt.trans UInt32.lt_iff_toNat_lt

theorem compare_optional_eq_lt_iff {v w : Option Version} :
    compare v w = .lt ↔ Option.lt Before v w :=
  compare_option_eq_lt_iff fun _ _ => compare_eq_lt_iff

/-- There is no version before 3.0. -/
theorem baseline_le (v : Version) : baseline ≤ v := by
  obtain ⟨minor, micro⟩ := v
  rw [le_iff_compare]
  change ((compare 0 minor).then (compare none micro)).isLE = true
  by_cases least : minor = 0
  · subst least
    rw [Std.ReflOrd.compare_self, Ordering.eq_then]
    cases micro <;> rfl
  · have below : compare 0 minor = .lt := by
      rw [Std.compare_eq_lt]
      exact UInt32.pos_iff_ne_zero.2 least
    rw [below]
    rfl

end VersionFloor.Version
