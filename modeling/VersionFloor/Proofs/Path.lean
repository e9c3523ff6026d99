import VersionFloor.Path
import VersionFloor.Proofs.Order

set_option autoImplicit false

namespace VersionFloor.Path

def IsName (name : String) : Prop :=
  '/' ∉ name.toList ∧ name ≠ "" ∧ name ≠ "." ∧ name ≠ ".."

instance (name : String) : Decidable (IsName name) :=
  inferInstanceAs (Decidable (_ ∧ _))

theorem pieces_nil : pieces [] = [[]] := rfl

theorem pieces_slash (rest : List Char) : pieces ('/' :: rest) = [] :: pieces rest := rfl

theorem pieces_ne_nil (cs : List Char) : pieces cs ≠ [] := by
  cases cs with
  | nil => exact List.cons_ne_nil _ _
  | cons c rest =>
    unfold pieces
    split <;> exact List.cons_ne_nil _ _

theorem pieces_cons {c : Char} (solid : c ≠ '/') {rest first : List Char} {found : List (List Char)}
    (divided : pieces rest = first :: found) : pieces (c :: rest) = (c :: first) :: found := by
  unfold pieces
  rw [divided]
  split
  · exact absurd rfl solid
  · next same =>
    obtain ⟨rfl, rfl⟩ := List.cons.inj same
    rfl
  · next none => cases none

theorem pieces_append_slash (front back : List Char) :
    pieces (front ++ '/' :: back) = pieces front ++ pieces back := by
  induction front with
  | nil => rfl
  | cons c front ih =>
    by_cases slash : c = '/'
    · subst slash
      rw [List.cons_append, pieces_slash, pieces_slash, ih, List.cons_append]
    · obtain ⟨first, found, split⟩ := List.exists_cons_of_ne_nil (pieces_ne_nil front)
      rw [split, List.cons_append] at ih
      rw [List.cons_append, pieces_cons slash ih, pieces_cons slash split, List.cons_append]

/-- A text without a slash is one piece. -/
theorem pieces_of_noSlash {cs : List Char} (noSlash : '/' ∉ cs) : pieces cs = [cs] := by
  induction cs with
  | nil => rfl
  | cons c rest ih =>
    obtain ⟨solid, later⟩ := not_or.1 (mt List.mem_cons.2 noSlash)
    exact pieces_cons (Ne.symm solid) (ih later)

/-- A piece has characters of the text, and no slash among them. -/
theorem of_mem_pieces {cs piece : List Char} (listed : piece ∈ pieces cs) :
    '/' ∉ piece ∧ piece ⊆ cs := by
  induction cs generalizing piece with
  | nil =>
    rw [pieces_nil, List.mem_singleton] at listed
    rw [listed]
    exact ⟨List.not_mem_nil, List.nil_subset _⟩
  | cons c rest ih =>
    by_cases slash : c = '/'
    · subst slash
      rw [pieces_slash, List.mem_cons] at listed
      rcases listed with rfl | later
      · exact ⟨List.not_mem_nil, List.nil_subset _⟩
      · exact ⟨(ih later).1, List.subset_cons_of_subset _ (ih later).2⟩
    · obtain ⟨first, found, divided⟩ := List.exists_cons_of_ne_nil (pieces_ne_nil rest)
      rw [divided] at ih
      rw [pieces_cons slash divided, List.mem_cons] at listed
      rcases listed with rfl | later
      · obtain ⟨noSlash, within⟩ := ih List.mem_cons_self
        exact ⟨List.not_mem_cons_of_ne_of_not_mem (Ne.symm slash) noSlash,
          List.cons_subset_cons c within⟩
      · obtain ⟨noSlash, within⟩ := ih (List.mem_cons_of_mem first later)
        exact ⟨noSlash, List.subset_cons_of_subset _ within⟩

theorem not_isAbsolute {name : String} (noSlash : '/' ∉ name.toList) : isAbsolute name = false := by
  rw [isAbsolute, decide_eq_false_iff_not]
  exact fun first => noSlash (List.mem_of_head? first)

/--
What stands before the last slash when a name is put behind a path: the path without the slash that
it may end in.
-/
inductive Front (path : String) : List Char → Prop
  | bare {front : List Char} : path.toList = front → front ≠ [] → front.getLast? ≠ some '/' →
      Front path front
  | slashed {front : List Char} : path.toList = front ++ ['/'] → Front path front

theorem exists_front {path : String} (given : path ≠ "") :
    ∃ front, Front path front ∧
      ∀ name : String, '/' ∉ name.toList →
        (join path name).toList = front ++ '/' :: name.toList := by
  have solid : path.toList ≠ [] := fun empty => given (String.toList_eq_nil_iff.1 empty)
  by_cases slashed : path.toList.getLast? = some '/'
  · obtain ⟨front, ends⟩ := List.getLast?_eq_some_iff.1 slashed
    refine ⟨front, .slashed ends, fun name noSlash => ?_⟩
    rw [join, if_neg (by simp [not_isAbsolute noSlash, given]), if_pos slashed,
      String.toList_append, ends, List.append_assoc]
    rfl
  · refine ⟨path.toList, .bare rfl solid slashed, fun name noSlash => ?_⟩
    rw [join, if_neg (by simp [not_isAbsolute noSlash, given]), if_neg slashed,
      String.toList_append, String.toList_append, List.append_assoc]
    rfl

theorem Front.isAbsolute_eq {path : String} {front : List Char} (stands : Front path front)
    (rest : List Char) :
    decide ((front ++ '/' :: rest).head? = some '/') = isAbsolute path := by
  rw [isAbsolute]
  cases stands with
  | bare same solid _ =>
    rw [same, List.head?_append, List.head?_eq_some_head solid, Option.some_or]
  | slashed ends =>
    rw [ends]
    cases front <;> rfl

theorem isAbsolute_join {path name : String} (given : path ≠ "") (noSlash : '/' ∉ name.toList) :
    isAbsolute (join path name) = isAbsolute path := by
  obtain ⟨front, stands, joined⟩ := exists_front given
  rw [← stands.isAbsolute_eq name.toList, ← joined name noSlash, isAbsolute]

theorem join_ne_empty {path name : String} (given : path ≠ "") (noSlash : '/' ∉ name.toList) :
    join path name ≠ "" := by
  obtain ⟨front, -, joined⟩ := exists_front given
  intro empty
  have none := joined name noSlash
  rw [empty] at none
  exact List.append_ne_nil_of_right_ne_nil front (List.cons_ne_nil _ _) none.symm

def partsOf : List (List Char) → List Part
  | [] => []
  | first :: rest => (firstPart? first rest.isEmpty).toList ++ rest.filterMap laterPart?

theorem parts_eq (path : String) : parts path = partsOf (pieces path.toList) := by
  rw [parts]
  cases pieces path.toList <;> rfl

theorem firstPart?_of_ne_nil {piece : List Char} (solid : piece ≠ []) (isOnly : Bool) :
    firstPart? piece isOnly = firstPart? piece false := by
  rw [firstPart?, firstPart?, if_neg solid, if_neg solid]

theorem Front.partsOf_append {path : String} {front : List Char} (stands : Front path front)
    (piece : List Char) :
    partsOf (pieces front ++ [piece]) = parts path ++ (laterPart? piece).toList := by
  obtain ⟨first, rest, split⟩ := List.exists_cons_of_ne_nil (pieces_ne_nil front)
  have added : partsOf (pieces front ++ [piece]) =
      (firstPart? first false).toList ++ rest.filterMap laterPart? ++
        (laterPart? piece).toList := by
    rw [split, List.cons_append, partsOf, List.filterMap_append, List.append_assoc]
    cases rest <;> cases found : laterPart? piece <;> simp [found]
  rw [added, parts_eq]
  congr 1
  cases stands with
  | bare same solid _ =>
    rw [same, split, partsOf]
    cases rest with
    | cons piece rest => rfl
    | nil =>
      -- A single piece that is empty is the empty path, which has no front.
      have whole : first ≠ [] := by
        rintro rfl
        cases front with
        | nil => exact solid rfl
        | cons c front =>
          by_cases slash : c = '/'
          · subst slash
            rw [pieces_slash] at split
            exact pieces_ne_nil front (List.cons.inj split).2
          · obtain ⟨head, tail, inner⟩ := List.exists_cons_of_ne_nil (pieces_ne_nil front)
            rw [pieces_cons slash inner] at split
            exact List.cons_ne_nil _ _ (List.cons.inj split).1
      rw [firstPart?_of_ne_nil whole [].isEmpty]
  | slashed ends =>
    rw [ends, pieces_append_slash, split, pieces_nil, List.cons_append, partsOf,
      List.filterMap_append]
    cases rest <;> simp [laterPart?]

/-- A name behind a path is one more part, unless it is empty or a dot. -/
theorem parts_join {path name : String} (given : path ≠ "") (noSlash : '/' ∉ name.toList) :
    parts (join path name) = parts path ++ (laterPart? name.toList).toList := by
  obtain ⟨front, stands, joined⟩ := exists_front given
  rw [parts_eq, joined name noSlash, pieces_append_slash, pieces_of_noSlash noSlash,
    stands.partsOf_append]

theorem IsName.ne_nil {name : String} (proper : IsName name) : name.toList ≠ [] :=
  fun empty => proper.2.1 (String.toList_eq_nil_iff.1 empty)

theorem laterPart?_name {name : String} (proper : IsName name) :
    laterPart? name.toList = some (.name name) := by
  obtain ⟨-, notEmpty, notHere, notUp⟩ := proper
  have plain : ∀ text : String, name ≠ text → name.toList ≠ text.toList :=
    fun text differs same => differs (String.toList_inj.1 same)
  have blank : ¬ (name.toList = [] ∨ name.toList = ['.']) :=
    not_or.2 ⟨plain "" notEmpty, plain "." notHere⟩
  have up : name.toList ≠ ['.', '.'] := plain ".." notUp
  rw [laterPart?, if_neg blank, if_neg up, String.ofList_toList]

theorem parts_name {name : String} (proper : IsName name) : parts name = [.name name] := by
  have plain : name.toList ≠ ['.'] := fun same => proper.2.2.1 (String.toList_inj.1 same)
  rw [parts_eq, pieces_of_noSlash proper.1, partsOf, firstPart?, if_neg proper.ne_nil, if_neg plain,
    laterPart?_name proper]
  rfl

theorem parts_join_name {path name : String} (given : path ≠ "") (proper : IsName name) :
    parts (join path name) = parts path ++ [.name name] := by
  rw [parts_join given proper.1, laterPart?_name proper]
  rfl

theorem fileName?_of_parts {path name : String} {before : List Part}
    (ends : parts path = before ++ [.name name]) :
    fileName? path = some name := by
  rw [fileName?, ends, List.getLast?_concat]

theorem fileName?_join {path name : String} (given : path ≠ "") (proper : IsName name) :
    fileName? (join path name) = some name :=
  fileName?_of_parts (parts_join_name given proper)

/-- The first dot of a text divides it into what has no dot and the rest. -/
theorem divided_at_dot_iff {cs before after : List Char} :
    cs.takeWhile (· ≠ '.') = before ∧ cs.dropWhile (· ≠ '.') = '.' :: after ↔
      '.' ∉ before ∧ cs = before ++ '.' :: after := by
  constructor
  · rintro ⟨rfl, rest⟩
    constructor
    · intro dotted
      simpa using List.all_eq_true.1 List.all_takeWhile '.' dotted
    · rw [← rest, List.takeWhile_append_dropWhile]
  · rintro ⟨plain, rfl⟩
    have passed : ∀ c ∈ before, decide (c ≠ '.') = true := by
      intro c held
      exact decide_eq_true fun dot => plain (dot ▸ held)
    rw [List.takeWhile_append_of_pos passed, List.dropWhile_append_of_pos passed]
    simp

theorem eq_dot_of_dropWhile {cs after : List Char} {c : Char}
    (rest : cs.dropWhile (· ≠ '.') = c :: after) :
    c = '.' := by
  have stops := List.head?_dropWhile_not (fun c : Char => decide (c ≠ '.')) cs
  rw [rest] at stops
  simpa using stops

/-- The extension of a name stands behind its last dot, which is not its first character. -/
theorem extension?_eq_some_iff {path name : String} (named : fileName? path = some name)
    {extension : String} :
    extension? path = some extension ↔
      '.' ∉ extension.toList ∧ ∃ stem, stem ≠ "" ∧ name = stem ++ "." ++ extension := by
  rw [extension?, named]
  simp only [Option.bind_eq_bind, Option.bind_some]
  constructor
  · intro found
    split at found
    · next dot c before rest =>
      obtain rfl := eq_dot_of_dropWhile rest
      have taken : name.toList.reverse.takeWhile (· ≠ '.') = extension.toList.reverse := by
        rw [← Option.some.inj found, String.toList_ofList, List.reverse_reverse]
      obtain ⟨plain, whole⟩ := divided_at_dot_iff.1 ⟨taken, rest⟩
      refine ⟨fun dotted => plain (List.mem_reverse.2 dotted),
        String.ofList (before.reverse ++ [c]), ?_, ?_⟩
      · intro empty
        simpa using congrArg String.toList empty
      · apply String.toList_inj.1
        rw [← List.reverse_reverse name.toList, whole]
        simp
    · cases found
  · rintro ⟨plain, stem, solid, rfl⟩
    have whole : (stem ++ "." ++ extension).toList.reverse =
        extension.toList.reverse ++ '.' :: stem.toList.reverse := by simp
    obtain ⟨taken, rest⟩ :=
      divided_at_dot_iff.2 ⟨fun dotted => plain (List.mem_reverse.1 dotted), whole⟩
    obtain ⟨c, before, backwards⟩ : ∃ c before, stem.toList.reverse = c :: before := by
      apply List.exists_cons_of_ne_nil
      simpa using solid
    rw [rest, backwards, taken]
    simp

instance : Std.TransOrd Part :=
  inferInstanceAs (Std.TransCmp (compareLex (compareOn Part.rank) (compareOn Part.text)))

theorem compare_append (base first second : List Part) :
    compare (base ++ first) (base ++ second) = compare first second := by
  induction base with
  | nil => rfl
  | cons part base ih =>
    change List.compareLex compare (part :: (base ++ first)) (part :: (base ++ second)) = _
    rw [List.compareLex_cons_cons, Std.ReflOrd.compare_self, Ordering.eq_then]
    exact ih

/-- Paths that differ in their last names only stand in the order of these names. -/
theorem isLE_iff_of_parts {first second a b : String} {base : List Part}
    (one : parts first = base ++ [.name a]) (other : parts second = base ++ [.name b]) :
    isLE first second = true ↔ a ≤ b := by
  have last : compare [Part.name a] [Part.name b] = compare a b := by
    change List.compareLex compare _ _ = _
    rw [List.compareLex_cons_cons, List.compareLex_nil_nil, Ordering.then_eq]
    rfl
  have behind : compare b a = .lt ↔ b < a := compareOfLessAndEq_eq_lt
  rw [isLE, compareOn, one, other, compare_append, last, Ordering.isLE_iff_ne_gt,
    Std.OrientedCmp.gt_iff_lt, behind, String.not_lt]

theorem pairwise_mergeSort (paths : List String) :
    (paths.mergeSort isLE).Pairwise fun first second => isLE first second = true :=
  pairwise_mergeSort_isLE paths

end VersionFloor.Path
