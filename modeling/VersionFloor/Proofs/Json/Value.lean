import VersionFloor.Proofs.Json.ReadBack

set_option autoImplicit false

namespace VersionFloor.Json

theorem length_le_separated {gap part : List Char} {parts : List (List Char)}
    (listed : part ∈ parts) (isFirst : Bool) :
    part.length ≤ (separated gap isFirst parts).length := by
  induction parts generalizing isFirst with
  | nil => exact absurd listed List.not_mem_nil
  | cons first parts ih =>
    simp only [separated, List.length_append]
    rcases List.mem_cons.1 listed with rfl | later
    · omega
    · have inside := ih later false
      omega

/-- A part is shorter than the brackets it stands in. -/
theorem Layout.length_lt_bracketed {α : Type} (layout : Layout) (depth : Nat) (left right : Char)
    (write : α → List Char) {values : List α} {value : α} (listed : value ∈ values) :
    (write value).length < (layout.bracketed depth left right (values.map write)).length := by
  obtain ⟨gap, -, written⟩ := layout.exists_bracketed_eq depth left right (values.map write)
  have inside : (write value).length ≤
      (separated (layout.lineStart (depth + 1)) true (values.map write)).length :=
    length_le_separated (List.mem_map_of_mem listed) true
  rw [written, List.length_cons, List.length_append]
  omega

theorem Layout.bracketed_ne_nil (layout : Layout) (depth : Nat) (left right : Char)
    (parts : List (List Char)) :
    layout.bracketed depth left right parts ≠ [] := by
  intro empty
  have first := layout.head?_bracketed depth left right parts
  rw [empty] at first
  cases first

theorem chars_ne_nil (layout : Layout) (depth : Nat) (v : Json) : v.chars layout depth ≠ [] := by
  cases v with
  | null =>
    rw [chars]
    exact List.cons_ne_nil _ _
  | str text =>
    rw [chars]
    exact List.cons_ne_nil _ _
  | arr items =>
    rw [chars]
    exact layout.bracketed_ne_nil depth _ _ _
  | obj members =>
    rw [chars]
    exact layout.bracketed_ne_nil depth _ _ _

namespace Reader

/-- A value that begins with a character; `inner` reads what stands in it. -/
def valueFrom (inner : Reader Json) : Option Char → Reader Json
  | some 'n' => do
    word "null".toList
    return .null
  | some '[' => return .arr (← list inner)
  | some '\x7b' => return .obj (← object inner)
  | _ => return .str (← text)

/-- A value in which lists and objects are nested less than `depth` deep. -/
def value : Nat → Reader Json
  | 0 => failAhead .expectedValue
  | depth + 1 => peek >>= valueFrom (value depth)

theorem readBy_null (inner : Reader Json) :
    ReadBy (peek >>= valueFrom inner) ['n', 'u', 'l', 'l'] .null :=
  readBy_peek (by decide) (by decide) fun _ => rfl

/-- Every value is read from what is written for it. -/
theorem readBy_value (layout : Layout) {fuel depth : Nat} {v : Json}
    (enough : (v.chars layout depth).length ≤ fuel) :
    ReadBy (value fuel) (v.chars layout depth) v := by
  -- What stands in a list or an object is shorter than the whole, so the induction is on the bound.
  induction fuel generalizing depth v with
  | zero =>
    exact absurd (List.eq_nil_of_length_eq_zero (Nat.le_zero.1 enough))
      (chars_ne_nil layout depth v)
  | succ fuel ih =>
    cases v with
    | null =>
      rw [chars]
      exact readBy_null (value fuel)
    | str t =>
      rw [chars]
      apply ReadBy.afterPeek
      exact (readBy_text t).andThen Json.str
    | arr items =>
      rw [chars] at enough ⊢
      apply ReadBy.afterPeek
      rw [Layout.head?_bracketed]
      refine (readBy_list layout depth fun item listed => ih ?_).andThen Json.arr
      have shorter := layout.length_lt_bracketed depth '[' ']' (chars layout (depth + 1)) listed
      exact Nat.le_of_lt_succ (Nat.lt_of_lt_of_le shorter enough)
    | obj members =>
      rw [chars] at enough ⊢
      apply ReadBy.afterPeek
      rw [Layout.head?_bracketed]
      refine (readBy_object layout depth (chars layout (depth + 1)) fun member listed =>
        ih ?_).andThen Json.obj
      have shorter := layout.length_lt_bracketed depth '\x7b' '\x7d'
        (fun member => layout.member member.1 (member.2.chars layout (depth + 1))) listed
      have inside : (member.2.chars layout (depth + 1)).length ≤
          (layout.member member.1 (member.2.chars layout (depth + 1))).length := by
        rw [Layout.member, List.length_append]
        omega
      exact Nat.le_of_lt_succ (Nat.lt_of_le_of_lt inside (Nat.lt_of_lt_of_le shorter enough))

end Reader

/-- Reads a text that holds one value; no value is nested deeper than its text is long. -/
def read (text : String) : Except Fault Json :=
  (Reader.value text.length).parse text

theorem read_pretty (v : Json) : read v.pretty = .ok v := by
  have same : v.pretty.length = (v.chars .indented 0).length := String.length_ofList
  exact (Reader.readBy_value .indented (Nat.le_of_eq same.symm)).parse

end VersionFloor.Json
