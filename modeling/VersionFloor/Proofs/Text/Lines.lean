import Mathlib.Data.List.DropRight
import VersionFloor.Text.Blank

set_option autoImplicit false

namespace VersionFloor.Text

theorem trimRight_nil : trimRight [] = [] := rfl

theorem trimRight_trimRight (cs : List Char) : trimRight (trimRight cs) = trimRight cs :=
  List.rdropWhile_idempotent isBlank cs

theorem trimRight_eq_nil_iff {cs : List Char} : trimRight cs = [] ↔ ∀ c ∈ cs, isBlank c = true :=
  List.rdropWhile_eq_nil_iff

theorem trimRight_append (front back : List Char) :
    trimRight (front ++ back) = if trimRight back = [] then trimRight front else front ++
      trimRight back := by
  simp only [trimRight, List.reverse_append, List.dropWhile_append, List.isEmpty_iff,
    List.reverse_eq_nil_iff]
  split
  · rfl
  · rw [List.reverse_append, List.reverse_reverse]

/-- A text that ends in a visible character is not trimmed. -/
theorem trimRight_concat {c : Char} (visible : isBlank c = false) (cs : List Char) :
    trimRight (cs ++ [c]) = cs ++ [c] :=
  List.rdropWhile_concat_neg isBlank cs c (by simp [visible])

theorem trimRight_append_trimRight (front back : List Char) :
    trimRight (front ++ trimRight back) = trimRight (front ++ back) := by
  rw [trimRight_append, trimRight_append, trimRight_trimRight]

theorem trimRight_cons_trimRight (c : Char) (line : List Char) :
    trimRight (c :: trimRight line) = trimRight (c :: line) :=
  trimRight_append_trimRight [c] line

theorem not_mem_trimRight {c : Char} {cs : List Char} (absent : c ∉ cs) : c ∉ trimRight cs :=
  fun held => absent ((List.rdropWhile_prefix isBlank cs).subset held)

/-- The lines of a text, each without white space at its end. -/
def trimmedLines (cs : List Char) : List (List Char) :=
  (cs.splitOn '\n').map trimRight

def trimLines (cs : List Char) : List Char :=
  List.intercalate ['\n'] (trimmedLines cs)

theorem trimmedLines_newline (rest : List Char) :
    trimmedLines ('\n' :: rest) = [] :: trimmedLines rest := by
  rw [trimmedLines, List.splitOn_cons_eq_if_modifyHead, if_pos (by decide), List.map_cons,
    trimRight_nil]
  rfl

theorem trimmedLines_cons {c : Char} (sameLine : c ≠ '\n') (rest : List Char) :
    trimmedLines (c :: rest) = (trimmedLines rest).modifyHead fun line =>
      trimRight (c :: line) := by
  obtain ⟨line, lines, divided⟩ := List.exists_cons_of_ne_nil (List.splitOn_ne_nil '\n' rest)
  rw [trimmedLines, trimmedLines, List.splitOn_cons_eq_if_modifyHead,
    if_neg (by simpa using sameLine), divided]
  simp only [List.modifyHead_cons, List.map_cons, trimRight_cons_trimRight]

/-- Texts with the same trimmed lines have the same ones behind another text. -/
theorem trimmedLines_append_congr {cs ds : List Char} (same : trimmedLines cs = trimmedLines ds)
    (front : List Char) :
    trimmedLines (front ++ cs) = trimmedLines (front ++ ds) := by
  induction front with
  | nil => exact same
  | cons c front ih =>
    rw [List.cons_append, List.cons_append]
    by_cases feed : c = '\n'
    · rw [feed, trimmedLines_newline, trimmedLines_newline, ih]
    · rw [trimmedLines_cons feed, trimmedLines_cons feed, ih]

/-- The first line of a text. -/
theorem trimmedLines_line {line : List Char} (single : '\n' ∉ line) (rest : List Char) :
    trimmedLines (line ++ '\n' :: rest) = trimRight line :: trimmedLines rest := by
  induction line with
  | nil => rw [List.nil_append, trimmedLines_newline, trimRight_nil]
  | cons c line ih =>
    rw [List.mem_cons, not_or] at single
    rw [List.cons_append, trimmedLines_cons (Ne.symm single.1), ih single.2, List.modifyHead_cons,
      trimRight_cons_trimRight]

/--
A text may be trimmed before its last line ends, if there is something to be seen in that line.
-/
theorem trimmedLines_trimRight (front : List Char) {back : List Char} (single : '\n' ∉ back)
    (visible : ∃ c ∈ back, isBlank c = false) (rest : List Char) :
    trimmedLines (trimRight (front ++ back) ++ '\n' :: rest) =
      trimmedLines (front ++ back ++ '\n' :: rest) := by
  have solid : trimRight back ≠ [] := by
    intro blank
    obtain ⟨c, held, seen⟩ := visible
    have unseen := trimRight_eq_nil_iff.1 blank c held
    rw [seen] at unseen
    cases unseen
  rw [trimRight_append, if_neg solid, List.append_assoc, List.append_assoc]
  apply trimmedLines_append_congr
  rw [trimmedLines_line single, trimmedLines_line (not_mem_trimRight single), trimRight_trimRight]

end VersionFloor.Text
