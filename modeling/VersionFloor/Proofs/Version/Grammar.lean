import Mathlib.Data.List.Induction
import VersionFloor.Error
import VersionFloor.Proofs.Except

set_option autoImplicit false

namespace VersionFloor

/-- Decimal digits, and the number that they denote. -/
inductive Numeral : List Char → Nat → Prop
  | digit {c : Char} {d : Nat} (small : d < 10) (shown : c.toNat = '0'.toNat + d) : Numeral [c] d
  | more {front : List Char} {n : Nat} {c : Char} {d : Nat} (denotes : Numeral front n)
      (small : d < 10) (shown : c.toNat = '0'.toNat + d) : Numeral (front ++ [c]) (10 * n + d)

theorem isDigit_iff {c : Char} : c.isDigit = true ↔ ∃ d < 10, c.toNat = '0'.toNat + d := by
  have zero : '0'.toNat = 48 := rfl
  have nine : '9'.toNat = 57 := rfl
  rw [Char.isDigit_iff_toNat, zero, nine]
  constructor
  · rintro ⟨lower, upper⟩
    exact ⟨c.toNat - 48, by omega, by omega⟩
  · rintro ⟨d, small, shown⟩
    omega

theorem ofDigitChars_append_digit (front : List Char) {c : Char} {d : Nat}
    (shown : c.toNat = '0'.toNat + d) :
    Nat.ofDigitChars 10 (front ++ [c]) 0 = 10 * Nat.ofDigitChars 10 front 0 + d := by
  rw [Nat.ofDigitChars_append, Nat.ofDigitChars_cons, Nat.ofDigitChars_nil, shown,
    Nat.add_sub_cancel_left]

/-- Digits denote the number that is read from them. -/
theorem numeral_iff {part : List Char} {n : Nat} :
    Numeral part n ↔
      part ≠ [] ∧ (∀ c ∈ part, c.isDigit = true) ∧ Nat.ofDigitChars 10 part 0 = n := by
  constructor
  · intro denotes
    induction denotes with
    | @digit c d small shown =>
      refine ⟨List.cons_ne_nil c [], ?_, ?_⟩
      · exact List.forall_mem_singleton.2 (isDigit_iff.2 ⟨d, small, shown⟩)
      · simpa using ofDigitChars_append_digit [] shown
    | @more front n c d _ small shown ih =>
      obtain ⟨_, digits, value⟩ := ih
      refine ⟨List.append_ne_nil_of_right_ne_nil front (List.cons_ne_nil c []), ?_, ?_⟩
      · rw [List.forall_mem_append, List.forall_mem_singleton]
        exact ⟨digits, isDigit_iff.2 ⟨d, small, shown⟩⟩
      · rw [ofDigitChars_append_digit front shown, value]
  · -- Numerals grow at their end, so the induction takes the last digit off.
    rintro ⟨solid, digits, value⟩
    induction part using List.reverseRecOn generalizing n with
    | nil => exact absurd rfl solid
    | append_singleton front c ih =>
      rw [List.forall_mem_append, List.forall_mem_singleton] at digits
      obtain ⟨d, small, shown⟩ := isDigit_iff.1 digits.2
      rw [ofDigitChars_append_digit front shown] at value
      subst value
      by_cases alone : front = []
      · subst alone
        simpa using Numeral.digit small shown
      · exact Numeral.more (ih alone digits.1 rfl) small shown

/-- What is not made of digits denotes nothing. -/
theorem not_numeral_iff {part : List Char} :
    (part.isEmpty || !part.all Char.isDigit) = true ↔ ∀ n, ¬ Numeral part n := by
  rw [Bool.or_eq_true, List.isEmpty_iff, Bool.not_eq_true', ← Bool.not_eq_true, List.all_eq_true]
  constructor
  · intro foreign n denotes
    obtain ⟨solid, digits, -⟩ := numeral_iff.1 denotes
    exact foreign.elim solid fun other => other digits
  · intro foreign
    by_contra numeric
    rw [not_or, not_not] at numeric
    exact foreign _ (numeral_iff.2 ⟨numeric.1, numeric.2, rfl⟩)

theorem Numeral.unique {part : List Char} {m n : Nat} (one : Numeral part m)
    (other : Numeral part n) : m = n :=
  (numeral_iff.1 one).2.2.symm.trans (numeral_iff.1 other).2.2

namespace Error

theorem versionOf_eq_ok_iff {text : String} {version : Version} :
    versionOf text = .ok version ↔ Version.parse text = .ok version := by
  unfold versionOf
  cases Version.parse text with
  | ok version => simp only [Except.ok.injEq]
  | error fault => simp only [reduceCtorEq]

/-- The error carries the text and says what is wrong with it. -/
theorem versionOf_eq_error_iff {text : String} {error : Error} :
    versionOf text = .error error ↔
      ∃ fault, Version.parse text = .error fault ∧ error = invalidVersion text fault.message := by
  unfold versionOf
  cases Version.parse text with
  | ok version => simp only [reduceCtorEq, false_and, exists_false]
  | error fault => simp only [Except.error.injEq, exists_eq_left', eq_comm]

end Error

namespace Version

/-- A part that denotes a number of 32 bits. -/
def IsComponent (part : List Char) : Prop :=
  ∃ n < UInt32.size, Numeral part n

/--
What is wrong with a part by itself; a minus sign is told apart from other foreign characters.
-/
inductive BadPart (part : List Char) : Fault → Prop
  | negative (signed : part.head? = some '-') : BadPart part .negative
  | nonNumeric (unsigned : part.head? ≠ some '-') (foreign : ∀ n, ¬ Numeral part n) :
      BadPart part .nonNumeric
  | tooLarge {n : Nat} (denotes : Numeral part n) (large : UInt32.size ≤ n) : BadPart part .tooLarge

/-- A numeral is read as what it denotes, if that has 32 bits. -/
theorem component_of_numeral {part : List Char} {n : Nat} (denotes : Numeral part n) :
    component part = if n < UInt32.size then .ok (UInt32.ofNat n) else .error .tooLarge := by
  obtain ⟨-, digits, value⟩ := numeral_iff.1 denotes
  have unsigned : part.head? ≠ some '-' := by
    intro signed
    exact absurd (digits '-' (List.mem_of_mem_head? signed)) (by decide)
  have numeric : ¬ (part.isEmpty || !part.all Char.isDigit) = true := by
    intro foreign
    exact not_numeral_iff.1 foreign n denotes
  rw [component, if_neg unsigned, if_neg numeric, value]

theorem component_of_bad {part : List Char} {fault : Fault} (bad : BadPart part fault) :
    component part = .error fault := by
  cases bad with
  | negative signed => rw [component, if_pos signed]
  | nonNumeric unsigned foreign =>
    rw [component, if_neg unsigned, if_pos (not_numeral_iff.2 foreign)]
  | tooLarge denotes large => rw [component_of_numeral denotes, if_neg (Nat.not_lt.2 large)]

/-- A part denotes a component or there is something wrong with it. -/
theorem isComponent_or_bad (part : List Char) : IsComponent part ∨ ∃ fault, BadPart part fault := by
  by_cases numeric : ∃ n, Numeral part n
  · obtain ⟨n, denotes⟩ := numeric
    by_cases small : n < UInt32.size
    · exact Or.inl ⟨n, small, denotes⟩
    · exact Or.inr ⟨.tooLarge, .tooLarge denotes (Nat.le_of_not_lt small)⟩
  · refine Or.inr ?_
    by_cases signed : part.head? = some '-'
    · exact ⟨.negative, .negative signed⟩
    · exact ⟨.nonNumeric, .nonNumeric signed (not_exists.1 numeric)⟩

theorem component_eq_ok_iff {part : List Char} {c : UInt32} :
    component part = .ok c ↔ Numeral part c.toNat := by
  constructor
  · intro read
    rcases isComponent_or_bad part with ⟨n, small, denotes⟩ | ⟨fault, bad⟩
    · rw [component_of_numeral denotes, if_pos small] at read
      cases read
      rwa [UInt32.toNat_ofNat_of_lt' small]
    · cases (component_of_bad bad).symm.trans read
  · intro denotes
    rw [component_of_numeral denotes, if_pos c.toNat_lt_size, UInt32.ofNat_toNat]

theorem component_eq_error_iff {part : List Char} {fault : Fault} :
    component part = .error fault ↔ BadPart part fault := by
  refine ⟨fun refused => ?_, component_of_bad⟩
  rcases isComponent_or_bad part with ⟨n, small, denotes⟩ | ⟨other, bad⟩
  · rw [component_of_numeral denotes, if_pos small] at refused
    cases refused
  · cases (component_of_bad bad).symm.trans refused
    exact bad

theorem isComponent_iff {part : List Char} : IsComponent part ↔ ∃ c, component part = .ok c := by
  constructor
  · rintro ⟨n, small, denotes⟩
    exact ⟨UInt32.ofNat n, by rw [component_of_numeral denotes, if_pos small]⟩
  · rintro ⟨c, read⟩
    exact ⟨c.toNat, c.toNat_lt_size, component_eq_ok_iff.1 read⟩

theorem mapM_component_eq_ok_iff {parts : List (List Char)} {cs : List UInt32} :
    parts.mapM component = .ok cs ↔
      List.Forall₂ (fun part c => Numeral part (UInt32.toNat c)) parts cs := by
  simp only [mapM_eq_ok_iff, component_eq_ok_iff]

/-- The parts of a text between its dots. -/
structure Split (text : List Char) (parts : List (List Char)) : Prop where
  joined : List.intercalate ['.'] parts = text
  dotless : ∀ part ∈ parts, '.' ∉ part
  solid : parts ≠ []

theorem dotless_of_mem_splitOn {text part : List Char} (listed : part ∈ text.splitOn '.') :
    '.' ∉ part := by
  induction text generalizing part with
  | nil =>
    rw [List.splitOn_nil, List.mem_singleton] at listed
    rw [listed]
    exact List.not_mem_nil
  | cons c rest ih =>
    rw [List.splitOn_cons_eq_if_modifyHead] at listed
    split at listed
    · rcases List.mem_cons.1 listed with rfl | later
      · exact List.not_mem_nil
      · exact ih later
    · next solid =>
      obtain ⟨first, found, divided⟩ := List.exists_cons_of_ne_nil (List.splitOn_ne_nil '.' rest)
      rw [divided] at ih listed
      rcases List.mem_cons.1 listed with rfl | later
      · have notDot : '.' ≠ c := fun same => solid (beq_iff_eq.2 same.symm)
        exact List.not_mem_cons_of_ne_of_not_mem notDot (ih List.mem_cons_self)
      · exact ih (List.mem_cons_of_mem first later)

/-- There is one way to cut a text at its dots. -/
theorem split_iff {text : List Char} {parts : List (List Char)} :
    Split text parts ↔ parts = text.splitOn '.' := by
  constructor
  · rintro ⟨rfl, dotless, solid⟩
    exact (List.splitOn_intercalate '.' dotless solid).symm
  · rintro rfl
    exact ⟨List.intercalate_splitOn '.', fun _ => dotless_of_mem_splitOn,
      List.splitOn_ne_nil '.' text⟩

/-- Two or three numerals of 32 bits, of which the first denotes the major version. -/
structure Accepted (parts : List (List Char)) : Prop where
  arity : parts.length = 2 ∨ parts.length = 3
  numeric : ∀ part ∈ parts, IsComponent part
  major : ∃ first ∈ parts.head?, Numeral first 3

/-- The first thing that is wrong with the parts of a text. -/
inductive Refused (parts : List (List Char)) : Fault → Prop
  | arity (wrong : ¬ (parts.length = 2 ∨ parts.length = 3)) : Refused parts .arity
  | part {before after : List (List Char)} {part : List Char} {fault : Fault}
      (arity : parts.length = 2 ∨ parts.length = 3) (divided : parts = before ++ part :: after)
      (passed : ∀ earlier ∈ before, IsComponent earlier) (bad : BadPart part fault) :
        Refused parts fault
  | foreignMajor (arity : parts.length = 2 ∨ parts.length = 3)
      (numeric : ∀ part ∈ parts, IsComponent part)
      (foreign : ∀ first ∈ parts.head?, ¬ Numeral first 3) : Refused parts .foreignMajor

variable {text : String} {parts : List (List Char)}

theorem parse_of_arity (split : Split text.toList parts)
    (wrong : ¬ (parts.length = 2 ∨ parts.length = 3)) :
    parse text = .error .arity := by
  obtain rfl := split_iff.1 split
  rw [parse, if_neg wrong]

theorem parse_of_bad (split : Split text.toList parts) (arity : parts.length = 2 ∨ parts.length = 3)
    {fault : Fault} (failed : parts.mapM component = .error fault) : parse text = .error fault := by
  obtain rfl := split_iff.1 split
  rw [parse, if_pos arity, failed]
  rfl

/-- Two or three numerals are a version if the first denotes the major version. -/
theorem parse_of_numeric (split : Split text.toList parts)
    (arity : parts.length = 2 ∨ parts.length = 3) {first minor : UInt32} {rest : List UInt32}
    (all : parts.mapM component = .ok (first :: minor :: rest)) :
    parse text = if first = Version.major then .ok ⟨minor,
      rest.head?⟩ else .error .foreignMajor := by
  obtain rfl := split_iff.1 split
  rw [parse, if_pos arity, all]
  rfl

theorem exists_components (arity : parts.length = 2 ∨ parts.length = 3) {cs : List UInt32}
    (all : parts.mapM component = .ok cs) :
    ∃ first minor micro, cs = first :: minor :: Option.toList micro := by
  rw [(mapM_eq_ok_iff.1 all).length_eq] at arity
  rcases arity with two | three
  · obtain ⟨first, minor, rfl⟩ := List.length_eq_two.1 two
    exact ⟨first, minor, none, rfl⟩
  · obtain ⟨first, minor, micro, rfl⟩ := List.length_eq_three.1 three
    exact ⟨first, minor, some micro, rfl⟩

theorem length_components (v : Version) : v.components.length = 2 ∨ v.components.length = 3 := by
  obtain ⟨minor, _ | micro⟩ := v
  · exact Or.inl rfl
  · exact Or.inr rfl

/-- The numerals that denote the components of a version are read as the version. -/
theorem parse_eq_ok_iff (split : Split text.toList parts) {v : Version} :
    parse text = .ok v ↔
      List.Forall₂ (fun part c => Numeral part (UInt32.toNat c)) parts v.components := by
  rw [← mapM_component_eq_ok_iff]
  constructor
  · intro read
    by_cases arity : parts.length = 2 ∨ parts.length = 3
    · cases all : parts.mapM component with
      | error fault => cases (parse_of_bad split arity all).symm.trans read
      | ok cs =>
        obtain ⟨first, minor, micro, rfl⟩ := exists_components arity all
        rw [parse_of_numeric split arity all] at read
        split at read
        · next same =>
          cases read
          rw [same, Option.head?_toList]
          rfl
        · cases read
    · cases (parse_of_arity split arity).symm.trans read
  · intro all
    have arity : parts.length = 2 ∨ parts.length = 3 := by
      rw [(mapM_eq_ok_iff.1 all).length_eq]
      exact length_components v
    rw [parse_of_numeric split arity all, if_pos rfl, Option.head?_toList]

/-- The first numeral denotes the major version if it is read as it. -/
theorem head_denotes_major_iff {first : UInt32} {rest : List UInt32}
    (all : parts.mapM component = .ok (first :: rest)) :
    (∃ part ∈ parts.head?, Numeral part 3) ↔ first = Version.major := by
  obtain ⟨part, others, read, -, rfl⟩ := List.forall₂_cons_right_iff.1 (mapM_eq_ok_iff.1 all)
  rw [List.head?_cons]
  have denotes : Numeral part first.toNat := component_eq_ok_iff.1 read
  constructor
  · rintro ⟨leading, leads, three⟩
    obtain rfl := Option.some.inj leads
    exact UInt32.toNat_inj.1 (denotes.unique three)
  · rintro rfl
    exact ⟨part, rfl, denotes⟩

theorem numeric_of_mapM {cs : List UInt32} (all : parts.mapM component = .ok cs) :
    ∀ part ∈ parts, IsComponent part :=
  fun _ listed => isComponent_iff.2 (exists_of_mapM_eq_ok all listed)

/-- Parts that are not accepted are refused for one reason, and this is the reason that is given. -/
theorem parse_eq_error_iff (split : Split text.toList parts) {fault : Fault} :
    parse text = .error fault ↔ Refused parts fault := by
  constructor
  · intro failed
    by_cases arity : parts.length = 2 ∨ parts.length = 3
    · cases all : parts.mapM component with
      | error reason =>
        -- The first part that is refused decides, before the major version is looked at.
        cases (parse_of_bad split arity all).symm.trans failed
        obtain ⟨before, part, after, divided, passed, refused⟩ := mapM_eq_error_iff.1 all
        exact .part arity divided (fun earlier listed => isComponent_iff.2 (passed earlier listed))
          (component_eq_error_iff.1 refused)
      | ok cs =>
        obtain ⟨first, minor, micro, rfl⟩ := exists_components arity all
        rw [parse_of_numeric split arity all] at failed
        split at failed
        · cases failed
        · next differs =>
          cases failed
          refine .foreignMajor arity (numeric_of_mapM all) fun part leads three => differs ?_
          exact (head_denotes_major_iff all).1 ⟨part, leads, three⟩
    · cases (parse_of_arity split arity).symm.trans failed
      exact .arity arity
  · intro refused
    cases refused with
    | arity wrong => exact parse_of_arity split wrong
    | @part before after part _ arity divided passed bad =>
      apply parse_of_bad split arity
      rw [mapM_eq_error_iff]
      exact ⟨before, part, after, divided,
        fun earlier listed => isComponent_iff.1 (passed earlier listed), component_of_bad bad⟩
    | foreignMajor arity numeric foreign =>
      obtain ⟨cs, all⟩ := exists_mapM_eq_ok fun part listed =>
        isComponent_iff.1 (numeric part listed)
      obtain ⟨first, minor, micro, rfl⟩ := exists_components arity all
      rw [parse_of_numeric split arity all, if_neg]
      intro same
      obtain ⟨part, leads, three⟩ := (head_denotes_major_iff all).2 same
      exact foreign part leads three

theorem exists_parse_eq_ok_iff (split : Split text.toList parts) :
    (∃ v, parse text = .ok v) ↔ Accepted parts := by
  constructor
  · rintro ⟨v, read⟩
    have denoted := (parse_eq_ok_iff split).1 read
    have all : parts.mapM component = .ok v.components := mapM_component_eq_ok_iff.2 denoted
    exact ⟨denoted.length_eq ▸ length_components v, numeric_of_mapM all,
      (head_denotes_major_iff all).2 rfl⟩
  · rintro ⟨arity, numeric, leads⟩
    obtain ⟨cs, all⟩ := exists_mapM_eq_ok fun part listed => isComponent_iff.1 (numeric part listed)
    obtain ⟨first, minor, micro, rfl⟩ := exists_components arity all
    rw [parse_of_numeric split arity all, if_pos ((head_denotes_major_iff all).1 leads)]
    exact ⟨_, rfl⟩

/--
A text is a version exactly if it has two or three parts between its dots, all of them numerals of
32 bits and the first one a 3; the parts denote the components. Any other text is refused with the
first thing that is wrong with it.
-/
theorem versions_follow_grammar (text : String) :
    ∃ parts, (∀ cut, Split text.toList cut ↔ cut = parts) ∧
      ((∃ v, Error.versionOf text = .ok v) ↔ Accepted parts) ∧
      (∀ v, Error.versionOf text = .ok v ↔
        List.Forall₂ Numeral parts (v.components.map UInt32.toNat)) ∧
      ∀ error, Error.versionOf text = .error error ↔
        ∃ fault, Refused parts fault ∧ error = .invalidVersion text fault.message := by
  have split : Split text.toList (text.toList.splitOn '.') := split_iff.2 rfl
  refine ⟨text.toList.splitOn '.', fun cut => split_iff, ?_, fun v => ?_, fun error => ?_⟩
  · simp only [Error.versionOf_eq_ok_iff, exists_parse_eq_ok_iff split]
  · rw [Error.versionOf_eq_ok_iff, parse_eq_ok_iff split, List.forall₂_map_right_iff]
  · simp only [Error.versionOf_eq_error_iff, parse_eq_error_iff split]

example : parse "2.4294967296.-1" = .error .tooLarge := by decide +kernel

end Version

end VersionFloor
