import VersionFloor.Glob.Expand

set_option autoImplicit false

namespace VersionFloor.Glob

/-- No character has a meaning of its own in patterns. -/
def Plain (text : List Char) : Prop :=
  ∀ c ∈ text, c ≠ '?' ∧ c ≠ '*' ∧ c ≠ '['

instance (text : List Char) : Decidable (Plain text) :=
  List.decidableBAll _ text

theorem Plain.of_subset {first second : List Char} (plain : Plain second)
    (within : first ⊆ second) : Plain first :=
  fun c held => plain c (within held)

def chars (text : List Char) : List Token :=
  text.map .char

theorem compileFrom_cons {c : Char} (plain : c ≠ '?' ∧ c ≠ '*' ∧ c ≠ '[') (position : Nat)
      (previous : Option Char) (tokens : List Token) (rest : List Char) :
    compileFrom position previous tokens (c :: rest) =
      compileFrom (position + 1) (some c) (.char c :: tokens) rest := by
  obtain ⟨notAny, notStar, notSet⟩ := plain
  rw [compileFrom] <;> intros <;> contradiction

/-- Plain characters are read one by one, whatever follows them. -/
theorem exists_compileFrom_append {text : List Char} (plain : Plain text) (position : Nat)
    (previous : Option Char) (tokens : List Token) (rest : List Char) :
    ∃ next last, compileFrom position previous tokens (text ++ rest) =
      compileFrom next last ((chars text).reverse ++ tokens) rest := by
  induction text generalizing position previous tokens with
  | nil => exact ⟨position, previous, rfl⟩
  | cons c text ih =>
    obtain ⟨here, later⟩ := List.forall_mem_cons.1 plain
    obtain ⟨next, last, read⟩ := ih later (position + 1) (some c) (.char c :: tokens)
    refine ⟨next, last, ?_⟩
    rw [List.cons_append, compileFrom_cons here, read, chars, chars, List.map_cons,
      List.reverse_cons, List.append_assoc, List.singleton_append]

theorem compileFrom_plain {text : List Char} (plain : Plain text) (position : Nat)
    (previous : Option Char) (tokens : List Token) :
    compileFrom position previous tokens text = .ok (tokens.reverse ++ chars text) := by
  obtain ⟨next, last, read⟩ := exists_compileFrom_append plain position previous tokens []
  rw [List.append_nil] at read
  rw [read, compileFrom, List.reverse_append, List.reverse_reverse]

theorem compile_plain {text : String} (plain : Plain text.toList) :
    compile text = .ok ⟨chars text.toList⟩ := by
  rw [compile, compileFrom_plain plain]
  rfl

/-- A star before a text. -/
def endingIn (suffix : List Char) : Glob :=
  ⟨.anySequence :: chars suffix⟩

/-- A pattern can be read that has one star, between plain texts. -/
theorem compile_star_between {pattern : String} {front suffix : List Char}
    (written : pattern.toList = front ++ '*' :: suffix) (plain : Plain front)
    (ending : Plain suffix) :
    compile pattern = .ok ⟨chars front ++ (endingIn suffix).tokens⟩ := by
  obtain ⟨next, last, read⟩ := exists_compileFrom_append plain 0 none [] ('*' :: suffix)
  have notStar : ∀ rest, suffix ≠ '*' :: rest := by
    rintro rest rfl
    exact (ending '*' List.mem_cons_self).2.1 rfl
  have star : compileFrom next last ((chars front).reverse ++ []) ('*' :: suffix) =
      compileFrom (next + 1) (some '*') (.anySequence :: ((chars front).reverse ++ [])) suffix := by
    rw [compileFrom]
    · exact fun rest => notStar ('*' :: rest)
    · exact notStar
  rw [compile, written, read, star, compileFrom_plain ending]
  simp [Except.map, endingIn]

theorem literal?_cons (c : Char) (tokens : List Token) :
    literal? ⟨.char c :: tokens⟩ = (literal? ⟨tokens⟩).map fun text =>
      String.ofList (c :: text.toList) := by
  simp only [literal?, List.mapM_cons, Option.bind_eq_bind, Option.pure_def, Option.map_eq_bind,
    Option.bind_assoc, Option.bind_some, Function.comp_apply, String.toList_ofList]

theorem literal?_chars (text : String) : literal? ⟨chars text.toList⟩ = some text := by
  have read : ∀ cs : List Char, literal? ⟨chars cs⟩ = some (String.ofList cs) := by
    intro cs
    induction cs with
    | nil => rfl
    | cons c cs ih =>
      rw [chars] at ih
      rw [chars, List.map_cons, literal?_cons, ih, Option.map_some, String.toList_ofList]
  rw [read, String.ofList_toList]

theorem literal?_endingIn (suffix : List Char) : literal? (endingIn suffix) = none := by
  rw [literal?, endingIn, List.mapM_cons]
  rfl

theorem outcome_chars_cons (d : Char) (text : List Char) (c : Char) (cs : List Char) :
    outcome (chars (d :: text)) (c :: cs) =
      if c = d then outcome (chars text) cs else .mismatch := by
  rw [chars, List.map_cons, outcome]
  · simp only [Token.accepts, decide_eq_true_eq]
    rfl
  · intro same
    cases same
  · intro same
    cases same

theorem outcome_chars_nil (d : Char) (text : List Char) :
    outcome (chars (d :: text)) [] = .exhausted := rfl

theorem outcome_chars_eq_matched_iff {text cs : List Char} :
    outcome (chars text) cs = .matched ↔ cs = text := by
  induction text generalizing cs with
  | nil => cases cs <;> simp [chars, outcome]
  | cons d text ih =>
    cases cs with
    | nil => simp [outcome_chars_nil]
    | cons c cs =>
      rw [outcome_chars_cons]
      by_cases same : c = d
      · rw [if_pos same, ih, List.cons.injEq]
        exact (and_iff_right same).symm
      · simp [same]

/-- A plain pattern matches its own text and nothing else. -/
theorem accepts_chars_iff {pattern text : String} :
    accepts ⟨chars pattern.toList⟩ text = true ↔ text = pattern := by
  rw [accepts, decide_eq_true_eq, outcome_chars_eq_matched_iff, String.toList_inj]

theorem length_lt_of_exhausted {text cs : List Char}
    (exhausted : outcome (chars text) cs = .exhausted) :
    cs.length < text.length := by
  induction text generalizing cs with
  | nil => cases cs <;> simp [chars, outcome] at exhausted
  | cons d text ih =>
    cases cs with
    | nil => simp
    | cons c cs =>
      rw [outcome_chars_cons] at exhausted
      split at exhausted
      · exact Nat.succ_lt_succ (ih exhausted)
      · cases exhausted

/-- A run that may stop anywhere is tried again from the next character on. -/
theorem skimAny_cons (rest : List Char → Outcome) (c : Char) (cs : List Char) :
    skimAny (fun _ => true) rest (c :: cs) =
      if rest (c :: cs) = .mismatch then skimAny (fun _ => true) rest cs else rest (c :: cs) := by
  rw [skimAny, skim, if_pos rfl]
  cases rest (c :: cs) <;> simp [skimAny]

theorem skimAny_chars_eq_matched_iff {suffix cs : List Char} :
    skimAny (fun _ => true) (outcome (chars suffix)) cs = .matched ↔ suffix <:+ cs := by
  induction cs with
  | nil =>
    have once : skimAny (fun _ => true) (outcome (chars suffix)) [] =
        outcome (chars suffix) [] := by
      rw [skimAny, skim]
      cases outcome (chars suffix) [] <;> rfl
    rw [once, outcome_chars_eq_matched_iff, List.suffix_nil]
    exact eq_comm
  | cons c cs ih =>
    rw [skimAny_cons, List.suffix_cons_iff]
    split
    · next missed =>
      have differs : suffix ≠ c :: cs := by
        intro same
        rw [outcome_chars_eq_matched_iff.2 same.symm] at missed
        cases missed
      rw [ih, or_iff_right differs]
    · next decided =>
      rw [outcome_chars_eq_matched_iff]
      refine ⟨fun same => Or.inl same.symm, fun ends => ends.elim Eq.symm fun later => ?_⟩
      -- A text that ended too early has no room for the suffix further on.
      cases found : outcome (chars suffix) (c :: cs) with
      | matched => exact outcome_chars_eq_matched_iff.1 found
      | mismatch => exact absurd found decided
      | exhausted =>
        have short := length_lt_of_exhausted found
        have room := later.length_le
        rw [List.length_cons] at short
        omega

theorem accepts_endingIn_iff {suffix : List Char} {text : String} :
    (endingIn suffix).accepts text = true ↔ suffix <:+ text.toList := by
  rw [accepts, decide_eq_true_eq, endingIn, outcome, skimAny_chars_eq_matched_iff]

end VersionFloor.Glob
