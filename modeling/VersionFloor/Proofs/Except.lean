import Mathlib.Data.List.Forall2

set_option autoImplicit false

namespace VersionFloor

variable {ε α β : Type} {first : Except ε α} {next : α → Except ε β} {result : β}

theorem exists_of_bind_eq_ok (done : first >>= next = .ok result) :
    ∃ value, first = .ok value ∧ next value = .ok result := by
  cases first with
  | error fault => cases done
  | ok value => exact ⟨value, rfl, done⟩

theorem bind_eq_ok_iff :
    first >>= next = .ok result ↔ ∃ value, first = .ok value ∧ next value = .ok result := by
  refine ⟨exists_of_bind_eq_ok, ?_⟩
  rintro ⟨value, rfl, done⟩
  exact done

theorem eq_ok_of_toOption {value : α} (found : Except.toOption first = some value) :
    first = .ok value := by
  cases first with
  | error fault => cases found
  | ok other => exact congrArg Except.ok (Option.some.inj found)

theorem pure_eq_ok_iff {value result : α} :
    (pure value : Except ε α) = .ok result ↔ result = value :=
  ⟨fun same => (Except.ok.inj same).symm, fun same => congrArg Except.ok same.symm⟩

section List

variable {step : α → Except ε β}

/-- What belongs to a value of the first list stands in the second. -/
theorem exists_mem_of_forall₂ {related : α → β → Prop} {values : List α} {results : List β}
    (all : List.Forall₂ related values results) {value : α} (listed : value ∈ values) :
    ∃ result ∈ results, related value result := by
  induction all with
  | nil => exact absurd listed List.not_mem_nil
  | @cons _ result _ _ first _ ih =>
    rcases List.mem_cons.1 listed with rfl | later
    · exact ⟨result, List.mem_cons_self, first⟩
    · obtain ⟨found, held, belongs⟩ := ih later
      exact ⟨found, List.mem_cons_of_mem result held, belongs⟩

theorem mapM_eq_ok_iff {values : List α} {results : List β} :
    values.mapM step = .ok results ↔
      List.Forall₂ (fun value result => step value = .ok result) values results := by
  induction values generalizing results with
  | nil =>
    rw [List.mapM_nil, pure_eq_ok_iff]
    exact List.forall₂_nil_left_iff.symm
  | cons value values ih =>
    rw [List.mapM_cons, List.forall₂_cons_left_iff]
    simp only [bind_eq_ok_iff, pure_eq_ok_iff, ih]
    constructor
    · rintro ⟨first, done, rest, all, rfl⟩
      exact ⟨first, rest, done, all, rfl⟩
    · rintro ⟨first, rest, done, all, rfl⟩
      exact ⟨first, done, rest, all, rfl⟩

/-- What the steps give, each of them from one of the values. -/
theorem mem_of_mapM_eq_ok {values : List α} {results : List β}
    (all : values.mapM step = .ok results) {result : β} :
    result ∈ results ↔ ∃ value ∈ values, step value = .ok result := by
  rw [mapM_eq_ok_iff] at all
  constructor
  · exact exists_mem_of_forall₂ all.flip
  · rintro ⟨value, listed, done⟩
    obtain ⟨other, held, same⟩ := exists_mem_of_forall₂ all listed
    cases done.symm.trans same
    exact held

theorem exists_of_mapM_eq_ok {values : List α} {results : List β}
    (all : values.mapM step = .ok results) {value : α} (listed : value ∈ values) :
    ∃ result, step value = .ok result := by
  obtain ⟨result, -, done⟩ := exists_mem_of_forall₂ (mapM_eq_ok_iff.1 all) listed
  exact ⟨result, done⟩

theorem exists_mapM_eq_ok {values : List α}
    (each : ∀ value ∈ values, ∃ result, step value = .ok result) :
    ∃ results, values.mapM step = .ok results := by
  induction values with
  | nil => exact ⟨[], rfl⟩
  | cons value values ih =>
    obtain ⟨here, later⟩ := List.forall_mem_cons.1 each
    obtain ⟨first, done⟩ := here
    obtain ⟨rest, all⟩ := ih later
    exact ⟨first :: rest, by rw [List.mapM_cons, done, all]; rfl⟩

/-- The first step that fails decides, whatever would come after it. -/
theorem mapM_eq_error {before after : List α} {value : α} {error : ε}
    (passed : ∀ earlier ∈ before, ∃ result, step earlier = .ok result)
    (failed : step value = .error error) :
    (before ++ value :: after).mapM step = .error error := by
  obtain ⟨results, all⟩ := exists_mapM_eq_ok passed
  rw [List.mapM_append, all, List.mapM_cons, failed]
  rfl

/-- Steps over a list that fail do so at one of its values. -/
theorem exists_of_foldlM_eq_error {values : List α} {step : β → α → Except ε β} {start : β}
    {error : ε} (failed : values.foldlM step start = .error error) :
    ∃ state, ∃ value ∈ values, step state value = .error error := by
  induction values generalizing start with
  | nil => cases failed
  | cons value values ih =>
    rw [List.foldlM_cons] at failed
    cases first : step start value with
    | error other =>
      rw [first] at failed
      cases failed
      exact ⟨start, value, List.mem_cons_self, first⟩
    | ok next =>
      rw [first] at failed
      obtain ⟨state, later, held, fails⟩ := ih failed
      exact ⟨state, later, List.mem_cons_of_mem value held, fails⟩

/-- Steps over a list fail where the first of them does that fails. -/
theorem mapM_eq_error_iff {values : List α} {error : ε} :
    values.mapM step = .error error ↔ ∃ before value after, values = before ++ value :: after ∧
      (∀ earlier ∈ before, ∃ result, step earlier = .ok result) ∧ step value = .error error := by
  constructor
  · intro failed
    induction values with
    | nil => cases failed
    | cons value values ih =>
      rw [List.mapM_cons] at failed
      cases first : step value with
      | error other =>
        rw [first] at failed
        cases failed
        exact ⟨[], value, values, rfl, List.forall_mem_nil _, first⟩
      | ok result =>
        cases rest : values.mapM step with
        | error other =>
          rw [first, rest] at failed
          cases failed
          obtain ⟨before, later, after, rfl, passed, fails⟩ := ih rest
          exact ⟨value :: before, later, after, rfl,
            List.forall_mem_cons.2 ⟨⟨result, first⟩, passed⟩, fails⟩
        | ok results =>
          rw [first, rest] at failed
          cases failed
  · rintro ⟨before, value, after, rfl, passed, failed⟩
    exact mapM_eq_error passed failed

theorem exists_of_mapM_eq_error {values : List α} {error : ε}
    (failed : values.mapM step = .error error) :
    ∃ value ∈ values, step value = .error error := by
  obtain ⟨before, value, after, rfl, -, fails⟩ := mapM_eq_error_iff.1 failed
  exact ⟨value, List.mem_append_cons_self, fails⟩

end List

section Check

variable {check : α → Except ε Unit} {refused : Prop} [Decidable refused] {error : ε}

theorem exists_unit_eq_ok_iff {step : Except ε Unit} :
    (∃ value, step = .ok value) ↔ step = .ok () :=
  ⟨fun ⟨_, passed⟩ => passed, fun passed => ⟨(), passed⟩⟩

theorem refuse_eq_ok_iff :
    (if refused then throw error else pure () : Except ε Unit) = .ok () ↔ ¬ refused := by
  by_cases stopped : refused
  · simp [stopped, throw, throwThe, MonadExceptOf.throw]
  · simp [stopped, pure, Except.pure]

/-- A check between steps: the rest is reached if it passes. -/
theorem refuse_then_eq_ok_iff {rest : Unit → Except ε β} :
    (if refused then throw error >>= rest else rest ()) = .ok result ↔
      ¬ refused ∧ rest () = .ok result := by
  by_cases stopped : refused
  · simp [stopped, throw, throwThe, MonadExceptOf.throw, bind, Except.bind]
  · simp [stopped]

theorem forM_option_eq_ok_iff {value : Option α} :
    value.forM check = .ok () ↔ ∀ given, value = some given → check given = .ok () := by
  cases value with
  | none => simp [Option.forM, pure, Except.pure]
  | some given => simp [Option.forM]

theorem forM_list_eq_ok_iff {values : List α} :
    values.forM check = .ok () ↔ ∀ value ∈ values, check value = .ok () := by
  induction values with
  | nil => simp [List.forM, pure, Except.pure]
  | cons value values ih =>
    have both : (value :: values).forM check = .ok () ↔
        check value = .ok () ∧ values.forM check = .ok () := by
      cases passed : check value <;> simp [List.forM, passed, bind, Except.bind]
    rw [both, ih, List.forall_mem_cons]

end Check

/-- The step fails in no way that is not allowed. -/
def FailsOnly (allowed : ε → Prop) (step : Except ε α) : Prop :=
  ∀ error, step = .error error → allowed error

namespace FailsOnly

variable {allowed : ε → Prop}

theorem of_ok (value : α) : FailsOnly allowed (.ok value) := by
  intro error failed
  cases failed

theorem of_error {error : ε} (legitimate : allowed error) :
    FailsOnly allowed (.error error : Except ε α) := by
  intro other failed
  cases failed
  exact legitimate

theorem bind (here : FailsOnly allowed first)
    (later : ∀ value, first = .ok value → FailsOnly allowed (next value)) :
    FailsOnly allowed (first >>= next) := by
  cases done : first with
  | ok value => exact later value done
  | error error => exact of_error (here error done)

theorem refuse {refused : Prop} [Decidable refused] {error : ε}
    (legitimate : refused → allowed error) :
    FailsOnly allowed (if refused then throw error else pure () : Except ε Unit) := by
  by_cases stopped : refused
  · rw [if_pos stopped]
    exact of_error (legitimate stopped)
  · rw [if_neg stopped]
    exact of_ok ()

theorem refuse_then {refused : Prop} [Decidable refused] {error : ε} {rest : Unit → Except ε β}
    (here : refused → allowed error) (later : FailsOnly allowed (rest ())) :
    FailsOnly allowed (if refused then throw error >>= rest else rest ()) := by
  by_cases stopped : refused
  · rw [if_pos stopped]
    exact of_error (here stopped)
  · rw [if_neg stopped]
    exact later

theorem forM_option {value : Option α} {check : α → Except ε Unit}
    (each : ∀ given, value = some given → FailsOnly allowed (check given)) :
    FailsOnly allowed (value.forM check) := by
  cases value with
  | none => exact of_ok ()
  | some given => exact each given rfl

theorem forM_list {values : List α} {check : α → Except ε Unit}
    (each : ∀ value ∈ values, FailsOnly allowed (check value)) :
    FailsOnly allowed (values.forM check) := by
  induction values with
  | nil => exact of_ok ()
  | cons value values ih =>
    have all := List.forall_mem_cons.1 each
    exact bind all.1 fun _ _ => ih all.2

end FailsOnly

end VersionFloor
