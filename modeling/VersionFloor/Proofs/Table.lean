import Mathlib.Data.List.Nodup
import VersionFloor.Table

set_option autoImplicit false

namespace VersionFloor.Table

universe u

variable {α : Type u}

theorem mem_names_of_mem {t : Table α} {name : String} {value : α}
    (held : (name, value) ∈ t.entries) : name ∈ t.names :=
  List.mem_map.2 ⟨(name, value), held, rfl⟩

theorem exists_mem_of_mem_names {t : Table α} {name : String} (known : name ∈ t.names) :
    ∃ value, (name, value) ∈ t.entries := by
  obtain ⟨⟨name, value⟩, held, rfl⟩ := List.mem_map.1 known
  exact ⟨value, held⟩

/-- Distinct names leave room for one value under each. -/
theorem eq_of_mem {t : Table α} {name : String} {first second : α}
    (left : (name, first) ∈ t.entries) (right : (name, second) ∈ t.entries) : first = second := by
  have same : (name, first) = (name, second) :=
    List.inj_on_of_nodup_map t.nodup left right rfl
  exact (Prod.mk.inj same).2

theorem get?_eq_some_iff {t : Table α} {name : String} {value : α} :
    t.get? name = some value ↔ (name, value) ∈ t.entries := by
  simp only [get?, Option.map_eq_some_iff]
  constructor
  · rintro ⟨⟨found, _⟩, hit, rfl⟩
    have named : found = name := by simpa using List.find?_some hit
    exact named ▸ List.mem_of_find?_eq_some hit
  · intro held
    cases hit : t.entries.find? (·.1 = name) with
    | none =>
      have differs := List.find?_eq_none.1 hit (name, value) held
      simp at differs
    | some entry =>
      obtain ⟨found, other⟩ := entry
      have named : found = name := by simpa using List.find?_some hit
      subst named
      exact ⟨(found, other), rfl, eq_of_mem (List.mem_of_find?_eq_some hit) held⟩

theorem contains_iff_get? (t : Table α) (name : String) :
    t.contains name = true ↔ ∃ value, t.get? name = some value := by
  rw [contains_iff]
  constructor
  · intro known
    obtain ⟨value, held⟩ := exists_mem_of_mem_names known
    exact ⟨value, get?_eq_some_iff.2 held⟩
  · rintro ⟨value, found⟩
    exact mem_names_of_mem (get?_eq_some_iff.1 found)

theorem get?_eq_none {t : Table α} {name : String} (new : name ∉ t.names) : t.get? name = none := by
  cases found : t.get? name with
  | none => rfl
  | some value => exact absurd (mem_names_of_mem (get?_eq_some_iff.1 found)) new

/-- The names with a value in the table, each with the value. -/
def found (t : Table α) (names : List String) : List (String × α) :=
  names.filterMap fun name => (t.get? name).map fun value => (name, value)

theorem map_fst_found (t : Table α) (names : List String) :
    (t.found names).map (·.1) = names.filter t.contains := by
  induction names with
  | nil => rfl
  | cons name rest ih =>
    rw [found] at ih ⊢
    rw [List.filterMap_cons, List.filter_cons]
    cases held : t.get? name with
    | none =>
      have absent : ¬ t.contains name = true := by simp [contains_iff_get?, held]
      rw [if_neg absent]
      exact ih
    | some value =>
      have present : t.contains name = true := (contains_iff_get? t name).2 ⟨value, held⟩
      rw [if_pos present, ← ih]
      rfl

theorem mem_found {t : Table α} {names : List String} {name : String} {value : α} :
    (name, value) ∈ t.found names ↔ name ∈ names ∧ t.get? name = some value := by
  simp only [found, List.mem_filterMap, Option.map_eq_some_iff, Prod.mk.injEq]
  constructor
  · rintro ⟨_, listed, _, held, rfl, rfl⟩
    exact ⟨listed, held⟩
  · rintro ⟨listed, held⟩
    exact ⟨name, listed, value, held, rfl, rfl⟩

theorem entries_insert_of_new {t : Table α} {name : String} (new : name ∉ t.names) (value : α) :
    (t.insert name value).entries = t.entries ++ [(name, value)] := by
  have absent : ¬ t.contains name = true := fun present => new ((contains_iff t name).1 present)
  simp only [insert, absent, Bool.false_eq_true, ↓reduceDIte]

theorem names_insert_of_new {t : Table α} {name : String} (new : name ∉ t.names) (value : α) :
    (t.insert name value).names = t.names ++ [name] := by
  simp only [names, entries_insert_of_new new, List.map_append, List.map_cons, List.map_nil]

theorem names_insert_of_taken {t : Table α} {name : String} (taken : name ∈ t.names) (value : α) :
    (t.insert name value).names = t.names := by
  have present : t.contains name = true := (contains_iff t name).2 taken
  simp only [names, insert, present, ↓reduceDIte, map_fst_replaced]

theorem mem_names_insert {t : Table α} {name other : String} {value : α} :
    other ∈ (t.insert name value).names ↔ other ∈ t.names ∨ other = name := by
  by_cases taken : name ∈ t.names
  · rw [names_insert_of_taken taken]
    exact ⟨Or.inl, fun known => known.elim id fun same => same ▸ taken⟩
  · rw [names_insert_of_new taken, List.mem_append, List.mem_singleton]

theorem mem_replaced_iff {entries : List (String × α)} {name other : String} {value found : α}
    (known : name ∈ entries.map (·.1)) :
    (other, found) ∈ replaced name value entries ↔
      if other = name then found = value else (other, found) ∈ entries := by
  simp only [replaced, List.mem_map]
  constructor
  · rintro ⟨⟨key, old⟩, held, equal⟩
    dsimp only at equal
    by_cases same : key = name
    · rw [if_pos same] at equal
      obtain ⟨rfl, rfl⟩ := Prod.mk.inj equal
      rw [if_pos rfl]
    · rw [if_neg same] at equal
      obtain ⟨rfl, rfl⟩ := Prod.mk.inj equal
      rwa [if_neg same]
  · intro wanted
    by_cases same : other = name
    · rw [if_pos same] at wanted
      obtain ⟨entry, held, named⟩ := List.mem_map.1 known
      exact ⟨entry, held, by rw [if_pos named, same, wanted]⟩
    · rw [if_neg same] at wanted
      exact ⟨(other, found), wanted, if_neg same⟩

theorem get?_insert (t : Table α) (name other : String) (value : α) :
    (t.insert name value).get? other = if other = name then some value else t.get? other := by
  apply Option.ext
  intro found
  rw [get?_eq_some_iff]
  by_cases known : name ∈ t.names
  · have present : t.contains name = true := (contains_iff t name).2 known
    have entries : (t.insert name value).entries = replaced name value t.entries := by
      simp only [insert, present, ↓reduceDIte]
    rw [entries, mem_replaced_iff known]
    by_cases same : other = name
    · simp only [same, ↓reduceIte, Option.some.injEq, eq_comm]
    · simp only [same, ↓reduceIte, get?_eq_some_iff]
  · rw [entries_insert_of_new known, List.mem_append, List.mem_singleton, Prod.mk.injEq]
    by_cases same : other = name
    · subst same
      have absent : (other, found) ∉ t.entries := fun held => known (mem_names_of_mem held)
      simp only [absent, true_and, false_or, ↓reduceIte, Option.some.injEq, eq_comm]
    · simp only [same, false_and, or_false, ↓reduceIte, get?_eq_some_iff]

theorem mem_insert {t : Table α} {name : String} {value : α} {entry : String × α}
    (held : entry ∈ (t.insert name value).entries) : entry ∈ t.entries ∨ entry = (name, value) := by
  obtain ⟨other, found⟩ := entry
  have found_eq := get?_eq_some_iff.2 held
  rw [get?_insert] at found_eq
  by_cases same : other = name
  · rw [if_pos same] at found_eq
    exact Or.inr (Prod.ext same (Option.some.inj found_eq).symm)
  · rw [if_neg same] at found_eq
    exact Or.inl (get?_eq_some_iff.1 found_eq)

theorem eq_of_entries {t u : Table α} (entries : t.entries = u.entries) : t = u := by
  obtain ⟨_, _⟩ := t
  obtain ⟨_, _⟩ := u
  cases entries
  rfl

/-- Tables in which the same is found under every name hold the same entries, in whatever order. -/
theorem perm_of_get? {t u : Table α} (values : ∀ name, t.get? name = u.get? name) :
    t.entries.Perm u.entries := by
  rw [List.perm_ext_iff_of_nodup (List.Nodup.of_map _ t.nodup) (List.Nodup.of_map _ u.nodup)]
  rintro ⟨name, value⟩
  rw [← get?_eq_some_iff, ← get?_eq_some_iff, values]

/-- A table is known by its names in their order and by what is found under each. -/
theorem eq_of_names_of_get? {t u : Table α} (names : t.names = u.names)
    (values : ∀ name, t.get? name = u.get? name) : t = u := by
  have listed : ∀ t : Table α, t.names.map (fun name => (name, t.get? name)) =
      t.entries.map fun entry => (entry.1, some entry.2) := by
    intro t
    rw [Table.names, List.map_map]
    apply List.map_congr_left
    rintro ⟨name, value⟩ held
    rw [Function.comp_apply, get?_eq_some_iff.2 held]
  have injective : Function.Injective fun entry : String × α => (entry.1, some entry.2) := by
    rintro ⟨name, value⟩ ⟨_, _⟩ same
    cases same
    rfl
  apply eq_of_entries
  apply List.map_injective_iff.2 injective
  rw [← listed t, ← listed u, names]
  simp only [values]

/-- Puts pairs in one after the other; a name keeps its first place and gets its last value. -/
def insertAll (t : Table α) (pairs : List (String × α)) : Table α :=
  pairs.foldl (fun t pair => t.insert pair.1 pair.2) t

@[simp] theorem insertAll_nil (t : Table α) : t.insertAll [] = t := rfl

@[simp] theorem insertAll_cons (t : Table α) (pair : String × α) (rest : List (String × α)) :
    t.insertAll (pair :: rest) = (t.insert pair.1 pair.2).insertAll rest := rfl

theorem insertAll_append (t : Table α) (first second : List (String × α)) :
    t.insertAll (first ++ second) = (t.insertAll first).insertAll second :=
  List.foldl_append

theorem get?_insertAll (t : Table α) (pairs : List (String × α)) (name : String) :
    (t.insertAll pairs).get? name = (pairs.reverse.lookup name).or (t.get? name) := by
  induction pairs generalizing t with
  | nil => rfl
  | cons pair rest ih =>
    obtain ⟨key, value⟩ := pair
    rw [insertAll_cons, ih, get?_insert, List.reverse_cons, List.lookup_append, Option.or_assoc,
      List.lookup_cons, List.lookup_nil]
    by_cases same : name = key
    · simp only [same, beq_self_eq_true, ↓reduceIte, Option.some_or]
    · simp only [same, beq_false_of_ne same, ↓reduceIte, Option.none_or]

theorem mem_names_insertAll {t : Table α} {pairs : List (String × α)} {name : String} :
    name ∈ (t.insertAll pairs).names ↔ name ∈ t.names ∨ name ∈ pairs.map (·.1) := by
  induction pairs generalizing t with
  | nil => simp
  | cons pair rest ih =>
    rw [insertAll_cons, ih, mem_names_insert, List.map_cons, List.mem_cons, or_assoc]

theorem names_insertAll_of_taken {t : Table α} {pairs : List (String × α)}
    (taken : ∀ pair ∈ pairs, pair.1 ∈ t.names) : (t.insertAll pairs).names = t.names := by
  induction pairs generalizing t with
  | nil => rfl
  | cons pair rest ih =>
    obtain ⟨here, later⟩ := List.forall_mem_cons.1 taken
    have same := names_insert_of_taken here pair.2
    rw [insertAll_cons, ih, same]
    intro other held
    rw [same]
    exact later other held

/-- Pairs that were put in already change nothing when they are put in again. -/
theorem insertAll_insertAll (t : Table α) (pairs : List (String × α)) :
    (t.insertAll pairs).insertAll pairs = t.insertAll pairs := by
  apply eq_of_names_of_get?
  · apply names_insertAll_of_taken
    intro pair held
    exact mem_names_insertAll.2 (Or.inr (List.mem_map_of_mem held))
  · intro name
    rw [get?_insertAll, get?_insertAll, ← Option.or_assoc, Option.or_self]

/-- Nothing is in a table that was not put in. -/
theorem mem_insertAll {t : Table α} {pairs : List (String × α)} {entry : String × α}
    (held : entry ∈ (t.insertAll pairs).entries) : entry ∈ t.entries ∨ entry ∈ pairs := by
  induction pairs generalizing t with
  | nil => exact Or.inl held
  | cons pair rest ih =>
    rcases ih held with before | later
    · exact (mem_insert before).imp_right fun same => List.mem_cons.2 (Or.inl same)
    · exact Or.inr (List.mem_cons_of_mem pair later)

/-- The first of several pairs under new names is put at the end. -/
theorem entries_insert_append {t : Table α} {pair : String × α} {rest : List (String × α)}
    (new : ((t.entries ++ pair :: rest).map (·.1)).Nodup) :
    pair.1 ∉ t.names ∧ (t.insert pair.1 pair.2).entries ++ rest = t.entries ++ pair :: rest := by
  have absent : pair.1 ∉ t.names := by
    rw [List.map_append, List.map_cons] at new
    exact fun taken => (List.nodup_append.1 new).2.2 pair.1 taken pair.1 List.mem_cons_self rfl
  exact ⟨absent, by rw [entries_insert_of_new absent, List.append_assoc, List.singleton_append]⟩

/-- Pairs under new names stand in the order in which they were put in. -/
theorem entries_insertAll_of_new {t : Table α} {pairs : List (String × α)}
    (new : ((t.entries ++ pairs).map (·.1)).Nodup) :
    (t.insertAll pairs).entries = t.entries ++ pairs := by
  induction pairs generalizing t with
  | nil => exact (List.append_nil _).symm
  | cons pair rest ih =>
    obtain ⟨-, entries⟩ := entries_insert_append new
    rw [insertAll_cons, ih (entries ▸ new), entries]

/-- A table is the table of its entries. -/
theorem ofList_entries (t : Table α) : ofList t.entries = t :=
  eq_of_entries (entries_insertAll_of_new t.nodup)

theorem mem_ofList {pairs : List (String × α)} {entry : String × α}
    (held : entry ∈ (ofList pairs).entries) :
    entry ∈ pairs :=
  (mem_insertAll held).resolve_left List.not_mem_nil

theorem get?_ofList (pairs : List (String × α)) (name : String) :
    (ofList pairs).get? name = pairs.reverse.lookup name :=
  (get?_insertAll empty pairs name).trans Option.or_none

/-- The last value under a name: none of the pairs behind it has the name. -/
theorem lookup_reverse_eq_some_iff {pairs : List (String × α)} {name : String} {value : α} :
    pairs.reverse.lookup name = some value ↔
      ∃ before after, pairs = before ++ (name, value) :: after ∧
        ∀ later ∈ after, later.1 ≠ name := by
  rw [List.lookup_eq_some_iff]
  constructor
  · rintro ⟨after, before, divided, apart⟩
    refine ⟨before.reverse, after.reverse, ?_, fun later listed => ?_⟩
    · rw [← List.reverse_reverse pairs, divided]
      simp
    · exact (bne_iff_ne.1 (apart later (List.mem_reverse.1 listed))).symm
  · rintro ⟨before, after, rfl, apart⟩
    refine ⟨after.reverse, before.reverse, by simp, fun later listed => ?_⟩
    exact bne_iff_ne.2 (apart later (List.mem_reverse.1 listed)).symm

/--
Nothing is in an extended table that was neither there before nor given, whether a name was taken or
not.
-/
theorem mem_extend {t : Table α} {pairs : List (String × α)} {entry : String × α}
    (held : entry ∈ (t.extend pairs).1.entries) : entry ∈ t.entries ∨ entry ∈ pairs := by
  induction pairs generalizing t with
  | nil => exact Or.inl held
  | cons pair rest ih =>
    rw [extend] at held
    split at held
    · exact Or.inl held
    · rcases ih held with before | later
      · exact (mem_insert before).imp_right fun same => List.mem_cons.2 (Or.inl same)
      · exact Or.inr (List.mem_cons_of_mem pair later)

/-- A table is extended by all pairs if their names are new. -/
theorem extend_of_new {t : Table α} {pairs : List (String × α)}
    (new : ((t.entries ++ pairs).map (·.1)).Nodup) :
    t.extend pairs = (t.insertAll pairs, none) := by
  induction pairs generalizing t with
  | nil => rfl
  | cons pair rest ih =>
    obtain ⟨absent, entries⟩ := entries_insert_append new
    rw [extend, if_neg (mt (t.contains_iff _).1 absent), ih (entries ▸ new), insertAll_cons]

/-- A table is extended up to the first name that is taken. -/
theorem extend_of_taken {t : Table α} {early late : List (String × α)} {name : String} {value : α}
    (new : ((t.entries ++ early).map (·.1)).Nodup) (taken : name ∈ t.names) :
    (t.extend (early ++ (name, value) :: late)).2 = some name := by
  induction early generalizing t with
  | nil => rw [List.nil_append, extend, if_pos ((t.contains_iff name).2 taken)]
  | cons pair rest ih =>
    obtain ⟨absent, entries⟩ := entries_insert_append new
    rw [List.cons_append, extend, if_neg (mt (t.contains_iff _).1 absent)]
    exact ih (entries ▸ new) (mem_names_insert.2 (Or.inl taken))

/-- The value is put in unless the name is taken. -/
def addNew (t : Table α) (name : String) (value : α) : Table α :=
  if t.contains name then t else t.insert name value

/-- Of the values offered under a name only the first is put in. -/
def collect (t : Table α) (offers : List (String × α)) : Table α :=
  offers.foldl (fun t offer => t.addNew offer.1 offer.2) t

@[simp] theorem collect_nil (t : Table α) : t.collect [] = t := rfl

@[simp] theorem collect_cons (t : Table α) (offer : String × α) (rest : List (String × α)) :
    t.collect (offer :: rest) = (t.addNew offer.1 offer.2).collect rest := rfl

theorem collect_append (t : Table α) (first second : List (String × α)) :
    t.collect (first ++ second) = (t.collect first).collect second :=
  List.foldl_append

theorem addNew_of_taken {t : Table α} {name : String} (taken : name ∈ t.names) (value : α) :
    t.addNew name value = t := by
  rw [addNew, if_pos ((contains_iff t name).2 taken)]

theorem addNew_of_new {t : Table α} {name : String} (new : name ∉ t.names) (value : α) :
    t.addNew name value = t.insert name value := by
  rw [addNew, if_neg (fun present => new ((contains_iff t name).1 present))]

/-- An offer is found under its name unless the name was taken before. -/
theorem get?_addNew (t : Table α) (name other : String) (value : α) :
    (t.addNew name value).get? other =
      (t.get? other).or (if other = name then some value else none) := by
  by_cases taken : name ∈ t.names
  · rw [addNew_of_taken taken]
    by_cases same : other = name
    · subst same
      obtain ⟨old, held⟩ := exists_mem_of_mem_names taken
      rw [get?_eq_some_iff.2 held, Option.some_or]
    · rw [if_neg same, Option.or_none]
  · rw [addNew_of_new taken, get?_insert]
    by_cases same : other = name
    · rw [if_pos same, if_pos same, same, get?_eq_none taken, Option.none_or]
    · rw [if_neg same, if_neg same, Option.or_none]

/-- Under a name that was not taken before, a collection holds the first value offered. -/
theorem get?_collect (t : Table α) (offers : List (String × α)) (name : String) :
    (t.collect offers).get? name = (t.get? name).or (offers.lookup name) := by
  induction offers generalizing t with
  | nil => exact Option.or_none.symm
  | cons offer rest ih =>
    obtain ⟨key, value⟩ := offer
    rw [collect_cons, ih, get?_addNew, Option.or_assoc, List.lookup_cons]
    by_cases same : name = key
    · simp only [same, beq_self_eq_true, ↓reduceIte, Option.some_or]
    · simp only [same, beq_false_of_ne same, ↓reduceIte, Option.none_or]

/-- The names of a collection: the old ones, then the new ones where they were first offered. -/
theorem names_collect (t : Table α) (offers : List (String × α)) :
    (t.collect offers).names =
      t.names ++ ((offers.map (·.1)).filter (· ∉ t.names)).eraseDups := by
  induction offers generalizing t with
  | nil =>
    simp only [collect_nil, List.map_nil, List.filter_nil, List.eraseDups_nil, List.append_nil]
  | cons offer rest ih =>
    obtain ⟨name, value⟩ := offer
    rw [collect_cons, ih, List.map_cons, List.filter_cons]
    by_cases taken : name ∈ t.names
    · simp only [addNew_of_taken taken, taken, not_true_eq_false, decide_false, Bool.false_eq_true,
        ↓reduceIte]
    · -- A name that is put in now takes no later offer: the filter loses it as `eraseDups` does.
      simp only [addNew_of_new taken, names_insert_of_new taken, taken, not_false_eq_true,
        decide_true, ↓reduceIte, List.eraseDups_cons, List.filter_filter, List.append_assoc,
        List.singleton_append, List.mem_append, List.mem_singleton, not_or]
      congr 3
      apply List.filter_congr
      intro other _
      by_cases same : other = name <;> simp [same]

/--
Which names a table gets, and in which order, does not depend on which of several values is kept.
-/
theorem names_insertAll_eq_collect {t u : Table α} (same : t.names = u.names)
    (pairs : List (String × α)) :
    (t.insertAll pairs).names = (u.collect pairs).names := by
  induction pairs generalizing t u with
  | nil => exact same
  | cons pair rest ih =>
    rw [insertAll_cons, collect_cons]
    apply ih
    by_cases taken : pair.1 ∈ u.names
    · rw [addNew_of_taken taken, names_insert_of_taken (same ▸ taken), same]
    · rw [addNew_of_new taken, names_insert_of_new taken, names_insert_of_new (same ▸ taken), same]

/-- The names of a list stand where they first occur. -/
theorem names_ofList (pairs : List (String × α)) :
    (ofList pairs).names = (pairs.map (·.1)).eraseDups := by
  have collected : (ofList pairs).names = (empty.collect pairs).names :=
    names_insertAll_eq_collect rfl pairs
  rw [collected, names_collect]
  simp [empty, names]

theorem mem_names_collect {t : Table α} {offers : List (String × α)} {name : String} :
    name ∈ (t.collect offers).names ↔ name ∈ t.names ∨ name ∈ offers.map (·.1) := by
  rw [names_collect, List.mem_append, List.mem_eraseDups, List.mem_filter, decide_eq_true_eq]
  tauto

theorem prefix_addNew (t : Table α) (name : String) (value : α) :
    t.entries <+: (t.addNew name value).entries := by
  by_cases taken : name ∈ t.names
  · exact ⟨[], by rw [addNew_of_taken taken, List.append_nil]⟩
  · rw [addNew_of_new taken, entries_insert_of_new taken]
    exact List.prefix_append _ _

/-- A collection stands behind what was there before it. -/
theorem prefix_collect (t : Table α) (offers : List (String × α)) :
    t.entries <+: (t.collect offers).entries := by
  induction offers generalizing t with
  | nil => exact List.prefix_refl _
  | cons offer rest ih => exact (prefix_addNew t offer.1 offer.2).trans (ih _)

theorem get?_of_prefix {t u : Table α} (longer : t.entries <+: u.entries) {name : String}
    {value : α} (found : t.get? name = some value) : u.get? name = some value :=
  get?_eq_some_iff.2 (longer.subset (get?_eq_some_iff.1 found))

/-- Nothing is collected that was not offered. -/
theorem mem_collect {t : Table α} {offers : List (String × α)} {entry : String × α}
    (held : entry ∈ (t.collect offers).entries) : entry ∈ t.entries ∨ entry ∈ offers := by
  induction offers generalizing t with
  | nil => exact Or.inl held
  | cons offer rest ih =>
    rw [collect_cons] at held
    rcases ih held with before | later
    · by_cases taken : offer.1 ∈ t.names
      · rw [addNew_of_taken taken] at before
        exact Or.inl before
      · rw [addNew_of_new taken, entries_insert_of_new taken, List.mem_append] at before
        rcases before with old | new
        · exact Or.inl old
        · exact Or.inr (List.mem_cons.2 (Or.inl (List.mem_singleton.1 new)))
    · exact Or.inr (List.mem_cons_of_mem offer later)

end VersionFloor.Table
