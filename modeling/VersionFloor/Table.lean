set_option autoImplicit false

namespace VersionFloor

universe u v

/-- Values under pairwise distinct names, in insertion order. -/
structure Table (α : Type u) where
  entries : List (String × α) := []
  nodup : (entries.map (·.1)).Nodup := by exact List.nodup_nil

namespace Table

variable {α : Type u} {β : Type v}

def empty : Table α := {}

instance : Inhabited (Table α) := ⟨empty⟩

def names (t : Table α) : List String :=
  t.entries.map (·.1)

def size (t : Table α) : Nat :=
  t.entries.length

def get? (t : Table α) (name : String) : Option α :=
  (t.entries.find? (·.1 = name)).map (·.2)

def contains (t : Table α) (name : String) : Bool :=
  t.entries.any (·.1 = name)

theorem contains_iff (t : Table α) (name : String) :
    t.contains name = true ↔ name ∈ t.names := by
  simp only [contains, names, List.any_eq_true, List.mem_map, decide_eq_true_eq]

/-- The entries with the value under `name` replaced. -/
def replaced (name : String) (value : α) (entries : List (String × α)) : List (String × α) :=
  entries.map fun entry => if entry.1 = name then (name, value) else entry

theorem map_fst_replaced (name : String) (value : α) (entries : List (String × α)) :
    (replaced name value entries).map (·.1) = entries.map (·.1) := by
  simp only [replaced, List.map_map]
  apply List.map_congr_left
  intro entry _
  simp only [Function.comp_apply]
  split
  · next same => exact same.symm
  · rfl

/-- Puts `value` under `name`: at the end if the name is new, else where the name stands. -/
def insert (t : Table α) (name : String) (value : α) : Table α :=
  if fresh : t.contains name then
    ⟨replaced name value t.entries, by rw [map_fst_replaced]; exact t.nodup⟩
  else
    ⟨t.entries ++ [(name, value)], by
      rw [Bool.not_eq_true, ← Bool.not_eq_true, contains_iff] at fresh
      rw [List.map_append, List.nodup_append]
      refine ⟨t.nodup, by simp, ?_⟩
      intro a member b last
      simp only [List.map_cons, List.map_nil, List.mem_singleton] at last
      exact fun same => fresh (last ▸ same ▸ member)⟩

/-- Puts the entries in one by one; a repeated name keeps its first place and its last value. -/
def ofList (entries : List (String × α)) : Table α :=
  entries.foldl (fun t entry => t.insert entry.1 entry.2) empty

/-- The entries that satisfy `keep`. -/
def filter (keep : String → α → Bool) (t : Table α) : Table α :=
  ⟨t.entries.filter fun entry => keep entry.1 entry.2,
    t.nodup.sublist ((List.filter_sublist).map _)⟩

def map (f : String → α → β) (t : Table α) : Table β :=
  ⟨t.entries.map fun entry => (entry.1, f entry.1 entry.2), by
    rw [List.map_map]; exact t.nodup⟩

/-- Adds the entries of a list up to the first whose name is taken, which is the second part. -/
def extend (t : Table α) : List (String × α) → Table α × Option String
  | [] => (t, none)
  | (name, value) :: rest =>
    if t.contains name then (t, some name) else (t.insert name value).extend rest

end Table

end VersionFloor
