import VersionFloor.Output
import VersionFloor.Proofs.Json.Value
import VersionFloor.Proofs.Table
import VersionFloor.Proofs.Version.Text

set_option autoImplicit false

namespace VersionFloor

namespace Json

variable {α : Type}

def text? : Json → Option String
  | str text => some text
  | _ => none

def list? (item : Json → Option α) : Json → Option (List α)
  | arr items => items.mapM item
  | _ => none

/-- The values of an object under their names, in the order of its members. -/
def table? (value : Json → Option α) : Json → Option (Table α)
  | obj members =>
    (members.mapM fun member => (value member.2).map fun found => (member.1, found)).map
      Table.ofList
  | _ => none

/-- What `value` makes of a value that may be null. -/
def nullable? (value : Json → Option α) : Json → Option (Option α)
  | null => some none
  | json => (value json).map some

def member? (json : Json) (name : String) : Option Json :=
  match json with
  | obj members => members.lookup name
  | _ => none

/-- What `value` makes of the member under a name. -/
def required? (json : Json) (name : String) (value : Json → Option α) : Option α :=
  (json.member? name).bind value

/-- What `value` makes of the member under a name that may be left out. -/
def optional? (json : Json) (name : String) (value : Json → Option α) : Option (Option α) :=
  (json.member? name).elim (some none) fun found => (value found).map some

theorem mapM_map_eq_some {β : Type} {values : List α} {write : α → β} {read : β → Option α}
    (back : ∀ v ∈ values, read (write v) = some v) :
    (values.map write).mapM read = some values := by
  induction values with
  | nil => rfl
  | cons v values ih =>
    obtain ⟨here, later⟩ := List.forall_mem_cons.1 back
    rw [List.map_cons, List.mapM_cons, here, ih later]
    rfl

theorem list?_arr {write : α → Json} {read : Json → Option α} {values : List α}
    (back : ∀ v ∈ values, read (write v) = some v) :
    list? read (.arr (values.map write)) = some values :=
  mapM_map_eq_some back

theorem table?_obj {write : α → Json} {read : Json → Option α} {table : Table α}
    (back : ∀ entry ∈ table.entries, read (write entry.2) = some entry.2) :
    table? read (.obj (table.entries.map fun entry => (entry.1, write entry.2))) = some table := by
  have entries : (table.entries.map fun entry => (entry.1, write entry.2)).mapM
      (fun member => (read member.2).map fun found => (member.1, found)) = some table.entries := by
    apply mapM_map_eq_some
    intro entry held
    rw [back entry held]
    rfl
  rw [table?, entries, Option.map_some, Table.ofList_entries]

/-- A member is found if it is not left out. -/
theorem member?_sparse {members : List (String × Option Json)}
    (distinct : (members.map (·.1)).Nodup) (name : String) :
    (sparse members).member? name = (members.lookup name).join := by
  rw [sparse, member?]
  induction members with
  | nil => rfl
  | cons member members ih =>
    obtain ⟨key, value⟩ := member
    obtain ⟨once, distinct⟩ := List.nodup_cons.1 distinct
    have behind := ih distinct
    cases value with
    | some found =>
      simp only [List.filterMap_cons, Option.map_some, List.lookup_cons]
      by_cases same : name = key
      · simp only [same, beq_self_eq_true, Option.join_some]
      · simp only [beq_false_of_ne same, behind]
    | none =>
      simp only [List.filterMap_cons, Option.map_none, behind, List.lookup_cons]
      by_cases same : name = key
      · -- What is left out here does not stand further on.
        have absent : members.lookup key = none := by
          rw [List.lookup_eq_none_iff]
          intro other listed
          exact bne_iff_ne.2 fun equal => once (List.mem_map.2 ⟨other, listed, equal.symm⟩)
        simp only [same, beq_self_eq_true, absent, Option.join_none, Option.join_some]
      · simp only [beq_false_of_ne same]

theorem optional?_eq {json : Json} {name : String} {value : Json → Option α} {write : α → Json}
    {content : Option α} (held : json.member? name = content.map write)
    (back : ∀ found, value (write found) = some found) :
    json.optional? name value = some content := by
  rw [optional?, held]
  cases content with
  | none => rfl
  | some found =>
    rw [Option.map_some, Option.elim_some, back]
    rfl

theorem required?_eq {json : Json} {name : String} {value : Json → Option α} {member : Json}
    {content : α} (held : json.member? name = some member) (back : value member = some content) :
    json.required? name value = some content := by
  rw [required?, held, Option.bind_some, back]

end Json

def Version.ofValue? (json : Json) : Option Version :=
  json.text?.bind fun text => (parse text).toOption

def Requirement.ofValue? (json : Json) : Option Requirement := do
  let name ← json.optional? "name" Json.text?
  let added ← json.required? "added" (Json.nullable? Version.ofValue?)
  let deprecated ← json.required? "deprecated" (Json.nullable? Version.ofValue?)
  let removed ← json.required? "removed" (Json.nullable? Version.ofValue?)
  let note ← json.optional? "note" Json.text?
  let items ← json.optional? "items" (Json.list? Json.text?)
  let r ← ofVersions? added deprecated removed
  return { r with name, note, items }

def Report.ofValue? (json : Json) : Option Report := do
  let path ← json.required? "path" Json.text?
  let version ← json.required? "detected_version" Version.ofValue?
  let language ← json.required? "language_requirements" (Json.table? Requirement.ofValue?)
  let modules ← json.required? "module_requirements" (Json.table? Requirement.ofValue?)
  return { path, version, language, modules }

def Failure.ofValue? (json : Json) : Option Failure := do
  let path ← json.required? "path" Json.text?
  let message ← json.required? "message" Json.text?
  return { path, message }

def Results.ofValue? (json : Json) : Option Results := do
  let reports ← json.required? "reports" (Json.list? Report.ofValue?)
  let failures ← json.required? "failures" (Json.list? Failure.ofValue?)
  return { reports, failures }

theorem Version.ofValue?_str (v : Version) : ofValue? (.str v.text) = some v := by
  change (parse v.text).toOption = some v
  rw [parse_text]
  rfl

theorem Version.nullable?_ofOption (v : Option Version) :
    Json.nullable? ofValue? (Json.ofOption (v.map text)) = some v := by
  cases v with
  | none => rfl
  | some v =>
    change (ofValue? (.str v.text)).map some = some (some v)
    rw [ofValue?_str]
    rfl

/-- A requirement is got back from its JSON. -/
theorem Requirement.ofValue?_toJson (r : Requirement) : ofValue? r.toJson = some r := by
  have distinct : ["name", "added", "deprecated", "removed", "note", "items"].Nodup := by decide
  have found : ∀ name, r.toJson.member? name = _ := Json.member?_sparse distinct
  have name : r.toJson.optional? "name" Json.text? = some r.name :=
    Json.optional?_eq ((found "name").trans rfl) fun _ => rfl
  have added : r.toJson.required? "added" (Json.nullable? Version.ofValue?) = some r.added :=
    Json.required?_eq ((found "added").trans rfl) (Version.nullable?_ofOption r.added)
  have deprecated : r.toJson.required? "deprecated" (Json.nullable? Version.ofValue?) =
      some r.deprecated :=
    Json.required?_eq ((found "deprecated").trans rfl) (Version.nullable?_ofOption r.deprecated)
  have removed : r.toJson.required? "removed" (Json.nullable? Version.ofValue?) = some r.removed :=
    Json.required?_eq ((found "removed").trans rfl) (Version.nullable?_ofOption r.removed)
  have note : r.toJson.optional? "note" Json.text? = some r.note :=
    Json.optional?_eq ((found "note").trans rfl) fun _ => rfl
  have items : r.toJson.optional? "items" (Json.list? Json.text?) = some r.items :=
    Json.optional?_eq ((found "items").trans rfl) fun _ => Json.list?_arr fun _ _ => rfl
  have versions : ofVersions? r.added r.deprecated r.removed = some _ := dif_pos r.populated
  rw [ofValue?, name, added, deprecated, removed, note, items]
  simp only [Option.bind_eq_bind, Option.bind_some, versions]
  rfl

theorem table?_tableJson (table : Table Requirement) :
    Json.table? Requirement.ofValue? (Output.tableJson table) = some table :=
  Json.table?_obj fun entry _ => Requirement.ofValue?_toJson entry.2

/-- A report is got back from its JSON. -/
theorem Report.ofValue?_reportJson (report : Report) :
    ofValue? (Output.reportJson report) = some report := by
  have version : (Output.reportJson report).required? "detected_version" Version.ofValue? =
      some report.version :=
    Json.required?_eq rfl (Version.ofValue?_str report.version)
  have language : (Output.reportJson report).required? "language_requirements"
      (Json.table? Requirement.ofValue?) = some report.language :=
    Json.required?_eq rfl (table?_tableJson report.language)
  have modules : (Output.reportJson report).required? "module_requirements"
      (Json.table? Requirement.ofValue?) = some report.modules :=
    Json.required?_eq rfl (table?_tableJson report.modules)
  rw [ofValue?, version, language, modules]
  rfl

/-- Results are got back from their JSON. -/
theorem Results.ofValue?_resultsJson (results : Results) :
    ofValue? (Output.resultsJson results) = some results := by
  have reports : (Output.resultsJson results).required? "reports" (Json.list? Report.ofValue?) =
      some results.reports :=
    Json.required?_eq rfl (Json.list?_arr fun report _ => report.ofValue?_reportJson)
  have failures : (Output.resultsJson results).required? "failures" (Json.list? Failure.ofValue?) =
      some results.failures :=
    Json.required?_eq rfl (Json.list?_arr fun _ _ => rfl)
  rw [ofValue?, reports, failures]
  rfl

namespace Output

/--
The text of results is that of an object in which the results are found again, with everything in
its order and what is absent told from what is empty. So the text is different for different
results.
-/
theorem json_read_back (style : TextStyle) (results : Results) :
    (∃ members, Json.read (OutputFormat.json.render style results) = .ok (.obj members) ∧
      Results.ofValue? (.obj members) = some results) ∧
    ∀ other, other ≠ results → OutputFormat.json.render style other ≠
      OutputFormat.json.render style results := by
  have read : ∀ results, Json.read (OutputFormat.json.render style results) =
      .ok (resultsJson results) :=
    fun results => Json.read_pretty (resultsJson results)
  refine ⟨⟨_, read results, results.ofValue?_resultsJson⟩, fun other differs same => differs ?_⟩
  have values : resultsJson other = resultsJson results := by
    apply Except.ok.inj
    rw [← read other, same, read results]
  apply Option.some.inj
  rw [← other.ofValue?_resultsJson, values, results.ofValue?_resultsJson]

/-- The results of a script with one feature, which has a list of items or none. -/
def itemized (items : Option (List String)) : Results where
  reports := [{
    path := "a\"\\.py"
    version := ⟨8, some 2⟩
    language :=
      ⟨[("walrus", { added := some ⟨8, some 2⟩, note := some "", items })],
        List.nodup_singleton "walrus"⟩
    modules := .empty }]

/-- No list of items and an empty one are written in different ways. -/
theorem itemized_told_apart :
    itemized none ≠ itemized (some []) ∧
      OutputFormat.json.render {} (itemized none) ≠
        OutputFormat.json.render {} (itemized (some [])) := by
  have differs : itemized none ≠ itemized (some []) := by
    intro same
    have entries := congrArg
      (fun results => results.reports.map fun report => report.language.entries) same
    revert entries
    decide
  exact ⟨differs, (json_read_back {} (itemized (some []))).2 (itemized none) differs⟩

end Output

end VersionFloor
