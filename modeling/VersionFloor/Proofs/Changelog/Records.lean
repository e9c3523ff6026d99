import VersionFloor.Changelogs
import VersionFloor.Proofs.Changelog.Built

set_option autoImplicit false

namespace VersionFloor

namespace Record

/-- The versions of a record as they are written, in the order in which they are read. -/
def fields (record : Record) : List (Option String) :=
  [record.added, record.deprecated, record.removed]

/-- There is a version, and every one that is there can be read. -/
structure Valid (record : Record) : Prop where
  populated : ∃ text, some text ∈ record.fields
  readable : ∀ text, some text ∈ record.fields → ∃ v, Version.parse text = .ok v

/-- The first thing that is wrong with the record of a feature. -/
inductive Refused (name : String) (record : Record) : Fault → Prop
  | version {before after : List (Option String)} {text : String} {fault : Version.Fault}
      (divided : record.fields = before ++ some text :: after)
      (passed : ∀ earlier, some earlier ∈ before → ∃ v, Version.parse earlier = .ok v)
      (bad : Version.parse text = .error fault) : Refused name record (.version text fault)
  | unpopulated (empty : ∀ text, some text ∉ record.fields) :
      Refused name record (.unpopulated name)

/-- A requirement that says of the feature what its record says. -/
structure Describes (record : Record) (name : String) (r : Requirement) : Prop where
  name : r.name = some name
  added : r.added.map Except.ok = record.added.map Version.parse
  deprecated : r.deprecated.map Except.ok = record.deprecated.map Version.parse
  removed : r.removed.map Except.ok = record.removed.map Version.parse
  note : r.note = record.note
  items : r.items = record.items

variable {record : Record} {name : String} {fault : Fault}

theorem version?_eq_ok_iff {field : Option String} {v : Option Version} :
    version? field = .ok v ↔ v.map Except.ok = field.map Version.parse := by
  cases field with
  | none => cases v <;> simp [version?]
  | some text => cases parsed : Version.parse text <;> cases v <;> simp [version?, parsed, eq_comm]

theorem version?_eq_error_iff {field : Option String} :
    version? field = .error fault ↔
      ∃ text reason, field = some text ∧ Version.parse text = .error reason ∧
        fault = .version text reason := by
  cases field with
  | none => simp [version?]
  | some text => cases parsed : Version.parse text <;> simp [version?, parsed, eq_comm]

theorem exists_version?_iff {field : Option String} :
    (∃ v, version? field = .ok v) ↔
      ∀ text, field = some text → ∃ v, Version.parse text = .ok v := by
  cases field with
  | none => simp [version?]
  | some text => cases parsed : Version.parse text <;> simp [version?, parsed]

theorem isSome_of_read {text : String} {v : Option Version}
    (read : v.map Except.ok = (some text).map Version.parse) : v.isSome = true := by
  cases v with
  | none => cases read
  | some v => rfl

theorem toRequirement_eq_ok_iff {r : Requirement} :
    record.toRequirement name = .ok r ↔ record.Describes name r := by
  unfold toRequirement
  simp only [bind_eq_ok_iff, version?_eq_ok_iff]
  constructor
  · rintro ⟨added, readAdded, deprecated, readDeprecated, removed, readRemoved, done⟩
    unfold Requirement.ofVersions? at done
    split at done
    · cases done
    · next made =>
      split at made
      · cases made
        cases done
        exact ⟨rfl, readAdded, readDeprecated, readRemoved, rfl, rfl⟩
      · cases made
  · intro described
    refine ⟨r.added, described.added, r.deprecated, described.deprecated, r.removed,
      described.removed, ?_⟩
    rw [Requirement.ofVersions?, dif_pos r.populated, ← described.name, ← described.note,
      ← described.items]
    rfl

/-- A version that cannot be read decides before it is asked whether there is one. -/
theorem toRequirement_of_bad (bad : record.fields.mapM version? = .error fault) :
    record.toRequirement name = .error fault := by
  rw [fields, List.mapM_cons, List.mapM_cons, List.mapM_cons, List.mapM_nil] at bad
  rw [toRequirement]
  cases added : version? record.added with
  | error reason =>
    rw [added] at bad
    cases bad
    rfl
  | ok v =>
    cases deprecated : version? record.deprecated with
    | error reason =>
      rw [added, deprecated] at bad
      cases bad
      rfl
    | ok w =>
      cases removed : version? record.removed with
      | error reason =>
        rw [added, deprecated, removed] at bad
        cases bad
        rfl
      | ok u =>
        rw [added, deprecated, removed] at bad
        cases bad

theorem toRequirement_of_empty (empty : ∀ text, some text ∉ record.fields) :
    record.toRequirement name = .error (.unpopulated name) := by
  have absent : ∀ field ∈ record.fields, field = none := by
    intro field listed
    cases field with
    | none => rfl
    | some text => exact absurd listed (empty text)
  simp only [fields, List.forall_mem_cons] at absent
  obtain ⟨added, deprecated, removed, -⟩ := absent
  rw [toRequirement, added, deprecated, removed]
  rfl

theorem Valid.exists_toRequirement (valid : record.Valid) (name : String) :
    ∃ r, record.toRequirement name = .ok r := by
  have read : ∀ field ∈ record.fields, ∃ v, version? field = .ok v := by
    intro field listed
    refine exists_version?_iff.2 fun text held => ?_
    subst held
    exact valid.readable text listed
  simp only [fields, List.forall_mem_cons, version?_eq_ok_iff] at read
  obtain ⟨⟨added, readAdded⟩, ⟨deprecated, readDeprecated⟩, ⟨removed, readRemoved⟩, -⟩ := read
  have populated : added.isSome ∨ deprecated.isSome ∨ removed.isSome := by
    obtain ⟨text, listed⟩ := valid.populated
    simp only [fields, List.mem_cons, List.not_mem_nil, or_false] at listed
    rcases listed with held | held | held
    · rw [← held] at readAdded
      exact Or.inl (isSome_of_read readAdded)
    · rw [← held] at readDeprecated
      exact Or.inr (Or.inl (isSome_of_read readDeprecated))
    · rw [← held] at readRemoved
      exact Or.inr (Or.inr (isSome_of_read readRemoved))
  let r : Requirement :=
    { name := some name, added, deprecated, removed, note := record.note, items := record.items,
      populated }
  exact ⟨r, toRequirement_eq_ok_iff.2 ⟨rfl, readAdded, readDeprecated, readRemoved, rfl, rfl⟩⟩

theorem Refused.toRequirement_eq (refused : Refused name record fault) :
    record.toRequirement name = .error fault := by
  cases refused with
  | @version before after text reason divided passed bad =>
    apply toRequirement_of_bad
    rw [divided]
    refine mapM_eq_error (fun field listed => exists_version?_iff.2 fun earlier held => ?_) ?_
    · subst held
      exact passed earlier listed
    · exact version?_eq_error_iff.2 ⟨text, reason, rfl, bad, rfl⟩
  | unpopulated empty => exact toRequirement_of_empty empty

theorem valid_or_refused (name : String) (record : Record) :
    record.Valid ∨ ∃ fault, Refused name record fault := by
  cases all : record.fields.mapM version? with
  | error fault =>
    obtain ⟨before, field, after, divided, passed, fails⟩ := mapM_eq_error_iff.1 all
    obtain ⟨text, reason, rfl, bad, rfl⟩ := version?_eq_error_iff.1 fails
    refine Or.inr ⟨_, .version divided (fun earlier listed => ?_) bad⟩
    exact exists_version?_iff.1 (passed _ listed) earlier rfl
  | ok versions =>
    by_cases populated : ∃ text, some text ∈ record.fields
    · refine Or.inl ⟨populated, fun text listed => ?_⟩
      exact exists_version?_iff.1 (exists_of_mapM_eq_ok all listed) text rfl
    · exact Or.inr ⟨_, .unpopulated (not_exists.1 populated)⟩

theorem exists_toRequirement_iff : (∃ r, record.toRequirement name = .ok r) ↔ record.Valid := by
  constructor
  · rintro ⟨r, made⟩
    refine (valid_or_refused name record).resolve_right ?_
    rintro ⟨fault, refused⟩
    cases refused.toRequirement_eq.symm.trans made
  · exact fun valid => valid.exists_toRequirement name

theorem toRequirement_eq_error_iff :
    record.toRequirement name = .error fault ↔ Refused name record fault := by
  refine ⟨fun failed => ?_, Refused.toRequirement_eq⟩
  rcases valid_or_refused name record with valid | ⟨other, refused⟩
  · obtain ⟨r, made⟩ := valid.exists_toRequirement name
    cases made.symm.trans failed
  · cases refused.toRequirement_eq.symm.trans failed
    exact refused

/-- The fault is told as the error of the version or of the requirement would be. -/
theorem Fault.message_eq (fault : Fault) : fault.message = (Error.ofRecord fault).description := by
  cases fault <;> rfl

end Record

namespace Changelog

variable {records : List (String × Record)} {changelog : Changelog}

def load (origin : String) (records : List (String × Record)) : Except Error Changelog :=
  (ofRecords records).mapError (Error.badChangelog origin)

/-- A text from `origin` is loaded as the records that are written in it. -/
theorem ofText_of_members {origin text : String} {members : List (String × Record)}
    (written : (Json.Reader.object Record.reader).parse text = .ok members) :
    ofText origin text = load origin (Table.ofList members).entries := by
  simp only [ofText, parse, written, load]
  cases ofRecords (Table.ofList members).entries <;> rfl

theorem checked_eq_error_iff {entry : String × Record} {fault : Fault} :
    checked entry = .error fault ↔
      ∃ reason, Record.Refused entry.1 entry.2 reason ∧ fault = .entry entry.1 reason := by
  simp only [← Record.toRequirement_eq_error_iff]
  rw [checked]
  cases entry.2.toRequirement entry.1 with
  | error reason => simp [eq_comm]
  | ok r => simp

theorem exists_checked_iff {entry : String × Record} :
    (∃ result, checked entry = .ok result) ↔ entry.2.Valid := by
  rw [← @Record.exists_toRequirement_iff entry.2 entry.1]
  simp only [checked_eq_ok_iff]
  constructor
  · rintro ⟨result, -, made⟩
    exact ⟨result.2, made⟩
  · rintro ⟨r, made⟩
    exact ⟨(entry.1, r), rfl, made⟩

theorem load_eq_ok_iff {origin : String} :
    load origin records = .ok changelog ↔
      ∃ entries, records.mapM checked = .ok entries ∧ Table.ofList entries = changelog := by
  rw [← ofRecords_eq_ok_iff, load]
  cases ofRecords records with
  | error fault => simp [Except.mapError]
  | ok built => simp [Except.mapError]

theorem load_eq_error_iff {origin : String} {error : Error} :
    load origin records = .error error ↔
      ∃ fault, records.mapM checked = .error fault ∧ error = .badChangelog origin fault := by
  rw [load, ofRecords]
  cases records.mapM checked with
  | error fault => simp [Except.map, Except.mapError, eq_comm]
  | ok entries => simp [Except.map, Except.mapError]

theorem exists_load_iff {origin : String} :
    (∃ changelog, load origin records = .ok changelog) ↔ ∀ entry ∈ records, entry.2.Valid := by
  simp only [load_eq_ok_iff, ← exists_checked_iff]
  constructor
  · rintro ⟨_, entries, all, rfl⟩ entry listed
    exact exists_of_mapM_eq_ok all listed
  · intro each
    obtain ⟨entries, all⟩ := exists_mapM_eq_ok each
    exact ⟨_, entries, all, rfl⟩

def IsLast (records : List (String × Record)) (name : String) (record : Record) : Prop :=
  ∃ before after, records = before ++ (name, record) :: after ∧ ∀ later ∈ after, later.1 ≠ name

theorem isLast_iff {name : String} {record : Record} :
    IsLast records name record ↔ (Table.ofList records).get? name = some record := by
  rw [Table.get?_ofList, Table.lookup_reverse_eq_some_iff, IsLast]

theorem map_fst_of_checked {entries : List (String × Requirement)}
    (all : List.Forall₂ (fun record entry => checked record = .ok entry) records entries) :
    entries.map (·.1) = records.map (·.1) := by
  induction all with
  | nil => rfl
  | cons valid _ ih => rw [List.map_cons, List.map_cons, ih, (checked_eq_ok_iff.1 valid).1]

theorem lookup_of_checked {entries : List (String × Requirement)}
    (all : List.Forall₂ (fun record entry => checked record = .ok entry) records entries)
    {name : String} {r : Requirement} :
    entries.lookup name = some r ↔
      ∃ record, records.lookup name = some record ∧ record.Describes name r := by
  induction all with
  | nil => simp
  | @cons record entry _ _ valid _ ih =>
    obtain ⟨_, record⟩ := record
    obtain ⟨key, made⟩ := entry
    obtain ⟨rfl, valid⟩ := checked_eq_ok_iff.1 valid
    rw [List.lookup_cons, List.lookup_cons]
    by_cases same : name = key
    · subst same
      simp only [beq_self_eq_true, Option.some.injEq, exists_eq_left']
      rw [← Record.toRequirement_eq_ok_iff, valid]
      exact ⟨congrArg Except.ok, Except.ok.inj⟩
    · simpa only [beq_false_of_ne same] using ih

/-- What stands under a name is what the last record of the name says. -/
theorem get?_of_load {origin : String} (loaded : load origin records = .ok changelog)
    {name : String} {r : Requirement} :
    changelog.get? name = some r ↔
      ∃ record, IsLast records name record ∧ record.Describes name r := by
  obtain ⟨entries, all, rfl⟩ := load_eq_ok_iff.1 loaded
  have backwards := List.forall₂_reverse_iff.2 (mapM_eq_ok_iff.1 all)
  simp only [isLast_iff, Table.get?_ofList]
  exact lookup_of_checked backwards

theorem names_of_load {origin : String} (loaded : load origin records = .ok changelog) :
    changelog.names = (records.map (·.1)).eraseDups := by
  obtain ⟨entries, all, rfl⟩ := load_eq_ok_iff.1 loaded
  rw [Table.names_ofList, map_fst_of_checked (mapM_eq_ok_iff.1 all)]

/--
The text of the error names the origin and the feature, and ends as the error of the version or
requirement.
-/
theorem description_badEntry (origin name : String) (fault : Record.Fault) :
    (Error.badChangelog origin (.entry name fault)).description =
      "Error loading changelog " ++ origin ++ ": " ++
        ("entry '" ++ name ++ "': " ++ (Error.ofRecord fault).description) := by
  rw [← Record.Fault.message_eq]
  rfl

/--
Records are a changelog exactly if each of them is valid; every name then stands where it first
occurs with what its last record says. Otherwise the first record that is refused is named, with the
first thing that is wrong with it. A text is checked in this way with the records that are written
in it.
-/
theorem records_are_validated (origin : String) (records : List (String × Record)) :
    ((∃ changelog, load origin records = .ok changelog) ↔ ∀ entry ∈ records, entry.2.Valid) ∧
    (∀ changelog, load origin records = .ok changelog →
      changelog.names = (records.map (·.1)).eraseDups ∧
      ∀ name r, changelog.get? name = some r ↔
        ∃ record, IsLast records name record ∧ record.Describes name r) ∧
    (∀ error, load origin records = .error error ↔
      ∃ before name record after fault, records = before ++ (name, record) :: after ∧
        (∀ earlier ∈ before, earlier.2.Valid) ∧ record.Refused name fault ∧
        error = .badChangelog origin (.entry name fault) ∧
        error.description =
          "Error loading changelog " ++ origin ++ ": " ++
            ("entry '" ++ name ++ "': " ++ (Error.ofRecord fault).description)) ∧
    ∀ text members, (Json.Reader.object Record.reader).parse text = .ok members →
      ofText origin text = load origin (Table.ofList members).entries := by
  refine ⟨exists_load_iff, fun changelog loaded =>
    ⟨names_of_load loaded, fun name r => get?_of_load loaded⟩, fun error => ?_, fun text members =>
      ofText_of_members⟩
  rw [load_eq_error_iff]
  constructor
  · rintro ⟨fault, failed, rfl⟩
    obtain ⟨before, ⟨name, record⟩, after, divided, passed, fails⟩ := mapM_eq_error_iff.1 failed
    obtain ⟨reason, refused, rfl⟩ := checked_eq_error_iff.1 fails
    exact ⟨before, name, record, after, reason, divided,
      fun earlier listed => exists_checked_iff.1 (passed earlier listed), refused, rfl,
      description_badEntry origin name reason⟩
  · rintro ⟨before, name, record, after, fault, divided, passed, refused, rfl, -⟩
    refine ⟨.entry name fault, mapM_eq_error_iff.2 ⟨before, (name, record), after, divided, ?_, ?_⟩,
      rfl⟩
    · exact fun earlier listed => exists_checked_iff.2 (passed earlier listed)
    · exact checked_eq_error_iff.2 ⟨fault, refused, rfl⟩

example : ofRecords [("spam", { added := some "3.1" }),
      ("eggs", { added := some "3.2", deprecated := some "3", removed := some "4.0" }),
      ("ham", {})] =
    .error (.entry "eggs" (.version "3" .arity)) := rfl

/-- Records of which the last one is of the same feature as the first. -/
def pairedRecords : List (String × Record) :=
  [("spam", { added := some "3.2" }), ("eggs", { removed := some "3.11" }),
   ("spam", { deprecated := some "3.021" })]

theorem valid_pairedRecords : ∀ entry ∈ pairedRecords, entry.2.Valid := by
  intro entry listed
  rw [← @Record.exists_toRequirement_iff entry.2 entry.1]
  revert entry
  simp only [pairedRecords, List.forall_mem_cons]
  exact ⟨⟨_, rfl⟩, ⟨_, rfl⟩, ⟨_, rfl⟩, List.forall_mem_nil _⟩

/-- The later record counts, in the place of the earlier one. -/
theorem pairedRecords_loaded :
    (∀ entry ∈ pairedRecords, entry.2.Valid) ∧
      ∃ changelog, load "mods.json" pairedRecords = .ok changelog ∧
      changelog.names = ["spam", "eggs"] ∧
      ∃ r, changelog.get? "spam" = some r ∧ r.added = none ∧ r.deprecated = some ⟨21, none⟩ := by
  obtain ⟨accepted, loaded, -, -⟩ := records_are_validated "mods.json" pairedRecords
  obtain ⟨changelog, done⟩ := accepted.2 valid_pairedRecords
  obtain ⟨names, values⟩ := loaded changelog done
  have last : IsLast pairedRecords "spam" { deprecated := some "3.021" } :=
    ⟨pairedRecords.take 2, [], rfl, List.forall_mem_nil _⟩
  let r : Requirement := { name := some "spam", deprecated := some ⟨21, none⟩ }
  have described : Record.Describes { deprecated := some "3.021" } "spam" r :=
    Record.toRequirement_eq_ok_iff.1 rfl
  exact ⟨valid_pairedRecords, changelog, done, names.trans (by decide), r,
    (values "spam" r).2 ⟨_, last, described⟩, rfl, rfl⟩

end Changelog

end VersionFloor
