import VersionFloor.Proofs.Changelog.Built
import VersionFloor.Proofs.Json.ReadBack

set_option autoImplicit false

namespace VersionFloor

namespace Record

open Json (Reader Layout Blank separated)

/-- The value written for a field, if it is there. -/
def Field.json? (record : Record) : Field → Option Json
  | added => record.added.map Json.str
  | deprecated => record.deprecated.map Json.str
  | removed => record.removed.map Json.str
  | note => record.note.map Json.str
  | items => record.items.map fun items => Json.arr (items.map Json.str)

def Field.copied (source record : Record) : Field → Record
  | added => { record with added := source.added }
  | deprecated => { record with deprecated := source.deprecated }
  | removed => { record with removed := source.removed }
  | note => { record with note := source.note }
  | items => { record with items := source.items }

/-- The fields that are there, with the values written for them. -/
def written (record : Record) : List (Field × Json) :=
  Field.all.filterMap fun field => (field.json? record).map fun value => (field, value)

theorem mem_written {record : Record} {entry : Field × Json} (listed : entry ∈ record.written) :
    entry.1.json? record = some entry.2 := by
  obtain ⟨field, _, held⟩ := List.mem_filterMap.1 listed
  obtain ⟨value, present, rfl⟩ := Option.map_eq_some_iff.1 held
  exact present

/-- No field is written twice. -/
theorem nodup_fields_written (record : Record) : (record.written.map (·.1)).Nodup := by
  rw [written, List.map_filterMap]
  refine List.Nodup.filterMap ?_ (by decide : Field.all.Nodup)
  intro field other found here there
  simp only [Option.map_map, Option.mem_def, Option.map_eq_some_iff, Function.comp_apply]
    at here there
  obtain ⟨_, _, rfl⟩ := here
  obtain ⟨_, _, rfl⟩ := there
  rfl

theorem toJson_eq (record : Record) :
    record.toJson = .obj (record.written.map fun entry => (entry.1.name, entry.2)) := by
  have listed : record.toJson = Json.sparse
      (Field.all.map fun field => (field.name, field.json? record)) := rfl
  rw [listed, Json.sparse, written, List.filterMap_map, List.map_filterMap]
  congr 2
  funext field
  rw [Function.comp_apply, Option.map_map]
  rfl

/-- Taking over the fields that are there makes the record. -/
theorem foldl_copied_written (record : Record) :
    record.written.foldl (fun copy entry => entry.1.copied record copy) {} = record := by
  -- Which fields are there decides the list, and with it what is taken over.
  obtain ⟨added, deprecated, removed, note, items⟩ := record
  cases added <;> cases deprecated <;> cases removed <;> cases note <;> cases items <;> rfl

theorem Field.ofName?_name (field : Field) : ofName? field.name = some field := by
  cases field <;> rfl

theorem readBy_optional_text (layout : Layout) (depth : Nat) (text : String) :
    Reader.ReadBy (.optional .text) ((Json.str text).chars layout depth) (some text) := by
  rw [Json.chars]
  exact (Reader.readBy_text text).optional (by simp [Json.quoted])

theorem readBy_optional_list (layout : Layout) (depth : Nat) (texts : List String) :
    Reader.ReadBy (.optional (.list .text)) ((Json.arr (texts.map Json.str)).chars layout depth)
      (some texts) := by
  have items : (texts.map Json.str).map (fun item => item.chars layout (depth + 1)) =
      texts.map Json.quoted := by
    rw [List.map_map]
    apply List.map_congr_left
    intro text _
    rw [Function.comp_apply, Json.chars]
  rw [Json.chars, items]
  refine (Reader.readBy_list layout depth fun text _ => Reader.readBy_text text).optional ?_
  rw [Layout.head?_bracketed]
  decide

/-- A field that is there is read back into any record. -/
theorem Field.readBy_read (layout : Layout) (depth : Nat) {source : Record} {field : Field}
    {value : Json} (held : field.json? source = some value) (record : Record) :
    Reader.ReadBy (field.read record) (value.chars layout depth) (field.copied source record) := by
  cases field
  case items =>
    obtain ⟨texts, present, rfl⟩ := Option.map_eq_some_iff.1 held
    rw [copied, present]
    exact (readBy_optional_list layout depth texts).andThen _
  all_goals
    obtain ⟨text, present, rfl⟩ := Option.map_eq_some_iff.1 held
    rw [copied, present]
    exact (readBy_optional_text layout depth text).andThen _

def member (layout : Layout) (depth : Nat) (entry : Field × Json) : List Char :=
  layout.member entry.1.name (entry.2.chars layout depth)

/--
The loop over the members takes their fields over one by one and stops before the closing brace.
None of them was seen before, and none is written twice.
-/
theorem members_separated (layout : Layout) (depth : Nat) {gap closing : List Char}
    (blank : Blank gap) (closed : Blank closing) (rest : List Char) (source : Record)
    {entries : List (Field × Json)} (held : ∀ entry ∈ entries, entry.1.json? source = some entry.2)
    (distinct : (entries.map (·.1)).Nodup) (seen : List Field)
    (unseen : ∀ entry ∈ entries, entry.1 ∉ seen) {fuel : Nat} (enough : entries.length < fuel)
    (isFirst : Bool) (record : Record) :
    members seen record fuel isFirst
        (separated gap isFirst (entries.map (member layout depth)) ++ (closing ++ '\x7d' :: rest)) =
      .ok (entries.foldl (fun copy entry => entry.1.copied source copy) record,
        '\x7d' :: rest) := by
  induction entries generalizing seen fuel isFirst record with
  | nil =>
    obtain ⟨fuel, rfl⟩ := Nat.exists_eq_add_of_lt enough
    rw [List.map_nil, separated, List.nil_append, members,
      Reader.bind_of_ok (Reader.moreMembers_end closed isFirst rest)]
    rfl
  | cons entry entries ih =>
    obtain _ | fuel := fuel
    · exact absurd enough (Nat.not_lt_zero _)
    obtain ⟨here, later⟩ := List.forall_mem_cons.1 held
    obtain ⟨new, others⟩ := List.forall_mem_cons.1 unseen
    obtain ⟨once, distinct⟩ := List.nodup_cons.1 distinct
    obtain ⟨space, spaced, colon_eq⟩ := Reader.exists_colon_eq layout
    let left := separated gap false (entries.map (member layout depth)) ++
      (closing ++ '\x7d' :: rest)
    have first : entry.1.read record (space ++ (entry.2.chars layout depth ++ left)) =
        .ok (entry.1.copied source record, left) :=
      (Field.readBy_read layout depth here record).reads space left spaced
    have unseen : ∀ other ∈ entries, other.1 ∉ entry.1 :: seen := by
      intro other listed
      have differs : other.1 ≠ entry.1 := fun same => once (List.mem_map.2 ⟨other, listed, same⟩)
      exact fun known => (List.mem_cons.1 known).elim differs (others other listed)
    rw [List.map_cons, separated, List.foldl_cons]
    simp only [List.append_assoc]
    rw [member, Layout.member_append, members,
      Reader.bind_of_ok (Reader.moreMembers_more blank _ isFirst _)]
    refine (Reader.bind_of_ok (Reader.key_quoted entry.1.name _)).trans ?_
    simp only [Field.ofName?_name, if_neg new]
    rw [Reader.bind_of_ok (colon_eq _), Reader.bind_of_ok first]
    exact ih later distinct (entry.1 :: seen) unseen (Nat.lt_of_succ_lt_succ enough) false _

/-- A record is read back from its written form. -/
theorem readBy_reader (layout : Layout) (depth : Nat) (record : Record) :
    Reader.ReadBy reader (record.toJson.chars layout depth) record := by
  have parts : (record.written.map fun entry => (entry.1.name, entry.2)).map (fun m =>
      Json.quoted m.1 ++ layout.colon ++ m.2.chars layout (depth + 1)) =
        record.written.map (member layout (depth + 1)) := by
    rw [List.map_map]
    rfl
  rw [toJson_eq, Json.chars, parts]
  refine Reader.readBy_bracketed layout depth (by decide) (by decide)
    fun gap closing rest blank closed => ?_
  have solid : ∀ entry ∈ record.written, member layout (depth + 1) entry ≠ [] :=
    fun _ _ => List.cons_ne_nil _ _
  have enough := Json.length_lt_separated solid (layout.lineStart (depth + 1)) closing
    rest '\x7d' true
  have found := members_separated layout (depth + 1) (layout.blank_lineStart (depth + 1))
    closed rest record (fun _ => mem_written) record.nodup_fields_written []
    (fun _ _ => List.not_mem_nil) enough true {}
  rw [reader, Reader.bind_of_ok (Reader.peek_gap blank (by decide) _)]
  refine (Reader.bind_of_ok (Reader.skip_cons '\x7b' _)).trans ?_
  rw [Reader.bind_of_ok (Reader.get_eq _), Reader.bind_of_ok found, foldl_copied_written]
  rfl

end Record

namespace Changelog

open Json (Reader Layout)

/-- The records of a changelog are read back from its written form. -/
theorem readBy_object_records (changelog : Changelog) :
    Reader.ReadBy (.object Record.reader) (changelog.toJson.chars .indented 0)
      changelog.records := by
  have members : changelog.toJson =
      .obj (changelog.records.map fun entry => (entry.1, entry.2.toJson)) := rfl
  rw [members, Json.chars, List.map_map]
  exact Reader.readBy_object .indented 0 (fun record => record.toJson.chars .indented 1)
    fun entry _ => Record.readBy_reader .indented 1 entry.2

/-- The records of a changelog make a table as they stand. -/
theorem entries_ofList_records (changelog : Changelog) :
    (Table.ofList changelog.records).entries = changelog.records := by
  have mapped : changelog.records = (changelog.map fun _ r => Record.ofRequirement r).entries := rfl
  rw [mapped, Table.ofList_entries]

/-- A changelog that was built is read back from its text, with its entries in their order. -/
theorem parse_text_of_built {changelog : Changelog} (built : Built changelog) :
    parse changelog.text = .ok changelog := by
  have members : (Reader.object Record.reader).parse changelog.text = .ok changelog.records :=
    (readBy_object_records changelog).parse
  rw [parse, members]
  simp only [entries_ofList_records]
  exact ofRecords_records built.named

/--
Two changelogs merged up to the name they share: a quote, a control character, texts and items that
are empty.
-/
def halfMerged : Changelog :=
  (merge
    (ofEntries [("a\"\\", { added := some ⟨4, none⟩, note := some "\x01\n\t", items := some [] })])
    (ofEntries [
      ("", { removed := some ⟨13, some 0⟩, note := some "", items := some ["", "é/\x7f"] }),
      ("a\"\\", { deprecated := some ⟨9, none⟩ }),
      ("late", { added := some ⟨10, none⟩ })])).1

theorem halfMerged_read_back :
    Built halfMerged ∧ halfMerged.names = ["a\"\\", ""] ∧
      parse halfMerged.text = .ok halfMerged := by
  have built : Built halfMerged := .merge (.ofEntries _) (.ofEntries _)
  exact ⟨built, by decide, parse_text_of_built built⟩

end Changelog

end VersionFloor
