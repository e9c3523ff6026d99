import VersionFloor.Output.Text
import VersionFloor.Proofs.Report.Listing
import VersionFloor.Proofs.Text.Lines
import VersionFloor.Proofs.Version.Text

set_option autoImplicit false

namespace VersionFloor.Output

/-- What may stand between the bracket and the `m` of a colour sequence. -/
def isParameter (c : Char) : Bool :=
  c.isDigit || c = ';'

/-- The text behind the colour sequence with which it begins, if it does. -/
def behindSequence? : List Char → Option (List Char)
  | '\x1b' :: '[' :: rest =>
    match rest.dropWhile isParameter with
    | 'm' :: behind => some behind
    | _ => none
  | _ => none

theorem length_of_behindSequence? {cs behind : List Char}
    (found : behindSequence? cs = some behind) :
    behind.length < cs.length := by
  unfold behindSequence? at found
  split at found
  · next rest =>
    split at found
    · next same =>
      cases found
      have shorter := (List.dropWhile_sublist isParameter (l := rest)).length_le
      rw [same, List.length_cons] at shorter
      simp only [List.length_cons]
      omega
    · cases found
  · cases found

def unpainted : List Char → List Char
  | [] => []
  | c :: rest =>
    match _sequence : behindSequence? (c :: rest) with
    | some behind => unpainted behind
    | none => c :: unpainted rest
termination_by cs => cs.length
decreasing_by
  · exact length_of_behindSequence? _sequence
  · exact Nat.lt_succ_self _

theorem unpainted_cons {c : Char} (plain : c ≠ '\x1b') (rest : List Char) :
    unpainted (c :: rest) = c :: unpainted rest := by
  have none : behindSequence? (c :: rest) = none := by
    unfold behindSequence?
    split
    · next same => exact absurd (List.cons.inj same).1 plain
    · rfl
  rw [unpainted]
  split
  · next found => cases none.symm.trans found
  · rfl

theorem unpainted_append {front : List Char} (free : '\x1b' ∉ front) (rest : List Char) :
    unpainted (front ++ rest) = front ++ unpainted rest := by
  induction front with
  | nil => rfl
  | cons c front ih =>
    rw [List.mem_cons, not_or] at free
    rw [List.cons_append, unpainted_cons (Ne.symm free.1), ih free.2, List.cons_append]

theorem unpainted_sequence {parameters : List Char} (all : ∀ c ∈ parameters, isParameter c = true)
    (rest : List Char) :
    unpainted ('\x1b' :: '[' :: (parameters ++ 'm' :: rest)) = unpainted rest := by
  have behind : behindSequence? ('\x1b' :: '[' :: (parameters ++ 'm' :: rest)) = some rest := by
    have left : (parameters ++ 'm' :: rest).dropWhile isParameter = 'm' :: rest := by
      rw [List.dropWhile_append_of_pos all]
      rfl
    simp only [behindSequence?, left]
  rw [unpainted]
  split
  · next found => rw [Option.some.inj (behind.symm.trans found)]
  · next found => cases behind.symm.trans found

theorem isParameter_code (role : Role) : ∀ c ∈ role.code.toList, isParameter c = true := by
  rw [← List.all_eq_true]
  cases role <;> decide

/-- A painted text is shown as the text. -/
theorem unpainted_paint {text : String} (free : '\x1b' ∉ text.toList) (role : Role)
    (rest : List Char) :
    unpainted ((paint true role text).toList ++ rest) = text.toList ++ unpainted rest := by
  have written : (paint true role text).toList ++ rest =
      '\x1b' :: '[' ::
        (role.code.toList ++ 'm' :: (text.toList ++ '\x1b' :: '[' :: (['0'] ++ 'm' :: rest))) := by
    simp [paint]
  have reset : ∀ c ∈ ['0'], isParameter c = true := List.forall_mem_singleton.2 (by decide)
  rw [written, unpainted_sequence (isParameter_code role), unpainted_append free,
    unpainted_sequence reset]

/-- The painted text shows the lines of the plain one, whatever lines follow. -/
def Alike (painted plain : String) : Prop :=
  ∀ rest other, Text.trimmedLines (unpainted rest) = Text.trimmedLines other →
    Text.trimmedLines (unpainted (painted.toList ++ rest)) =
      Text.trimmedLines (plain.toList ++ other)

theorem alike_of_unpainted {painted plain : String}
    (shown : ∀ rest, unpainted (painted.toList ++ rest) = plain.toList ++ unpainted rest) :
    Alike painted plain := by
  intro rest other same
  rw [shown]
  exact Text.trimmedLines_append_congr same plain.toList

def Free (text : String) : Prop :=
  '\x1b' ∉ text.toList

instance (text : String) : Decidable (Free text) :=
  inferInstanceAs (Decidable ('\x1b' ∉ text.toList))

theorem Free.append {first second : String} (one : Free first) (other : Free second) :
    Free (first ++ second) := by
  rw [Free, String.toList_append, List.mem_append, not_or]
  exact ⟨one, other⟩

theorem Free.alike {text : String} (free : Free text) : Alike text text :=
  alike_of_unpainted (unpainted_append free)

theorem Free.alike_paint {text : String} (free : Free text) (role : Role) :
    Alike (paint true role text) (paint false role text) :=
  alike_of_unpainted (unpainted_paint free role)

theorem Alike.append {painted plain morePainted morePlain : String} (first : Alike painted plain)
    (second : Alike morePainted morePlain) :
    Alike (painted ++ morePainted) (plain ++ morePlain) := by
  intro rest other same
  rw [String.toList_append, String.toList_append, List.append_assoc, List.append_assoc]
  exact first _ _ (second rest other same)

theorem alike_join {α : Type} {values : List α} {painted plain : α → String}
    (each : ∀ value ∈ values, Alike (painted value) (plain value)) :
    Alike (String.join (values.map painted)) (String.join (values.map plain)) := by
  induction values with
  | nil =>
    intro rest other same
    exact same
  | cons value values ih =>
    obtain ⟨here, later⟩ := List.forall_mem_cons.1 each
    rw [List.map_cons, List.map_cons, String.join_cons, String.join_cons]
    exact here.append (ih later)

theorem Alike.trimLines_eq {painted plain : String} (alike : Alike painted plain) :
    Text.trimLines (unpainted painted.toList) = Text.trimLines plain.toList := by
  have same := alike [] [] (by rw [unpainted])
  rw [List.append_nil, List.append_nil] at same
  rw [Text.trimLines, Text.trimLines, same]

theorem mem_of_mem_intercalate {separator : List Char} {parts : List (List Char)} {c : Char}
    (held : c ∈ List.intercalate separator parts) : c ∈ separator ∨ ∃ part ∈ parts, c ∈ part := by
  induction parts with
  | nil => exact absurd held List.not_mem_nil
  | cons part parts ih =>
    cases parts with
    | nil =>
      rw [List.intercalate_singleton] at held
      exact Or.inr ⟨part, List.mem_cons_self, held⟩
    | cons next parts =>
      rw [List.intercalate_cons_cons, List.append_assoc, List.mem_append, List.mem_append] at held
      rcases held with here | between | later
      · exact Or.inr ⟨part, List.mem_cons_self, here⟩
      · exact Or.inl between
      · rcases ih later with between | ⟨other, listed, inside⟩
        · exact Or.inl between
        · exact Or.inr ⟨other, List.mem_cons_of_mem part listed, inside⟩

/-- The text of a version has digits and dots only. -/
theorem mem_versionText {v : Version} {c : Char} (held : c ∈ v.text.toList) :
    c = '.' ∨ c.isDigit = true := by
  rw [← v.split_text.joined] at held
  rcases mem_of_mem_intercalate held with dot | ⟨part, listed, inside⟩
  · exact Or.inl (List.mem_singleton.1 dot)
  · obtain ⟨n, -, rfl⟩ := List.mem_map.1 listed
    exact Or.inr (Nat.isDigit_of_mem_toDigits (by decide) (by decide) inside)

theorem not_mem_versionText {c : Char} (notDot : c ≠ '.') (notDigit : c.isDigit = false)
    (v : Version) :
    c ∉ v.text.toList := by
  intro held
  rcases mem_versionText held with dot | digit
  · exact notDot dot
  · rw [notDigit] at digit
    cases digit

theorem free_versionText (v : Version) : Free v.text :=
  not_mem_versionText (by decide) (by decide) v

theorem free_toString (n : Nat) : Free (toString n) := by
  intro held
  have digits : (toString n).toList = Nat.toDigits 10 n := Nat.toList_repr
  rw [digits] at held
  exact absurd (Nat.isDigit_of_mem_toDigits (by decide) (by decide) held) (by decide)

theorem free_padded {text : String} (free : Free text) (width : Nat) :
    Free (padded width text) := by
  refine free.append ?_
  rw [Free, String.toList_ofList]
  intro held
  exact absurd (List.eq_of_mem_replicate held) (by decide)

theorem free_lifecycle (r : Requirement) : Free (lifecycle r) := by
  intro held
  rw [lifecycle, String.toList_intercalate] at held
  rcases mem_of_mem_intercalate held with between | ⟨part, listed, inside⟩
  · exact absurd between (by decide)
  · obtain ⟨said, stated, rfl⟩ := List.mem_map.1 listed
    rcases List.mem_append.1 stated with deprecated | removed
    · obtain ⟨v, -, rfl⟩ := Option.map_eq_some_iff.1 (Option.mem_toList.1 deprecated)
      exact Free.append (by decide) (free_versionText v) inside
    · obtain ⟨v, -, rfl⟩ := Option.map_eq_some_iff.1 (Option.mem_toList.1 removed)
      exact Free.append (by decide) (free_versionText v) inside

def untrimmedRow (colors : Bool) (name added note : String) : String :=
  "  " ++ padded 30 name ++ " " ++ paint colors .version (padded 14 added) ++ " " ++
    paint colors .note note

def shownNote (style : TextStyle) (r : Requirement) : String :=
  if style.notes then r.note.getD "" else ""

theorem requirementRow_eq (style : TextStyle) (name : String) {r : Requirement} {v : Version}
    (added : r.added = some v) :
    requirementRow style name r =
      trimmed (untrimmedRow style.colors name ("Python " ++ v.text) (shownNote style r)) ++
        "\n" := by
  rw [requirementRow, added]
  rfl

theorem alike_untrimmedRow {name added note : String} (freeName : Free name)
    (freeAdded : Free added) (freeNote : Free note) :
    Alike (untrimmedRow true name added note) (untrimmedRow false name added note) := by
  have named : Alike ("  " ++ padded 30 name ++ " ") ("  " ++ padded 30 name ++ " ") := by
    apply Free.alike
    exact ((Free.append (by decide) (free_padded freeName 30))).append (by decide)
  have version := (free_padded freeAdded 14).alike_paint .version
  have gap : Alike " " " " := Free.alike (by decide)
  exact ((named.append version).append gap).append (freeNote.alike_paint .note)

/-- A painted row ends in a sequence, so there is nothing to trim. -/
theorem trimmed_painted (name added note : String) :
    trimmed (untrimmedRow true name added note) = untrimmedRow true name added note := by
  have ends : ∃ front, (untrimmedRow true name added note).toList = front ++ ['m'] := by
    refine ⟨("  " ++ padded 30 name ++ " " ++ paint true .version (padded 14 added) ++ " " ++
      ("\x1b[" ++ Role.note.code ++ "m" ++ note ++ "\x1b[0")).toList, ?_⟩
    simp [untrimmedRow, paint]
  obtain ⟨front, ends⟩ := ends
  rw [trimmed, ends, Text.trimRight_concat (by decide), ← ends, String.ofList_toList]

theorem toList_line (line : String) (rest : List Char) :
    (line ++ "\n").toList ++ rest = line.toList ++ '\n' :: rest := by
  simp

/--
Without colours the row is trimmed within its last line, which begins with a version at the latest.
-/
theorem trimmedLines_trimmed {note : String} (single : '\n' ∉ note.toList) (name : String)
    (v : Version) (rest : List Char) :
    Text.trimmedLines
      ((trimmed (untrimmedRow false name ("Python " ++ v.text) note) ++ "\n").toList ++ rest) =
      Text.trimmedLines
        ((untrimmedRow false name ("Python " ++ v.text) note ++ "\n").toList ++ rest) := by
  have divided : (untrimmedRow false name ("Python " ++ v.text) note).toList =
      ("  " ++ padded 30 name ++ " ").toList ++
        (padded 14 ("Python " ++ v.text) ++ " " ++ note).toList := by
    simp [untrimmedRow, paint]
  have visible : ∃ c ∈ (padded 14 ("Python " ++ v.text) ++ " " ++ note).toList,
      Text.isBlank c = false :=
    ⟨'P', by simp [padded], by decide⟩
  have lastLine : '\n' ∉ (padded 14 ("Python " ++ v.text) ++ " " ++ note).toList := by
    have version : '\n' ∉ v.text.toList := not_mem_versionText (by decide) (by decide) v
    simp [padded, version, single]
  rw [toList_line, toList_line, trimmed, String.toList_ofList, divided]
  exact Text.trimmedLines_trimRight _ lastLine visible rest

theorem alike_requirementRow {style : TextStyle} {name : String} {r : Requirement} {v : Version}
    (added : r.added = some v) (freeName : Free name) (freeNote : Free (shownNote style r))
    (single : '\n' ∉ (shownNote style r).toList) :
    Alike (requirementRow { style with colors := true } name r)
      (requirementRow { style with colors := false } name r) := by
  have freeAdded : Free ("Python " ++ v.text) := Free.append (by decide) (free_versionText v)
  have untrimmed : Alike (untrimmedRow true name ("Python " ++ v.text) (shownNote style r) ++ "\n")
      (untrimmedRow false name ("Python " ++ v.text) (shownNote style r) ++ "\n") :=
    (alike_untrimmedRow freeName freeAdded freeNote).append (Free.alike (by decide))
  intro rest other same
  rw [requirementRow_eq _ name added, requirementRow_eq _ name added, trimmed_painted]
  exact (untrimmed rest other same).trans (trimmedLines_trimmed single name v other).symm

/-- The texts of a feature in which no escape character stands, and no line break in its note. -/
structure CleanEntry (entry : String × Requirement) : Prop where
  name : Free entry.1
  note : ∀ note, entry.2.note = some note → Free note ∧ '\n' ∉ note.toList

/-- Results in whose texts no escape character stands, and no line break in a note. -/
structure Clean (results : Results) : Prop where
  paths : ∀ report ∈ results.reports, Free report.path
  language : ∀ report ∈ results.reports, ∀ entry ∈ report.language.entries, CleanEntry entry
  modules : ∀ report ∈ results.reports, ∀ entry ∈ report.modules.entries, CleanEntry entry
  failures : ∀ failure ∈ results.failures, Free failure.path ∧ Free failure.message

theorem CleanEntry.shownNote {entry : String × Requirement} (clean : CleanEntry entry)
    (style : TextStyle) :
    Free (shownNote style entry.2) ∧ '\n' ∉ (Output.shownNote style entry.2).toList := by
  rw [Output.shownNote]
  split
  · cases stated : entry.2.note with
    | none => exact ⟨by decide, by decide⟩
    | some note => exact clean.note note stated
  · exact ⟨by decide, by decide⟩

theorem alike_tableText (style : TextStyle) {table : Table Requirement}
    (clean : ∀ entry ∈ table.entries, CleanEntry entry) :
    Alike (tableText { style with colors := true } table)
      (tableText { style with colors := false } table) := by
  have rows : ∀ entry ∈ Report.required table,
      Alike (requirementRow { style with colors := true } entry.1 entry.2)
        (requirementRow { style with colors := false } entry.1 entry.2) := by
    intro entry listed
    rw [Report.required_eq, Report.mem_listing, Option.isSome_iff_exists] at listed
    obtain ⟨held, v, added⟩ := listed
    obtain ⟨freeNote, single⟩ := (clean entry held).shownNote style
    exact alike_requirementRow added (clean entry held).name freeNote single
  have warnings : ∀ entry ∈ Report.warnings table,
      Alike ("  " ++ entry.1 ++ " is " ++ lifecycle entry.2 ++ "\n")
        ("  " ++ entry.1 ++ " is " ++ lifecycle entry.2 ++ "\n") := by
    intro entry listed
    rw [Report.warnings_eq, Report.mem_listing] at listed
    have named : Free ("  " ++ entry.1) := Free.append (by decide) (clean entry listed.1).name
    exact (((named.append (by decide)).append (free_lifecycle entry.2)).append (by decide)).alike
  have caution : Free "Warning: Found deprecated or removed features:" := by decide
  have header : Alike
      ("\n" ++ paint true .caution "Warning: Found deprecated or removed features:" ++ "\n\n")
      ("\n" ++ paint false .caution "Warning: Found deprecated or removed features:" ++ "\n\n") :=
    ((Free.alike (by decide)).append (caution.alike_paint .caution)).append (Free.alike (by decide))
  unfold tableText
  refine ((alike_join rows).append ?_).append (alike_join warnings)
  split
  · exact Free.alike (by decide)
  · exact header

theorem alike_reportText (style : TextStyle) {report : Report} (path : Free report.path)
    (language : ∀ entry ∈ report.language.entries, CleanEntry entry)
    (modules : ∀ entry ∈ report.modules.entries, CleanEntry entry) :
    Alike (reportText { style with colors := true } report)
      (reportText { style with colors := false } report) := by
  have file : Alike ("\nFile: " ++ paint true .path report.path ++ "\n")
      ("\nFile: " ++ paint false .path report.path ++ "\n") :=
    ((Free.alike (by decide)).append (path.alike_paint .path)).append (Free.alike (by decide))
  have version := (free_versionText report.version).alike_paint .result
  unfold reportText
  refine ((file.append (Free.alike (by decide))).append version).append
    (Free.alike (by decide)) |>.append ?_
  split
  · have heading : Alike "Requirements:\n\n" "Requirements:\n\n" := Free.alike (by decide)
    exact (heading.append (alike_tableText style language)).append (alike_tableText style modules)
  · exact Free.alike (by decide)

theorem alike_failuresText (style : TextStyle) {failures : List Failure}
    (clean : ∀ failure ∈ failures, Free failure.path ∧ Free failure.message) :
    Alike (failuresText { style with colors := true } failures)
      (failuresText { style with colors := false } failures) := by
  have count : Free ("\nSkipped " ++ toString failures.length ++ " script(s):") :=
    (Free.append (by decide) (free_toString failures.length)).append (by decide)
  have skipped : ∀ failure ∈ failures,
      Alike ("  " ++ failure.path ++ ": " ++ failure.message ++ "\n")
      ("  " ++ failure.path ++ ": " ++ failure.message ++ "\n") := by
    intro failure listed
    obtain ⟨path, message⟩ := clean failure listed
    have named : Free ("  " ++ failure.path) := Free.append (by decide) path
    exact (((named.append (by decide)).append message).append (by decide)).alike
  unfold failuresText
  split
  · exact Free.alike (by decide)
  · exact ((count.alike_paint .failure).append (Free.alike (by decide))).append (alike_join skipped)

theorem free_quietLine {report : Report} (path : Free report.path) : Free (quietLine report) :=
  ((path.append (by decide)).append (free_versionText report.version)).append (by decide)

/--
The text with colours is, without its colour sequences and without white space at the ends of its
lines, the text without colours, whether notes are shown or not and whether the output is quiet or
not.
-/
theorem colors_keep_content (style : TextStyle) {results : Results} (clean : Clean results) :
    Text.trimLines (unpainted (text { style with colors := true } results).toList) =
      Text.trimLines (text { style with colors := false } results).toList := by
  apply Alike.trimLines_eq
  unfold text
  split
  · exact alike_join fun report listed => (free_quietLine (clean.paths report listed)).alike
  · refine (alike_join fun report listed => ?_).append (alike_failuresText style clean.failures)
    exact alike_reportText style (clean.paths report listed) (clean.language report listed)
      (clean.modules report listed)

/--
Results with a line break in a name, white space at the end of a note and a script that was skipped.
-/
def motley : Results where
  reports := [{
    path := "a b.py "
    version := ⟨10, some 4⟩
    language :=
      ⟨[("match\n\u2028statement ",
        { added := some ⟨10, some 4⟩, note := some "soft keywords \t\r" })], by decide⟩
    modules :=
      ⟨[("imp", { deprecated := some ⟨4, none⟩, removed := some ⟨12, some 1⟩ })], by decide⟩ }]
  failures := [⟨"c.py", "broken \n"⟩]

theorem clean_motley : Clean motley where
  paths := by decide
  language := by
    simp only [motley, List.forall_mem_singleton]
    refine ⟨by decide, fun note stated => ?_⟩
    cases stated
    exact ⟨by decide, by decide⟩
  modules := by
    simp only [motley, List.forall_mem_singleton]
    refine ⟨by decide, fun note stated => ?_⟩
    cases stated
  failures := by decide

theorem motley_keeps_content :
    Clean motley ∧ Text.trimLines
      (unpainted (text { colors := true, notes := true } motley).toList) =
      Text.trimLines (text { colors := false, notes := true } motley).toList :=
  ⟨clean_motley, colors_keep_content { notes := true } clean_motley⟩

end VersionFloor.Output
