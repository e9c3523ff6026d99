import VersionFloor.Output.Csv

set_option autoImplicit false

namespace VersionFloor.Output.Csv

/-- Where in a field a reader stands. -/
inductive Mode
  | start
  | plain
  | quoted
  /-- Behind a quote in a quoted field, which is its end or the first of two. -/
  | closing
deriving DecidableEq

/-- What was read of the field and of the record at hand, and the records before it. -/
structure Scan where
  mode : Mode := .start
  field : List Char := []
  fields : List String := []
  records : List (List String) := []

namespace Scan

def push (s : Scan) (mode : Mode) (c : Char) : Scan :=
  { s with mode, field := s.field ++ [c] }

def ended (s : Scan) : List String :=
  s.fields ++ [String.ofList s.field]

/-- A comma ends the field and a line feed the record. -/
def separate (s : Scan) (c : Char) : Option Scan :=
  if c = ',' then some ⟨.start, [], s.ended, s.records⟩
  else if c = '\n' then some ⟨.start, [], [], s.records ++ [s.ended]⟩
  else none

/-- What stands in a field without quotes can be neither a quote nor a carriage return. -/
def unquoted (s : Scan) (c : Char) : Option Scan :=
  if c = '"' ∨ c = '\r' then none else (s.separate c).or (some (s.push .plain c))

def step (s : Scan) (c : Char) : Option Scan :=
  match s.mode with
  | .start => if c = '"' then some { s with mode := .quoted } else s.unquoted c
  | .plain => s.unquoted c
  | .quoted => some (if c = '"' then { s with mode := .closing } else s.push .quoted c)
  | .closing => if c = '"' then some (s.push .quoted c) else s.separate c

def run (s : Scan) (cs : List Char) : Option Scan :=
  cs.foldlM step s

end Scan

/-- The records of a text, in which every record ends in a line feed. -/
def decode (cs : List Char) : Option (List (List String)) :=
  (Scan.run {} cs).bind fun s => if s.mode = .start ∧ s.fields = [] then some s.records else none

namespace Scan

theorem run_cons (s : Scan) (c : Char) (rest : List Char) :
    s.run (c :: rest) = (s.step c).bind (·.run rest) :=
  List.foldlM_cons

def IsSeparator (c : Char) : Prop :=
  c = ',' ∨ c = '\n'

/-- Where the reader stands behind a field and its separator. -/
def next (s : Scan) (field : List Char) (separator : Char) : Scan :=
  let fields := s.fields ++ [String.ofList field]
  if separator = ',' then ⟨.start, [], fields, s.records⟩
  else ⟨.start, [], [], s.records ++ [fields]⟩

theorem separate_eq {c : Char} (ends : IsSeparator c) (s : Scan) :
    s.separate c = some (s.next s.field c) := by
  rcases ends with rfl | rfl <;> rfl

theorem unquoted_separator {c : Char} (ends : IsSeparator c) (s : Scan) :
    s.unquoted c = some (s.next s.field c) := by
  have other : ¬ (c = '"' ∨ c = '\r') := by rcases ends with rfl | rfl <;> decide
  rw [unquoted, if_neg other, separate_eq ends, Option.some_or]

/-- The characters that may stand outside of quotes. -/
def IsText (c : Char) : Prop :=
  c ≠ ',' ∧ c ≠ '"' ∧ c ≠ '\r' ∧ c ≠ '\n'

theorem needsQuotes_eq_false_iff {field : List Char} :
    needsQuotes field = false ↔ ∀ c ∈ field, IsText c := by
  simp [needsQuotes, IsText, List.any_eq_false, and_assoc]

theorem unquoted_text {c : Char} (ordinary : IsText c) (s : Scan) :
    s.unquoted c = some (s.push .plain c) := by
  obtain ⟨notComma, notQuote, notReturn, notFeed⟩ := ordinary
  rw [unquoted, if_neg (not_or.2 ⟨notQuote, notReturn⟩), separate, if_neg notComma, if_neg notFeed,
    Option.none_or]

theorem step_unquoted {c : Char} (notQuote : c ≠ '"') {s : Scan}
      (outside : s.mode = .start ∨ s.mode = .plain) :
    s.step c = s.unquoted c := by
  rcases outside with mode | mode
  · rw [step, mode]
    exact if_neg notQuote
  · rw [step, mode]

/-- A field without quotes is read up to its separator. -/
theorem run_text {field : List Char} (free : ∀ c ∈ field, IsText c) {separator : Char}
    (ends : IsSeparator separator) (s : Scan) (outside : s.mode = .start ∨ s.mode = .plain)
    (rest : List Char) :
    s.run (field ++ separator :: rest) = (s.next (s.field ++ field) separator).run rest := by
  induction field generalizing s with
  | nil =>
    have notQuote : separator ≠ '"' := by rcases ends with rfl | rfl <;> decide
    rw [List.nil_append, List.append_nil, run_cons, step_unquoted notQuote outside,
      unquoted_separator ends]
    rfl
  | cons c field ih =>
    obtain ⟨here, later⟩ := List.forall_mem_cons.1 free
    rw [List.cons_append, run_cons, step_unquoted here.2.1 outside, unquoted_text here,
      Option.bind_some, ih later (s.push .plain c) (Or.inr rfl)]
    simp only [push, next, List.append_assoc, List.singleton_append]

theorem doubled_cons (c : Char) (field : List Char) :
    doubled (c :: field) = (if c = '"' then ['"', '"'] else [c]) ++ doubled field :=
  List.flatMap_cons

/--
Between quotes a field is read up to the second of them; a quote of its own is not taken for the
end.
-/
theorem run_doubled (field : List Char) (s : Scan) (inside : s.mode = .quoted) (rest : List Char) :
    s.run (doubled field ++ '"' :: rest) =
      run { s with mode := .closing, field := s.field ++ field } rest := by
  induction field generalizing s with
  | nil =>
    have quote : s.step '"' = some { s with mode := .closing } := by
      rw [step, inside]
      rfl
    rw [doubled, List.flatMap_nil, List.nil_append, List.append_nil, run_cons, quote]
    rfl
  | cons c field ih =>
    have pushed : s.run ((if c = '"' then ['"', '"'] else [c]) ++ (doubled field ++ '"' :: rest)) =
        (s.push .quoted c).run (doubled field ++ '"' :: rest) := by
      split
      · next same =>
        subst same
        rw [List.cons_append, List.cons_append, List.nil_append, run_cons, step, inside]
        rfl
      · next other =>
        rw [List.singleton_append, run_cons, step, inside]
        simp only [if_neg other, Option.bind_some]
    rw [doubled_cons, List.append_assoc, pushed, ih (s.push .quoted c) rfl]
    simp only [push, List.append_assoc, List.singleton_append]

/-- A field is read as it was written, whether in quotes or without. -/
theorem run_fieldChars (field : List Char) {separator : Char} (ends : IsSeparator separator)
    (before : List String) (records : List (List String)) (rest : List Char) :
    run ⟨.start, [], before, records⟩ (fieldChars field ++ separator :: rest) =
      (next ⟨.start, [], before, records⟩ field separator).run rest := by
  rw [fieldChars]
  split
  · have notQuote : separator ≠ '"' := by rcases ends with rfl | rfl <;> decide
    have opening : step ⟨.start, [], before, records⟩ '"' = some ⟨.quoted, [], before, records⟩ :=
      rfl
    have closing : step ⟨.closing, field, before, records⟩ separator =
        some (next ⟨.start, [], before, records⟩ field separator) := by
      rw [step]
      simp only [if_neg notQuote, separate_eq ends]
      rfl
    rw [List.cons_append, List.cons_append, List.append_assoc, run_cons, opening, Option.bind_some,
      List.singleton_append, run_doubled field _ rfl, List.nil_append, run_cons, closing,
      Option.bind_some]
  · next free =>
    rw [Bool.not_eq_true, needsQuotes_eq_false_iff] at free
    rw [run_text free ends _ (Or.inl rfl), List.nil_append]

/-- A record is read as it was written. -/
theorem run_recordChars {fields : List String} (solid : fields ≠ []) (before : List String)
    (records : List (List String)) (rest : List Char) :
    run ⟨.start, [], before, records⟩ (recordChars fields ++ rest) =
      run ⟨.start, [], [], records ++ [before ++ fields]⟩ rest := by
  induction fields generalizing before with
  | nil => exact absurd rfl solid
  | cons field fields ih =>
    have behind : ∀ separator, next ⟨.start, [], before, records⟩ field.toList separator =
        if separator = ',' then ⟨.start, [], before ++ [field], records⟩
        else ⟨.start, [], [], records ++ [before ++ [field]]⟩ := by
      intro separator
      rw [next, String.ofList_toList]
    cases fields with
    | nil =>
      have written : recordChars [field] ++ rest = fieldChars field.toList ++ '\n' :: rest := by
        simp [recordChars]
      rw [written, run_fieldChars _ (Or.inr rfl), behind]
      rfl
    | cons following fields =>
      have written : recordChars (field :: following :: fields) ++ rest =
          fieldChars field.toList ++ ',' :: (recordChars (following :: fields) ++ rest) := by
        simp [recordChars]
      rw [written, run_fieldChars _ (Or.inl rfl), behind, if_pos rfl, ih (List.cons_ne_nil _ _),
        List.append_assoc, List.singleton_append]

theorem run_chars {records : List (List String)} (solid : ∀ record ∈ records, record ≠ [])
    (before : List (List String)) :
    run ⟨.start, [], [], before⟩ (chars records) = some ⟨.start, [], [], before ++ records⟩ := by
  induction records generalizing before with
  | nil =>
    rw [List.append_nil]
    rfl
  | cons record records ih =>
    obtain ⟨here, later⟩ := List.forall_mem_cons.1 solid
    rw [chars, List.flatMap_cons, run_recordChars here, List.nil_append]
    rw [← chars, ih later, List.append_assoc, List.singleton_append]

end Scan

/-- Records that have fields are read back. -/
theorem decode_chars {records : List (List String)} (solid : ∀ record ∈ records, record ≠ []) :
    decode (chars records) = some records := by
  rw [decode, Scan.run_chars solid []]
  rfl

/-- The cells of a requirement; what is absent leaves its cell empty. -/
def cells (report : Report) (kind : String) (entry : String × Requirement) : List String :=
  [report.path, report.version.text, kind, entry.1, entry.2.added.elim "" Version.text,
   entry.2.deprecated.elim "" Version.text, entry.2.removed.elim "" Version.text,
   entry.2.note.elim "" id]

/--
The rows of a report: one without a requirement, or those of the language and then those of the
modules.
-/
def shown (report : Report) : List (List String) :=
  match report.language.entries, report.modules.entries with
  | [], [] => [[report.path, report.version.text, "", "", "", "", "", ""]]
  | language, modules =>
    language.map (cells report "language") ++ modules.map (cells report "module")

theorem versionCell_eq (v : Option Version) : versionCell v = v.elim "" Version.text := by
  cases v <;> rfl

theorem rows_eq (report : Report) (kind : String) (table : Table Requirement) :
    rows report kind table = table.entries.map (cells report kind) := by
  apply List.map_congr_left
  intro entry _
  have note : entry.2.note.getD "" = entry.2.note.elim "" id := by cases entry.2.note <;> rfl
  simp only [cells, versionCell_eq, note]

theorem reportRows_eq_shown : reportRows = shown := by
  funext report
  rw [reportRows, shown, rows_eq, rows_eq, Report.hasRequirements]
  cases report.language.entries with
  | nil => cases report.modules.entries <;> rfl
  | cons entry entries => rfl

/-- Every row has a cell for each column. -/
theorem length_of_mem_records {results : Results} {record : List String}
    (listed : record ∈ records results) :
    record.length = header.length := by
  rcases List.mem_cons.1 listed with rfl | row
  · rfl
  · obtain ⟨report, -, held⟩ := List.mem_flatMap.1 row
    rw [reportRows, rows_eq, rows_eq] at held
    split at held
    · rcases List.mem_append.1 held with found | found
      · obtain ⟨entry, -, rfl⟩ := List.mem_map.1 found
        rfl
      · obtain ⟨entry, -, rfl⟩ := List.mem_map.1 found
        rfl
    · rw [List.mem_singleton.1 held]
      rfl

/--
The text is read as the header and the rows of the reports in their order, whatever characters stand
in paths, names and notes.
-/
theorem csv_read_back (results : Results) :
    decode (text results).toList =
      some (["File", "Detected Version", "Kind", "Feature", "Added", "Deprecated", "Removed",
        "Note"] ::
        results.reports.flatMap shown) := by
  have solid : ∀ record ∈ records results, record ≠ [] := by
    intro record listed
    rw [← List.length_pos_iff, length_of_mem_records listed]
    decide
  rw [text, String.toList_ofList, decode_chars solid, records, header, reportRows_eq_shown]

end VersionFloor.Output.Csv
