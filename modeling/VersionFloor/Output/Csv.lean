import VersionFloor.Report

set_option autoImplicit false

namespace VersionFloor.Output.Csv

def needsQuotes (field : List Char) : Bool :=
  field.any fun c => c = ',' || c = '"' || c = '\r' || c = '\n'

/-- The quotes of a text doubled. -/
def doubled (field : List Char) : List Char :=
  field.flatMap fun c => if c = '"' then ['"', '"'] else [c]

/-- A field is quoted only where a comma, a quote or a line break in it makes that necessary. -/
def fieldChars (field : List Char) : List Char :=
  if needsQuotes field then '"' :: doubled field ++ ['"'] else field

/-- A record of several fields on its line. -/
def recordChars (fields : List String) : List Char :=
  List.intercalate [','] (fields.map fun field => fieldChars field.toList) ++ ['\n']

def chars (records : List (List String)) : List Char :=
  records.flatMap recordChars

def header : List String :=
  ["File", "Detected Version", "Kind", "Feature", "Added", "Deprecated", "Removed", "Note"]

/-- The text of a version; nothing if there is none. -/
def versionCell (version : Option Version) : String :=
  (version.map Version.text).getD ""

def rows (report : Report) (kind : String) (table : Table Requirement) : List (List String) :=
  table.entries.map fun (name, r) =>
    [report.path, report.version.text, kind, name, versionCell r.added, versionCell r.deprecated,
     versionCell r.removed, r.note.getD ""]

/-- A row for each requirement; a script without any has one row too. -/
def reportRows (report : Report) : List (List String) :=
  if report.hasRequirements then
    rows report "language" report.language ++ rows report "module" report.modules
  else [[report.path, report.version.text, "", "", "", "", "", ""]]

def records (results : Results) : List (List String) :=
  header :: results.reports.flatMap reportRows

def text (results : Results) : String :=
  String.ofList (chars (records results))

end VersionFloor.Output.Csv
