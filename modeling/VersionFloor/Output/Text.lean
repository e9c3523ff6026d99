import VersionFloor.Output.Paint
import VersionFloor.Report
import VersionFloor.Text.Blank

set_option autoImplicit false

namespace VersionFloor.Output

/-- How a report is written as text. -/
structure TextStyle where
  colors : Bool := false
  notes : Bool := false
  quiet : Bool := false

/-- The text without white space at its end. -/
def trimmed (text : String) : String :=
  String.ofList (Text.trimRight text.toList)

/-- The row of a required feature: its name, the version and perhaps a note. -/
def requirementRow (style : TextStyle) (name : String) (r : Requirement) : String :=
  let added := (r.added.map fun v => "Python " ++ v.text).getD ""
  let note := if style.notes then r.note.getD "" else ""
  trimmed ("  " ++ padded 30 name ++ " " ++ paint style.colors .version (padded 14 added) ++ " "
    ++ paint style.colors .note note) ++ "\n"

/-- When a feature was deprecated and removed. -/
def lifecycle (r : Requirement) : String :=
  " and ".intercalate
    ((r.deprecated.map fun v => "deprecated in " ++ v.text).toList
      ++ (r.removed.map fun v => "removed in " ++ v.text).toList)

/-- The required features of a table and then the warnings. -/
def tableText (style : TextStyle) (table : Table Requirement) : String :=
  let rows := (Report.required table).map fun (name, r) => requirementRow style name r
  let warnings := (Report.warnings table).map fun (name, r) =>
    "  " ++ name ++ " is " ++ lifecycle r ++ "\n"
  let header :=
    if warnings.isEmpty then ""
    else
      "\n" ++ paint style.colors .caution "Warning: Found deprecated or removed features:" ++ "\n\n"
  String.join rows ++ header ++ String.join warnings

def reportText (style : TextStyle) (report : Report) : String :=
  "\nFile: " ++ paint style.colors .path report.path ++ "\n"
    ++ "Detected version: " ++ paint style.colors .result report.version.text ++ "\n"
    ++ if report.hasRequirements then
        "Requirements:\n\n" ++ tableText style report.language ++ tableText style report.modules
      else "Requirements: None\n"

/-- The version that a script needs on one line. -/
def quietLine (report : Report) : String :=
  report.path ++ " requires: " ++ report.version.text ++ "\n"

def failuresText (style : TextStyle) (failures : List Failure) : String :=
  if failures.isEmpty then ""
  else
    paint style.colors .failure ("\nSkipped " ++ toString failures.length ++ " script(s):") ++ "\n"
      ++ String.join (failures.map fun f => "  " ++ f.path ++ ": " ++ f.message ++ "\n")

/-- The results as text; quiet output has one line for each script that was analysed. -/
def text (style : TextStyle) (results : Results) : String :=
  if style.quiet then String.join (results.reports.map quietLine)
  else String.join (results.reports.map (reportText style)) ++ failuresText style results.failures

end VersionFloor.Output
