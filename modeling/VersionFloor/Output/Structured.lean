import VersionFloor.Report

set_option autoImplicit false

namespace VersionFloor

namespace Output

/-- A table as an object of its requirements. -/
def tableJson (table : Table Requirement) : Json :=
  .obj (table.entries.map fun (name, r) => (name, r.toJson))

def reportJson (report : Report) : Json :=
  .obj [
    ("path", .str report.path),
    ("detected_version", .str report.version.text),
    ("language_requirements", tableJson report.language),
    ("module_requirements", tableJson report.modules)]

def failureJson (failure : Failure) : Json :=
  .obj [("path", .str failure.path), ("message", .str failure.message)]

def resultsJson (results : Results) : Json :=
  .obj [
    ("reports", .arr (results.reports.map reportJson)),
    ("failures", .arr (results.failures.map failureJson))]

end Output

end VersionFloor
