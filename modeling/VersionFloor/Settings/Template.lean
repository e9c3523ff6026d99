set_option autoImplicit false

namespace VersionFloor.Settings

def templateLines : List String := [
  "# detect-version configuration",
  "#",
  "# Every key is optional. Command-line flags and DETECT_VERSION_* environment",
  "# variables override the values below.",
  "",
  "# Version every script requires at minimum",
  "# baseline = \"3.0\"",
  "",
  "# Directory holding language.json, modules.json, functions.json and",
  "# exceptions.json. The data built into the binary is used when unset.",
  "# data_dir = \"changelogs\"",
  "",
  "# Glob patterns skipped while walking directories",
  "exclude_patterns = [\"__pycache__\", \".git\", \".venv\", \"venv\", \".tox\"]",
  "",
  "# Maximum directory depth to traverse",
  "# max_depth = 10",
  "",
  "# Follow symbolic links while walking directories",
  "follow_links = false",
  "",
  "# Output format: \"text\", \"json\" or \"csv\"",
  "output_format = \"text\"",
  "",
  "# Write the report to a file instead of stdout",
  "# output_file = \"requirements.txt\"",
  "",
  "# Print feature notes next to each requirement",
  "show_notes = false",
  "",
  "# Only print \"<file> requires: <version>\" lines",
  "quiet = false",
  "",
  "# Debug logging",
  "verbose = false",
  "",
  "# ANSI colours in text output",
  "use_colors = true"]

/-- The text of the file. -/
def template : String :=
  String.join (templateLines.map (· ++ "\n"))

end VersionFloor.Settings
