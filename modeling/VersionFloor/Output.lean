import VersionFloor.Output.Csv
import VersionFloor.Output.Structured
import VersionFloor.Output.Text

set_option autoImplicit false

namespace VersionFloor

inductive OutputFormat
  | text
  | json
  | csv
deriving DecidableEq

namespace OutputFormat

def all : List OutputFormat :=
  [text, json, csv]

def name : OutputFormat → String
  | text => "text"
  | json => "json"
  | csv => "csv"

/--
The format of a name in any case; no letter outside ASCII has one of these names' letters as lower
case.
-/
def ofName? (word : String) : Option OutputFormat :=
  all.find? (·.name = word.toLower)

def refusal (word : String) : String :=
  s!"Invalid output format: {word}"

/-- The results in the format; the style is that of text. -/
def render (format : OutputFormat) (style : Output.TextStyle) (results : Results) : String :=
  match format with
  | text => Output.text style results
  | json => (Output.resultsJson results).pretty
  | csv => Output.Csv.text results

end OutputFormat

end VersionFloor
