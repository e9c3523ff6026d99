import VersionFloor.Changelog.Text
import VersionFloor.Error

set_option autoImplicit false

namespace VersionFloor

structure Changelogs where
  language : Changelog
  modules : Changelog
  functions : Changelog
  exceptions : Changelog

namespace Changelogs

def get (changelogs : Changelogs) : Category → Changelog
  | .language => changelogs.language
  | .modules => changelogs.modules
  | .functions => changelogs.functions
  | .exceptions => changelogs.exceptions

/-- The changelogs of all categories, or the error of the first that fails. -/
def load {ε : Type} (changelog : Category → Except ε Changelog) : Except ε Changelogs := do
  return {
    language := ← changelog .language
    modules := ← changelog .modules
    functions := ← changelog .functions
    exceptions := ← changelog .exceptions }

end Changelogs

/-- The changelog of a text that comes from `origin`. -/
def Changelog.ofText (origin text : String) : Except Error Changelog :=
  match Changelog.parse text with
  | .ok changelog => .ok changelog
  | .error fault => .error (.badChangelog origin fault)

end VersionFloor
