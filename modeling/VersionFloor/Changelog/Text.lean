import VersionFloor.Changelog
import VersionFloor.Json.Reader
import VersionFloor.Json.Value

set_option autoImplicit false

namespace VersionFloor

/-- The fields of a record. -/
inductive Record.Field
  | added
  | deprecated
  | removed
  | note
  | items
deriving DecidableEq

namespace Record

namespace Field

def all : List Field :=
  [added, deprecated, removed, note, items]

def name : Field → String
  | added => "added"
  | deprecated => "deprecated"
  | removed => "removed"
  | note => "note"
  | items => "items"

def ofName? (text : String) : Option Field :=
  all.find? (·.name = text)

open Json (Reader)

/-- Reads the value of a field into a record. -/
def read (field : Field) (record : Record) : Reader Record := do
  match field with
  | added => return { record with added := ← Reader.optional Reader.text }
  | deprecated => return { record with deprecated := ← Reader.optional Reader.text }
  | removed => return { record with removed := ← Reader.optional Reader.text }
  | note => return { record with note := ← Reader.optional Reader.text }
  | items => return { record with items := ← Reader.optional (Reader.list Reader.text) }

end Field

open Json (Reader)

/--
Fails because of a name; the place is after the name and a closing brace that follows at once.
-/
def refuseName {α : Type} (cause : Json.Cause) : Reader α := do
  if (← Reader.peek) = some '\x7d' then Reader.skip
  Reader.fail cause

/--
The members of a record, after those in `seen`; a field occurs once, so `fuel` of them suffice.
-/
def members (seen : List Field) (record : Record) : Nat → Bool → Reader Record
  | 0, _ => Reader.failAhead .endOfObject
  | fuel + 1, isFirst => do
    if ← Reader.moreMembers isFirst then
      let name ← Reader.key
      match Field.ofName? name with
      | none => refuseName (.unknownField name (Field.all.map Field.name))
      | some field =>
        if field ∈ seen then refuseName (.duplicateField name)
        else
          Reader.colon
          members (field :: seen) (← field.read record) fuel false
    else return record

/-- The values of the fields in their order, as many as there are. -/
def values (record : Record) : List Field → Bool → Reader Record
  | [], _ => return record
  | field :: rest, isFirst => do
    if ← Reader.moreItems isFirst then values (← field.read record) rest false
    else return record

/-- A record is an object, or a list of up to five values in the order of the fields. -/
def reader : Reader Record := do
  match ← Reader.peek with
  | some '[' =>
    Reader.skip
    let record ← values {} Field.all true
    Reader.listEnd
    return record
  | some '\x7b' =>
    Reader.skip
    let record ← members [] {} (← get).length true
    Reader.skip
    return record
  | _ => Reader.refuse "struct RequirementRecord"

/-- A record as JSON, without the fields that are absent. -/
def toJson (record : Record) : Json :=
  Json.sparse [
    ("added", record.added.map Json.str),
    ("deprecated", record.deprecated.map Json.str),
    ("removed", record.removed.map Json.str),
    ("note", record.note.map Json.str),
    ("items", record.items.map fun items => Json.arr (items.map Json.str))]

end Record

/-- A requirement as JSON; a version that is absent is null, another field is left out. -/
def Requirement.toJson (r : Requirement) : Json :=
  let version (v : Option Version) : Json := Json.ofOption (v.map Version.text)
  Json.sparse [
    ("name", r.name.map Json.str),
    ("added", some (version r.added)),
    ("deprecated", some (version r.deprecated)),
    ("removed", some (version r.removed)),
    ("note", r.note.map Json.str),
    ("items", r.items.map fun items => Json.arr (items.map Json.str))]

namespace Changelog

/--
Reads a changelog; of a name that is written twice the last record counts, in the first place.
-/
def parse (text : String) : Except Fault Changelog :=
  match (Json.Reader.object Record.reader).parse text with
  | .error fault => .error (.malformed (fault.message text))
  | .ok members => ofRecords (Table.ofList members).entries

def toJson (changelog : Changelog) : Json :=
  Json.obj (changelog.records.map fun (name, record) => (name, record.toJson))

/-- The changelog as indented JSON. -/
def text (changelog : Changelog) : String :=
  changelog.toJson.pretty

end Changelog

end VersionFloor
