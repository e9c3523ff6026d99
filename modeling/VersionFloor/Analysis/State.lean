import VersionFloor.Analysis.Trigger
import VersionFloor.Changelogs

set_option autoImplicit false

namespace VersionFloor.Analysis

open Script

/-- What has been found so far. -/
structure State where
  version : Version
  language : Table Requirement := {}
  modules : Table Requirement := {}
  /-- Local names and what imports bound them to. -/
  bindings : Table String := {}

/-- What a requirement is for. -/
inductive Subject
  | language
  | modules
deriving DecidableEq

namespace State

/-- The requirements of a subject. -/
def table (s : State) : Subject → Table Requirement
  | .language => s.language
  | .modules => s.modules

def setTable (s : State) (subject : Subject) (table : Table Requirement) : State :=
  match subject with
  | .language => { s with language := table }
  | .modules => { s with modules := table }

def fresh (baseline : Version) : State :=
  { version := baseline }

/-- The version needed when a feature with this requirement is used as well. -/
def raised (version : Version) (r : Requirement) : Version :=
  r.added.elim version version.max

/-- Adds a requirement under a new key. -/
def add (subject : Subject) (s : State) (key : String) : Option Requirement → State
  | none => s
  | some r =>
    if (s.table subject).contains key then s
    else { s with version := raised s.version r }.setTable subject ((s.table subject).insert key r)

abbrev addLanguage : State → String → Option Requirement → State := add .language

abbrev addModule : State → String → Option Requirement → State := add .modules

/-- The full name behind a dotted name whose root may be bound. -/
def resolve (s : State) (name : String) : String :=
  match s.bindings.get? (rootOf name) with
  | some origin => origin ++ afterRoot name
  | none => name

/-- Whether one of the names is among the items of the entry for generic types. -/
def usesGenerics (language : Changelog) (s : State) (names : List String) : Bool :=
  (language.get? Feature.genericHints.key).any fun generics =>
    names.any fun name => generics.hasItem (s.resolve name)

def addFeature (language : Changelog) (s : State) (feature : Feature) : State :=
  s.addLanguage feature.key (language.get? feature.key)

/-- The state after a trigger. -/
def apply (changelogs : Changelogs) (s : State) : Trigger → State
  | .feature feature => s.addFeature changelogs.language feature
  | .hint names =>
    if s.usesGenerics changelogs.language names then s.addFeature changelogs.language .genericHints
    else s
  | .function name => s.addLanguage (functionKey name) (changelogs.functions.get? name)
  | .exception name => s.addLanguage name (changelogs.exceptions.get? name)
  | .importName name => s.addModule name (changelogs.modules.get? name)
  | .chain name => s.addModule (s.resolve name) (changelogs.modules.get? (s.resolve name))
  | .bind name origin => { s with bindings := s.bindings.insert name origin }

end State

/-- The feature that the language changelog must have an entry for. -/
def Trigger.needs : Trigger → Option Feature
  | .feature f => some f
  | .hint _ => some .genericHints
  | _ => none

/-- The needed feature that has no entry. -/
def Trigger.missing? (language : Changelog) (trigger : Trigger) : Option Feature :=
  trigger.needs.filter fun f => !language.contains f.key

/--
The state that an analysis has come to, and the feature whose entry was missing if that ended it.
-/
abbrev Outcome := State × Option Feature

/-- Goes on from the state unless an entry was missing. -/
def Outcome.andThen (outcome : Outcome) (next : State → Outcome) : Outcome :=
  match outcome with
  | (s, none) => next s
  | (s, some feature) => (s, some feature)

/-- The state after the triggers, up to the first for which an entry is missing. -/
def run (changelogs : Changelogs) : State → List Trigger → Outcome
  | s, [] => (s, none)
  | s, trigger :: rest =>
    match trigger.missing? changelogs.language with
    | some feature => (s, some feature)
    | none => run changelogs (s.apply changelogs trigger) rest

/-- Records what a node triggers by itself. -/
def check (changelogs : Changelogs) (s : State) (node : Node) : Outcome :=
  run changelogs s node.triggers

/-- Checks a node, then visits the nodes right below it one after the other. -/
def visit (changelogs : Changelogs) (s : State) (node : Node) : Outcome :=
  node.children.attach.foldl
    (fun outcome ⟨child, _⟩ => outcome.andThen fun s => visit changelogs s child)
    (check changelogs s node)
termination_by sizeOf node
decreasing_by exact Node.allBelow_children node child ‹_›

/-- Analyses a script from a state on: visits its statements one after the other. -/
def analyze (changelogs : Changelogs) (s : State) (body : List Stmt) : Outcome :=
  body.foldl (fun outcome stmt => outcome.andThen fun s => visit changelogs s (.stmt stmt))
    (s, none)

end VersionFloor.Analysis
