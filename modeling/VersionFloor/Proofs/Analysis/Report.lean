import VersionFloor.Changelogs.Builtin
import VersionFloor.Proofs.Analysis.Import

set_option autoImplicit false

namespace VersionFloor.Analysis

open Script

variable {changelogs : Changelogs}

def inPreorder (body : List Stmt) : List Node :=
  (visits body).map (·.2)

theorem inPreorder_eq_nodes (body : List Stmt) : inPreorder body = nodes body := map_snd_visits body

/-- A node of a script and the nodes visited before it. -/
def Reached (body : List Stmt) (before : List Node) (node : Node) : Prop :=
  ∃ later, inPreorder body = before ++ node :: later

def Occurs (body : List Stmt) (node : Node) : Prop :=
  ∃ place, nodeAt? body place = some node

theorem occurs_iff_reached {body : List Stmt} {node : Node} :
    Occurs body node ↔ ∃ before, Reached body before node := by
  rw [Occurs, ← mem_nodes_iff, ← map_snd_visits, List.mem_iff_append]
  rfl

/-- A type hint of the node has a name in it that stands for a generic type under the bindings. -/
def NamesGeneric (language : Changelog) (bindings : String → Option String) (node : Node) : Prop :=
  ∃ generics hint part chain full, language.get? Feature.genericHints.key = some generics ∧
    Hinted node hint ∧ InHint hint part ∧ Chain.ofExpr? part = some chain ∧
    Resolves bindings chain.text full ∧ full ∈ generics.itemList

/-- The entries that a node finds for the language features, under the keys they are reported by. -/
inductive LanguageEntry (changelogs : Changelogs) (bindings : String → Option String)
    (node : Node) :
    String → Requirement → Prop
  | feature {feature : Feature} {r : Requirement} (shown : Shows node feature)
      (entry : changelogs.language.get? feature.key = some r) :
      LanguageEntry changelogs bindings node feature.key r
  | generics {r : Requirement} (named : NamesGeneric changelogs.language bindings node)
      (entry : changelogs.language.get? Feature.genericHints.key = some r) :
      LanguageEntry changelogs bindings node Feature.genericHints.key r
  | function {name : String} {r : Requirement} (called : Calls node name)
      (entry : changelogs.functions.get? name = some r) :
      LanguageEntry changelogs bindings node (functionKey name) r
  | exception {name : String} {r : Requirement} (named : NamesException node name)
      (entry : changelogs.exceptions.get? name = some r) :
      LanguageEntry changelogs bindings node name r

theorem usesGenerics_iff {language : Changelog} {s : State} {names : List String} :
    s.usesGenerics language names = true ↔
      ∃ generics, language.get? Feature.genericHints.key = some generics ∧
        ∃ name ∈ names, s.resolve name ∈ generics.itemList := by
  simp only [State.usesGenerics, Option.any_eq_true, List.any_eq_true, Requirement.hasItem,
    List.contains_iff_mem]

/-- The hints of a node name a generic type just when one of its triggers finds one. -/
theorem namesGeneric_iff {language : Changelog} {s : State} {node : Node} :
    NamesGeneric language s.bindings.get? node ↔
      ∃ names, .hint names ∈ node.triggers ∧ s.usesGenerics language names = true := by
  constructor
  · rintro ⟨generics, hint, part, chain, full, entry, hinted, inside, spelled, resolved, listed⟩
    have named : chain.text ∈ Trigger.hintNames hint :=
      Chain.mem_hintNames_iff.2 ⟨part, chain, inside, spelled, rfl⟩
    refine ⟨Trigger.hintNames hint,
      hint_mem_triggers.2 ⟨hint, hinted, rfl, List.ne_nil_of_mem named⟩, ?_⟩
    rw [← resolves_iff.1 resolved] at listed
    exact usesGenerics_iff.2 ⟨generics, entry, chain.text, named, listed⟩
  · rintro ⟨names, held, uses⟩
    obtain ⟨hint, hinted, rfl, -⟩ := hint_mem_triggers.1 held
    obtain ⟨generics, entry, name, named, listed⟩ := usesGenerics_iff.1 uses
    obtain ⟨part, chain, inside, spelled, rfl⟩ := Chain.mem_hintNames_iff.1 named
    exact ⟨generics, hint, part, chain, _, entry, hinted, inside, spelled, resolves_iff.2 rfl,
      listed⟩

theorem languageEntry_of_finding {s : State} {node : Node} {trigger : Trigger} {key : String}
    {r : Requirement} (held : trigger ∈ node.triggers)
    (found : s.finding? changelogs trigger = some ⟨.language, key, r⟩) :
    LanguageEntry changelogs s.bindings.get? node key r := by
  cases trigger with
  | feature feature =>
    obtain ⟨_, entry, same⟩ := Option.map_eq_some_iff.1 found
    cases same
    exact .feature (feature_mem_triggers.1 held) entry
  | hint names =>
    rw [State.finding?] at found
    split at found
    · next uses =>
      obtain ⟨_, entry, same⟩ := Option.map_eq_some_iff.1 found
      cases same
      exact .generics (namesGeneric_iff.2 ⟨names, held, uses⟩) entry
    · cases found
  | function name =>
    obtain ⟨_, entry, same⟩ := Option.map_eq_some_iff.1 found
    cases same
    exact .function (function_mem_triggers.1 held) entry
  | exception name =>
    obtain ⟨_, entry, same⟩ := Option.map_eq_some_iff.1 found
    cases same
    exact .exception (exception_mem_triggers.1 held) entry
  | importName name =>
    obtain ⟨_, -, same⟩ := Option.map_eq_some_iff.1 found
    cases same
  | chain name =>
    obtain ⟨_, -, same⟩ := Option.map_eq_some_iff.1 found
    cases same
  | bind name origin => cases found

theorem finding_of_languageEntry {s : State} {node : Node} {key : String} {r : Requirement}
    (entered : LanguageEntry changelogs s.bindings.get? node key r) :
    ∃ trigger ∈ node.triggers, s.finding? changelogs trigger = some ⟨.language, key, r⟩ := by
  cases entered with
  | @feature feature _ shown entry =>
    exact ⟨.feature feature, feature_mem_triggers.2 shown, by rw [State.finding?, entry]; rfl⟩
  | generics named entry =>
    obtain ⟨names, held, uses⟩ := namesGeneric_iff.1 named
    exact ⟨.hint names, held, by rw [State.finding?, if_pos uses, entry]; rfl⟩
  | @function name _ called entry =>
    exact ⟨.function name, function_mem_triggers.2 called, by rw [State.finding?, entry]; rfl⟩
  | exception named entry =>
    exact ⟨.exception key, exception_mem_triggers.2 named, by rw [State.finding?, entry]; rfl⟩

/-- The entries found for the language features are those of the nodes of the script. -/
theorem mem_language_findings {baseline : Version} {body : List Stmt} {key : String}
    {r : Requirement} :
    (key, r) ∈ (findings changelogs (.fresh baseline) (triggers body)).filterMap
      (Finding.inTable? .language) ↔
      ∃ before node, Reached body before node ∧
        LanguageEntry changelogs (boundBy before) node key r := by
  have carried : ∀ finding : Finding,
      finding.inTable? .language = some (key, r) ↔ finding = ⟨.language, key, r⟩ := by
    rintro ⟨subject, other, requirement⟩
    cases subject <;> simp [Finding.inTable?]
  simp only [List.mem_filterMap, carried, exists_eq_right, triggers, mem_findings_nodes, Reached,
    inPreorder, map_snd_visits]
  constructor
  · rintro ⟨before, node, later, split, trigger, held, found⟩
    refine ⟨before, node, ⟨later, split⟩, ?_⟩
    rw [← bindings_after baseline before]
    exact languageEntry_of_finding held found
  · rintro ⟨before, node, ⟨later, split⟩, entered⟩
    rw [← bindings_after baseline before] at entered
    exact ⟨before, node, later, split, finding_of_languageEntry entered⟩

/-- An analysis that ends well has applied all triggers, and no entry was missing. -/
theorem analyze_eq_ok_iff {s t : State} {body : List Stmt} :
    analyze changelogs s body = (t, none) ↔
      (∀ trigger ∈ triggers body, trigger.missing? changelogs.language = none) ∧
        after changelogs s (triggers body) = t := by
  rw [analyze_eq_run, run_eq_ok_iff]

theorem mem_language_names {baseline : Version} {body : List Stmt} {s : State}
    (ended : analyze changelogs (.fresh baseline) body = (s, none)) {key : String} :
    key ∈ s.language.names ↔
      ∃ before node r, Reached body before node ∧
        LanguageEntry changelogs (boundBy before) node key r := by
  obtain ⟨-, rfl⟩ := analyze_eq_ok_iff.1 ended
  rw [← State.table_language, table_after, Table.mem_names_collect,
    or_iff_right (by simp [State.fresh, Table.names]), List.mem_map]
  constructor
  · rintro ⟨⟨key, r⟩, found, rfl⟩
    obtain ⟨before, node, reached, entered⟩ := mem_language_findings.1 found
    exact ⟨before, node, r, reached, entered⟩
  · rintro ⟨before, node, r, reached, entered⟩
    exact ⟨(key, r), mem_language_findings.2 ⟨before, node, reached, entered⟩, rfl⟩

/-- Where an analysis ends well, the features that nodes show have entries. -/
theorem exists_entry_of_shows {baseline : Version} {body : List Stmt} {s : State}
    (ended : analyze changelogs (.fresh baseline) body = (s, none)) {node : Node}
    {feature : Feature} (occurs : Occurs body node) (shown : Shows node feature) :
    ∃ r, changelogs.language.get? feature.key = some r := by
  obtain ⟨complete, -⟩ := analyze_eq_ok_iff.1 ended
  have held : .feature feature ∈ triggers body :=
    List.mem_flatMap.2 ⟨node, mem_nodes_iff.2 occurs, feature_mem_triggers.2 shown⟩
  have present := complete _ held
  rw [← Table.contains_iff_get?]
  simpa [Trigger.missing?, Trigger.needs] using present

/-- The changelogs that come with the program have an entry for every feature. -/
theorem builtin_contains_key (feature : Feature) :
    Changelogs.builtin.language.contains feature.key = true := by
  cases feature <;> decide +kernel

theorem analyze_builtin (s : State) (body : List Stmt) :
    analyze Changelogs.builtin s body = (after Changelogs.builtin s (triggers body), none) := by
  refine analyze_eq_ok_iff.2 ⟨?_, rfl⟩
  intro trigger _
  cases trigger <;> simp [Trigger.missing?, Trigger.needs, builtin_contains_key]

/--
`from typing import Literal as p; import os.path as p; from collections import OrderedDict as d`
and, on a line of its own, `x: d[int] = p.commonpath`.
-/
def sample : List Stmt :=
  [.importFrom ⟨0, 31⟩ (some "typing") [⟨⟨19, 31⟩, "Literal", some "p"⟩] 0,
   .importModules ⟨32, 51⟩ [⟨⟨39, 51⟩, "os.path", some "p"⟩],
   .importFrom ⟨52, 92⟩ (some "collections") [⟨⟨76, 92⟩, "OrderedDict", some "d"⟩] 0,
   .annAssign ⟨93, 117⟩ (.name ⟨93, 94⟩ "x" .store)
     (.subscript ⟨96, 102⟩ (.name ⟨96, 97⟩ "d" .load) (.name ⟨98, 101⟩ "int" .load) .load)
     (some (.attribute ⟨105, 117⟩ (.name ⟨105, 106⟩ "p" .load) "commonpath" .load)) true]

theorem inPreorder_sample : inPreorder sample = sample.map .stmt ++
    [.expr (.name ⟨93, 94⟩ "x" .store),
     .expr (.subscript ⟨96, 102⟩ (.name ⟨96, 97⟩ "d" .load) (.name ⟨98, 101⟩ "int" .load) .load),
     .expr (.name ⟨96, 97⟩ "d" .load),
     .expr (.name ⟨98, 101⟩ "int" .load),
     .expr (.attribute ⟨105, 117⟩ (.name ⟨105, 106⟩ "p" .load) "commonpath" .load),
     .expr (.name ⟨105, 106⟩ "p" .load)] := by
  rw [inPreorder, map_snd_visits]
  simp [nodes, sample, Node.preorder_eq, Node.children, Node.ofStmt, Node.ofExpr, Node.optional]

/--
A key is reported among the language features just when a node of the script has the form of the
feature it stands for, names a generic type in a type hint under the imports before it, calls a
function that is reported under it, or raises or catches the exception of that name.
-/
theorem mem_language_report_iff {baseline : Version} {body : List Stmt} {s : State}
    (ended : analyze changelogs (.fresh baseline) body = (s, none)) (key : String) :
    key ∈ s.language.names ↔
      (∃ feature node, feature.key = key ∧ Occurs body node ∧ Shows node feature) ∨
      (key = Feature.genericHints.key ∧
        ∃ before node, Reached body before node ∧
          NamesGeneric changelogs.language (boundBy before) node) ∨
      (∃ name node, functionKey name = key ∧ name ∈ changelogs.functions.names ∧
        Occurs body node ∧ Calls node name) ∨
      (key ∈ changelogs.exceptions.names ∧ ∃ node, Occurs body node ∧ NamesException node key) := by
  rw [mem_language_names ended]
  constructor
  · rintro ⟨before, node, r, reached, entered⟩
    have occurs : Occurs body node := occurs_iff_reached.2 ⟨before, reached⟩
    cases entered with
    | feature shown entry => exact Or.inl ⟨_, node, rfl, occurs, shown⟩
    | generics named entry => exact Or.inr (Or.inl ⟨rfl, before, node, reached, named⟩)
    | function called entry =>
      have known := Table.mem_names_of_mem (Table.get?_eq_some_iff.1 entry)
      exact Or.inr (Or.inr (Or.inl ⟨_, node, rfl, known, occurs, called⟩))
    | exception named entry =>
      have known := Table.mem_names_of_mem (Table.get?_eq_some_iff.1 entry)
      exact Or.inr (Or.inr (Or.inr ⟨known, node, occurs, named⟩))
  · rintro (⟨feature, node, rfl, occurs, shown⟩ | ⟨rfl, before, node, reached, named⟩ |
      ⟨name, node, rfl, known, occurs, called⟩ | ⟨known, node, occurs, named⟩)
    · obtain ⟨r, entry⟩ := exists_entry_of_shows ended occurs shown
      obtain ⟨before, reached⟩ := occurs_iff_reached.1 occurs
      exact ⟨before, node, r, reached, .feature shown entry⟩
    · obtain ⟨generics, _, _, _, _, entry, _⟩ := id named
      exact ⟨before, node, generics, reached, .generics named entry⟩
    · obtain ⟨r, entry⟩ := Table.exists_mem_of_mem_names known
      obtain ⟨before, reached⟩ := occurs_iff_reached.1 occurs
      exact ⟨before, node, r, reached, .function called (Table.get?_eq_some_iff.2 entry)⟩
    · obtain ⟨r, entry⟩ := Table.exists_mem_of_mem_names known
      obtain ⟨before, reached⟩ := occurs_iff_reached.1 occurs
      exact ⟨before, node, r, reached, .exception named (Table.get?_eq_some_iff.2 entry)⟩

/-- The hint `d[int]` of the sample names a generic type, by the name that `d` is bound to. -/
theorem namesGeneric_sample :
    ∃ before node, Reached sample before node ∧
      NamesGeneric Changelogs.builtin.language (boundBy before) node := by
  have listed : (Changelogs.builtin.language.get? Feature.genericHints.key).any
      (·.hasItem "collections.OrderedDict") = true := by decide +kernel
  obtain ⟨generics, entry, item⟩ := (Option.any_eq_true _ _).1 listed
  have bound : boundBy ((sample.map .stmt).take 3) "d" = some "collections.OrderedDict" := by
    decide +kernel
  have reached : Reached sample ((sample.map .stmt).take 3)
      (.stmt (.annAssign ⟨93, 117⟩ (.name ⟨93, 94⟩ "x" .store)
        (.subscript ⟨96, 102⟩ (.name ⟨96, 97⟩ "d" .load) (.name ⟨98, 101⟩ "int" .load) .load)
        (some (.attribute ⟨105, 117⟩ (.name ⟨105, 106⟩ "p" .load) "commonpath" .load)) true)) :=
    ⟨_, inPreorder_sample⟩
  refine ⟨_, _, reached, generics, _, .name ⟨96, 97⟩ "d" .load, ⟨"d", []⟩,
    "collections.OrderedDict", entry, .assigned, .value (.whole _), rfl, ?_,
    List.contains_iff_mem.1 item⟩
  exact ⟨"d", "", by decide, by decide, Or.inl rfl, by rw [bound]; decide⟩

theorem generics_reported_of_sample :
    analyze Changelogs.builtin (.fresh .baseline) sample =
        (after Changelogs.builtin (.fresh .baseline) (triggers sample), none) ∧
      Feature.genericHints.key ∈
        (after Changelogs.builtin (.fresh .baseline) (triggers sample)).language.names := by
  have ended := analyze_builtin (.fresh .baseline) sample
  exact ⟨ended, (mem_language_report_iff ended _).2 (Or.inr (Or.inl ⟨rfl, namesGeneric_sample⟩))⟩

/-- The entries found among the modules are those of the names looked up. -/
theorem modules_findings (baseline : Version) {body : List Stmt} (dotless : DotlessNames body) :
    (findings changelogs (.fresh baseline) (triggers body)).filterMap (Finding.inTable? .modules) =
      changelogs.modules.found (lookups [] (inPreorder body)) := by
  rw [inPreorder, map_snd_visits]
  exact modules_findings_nodes baseline [] fun node held => dotless.dotlessRoot held

/--
The modules reported are, in preorder and each where it is first met, the names that imports and
chains of attributes look up, as far as the changelog has them, with the requirements it has for
them. A local name is bound to what the last import of it says.
-/
theorem module_report_eq {baseline : Version} {body : List Stmt} {s : State}
    (dotless : DotlessNames body) (ended : analyze changelogs (.fresh baseline) body = (s, none)) :
    s.modules.names =
      ((lookups [] (inPreorder body)).filter changelogs.modules.contains).eraseDups ∧
      (∀ name ∈ s.modules.names, s.modules.get? name = changelogs.modules.get? name) ∧
      ∀ name origin, s.bindings.get? name = some origin ↔
        ∃ earlier later, (inPreorder body).flatMap Node.bound = earlier ++ (name, origin) :: later ∧
          ∀ pair ∈ later, pair.1 ≠ name := by
  obtain ⟨-, rfl⟩ := analyze_eq_ok_iff.1 ended
  have collected : (after changelogs (.fresh baseline) (triggers body)).modules =
      Table.collect {} (changelogs.modules.found (lookups [] (inPreorder body))) := by
    rw [← State.table_modules, table_after, modules_findings baseline dotless]
    rfl
  refine ⟨?_, ?_, ?_⟩
  · rw [collected, Table.names_collect, Table.map_fst_found]
    simp [Table.names]
  · intro name known
    obtain ⟨r, held⟩ := Table.exists_mem_of_mem_names known
    have offered := Table.mem_collect (collected ▸ held)
    rcases offered with none | offered
    · cases none
    · rw [Table.get?_eq_some_iff.2 held, (Table.mem_found.1 offered).2]
  · intro name origin
    rw [triggers, bindings_after, boundBy, inPreorder, map_snd_visits, latest_eq_some_iff]

theorem dotlessNames_sample : DotlessNames sample := by
  intro place span id ctx found
  have held : .expr (.name span id ctx) ∈ inPreorder sample := by
    rw [inPreorder, map_snd_visits]
    exact mem_nodes_iff.2 ⟨place, found⟩
  rw [inPreorder_sample] at held
  simp only [sample, List.map_cons, List.map_nil, List.mem_append, List.mem_cons, List.not_mem_nil,
    reduceCtorEq, Node.expr.injEq, Expr.name.injEq, false_or, or_false] at held
  rcases held with ⟨-, rfl, -⟩ | ⟨-, rfl, -⟩ | ⟨-, rfl, -⟩ | ⟨-, rfl, -⟩ <;> decide

theorem modules_reported_of_sample :
    DotlessNames sample ∧
      ∃ s, analyze Changelogs.builtin (.fresh .baseline) sample = (s, none) ∧
        s.modules.names = ["typing", "typing.Literal", "os.path.commonpath"] ∧
        s.bindings.get? "p" = some "os.path" := by
  have ended := analyze_builtin (.fresh .baseline) sample
  obtain ⟨names, -, bound⟩ := module_report_eq dotlessNames_sample ended
  refine ⟨dotlessNames_sample, _, ended, ?_, (bound _ _).2 ?_⟩
  · rw [names, inPreorder_sample]
    decide +kernel
  · refine ⟨[("p", "typing.Literal")], [("d", "collections.OrderedDict")], ?_, by decide⟩
    rw [inPreorder_sample]
    rfl

end VersionFloor.Analysis
