import VersionFloor.Proofs.Analysis.Failure
import VersionFloor.Proofs.Analysis.MinimumVersion

set_option autoImplicit false

namespace VersionFloor.Analysis

open Script

variable {changelogs : Changelogs}

theorem boundBy_append_of_bound_eq_nil (before : List Node) {node : Node} (free : node.bound = []) :
    boundBy (before ++ [node]) = boundBy before := by
  rw [boundBy, boundBy, List.flatMap_append, List.flatMap_singleton, free, List.append_nil]

namespace Chain

/-- The nodes of a chain are the chains it begins with. -/
theorem mem_preorder {e : Expr} {chain : Chain} (spelled : ofExpr? e = some chain) {node : Node}
    (held : node ∈ (Node.expr e).preorder) :
    ∃ part front, node = .expr part ∧ ofExpr? part = some ⟨chain.root, front⟩ := by
  induction e using ofExpr?.induct generalizing chain with
  | case1 span id ctx =>
    cases spelled
    rw [Node.preorder_eq, Node.children, Node.ofExpr, List.flatMap_nil, List.mem_singleton] at held
    exact ⟨_, [], held, rfl⟩
  | case2 span value attr ctx ih =>
    obtain ⟨inner, within, rfl⟩ := Option.map_eq_some_iff.1 spelled
    rw [Node.preorder_eq, Node.children, Node.ofExpr, List.flatMap_singleton, List.mem_cons] at held
    rcases held with rfl | below
    · exact ⟨_, _, rfl, spelled⟩
    · obtain ⟨part, front, same, found⟩ := ih within below
      exact ⟨part, front, same, found⟩
  | case3 e notName notAttribute =>
    rw [ofExpr?] at spelled
    · cases spelled
    · exact notName
    · exact notAttribute

/--
A chain looks up every chain it begins with, its root apart, under the bindings made before it.
-/
theorem mem_lookups_preorder {e : Expr} {chain : Chain} (spelled : ofExpr? e = some chain)
    (foreign : chain.root ≠ "self") (before : List Node) {name : String} :
    name ∈ lookups before (Node.expr e).preorder ↔
      ∃ front, front ≠ [] ∧ front <+: chain.attrs ∧
        name = resolved (boundBy before) ⟨chain.root, front⟩ := by
  induction e using ofExpr?.induct generalizing chain before with
  | case1 span id ctx =>
    cases spelled
    have none : lookups before (Node.expr (.name span id ctx)).preorder = [] := by
      rw [Node.preorder_eq]
      rfl
    simp only [none, List.not_mem_nil, List.prefix_nil, false_iff, not_exists]
    rintro front ⟨some, empty, -⟩
    exact some empty
  | case2 span value attr ctx ih =>
    obtain ⟨inner, within, rfl⟩ := Option.map_eq_some_iff.1 spelled
    have here : Node.lookups (boundBy before) (.expr (.attribute span value attr ctx)) =
        [resolved (boundBy before) ⟨inner.root, inner.attrs ++ [attr]⟩] := by
      rw [Node.lookups, spelled]
      exact if_neg foreign
    rw [Node.preorder_eq, Node.children, Node.ofExpr, List.flatMap_singleton, lookups, here,
      List.mem_append, List.mem_singleton, ih within foreign,
      boundBy_append_of_bound_eq_nil before rfl]
    simp only [List.prefix_concat_iff]
    constructor
    · rintro (rfl | ⟨front, some, begins, rfl⟩)
      · exact ⟨inner.attrs ++ [attr], by simp, Or.inl rfl, rfl⟩
      · exact ⟨front, some, Or.inr begins, rfl⟩
    · rintro ⟨front, some, rfl | begins, rfl⟩
      · exact Or.inl rfl
      · exact Or.inr ⟨front, some, begins, rfl⟩
  | case3 e notName notAttribute =>
    rw [ofExpr?] at spelled
    · cases spelled
    · exact notName
    · exact notAttribute

/-- The packages that a dotted name goes through below the outermost one. -/
def PassesThrough (chain : Chain) (name : String) : Prop :=
  ∃ front, front ≠ [] ∧ front <+: chain.attrs ∧ front ≠ chain.attrs ∧
    name = text ⟨chain.root, front⟩

/-- The names from that of the chain on to that of the chain with all of `more` taken of it. -/
def Reaches (chain : Chain) (more : List String) (name : String) : Prop :=
  ∃ front, front <+: more ∧ name = text ⟨chain.root, chain.attrs ++ front⟩

theorem text_append (chain : Chain) (root : String) (more : List String) :
    text ⟨chain.root, chain.attrs ++ more⟩ = chain.text ++ tail ⟨root, more⟩ := by
  simp [text, tail, String.append_assoc]

/-- Every further attribute makes the text of a chain longer. -/
theorem length_text_append (root : String) (front back : List String) :
    (text ⟨root, front⟩).length + back.length ≤ (text ⟨root, front ++ back⟩).length := by
  have dot : ".".length = 1 := rfl
  have room : back.length ≤ (tail ⟨root, back⟩).length := by
    induction back with
    | nil => simp
    | cons attr back ih =>
      have head : tail ⟨root, attr :: back⟩ = "." ++ attr ++ tail ⟨root, back⟩ := by simp [tail]
      rw [head, String.length_append, String.length_append, dot, List.length_cons]
      omega
  rw [text_append ⟨root, front⟩ root back, String.length_append]
  omega

/-- No package on the way to a module has the name of the module or of something in it. -/
theorem Reaches.not_passesThrough {chain : Chain} {more : List String} {name : String}
    (reached : chain.Reaches more name) : ¬ chain.PassesThrough name := by
  obtain ⟨taken, -, rfl⟩ := reached
  rintro ⟨front, -, ⟨rest, joined⟩, proper, same⟩
  have left : rest ≠ [] := by
    rintro rfl
    exact proper (by rw [← joined, List.append_nil])
  have longer := length_text_append chain.root front (rest ++ taken)
  rw [← List.append_assoc, joined, same, List.length_append] at longer
  have positive := List.length_pos_iff.2 left
  omega

theorem prefix_append_cases {front first second : List String}
    (begins : front <+: first ++ second) :
    front <+: first ∧ front ≠ first ∨ ∃ more, more <+: second ∧ front = first ++ more := by
  rcases List.prefix_or_prefix_of_prefix begins (List.prefix_append first second) with
    short | ⟨more, rfl⟩
  · by_cases whole : front = first
    · exact Or.inr ⟨[], List.nil_prefix, by rw [whole, List.append_nil]⟩
    · exact Or.inl ⟨short, whole⟩
  · exact Or.inr ⟨more, (List.prefix_append_right_inj first).1 begins, rfl⟩

/-- The chains that a long one begins with lead to the module, name it, or name something in it. -/
theorem reaches_or_passesThrough_iff {chain : Chain} {more : List String} {name : String} :
    chain.Reaches more name ∨ chain.PassesThrough name ↔
      name = chain.text ∨ ∃ front, front ≠ [] ∧ front <+: chain.attrs ++ more ∧
        name = text ⟨chain.root, front⟩ := by
  constructor
  · rintro (⟨front, begins, rfl⟩ | ⟨front, some, begins, -, rfl⟩)
    · by_cases empty : chain.attrs ++ front = []
      · rw [empty]
        obtain ⟨none, -⟩ := List.append_eq_nil_iff.1 empty
        exact Or.inl (by rw [← none])
      · exact Or.inr ⟨_, empty, (List.prefix_append_right_inj _).2 begins, rfl⟩
    · exact Or.inr ⟨front, some, begins.trans (List.prefix_append _ _), rfl⟩
  · rintro (rfl | ⟨front, some, begins, rfl⟩)
    · exact Or.inl ⟨[], List.nil_prefix, by rw [List.append_nil]⟩
    · rcases prefix_append_cases begins with ⟨short, proper⟩ | ⟨taken, follows, rfl⟩
      · exact Or.inr ⟨front, some, short, proper, rfl⟩
      · exact Or.inl ⟨taken, follows, rfl⟩

theorem reaches_cons_iff {chain : Chain} {item : String} {attrs : List String} {name : String} :
    chain.Reaches (item :: attrs) name ↔
      name = chain.text ∨ Reaches ⟨chain.root, chain.attrs ++ [item]⟩ attrs name := by
  constructor
  · rintro ⟨front, begins, rfl⟩
    rcases List.prefix_cons_iff.1 begins with rfl | ⟨rest, rfl, follows⟩
    · exact Or.inl (by rw [List.append_nil])
    · exact Or.inr ⟨rest, follows, by rw [List.append_assoc, List.singleton_append]⟩
  · rintro (rfl | ⟨front, begins, rfl⟩)
    · exact ⟨[], List.nil_prefix, by rw [List.append_nil]⟩
    · exact ⟨item :: front,
        List.cons_prefix_cons.2 ⟨rfl, begins⟩, by rw [List.append_assoc, List.singleton_append]⟩

/-- A local name bound to a module reaches into the module. -/
theorem reaches_iff_of_bound {chain : Chain} (nick : String) {attrs : List String} {name : String} :
    chain.Reaches attrs name ↔
      name = chain.text ∨ ∃ front, front ≠ [] ∧ front <+: attrs ∧
        name = resolved (latest [(nick, chain.text)]) ⟨nick, front⟩ := by
  have origin : latest [(nick, chain.text)] nick = some chain.text := by simp [latest]
  simp only [resolved, origin, Option.getD_some, ← text_append]
  constructor
  · rintro ⟨front, begins, rfl⟩
    by_cases empty : front = []
    · rw [empty, List.append_nil]
      exact Or.inl rfl
    · exact Or.inr ⟨front, empty, begins, rfl⟩
  · rintro (rfl | ⟨front, -, begins, rfl⟩)
    · exact ⟨[], List.nil_prefix, by rw [List.append_nil]⟩
    · exact ⟨front, begins, rfl⟩

end Chain

/-- Nothing but modules is looked up for the node. -/
structure Node.IsQuiet (node : Node) : Prop where
  asks : node.asked = []
  calls : ∀ name, ¬ Calls node name
  excepts : ∀ name, ¬ NamesException node name

theorem Node.IsQuiet.not_languageEntry {node : Node} (quiet : node.IsQuiet)
    {bindings : String → Option String} {key : String} {r : Requirement} :
    ¬ LanguageEntry changelogs bindings node key r := by
  have unasked : ∀ feature, ¬ Asks node feature := by
    intro feature asks
    have listed := mem_asked.2 asks
    rw [quiet.asks] at listed
    cases listed
  intro entered
  cases entered with
  | feature shown entry => exact unasked _ (.shown shown)
  | generics named entry =>
    obtain ⟨_, _, _, _, _, -, hinted, inside, spelled, -⟩ := named
    exact unasked _ (.named hinted inside spelled)
  | function called entry => exact quiet.calls _ called
  | exception named entry => exact quiet.excepts _ named

theorem IsImport.isQuiet {node : Node} (imports : IsImport node) : node.IsQuiet := by
  cases imports with
  | modules => exact ⟨rfl, nofun, nofun⟩
  | names => exact ⟨rfl, nofun, nofun⟩

theorem Chain.isQuiet {e : Expr} {chain : Chain} (spelled : ofExpr? e = some chain) :
    (Node.expr e).IsQuiet := by
  cases e with
  | name span id ctx => exact ⟨rfl, nofun, nofun⟩
  | «attribute» span value attr ctx => exact ⟨rfl, nofun, nofun⟩
  | _ => cases spelled

/-- A script that imports something and then consists of one chain. -/
def UsedAfter (imported : Stmt) (chain : Chain) (body : List Stmt) : Prop :=
  IsImport (.stmt imported) ∧ ∃ span e, Chain.ofExpr? e = some chain ∧
    body = [imported, .expr span e]

/--
What such a script looks up: what the import names, and the chains that the chain begins with.
-/
def LooksUp (imported : Stmt) (chain : Chain) (name : String) : Prop :=
  name ∈ Node.lookups (fun _ => none) (.stmt imported) ∨
    ∃ front, front ≠ [] ∧ front <+: chain.attrs ∧
      name = Chain.resolved (latest (Node.bound (.stmt imported))) ⟨chain.root, front⟩

namespace UsedAfter

theorem nodes_eq {imported : Stmt} (imports : IsImport (.stmt imported)) (span : Span) (e : Expr) :
    nodes [imported, .expr span e] =
      .stmt imported :: .stmt (.expr span e) :: (Node.expr e).preorder := by
  have alone : (Node.stmt imported).preorder = [.stmt imported] := by
    rw [Node.preorder_eq]
    cases imports <;> rfl
  have use : (Node.stmt (.expr span e)).preorder =
      .stmt (.expr span e) :: (Node.expr e).preorder := by
    rw [Node.preorder_eq, Node.children, Node.ofStmt, List.flatMap_singleton]
  rw [nodes, List.map_cons, List.map_cons, List.map_nil, List.flatMap_cons, List.flatMap_singleton,
    alone, use, List.singleton_append]

variable {imported : Stmt} {chain : Chain} {body : List Stmt}

theorem isQuiet (used : UsedAfter imported chain body) {node : Node} (held : node ∈ nodes body) :
    node.IsQuiet := by
  obtain ⟨imports, span, e, spelled, rfl⟩ := used
  rw [nodes_eq imports, List.mem_cons, List.mem_cons] at held
  rcases held with rfl | rfl | held
  · exact imports.isQuiet
  · exact ⟨rfl, nofun, nofun⟩
  · obtain ⟨part, front, rfl, found⟩ := Chain.mem_preorder spelled held
    exact Chain.isQuiet found

theorem dotlessNames (used : UsedAfter imported chain body) (dotless : '.' ∉ chain.root.toList) :
    DotlessNames body := by
  intro place span id ctx reached
  have held := mem_nodes_iff.2 ⟨place, reached⟩
  obtain ⟨imports, outer, e, spelled, rfl⟩ := used
  rw [nodes_eq imports, List.mem_cons, List.mem_cons] at held
  rcases held with same | same | held
  · cases imports <;> cases same
  · cases same
  · obtain ⟨part, front, same, found⟩ := Chain.mem_preorder spelled held
    cases same
    cases found
    exact dotless

theorem mem_lookups (used : UsedAfter imported chain body) (foreign : chain.root ≠ "self")
    {name : String} :
    name ∈ lookups [] (inPreorder body) ↔ LooksUp imported chain name := by
  obtain ⟨imports, span, e, spelled, rfl⟩ := used
  have named : Node.lookups (boundBy []) (.stmt imported) =
      Node.lookups (fun _ => none) (.stmt imported) := by
    cases imports with
    | modules => rfl
    | @names _ origin _ _ => cases origin <;> rfl
  have bound : boundBy [.stmt imported, .stmt (.expr span e)] =
      latest (Node.bound (.stmt imported)) := by
    have first : boundBy [.stmt imported] = latest (Node.bound (.stmt imported)) := by
      rw [boundBy, List.flatMap_singleton]
    rw [← first]
    exact boundBy_append_of_bound_eq_nil [.stmt imported] rfl
  have silent : Node.lookups (boundBy [.stmt imported]) (.stmt (.expr span e)) = [] := rfl
  rw [inPreorder_eq_nodes, nodes_eq imports, lookups, lookups, List.nil_append, silent,
    List.nil_append, List.singleton_append, List.mem_append,
    Chain.mem_lookups_preorder spelled foreign, named, bound]
  rfl

/--
The analysis of such a script succeeds and collects what is looked up, and no language feature.
-/
theorem exists_report (used : UsedAfter imported chain body) (dotless : '.' ∉ chain.root.toList)
    (foreign : chain.root ≠ "self") (changelogs : Changelogs) (baseline : Version) :
    ∃ s, analyze changelogs (.fresh baseline) body = (s, none) ∧ Floored baseline s ∧
      s.language.entries = [] ∧
      ∀ name r, (name, r) ∈ s.modules.entries ↔
        changelogs.modules.get? name = some r ∧ LooksUp imported chain name := by
  refine ⟨after changelogs (.fresh baseline) (triggers body), ?_,
    floored_after (floored_fresh baseline) _, ?_, ?_⟩
  · have unasked : asked body = [] := by
      rw [asked, inPreorder_eq_nodes, List.flatMap_eq_nil_iff]
      intro node held
      exact (used.isQuiet held).asks
    have ended : (analyze changelogs (.fresh baseline) body).2 = none := by
      rw [analyze_eq, firstMissing?, unasked]
      rfl
    exact analyze_eq_ok_iff.2 ⟨(analyze_eq_ok_iff.1 (Prod.ext rfl ended)).1, rfl⟩
  · rw [List.eq_nil_iff_forall_not_mem]
    rintro ⟨key, r⟩ held
    obtain ⟨before, node, reached, entered⟩ := languageEntry_of_collected held
    have occurs := mem_nodes_iff.2 (occurs_iff_reached.2 ⟨before, reached⟩)
    exact (used.isQuiet occurs).not_languageEntry entered
  · intro name r
    rw [mem_modules_after baseline (used.dotlessNames dotless), used.mem_lookups foreign]

end UsedAfter

/--
Both scripts can be analysed. The short one is reported like the long one, less the packages that
`source` goes through, and if the changelog knows none of these, the two need the same version.
-/
def ReportedAlike (changelogs : Changelogs) (baseline : Version) (source : Chain)
    (short long : List Stmt) : Prop :=
  ∃ s t, analyze changelogs (.fresh baseline) short = (s, none) ∧
    analyze changelogs (.fresh baseline) long = (t, none) ∧
    (∀ key, key ∈ s.modules.names ↔ key ∈ t.modules.names ∧ ¬ source.PassesThrough key) ∧
    ((∀ key, source.PassesThrough key → key ∉ changelogs.modules.names) → s.version = t.version)

/-- Scripts that look up the same but for the packages on the way are reported alike. -/
theorem reportedAlike_of_looksUp {source chain longChain : Chain} {imported longImported : Stmt}
    {short long : List Stmt} (used : UsedAfter imported chain short)
    (longUsed : UsedAfter longImported longChain long) (dotless : '.' ∉ chain.root.toList)
    (longDotless : '.' ∉ longChain.root.toList) (foreign : chain.root ≠ "self")
    (longForeign : longChain.root ≠ "self")
    (less : ∀ name, LooksUp imported chain name ↔
      LooksUp longImported longChain name ∧ ¬ source.PassesThrough name) (changelogs : Changelogs)
    (baseline : Version) : ReportedAlike changelogs baseline source short long := by
  obtain ⟨s, ended, floored, language, held⟩ :=
    used.exists_report dotless foreign changelogs baseline
  obtain ⟨t, longEnded, longFloored, longLanguage, longHeld⟩ :=
    longUsed.exists_report longDotless longForeign changelogs baseline
  have entries : ∀ name r, (name, r) ∈ s.modules.entries ↔
      (name, r) ∈ t.modules.entries ∧ ¬ source.PassesThrough name := by
    intro name r
    rw [held, longHeld, less, and_assoc]
  refine ⟨s, t, ended, longEnded, ?_, ?_⟩
  · intro key
    constructor
    · intro known
      obtain ⟨r, entry⟩ := Table.exists_mem_of_mem_names known
      obtain ⟨there, off⟩ := (entries key r).1 entry
      exact ⟨Table.mem_names_of_mem there, off⟩
    · rintro ⟨known, off⟩
      obtain ⟨r, entry⟩ := Table.exists_mem_of_mem_names known
      exact Table.mem_names_of_mem ((entries key r).2 ⟨entry, off⟩)
  · intro unknown
    have same : addedVersions s = addedVersions t := by
      ext v
      simp only [addedVersions, language, longLanguage, List.nil_append, Set.mem_ofPred_eq,
        Prod.exists]
      constructor
      · rintro ⟨name, r, entry, added⟩
        exact ⟨name, r, ((entries name r).1 entry).1, added⟩
      · rintro ⟨name, r, entry, added⟩
        have known := Table.mem_names_of_mem
          (Table.get?_eq_some_iff.1 ((longHeld name r).1 entry).1)
        exact ⟨name, r, (entries name r).2 ⟨entry, fun passed => unknown name passed known⟩, added⟩
    rw [Floored, same] at floored
    exact floored.unique longFloored

theorem looksUp_plain {source : Chain} {more : List String} {span inner : Span} {name : String} :
    LooksUp (.importModules span [⟨inner, source.text, none⟩])
      ⟨source.root, source.attrs ++ more⟩ name ↔
      source.Reaches more name ∨ source.PassesThrough name := by
  rw [Chain.reaches_or_passesThrough_iff]
  simp only [LooksUp, Node.lookups, Node.bound, Chain.resolved, Chain.text, latest, List.map_cons,
    List.map_nil, List.mem_singleton, List.filterMap_cons, List.filterMap_nil, Option.map_none,
    List.reverse_nil, List.lookup_nil, Option.getD_none]

theorem looksUp_renamed {source : Chain} {nick : String} {attrs : List String} {span inner : Span}
    {name : String} :
    LooksUp (.importModules span [⟨inner, source.text, some nick⟩]) ⟨nick, attrs⟩ name ↔
      source.Reaches attrs name := by
  rw [Chain.reaches_iff_of_bound nick]
  simp only [LooksUp, Node.lookups, Node.bound, List.map_cons, List.map_nil, List.mem_singleton,
    List.filterMap_cons, List.filterMap_nil, Option.map_some]

theorem looksUp_item {source : Chain} {item nick : String} {renamed : Option String}
    {attrs : List String} {span inner : Span} {level : Nat} {name : String} (single : item ≠ "*")
    (known : renamed.getD item = nick) :
    LooksUp (.importFrom span (some source.text) [⟨inner, item, renamed⟩] level)
      ⟨nick, attrs⟩ name ↔
      source.Reaches (item :: attrs) name := by
  have qualified : source.text ++ "." ++ item =
      Chain.text ⟨source.root, source.attrs ++ [item]⟩ := by
    rw [Chain.text_append source source.root, Chain.tail, String.append_assoc]
    simp
  have listed : Node.lookups (fun _ => none)
      (.stmt (.importFrom span (some source.text) [⟨inner, item, renamed⟩] level)) =
      [source.text, Chain.text ⟨source.root, source.attrs ++ [item]⟩] := by
    simp only [Node.lookups, List.flatMap_cons, List.flatMap_nil, if_neg single, qualified,
      List.append_nil]
  have bound : Node.bound
      (.stmt (.importFrom span (some source.text) [⟨inner, item, renamed⟩] level)) =
      [(nick, Chain.text ⟨source.root, source.attrs ++ [item]⟩)] := by
    simp [Node.bound, single, known, qualified]
  rw [Chain.reaches_cons_iff, Chain.reaches_iff_of_bound nick, LooksUp, listed, bound,
    List.mem_cons, List.mem_singleton, or_assoc]

/--
An item that is imported under a local name and used by it is reported like the item used from the
plain import of its module, and so is a module that is imported under a local name. The long form is
reported with the packages below the outermost one that it goes through to the module, and the short
form is not.
-/
theorem import_forms_agree (changelogs : Changelogs) (baseline : Version) {source : Chain}
    {item nick : String} {renamed : Option String} {attrs : List String}
    {spanShort spanLong innerShort innerLong : Span} {short long : List Stmt}
    (dotless : '.' ∉ source.root.toList) (foreign : source.root ≠ "self")
    (nickDotless : '.' ∉ nick.toList) (nickForeign : nick ≠ "self") :
    (item ≠ "*" → renamed.getD item = nick →
      UsedAfter (.importFrom spanShort (some source.text) [⟨innerShort, item, renamed⟩] 0)
        ⟨nick, attrs⟩ short →
      UsedAfter (.importModules spanLong [⟨innerLong, source.text, none⟩])
        ⟨source.root, source.attrs ++ item :: attrs⟩ long →
      ReportedAlike changelogs baseline source short long) ∧
    (UsedAfter (.importModules spanShort [⟨innerShort, source.text, some nick⟩])
      ⟨nick, attrs⟩ short →
      UsedAfter (.importModules spanLong [⟨innerLong, source.text, none⟩])
        ⟨source.root, source.attrs ++ attrs⟩ long →
      ReportedAlike changelogs baseline source short long) := by
  have less : ∀ (more : List String) name, source.Reaches more name ↔
      (source.Reaches more name ∨ source.PassesThrough name) ∧ ¬ source.PassesThrough name := by
    intro more name
    have apart : source.Reaches more name → ¬ source.PassesThrough name :=
      Chain.Reaches.not_passesThrough
    tauto
  constructor
  · intro single known used longUsed
    refine reportedAlike_of_looksUp used longUsed nickDotless dotless nickForeign foreign ?_
      changelogs baseline
    intro name
    rw [looksUp_item single known, looksUp_plain]
    exact less _ name
  · intro used longUsed
    refine reportedAlike_of_looksUp used longUsed nickDotless dotless nickForeign foreign ?_
      changelogs baseline
    intro name
    rw [looksUp_renamed, looksUp_plain]
    exact less _ name

/--
`from concurrent.futures.thread import ThreadPoolExecutor as Pool` and, on a line of its own,
`Pool.submit`.
-/
def poolByName : List Stmt :=
  [.importFrom ⟨0, 64⟩ (some "concurrent.futures.thread")
    [⟨⟨38, 64⟩, "ThreadPoolExecutor", some "Pool"⟩] 0,
   .expr ⟨65, 76⟩ (.attribute ⟨65, 76⟩ (.name ⟨65, 69⟩ "Pool" .load) "submit" .load)]

/--
`import concurrent.futures.thread` and then `concurrent.futures.thread.ThreadPoolExecutor.submit`.
-/
def poolByModule : List Stmt :=
  [.importModules ⟨0, 32⟩ [⟨⟨7, 32⟩, "concurrent.futures.thread", none⟩],
   .expr ⟨33, 84⟩
     (.attribute ⟨33, 84⟩ (.attribute ⟨33, 77⟩ (.attribute ⟨33, 58⟩ (.attribute ⟨33, 51⟩
     (.name ⟨33, 43⟩ "concurrent" .load) "futures" .load) "thread" .load) "ThreadPoolExecutor"
       .load) "submit" .load)]

/--
The long form is reported with `concurrent.futures`, which it goes through and the changelog knows.
-/
theorem pool_reported_alike :
    ReportedAlike Changelogs.builtin .baseline ⟨"concurrent", ["futures", "thread"]⟩
        poolByName poolByModule ∧
      Chain.PassesThrough ⟨"concurrent", ["futures", "thread"]⟩ "concurrent.futures" ∧
      "concurrent.futures" ∈ Changelogs.builtin.modules.names := by
  have source : Chain.text ⟨"concurrent", ["futures", "thread"]⟩ = "concurrent.futures.thread" := by
    decide +kernel
  have used : UsedAfter
      (.importFrom ⟨0, 64⟩ (some (Chain.text ⟨"concurrent", ["futures", "thread"]⟩))
      [⟨⟨38, 64⟩, "ThreadPoolExecutor", some "Pool"⟩] 0) ⟨"Pool", ["submit"]⟩ poolByName := by
    rw [source]
    exact ⟨.names, ⟨65, 76⟩, _, rfl, rfl⟩
  have longUsed : UsedAfter (.importModules ⟨0, 32⟩
      [⟨⟨7, 32⟩, Chain.text ⟨"concurrent", ["futures", "thread"]⟩, none⟩])
      ⟨"concurrent", ["futures", "thread"] ++ "ThreadPoolExecutor" :: ["submit"]⟩ poolByModule := by
    rw [source]
    exact ⟨.modules, ⟨33, 84⟩, _, rfl, rfl⟩
  have alike := (import_forms_agree Changelogs.builtin .baseline (by decide) (by decide) (by decide)
    (by decide)).1 (by decide) rfl used longUsed
  refine ⟨alike, ?_, by decide +kernel⟩
  exact ⟨["futures"], by decide, by decide, by decide, by decide +kernel⟩

end VersionFloor.Analysis
