import Mathlib.Data.List.Flatten
import Mathlib.Data.List.Perm.Basic
import Mathlib.Data.List.Sigma
import Mathlib.Data.Prod.Basic
import VersionFloor.Proofs.Analysis.Place

set_option autoImplicit false

namespace VersionFloor.Analysis

open Script

namespace Fields

/-- The parts that are there, each with the step that leads to it. -/
def spots (field : Field) (slots : List (Option Node)) : List (Step × Node) :=
  slots.zipIdx.flatMap fun slot => slot.1.toList.map fun node => ((field, slot.2), node)

def places (fields : Fields) : List (Step × Node) :=
  fields.flatMap fun entry => spots entry.1 entry.2

@[simp] theorem places_nil : places [] = [] := rfl

@[simp] theorem places_cons (field : Field) (slots : List (Option Node)) (rest : Fields) :
    places ((field, slots) :: rest) = spots field slots ++ places rest := rfl

theorem mem_spots {field : Field} {slots : List (Option Node)} {step : Step} {node : Node} :
    (step, node) ∈ spots field slots ↔ step.1 = field ∧ slots[step.2]? = some (some node) := by
  obtain ⟨own, index⟩ := step
  simp only [spots, List.mem_flatMap, List.mem_map, Option.mem_toList, Prod.mk.injEq, Prod.exists,
    List.mem_zipIdx_iff_getElem?]
  constructor
  · rintro ⟨slot, position, held, found, present, ⟨rfl, rfl⟩, rfl⟩
    exact ⟨rfl, held.trans (congrArg some present)⟩
  · rintro ⟨rfl, held⟩
    exact ⟨some node, index, held, node, rfl, ⟨rfl, rfl⟩, rfl⟩

theorem nodup_spots (field : Field) (slots : List (Option Node)) :
    ((spots field slots).map (·.1)).Nodup := by
  -- At most one step comes from each position, so the steps are some of those to all positions.
  have among : ((spots field slots).map (·.1)).Sublist
      (slots.zipIdx.flatMap fun slot => [(field, slot.2)]) := by
    rw [spots, List.map_flatMap]
    apply List.Sublist.flatMap_right
    rintro ⟨_ | node, index⟩ -
    · exact List.nil_sublist _
    · exact List.Sublist.refl _
  have all : (slots.zipIdx.flatMap fun slot => [(field, slot.2)]).Nodup := by
    rw [← List.map_eq_flatMap, ← Function.comp_def (Prod.mk field), ← List.map_map]
    exact (List.nodup_zipIdx_map_snd slots).map (Prod.mk_right_injective field)
  exact all.sublist among

theorem at?_cons (field : Field) (slots : List (Option Node)) (rest : Fields) (step : Step) :
    Fields.at? ((field, slots) :: rest) step =
      if step.1 = field then slots[step.2]?.join else rest.at? step := by
  by_cases same : step.1 = field
  · rw [if_pos same, at?, same, List.lookup_cons_self, Option.bind_some]
  · have differs : (step.1 == field) = false := beq_false_of_ne same
    rw [if_neg same, at?, List.lookup_cons, differs, at?]

theorem at?_eq_none_of_not_mem {fields : Fields} {step : Step}
    (absent : step.1 ∉ fields.map (·.1)) :
    fields.at? step = none := by
  have unknown : fields.lookup step.1 = none := by
    rw [List.lookup_eq_none_iff]
    intro entry held
    exact bne_iff_ne.2 fun same => absent (same ▸ List.mem_map_of_mem held)
  rw [at?, unknown]
  rfl

/-- With distinct fields the steps listed are those that lead to a node. -/
theorem mem_places {fields : Fields} (distinct : (fields.map (·.1)).Nodup) {step : Step}
    {node : Node} :
    (step, node) ∈ places fields ↔ fields.at? step = some node := by
  induction fields with
  | nil => simp [at?]
  | cons entry rest ih =>
    obtain ⟨field, slots⟩ := entry
    rw [List.map_cons, List.nodup_cons] at distinct
    rw [places_cons, List.mem_append, mem_spots, ih distinct.2, at?_cons]
    by_cases same : step.1 = field
    · have other := at?_eq_none_of_not_mem (same ▸ distinct.1 : step.1 ∉ rest.map (·.1))
      rw [if_pos same, other, Option.join_eq_some_iff]
      simp only [same, true_and, reduceCtorEq, or_false]
    · simp only [same, false_and, false_or, ↓reduceIte]

theorem nodup_places {fields : Fields} (distinct : (fields.map (·.1)).Nodup) :
    ((places fields).map (·.1)).Nodup := by
  induction fields with
  | nil => exact List.nodup_nil
  | cons entry rest ih =>
    obtain ⟨field, slots⟩ := entry
    rw [List.map_cons, List.nodup_cons] at distinct
    rw [places_cons, List.map_append, List.nodup_append]
    refine ⟨nodup_spots field slots, ih distinct.2, ?_⟩
    intro step here other there
    obtain ⟨⟨_, node⟩, held, rfl⟩ := List.mem_map.1 here
    obtain ⟨⟨_, child⟩, below, rfl⟩ := List.mem_map.1 there
    rintro rfl
    have own := (mem_spots.1 held).1
    have found := (mem_places distinct.2).1 below
    rw [at?_eq_none_of_not_mem (own ▸ distinct.1)] at found
    cases found

theorem map_snd_spots (field : Field) (slots : List (Option Node)) :
    (spots field slots).map (·.2) = slots.flatMap Option.toList := by
  conv_rhs => rw [← List.zipIdx_map_fst 0 slots]
  simp only [spots, List.map_flatMap, List.map_map, List.flatMap_map, Function.comp_def,
    List.map_id']

@[simp] theorem map_snd_spots_one (field : Field) (node : Node) :
    (spots field (one node)).map (·.2) = [node] := rfl

@[simp] theorem map_snd_spots_maybe (field : Field) (e : Option Expr) :
    (spots field (maybe e)).map (·.2) = Node.optional e := by
  cases e <;> rfl

@[simp] theorem map_snd_spots_many {α : Type} (field : Field) (node : α → Node) (parts : List α) :
    (spots field (many node parts)).map (·.2) = parts.map node := by
  rw [map_snd_spots, many, List.flatMap_map, List.map_eq_flatMap]
  rfl

@[simp] theorem map_snd_spots_each {α : Type} (field : Field) (expr? : α → Option Expr)
    (parts : List α) :
    (spots field (each expr? parts)).map (·.2) = parts.flatMap fun part =>
      Node.optional (expr? part) := by
  rw [map_snd_spots, each, List.flatMap_map]
  congr 1
  funext part
  cases expr? part <;> rfl

theorem distinct_ofNode (node : Node) : ((ofNode node).map (·.1)).Nodup := by
  cases node with
  | stmt s => cases s <;> simp [ofNode, ofStmt]
  | expr e => cases e <;> simp [ofNode, ofExpr]
  | pattern p => cases p <;> simp [ofNode, ofPattern]
  | parameters p => simp [ofNode, ofParameters]
  | typeParam t => cases t <;> simp [ofNode]
  | _ => simp [ofNode]

end Fields

namespace Node

/-- The hint and the default of each parameter in turn. -/
def keywordOnlyPlaces (params : List Parameter) : List (Step × Node) :=
  params.zipIdx.flatMap fun q =>
    (optional q.1.arg.hint).map (fun node => ((.keywordOnlyHint, q.2), node))
      ++ (optional q.1.default).map (fun node => ((.keywordOnlyDefault, q.2), node))

/-- The nodes right below a node in visiting order, each with the step that leads to it. -/
def places : Node → List (Step × Node)
  | parameters p =>
    Fields.spots .positionalOnlyHint (Fields.each (·.arg.hint) p.positionalOnly)
      ++ Fields.spots .positionalHint (Fields.each (·.arg.hint) p.positional)
      ++ Fields.spots .variadicHint (Fields.maybe (p.variadic.bind (·.hint)))
      ++ keywordOnlyPlaces p.keywordOnly
      ++ Fields.spots .keywordsHint (Fields.maybe (p.keywords.bind (·.hint)))
      ++ Fields.spots .positionalOnlyDefault (Fields.each (·.default) p.positionalOnly)
      ++ Fields.spots .positionalDefault (Fields.each (·.default) p.positional)
  | node => Fields.places (Fields.ofNode node)

theorem map_snd_keywordOnlyPlaces (params : List Parameter) :
    (keywordOnlyPlaces params).map (·.2) =
      params.flatMap fun q => optional q.arg.hint ++ optional q.default := by
  conv_rhs => rw [← List.zipIdx_map_fst 0 params]
  simp only [keywordOnlyPlaces, List.map_flatMap, List.map_append, List.map_map, Function.comp_def,
    List.map_id', List.flatMap_map]

theorem optional_bind_hint (a : Option Argument) : optional (a.bind (·.hint)) = argumentHint a := by
  cases a with
  | none => rfl
  | some a => simp [argumentHint]

/-- Without their steps the places are the nodes that are visited next. -/
theorem map_snd_places (node : Node) : node.places.map (·.2) = node.children := by
  cases node with
  | parameters p =>
    simp only [places, children, ofParameters, hints, defaults, List.map_append,
      Fields.map_snd_spots_each, Fields.map_snd_spots_maybe, map_snd_keywordOnlyPlaces,
      optional_bind_hint]
  | stmt s => cases s <;> simp [places, children, ofStmt, Fields.ofNode, Fields.ofStmt]
  | expr e => cases e <;> simp [places, children, ofExpr, Fields.ofNode, Fields.ofExpr]
  | pattern p =>
    cases p with
    | capture span inner name => cases inner <;> rfl
    | _ => simp [places, children, ofPattern, Fields.ofNode, Fields.ofPattern]
  | typeParam t => cases t <;> simp [places, children, Fields.ofNode]
  | _ => simp [places, children, Fields.ofNode]

theorem spots_each (field : Field) (expr? : Parameter → Option Expr) (params : List Parameter) :
    Fields.spots field (Fields.each expr? params) =
      params.zipIdx.flatMap fun q => (optional (expr? q.1)).map fun node =>
        ((field, q.2), node) := by
  simp only [Fields.spots, Fields.each, List.zipIdx_map, List.flatMap_map, Prod.map_fst,
    Prod.map_snd, id_eq]
  congr 1
  funext q
  cases expr? q.1 <;> rfl

theorem keywordOnlyPlaces_perm (params : List Parameter) :
    (keywordOnlyPlaces params).Perm
      (Fields.spots .keywordOnlyHint (Fields.each (·.arg.hint) params)
        ++ Fields.spots .keywordOnlyDefault (Fields.each (·.default) params)) := by
  rw [spots_each, spots_each]
  exact (List.flatMap_append_perm _ _ _).symm

/-- The visiting order rearranges what the fields of a node hold. -/
theorem places_perm (node : Node) : node.places.Perm (Fields.places (Fields.ofNode node)) := by
  cases node with
  | parameters p =>
    classical
    rw [List.perm_iff_count]
    intro entry
    have inTurn := (keywordOnlyPlaces_perm p.keywordOnly).count_eq entry
    simp only [places, Fields.ofNode, Fields.ofParameters, Fields.places_cons, Fields.places_nil,
      List.count_append, List.count_nil] at inTurn ⊢
    omega
  | _ => exact List.Perm.refl _

theorem mem_places {node child : Node} {step : Step} :
    (step, child) ∈ node.places ↔ (Fields.ofNode node).at? step = some child := by
  rw [(places_perm node).mem_iff]
  exact Fields.mem_places (Fields.distinct_ofNode node)

theorem nodup_places (node : Node) : (node.places.map (·.1)).Nodup :=
  ((places_perm node).map (·.1)).nodup_iff.2 (Fields.nodup_places (Fields.distinct_ofNode node))

theorem sizeOf_lt_of_mem_places {node child : Node} {step : Step}
    (below : (step, child) ∈ node.places) :
    sizeOf child < sizeOf node := by
  apply allBelow_children node
  rw [← map_snd_places]
  exact List.mem_map.2 ⟨(step, child), below, rfl⟩

/-- The nodes at and below a node in visiting order, each with the way to it. -/
def visits (node : Node) : List (Place × Node) :=
  ([], node) :: node.places.attach.flatMap fun ⟨(step, child), _⟩ =>
    (visits child).map fun found => (step :: found.1, found.2)
termination_by sizeOf node
decreasing_by exact sizeOf_lt_of_mem_places ‹_›

/-- What a visit finds from several steps on. -/
def branches (places : List (Step × Node)) : List (Place × Node) :=
  places.flatMap fun entry => entry.2.visits.map fun found => (entry.1 :: found.1, found.2)

theorem visits_eq (node : Node) : node.visits = ([], node) :: branches node.places := by
  rw [visits]
  simp only [branches, List.flatMap_subtype, List.unattach_attach]

theorem map_snd_branches (places : List (Step × Node)) :
    (branches places).map (·.2) = places.flatMap fun entry => entry.2.visits.map (·.2) := by
  simp only [branches, List.map_flatMap, List.map_map, Function.comp_def]

theorem map_snd_visits (node : Node) : node.visits.map (·.2) = node.preorder := by
  induction node using visits.induct with
  | case1 node ih =>
    rw [visits_eq, preorder_eq, List.map_cons, map_snd_branches, ← map_snd_places, List.flatMap_map]
    congr 1
    apply List.flatMap_congr
    intro entry below
    exact ih entry.1 entry.2 below

theorem mem_branches {places : List (Step × Node)} {path : Place} {node : Node} :
    (path, node) ∈ branches places ↔
      ∃ way rest child, path = way :: rest ∧ (way, child) ∈ places ∧
        (rest, node) ∈ child.visits := by
  simp only [branches, List.mem_flatMap, List.mem_map]
  constructor
  · rintro ⟨⟨way, child⟩, below, ⟨rest, found⟩, held, equal⟩
    obtain ⟨rfl, rfl⟩ := Prod.mk.inj equal
    exact ⟨way, rest, child, rfl, below, held⟩
  · rintro ⟨way, rest, child, rfl, below, held⟩
    exact ⟨(way, child), below, (rest, node), held, rfl⟩

/-- The ways listed are those that lead to a node. -/
theorem mem_visits {node found : Node} {path : Place} :
    (path, found) ∈ node.visits ↔ node.at? path = some found := by
  induction path generalizing node with
  | nil =>
    rw [visits_eq, List.mem_cons, mem_branches, at?]
    simp only [Prod.mk.injEq, true_and, reduceCtorEq, false_and, exists_false, or_false,
      Option.some.injEq, eq_comm]
  | cons way rest ih =>
    rw [visits_eq, List.mem_cons, mem_branches, at?, Option.bind_eq_some_iff]
    constructor
    · rintro (root | ⟨_, _, child, same, below, lower⟩)
      · cases root
      · cases same
        exact ⟨child, mem_places.1 below, ih.1 lower⟩
    · rintro ⟨child, below, lower⟩
      exact Or.inr ⟨way, rest, child, rfl, mem_places.2 below, ih.2 lower⟩

end Node

/-- Every place is followed at once by the places below it, and stands above no other. -/
def Preordered (places : List Place) : Prop :=
  ∀ before place after, places = before ++ place :: after →
    ∃ below rest, after = below ++ rest ∧ (∀ other ∈ below, place <+: other ∧ other ≠ place) ∧
      ∀ other ∈ before ++ rest, ¬ place <+: other

namespace Preordered

theorem nil : Preordered [] := by
  intro before place after split
  simp at split

theorem tail {place : Place} {places : List Place} (ordered : Preordered (place :: places)) :
    Preordered places := by
  intro before other after split
  obtain ⟨below, rest, equal, inside, outside⟩ :=
    ordered (place :: before) other after (congrArg (place :: ·) split)
  refine ⟨below, rest, equal, inside, fun one held => outside one ?_⟩
  exact List.mem_cons_of_mem place held

theorem nodup {places : List Place} (ordered : Preordered places) : places.Nodup := by
  induction places with
  | nil => exact List.nodup_nil
  | cons place places ih =>
    refine List.nodup_cons.2 ⟨?_, ih ordered.tail⟩
    intro again
    obtain ⟨below, rest, rfl, inside, outside⟩ := ordered [] place places rfl
    rcases List.mem_append.1 again with lower | later
    · exact (inside place lower).2 rfl
    · exact outside place later (List.prefix_refl place)

theorem root_cons {places : List Place} (ordered : Preordered places) (lower : [] ∉ places) :
    Preordered ([] :: places) := by
  intro before place after split
  cases before with
  | nil =>
    obtain ⟨rfl, rfl⟩ := List.cons.inj split
    refine ⟨places, [], (List.append_nil places).symm, ?_, by simp⟩
    intro other held
    exact ⟨List.nil_prefix, fun root => lower (root ▸ held)⟩
  | cons root before =>
    obtain ⟨rfl, inner⟩ := List.cons.inj split
    obtain ⟨below, rest, equal, inside, outside⟩ := ordered before place after inner
    refine ⟨below, rest, equal, inside, ?_⟩
    intro other held
    rcases List.mem_cons.1 held with rfl | held
    · intro above
      have root : place = [] := List.prefix_nil.1 above
      exact lower (by simp [inner, root])
    · exact outside other held

theorem map_cons {places : List Place} (ordered : Preordered places) (way : Step) :
    Preordered (places.map (way :: ·)) := by
  intro before place after split
  obtain ⟨front, back, rfl, rfl, tail⟩ := List.map_eq_append_iff.1 split
  obtain ⟨inner, later, rfl, rfl, rfl⟩ := List.map_eq_cons_iff.1 tail
  obtain ⟨below, rest, rfl, inside, outside⟩ := ordered front inner later rfl
  refine ⟨below.map (way :: ·), rest.map (way :: ·), List.map_append, ?_, ?_⟩
  · intro other held
    obtain ⟨path, lower, rfl⟩ := List.mem_map.1 held
    obtain ⟨above, differs⟩ := inside path lower
    exact ⟨(List.prefix_cons_inj way).2 above, fun same => differs (List.cons.inj same).2⟩
  · intro other held
    rw [← List.map_append] at held
    obtain ⟨path, apart, rfl⟩ := List.mem_map.1 held
    exact fun above => outside path apart ((List.prefix_cons_inj way).1 above)

theorem append {first second : List Place} (left : Preordered first) (right : Preordered second)
    (apart : ∀ one ∈ first, ∀ other ∈ second, ¬ one <+: other ∧ ¬ other <+: one) :
    Preordered (first ++ second) := by
  intro before place after split
  rcases List.append_eq_append_iff.1 split with ⟨front, rfl, inner⟩ | ⟨front, rfl, tail⟩
  · -- The place stands in the second part, and the whole first part before it.
    obtain ⟨below, rest, equal, inside, outside⟩ := right front place after inner
    refine ⟨below, rest, equal, inside, ?_⟩
    intro other held
    rw [List.append_assoc, List.mem_append] at held
    rcases held with early | held
    · exact (apart other early place (by simp [inner])).2
    · exact outside other held
  · cases front with
    | nil =>
      obtain ⟨below, rest, equal, inside, outside⟩ := right [] place after tail.symm
      refine ⟨below, rest, equal, inside, ?_⟩
      intro other held
      rcases List.mem_append.1 held with early | held
      · have second_eq : second = place :: after := tail.symm
        have inSecond : place ∈ second := second_eq ▸ List.mem_cons_self
        exact (apart other (List.mem_append_left [] early) place inSecond).2
      · exact outside other held
    | cons head front =>
      obtain ⟨rfl, rfl⟩ := List.cons.inj tail
      obtain ⟨below, rest, rfl, inside, outside⟩ := left before place front rfl
      refine ⟨below, rest ++ second, List.append_assoc below rest second, inside, ?_⟩
      intro other held
      rw [← List.append_assoc, List.mem_append] at held
      rcases held with held | late
      · exact outside other held
      · exact (apart place (by simp) other late).1

end Preordered

/-- Different steps lead to places none of which is above another. -/
theorem preordered_branches {places : List (Step × Node)} (distinct : (places.map (·.1)).Nodup)
    (ordered : ∀ entry ∈ places, Preordered (entry.2.visits.map (·.1))) :
    Preordered ((Node.branches places).map (·.1)) := by
  induction places with
  | nil => exact Preordered.nil
  | cons entry rest ih =>
    obtain ⟨way, child⟩ := entry
    rw [List.map_cons, List.nodup_cons] at distinct
    have here : Preordered ((child.visits.map (·.1)).map (way :: ·)) :=
      (ordered (way, child) List.mem_cons_self).map_cons way
    have later := ih distinct.2 fun entry held => ordered entry (List.mem_cons_of_mem _ held)
    have joined : (Node.branches ((way, child) :: rest)).map (·.1) =
        (child.visits.map (·.1)).map (way :: ·) ++ (Node.branches rest).map (·.1) := by
      simp only [Node.branches, List.flatMap_cons, List.map_append, List.map_map, Function.comp_def]
    rw [joined]
    refine here.append later ?_
    intro one first other second
    obtain ⟨path, _, rfl⟩ := List.mem_map.1 first
    obtain ⟨⟨_, node⟩, held, rfl⟩ := List.mem_map.1 second
    obtain ⟨step, under, lower, rfl, below, -⟩ := Node.mem_branches.1 held
    have differs : way ≠ step := by
      rintro rfl
      exact distinct.1 (List.mem_map.2 ⟨(way, lower), below, rfl⟩)
    exact ⟨fun above => differs (List.cons_prefix_cons.1 above).1,
      fun above => differs (List.cons_prefix_cons.1 above).1.symm⟩

theorem preordered_visits (node : Node) : Preordered (node.visits.map (·.1)) := by
  induction node using Node.visits.induct with
  | case1 node ih =>
    rw [Node.visits_eq, List.map_cons]
    refine (preordered_branches (Node.nodup_places node) ?_).root_cons ?_
    · intro entry below
      exact ih entry.1 entry.2 below
    · intro root
      obtain ⟨⟨_, found⟩, held, rfl⟩ := List.mem_map.1 root
      obtain ⟨_, _, _, impossible, -⟩ := Node.mem_branches.1 held
      cases impossible

def visits (body : List Stmt) : List (Place × Node) :=
  Node.branches (Fields.places (Fields.ofScript body))

theorem distinct_ofScript (body : List Stmt) : ((Fields.ofScript body).map (·.1)).Nodup :=
  List.nodup_singleton _

theorem map_snd_visits (body : List Stmt) : (visits body).map (·.2) = nodes body := by
  have statements : (Fields.places (Fields.ofScript body)).map (·.2) = body.map Node.stmt := by
    simp only [Fields.ofScript, Fields.places_cons, Fields.places_nil, List.append_nil,
      Fields.map_snd_spots_many]
  rw [visits, Node.map_snd_branches, nodes, ← statements, List.flatMap_map]
  simp only [Node.map_snd_visits]

/-- The places listed are those of the script's nodes. -/
theorem mem_visits {body : List Stmt} {place : Place} {node : Node} :
    (place, node) ∈ visits body ↔ nodeAt? body place = some node := by
  rw [visits, Node.mem_branches]
  cases place with
  | nil => simp [nodeAt?]
  | cons way rest =>
    rw [nodeAt?, Option.bind_eq_some_iff]
    constructor
    · rintro ⟨_, _, child, same, below, lower⟩
      cases same
      exact ⟨child, (Fields.mem_places (distinct_ofScript body)).1 below, Node.mem_visits.1 lower⟩
    · rintro ⟨child, below, lower⟩
      exact ⟨way, rest, child, rfl, (Fields.mem_places (distinct_ofScript body)).2 below,
        Node.mem_visits.2 lower⟩

theorem preordered_places (body : List Stmt) : Preordered ((visits body).map (·.1)) :=
  preordered_branches (Fields.nodup_places (distinct_ofScript body))
    fun entry _ => preordered_visits entry.2

/-- The nodes that are checked are those that stand somewhere in the script. -/
theorem mem_nodes_iff {body : List Stmt} {node : Node} :
    node ∈ nodes body ↔ ∃ place, nodeAt? body place = some node := by
  rw [← map_snd_visits, List.mem_map]
  constructor
  · rintro ⟨⟨place, _⟩, held, rfl⟩
    exact ⟨place, mem_visits.1 held⟩
  · rintro ⟨place, found⟩
    exact ⟨(place, node), mem_visits.2 found, rfl⟩

/--
An analysis from any state comes to what checking the nodes of one list comes to, one after the
other up to the first error. The list has the node at every place of the script once and nothing
else, and it is a preorder: each node is followed at once by the nodes below it.
-/
theorem analyze_checks_every_place_once (body : List Stmt) :
    ∃ order : List (Place × Node),
      (∀ changelogs s, analyze changelogs s body = checkAll changelogs s (order.map (·.2))) ∧
      (∀ place node, (place, node) ∈ order ↔ nodeAt? body place = some node) ∧
      (order.map (·.1)).Nodup ∧ Preordered (order.map (·.1)) := by
  refine ⟨visits body, ?_, fun _ _ => mem_visits, (preordered_places body).nodup,
    preordered_places body⟩
  intro changelogs s
  rw [map_snd_visits]
  exact analyze_eq_checkAll s body

end VersionFloor.Analysis
