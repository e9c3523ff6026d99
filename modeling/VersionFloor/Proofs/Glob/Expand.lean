import VersionFloor.Proofs.FileTree.WellFormed
import VersionFloor.Proofs.Glob.Plain

set_option autoImplicit false

namespace VersionFloor.Glob

open FileTree

variable {tree : FileTree} {path name : String} {left less : Nat} {place inner : Place}

theorem isRecursive_endingIn (suffix : List Char) : (endingIn suffix).isRecursive = false := by
  simp [isRecursive, endingIn, chars]

theorem dotNames_endingIn (suffix : List Char) : (endingIn suffix).dotNames = [] := by
  rw [dotNames, endingIn, List.head?_cons, if_neg (by decide)]

/-- Where the walk along a pattern stands: in the current folder, or away from it. -/
inductive Standing (tree : FileTree) : String → Nat → Place → Prop
  | current : Standing tree "." linkLimit tree.current
  | away {path : String} {left : Nat} {place : Place} {part : Path.Part}
      (reached : Reaches tree path left place)
      (begins : (Path.parts path).head? = some part) (apart : part ≠ .here) :
        Standing tree path left place

theorem reaches_here (tree : FileTree) : Reaches tree "." linkLimit tree.current :=
  ⟨by decide, .blank (Or.inr rfl) .here⟩

theorem reaches_root (tree : FileTree) : Reaches tree "/" linkLimit [] :=
  ⟨by decide, .blank (Or.inl rfl) (.blank (Or.inl rfl) .here)⟩

theorem Standing.reaches (standing : Standing tree path left place) :
    Reaches tree path left place := by
  cases standing with
  | current => exact reaches_here tree
  | away reached => exact reached

theorem below_here (name : String) : below "." name = name := by
  rw [below, if_pos (by decide)]

theorem below_away {part : Path.Part} (begins : (Path.parts path).head? = some part)
    (apart : part ≠ .here) (name : String) : below path name = Path.join path name := by
  have elsewhere : Path.parts path ≠ [.here] := by
    intro same
    rw [same] at begins
    exact apart (Option.some.inj begins).symm
  rw [below, if_neg elsewhere]

/--
A name other than a dot leads away from the current folder, as far as can be seen from the path.
-/
theorem exists_begins_name (noSlash : '/' ∉ name.toList) (given : name ≠ "") (notDot : name ≠ ".") :
    ∃ part, (Path.parts name).head? = some part ∧ part ≠ .here := by
  have solid : name.toList ≠ [] := fun empty => given (String.toList_eq_nil_iff.1 empty)
  have away : name.toList ≠ ['.'] := fun same => notDot (String.toList_inj.1 same)
  rw [Path.parts_eq, Path.pieces_of_noSlash noSlash, Path.partsOf, Path.firstPart?, if_neg solid,
    if_neg away, Path.laterPart?, if_neg (not_or.2 ⟨solid, away⟩)]
  split
  · exact ⟨.up, rfl, by decide⟩
  · exact ⟨.name _, rfl, Path.Part.noConfusion⟩

theorem Standing.target_below (standing : Standing tree path left place)
    (noSlash : '/' ∉ name.toList) (given : path = "." → name ≠ "") {purpose : Purpose}
    (looking : purpose = .look ∨ purpose = .lookAtLink) :
    tree.target purpose (below path name) = tree.follow purpose left place [name] := by
  cases standing with
  | current => rw [below_here, target_name noSlash (given rfl)]
  | away reached begins apart => rw [below_away begins apart, reached.target_join noSlash looking]

theorem Standing.below (standing : Standing tree path left place) (noSlash : '/' ∉ name.toList)
    (given : path = "." → name ≠ "") (leads : Leads tree left place [name] less inner) :
    Standing tree (below path name) less inner := by
  cases standing with
  | current =>
    rw [below_here]
    by_cases dot : name = "."
    · subst dot
      cases (Leads.blank_iff (Or.inr rfl)).1 leads
      exact .current
    · obtain ⟨part, begins, apart⟩ := exists_begins_name noSlash (given rfl) dot
      exact .away (reaches_name noSlash (given rfl) leads) begins apart
  | away reached begins apart =>
    rw [below_away begins apart]
    refine .away (reached.join noSlash leads) ?_ apart
    rw [Path.parts_join reached.given noSlash, List.head?_append, begins, Option.some_or]

/-- A name that leads to a folder is there, be it as a link. -/
theorem exists_found {links : Nat} {folder : Place}
    (leads : Leads tree links folder [name] less inner) (notUp : name ≠ "..") :
    ∃ place entry, tree.follow .lookAtLink links folder [name] = .ok (.found place entry) := by
  cases leads with
  | blank empty =>
    rw [follow, if_neg (by simp), if_pos empty, follow]
    exact ⟨folder, .folder, rfl⟩
  | up => exact absurd rfl notUp
  | down solid _ stands => exact ⟨_, _, follow_lookAtLink solid notUp stands⟩
  | through solid _ stands => exact ⟨_, _, follow_lookAtLink solid notUp stands⟩

def named (name : String) : Glob :=
  ⟨chars name.toList⟩

/-- A name that leads on is walked as it is. -/
theorem expandBelow_named (standing : Standing tree path left place) (noSlash : '/' ∉ name.toList)
    (given : path = "." → name ≠ "") (leads : Leads tree left place [name] less inner) (fuel : Nat)
    (rest : List Glob) :
    expandBelow tree path (fuel + 1) (named name :: rest) =
      expandBelow tree (below path name) fuel rest := by
  have isThere :
      (if name = "." ∨ name = ".." then tree.isFolder path else tree.isTaken (below path name)) =
        true := by
    split
    · exact standing.reaches.isFolder
    · next special =>
      obtain ⟨found, entry, followed⟩ := exists_found leads fun up => special (Or.inr up)
      rw [isTaken, standing.target_below noSlash given (Or.inr rfl), followed]
  rw [expandBelow, named, literal?_chars]
  exact if_pos isThere

/-- No empty name follows upon the dots that names begin with. -/
def NoGap : List String → Prop
  | [] => True
  | name :: rest => if name = "." then NoGap rest else name ≠ ""

/-- Names that lead to a folder are walked to it. -/
theorem exists_expandBelow {names : List String} (noSlash : ∀ name ∈ names, '/' ∉ name.toList)
    (standing : Standing tree path left place) (noGap : path = "." → NoGap names)
    (leads : Leads tree left place names less inner) (fuel : Nat) (rest : List Glob) :
    ∃ final, Standing tree final less inner ∧
      expandBelow tree path (fuel + names.length) (names.map named ++ rest) =
        expandBelow tree final fuel rest := by
  induction names generalizing path left place with
  | nil =>
    cases leads
    exact ⟨path, standing, rfl⟩
  | cons name names ih =>
    obtain ⟨here, later⟩ := List.forall_mem_cons.1 noSlash
    obtain ⟨between, middle, first, others⟩ := Leads.divide leads (List.singleton_append).symm
    have given : path = "." → name ≠ "" := by
      intro current empty
      have solid := noGap current
      rw [NoGap, if_neg (by simp [empty])] at solid
      exact solid empty
    have noGapLater : below path name = "." → NoGap names := by
      intro stays
      cases standing with
      | current =>
        rw [below_here] at stays
        simpa only [NoGap, if_pos stays] using noGap rfl
      | away reached begins apart =>
        -- Away from the current folder the walk does not come back to it under its own name.
        rw [below_away begins apart] at stays
        have parts := Path.parts_join reached.given here
        rw [stays] at parts
        have same := congrArg List.head? parts
        rw [List.head?_append, begins, Option.some_or] at same
        exact absurd (Option.some.inj same).symm apart
    obtain ⟨final, ends, walked⟩ := ih later (standing.below here given first) noGapLater others
    refine ⟨final, ends, ?_⟩
    rw [List.map_cons, List.cons_append, List.length_cons, ← Nat.add_assoc,
      expandBelow_named standing here given first, walked]

/-- The parts of the paths that the walk finds where it stands differ in the last one only. -/
theorem Standing.exists_parts_below (standing : Standing tree path left place) :
    ∃ base, ∀ name, Path.IsName name →
      Path.parts (Glob.below path name) = base ++ [.name name] := by
  cases standing with
  | current =>
    refine ⟨[], fun name proper => ?_⟩
    rw [below_here, Path.parts_name proper, List.nil_append]
  | away reached begins apart =>
    refine ⟨Path.parts path, fun name proper => ?_⟩
    rw [below_away begins apart, Path.parts_join_name reached.given proper]

theorem expandAt_endingIn (named : Path.fileName? path = some name) (suffix : List Char)
    (fuel : Nat) :
    expandAt tree path (fuel + 2) [endingIn suffix] =
      if (endingIn suffix).accepts name then [path] else [] := by
  rw [expandAt, isRecursive_endingIn, if_neg Bool.false_ne_true, matchAt, named]

/-- Where more follows, a name that is accepted is walked on from. -/
theorem expandAt_cons {glob next : Glob} {rest : List Glob}
    (named : Path.fileName? path = some name) (flat : glob.isRecursive = false) (fuel : Nat) :
    expandAt tree path (fuel + 2) (glob :: next :: rest) =
      if glob.accepts name then expandBelow tree path fuel (next :: rest) else [] := by
  rw [expandAt, flat, if_neg Bool.false_ne_true, matchAt, named]
  exact List.cons_ne_nil _ _

/-- A star before a text picks the names of the folder that end in the text. -/
theorem expandBelow_endingIn (wellFormed : tree.WellFormed)
    (standing : Standing tree path left place) (suffix : List Char) (fuel : Nat) :
    expandBelow tree path (fuel + 3) [endingIn suffix] =
      ((tree.names place).filter (endingIn suffix).accepts).map (below path) := by
  have names : namesAt tree path = tree.names place := by rw [namesAt, standing.reaches.look]
  obtain ⟨base, parts⟩ := standing.exists_parts_below
  have picked : ∀ name ∈ tree.names place,
      expandAt tree (below path name) (fuel + 2) [endingIn suffix] =
      if (endingIn suffix).accepts name then [below path name] else [] := by
    intro name listed
    have named := parts name (wellFormed.isName_of_listed listed)
    exact expandAt_endingIn (Path.fileName?_of_parts named) suffix fuel
  have each : ∀ names : List String,
      names.flatMap (fun name => if (endingIn suffix).accepts name then [below path name] else []) =
        (names.filter (endingIn suffix).accepts).map (below path) := by
    intro names
    induction names with
    | nil => rfl
    | cons name names ih =>
      rw [List.flatMap_cons, ih, List.filter_cons]
      split <;> rfl
  rw [expandBelow, literal?_endingIn]
  simp only [names, dotNames_endingIn, List.flatMap_nil, ite_self, List.append_nil]
  rw [List.flatMap_congr picked, each]

/-- Whether a path begins with dots before slashes and one slash more. -/
def startsWithGap : List Char → Bool
  | '.' :: '/' :: '/' :: _ => true
  | '.' :: '/' :: rest => startsWithGap rest
  | _ => false

theorem startsWithGap_dot {c : Char} (apart : c ≠ '/') (rest : List Char) :
    startsWithGap ('.' :: '/' :: c :: rest) = startsWithGap (c :: rest) := by
  rw [startsWithGap]
  intro more same
  exact apart (List.cons.inj same).1

theorem startsWithGap_of_ne {cs : List Char} (apart : ∀ rest, cs ≠ '.' :: '/' :: rest) :
    startsWithGap cs = false := by
  rw [startsWithGap]
  · exact fun rest => apart ('/' :: rest)
  · exact apart

theorem noGap_cons {c : Char} {piece : List Char} (solid : c ≠ '.' ∨ piece ≠ [])
    (names : List String) :
    NoGap (String.ofList (c :: piece) :: names) := by
  have notDot : String.ofList (c :: piece) ≠ "." := by
    intro same
    have text : c :: piece = ['.'] := by simpa using congrArg String.toList same
    obtain ⟨rfl, rfl⟩ := List.cons.inj text
    exact solid.elim (absurd rfl) (absurd rfl)
  rw [NoGap, if_neg notDot]
  exact fun empty => by simpa using congrArg String.toList empty

theorem not_noGap_empty (names : List String) : ¬ NoGap ("" :: names) :=
  fun noGap => noGap rfl

/-- The names of a path that begins in the current folder have a gap where the path has one. -/
theorem noGap_pieceNames_iff {front tail : List Char}
    (ends : tail = [] ∧ front.getLast? ≠ some '/' ∨ tail = ['/']) (given : front ≠ [])
    (relative : front.head? ≠ some '/') :
    NoGap (pieceNames front) ↔ startsWithGap (front ++ tail) = false := by
  induction sized : front.length using Nat.strongRecOn generalizing front with
  | ind size ih =>
    obtain ⟨c, rest, rfl⟩ := List.exists_cons_of_ne_nil given
    have notSlash : c ≠ '/' := fun slash => relative (by rw [slash, List.head?_cons])
    obtain ⟨first, found, divided⟩ := List.exists_cons_of_ne_nil (Path.pieces_ne_nil rest)
    by_cases dot : c = '.'
    · subst dot
      rcases rest with _ | ⟨d, more⟩
      · refine iff_of_true True.intro ?_
        rcases ends with ⟨rfl, -⟩ | rfl <;> rfl
      by_cases slash : d = '/'
      · subst slash
        have behind : NoGap (pieceNames ('.' :: '/' :: more)) ↔ NoGap (pieceNames more) := by
          change NoGap (pieceNames (['.'] ++ '/' :: more)) ↔ _
          rw [pieceNames_append_slash]
          rfl
        rw [behind]
        rcases more with _ | ⟨e, more⟩
        · rcases ends with ⟨-, unslashed⟩ | rfl
          · exact absurd rfl unslashed
          · exact iff_of_false (not_noGap_empty []) Bool.false_ne_true.symm
        by_cases gap : e = '/'
        · subst gap
          rw [pieceNames, Path.pieces_slash]
          exact iff_of_false (not_noGap_empty _) Bool.false_ne_true.symm
        · rw [List.getLast?_cons_cons, List.getLast?_cons_cons] at ends
          have shorter : (e :: more).length < size := by
            rw [← sized]
            simp only [List.length_cons]
            omega
          rw [ih _ shorter ends (List.cons_ne_nil _ _) (by simpa using gap) rfl]
          exact Eq.congr_left (startsWithGap_dot gap _).symm
      · obtain ⟨inner, others, parted⟩ := List.exists_cons_of_ne_nil (Path.pieces_ne_nil more)
        rw [pieceNames, Path.pieces_cons (by decide) (Path.pieces_cons slash parted), List.map_cons]
        refine iff_of_true (noGap_cons (Or.inr (List.cons_ne_nil _ _)) _) (startsWithGap_of_ne ?_)
        exact fun _ same => slash (List.cons.inj (List.cons.inj same).2).1
    · rw [pieceNames, Path.pieces_cons notSlash divided, List.map_cons]
      refine iff_of_true (noGap_cons (Or.inl dot) _) (startsWithGap_of_ne ?_)
      exact fun _ same => dot (List.cons.inj same).1

/-- Slashes at the beginning of a path are pieces that are empty. -/
theorem pieces_dropWhile {cs : List Char} (solid : ∃ c ∈ cs, c ≠ '/') :
    Path.pieces (cs.dropWhile (· = '/')) = (Path.pieces cs).dropWhile (· = []) := by
  induction cs with
  | nil =>
    obtain ⟨c, held, -⟩ := solid
    exact absurd held List.not_mem_nil
  | cons c rest ih =>
    by_cases slash : c = '/'
    · subst slash
      rw [List.dropWhile_cons_of_pos (by simp), Path.pieces_slash,
        List.dropWhile_cons_of_pos (by simp)]
      apply ih
      obtain ⟨d, held, other⟩ := solid
      exact ⟨d, (List.mem_cons.1 held).resolve_left other, other⟩
    · obtain ⟨first, found, divided⟩ := List.exists_cons_of_ne_nil (Path.pieces_ne_nil rest)
      rw [List.dropWhile_cons_of_neg (by simpa using slash), Path.pieces_cons slash divided,
        List.dropWhile_cons_of_neg (by simp)]

theorem leads_dropWhile_iff {names : List String} :
    Leads tree left place (names.dropWhile (· = "")) less inner ↔
      Leads tree left place names less inner := by
  induction names with
  | nil => rfl
  | cons name names ih =>
    by_cases empty : name = ""
    · rw [List.dropWhile_cons_of_pos (by simpa using empty), ih, Leads.blank_iff (Or.inl empty)]
    · rw [List.dropWhile_cons_of_neg (by simpa using empty)]

/-- The pieces of a pattern that stands behind a path. -/
theorem pieces_behind {front last : List Char} (noSlash : '/' ∉ last) (given : last ≠ []) :
    pieces (front ++ '/' :: last) = (Path.pieces front).dropWhile (· = []) ++ [last] := by
  obtain ⟨c, rest, begins⟩ := List.exists_cons_of_ne_nil given
  have solid : ∃ c ∈ front ++ '/' :: last, c ≠ '/' := by
    refine ⟨c, by simp [begins], fun slash => noSlash ?_⟩
    rw [begins, slash]
    exact List.mem_cons_self
  have all : Path.pieces ((front ++ '/' :: last).dropWhile (· = '/')) =
      (Path.pieces front).dropWhile (· = []) ++ [last] := by
    rw [pieces_dropWhile solid, Path.pieces_append_slash, Path.pieces_of_noSlash noSlash,
      List.dropWhile_append]
    split
    · next none =>
      rw [List.isEmpty_iff.1 none, List.dropWhile_cons_of_neg (by simpa using given),
        List.nil_append]
    · rfl
  rw [pieces, all]
  simp [given]

theorem map_ofList_dropWhile (pieces : List (List Char)) :
    (pieces.dropWhile (· = [])).map String.ofList =
      (pieces.map String.ofList).dropWhile (· = "") := by
  rw [List.dropWhile_map]
  congr 2
  funext piece
  simp

theorem mapM_compile_plain {pieces : List (List Char)} (plain : ∀ piece ∈ pieces, Plain piece) :
    pieces.mapM (fun piece => compile (String.ofList piece)) =
      .ok ((pieces.map String.ofList).map named) := by
  induction pieces with
  | nil => rfl
  | cons piece pieces ih =>
    obtain ⟨here, later⟩ := List.forall_mem_cons.1 plain
    have first : compile (String.ofList piece) = .ok (named (String.ofList piece)) :=
      compile_plain (by rwa [String.toList_ofList])
    rw [List.mapM_cons, first, ih later]
    rfl

/--
The names of the path in front of a pattern, without the empty ones of the slashes that it begins
with.
-/
def frontNames (front : List Char) : List String :=
  (pieceNames front).dropWhile (· = "")

theorem noSlash_frontNames (front : List Char) : ∀ name ∈ frontNames front, '/' ∉ name.toList := by
  intro name held
  obtain ⟨piece, listed, rfl⟩ := List.mem_map.1 ((List.dropWhile_sublist _).subset held)
  rw [String.toList_ofList]
  exact (Path.of_mem_pieces listed).1

/-- A star before a text, behind a path, compiles to the names of the path and the star. -/
theorem mapM_compile_behind {front suffix : List Char} (plain : Plain front)
    (noSlash : '/' ∉ suffix) (ending : Plain suffix) :
    (pieces (front ++ '/' :: '*' :: suffix)).mapM (fun piece => compile (String.ofList piece)) =
      .ok ((frontNames front).map named ++ [endingIn suffix]) := by
  have noSlash : '/' ∉ '*' :: suffix := List.not_mem_cons_of_ne_of_not_mem (by decide) noSlash
  have last : compile (String.ofList ('*' :: suffix)) = .ok (endingIn suffix) :=
    @compile_star_between _ [] suffix (by rw [String.toList_ofList, List.nil_append])
      (by decide) ending
  have pieceWise : ∀ piece ∈ (Path.pieces front).dropWhile (· = []), Plain piece := by
    intro piece held
    exact plain.of_subset (Path.of_mem_pieces ((List.dropWhile_sublist _).subset held)).2
  rw [pieces_behind noSlash (List.cons_ne_nil _ _), List.mapM_append, List.mapM_cons, last,
    mapM_compile_plain pieceWise, map_ofList_dropWhile]
  rfl

theorem plain_front {folder : String} (plain : Plain folder.toList) {front : List Char}
    (stands : Path.Front folder front) : Plain front := by
  cases stands with
  | bare same => rwa [same] at plain
  | slashed ends =>
    rw [ends] at plain
    exact plain.of_subset (List.subset_append_left _ _)

theorem frontNames_of_relative {front : List Char} (given : front ≠ [])
    (relative : front.head? ≠ some '/') :
    frontNames front = pieceNames front := by
  obtain ⟨c, rest, rfl⟩ := List.exists_cons_of_ne_nil given
  have notSlash : c ≠ '/' := fun slash => relative (by rw [slash, List.head?_cons])
  obtain ⟨first, found, divided⟩ := List.exists_cons_of_ne_nil (Path.pieces_ne_nil rest)
  rw [frontNames, pieceNames, Path.pieces_cons notSlash divided, List.map_cons,
    List.dropWhile_cons_of_neg (by simp)]

theorem noGap_frontNames_iff {folder : String} {front : List Char}
    (stands : Path.Front folder front) (relative : Path.isAbsolute folder = false) :
    NoGap (frontNames front) ↔ startsWithGap folder.toList = false := by
  rw [Path.isAbsolute, decide_eq_false_iff_not] at relative
  cases stands with
  | bare same given unslashed =>
    rw [same] at relative ⊢
    rw [frontNames_of_relative given relative,
      noGap_pieceNames_iff (Or.inl ⟨rfl, unslashed⟩) given relative, List.append_nil]
  | slashed ends =>
    rw [ends] at relative ⊢
    have given : front ≠ [] := by
      rintro rfl
      exact relative rfl
    rw [List.head?_append_of_ne_nil front given] at relative
    rw [frontNames_of_relative given relative, noGap_pieceNames_iff (Or.inr rfl) given relative]

/-- A walk begins in the root folder or in the current one. -/
theorem exists_standing_start (tree : FileTree) (folder : String) :
    ∃ root, (if Path.isAbsolute folder then "/" else ".") = root ∧
      Standing tree root linkLimit (start folder tree.current) ∧
      (root = "." → Path.isAbsolute folder = false) := by
  rw [start]
  cases Path.isAbsolute folder with
  | true =>
    refine ⟨"/", rfl,
      .away (reaches_root tree) (rfl : _ = some Path.Part.root) Path.Part.noConfusion, ?_⟩
    exact fun same => absurd same (by decide)
  | false => exact ⟨".", rfl, .current, fun _ => rfl⟩

/-- The pattern of a star before a plain text, behind the path of a folder that has no wildcards. -/
theorem expand_behind {folder star : String} {front suffix : List Char}
    (stands : Path.Front folder front)
    (text : (Path.join folder star).toList = front ++ '/' :: '*' :: suffix)
    (plain : Plain folder.toList) (noSlash : '/' ∉ suffix) (ending : Plain suffix) :
    expand tree (Path.join folder star) =
      .ok (expandBelow tree (if Path.isAbsolute folder then "/" else ".")
        (3 * tree.reach + 2 * (frontNames front).length + 3 + 3 + (frontNames front).length)
        ((frontNames front).map named ++ [endingIn suffix])) := by
  have plain := plain_front plain stands
  have compiled : compile (Path.join folder star) =
      .ok ⟨chars (front ++ ['/']) ++ (endingIn suffix).tokens⟩ := by
    refine compile_star_between (by rw [text, List.append_assoc]; rfl) ?_ ending
    exact List.forall_mem_append.2 ⟨plain, (by decide : Plain ['/'])⟩
  have fuel : 3 * (tree.reach + ((frontNames front).map named ++ [endingIn suffix]).length + 1) =
      3 * tree.reach + 2 * (frontNames front).length + 3 + 3 + (frontNames front).length := by
    simp only [List.length_append, List.length_map, List.length_cons, List.length_nil]
    omega
  have absolute : Path.isAbsolute (Path.join folder star) = Path.isAbsolute folder := by
    rw [← stands.isAbsolute_eq ('*' :: suffix), ← text, Path.isAbsolute]
  rw [expand, compiled, text, mapM_compile_behind plain noSlash ending, absolute, ← fuel]
  rfl

/-- The text of a pattern that is a star before a text, behind the path of a folder. -/
theorem exists_front_star {folder star : String} {suffix : List Char} (given : folder ≠ "")
    (written : star.toList = '*' :: suffix) (noSlash : '/' ∉ suffix) :
    ∃ front, Path.Front folder front ∧
      (Path.join folder star).toList = front ++ '/' :: '*' :: suffix := by
  obtain ⟨front, stands, joined⟩ := Path.exists_front given
  have starNoSlash : '/' ∉ star.toList := by
    rw [written]
    exact List.not_mem_cons_of_ne_of_not_mem (by decide) noSlash
  exact ⟨front, stands, by rw [joined star starNoSlash, written]⟩

/--
A star before a plain text, behind the path of a folder that has neither wildcards nor a gap at its
beginning, finds the names of that folder which end in the text.
-/
theorem exists_expand_endingIn {folder star : String} {suffix : List Char}
    (wellFormed : tree.WellFormed) (reached : Reaches tree folder left place)
    (plain : Plain folder.toList) (noGap : startsWithGap folder.toList = false)
    (written : star.toList = '*' :: suffix) (noSlash : '/' ∉ suffix) (ending : Plain suffix) :
    ∃ path, Standing tree path left place ∧
      expand tree (Path.join folder star) =
        .ok (((tree.names place).filter (endingIn suffix).accepts).map (below path)) := by
  obtain ⟨front, stands, text⟩ := exists_front_star reached.given written noSlash
  have leads : Leads tree linkLimit (start folder tree.current) (frontNames front) left place :=
    leads_dropWhile_iff.2 (reached.leads_front stands)
  obtain ⟨root, begins, standing, relative⟩ := exists_standing_start tree folder
  obtain ⟨final, ends, walked⟩ := exists_expandBelow (noSlash_frontNames front) standing
    (fun current => (noGap_frontNames_iff stands (relative current)).2 noGap) leads
    (3 * tree.reach + 2 * (frontNames front).length + 3 + 3) [endingIn suffix]
  refine ⟨final, ends, ?_⟩
  rw [expand_behind stands text plain noSlash ending, begins, walked,
    expandBelow_endingIn wellFormed ends]

/--
Names with a gap are not walked to their end: the empty name stands for nothing in the current
folder.
-/
theorem expandBelow_gap {names : List String} (gap : ¬ NoGap names) (fuel : Nat)
    (rest : List Glob) :
    expandBelow tree "." fuel (names.map named ++ rest) = [] := by
  induction names generalizing fuel with
  | nil => exact absurd True.intro gap
  | cons name names ih =>
    rcases fuel with _ | fuel
    · rfl
    rw [List.map_cons, List.cons_append, expandBelow, named, literal?_chars]
    simp only [below_here]
    by_cases dot : name = "."
    · subst dot
      rw [ih (by simpa only [NoGap, if_true] using gap), ite_self]
    · rw [NoGap, if_neg dot, not_not] at gap
      subst gap
      rfl

/-- Behind the path of a folder that begins with a gap nothing is found. -/
theorem expand_gap {folder star : String} {suffix : List Char} (plain : Plain folder.toList)
    (gap : startsWithGap folder.toList = true) (written : star.toList = '*' :: suffix)
    (noSlash : '/' ∉ suffix) (ending : Plain suffix) :
    expand tree (Path.join folder star) = .ok [] := by
  have given : folder ≠ "" := by
    rintro rfl
    cases gap
  have relative : Path.isAbsolute folder = false := by
    rw [Path.isAbsolute, decide_eq_false_iff_not]
    intro absolute
    obtain ⟨rest, begins⟩ := List.head?_eq_some_iff.1 absolute
    rw [begins] at gap
    cases gap
  obtain ⟨front, stands, text⟩ := exists_front_star given written noSlash
  have gap : ¬ NoGap (frontNames front) := by
    rw [noGap_frontNames_iff stands relative, gap]
    exact Bool.false_ne_true.symm
  rw [expand_behind stands text plain noSlash ending, relative, if_neg Bool.false_ne_true,
    expandBelow_gap gap]

end VersionFloor.Glob
