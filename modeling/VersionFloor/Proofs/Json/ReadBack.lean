import VersionFloor.Json.Reader
import VersionFloor.Json.Value

set_option autoImplicit false

namespace VersionFloor.Json

def Blank (gap : List Char) : Prop :=
  ∀ c ∈ gap, Reader.isSpace c = true

theorem blank_nil : Blank [] :=
  List.forall_mem_nil _

namespace Layout

theorem blank_lineStart (layout : Layout) (depth : Nat) : Blank (layout.lineStart depth) := by
  cases layout with
  | compact => exact blank_nil
  | indented =>
    intro c held
    rcases List.mem_cons.1 held with rfl | blank
    · rfl
    · rw [List.eq_of_mem_replicate blank]
      rfl

def member (layout : Layout) (name : String) (value : List Char) : List Char :=
  quoted name ++ layout.colon ++ value

theorem member_append (layout : Layout) (name : String) (value rest : List Char) :
    layout.member name value ++ rest = quoted name ++ (layout.colon ++ (value ++ rest)) := by
  simp only [member, List.append_assoc]

end Layout

/-- What stands before a part besides white space. -/
def comma (isFirst : Bool) : List Char :=
  if isFirst then [] else [',']

/-- The parts of a list or an object, each after a gap, with commas between them. -/
def separated (gap : List Char) : Bool → List (List Char) → List Char
  | _, [] => []
  | isFirst, part :: rest => comma isFirst ++ gap ++ part ++ separated gap false rest

theorem separated_true (gap : List Char) (parts : List (List Char)) :
    separated gap true parts = List.intercalate [','] (parts.map (gap ++ ·)) := by
  induction parts with
  | nil => rfl
  | cons part rest ih =>
    cases rest with
    | nil => simp [separated, comma]
    | cons next rest =>
      rw [List.map_cons, List.map_cons, List.intercalate_cons_cons, ← List.map_cons, ← ih]
      simp [separated, comma]

/-- Every part takes at least one character, and the closing bracket one more. -/
theorem length_lt_separated {α : Type} {values : List α} {write : α → List Char}
    (written : ∀ value ∈ values, write value ≠ []) (gap closing rest : List Char) (right : Char)
    (isFirst : Bool) :
    values.length <
      (separated gap isFirst (values.map write) ++ (closing ++ right :: rest)).length := by
  induction values generalizing isFirst with
  | nil =>
    simp only [List.map_nil, separated, List.length_nil, List.length_append, List.length_cons]
    omega
  | cons value values ih =>
    obtain ⟨here, later⟩ := List.forall_mem_cons.1 written
    have first : 0 < (write value).length := List.length_pos_iff.2 here
    have others := ih later false
    simp only [List.map_cons, separated, List.length_append, List.length_cons] at others ⊢
    omega

/-- Parts in brackets are the separated parts, a gap and the closing bracket. -/
theorem Layout.exists_bracketed_eq (layout : Layout) (depth : Nat) (left right : Char)
    (parts : List (List Char)) :
    ∃ gap, Blank gap ∧ layout.bracketed depth left right parts =
      left :: (separated (layout.lineStart (depth + 1)) true parts ++ (gap ++ [right])) := by
  unfold bracketed
  split
  · next none =>
    rw [List.isEmpty_iff.1 none]
    exact ⟨[], blank_nil, rfl⟩
  · refine ⟨layout.lineStart depth, layout.blank_lineStart depth, ?_⟩
    rw [separated_true, List.cons_append, List.cons_append, List.append_assoc]

theorem Layout.head?_bracketed (layout : Layout) (depth : Nat) (left right : Char)
    (parts : List (List Char)) :
    (layout.bracketed depth left right parts).head? = some left := by
  obtain ⟨_, _, written⟩ := layout.exists_bracketed_eq depth left right parts
  rw [written, List.head?_cons]

namespace Reader

variable {α β : Type}

/-- A reader goes on with what the one before it has left. -/
theorem bind_of_ok {first : Reader α} {next : α → Reader β} {cs rest : List Char} {value : α}
    (read : first cs = .ok (value, rest)) : (first >>= next) cs = next value rest := by
  change Except.bind (first cs) _ = _
  rw [read]
  rfl

theorem peek_gap {gap : List Char} (blank : Blank gap) {c : Char} (solid : isSpace c = false)
    (rest : List Char) :
    peek (gap ++ c :: rest) = .ok (some c, c :: rest) := by
  have left : (gap ++ c :: rest).dropWhile isSpace = c :: rest := by
    rw [List.dropWhile_append_of_pos blank, List.dropWhile_cons_of_neg (by simp [solid])]
  rw [peek, left]
  rfl

theorem skip_cons (c : Char) (rest : List Char) : skip (c :: rest) = .ok ((), rest) := rfl

theorem get_eq (cs : List Char) : (get : Reader (List Char)) cs = .ok (cs, cs) := rfl

theorem hexValue?_digitChar : ∀ n < 0x20,
    hexValue? '0' '0' (Nat.digitChar (n / 16)) (Nat.digitChar (n % 16)) = some n := by
  decide

theorem textBody_hex {c : Char} (control : c.toNat < 0x20) (rest : List Char) :
    textBody ('\\' :: 'u' :: '0' :: '0' :: Nat.digitChar (c.toNat / 16) ::
      Nat.digitChar (c.toNat % 16) :: rest) =
      pushChar c (textBody rest) := by
  have low : ¬ (0xDC00 ≤ c.toNat ∧ c.toNat ≤ 0xDFFF) := by omega
  have high : ¬ (0xD800 ≤ c.toNat ∧ c.toNat ≤ 0xDBFF) := by omega
  rw [textBody]
  simp only [hexValue?_digitChar c.toNat control, if_neg low, if_neg high, Char.ofNat_toNat]

theorem textBody_plain {c : Char} (notQuote : c ≠ '"') (notBackslash : c ≠ '\\')
      (visible : ¬ c.toNat < 0x20) (rest : List Char) :
      textBody (c :: rest) = pushChar c (textBody rest) := by
  rw [textBody, if_neg visible] <;> intros <;> contradiction

/-- The next character of a text is read from its escaped form. -/
theorem textBody_escaped (c : Char) (rest : List Char) :
    textBody (escaped c ++ rest) = pushChar c (textBody rest) := by
  unfold escaped
  split
  case h_8 notQuote notBackslash _ _ _ _ _ =>
    split
    · next control => exact textBody_hex control rest
    · next visible => exact textBody_plain notQuote notBackslash visible rest
  -- The others have an escape of one letter.
  all_goals rfl

theorem textBody_flatMap_escaped (text rest : List Char) :
    textBody (text.flatMap escaped ++ '"' :: rest) = .ok (text, rest) := by
  induction text with
  | nil => rw [List.flatMap_nil, List.nil_append, textBody]
  | cons c text ih =>
    rw [List.flatMap_cons, List.append_assoc, textBody_escaped, ih]
    rfl

theorem key_quoted (text : String) (rest : List Char) :
    key (quoted text ++ rest) = .ok (text, rest) := by
  have body : textRest (text.toList.flatMap escaped ++ '"' :: rest) = .ok (text, rest) := by
    simp only [textRest, textBody_flatMap_escaped, Except.map, String.ofList_toList]
  have skipped : skip (quoted text ++ rest) =
      .ok ((), text.toList.flatMap escaped ++ '"' :: rest) := by
    simp [skip, quoted]
  rw [key, bind_of_ok skipped, body]

/--
The reader takes what is written, after any white space and before anything, and gives the value.
The first character written can be told from white space and from the end of a list.
-/
structure ReadBy (reader : Reader α) (written : List Char) (value : α) : Prop where
  starts : ∃ c more, written = c :: more ∧ isSpace c = false ∧ c ≠ ']'
  reads : ∀ gap rest, Blank gap → reader (gap ++ (written ++ rest)) = .ok (value, rest)

theorem ReadBy.ne_nil {reader : Reader α} {written : List Char} {value : α}
    (read : ReadBy reader written value) :
    written ≠ [] := by
  obtain ⟨c, more, rfl, _⟩ := read.starts
  exact List.cons_ne_nil c more

/-- What is made of a value is read as the value is. -/
theorem ReadBy.andThen {reader : Reader α} {written : List Char} {value : α}
    (read : ReadBy reader written value) (make : α → β) :
    ReadBy (reader >>= fun value => pure (make value)) written (make value) where
  starts := read.starts
  reads gap rest blank := bind_of_ok (read.reads gap rest blank)

/-- A reader that looks at the first character reads what it goes on to read. -/
theorem readBy_peek {next : Option Char → Reader α} {c : Char} {more : List Char} {value : α}
    (solid : isSpace c = false) (notEnd : c ≠ ']')
    (reads : ∀ rest, next (some c) (c :: more ++ rest) = .ok (value, rest)) :
    ReadBy (peek >>= next) (c :: more) value where
  starts := ⟨c, more, rfl, solid, notEnd⟩
  reads gap rest blank := by
    have first : peek (gap ++ (c :: more ++ rest)) = .ok (some c, c :: more ++ rest) :=
      peek_gap blank solid _
    rw [bind_of_ok first]
    exact reads rest

theorem ReadBy.afterPeek {next : Option Char → Reader α} {written : List Char} {value : α}
    (read : ReadBy (next written.head?) written value) : ReadBy (peek >>= next) written value := by
  obtain ⟨c, more, rfl, solid, notEnd⟩ := read.starts
  exact readBy_peek solid notEnd fun rest => read.reads [] rest blank_nil

theorem readBy_text (t : String) : ReadBy text (quoted t) t :=
  readBy_peek (by decide) (by decide) (key_quoted t)

/-- A value that does not begin as `null` does is read as a value that is there. -/
theorem ReadBy.optional {reader : Reader α} {written : List Char} {value : α}
    (read : ReadBy reader written value) (present : written.head? ≠ some 'n') :
    ReadBy (Reader.optional reader) written (some value) := by
  apply ReadBy.afterPeek
  split
  · next absent => exact absurd absent present
  · exact read.andThen some

/-- Parts in brackets are read if they are read in whatever gaps the two brackets stand. -/
theorem readBy_bracketed (layout : Layout) (depth : Nat) {left right : Char}
    (solid : isSpace left = false) (notEnd : left ≠ ']') {parts : List (List Char)}
    {reader : Reader α} {value : α}
    (reads : ∀ gap closing rest, Blank gap → Blank closing →
      reader
        (gap ++ left ::
          (separated (layout.lineStart (depth + 1)) true parts ++ (closing ++ right :: rest))) =
        .ok (value, rest)) :
    ReadBy reader (layout.bracketed depth left right parts) value := by
  obtain ⟨closing, closed, written⟩ := layout.exists_bracketed_eq depth left right parts
  rw [written]
  refine ⟨⟨left, _, rfl, solid, notEnd⟩, fun gap rest blank => ?_⟩
  rw [← reads gap closing rest blank closed]
  simp only [List.cons_append, List.append_assoc, List.nil_append]

theorem moreItems_more {gap : List Char} (blank : Blank gap) {c : Char} (solid : isSpace c = false)
    (notEnd : c ≠ ']') (isFirst : Bool) (rest : List Char) :
    moreItems isFirst (comma isFirst ++ (gap ++ c :: rest)) = .ok (true, c :: rest) := by
  have ahead : peek (gap ++ c :: rest) = .ok (some c, c :: rest) := peek_gap blank solid rest
  cases isFirst with
  | true =>
    rw [moreItems, comma, if_pos rfl, List.nil_append, bind_of_ok ahead]
    simp only [if_true]
    rfl
  | false =>
    have separator : peek (',' :: (gap ++ c :: rest)) = .ok (some ',', ',' :: (gap ++ c :: rest)) :=
      rfl
    rw [moreItems, comma, if_neg (by decide), List.singleton_append, bind_of_ok separator]
    refine (bind_of_ok (skip_cons ',' _)).trans ?_
    rw [bind_of_ok ahead]
    simp only
    rfl

theorem moreItems_end {gap : List Char} (blank : Blank gap) (isFirst : Bool) (rest : List Char) :
    moreItems isFirst (gap ++ ']' :: rest) = .ok (false, ']' :: rest) := by
  rw [moreItems, bind_of_ok (peek_gap blank (by decide) rest)]
  rfl

/-- The loop over the items reads them all and stops before the closing bracket. -/
theorem items_separated {item : Reader α} {write : α → List Char} {gap closing : List Char}
    (blank : Blank gap) (closed : Blank closing) (rest : List Char) {values : List α}
    (read : ∀ v ∈ values, ReadBy item (write v) v) {fuel : Nat} (enough : values.length < fuel)
    (isFirst : Bool) :
    items item fuel isFirst (separated gap isFirst (values.map write) ++ (closing ++ ']' :: rest)) =
      .ok (values, ']' :: rest) := by
  induction values generalizing fuel isFirst with
  | nil =>
    obtain ⟨fuel, rfl⟩ := Nat.exists_eq_add_of_lt enough
    rw [List.map_nil, separated, List.nil_append, items,
      bind_of_ok (moreItems_end closed isFirst rest)]
    rfl
  | cons v values ih =>
    obtain _ | fuel := fuel
    · exact absurd enough (Nat.not_lt_zero _)
    obtain ⟨c, more, starts, solid, notEnd⟩ := (read v List.mem_cons_self).starts
    let left := separated gap false (values.map write) ++ (closing ++ ']' :: rest)
    have next : moreItems isFirst
        (separated gap isFirst ((v :: values).map write) ++ (closing ++ ']' :: rest)) =
        .ok (true, write v ++ left) := by
      rw [List.map_cons, separated, starts]
      simpa only [List.append_assoc, List.cons_append] using
        moreItems_more blank solid notEnd isFirst (more ++ left)
    have first : item (write v ++ left) = .ok (v, left) :=
      (read v List.mem_cons_self).reads [] left blank_nil
    have others : items item fuel false left = .ok (values, ']' :: rest) :=
      ih (fun v member => read v (List.mem_cons_of_mem _ member))
        (Nat.lt_of_succ_lt_succ enough) false
    rw [items, bind_of_ok next]
    refine (bind_of_ok first).trans ?_
    exact bind_of_ok others

/-- A list is read from its items in brackets. -/
theorem readBy_list (layout : Layout) (depth : Nat) {item : Reader α} {write : α → List Char}
    {values : List α} (read : ∀ v ∈ values, ReadBy item (write v) v) :
    ReadBy (list item) (layout.bracketed depth '[' ']' (values.map write)) values := by
  refine readBy_bracketed layout depth (by decide) (by decide)
    fun gap closing rest blank closed => ?_
  have written : ∀ v ∈ values, write v ≠ [] := fun v listed => (read v listed).ne_nil
  have enough := length_lt_separated written (layout.lineStart (depth + 1)) closing rest ']' true
  have found := items_separated (layout.blank_lineStart (depth + 1)) closed rest read enough true
  rw [list, bind_of_ok (peek_gap blank (by decide) _)]
  refine (bind_of_ok (skip_cons '[' _)).trans ?_
  rw [bind_of_ok (get_eq _), bind_of_ok found]
  rfl

theorem moreMembers_more {gap : List Char} (blank : Blank gap) (name : String) (isFirst : Bool)
    (rest : List Char) :
    moreMembers isFirst (comma isFirst ++ (gap ++ (quoted name ++ rest))) =
      .ok (true, quoted name ++ rest) := by
  have ahead : peek (gap ++ (quoted name ++ rest)) = .ok (some '"', quoted name ++ rest) :=
    peek_gap blank (by decide) (name.toList.flatMap escaped ++ ['"'] ++ rest)
  cases isFirst with
  | true =>
    rw [moreMembers, comma, if_pos rfl, List.nil_append, bind_of_ok ahead]
    rfl
  | false =>
    have separator : peek (',' :: (gap ++ (quoted name ++ rest))) =
        .ok (some ',', ',' :: (gap ++ (quoted name ++ rest))) := rfl
    rw [moreMembers, comma, if_neg (by decide), List.singleton_append, bind_of_ok separator]
    refine (bind_of_ok (skip_cons ',' _)).trans ?_
    rw [bind_of_ok ahead]
    rfl

theorem moreMembers_end {gap : List Char} (blank : Blank gap) (isFirst : Bool) (rest : List Char) :
    moreMembers isFirst (gap ++ '\x7d' :: rest) = .ok (false, '\x7d' :: rest) := by
  rw [moreMembers, bind_of_ok (peek_gap blank (by decide) rest)]
  rfl

/-- The colon after a name leaves white space before the value. -/
theorem exists_colon_eq (layout : Layout) :
    ∃ gap, Blank gap ∧ ∀ rest, colon (layout.colon ++ rest) = .ok ((), gap ++ rest) := by
  cases layout with
  | compact => exact ⟨[], blank_nil, fun _ => rfl⟩
  | indented => exact ⟨[' '], by simp [Blank, isSpace], fun _ => rfl⟩

/-- The loop over the members reads them all and stops before the closing brace. -/
theorem members_separated (layout : Layout) {value : Reader α} {write : α → List Char}
    {gap closing : List Char} (blank : Blank gap) (closed : Blank closing) (rest : List Char)
    {entries : List (String × α)} (read : ∀ entry ∈ entries, ReadBy value (write entry.2) entry.2)
    {fuel : Nat} (enough : entries.length < fuel) (isFirst : Bool) :
    members value fuel isFirst
        (separated gap isFirst (entries.map fun entry => layout.member entry.1 (write entry.2)) ++
          (closing ++ '\x7d' :: rest)) =
      .ok (entries, '\x7d' :: rest) := by
  induction entries generalizing fuel isFirst with
  | nil =>
    obtain ⟨fuel, rfl⟩ := Nat.exists_eq_add_of_lt enough
    rw [List.map_nil, separated, List.nil_append, members,
      bind_of_ok (moreMembers_end closed isFirst rest)]
    rfl
  | cons entry entries ih =>
    obtain _ | fuel := fuel
    · exact absurd enough (Nat.not_lt_zero _)
    obtain ⟨space, spaced, colon_eq⟩ := exists_colon_eq layout
    let left := separated gap false
      (entries.map fun entry => layout.member entry.1 (write entry.2)) ++
      (closing ++ '\x7d' :: rest)
    have first : value (space ++ (write entry.2 ++ left)) = .ok (entry.2, left) :=
      (read entry List.mem_cons_self).reads space left spaced
    have others : members value fuel false left = .ok (entries, '\x7d' :: rest) :=
      ih (fun entry member => read entry (List.mem_cons_of_mem _ member))
        (Nat.lt_of_succ_lt_succ enough) false
    rw [List.map_cons, separated]
    simp only [List.append_assoc]
    rw [Layout.member_append, members, bind_of_ok (moreMembers_more blank entry.1 isFirst _)]
    refine (bind_of_ok (key_quoted entry.1 _)).trans ?_
    rw [bind_of_ok (colon_eq _), bind_of_ok first]
    exact bind_of_ok others

/-- An object is read from its members in braces. -/
theorem readBy_object (layout : Layout) (depth : Nat) {value : Reader α} (write : α → List Char)
    {entries : List (String × α)} (read : ∀ entry ∈ entries, ReadBy value (write entry.2) entry.2) :
    ReadBy (object value)
      (layout.bracketed depth '\x7b' '\x7d'
        (entries.map fun entry => layout.member entry.1 (write entry.2)))
      entries := by
  refine readBy_bracketed layout depth (by decide) (by decide)
    fun gap closing rest blank closed => ?_
  have written : ∀ entry ∈ entries, layout.member entry.1 (write entry.2) ≠ [] :=
    fun _ _ => List.cons_ne_nil _ _
  have enough := length_lt_separated written (layout.lineStart (depth + 1)) closing rest '\x7d' true
  have found := members_separated layout (layout.blank_lineStart (depth + 1)) closed rest
    read enough true
  rw [object, bind_of_ok (peek_gap blank (by decide) _)]
  refine (bind_of_ok (skip_cons '\x7b' _)).trans ?_
  rw [bind_of_ok (get_eq _), bind_of_ok found]
  rfl

/-- A text that holds the written form and nothing else is read as the value. -/
theorem ReadBy.parse {reader : Reader α} {written : List Char} {value : α}
    (read : ReadBy reader written value) :
    Reader.parse reader (String.ofList written) = .ok value := by
  have taken : reader written = .ok (value, []) := by
    simpa using read.reads [] [] blank_nil
  rw [Reader.parse, String.toList_ofList, whole, bind_of_ok taken]
  rfl

end Reader

end VersionFloor.Json
