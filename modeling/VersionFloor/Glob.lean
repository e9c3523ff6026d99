set_option autoImplicit false

namespace VersionFloor

namespace Glob

/-- The characters from `first` to `last`. -/
structure Range where
  first : Char
  last : Char
deriving DecidableEq

def Range.contains (r : Range) (c : Char) : Bool :=
  r.first ≤ c && c ≤ r.last

/-- One step of a pattern. -/
inductive Token
  | char (c : Char)
  | anyChar
  | within (ranges : List Range)
  | except (ranges : List Range)
  | anySequence
  | anyComponents
deriving DecidableEq

/-- What is wrong at a place of a pattern. -/
inductive Cause
  | stars
  | component
  | set
deriving DecidableEq

/-- A text that is no pattern, with the index of the character at fault. -/
structure Fault where
  position : Nat
  cause : Cause
deriving DecidableEq

def Cause.message : Cause → String
  | stars => "wildcards are either regular `*` or recursive `**`"
  | component => "recursive wildcards must form a single path component"
  | set => "invalid range pattern"

def Fault.message (fault : Fault) : String :=
  s!"Pattern syntax error near position {fault.position}: {fault.cause.message}"

/-- The members of a set: `a-b` is a range, every other character stands for itself. -/
def ranges : List Char → List Range
  | first :: '-' :: last :: rest => ⟨first, last⟩ :: ranges rest
  | c :: rest => ⟨c, c⟩ :: ranges rest
  | [] => []

def isMember (c : Char) : Bool :=
  c ≠ ']'

/-- A set up to its closing bracket; a bracket in the first place is a member. -/
def set? (first : Char) (rest : List Char) : Option (List Range × List Char) :=
  match rest.dropWhile isMember with
  | _ :: tail => some (ranges (first :: rest.takeWhile isMember), tail)
  | [] => none

/-- The token of a set after its opening bracket, and what follows it. -/
def setToken? : List Char → Option (Token × List Char)
  | '!' :: first :: rest => (set? first rest).map fun (members, tail) => (.except members, tail)
  | ['!'] => none
  | first :: rest => (set? first rest).map fun (members, tail) => (.within members, tail)
  | [] => none

theorem length_le_of_set? {first : Char} {rest : List Char} {members : List Range}
    {tail : List Char} (found : set? first rest = some (members, tail)) :
    tail.length ≤ rest.length := by
  unfold set? at found
  split at found
  · next bracket after closing =>
    have shorter := (List.dropWhile_sublist isMember (l := rest)).length_le
    rw [closing, List.length_cons] at shorter
    cases found
    omega
  · contradiction

theorem length_le_of_setToken? {chars : List Char} {token : Token} {tail : List Char}
    (found : setToken? chars = some (token, tail)) : tail.length ≤ chars.length := by
  unfold setToken? at found
  split at found
  · obtain ⟨⟨members, rest⟩, known, same⟩ := Option.map_eq_some_iff.1 found
    have shorter := length_le_of_set? known
    cases same
    simp only [List.length_cons]
    omega
  · contradiction
  · obtain ⟨⟨members, rest⟩, known, same⟩ := Option.map_eq_some_iff.1 found
    have shorter := length_le_of_set? known
    cases same
    simp only [List.length_cons]
    omega
  · contradiction

/--
The tokens in reverse with a run of components put before them; two neighbouring runs are one.
-/
def pushComponents (tokens : List Token) : List Token :=
  if 1 < tokens.length ∧ tokens.head? = some .anyComponents then tokens
  else .anyComponents :: tokens

/--
Reads the rest of a pattern from `position` on; `previous` is the character before it and `tokens`
are those read so far, in reverse.
-/
def compileFrom (position : Nat) (previous : Option Char) (tokens : List Token) :
    List Char → Except Fault (List Token)
  | [] => .ok tokens.reverse
  | '?' :: rest => compileFrom (position + 1) (some '?') (.anyChar :: tokens) rest
  | '*' :: '*' :: '*' :: _ => .error ⟨position + 2, .stars⟩
  | '*' :: '*' :: rest =>
    if previous.all (· = '/') then
      match rest with
      | '/' :: tail => compileFrom (position + 3) (some '/') (pushComponents tokens) tail
      | [] => .ok (pushComponents tokens).reverse
      | _ => .error ⟨position + 2, .component⟩
    else .error ⟨position - 1, .component⟩
  | '*' :: rest => compileFrom (position + 1) (some '*') (.anySequence :: tokens) rest
  | '[' :: rest =>
    match found : setToken? rest with
    | some (token, tail) =>
      have := length_le_of_setToken? found
      compileFrom (position + 1 + (rest.length - tail.length)) (some ']') (token :: tokens) tail
    | none => .error ⟨position, .set⟩
  | c :: rest => compileFrom (position + 1) (some c) (.char c :: tokens) rest
termination_by cs => cs.length

/-- What comes of matching tokens against a text. -/
inductive Outcome
  | matched
  | mismatch
  /-- The text ended before the tokens; no later start can match either. -/
  | exhausted
deriving DecidableEq

def Token.accepts (token : Token) (c : Char) : Bool :=
  match token with
  | char d => c = d
  | anyChar => true
  | within ranges => ranges.any (·.contains c)
  | except ranges => !ranges.any (·.contains c)
  | anySequence => false
  | anyComponents => false

/-- Tries `rest` after every character that `stops`, and at the end of the text. -/
def skim (stops : Char → Bool) (rest : List Char → Outcome) : List Char → Outcome
  | [] => rest []
  | c :: cs =>
    if stops c then
      match rest cs with
      | .mismatch => skim stops rest cs
      | outcome => outcome
    else skim stops rest cs

/-- A run of characters, tried shortest first. -/
def skimAny (stops : Char → Bool) (rest : List Char → Outcome) (cs : List Char) : Outcome :=
  match rest cs with
  | .mismatch => skim stops rest cs
  | outcome => outcome

def outcome : List Token → List Char → Outcome
  | [], cs => if cs.isEmpty then .matched else .mismatch
  | .anySequence :: rest, cs => skimAny (fun _ => true) (outcome rest) cs
  | .anyComponents :: rest, cs => skimAny (· = '/') (outcome rest) cs
  | _ :: _, [] => .exhausted
  | token :: rest, c :: cs => if token.accepts c then outcome rest cs else .mismatch

end Glob

/--
A compiled pattern: `?` is any character, `*` any run of characters, `**` any run of path
components, and `[…]` or `[!…]` one character in or outside a set. A slash or a leading dot is a
character like any other.
-/
structure Glob where
  tokens : List Glob.Token
deriving DecidableEq

namespace Glob

def compile (pattern : String) : Except Fault Glob :=
  (compileFrom 0 none [] pattern.toList).map Glob.mk

/-- Whether the pattern matches the whole text. -/
def accepts (glob : Glob) (text : String) : Bool :=
  outcome glob.tokens text.toList = .matched

end Glob

end VersionFloor
