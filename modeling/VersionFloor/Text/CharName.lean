import VersionFloor.Text.CharName.Table

set_option autoImplicit false

namespace VersionFloor.Text.CharName

def isGap (c : Char) : Bool :=
  c = ' ' || c = '_' || c = '\t' || c = '\n' || c = '\r' || c = '\x0c'

/-- What counts of the rest of a name; `before` is the character in front of it. -/
def foldFrom (before : Char) : List Char → List Char
  | [] => []
  | c :: rest =>
    let isInnerHyphen := c = '-' && before.isAlphanum && rest.head?.any Char.isAlphanum
    if isGap c || isInnerHyphen then foldFrom c rest else c.toUpper :: foldFrom c rest

/-- What counts of a name. -/
def fold (name : String) : List Char :=
  foldFrom ' ' name.toList

/-- Whether the words, one behind the other, are all of `key`. -/
def isSpelt : List (List Char) → List Char → Bool
  | [], key => key.isEmpty
  | word :: rest, key => word.isPrefixOf key && isSpelt rest (key.drop word.length)

/-- What follows `lead` in `key`, if it starts so. -/
def behind? (lead : String) (key : List Char) : Option (List Char) :=
  let lead := fold lead
  if lead.isPrefixOf key then some (key.drop lead.length) else none

/-- The words of a name that shares `count` words with the name before it. -/
def words (before : List (List Char)) (count : Nat) (rest : String) : List (List Char) :=
  before.take count ++ (rest.splitOn " ").map fold

/--
Looks for a name among those of one code point; the last of their words come back if it is not
there.
-/
def findAmong (key : List Char) (before : List (List Char)) :
    List String → Except (List (List Char)) Unit
  | [] => .error before
  | name :: others =>
    let count := (name.toList.head?.map fun c => c.toNat - '0'.toNat).getD 0
    let read := words before count (name.drop 1).toString
    if isSpelt read key then .ok () else findAmong key read others

/-- Looks for a name from `code` on. -/
def findFrom (key : List Char) (code : Nat) (before : List (List Char)) : List String → Option Nat
  | [] => none
  | names :: rest =>
    match findAmong key before (names.splitOn "=") with
    | .ok _ => some code
    | .error last => findFrom key (code + 1) last rest

def inTable? (key : List Char) : Option Nat :=
  table.findSome? fun (first, names) => findFrom key first [] (names.flatMap (·.splitOn ";"))

/-- The letters that a syllable starts with. -/
def leads : List String :=
  ["G", "GG", "N", "D", "DD", "R", "M", "B", "BB", "S", "SS", "", "J", "JJ", "C", "K", "T", "P",
   "H"]

/-- The vowels of syllables. -/
def vowels : List String :=
  ["A", "AE", "YA", "YAE", "EO", "E", "YEO", "YE", "O", "WA", "WAE", "OE", "YO", "U", "WEO", "WE",
   "WI", "YU", "EU", "YI", "I"]

/-- The letters that a syllable ends with. -/
def tails : List String :=
  ["", "G", "GG", "GS", "N", "NJ", "NH", "D", "L", "LG", "LM", "LB", "LS", "LT", "LP", "LH", "M",
   "B", "BS", "S", "SS", "NG", "J", "C", "K", "T", "P", "H"]

/-- The number of the syllable spelt with three indices. -/
def syllables : List (String × Nat) :=
  leads.zipIdx.flatMap fun (lead, l) =>
    vowels.zipIdx.flatMap fun (vowel, v) =>
      tails.zipIdx.map fun (tail, t) =>
        (lead ++ vowel ++ tail, (l * vowels.length + v) * tails.length + t)

def syllable? (key : List Char) : Option Nat := do
  let spelling := String.ofList (← behind? "HANGUL SYLLABLE" key)
  let found ← syllables.find? (·.1 = spelling)
  return 0xAC00 + found.2

def hexDigit? (c : Char) : Option Nat :=
  if c.isDigit then some (c.toNat - '0'.toNat)
  else if 'A' ≤ c && c ≤ 'F' then some (c.toNat - 'A'.toNat + 10)
  else none

/-- Names that are a lead and, behind a hyphen, the code point. -/
structure Coded where
  lead : String
  /-- The code points, by first and last of each run. -/
  runs : List (Nat × Nat)
  /-- Zeros in front fill the number up to five digits. -/
  isPadded : Bool

def coded : List Coded := [
  ⟨"CJK UNIFIED IDEOGRAPH",
    [(0x3400, 0x4DBF), (0x4E00, 0x9FFF), (0x20000, 0x2A6DF), (0x2A700, 0x2B739), (0x2B740, 0x2B81D),
      (0x2B820, 0x2CEA1), (0x2CEB0, 0x2EBE0), (0x2EBF0, 0x2EE5D), (0x30000, 0x3134A),
      (0x31350, 0x323AF)],
    true⟩,
  ⟨"CJK COMPATIBILITY IDEOGRAPH", [(0xF900, 0xFA6D), (0xFA70, 0xFAD9), (0x2F800, 0x2FA1D)], false⟩,
  ⟨"EGYPTIAN HIEROGLYPH", [(0x13460, 0x143FA)], false⟩,
  ⟨"KHITAN SMALL SCRIPT CHARACTER", [(0x18B00, 0x18CD5), (0x18CFF, 0x18CFF)], false⟩,
  ⟨"NUSHU CHARACTER", [(0x1B170, 0x1B2FB)], false⟩]

/-- The code point at the end of a name. -/
def Coded.codePoint? (kind : Coded) (key : List Char) : Option Nat := do
  let digits ← (← behind? kind.lead key).mapM hexDigit?
  let code := digits.foldl (fun value digit => value * 16 + digit) 0
  let isWritten := if kind.isPadded then digits.length ≤ 5 else digits.head? ≠ some 0
  if isWritten ∧ kind.runs.any (fun (first, last) => first ≤ code && code ≤ last) then some code
  else none

/-- The code point of a name. -/
def code? (key : List Char) : Option Nat :=
  (coded.findSome? (·.codePoint? key)).or ((syllable? key).or (inTable? key))

/-- Whether the last letter of a name stands behind a hyphen. -/
def endsInHyphenLetter (name : String) : Bool :=
  match name.toList.reverse.dropWhile isGap with
  | _ :: '-' :: _ => true
  | _ => false

/--
The character called `name`. Case, blanks, underscores and hyphens inside a word do not count. Of
the two vowels whose names differ by a hyphen alone, U+1180 is the one with the hyphen.
-/
def find? (name : String) : Option Char :=
  (code? (fold name)).map fun code =>
    Char.ofNat (if code = 0x116C && endsInHyphenLetter name then 0x1180 else code)

end VersionFloor.Text.CharName
