import VersionFloor.Json.Fault

set_option autoImplicit false

namespace VersionFloor.Json

/--
A reader takes the characters it needs off the front of the text or fails with the place at fault. A
fault that is found by looking at a character without taking it is placed behind the first byte of
that character.
-/
abbrev Reader := StateT (List Char) (Except Fault)

namespace Reader

variable {α : Type}

/-- Fails after the characters taken so far. -/
def fail (cause : Cause) : Reader α := fun cs => .error ⟨cause, byteCount cs⟩

/-- Fails one byte further on, if there is one. -/
def failAhead (cause : Cause) : Reader α := fun cs => .error ⟨cause, byteCount cs - 1⟩

def isSpace (c : Char) : Bool :=
  c = ' ' || c = '\n' || c = '\t' || c = '\r'

/-- Takes white space and looks at the character after it. -/
def peek : Reader (Option Char) := fun cs =>
  let rest := cs.dropWhile isSpace
  .ok (rest.head?, rest)

/-- Takes one character. -/
def skip : Reader Unit := fun cs => .ok ((), cs.drop 1)

/-- Takes the characters of `word`. -/
def word : List Char → Reader Unit
  | [] => pure ()
  | c :: rest => fun cs =>
    match cs with
    | [] => .error ⟨.endOfValue, 0⟩
    | d :: tail => if d = c then word rest tail else .error ⟨.expectedWord, byteCount cs - 1⟩

/-- The value of a hexadecimal digit. -/
def hexDigit? (c : Char) : Option Nat :=
  if c.isDigit then some (c.toNat - '0'.toNat)
  else if 'a' ≤ c && c ≤ 'f' then some (c.toNat - 'a'.toNat + 10)
  else if 'A' ≤ c && c ≤ 'F' then some (c.toNat - 'A'.toNat + 10)
  else none

/-- The number that four hexadecimal digits denote. -/
def hexValue? (a b c d : Char) : Option Nat := do
  let a ← hexDigit? a
  let b ← hexDigit? b
  let c ← hexDigit? c
  let d ← hexDigit? d
  return ((a * 16 + b) * 16 + c) * 16 + d

/-- The character after a backslash that stands for one character. -/
def plainEscape? : Char → Option Char
  | '"' => some '"'
  | '\\' => some '\\'
  | '/' => some '/'
  | 'b' => some '\x08'
  | 'f' => some '\x0c'
  | 'n' => some '\n'
  | 'r' => some '\r'
  | 't' => some '\t'
  | _ => none

/-- Four hexadecimal digits of `cs` that are not there. -/
def hexFault (cs : List Char) : Fault :=
  if byteCount cs < 4 then ⟨.endOfText, 0⟩ else ⟨.invalidEscape, byteCount cs - 4⟩

/-- Puts a character before the text read after it. -/
def pushChar (c : Char) (read : Except Fault (List Char × List Char)) :
    Except Fault (List Char × List Char) :=
  read.map fun (text, rest) => (c :: text, rest)

/-- The characters of a text up to its closing quote, after the opening one. -/
def textBody : List Char → Except Fault (List Char × List Char)
  | [] => .error ⟨.endOfText, 0⟩
  | '"' :: rest => .ok ([], rest)
  | ['\\'] => .error ⟨.endOfText, 0⟩
  | '\\' :: 'u' :: rest =>
    match rest with
    | a :: b :: c :: d :: tail =>
      match hexValue? a b c d with
      | none => .error (hexFault rest)
      | some high =>
        if 0xDC00 ≤ high ∧ high ≤ 0xDFFF then .error ⟨.loneSurrogate, byteCount tail⟩
        else if 0xD800 ≤ high ∧ high ≤ 0xDBFF then
          match tail with
          | '\\' :: 'u' :: e :: f :: g :: h :: last =>
            match hexValue? e f g h with
            | none => .error (hexFault (e :: f :: g :: h :: last))
            | some low =>
              if 0xDC00 ≤ low ∧ low ≤ 0xDFFF then
                pushChar (Char.ofNat (0x10000 + (high - 0xD800) * 0x400 + (low - 0xDC00)))
                  (textBody last)
              else .error ⟨.loneSurrogate, byteCount last⟩
          | '\\' :: 'u' :: last => .error (hexFault last)
          | ['\\'] => .error ⟨.endOfText, 0⟩
          | '\\' :: last => .error ⟨.unexpectedEndOfHex, byteCount last - 1⟩
          | [] => .error ⟨.endOfText, 0⟩
          | last => .error ⟨.unexpectedEndOfHex, byteCount last - 1⟩
        else pushChar (Char.ofNat high) (textBody tail)
    | _ => .error (hexFault rest)
  | '\\' :: c :: rest =>
    match plainEscape? c with
    | some meant => pushChar meant (textBody rest)
    | none => .error ⟨.invalidEscape, byteCount (c :: rest) - 1⟩
  | c :: rest =>
    if c.toNat < 0x20 then .error ⟨.controlCharacter, byteCount rest⟩
    else pushChar c (textBody rest)

/-- A text after its opening quote. -/
def textRest : Reader String := fun cs =>
  (textBody cs).map fun (text, rest) => (String.ofList text, rest)

/-- Takes digits as long as the number they continue stays below `2 ^ 64`; also counts them. -/
def takeDigits (number count : Nat) : List Char → Nat × Nat × List Char
  | [] => (number, count, [])
  | c :: rest =>
    let next := number * 10 + (c.toNat - '0'.toNat)
    if c.isDigit ∧ next < UInt64.size then takeDigits next (count + 1) rest
    else (number, count, c :: rest)

/-- `number · 10 ^ exponent` by one multiplication or by divisions of at most `10 ^ 308`. -/
def scaled? : Nat → Float → Int → Option Float
  | 0, x, _ => some x
  | fuel + 1, x, exponent =>
    if exponent.natAbs ≤ 308 then
      let power := Float.ofScientific 1 false exponent.natAbs
      if exponent < 0 then some (x / power)
      else if (x * power).isInf then none else some (x * power)
    else if x == 0 then some x
    else if 0 ≤ exponent then none
    else scaled? fuel (x / Float.ofScientific 1 false 308) (exponent + 308)

/-- The floating point number of a significand below `2 ^ 64`; four divisions bring it to zero. -/
def float (negative : Bool) (significand : Nat) (exponent : Int) : Reader Found :=
  match scaled? 4 (UInt64.ofNat significand).toFloat exponent with
  | none => fail .numberOutOfRange
  | some x => pure (.floating (if negative then -x else x))

/-- Takes the digits of an exponent; none if it does not stay below `2 ^ 31`. -/
def takeExponent (exponent : Nat) : List Char → Option Nat × List Char
  | [] => (some exponent, [])
  | c :: rest =>
    if c.isDigit then
      let next := exponent * 10 + (c.toNat - '0'.toNat)
      if next < 0x80000000 then takeExponent next rest else (none, rest)
    else (some exponent, c :: rest)

/-- An exponent after its mark. -/
def exponentPart (negative : Bool) (significand : Nat) (start : Int) : Reader Found := do
  let down := (← get).head? = some '-'
  modify fun cs => if cs.head? = some '+' ∨ cs.head? = some '-' then cs.drop 1 else cs
  match ← get with
  | [] => fail .endOfValue
  | c :: _ =>
    if c.isDigit then
      let (exponent, rest) := takeExponent 0 (← get)
      set rest
      match exponent with
      | some e => float negative significand (if down then start - e else start + e)
      | none =>
        if significand ≠ 0 ∧ !down then fail .numberOutOfRange
        else
          modify (·.dropWhile Char.isDigit)
          return .floating (if negative then -0.0 else 0.0)
    else failAhead .invalidNumber

/-- The exponent of a number, if it has one. -/
def exponentRest (negative : Bool) (significand : Nat) (exponent : Int) : Reader Found := do
  match ← get with
  | 'e' :: rest => set rest; exponentPart negative significand exponent
  | 'E' :: rest => set rest; exponentPart negative significand exponent
  | _ => float negative significand exponent

/-- The fraction of a number after its point. -/
def fractionPart (negative : Bool) (significand : Nat) (exponent : Int) : Reader Found := do
  let (significand, count, rest) := takeDigits significand 0 (← get)
  let more := rest.dropWhile Char.isDigit
  set more
  if count = 0 ∧ more.length = rest.length then
    failAhead (if rest.isEmpty then .endOfValue else .invalidNumber)
  else exponentRest negative significand (exponent - count)

/--
What follows the integer part of a number; without a fraction and an exponent it is an integer.
-/
def numberRest (negative : Bool) (significand : Nat) : Reader Found := do
  match ← get with
  | '.' :: rest => set rest; fractionPart negative significand 0
  | 'e' :: _ => exponentRest negative significand 0
  | 'E' :: _ => exponentRest negative significand 0
  | _ =>
    if !negative then return .integer significand
    else if significand = 0 ∨ 0x8000000000000000 < significand then
      return .floating (-(UInt64.ofNat significand).toFloat)
    else return .integer (-significand)

/-- A number after its sign. -/
def number (negative : Bool) : Reader Found := do
  match ← get with
  | [] => fail .endOfValue
  | '0' :: rest =>
    set rest
    if (rest.head?.map Char.isDigit).getD false then failAhead .invalidNumber
    else numberRest negative 0
  | c :: _ =>
    if c.isDigit then
      let (significand, _, rest) := takeDigits 0 0 (← get)
      let more := rest.dropWhile Char.isDigit
      set more
      if more.length = rest.length then numberRest negative significand
      else
        let exponent : Int := rest.length - more.length
        match more with
        | '.' :: tail => set tail; fractionPart negative significand exponent
        | _ => exponentRest negative significand exponent
    else failAhead .invalidNumber

/-- Fails because the value ahead is of another kind than the one wanted. -/
def refuse (wanted : String) : Reader α := do
  let wrong (found : Found) : Reader α := fail (.wrongKind found wanted)
  match ← peek with
  | none => failAhead .endOfValue
  | some 'n' => word "null".toList; wrong .null
  | some 't' => word "true".toList; wrong (.boolean true)
  | some 'f' => word "false".toList; wrong (.boolean false)
  | some '-' => skip; wrong (← number true)
  | some '"' => skip; wrong (.text (← textRest))
  | some '[' => wrong .list
  | some '\x7b' => wrong .object
  | some c => if c.isDigit then wrong (← number false) else failAhead .expectedValue

/-- A text. -/
def text : Reader String := do
  match ← peek with
  | some '"' => skip; textRest
  | _ => refuse "a string"

/-- `null`, or a value. -/
def optional (value : Reader α) : Reader (Option α) := do
  match ← peek with
  | some 'n' => word "null".toList; return none
  | _ => return some (← value)

/-- Whether another item of a list follows; takes the comma before it. -/
def moreItems (isFirst : Bool) : Reader Bool := do
  match ← peek with
  | none => failAhead .endOfList
  | some ']' => return false
  | some c =>
    if isFirst then return true
    else if c = ',' then
      skip
      match ← peek with
      | some ']' => failAhead .trailingComma
      | some _ => return true
      | none => failAhead .endOfValue
    else failAhead .expectedListEnd

/-- The end of a list of which no further item is wanted. -/
def listEnd : Reader Unit := do
  match ← peek with
  | some ']' => skip
  | some ',' =>
    skip
    match ← peek with
    | some ']' => failAhead .trailingComma
    | _ => failAhead .trailingCharacters
  | some _ => failAhead .trailingCharacters
  | none => failAhead .endOfList

/-- The items of a list; every item takes at least one character, so `fuel` of them suffice. -/
def items (item : Reader α) : Nat → Bool → Reader (List α)
  | 0, _ => failAhead .endOfList
  | fuel + 1, isFirst => do
    if ← moreItems isFirst then
      let head ← item
      return head :: (← items item fuel false)
    else return []

def list (item : Reader α) : Reader (List α) := do
  match ← peek with
  | some '[' =>
    skip
    let found ← items item (← get).length true
    listEnd
    return found
  | _ => refuse "a sequence"

/-- Whether another member of an object follows; takes the comma before it. -/
def moreMembers (isFirst : Bool) : Reader Bool := do
  match ← peek with
  | none => failAhead .endOfObject
  | some '\x7d' => return false
  | some c =>
    if isFirst then
      if c = '"' then return true else failAhead .keyNotText
    else if c = ',' then
      skip
      match ← peek with
      | some '"' => return true
      | some '\x7d' => failAhead .trailingComma
      | some _ => failAhead .keyNotText
      | none => failAhead .endOfValue
    else failAhead .expectedObjectEnd

/-- The name of a member, whose opening quote is ahead. -/
def key : Reader String := do
  skip
  textRest

def colon : Reader Unit := do
  match ← peek with
  | some ':' => skip
  | some _ => failAhead .expectedColon
  | none => failAhead .endOfObject

/--
The members of an object; every member takes at least one character, so `fuel` of them suffice.
-/
def members (value : Reader α) : Nat → Bool → Reader (List (String × α))
  | 0, _ => failAhead .endOfObject
  | fuel + 1, isFirst => do
    if ← moreMembers isFirst then
      let name ← key
      colon
      let head ← value
      return (name, head) :: (← members value fuel false)
    else return []

/-- An object of values of one kind. -/
def object (value : Reader α) : Reader (List (String × α)) := do
  match ← peek with
  | some '\x7b' =>
    skip
    let found ← members value (← get).length true
    skip
    return found
  | _ => refuse "a map"

/-- Nothing but white space is left. -/
def finish : Reader Unit := do
  match ← peek with
  | none => return ()
  | some _ => failAhead .trailingCharacters

/-- A value and nothing after it. -/
def whole (value : Reader α) : Reader α := do
  let found ← value
  finish
  return found

/-- Reads a text that holds one value. -/
def parse (value : Reader α) (text : String) : Except Fault α :=
  (whole value text.toList).map (·.1)

end Reader

end VersionFloor.Json
