import VersionFloor.Script.Token
import VersionFloor.Number.Decimal
import VersionFloor.Text.Identifier
import VersionFloor.Text.Emoji

set_option autoImplicit false

namespace VersionFloor.Script

/-- The blanks at the start of a line: tabs, then spaces. -/
structure Indentation where
  tabs : Nat
  spaces : Nat

namespace Indentation

/-- How two levels compare, unless that would depend on the width of a tab. -/
def compare? (a b : Indentation) : Option Ordering :=
  match compare a.tabs b.tabs with
  | .lt => if a.spaces ≤ b.spaces then some .lt else none
  | .gt => if a.spaces ≥ b.spaces then some .gt else none
  | .eq => some (compare a.spaces b.spaces)

end Indentation

namespace Lexer

/-- What has been read so far. -/
structure State where
  source : Source
  /-- The next letter is the first of a line. -/
  atLineStart : Bool
  /-- The number of open brackets. -/
  nesting : Nat
  /-- The levels in force above the outermost, the innermost first. -/
  levels : List Indentation
  /-- The tokens read, the last first. -/
  tokens : List Token

namespace State

def start (source : Source) : State :=
  ⟨source, true, 0, [], []⟩

def position (s : State) : Nat :=
  s.source.position

/-- Goes on with the letters `rest`. -/
def advance (s : State) (rest : List Letter) : State :=
  { s with source := { s.source with letters := rest } }

/-- Adds a token that starts at `start` and ends where the letters `rest` begin. -/
def emit (s : State) (kind : TokenKind) (start : Nat) (rest : List Letter) : State :=
  let next := s.advance rest
  { next with tokens := ⟨kind, ⟨start, next.position⟩⟩ :: s.tokens }

/-- Adds a token without extent at the current position. -/
def emitHere (s : State) (kind : TokenKind) : State :=
  s.emit kind s.position s.source.letters

end State

/-- Lexing steps fail with the offset at fault. -/
abbrev Step := Except Nat State

/--
Counts the blanks before the first letter of a line that is not blank. Empty lines, comments and
form feeds start the count anew; at the end of the text it is zero.
-/
def indentation (tabs spaces : Nat) (inComment : Bool) :
    List Letter → Except Nat (Indentation × List Letter)
  | [] => .ok (⟨0, 0⟩, [])
  | letter :: rest =>
    if letter.char == '\n' then indentation 0 0 false rest
    else if inComment then indentation 0 0 true rest
    else if letter.char == ' ' then indentation tabs (spaces + 1) false rest
    else if letter.char == '\t' then
      if spaces ≠ 0 then .error letter.offset else indentation (tabs + 1) spaces false rest
    else if letter.char == '#' then indentation 0 0 true rest
    else if letter.char == '\x0c' then indentation 0 0 false rest
    else .ok (⟨tabs, spaces⟩, letter :: rest)

/-- Closes levels until `level` is the innermost. -/
def dedentTo (level : Indentation) (position : Nat) :
    List Indentation → List Token → Except Nat (List Indentation × List Token)
  | levels, tokens =>
    match level.compare? (levels.headD ⟨0, 0⟩) with
    | none => .error position
    | some .eq => .ok (levels, tokens)
    | some .gt => .error position
    | some .lt =>
      match levels with
      | [] => .ok ([], tokens)
      | _ :: outer => dedentTo level position outer (⟨.dedent, ⟨position, position⟩⟩ :: tokens)
termination_by levels => levels.length

/-- Reads the indentation of a line and opens or closes levels. -/
def indent (s : State) : Step := do
  let (level, rest) ← indentation 0 0 false s.source.letters
  let next := { s.advance rest with atLineStart := rest.isEmpty }
  match level.compare? (s.levels.headD ⟨0, 0⟩) with
  | none => .error next.position
  | some .eq => .ok next
  | some .gt =>
    .ok { next.emit .indent (next.position - level.spaces - level.tabs) rest with
      levels := level :: s.levels }
  | some .lt =>
    let (levels, tokens) ← dedentTo level next.position s.levels s.tokens
    .ok { next with levels, tokens }

/--
The inside of a string literal and the letters after its closing quotes. A backslash keeps the
letter after it from closing the literal.
-/
def stringContent (finish : Nat) (quote : Char) (isTriple : Bool) (done : List Char) :
    List Letter → Except Nat (List Char × List Letter)
  | [] => .error finish
  | [letter] =>
    if !isTriple && letter.char == quote then .ok (done.reverse, []) else .error finish
  | letter :: next :: rest =>
    if letter.char == '\\' then
      stringContent finish quote isTriple (next.char :: '\\' :: done) rest
    else if letter.char == '\n' && !isTriple then .error next.offset
    else if letter.char == quote then
      if !isTriple then .ok (done.reverse, next :: rest)
      else
        match rest with
        | third :: after =>
          if next.char == quote && third.char == quote then .ok (done.reverse, after)
          else stringContent finish quote isTriple (letter.char :: done) (next :: rest)
        | [] => .error finish
    else stringContent finish quote isTriple (letter.char :: done) (next :: rest)

/-- Reads a string literal whose prefix has been recognised as `kind`. -/
def string (s : State) (kind : StringKind) : Step :=
  match s.source.letters.drop kind.prefixLength with
  | quote :: a :: b :: rest =>
    let isTriple := a.char == quote.char && b.char == quote.char
    let inside := if isTriple then rest else a :: b :: rest
    finishString quote.char isTriple inside
  | quote :: inside => finishString quote.char false inside
  | [] => .error s.source.finish
where
  finishString (quote : Char) (isTriple : Bool) (inside : List Letter) : Step := do
    let (content, rest) ← stringContent s.source.finish quote isTriple [] inside
    .ok (s.emit (.string ⟨kind, isTriple, content⟩) s.position rest)

def isQuote (c : Char) : Bool :=
  c == '"' || c == '\''

/-- The kind of the string literal that starts here, if its prefix and quote are there. -/
def stringKind? : List Letter → Option StringKind
  | a :: b :: rest =>
    if isQuote a.char then some .plain
    else if isQuote b.char then StringKind.ofLetter? a.char
    else
      match rest with
      | c :: _ => if isQuote c.char then StringKind.ofLetters? a.char b.char else none
      | [] => none
  | [a] => if isQuote a.char then some .plain else none
  | [] => none

/-- Reads a name or a word. -/
def name (s : State) : State :=
  let letters := s.source.letters
  let text := String.ofList
    ((letters.takeWhile fun l => Text.Identifier.isContinue l.char).map (·.char))
  let kind := if text ∈ reservedWords || text ∈ softWords then .word text else .name text
  s.emit kind s.position (letters.dropWhile fun l => Text.Identifier.isContinue l.char)

/-- The value of a digit in bases up to sixteen. -/
def digitValue? (base : Nat) (c : Char) : Option Nat :=
  let value :=
    if c.isDigit then some (c.toNat - '0'.toNat)
    else if 'a' ≤ c && c ≤ 'f' then some (c.toNat - 'a'.toNat + 10)
    else if 'A' ≤ c && c ≤ 'F' then some (c.toNat - 'A'.toNat + 10)
    else none
  value.filter (· < base)

/-- A run of digits, in which single underscores may stand before a digit. -/
def digits (base : Nat) (done : List Nat) : List Letter → List Nat × List Letter
  | [] => (done.reverse, [])
  | letter :: rest =>
    match digitValue? base letter.char with
    | some value => digits base (value :: done) rest
    | none =>
      match letter.char, rest with
      | '_', next :: _ =>
        if (digitValue? base next.char).isSome then digits base done rest
        else (done.reverse, letter :: rest)
      | _, _ => (done.reverse, letter :: rest)

/-- Whether an exponent with at least one digit starts here. -/
def atExponent : List Letter → Bool
  | e :: rest =>
    (e.char == 'e' || e.char == 'E') &&
      match rest with
      | sign :: rest =>
        sign.char.isDigit || ((sign.char == '+' || sign.char == '-') &&
          match rest with
          | digit :: _ => digit.char.isDigit
          | [] => false)
      | [] => false
  | [] => false

/-- Whether the letter after the first is an underscore. -/
def underscoreFollows : List Letter → Bool
  | _ :: next :: _ => next.char == '_'
  | _ => false

/-- The offset of the first of some letters. -/
def offsetOf (finish : Nat) (letters : List Letter) : Nat :=
  Source.position ⟨letters, finish⟩

/-- Reads the part of a number behind its point. -/
def fraction : List Letter → Except Nat (List Nat × List Letter)
  | letters@(letter :: rest) =>
    if letter.char == '.' then
      if underscoreFollows letters then .error letter.offset else .ok (digits 10 [] rest)
    else .ok ([], letters)
  | [] => .ok ([], [])

/-- Reads the exponent of a number, zero if there is none. -/
def exponent (finish : Nat) : List Letter → Except Nat (Int × List Letter)
  | letters@(letter :: rest) =>
    if letter.char == 'e' || letter.char == 'E' then
      if underscoreFollows letters then .error letter.offset
      else
        match rest with
        | sign :: after =>
          if sign.char == '+' || sign.char == '-' then
            if underscoreFollows rest then .error sign.offset
            else magnitude (sign.char == '-') after
          else magnitude false rest
        | [] => .error finish
    else .ok (0, letters)
  | [] => .ok (0, [])
where
  magnitude (isNegative : Bool) (letters : List Letter) : Except Nat (Int × List Letter) :=
    match digits 10 [] letters with
    | ([], rest) => .error (offsetOf finish rest)
    | (run, rest) =>
      let value : Int := Number.ofDigits 10 run
      .ok (if isNegative then -value else value, rest)

/-- Adds a number with a fraction or exponent, imaginary if a `j` follows. -/
def emitFloat (s : State) (value : Float) (rest : List Letter) : State :=
  match rest with
  | letter :: after =>
    if letter.char == 'j' || letter.char == 'J' then s.emit (.imaginary value) s.position after
    else s.emit (.float value) s.position rest
  | [] => s.emit (.float value) s.position []

/-- Reads a number in base ten. A whole number other than zero must not start with a zero. -/
def decimalNumber (s : State) : Step := do
  let finish := s.source.finish
  let (whole, rest) := digits 10 [] s.source.letters
  let isFloat := (rest.head?.any (·.char == '.')) || atExponent rest
  if isFloat then
    let (places, rest) ← fraction rest
    let (power, rest) ← exponent finish rest
    let value := Number.toFloat (Number.ofDigits 10 (whole ++ places)) (power - places.length)
    .ok (emitFloat s value rest)
  else
    let value := Number.ofDigits 10 whole
    match rest with
    | letter :: after =>
      if letter.char == 'j' || letter.char == 'J' then
        .ok (s.emit (.imaginary (Number.toFloat value 0)) s.position after)
      else integer whole value rest
    | [] => integer whole value rest
where
  integer (whole : List Nat) (value : Nat) (rest : List Letter) : Step :=
    if whole.head? == some 0 && value ≠ 0 then .error (offsetOf s.source.finish rest)
    else .ok (s.emit (.int value) s.position rest)

/-- Reads a number in the given base, whose two letters of prefix are still there. -/
def radixNumber (s : State) (base : Nat) : Step :=
  match digits base [] (s.source.letters.drop 2) with
  | ([], _) => .error s.position
  | (run, rest) => .ok (s.emit (.int (Number.ofDigits base run)) s.position rest)

def number (s : State) : Step :=
  match s.source.letters with
  | zero :: mark :: _ =>
    if zero.char == '0' then
      match mark.char.toLower with
      | 'x' => radixNumber s 16
      | 'o' => radixNumber s 8
      | 'b' => radixNumber s 2
      | _ => decimalNumber s
    else decimalNumber s
  | _ => decimalNumber s

/-- Signs of three, two and one letters, the longest first. -/
def signs : List String :=
  ["**=", "//=", ">>=", "<<=", "...",
   "==", "+=", "*=", "**", "/=", "//", "%=", "|=", "^=", "&=", "-=", "->", "@=", "!=", ":=", "<=",
   "<<", ">=", ">>",
   "=", "+", "*", "/", "%", "|", "^", "&", "-", "@", "~", "(", ")", "[", "]", "\x7b", "\x7d", ":",
   ";", "<", ">", ",", "."]

/-- The longest sign that starts here. -/
def sign? (letters : List Letter) : Option String :=
  let ahead := (letters.take 3).map (·.char)
  signs.find? fun text => text.toList.isPrefixOf ahead

/-- Adds a sign and keeps count of the open brackets. -/
def sign (s : State) (text : String) : Step :=
  let next := s.emit (.sign text) s.position (s.source.letters.drop text.length)
  if text ∈ ["(", "[", "\x7b"] then .ok { next with nesting := s.nesting + 1 }
  else if text ∈ [")", "]", "\x7d"] then
    if s.nesting = 0 then .error next.position else .ok { next with nesting := s.nesting - 1 }
  else .ok next

/-- Reads what starts with a letter that starts no name, number, string or sign. -/
def other (s : State) (letter : Letter) (rest : List Letter) : Step :=
  match letter.char with
  | '#' => .ok (s.advance (rest.dropWhile (·.char != '\n')))
  | '\n' =>
    if s.nesting = 0 then .ok { s.emit .newline letter.offset rest with atLineStart := true }
    else .ok (s.advance rest)
  | ' ' | '\t' | '\x0c' => .ok (s.advance rest)
  | '\\' =>
    match rest with
    | next :: after =>
      if next.char != '\n' then .error next.offset
      else if after.isEmpty then .error s.source.finish
      else .ok (s.advance after)
    | [] => .error s.source.finish
  | '!' => .error letter.offset
  | c =>
    if Text.Emoji.isPresentation c then .ok (s.emit (.name (String.singleton c)) letter.offset rest)
    else .error (s.advance rest).position

/-- Reads one token, or letters that are none. -/
def token (s : State) (letter : Letter) (rest : List Letter) : Step :=
  let letters := s.source.letters
  match stringKind? letters with
  | some kind => string s kind
  | none =>
    if Text.Identifier.isStart letter.char then .ok (name s)
    else if letter.char.isDigit || (letter.char == '.' && rest.head?.any (·.char.isDigit)) then
      number s
    else
      match sign? letters with
      | some text => sign s text
      | none => other s letter rest

/-- Ends the text: a line end if the last line has none, and the end of every level. -/
def close (s : State) : Step :=
  if s.nesting ≠ 0 then .error s.source.finish
  else
    let ended := if s.atLineStart then s else s.emitHere .newline
    .ok (ended.levels.foldl (fun s _ => s.emitHere .dedent) ended)

/-- Reads tokens until the text ends; `fuel` exceeds the number of letters left. -/
def run : Nat → State → TokenStream
  | 0, s => ⟨s.tokens.reverse, some s.position⟩
  | fuel + 1, s =>
    match if s.atLineStart then indent s else .ok s with
    | .error offset => ⟨s.tokens.reverse, some offset⟩
    | .ok ready =>
      match ready.source.letters with
      | [] =>
        match close ready with
        | .error offset => ⟨s.tokens.reverse, some offset⟩
        | .ok final => ⟨final.tokens.reverse, none⟩
      | letter :: rest =>
        match token ready letter rest with
        | .error offset => ⟨s.tokens.reverse, some offset⟩
        | .ok next => run fuel next

end Lexer

namespace TokenStream

/--
Whether `match` or `case` opens a statement, judged by the tokens after it: a colon outside brackets
stands on the line, not right behind the word. A `lambda` outside brackets takes one colon for
itself.
-/
def opensBlock (first inLambda : Bool) (nesting : Int) (found : Bool) : List Token → Bool
  | [] => found
  | token :: rest =>
    match token.kind with
    | .newline => found
    | .word "lambda" =>
      opensBlock false (inLambda || nesting == 0) nesting found rest
    | .sign ":" =>
      if nesting != 0 then opensBlock false inLambda nesting found rest
      else if inLambda then opensBlock false false nesting found rest
      else opensBlock false false nesting (found || !first) rest
    | .sign "(" | .sign "[" | .sign "\x7b" => opensBlock false inLambda (nesting + 1) found rest
    | .sign ")" | .sign "]" | .sign "\x7d" => opensBlock false inLambda (nesting - 1) found rest
    | _ => opensBlock false inLambda nesting found rest

/-- Whether an equals sign follows, with nothing but one bracketed list before it. -/
def reachesEquals (nesting : Int) : List Token → Bool
  | [] => false
  | token :: rest =>
    match token.kind with
    | .newline => false
    | .sign "=" => nesting == 0 || (0 < nesting && reachesEquals nesting rest)
    | .sign "[" => reachesEquals (nesting + 1) rest
    | .sign "]" => reachesEquals (nesting - 1) rest
    | _ => 0 < nesting && reachesEquals nesting rest

/-- Whether `type` opens an alias statement: a name follows and then an equals sign. -/
def opensAlias : List Token → Bool
  | token :: rest =>
    match token.kind with
    | .name _ => reachesEquals 0 rest
    | .word text => text ∈ softWords && reachesEquals 0 rest
    | _ => false
  | [] => false

/-- Turns the soft words that open no statement into names. -/
def resolveSoftWords (atLineStart : Bool) : List Token → List Token
  | [] => []
  | token :: rest =>
    let resolved :=
      match token.kind with
      | .word text =>
        if text ∈ softWords then
          let opens :=
            atLineStart && if text == "type" then opensAlias rest else opensBlock true
              false 0 false rest
          if opens then token else { token with kind := .name text }
        else token
      | _ => token
    let startsLine :=
      match token.kind with
      | .newline | .indent | .dedent => true
      | _ => false
    resolved :: resolveSoftWords startsLine rest

/-- The tokens of a source; at the start of a script a statement may begin. -/
def ofSource (source : Source) (isScript : Bool) : TokenStream :=
  let raw := Lexer.run (source.letters.length + 1) (Lexer.State.start source)
  { raw with tokens := resolveSoftWords isScript raw.tokens }

end TokenStream

end VersionFloor.Script
