import VersionFloor.Script.Token
import VersionFloor.Text.Blank
import VersionFloor.Text.CharName

set_option autoImplicit false

namespace VersionFloor.Script

namespace StringLiteral

/-- The letters of a literal's content, when the literal starts at `start`. -/
def source (literal : StringLiteral) (start : Nat) : Source :=
  Source.ofChars (start + literal.kind.prefixLength + if literal.isTriple then 3 else 1)
    literal.content

def hexValue? (c : Char) : Option Nat :=
  if c.isDigit then some (c.toNat - '0'.toNat)
  else if 'a' ≤ c && c ≤ 'f' then some (c.toNat - 'a'.toNat + 10)
  else if 'A' ≤ c && c ≤ 'F' then some (c.toNat - 'A'.toNat + 10)
  else none

/-- The character with exactly `count` hexadecimal digits; a surrogate reads as U+FFFD. -/
def codePoint (count : Nat) (s : Source) : Except Nat (Char × List Letter) :=
  let values := (s.letters.take count).filterMap fun l => hexValue? l.char
  let code := values.foldl (fun value digit => value * 16 + digit) 0
  if values.length < count || 0x10FFFF < code then .error s.position
  else if 0xD800 ≤ code && code ≤ 0xDFFF then .ok ('�', s.letters.drop count)
  else .ok (Char.ofNat code, s.letters.drop count)

/-- The character with up to three octal digits, the first of which is `first`. -/
def octal (first : Char) (letters : List Letter) : Char × List Letter :=
  let more := (letters.take 2).takeWhile fun l => '0' ≤ l.char && l.char ≤ '7'
  let code := (first :: more.map (·.char)).foldl
    (fun value d => value * 8 + (d.toNat - '0'.toNat)) 0
  (Char.ofNat code, letters.drop more.length)

/-- The longest name looked up. -/
def maxCharName : Nat := 88

/-- The character named in braces. -/
def namedChar (s : Source) : Except Nat (Char × List Letter) :=
  match s.letters with
  | [] => .error s.position
  | brace :: rest =>
    if brace.char != '\x7b' then .error s.position
    else
      let name := String.ofList ((rest.takeWhile (·.char != '\x7d')).map (·.char))
      match rest.dropWhile (·.char != '\x7d') with
      | [] => .error s.finish
      | _ :: after =>
        if maxCharName < name.utf8ByteSize then .error (Source.position ⟨after, s.finish⟩)
        else
          match Text.CharName.find? name with
          | some c => .ok (c, after)
          | none => .error (Source.position ⟨rest, s.finish⟩)

/--
The text an escape stands for, read behind its backslash. An unknown escape stands for itself.
-/
def escape (isBytes : Bool) (s : Source) : Except Nat (List Char × List Letter) :=
  match s.letters with
  | [] => .error s.finish
  | letter :: rest =>
    let one (c : Char) : Except Nat (List Char × List Letter) := .ok ([c], rest)
    let single (r : Except Nat (Char × List Letter)) : Except Nat (List Char × List Letter) :=
      r.map fun (c, after) => ([c], after)
    let after : Source := ⟨rest, s.finish⟩
    match letter.char with
    | '\\' => one '\\'
    | '\'' => one '\''
    | '"' => one '"'
    | 'a' => one '\x07'
    | 'b' => one '\x08'
    | 'f' => one '\x0c'
    | 'n' => one '\n'
    | 'r' => one '\r'
    | 't' => one '\t'
    | 'v' => one '\x0b'
    | '\n' => .ok ([], rest)
    | 'x' => single (codePoint 2 after)
    | c =>
      if '0' ≤ c && c ≤ '7' then single (.ok (octal c rest))
      else if !isBytes && c == 'u' then single (codePoint 4 after)
      else if !isBytes && c == 'U' then single (codePoint 8 after)
      else if !isBytes && c == 'N' then single (namedChar after)
      else if isBytes && 0x80 ≤ c.toNat then .error after.position
      else .ok (['\\', c], rest)

/-- The characters of a literal without replacement fields; `fuel` exceeds the number of letters. -/
def plainText (kind : StringKind) (finish : Nat) :
    Nat → List Char → List Letter → Except Nat (List Char)
  | 0, done, _ => .ok done.reverse
  | _ + 1, done, [] => .ok done.reverse
  | fuel + 1, done, letter :: rest =>
    if letter.char == '\\' && !kind.isRaw then do
      let (text, after) ← escape kind.isBytes ⟨rest, finish⟩
      plainText kind finish fuel (text.reverse ++ done) after
    else if kind.isBytes && 0x80 ≤ letter.char.toNat then
      .error (Source.position ⟨rest, finish⟩)
    else plainText kind finish fuel (letter.char :: done) rest

/--
Reads the expression of a replacement field from its text, whose first byte has the given offset.
-/
abbrev FieldReader := Nat → List Char → Option Expr

/-- A replacement field while it is read. -/
structure Field where
  /-- The offset behind the opening brace. -/
  start : Nat
  /-- The expression text, the last character first. -/
  expression : List Char
  /-- The open brackets, the innermost first. -/
  brackets : List Char
  conversion : Conversion
  format : Option Expr
  /-- An equals sign behind the expression asks for its text to be shown too. -/
  showsText : Bool
  /-- The number of blanks behind that equals sign. -/
  blanks : Nat

namespace Field

def opened (start : Nat) : Field :=
  ⟨start, [], [], .none, none, false, 0⟩

def push (field : Field) (c : Char) : Field :=
  { field with expression := c :: field.expression }

def hasExpression (field : Field) : Bool :=
  !(Text.trim field.expression).isEmpty

def text (s : String) (span : Span) : Expr :=
  .constant span (.str s) false

/-- The nodes of a field that has been closed. -/
def close (field : Field) (read : FieldReader) (span : Span) : Except Nat (List Expr) :=
  match read (field.start - 1) ('(' :: field.expression.reverse ++ [')']) with
  | none => .error field.start
  | some value =>
    if !field.showsText then .ok [.formatted span value field.conversion field.format]
    else
      let conversion :=
        match field.conversion, field.format with
        | .none, none => Conversion.repr
        | conversion, _ => conversion
      .ok [text (String.ofList field.expression.reverse ++ "=") span,
        text (String.ofList (List.replicate field.blanks ' ')) span,
        .formatted span value conversion field.format]

end Field

/-- The text node of some characters, none if there are none; the last character stands first. -/
def flush (span : Span) (done : List Char) : List Expr :=
  if done.isEmpty then [] else [Field.text (String.ofList done.reverse) span]

/-- What a quoted text inside a field spans: up to and with its closing quote. -/
def quotedText (quote : Char) (done : List Char) : List Letter → Option (List Char × List Letter)
  | [] => none
  | letter :: rest =>
    if letter.char == quote then some (letter.char :: done, rest)
    else quotedText quote (letter.char :: done) rest

mutual

/--
The nodes of formatted text, and the letters left: none, or inside a format the closing brace of the
field around it. Fields nest once. A backslash before a brace stands for itself, and the brace keeps
its meaning.
-/
def formattedText (kind : StringKind) (read : FieldReader) (span : Span) (finish depth : Nat) :
    Nat → List Expr → List Char → List Letter → Except Nat (List Expr × List Letter)
  | 0, nodes, done, letters => .ok (nodes ++ flush span done, letters)
  | _ + 1, nodes, done, [] => .ok (nodes ++ flush span done, [])
  | fuel + 1, nodes, done, letter :: rest =>
    let continueWith := formattedText kind read span finish depth fuel
    if letter.char == '\x7b' then
      if depth = 0 && rest.isEmpty then .error finish
      else if depth = 0 && rest.head?.any (·.char == '\x7b') then
        continueWith nodes ('\x7b' :: done) (rest.drop 1)
      else do
        let field := Field.opened (Source.position ⟨rest, finish⟩)
        let (inner, after) ← fieldNodes kind read span finish depth fuel field rest
        continueWith (nodes ++ flush span done ++ inner) [] after
    else if letter.char == '\x7d' then
      if 0 < depth then .ok (nodes ++ flush span done, letter :: rest)
      else
        match rest with
        | next :: after =>
          if next.char == '\x7d' then continueWith nodes ('\x7d' :: done) after
          else .error next.offset
        | [] => .error finish
    else if letter.char == '\\' && !kind.isRaw then
      if rest.head?.any fun next => next.char == '\x7b' || next.char == '\x7d' then
        continueWith nodes ('\\' :: done) rest
      else do
        let (text, after) ← escape kind.isBytes ⟨rest, finish⟩
        continueWith nodes (text.reverse ++ done) after
    else continueWith nodes (letter.char :: done) rest
termination_by structural fuel => fuel

/-- The nodes of a replacement field and the letters behind its closing brace. -/
def fieldNodes (kind : StringKind) (read : FieldReader) (span : Span) (finish depth : Nat) :
    Nat → Field → List Letter → Except Nat (List Expr × List Letter)
  | 0, _, _ => .error finish
  | _ + 1, _, [] => .error finish
  | fuel + 1, field, letter :: rest =>
    let continueWith := fieldNodes kind read span finish depth fuel
    let here := Source.position ⟨rest, finish⟩
    let c := letter.char
    let next := rest.head?.map (·.char)
    let closeBracket (opening : Char) : Except Nat (List Expr × List Letter) :=
      match field.brackets with
      | bracket :: outer =>
        if bracket == opening then continueWith { field.push c with brackets := outer } rest
        else .error here
      | [] => .error here
    if (c == '!' || c == '=' || c == '>' || c == '<') && next == some '=' then
      continueWith ((field.push c).push '=') (rest.drop 1)
    else if c == '!' && field.brackets.isEmpty then
      if !field.hasExpression then .error here
      else
        match rest with
        | [] => .error finish
        | flag :: after =>
          let behind := Source.position ⟨after, finish⟩
          let conversion? :=
            match flag.char with
            | 's' => some Conversion.str
            | 'a' => some Conversion.ascii
            | 'r' => some Conversion.repr
            | _ => none
          match conversion?, after.head?.map (·.char) with
          | some conversion, some '\x7d' | some conversion, some ':' =>
            continueWith { field with conversion } after
          | _, _ => .error behind
    else if c == '=' && field.brackets.isEmpty then
      continueWith { field with showsText := true } rest
    else if c == ':' && field.brackets.isEmpty then do
      let (nodes, after) ← formatNodes kind read span finish depth fuel [] [] rest
      continueWith { field with format := some (.joined span nodes) } after
    else if c == '(' || c == '\x7b' || c == '[' then
      continueWith { field.push c with brackets := c :: field.brackets } rest
    else if c == ')' then closeBracket '('
    else if c == ']' then closeBracket '['
    else if c == '\x7d' && !field.brackets.isEmpty then closeBracket '\x7b'
    else if c == '\x7d' then
      if !field.hasExpression then .error here
      else (field.close read span).map fun nodes => (nodes, rest)
    else if c == '"' || c == '\'' then
      match quotedText c (c :: field.expression) rest with
      | some (expression, after) => continueWith { field with expression } after
      | none => .error finish
    else if c == ' ' && field.showsText then continueWith { field with
      blanks := field.blanks + 1 } rest
    else if c == '\\' || field.showsText then .error here
    else continueWith (field.push c) rest
termination_by structural fuel => fuel

/--
The nodes of a field's format and the letters left, which start with the closing brace if any.
-/
def formatNodes (kind : StringKind) (read : FieldReader) (span : Span) (finish depth : Nat) :
    Nat → List Expr → List Char → List Letter → Except Nat (List Expr × List Letter)
  | 0, nodes, done, letters => .ok (nodes ++ flush span done, letters)
  | _ + 1, nodes, done, [] => .ok (nodes ++ flush span done, [])
  | fuel + 1, nodes, done, letter :: rest =>
    if letter.char == '\x7b' then
      if 0 < depth then .error letter.offset
      else do
        let (inner, after) ←
          formattedText kind read span finish (depth + 1) fuel [] [] (letter :: rest)
        formatNodes kind read span finish depth fuel (nodes ++ flush span done ++ inner) [] after
    else if letter.char == '\x7d' then .ok (nodes ++ flush span done, letter :: rest)
    else formatNodes kind read span finish depth fuel nodes (letter.char :: done) rest
termination_by structural fuel => fuel

end

/-- A part of a literal: text, bytes or a replacement field. -/
inductive Piece
  | text (value : String)
  | field (node : Expr)

/-- The parts of one literal that is not bytes. -/
def pieces (literal : StringLiteral) (read : FieldReader) (span : Span) :
    Except Nat (List Piece) := do
  let source := literal.source span.start
  let fuel := source.letters.length + 1
  if literal.kind.isFormatted then
    let (nodes, _) ←
      formattedText literal.kind read span source.finish 0 (2 * fuel) [] [] source.letters
    .ok (nodes.map fun
      | .constant _ (.str value) _ => .text value
      | node => .field node)
  else
    let text ← plainText literal.kind source.finish fuel [] source.letters
    .ok [.text (String.ofList text)]

/-- The bytes of one literal of bytes. -/
def bytes (literal : StringLiteral) (span : Span) : Except Nat (List UInt8) := do
  let source := literal.source span.start
  let text ← plainText literal.kind source.finish (source.letters.length + 1) [] source.letters
  .ok (text.map fun c => UInt8.ofNat c.toNat)

/-- Joins neighbouring texts; `pending` holds those read since the last field. -/
def mergePieces (textNode : String → Expr) (pending : Option String) : List Piece → List Expr
  | [] => pending.toList.map textNode
  | .text value :: rest => mergePieces textNode (some (pending.getD "" ++ value)) rest
  | .field node :: rest => pending.toList.map textNode ++ node :: mergePieces textNode none rest

/--
The node of neighbouring literals. It counts as written with the prefix `u` when the first literal
is. Bytes and text do not mix.
-/
def concat (read : FieldReader) (literals : List (StringLiteral × Span)) (whole : Span) :
    Except Nat Expr := do
  let isUnicode := literals.head?.any fun (literal, _) => literal.kind.isUnicode
  if literals.any fun (literal, _) => literal.kind.isBytes then
    if literals.all fun (literal, _) => literal.kind.isBytes then
      let parts ← literals.mapM fun (literal, span) => literal.bytes span
      .ok (.constant whole (.bytes parts.flatten) false)
    else .error whole.start
  else
    let parts ← literals.mapM fun (literal, span) => literal.pieces read span
    let textNode (value : String) : Expr := .constant whole (.str value) isUnicode
    let nodes := mergePieces textNode none parts.flatten
    if literals.any fun (literal, _) => literal.kind.isFormatted then .ok (.joined whole nodes)
    else .ok (nodes.headD (textNode ""))

end StringLiteral

end VersionFloor.Script
