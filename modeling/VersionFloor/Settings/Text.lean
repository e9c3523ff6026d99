import VersionFloor.Number.Decimal
import VersionFloor.Settings

set_option autoImplicit false

namespace VersionFloor.Settings

namespace Text

/--
Values in the notation of TOML. One of several names can also be chosen by a table whose only entry
has that name and holds nothing.
-/
inductive Value
  | text (content : String)
  | number (n : Int)
  | flag (isOn : Bool)
  | texts (items : List String)
  /-- A table without entries. -/
  | nothing
  /-- A table with one entry, which holds nothing. -/
  | choice (name : String)
deriving DecidableEq

/-- Whether a value can be what an entry holds when it holds nothing. -/
def Value.isHollow : Value → Bool
  | .nothing => true
  | .texts items => items.isEmpty
  | _ => false

def isSpace (c : Char) : Bool :=
  c = ' ' || c = '\t'

/-- What may stand in a comment or a string: no control character but the tab. -/
def isAllowed (c : Char) : Bool :=
  c = '\t' || (' ' ≤ c && c ≠ '\x7f')

def skipSpaces (cs : List Char) : List Char :=
  cs.dropWhile isSpace

def lineBreak? : List Char → Option (List Char)
  | '\n' :: rest => some rest
  | '\r' :: '\n' :: rest => some rest
  | _ => none

/-- What follows the spaces and the comment at the end of a line. -/
def skipComment (cs : List Char) : List Char :=
  match skipSpaces cs with
  | '#' :: rest => rest.dropWhile isAllowed
  | rest => rest

/-- The lines after the end of this one. -/
def lineEnd? (cs : List Char) : Option (List Char) :=
  match skipComment cs with
  | [] => some []
  | rest => lineBreak? rest

/-- Skips spaces, comments and line breaks, of which there are fewer than `fuel`. -/
def skipLines : Nat → List Char → List Char
  | 0, cs => cs
  | fuel + 1, cs =>
    match lineBreak? (skipComment cs) with
    | some rest => skipLines fuel rest
    | none => skipComment cs

def hexDigit? (c : Char) : Option Nat :=
  if '0' ≤ c && c ≤ '9' then some (c.toNat - '0'.toNat)
  else if 'a' ≤ c && c ≤ 'f' then some (c.toNat - 'a'.toNat + 10)
  else if 'A' ≤ c && c ≤ 'F' then some (c.toNat - 'A'.toNat + 10)
  else none

/-- The character of `count` hexadecimal digits. -/
def hexChar? (count : Nat) (cs : List Char) : Option (Char × List Char) := do
  let digits ← (cs.take count).mapM hexDigit?
  let code := Number.ofDigits 16 digits
  if digits.length = count ∧ code.isValidChar then some (Char.ofNat code, cs.drop count) else none

/-- The character of an escape, after its backslash. -/
def escape? : List Char → Option (Char × List Char)
  | '"' :: rest => some ('"', rest)
  | '\\' :: rest => some ('\\', rest)
  | 'b' :: rest => some ('\x08', rest)
  | 'e' :: rest => some ('\x1b', rest)
  | 'f' :: rest => some ('\x0c', rest)
  | 'n' :: rest => some ('\n', rest)
  | 'r' :: rest => some ('\r', rest)
  | 't' :: rest => some ('\t', rest)
  | 'x' :: rest => hexChar? 2 rest
  | 'u' :: rest => hexChar? 4 rest
  | 'U' :: rest => hexChar? 8 rest
  | _ => none

/--
The rest of a string on one line; `quote` ends it, and in a `raw` one a backslash is a backslash.
-/
def lineString? (quote : Char) (raw : Bool) : Nat → List Char → Option (List Char × List Char)
  | 0, _ => none
  | _, [] => none
  | fuel + 1, c :: rest =>
    if c = quote then some ([], rest)
    else if c = '\\' && !raw then do
      let (escaped, rest) ← escape? rest
      let (content, rest) ← lineString? quote raw fuel rest
      return (escaped :: content, rest)
    else if isAllowed c then do
      let (content, rest) ← lineString? quote raw fuel rest
      return (c :: content, rest)
    else none

/-- White space over several lines. -/
def skipBlankLines (cs : List Char) : List Char :=
  cs.dropWhile fun c => isSpace c || c = '\n' || c = '\r'

/--
The rest of a string over several lines. Three quotes end it, and up to two more just before them
belong to it; a backslash at the end of a line takes the white space after it away.
-/
def blockString? (quote : Char) (raw : Bool) : Nat → List Char → Option (List Char × List Char)
  | 0, _ => none
  | _, [] => none
  | fuel + 1, c :: rest =>
    if c = quote then
      let quotes := 1 + (rest.takeWhile (· = quote)).length
      if quotes < 3 then do
        let (content, rest) ← blockString? quote raw fuel rest
        return (c :: content, rest)
      else
        let within := Nat.min quotes 5 - 3
        some (List.replicate within quote, (c :: rest).drop (within + 3))
    else if c = '\\' && !raw then
      match lineBreak? (skipSpaces rest) with
      | some rest => blockString? quote raw fuel (skipBlankLines rest)
      | none => do
        let (escaped, rest) ← escape? rest
        let (content, rest) ← blockString? quote raw fuel rest
        return (escaped :: content, rest)
    else if isAllowed c || c = '\n' || (c = '\r' && rest.head? = some '\n') then do
      let (content, rest) ← blockString? quote raw fuel rest
      return (c :: content, rest)
    else none

/-- A string of any kind. -/
def string? (cs : List Char) : Option (String × List Char) :=
  let fuel := cs.length
  let block (quote : Char) (rest : List Char) :=
    blockString? quote (quote = '\'') fuel ((lineBreak? rest).getD rest)
  let read :=
    match cs with
    | '"' :: '"' :: '"' :: rest => block '"' rest
    | '\'' :: '\'' :: '\'' :: rest => block '\'' rest
    | '"' :: rest => lineString? '"' false fuel rest
    | '\'' :: rest => lineString? '\'' true fuel rest
    | _ => none
  read.map fun (content, rest) => (String.ofList content, rest)

def isWordChar (c : Char) : Bool :=
  c.isAlphanum || c = '_' || c = '+' || c = '-' || c = '.' || c = ':'

/-- Digits of a base, with single underscores between them. -/
def digits? (base : Nat) : List Char → Option (List Nat)
  | [] => none
  | [c] => (hexDigit? c).bind fun d => if d < base then some [d] else none
  | c :: '_' :: rest => do
    let d ← hexDigit? c
    if d < base then (d :: ·) <$> digits? base rest else none
  | c :: rest => do
    let d ← hexDigit? c
    if d < base then (d :: ·) <$> digits? base rest else none

/-- A decimal number, without a zero before its other digits. -/
def decimal? (word : List Char) : Option Nat := do
  let digits ← digits? 10 word
  match digits with
  | 0 :: _ :: _ => none
  | _ => some (Number.ofDigits 10 digits)

def integer? : List Char → Option Int
  | '0' :: 'x' :: rest => (digits? 16 rest).map fun digits => Number.ofDigits 16 digits
  | '0' :: 'o' :: rest => (digits? 8 rest).map fun digits => Number.ofDigits 8 digits
  | '0' :: 'b' :: rest => (digits? 2 rest).map fun digits => Number.ofDigits 2 digits
  | '+' :: rest => (decimal? rest).map Int.ofNat
  | '-' :: rest => (decimal? rest).map fun n => -Int.ofNat n
  | word => (decimal? word).map Int.ofNat

/-- A value that is a word of its own. -/
def word? (cs : List Char) : Option (Value × List Char) :=
  let rest := cs.dropWhile isWordChar
  match String.ofList (cs.takeWhile isWordChar) with
  | "true" => some (.flag true, rest)
  | "false" => some (.flag false, rest)
  | word => (integer? word.toList).map fun n => (.number n, rest)

/-- The items of a list up to its closing bracket. -/
def items? : Nat → List Char → Option (List String × List Char)
  | 0, _ => none
  | fuel + 1, cs =>
    match skipLines cs.length cs with
    | ']' :: rest => some ([], rest)
    | rest => do
      let (item, rest) ← string? rest
      match skipLines rest.length rest with
      | ',' :: rest =>
        let (items, rest) ← items? fuel rest
        return (item :: items, rest)
      | ']' :: rest => some ([item], rest)
      | _ => none

def isKeyChar (c : Char) : Bool :=
  c.isAlphanum || c = '_' || c = '-'

/-- A key, bare or in quotes on one line. -/
def key? (cs : List Char) : Option (String × List Char) :=
  let read :=
    match cs with
    | '"' :: rest => lineString? '"' false rest.length rest
    | '\'' :: rest => lineString? '\'' true rest.length rest
    | _ =>
      let name := cs.takeWhile isKeyChar
      if name = [] then none else some (name, cs.dropWhile isKeyChar)
  read.map fun (name, rest) => (String.ofList name, rest)

/-- Keys with dots between them, fewer than `fuel`, and what follows the spaces behind them. -/
def path? : Nat → List Char → Option (List String × List Char)
  | 0, _ => none
  | fuel + 1, cs => do
    let (key, rest) ← key? (skipSpaces cs)
    match skipSpaces rest with
    | '.' :: rest =>
      let (path, rest) ← path? fuel rest
      return (key :: path, rest)
    | rest => some ([key], rest)

/-- What follows a pair of brackets with nothing inside. -/
def hollow? : List Char → Option (List Char)
  | '\x7b' :: rest =>
    match skipLines rest.length rest with
    | '\x7d' :: rest => some rest
    | _ => none
  | '[' :: rest =>
    match skipLines rest.length rest with
    | ']' :: rest => some rest
    | _ => none
  | _ => none

/-- What follows the closing brace, before which a comma may stand. -/
def braceEnd? (cs : List Char) : Option (List Char) :=
  let close? : List Char → Option (List Char)
    | '\x7d' :: rest => some rest
    | _ => none
  match skipLines cs.length cs with
  | ',' :: rest => close? (skipLines rest.length rest)
  | rest => close? rest

/-- A table behind its opening brace, of at most one entry, which holds nothing. -/
def table? (cs : List Char) : Option (Value × List Char) :=
  match skipLines cs.length cs with
  | '\x7d' :: rest => some (.nothing, rest)
  | rest => do
    let (name, rest) ← key? rest
    match skipSpaces rest with
    | '=' :: rest =>
      let rest ← braceEnd? (← hollow? (skipSpaces rest))
      return (.choice name, rest)
    | _ => none

def value? (cs : List Char) : Option (Value × List Char) :=
  match cs with
  | '[' :: rest => (items? rest.length rest).map fun (items, rest) => (.texts items, rest)
  | '\x7b' :: rest => table? rest
  | '"' :: _ => (string? cs).map fun (content, rest) => (.text content, rest)
  | '\'' :: _ => (string? cs).map fun (content, rest) => (.text content, rest)
  | _ => word? cs

/-- One `key = value` and what follows it on its line. -/
def pair? (cs : List Char) : Option ((List String × Value) × List Char) := do
  let (path, rest) ← path? cs.length cs
  match rest with
  | '=' :: rest =>
    let (value, rest) ← value? (skipSpaces rest)
    return ((path, value), rest)
  | _ => none

/-- Pairs up to a header or the end, each on a line of its own, fewer than `fuel`. -/
def pairs? : Nat → List Char → Option (List (List String × Value) × List Char)
  | 0, _ => none
  | fuel + 1, cs =>
    match skipLines cs.length cs with
    | [] => some ([], [])
    | '[' :: rest => some ([], '[' :: rest)
    | rest => do
      let (pair, rest) ← pair? rest
      let (pairs, rest) ← pairs? fuel (← lineEnd? rest)
      return (pair :: pairs, rest)

/-- A header and the pairs under it. -/
structure Section where
  header : List String
  pairs : List (List String × Value)

/-- The sections of a document behind its first pairs, fewer than `fuel`. -/
def sections? : Nat → List Char → Option (List Section)
  | 0, _ => none
  | _, [] => some []
  | fuel + 1, c :: rest => do
    if c ≠ '[' then none
    let (header, rest) ← path? rest.length rest
    match rest with
    | ']' :: rest =>
      let (pairs, rest) ← pairs? (rest.length + 1) (← lineEnd? rest)
      let sections ← sections? fuel rest
      return ⟨header, pairs⟩ :: sections
    | _ => none

/-- A pair with its key in one piece: of a key with a dot, the second part is the name chosen. -/
def setting? : List String × Value → Option (String × Value)
  | ([key], value) => some (key, value)
  | ([key, name], value) => if value.isHollow then some (key, .choice name) else none
  | _ => none

/-- The names that a section chooses for the table `key`. -/
def Section.names? (key : String) : Section → Option (List String)
  | ⟨[head], pairs⟩ =>
    if head ≠ key then none
    else pairs.mapM fun
      | ([name], value) => if value.isHollow then some name else none
      | _ => none
  | ⟨[head, name], []⟩ => if head ≠ key then none else some [name]
  | _ => none

/-- The choice that the sections make together, each header once. -/
def chosen? (sections : List Section) : Option (List (String × Value)) :=
  match sections.head?.bind (·.header.head?) with
  | none => some []
  | some key => do
    let names ← sections.mapM (·.names? key)
    match names.flatten with
    | [name] => if (sections.map (·.header)).Nodup then some [(key, .choice name)] else none
    | _ => none

/-- The settings of a text, which may start with a byte order mark. -/
def document? (text : String) : Option (List (String × Value)) := do
  let cs :=
    match text.toList with
    | '\uFEFF' :: rest => rest
    | cs => cs
  let (pairs, rest) ← pairs? (cs.length + 1) cs
  let settings ← pairs.mapM setting?
  let chosen ← chosen? (← sections? (rest.length + 1) rest)
  return settings ++ chosen

end Text

namespace Layer

/-- The depth of an integer, which must fit in 64 bits. -/
def depth? (n : Int) : Option Nat :=
  if 0 ≤ n ∧ n < UInt64.size then some n.toNat else none

/-- The format of a name that is written as it is listed. -/
def format? (name : String) : Option OutputFormat :=
  OutputFormat.all.find? (·.name = name)

/-- Puts the value of a key into a layer. -/
def put? (layer : Layer) : String × Text.Value → Option Layer
  | ("paths", .texts paths) => some { layer with paths }
  | ("exclude_patterns", .texts patterns) => some { layer with excludePatterns := patterns }
  | ("max_depth", .number n) => (depth? n).map fun depth => { layer with maxDepth := depth }
  | ("follow_links", .flag isOn) => some { layer with followLinks := isOn }
  | ("baseline", .text version) => some { layer with baseline := version }
  | ("data_dir", .text path) => some { layer with dataDir := path }
  | ("output_format", .text name) | ("output_format", .choice name) =>
    (format? name).map fun format => { layer with outputFormat := format }
  | ("output_file", .text path) => some { layer with outputFile := path }
  | ("show_notes", .flag isOn) => some { layer with showNotes := isOn }
  | ("quiet", .flag isOn) => some { layer with quiet := isOn }
  | ("verbose", .flag isOn) => some { layer with verbose := isOn }
  | ("use_colors", .flag isOn) => some { layer with useColors := isOn }
  | _ => none

/-- The layer of a text, unless it is no list of settings. -/
def ofText? (text : String) : Option Layer := do
  let pairs ← Text.document? text
  if (pairs.map (·.1)).Nodup then pairs.foldlM put? empty else none

/-- The layer of the text of a file. -/
def ofText (path text : String) : Except Error Layer :=
  match ofText? text with
  | some layer => layer.checked path
  | none => .error (.malformedConfig path)

end Layer

end VersionFloor.Settings
