import VersionFloor.Script.Tree

set_option autoImplicit false

namespace VersionFloor.Script

structure Letter where
  char : Char
  offset : Nat

/-- The text of a script from some byte on: its letters and the offset behind the last of them. -/
structure Source where
  letters : List Letter
  finish : Nat

namespace Source

private def collect (offset : Nat) (done : List Letter) : List Char → Source
  | [] => ⟨done.reverse, offset⟩
  | '\r' :: '\n' :: rest => collect (offset + 2) (⟨'\n', offset⟩ :: done) rest
  | '\r' :: rest => collect (offset + 1) (⟨'\n', offset⟩ :: done) rest
  | c :: rest => collect (offset + c.utf8Size) (⟨c, offset⟩ :: done) rest

/-- The letters of `text`, whose first byte has the offset `start`. -/
def ofChars (start : Nat) (text : List Char) : Source :=
  collect start [] text

/-- The letters of a whole script. A byte order mark at its start is skipped. -/
def ofText (text : String) : Source :=
  match text.toList with
  | '\uFEFF' :: rest => ofChars ('\uFEFF').utf8Size rest
  | cs => ofChars 0 cs

/-- The offset of the next letter. -/
def position (source : Source) : Nat :=
  match source.letters with
  | [] => source.finish
  | letter :: _ => letter.offset

end Source

/-- What the prefix of a string literal says about its contents. -/
inductive StringKind
  | plain | raw | formatted | rawFormatted | bytes | rawBytes | unicode

namespace StringKind

def isFormatted : StringKind → Bool
  | formatted | rawFormatted => true
  | _ => false

def isBytes : StringKind → Bool
  | bytes | rawBytes => true
  | _ => false

def isRaw : StringKind → Bool
  | raw | rawFormatted | rawBytes => true
  | _ => false

def isUnicode : StringKind → Bool
  | unicode => true
  | _ => false

/-- The number of characters in the prefix. -/
def prefixLength : StringKind → Nat
  | plain => 0
  | raw | formatted | bytes | unicode => 1
  | rawFormatted | rawBytes => 2

def ofLetter? (c : Char) : Option StringKind :=
  match c.toLower with
  | 'r' => some raw
  | 'f' => some formatted
  | 'u' => some unicode
  | 'b' => some bytes
  | _ => none

def ofLetters? (c d : Char) : Option StringKind :=
  match c.toLower, d.toLower with
  | 'r', 'f' | 'f', 'r' => some rawFormatted
  | 'r', 'b' | 'b', 'r' => some rawBytes
  | _, _ => none

end StringKind

/-- A string literal as it stands in the script, escapes unread. -/
structure StringLiteral where
  kind : StringKind
  isTriple : Bool
  content : List Char

inductive TokenKind
  | name (id : String)
  | int (value : Nat)
  | float (value : Float)
  | imaginary (value : Float)
  | string (literal : StringLiteral)
  | newline
  | indent
  | dedent
  /-- A reserved word. -/
  | word (text : String)
  /-- An operator or delimiter. -/
  | sign (text : String)

structure Token where
  kind : TokenKind
  span : Span

/-- Words that are never names. -/
def reservedWords : List String :=
  ["False", "None", "True", "and", "as", "assert", "async", "await", "break", "class", "continue",
   "def", "del", "elif", "else", "except", "finally", "for", "from", "global", "if", "import", "in",
   "is", "lambda", "nonlocal", "not", "or", "pass", "raise", "return", "try", "while", "with",
   "yield"]

/-- Words that are reserved only where a statement of their own starts. -/
def softWords : List String :=
  ["match", "case", "type"]

/-- Tokens up to the end of the text, or up to the offset at which reading them failed. -/
structure TokenStream where
  tokens : List Token
  failure : Option Nat

end VersionFloor.Script
