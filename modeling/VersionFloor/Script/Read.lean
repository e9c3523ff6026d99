import VersionFloor.Script.Grammar.Stmt

set_option autoImplicit false

namespace VersionFloor.Script

/-- The statements of a script, or the offset at fault. -/
def parse (text : String) : Except Nat (List Stmt) :=
  let source := Source.ofText text
  let stream := TokenStream.ofSource source true
  let depth := 2 * source.letters.length + 8
  (Grammar.script (Grammar.blockLevel depth) |>.run ⟨stream.tokens, 0, stream.failure⟩).map (·.1)

/--
The number of line feeds that start before byte `offset`, added to `count`; the characters `cs`
start at byte `start`.
-/
def lineFeedsBefore (offset count start : Nat) : List Char → Nat
  | [] => count
  | c :: rest =>
    if offset ≤ start then count
    else lineFeedsBefore offset (if c = '\n' then count + 1 else count) (start + c.utf8Size) rest

/-- The line, counted from one, of a byte of the script. -/
def lineOfOffset (text : String) (offset : Nat) : Nat :=
  1 + lineFeedsBefore offset 0 0 text.toList

end VersionFloor.Script
