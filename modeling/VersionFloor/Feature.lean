set_option autoImplicit false

namespace VersionFloor

/-- The features of the language that are recognised by their form alone. -/
inductive Feature
  | multipleContextManagers
  | yieldFrom
  | unicodeLiterals
  | asyncAndAwait
  | asyncComprehensions
  | formattedLiterals
  | variableHints
  | positionalOnly
  | assignmentExpressions
  | genericHints
  | patternMatching
  | unionOperator
deriving DecidableEq

namespace Feature

def all : List Feature :=
  [multipleContextManagers, yieldFrom, unicodeLiterals, asyncAndAwait, asyncComprehensions,
   formattedLiterals, variableHints, positionalOnly, assignmentExpressions, genericHints,
   patternMatching, unionOperator]

/-- The name of the feature in the language changelog. -/
def key : Feature → String
  | multipleContextManagers => "multiple context managers"
  | yieldFrom => "yield from expressions"
  | unicodeLiterals => "unicode literals"
  | asyncAndAwait => "async and await"
  | asyncComprehensions => "asynchronous comprehensions"
  | formattedLiterals => "f-string literals"
  | variableHints => "variable annotations"
  | positionalOnly => "positional-only arguments"
  | assignmentExpressions => "assignment expressions"
  | genericHints => "type hinting generics"
  | patternMatching => "pattern matching"
  | unionOperator => "union type operator"

/-- The place of a key among those of all features. -/
def indexOf? (key : String) : Option Nat :=
  all.findIdx? (·.key = key)

end Feature

/-- The key under which a call of a built-in function is reported; two of them share one. -/
def functionKey (name : String) : String :=
  if name = "aiter" ∨ name = "anext" then "aiter and anext" else name

end VersionFloor
