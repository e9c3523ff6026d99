set_option autoImplicit false

namespace VersionFloor

/-- A version `3.minor` or `3.minor.micro`. -/
structure Version where
  minor : UInt32
  micro : Option UInt32 := none
deriving DecidableEq

namespace Version

/-- The version every script needs at least. -/
def baseline : Version := ⟨0, none⟩

/-- The only major version there is. -/
def major : UInt32 := 3

def components (v : Version) : List UInt32 :=
  major :: v.minor :: v.micro.toList

/-- The components in decimal, with dots between them. -/
def chars (v : Version) : List Char :=
  List.intercalate ['.'] (v.components.map fun c => Nat.toDigits 10 c.toNat)

def text (v : Version) : String :=
  String.ofList v.chars

/-- Components are compared as numbers, and `3.10` stands before `3.10.0`. -/
instance : Ord Version where
  compare := compareLex (compareOn minor) (compareOn micro)

/-- The later of two versions. -/
def max (v w : Version) : Version :=
  if compare v w = .lt then w else v

/-- Why a text is not a version. -/
inductive Fault
  | arity
  | negative
  | nonNumeric
  | tooLarge
  | foreignMajor
deriving DecidableEq

def Fault.message : Fault → String
  | arity => "expected 2 or 3 dot-separated components"
  | negative => "negative component"
  | nonNumeric => "non-numeric component"
  | tooLarge => "number too large to fit in target type"
  | foreignMajor => "major version must be 3"

/-- What is said of a text that is no version. -/
def refusal (text reason : String) : String :=
  s!"Invalid version '{text}': {reason}"

/-- One component: decimal digits that denote a number below `2 ^ 32`. -/
def component (part : List Char) : Except Fault UInt32 :=
  if part.head? = some '-' then .error .negative
  else if part.isEmpty || !part.all Char.isDigit then .error .nonNumeric
  else
    let value := Nat.ofDigitChars 10 part 0
    if value < UInt32.size then .ok (UInt32.ofNat value) else .error .tooLarge

/-- Reads two or three components of which the first is the major version. -/
def parse (text : String) : Except Fault Version :=
  let parts := text.toList.splitOn '.'
  if parts.length = 2 ∨ parts.length = 3 then do
    match ← parts.mapM component with
    | first :: minor :: rest =>
      if first = major then return ⟨minor, rest.head?⟩ else throw .foreignMajor
    | _ => throw .arity
  else .error .arity

end Version

end VersionFloor
