import VersionFloor.Number.Decimal

set_option autoImplicit false

namespace VersionFloor.Number

/-- A positive finite floating point number `mantissa · 2 ^ power`. -/
structure Binary where
  mantissa : Nat
  power : Int
  /-- The gap below is half the gap above. -/
  isBoundary : Bool

/-- The decoded form of the bits of a positive finite number. -/
def Binary.ofBits (bits : Nat) : Binary :=
  let unit := 0x10000000000000
  let fraction : Nat := bits % unit
  let exponent : Nat := bits / unit % 0x800
  if exponent = 0 then ⟨fraction, -1074, false⟩
  else ⟨unit + fraction, (exponent : Int) - 1075, fraction = 0 && 1 < exponent⟩

/-- `digits · 10 ^ exponent`. -/
structure Decimal where
  digits : Nat
  exponent : Int

/-- A fraction of natural numbers. -/
structure Ratio where
  num : Nat
  den : Nat

namespace Ratio

def scale (r : Ratio) (base : Nat) (power : Int) : Ratio :=
  if power < 0 then ⟨r.num, r.den * base.pow power.natAbs⟩
  else ⟨r.num * base.pow power.natAbs, r.den⟩

def lt (a b : Ratio) : Bool :=
  a.num * b.den < b.num * a.den

def le (a b : Ratio) : Bool :=
  a.num * b.den ≤ b.num * a.den

end Ratio

namespace Binary

def value (b : Binary) : Ratio :=
  (Ratio.mk b.mantissa 1).scale 2 b.power

/-- The lower end of the interval of reals that round to the number. -/
def lower (b : Binary) : Ratio :=
  if b.isBoundary then (Ratio.mk (4 * b.mantissa - 1) 4).scale 2 b.power
  else (Ratio.mk (2 * b.mantissa - 1) 2).scale 2 b.power

/-- The upper end of the interval of reals that round to the number. -/
def upper (b : Binary) : Ratio :=
  (Ratio.mk (2 * b.mantissa + 1) 2).scale 2 b.power

/-- Whether `r` rounds to the number. -/
def accepts (b : Binary) (r : Ratio) : Bool :=
  if b.mantissa % 2 = 0 then b.lower.le r && r.le b.upper
  else b.lower.lt r && r.lt b.upper

/-- The exponent `k` with `10 ^ k ≤ value < 10 ^ (k + 1)`. -/
def decimalExponent (b : Binary) : Int :=
  let v := b.value
  let estimate : Int := digitCount v.num - digitCount v.den
  if (Ratio.mk 1 1 |>.scale 10 estimate).le v then estimate else estimate - 1

/-- A point with `count` digits that rounds to the number, the nearer if there are two. -/
def hit? (b : Binary) (count : Nat) : Option Decimal :=
  let exponent := b.decimalExponent - count + 1
  let scaled := b.value.scale 10 (-exponent)
  let low := scaled.num / scaled.den
  let point (digits : Nat) : Ratio := (Ratio.mk digits 1).scale 10 exponent
  let nearerLow := 2 * (scaled.num % scaled.den) < scaled.den
  match b.accepts (point low), b.accepts (point (low + 1)) with
  | true, true => some ⟨if nearerLow then low else low + 1, exponent⟩
  | true, false => some ⟨low, exponent⟩
  | false, true => some ⟨low + 1, exponent⟩
  | false, false => none

/--
The fewest digits that read back as the number; seventeen always do. Counts of digits are tried in
turn, each with the two neighbours of the number among the decimals of that length.
-/
def shortest (b : Binary) : Decimal :=
  ((List.range 17).findSome? fun n => b.hit? (n + 1)).getD ⟨0, 0⟩

end Binary

/-- How a finite number is written. -/
inductive Style
  /-- Always positional. -/
  | positional
  /--
  Positional from `10 ^ least` up to below `10 ^ 16`, otherwise with an exponent; `signed` tells
  whether an exponent above zero has a plus sign.
  -/
  | mixed (least : Int) (signed : Bool)

/-- `count` zeros. -/
def zeros (count : Nat) : String :=
  String.ofList (List.replicate count '0')

/-- The digits with a decimal point, at least one on each side of it. -/
def Decimal.positional (d : Decimal) : String :=
  let text := toString d.digits
  if 0 ≤ d.exponent then text ++ zeros d.exponent.natAbs ++ ".0"
  else
    let places := d.exponent.natAbs
    let padded := zeros (places + 1 - text.length) ++ text
    let whole := padded.length - places
    String.ofList (padded.toList.take whole) ++ "." ++ String.ofList (padded.toList.drop whole)

/--
The first digit, the other digits after a point, and the power of ten, behind `plus` if it is not
negative.
-/
def Decimal.scientific (plus : String) (d : Decimal) : String :=
  let digits := (toString d.digits).toList
  let exponent := d.exponent + digits.length - 1
  let fraction := digits.drop 1
  String.ofList (digits.take 1) ++ (if fraction.isEmpty then "" else "." ++ String.ofList fraction)
    ++ "e" ++ (if 0 ≤ exponent then plus else "") ++ toString exponent

/-- Removes trailing zeros from the digits. -/
def Decimal.strip : Nat → Decimal → Decimal
  | 0, d => d
  | n + 1, d =>
    if d.digits ≠ 0 && d.digits % 10 = 0 then Decimal.strip n ⟨d.digits / 10, d.exponent + 1⟩ else d

/-- The text of a floating point number in the shortest digits that read back. -/
def floatText (style : Style) (x : Float) : String :=
  let bits := x.toBits.toNat
  let signBit := 0x8000000000000000
  let negative := signBit ≤ bits
  let magnitude := bits % signBit
  let sign := if negative then "-" else ""
  if x.isNaN then "NaN"
  else if x.isInf then sign ++ "inf"
  else if magnitude = 0 then sign ++ "0.0"
  else
    let number := Binary.ofBits magnitude
    let decimal := Decimal.strip 20 number.shortest
    let leading := number.decimalExponent
    match style with
    | .positional => sign ++ decimal.positional
    | .mixed least signed =>
      if least ≤ leading && leading < 16 then sign ++ decimal.positional
      else sign ++ decimal.scientific (if signed then "+" else "")

end VersionFloor.Number
