set_option autoImplicit false

namespace VersionFloor.Number

/-- The number of decimal digits of `n`; zero has one. -/
def digitCount (n : Nat) : Nat :=
  (Nat.toDigits 10 n).length

/-- The value of a list of digits, most significant first, in the given base. -/
def ofDigits (base : Nat) (digits : List Nat) : Nat :=
  digits.foldl (fun value digit => value * base + digit) 0

/--
The floating point number nearest to `digits · 10 ^ exponent`. A magnitude of `10 ^ 310` or more
is infinite and one below `10 ^ -330` is zero, so no power beyond these is ever formed.
-/
def toFloat (digits : Nat) (exponent : Int) : Float :=
  let magnitude : Int := digitCount digits + exponent
  if digits = 0 || magnitude < -330 then 0.0
  else if magnitude > 310 then 1.0 / 0.0
  else if exponent < 0 then Float.ofScientific digits true exponent.natAbs
  else Float.ofScientific digits false exponent.natAbs

end VersionFloor.Number
