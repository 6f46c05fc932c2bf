/-! # Floating numbers

A number in the 64-bit binary format, as an integer times a power of two. A decimal is rounded to
the nearest such number, and to the even one of two that are equally near.
-/

namespace HeapProbe

inductive Binary64 where
  | nan
  | infinite (negative : Bool)
  | finite (mantissa exponent : Int)
  deriving DecidableEq

namespace Binary64

/-- The quotient of two numbers, rounded to the nearest, a tie to the even neighbour. -/
def roundQuotient (numerator denominator : Nat) : Nat :=
  let quotient := numerator / denominator
  let twice := 2 * (numerator % denominator)
  if twice < denominator ∨ (twice = denominator ∧ quotient % 2 = 0) then quotient else quotient + 1

def scaled (numerator denominator : Nat) (exponent : Int) : Nat × Nat :=
  (numerator * Nat.pow 2 (-exponent).toNat, denominator * Nat.pow 2 exponent.toNat)

/-- The exponent at which a quotient has 53 binary digits, or the least exponent there is. -/
def exponentFor (numerator denominator : Nat) : Int :=
  let estimate : Int := (numerator.log2 : Int) - denominator.log2 - 53
  let (n, d) := scaled numerator denominator estimate
  max (if n / d < Nat.pow 2 53 then estimate else estimate + 1) (-1074)

def ofQuotient (negative : Bool) (numerator denominator : Nat) : Binary64 :=
  let exponent := exponentFor numerator denominator
  let (n, d) := scaled numerator denominator exponent
  let mantissa := roundQuotient n d
  if Nat.pow 2 1024 ≤ mantissa * Nat.pow 2 exponent.toNat then .infinite negative
  else .finite (if negative then -mantissa else mantissa) exponent

/-- The number nearest to `digits` times a power of ten. Powers beyond the format's range are not
worked out. -/
def ofDecimal (negative : Bool) (digits : Nat) (exponent : Int) : Binary64 :=
  let magnitude : Int := (Nat.toDigits 10 digits).length + exponent
  if digits = 0 ∨ magnitude < -400 then .finite 0 0
  else if 400 < magnitude then .infinite negative
  else ofQuotient negative (digits * Nat.pow 10 exponent.toNat) (Nat.pow 10 (-exponent).toNat)

def toInt? : Binary64 → Option Int
  | .finite mantissa exponent =>
    let unit : Int := Nat.pow 2 (-exponent).toNat
    if mantissa % unit = 0 then some (mantissa / unit * Nat.pow 2 exponent.toNat) else none
  | _ => none

end Binary64

end HeapProbe
