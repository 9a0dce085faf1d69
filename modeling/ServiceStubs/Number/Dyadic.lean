/-!
# Binary fractions

Numbers of the form m · 2^q with a mantissa of at most 53 bits: what a decimal fraction is rounded
to when it is read. The nearest such number is taken, and of two that are equally near the one
with the even mantissa.
-/

namespace ServiceStubs

/-- A number m · 2^q and its sign; zero has a sign too. -/
structure Dyadic where
  isNegative : Bool
  mantissa : Nat
  exponent : Int
deriving DecidableEq, Repr, Inhabited

namespace Dyadic

/-- The bits of a mantissa. -/
def precision : Nat := 53

/-- The least exponent. -/
def leastExponent : Int := -1074

/-- A quotient rounded to the nearest whole number, and to the even one of two. -/
def roundedQuotient (numerator denominator : Nat) : Nat :=
  let quotient := numerator / denominator
  let rest := numerator % denominator
  if denominator < 2 * rest || (denominator = 2 * rest && quotient % 2 = 1) then quotient + 1
  else quotient

/-- A positive quotient in units of 2^exponent, as a numerator and a denominator. -/
def inUnits (numerator denominator : Nat) (exponent : Int) : Nat × Nat :=
  (numerator * Nat.pow 2 (-exponent).toNat, denominator * Nat.pow 2 exponent.toNat)

/-- The exponent for a positive quotient: the least one from `exponent` on for which the mantissa
is small enough, among as many as there are tries. -/
def exponentFrom (numerator denominator : Nat) : Nat → Int → Int
  | 0, exponent => exponent
  | tries + 1, exponent =>
    let (above, below) := inUnits numerator denominator exponent
    if above / below < Nat.pow 2 precision then exponent
    else exponentFrom numerator denominator tries (exponent + 1)

/-- The number nearest to a quotient. -/
def ofQuotient (isNegative : Bool) (numerator denominator : Nat) : Dyadic :=
  if numerator = 0 then ⟨isNegative, 0, leastExponent⟩
  else
    let guess := Int.ofNat numerator.log2 - Int.ofNat denominator.log2 - Int.ofNat precision
    let exponent := exponentFrom numerator denominator 3 (max guess leastExponent)
    let (above, below) := inUnits numerator denominator exponent
    let mantissa := roundedQuotient above below
    if mantissa = Nat.pow 2 precision then ⟨isNegative, mantissa / 2, exponent + 1⟩
    else ⟨isNegative, mantissa, exponent⟩

/-- The greatest exponent. -/
def greatestExponent : Int := 971

/-- Whether a number is greater than any that has the precision. -/
def isInfinite (value : Dyadic) : Bool := greatestExponent < value.exponent

/-- More places than a number between the least and the greatest has before or after its point. -/
def farthestPlace : Int := 800

/-- The number nearest to digits · 10^places. -/
def ofDecimal (isNegative : Bool) (digits : Nat) (places : Int) : Dyadic :=
  let size := Int.ofNat (toString digits).length
  if digits = 0 || places + size < -farthestPlace then ⟨isNegative, 0, leastExponent⟩
  else if farthestPlace < places + size then ⟨isNegative, 1, greatestExponent + 1⟩
  else ofQuotient isNegative (digits * Nat.pow 10 places.toNat) (Nat.pow 10 (-places).toNat)

/-- The mantissa with its sign. -/
def signed (value : Dyadic) : Int :=
  if value.isNegative then -Int.ofNat value.mantissa else Int.ofNat value.mantissa

/-- The whole number next to a number in the direction of zero. -/
def truncated (value : Dyadic) : Int :=
  if 0 ≤ value.exponent then value.signed * Int.ofNat (Nat.pow 2 value.exponent.toNat)
  else
    let whole := Int.ofNat (value.mantissa / Nat.pow 2 (-value.exponent).toNat)
    if value.isNegative then -whole else whole

/-- A quotient with a positive denominator. -/
structure Ratio where
  numerator : Int
  denominator : Nat
deriving Repr, Inhabited

namespace Ratio

/-- A whole number as a quotient. -/
def ofWhole (value : Int) : Ratio := ⟨value, 1⟩

/-- Whether two quotients are the same number. -/
def equals (left right : Ratio) : Bool :=
  left.numerator * Int.ofNat right.denominator == right.numerator * Int.ofNat left.denominator

end Ratio

/-- The quotient that a number is. -/
def ratio (value : Dyadic) : Ratio :=
  ⟨value.signed * Int.ofNat (Nat.pow 2 value.exponent.toNat),
    Nat.pow 2 (-value.exponent).toNat⟩

end Dyadic

end ServiceStubs
