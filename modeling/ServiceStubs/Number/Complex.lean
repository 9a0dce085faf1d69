import ServiceStubs.Number.Floating

/-!
# Complex numbers

Pairs of numbers with a fraction. Sums and products are worked out part by part, each operation
rounded on its own; a quotient is worked out with the greater part of the divisor, so that no
intermediate result is too great. Powers with small whole exponents are products.
-/

namespace ServiceStubs

/-- A number with a real and an imaginary part. -/
structure Complex where
  real : Floating
  imaginary : Floating
deriving DecidableEq, Repr, Inhabited

namespace Complex

/-- A number without an imaginary part. -/
def ofFloating (value : Floating) : Complex := ⟨value, .zero⟩

/-- Whether a number is zero. -/
def isZero (value : Complex) : Bool := value.real.isZero && value.imaginary.isZero

/-- Whether two numbers are equal. -/
def equals (left right : Complex) : Bool :=
  left.real.equals right.real && left.imaginary.equals right.imaginary

/-! ## Displayed forms -/

/-- The displayed form of a part, which needs no fraction. -/
def partText (value : Floating) : String :=
  match value.display.toList.reverse with
  | '0' :: '.' :: rest => String.ofList rest.reverse
  | _ => value.display

/-- The displayed form of a number. A real part that is zero without a sign is left out. -/
def display (value : Complex) : String :=
  let imaginary := partText value.imaginary
  if value.real.isZero && !value.real.isNegative then imaginary ++ "j"
  else
    let sign := if value.imaginary.isNegative then "" else "+"
    "(" ++ partText value.real ++ sign ++ imaginary ++ "j)"

/-! ## Arithmetic -/

/-- A number with the other sign. -/
def negated (value : Complex) : Complex := ⟨value.real.negated, value.imaginary.negated⟩

/-- The sum of two numbers. -/
def add (left right : Complex) : Complex :=
  ⟨left.real.add right.real, left.imaginary.add right.imaginary⟩

/-- The difference of two numbers. -/
def subtract (left right : Complex) : Complex :=
  ⟨left.real.subtract right.real, left.imaginary.subtract right.imaginary⟩

/-- The product of two numbers. -/
def multiply (left right : Complex) : Complex :=
  ⟨(left.real.multiply right.real).subtract (left.imaginary.multiply right.imaginary),
    (left.real.multiply right.imaginary).add (left.imaginary.multiply right.real)⟩

/-- The quotient of two numbers, of which the second one is not zero. -/
def divide (left right : Complex) : Complex :=
  let isImaginarySmaller :=
    right.imaginary.magnitude.order? right.real.magnitude |>.any (· ≠ .gt)
  if isImaginarySmaller then
    let ratio := right.imaginary.divide right.real
    let below := right.real.add (right.imaginary.multiply ratio)
    ⟨(left.real.add (left.imaginary.multiply ratio)).divide below,
      (left.imaginary.subtract (left.real.multiply ratio)).divide below⟩
  else
    let ratio := right.real.divide right.imaginary
    let below := (right.real.multiply ratio).add right.imaginary
    ⟨((left.real.multiply ratio).add left.imaginary).divide below,
      ((left.imaginary.multiply ratio).subtract left.real).divide below⟩

/-- One. -/
def one : Complex := ofFloating .one

/-- A power of a number with a whole exponent, by the bits of the exponent: `tries` bounds how many
there are. -/
def powerFrom (base result : Complex) : Nat → Nat → Complex
  | 0, _ => result
  | _, 0 => result
  | tries + 1, exponent =>
    powerFrom (base.multiply base) (if exponent % 2 = 1 then result.multiply base else result)
      tries (exponent / 2)

/-- A power of a number with a whole exponent that is small. -/
def wholePower (base : Complex) (exponent : Int) : Complex :=
  let size := powerFrom base one (exponent.natAbs.log2 + 1) exponent.natAbs
  if exponent < 0 then one.divide size else size

/-- A power of a number that is not zero, by its distance from zero and its direction, if that is
one. -/
def polarPower (base exponent : Complex) : Except Floating.PowerFlaw Complex :=
  let x := base.real.toFloat
  let y := base.imaginary.toFloat
  let c := exponent.real.toFloat
  let d := exponent.imaginary.toFloat
  let distance := Float.sqrt (x * x + y * y)
  let direction := Float.atan2 y x
  let size := Float.pow distance c
  let angle := direction * c
  let (size, angle) :=
    if d == 0 then (size, angle)
    else (size / Float.exp (direction * d), angle + d * Float.log distance)
  if angle.isInf then .error .zeroBase
  else .ok ⟨.ofFloat (size * Float.cos angle), .ofFloat (size * Float.sin angle)⟩

/-- The greatest exponent whose powers are products. -/
def greatestProduct : Nat := 100

/-- Whether a part of a number is infinite. -/
def isInfinite (value : Complex) : Bool :=
  (value.real matches .infinite _) || (value.imaginary matches .infinite _)

/-- A power of a number; zero has no negative or complex powers. -/
def power (base exponent : Complex) : Except Floating.PowerFlaw Complex :=
  if exponent.isZero then .ok one
  else if base.isZero then
    if !exponent.imaginary.isZero || exponent.real.isNegative then .error .zeroBase
    else .ok (ofFloating .zero)
  else do
    let whole? := exponent.real.ratio?.map Dyadic.Ratio.floor
    let isSmall := exponent.imaginary.isZero && exponent.real.isWhole &&
      whole?.any fun whole => whole.natAbs ≤ greatestProduct
    let result ← if isSmall then .ok (base.wholePower (whole?.getD 0))
      else base.polarPower exponent
    if result.isInfinite then throw .tooGreat
    return result

/-- The distance of a number from zero. -/
def magnitude (value : Complex) : Floating :=
  let x := value.real.toFloat
  let y := value.imaginary.toFloat
  if value.imaginary.isZero then value.real.magnitude
  else if value.real.isZero then value.imaginary.magnitude
  else .ofFloat (Float.sqrt (x * x + y * y))

end Complex

end ServiceStubs
