import ServiceStubs.Number.Shortest

/-!
# Numbers with a fraction

A number with a fraction is a binary fraction, or infinite in one direction, or undefined. What an
operation gives is the exact outcome rounded once; what is too great is infinite. The undefined
number is in no relation to any number, itself included.
-/

namespace ServiceStubs

/-- A number with a fraction. -/
inductive Floating
  | finite (value : Dyadic)
  | infinite (isNegative : Bool)
  | undefined
deriving DecidableEq, Repr, Inhabited

namespace Dyadic.Ratio

/-- The sum of two quotients. -/
def add (left right : Ratio) : Ratio :=
  ⟨left.numerator * Int.ofNat right.denominator + right.numerator * Int.ofNat left.denominator,
    left.denominator * right.denominator⟩

/-- A quotient with the other sign. -/
def negated (value : Ratio) : Ratio := { value with numerator := -value.numerator }

/-- The product of two quotients. -/
def multiply (left right : Ratio) : Ratio :=
  ⟨left.numerator * right.numerator, left.denominator * right.denominator⟩

/-- One divided by a quotient that is not zero. -/
def inverse (value : Ratio) : Ratio :=
  ⟨if value.numerator < 0 then -Int.ofNat value.denominator else Int.ofNat value.denominator,
    value.numerator.natAbs⟩

/-- The greatest whole number that is not greater than a quotient. -/
def floor (value : Ratio) : Int := value.numerator.fdiv (Int.ofNat value.denominator)

/-- The whole number nearest to a quotient, the even one of two. -/
def rounded (value : Ratio) : Int :=
  let size := Int.ofNat (roundedQuotient value.numerator.natAbs value.denominator)
  if value.numerator < 0 then -size else size

/-- How two quotients are ordered. -/
def order (left right : Ratio) : Ordering :=
  compare (left.numerator * Int.ofNat right.denominator)
    (right.numerator * Int.ofNat left.denominator)

end Dyadic.Ratio

namespace Floating

open ServiceStubs.Dyadic (Ratio)

/-! ## Making numbers -/

/-- A binary fraction as a number, which is infinite if it is too great. -/
def ofDyadic (value : Dyadic) : Floating :=
  if value.isInfinite then .infinite value.isNegative else .finite value

/-- The number nearest to a quotient; zero gets the sign. -/
def ofRatio (isNegativeZero : Bool) (value : Ratio) : Floating :=
  ofDyadic (.ofQuotient (if value.numerator = 0 then isNegativeZero else value.numerator < 0)
    value.numerator.natAbs value.denominator)

/-- The number nearest to a whole number. -/
def ofInt (value : Int) : Floating := ofRatio false (.ofWhole value)

/-- Zero. -/
def zero : Floating := ofInt 0

/-- One. -/
def one : Floating := ofInt 1

/-! ## Views -/

/-- The quotient that a number is, if it is finite. -/
def ratio? : Floating → Option Ratio
  | .finite value => some value.ratio
  | _ => none

/-- Whether a number has a sign before it. -/
def isNegative : Floating → Bool
  | .finite value => value.isNegative
  | .infinite isNegative => isNegative
  | .undefined => false

/-- Whether a number is zero. -/
def isZero : Floating → Bool
  | .finite value => value.mantissa = 0
  | _ => false

/-- Whether a number is whole. -/
def isWhole (value : Floating) : Bool :=
  value.ratio?.any fun ratio => ratio.numerator % Int.ofNat ratio.denominator = 0

/-- Whether a number is whole and odd. -/
def isOdd (value : Floating) : Bool :=
  value.isWhole && value.ratio?.any fun ratio => ratio.floor % 2 = 1

/-- The displayed form of a number. -/
def display : Floating → String
  | .finite value => value.display
  | .infinite isNegative => if isNegative then "-inf" else "inf"
  | .undefined => "nan"

/-- How two numbers are ordered, if they are. -/
def order? : Floating → Floating → Option Ordering
  | .undefined, _ | _, .undefined => none
  | .infinite left, .infinite right => some (compare right.toNat left.toNat)
  | .infinite isNegative, .finite _ => some (if isNegative then .lt else .gt)
  | .finite _, .infinite isNegative => some (if isNegative then .gt else .lt)
  | .finite left, .finite right => some (left.ratio.order right.ratio)

/-- Whether two numbers are equal. -/
def equals (left right : Floating) : Bool := left.order? right = some .eq

/-! ## Signs -/

/-- A number with the other sign. -/
def negated : Floating → Floating
  | .finite value => .finite { value with isNegative := !value.isNegative }
  | .infinite isNegative => .infinite !isNegative
  | .undefined => .undefined

/-- A number with a sign. -/
def withSign (isNegative : Bool) (value : Floating) : Floating :=
  if value.isNegative = isNegative then value else value.negated

/-- A number without its sign. -/
def magnitude (value : Floating) : Floating := value.withSign false

/-! ## Arithmetic -/

/-- The sum of two numbers. -/
def add : Floating → Floating → Floating
  | .finite left, .finite right =>
    ofRatio (left.isNegative && right.isNegative) (left.ratio.add right.ratio)
  | .undefined, _ | _, .undefined => .undefined
  | .infinite left, .infinite right => if left = right then .infinite left else .undefined
  | .infinite isNegative, .finite _ | .finite _, .infinite isNegative => .infinite isNegative

/-- The difference of two numbers. -/
def subtract (left right : Floating) : Floating := left.add right.negated

/-- The product of two numbers. -/
def multiply (left right : Floating) : Floating :=
  let isNegative := left.isNegative != right.isNegative
  match left, right with
  | .finite first, .finite second => ofRatio isNegative (first.ratio.multiply second.ratio)
  | .undefined, _ | _, .undefined => .undefined
  | left, right => if left.isZero || right.isZero then .undefined else .infinite isNegative

/-- The quotient of two numbers, of which the second one is not zero. -/
def divide (left right : Floating) : Floating :=
  let isNegative := left.isNegative != right.isNegative
  match left, right with
  | .finite first, .finite second =>
    ofRatio isNegative (first.ratio.multiply second.ratio.inverse)
  | .undefined, _ | _, .undefined | .infinite _, .infinite _ => .undefined
  | .infinite _, .finite _ => .infinite isNegative
  | .finite _, .infinite _ => zero.withSign isNegative

/-- What is left of a number after a division by one that is not zero; it has the sign of that
number. -/
def modulo (left right : Floating) : Floating :=
  match left, right with
  | .finite first, .finite second =>
    let quotient := (first.ratio.multiply second.ratio.inverse).floor
    ofRatio right.isNegative
      (first.ratio.add (second.ratio.multiply (.ofWhole quotient)).negated)
  | .finite _, .infinite isNegative =>
    if left.isZero then zero.withSign isNegative
    else if left.isNegative = isNegative then left
    else right
  | _, _ => .undefined

/-- The greatest whole number that is not greater than a quotient of two numbers, of which the
second one is not zero. -/
def floorDivide (left right : Floating) : Floating :=
  match left, right with
  | .finite first, .finite second =>
    ofRatio (left.isNegative != right.isNegative)
      (.ofWhole (first.ratio.multiply second.ratio.inverse).floor)
  | .finite _, .infinite _ =>
    if left.isZero || left.isNegative = right.isNegative then
      zero.withSign (left.isNegative != right.isNegative)
    else one.negated
  | _, _ => .undefined

/-! ## Powers -/

/-- The number that a machine number is. -/
def ofFloat (value : Float) : Floating :=
  if value.isNaN then .undefined
  else if value.isInf then .infinite (value < 0)
  else
    let bits := value.toBits.toNat
    let isNegative := Nat.pow 2 63 ≤ bits
    let exponent := bits / Nat.pow 2 52 % Nat.pow 2 11
    let fraction := bits % Nat.pow 2 52
    .finite (if exponent = 0 then ⟨isNegative, fraction, Dyadic.leastExponent⟩
      else ⟨isNegative, fraction + Nat.pow 2 52, Int.ofNat exponent - 1 + Dyadic.leastExponent⟩)

/-- The machine number that a number is. -/
def toFloat : Floating → Float
  | .finite value =>
    let size := Float.scaleB (Float.ofNat value.mantissa) value.exponent
    if value.isNegative then -size else size
  | .infinite isNegative => if isNegative then -(1 / 0) else 1 / 0
  | .undefined => 0 / 0

/-- Why a power is no number with a fraction. -/
inductive PowerFlaw
  /-- Zero has no negative powers. -/
  | zeroBase
  /-- The power is too great. -/
  | tooGreat
  /-- A negative number has no powers with a fraction but imaginary ones. -/
  | imaginary

/-- A power of a number. -/
def power (base exponent : Floating) : Except PowerFlaw Floating :=
  let isOdd := exponent.isOdd
  if exponent.isZero then .ok one
  else match base, exponent with
    | .undefined, _ => .ok .undefined
    | base, .undefined => .ok (if base.equals one then one else .undefined)
    | base, .infinite isNegative => .ok (match base.magnitude.order? one with
        | some .eq => one
        | some .gt => if isNegative then zero else .infinite false
        | _ => if isNegative then .infinite false else zero)
    | .infinite isNegative, exponent =>
      let size : Floating := if exponent.isNegative then zero else .infinite false
      .ok (size.withSign (isOdd && isNegative))
    | .finite _, .finite _ =>
      if base.isZero then
        if exponent.isNegative then .error .zeroBase
        else .ok (if isOdd then base else zero)
      else if base.isNegative && !exponent.isWhole then .error .imaginary
      else
        let size := ofFloat (Float.pow base.magnitude.toFloat exponent.toFloat)
        match size with
        | .finite _ => .ok (size.withSign (base.isNegative && isOdd))
        | _ => .error .tooGreat

end Floating

end ServiceStubs
