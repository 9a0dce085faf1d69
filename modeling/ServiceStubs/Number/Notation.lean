import ServiceStubs.Number.Floating
import ServiceStubs.Text.Lines

/-!
# Notations of numbers

A number is written with a number of places after the point, or with one digit before it and an
exponent, or in the shorter of these with a number of digits in all. Whole numbers are written in
several bases. What is left out is rounded to the nearest, and to the even one of two.
-/

namespace ServiceStubs

open ServiceStubs.Dyadic (Ratio)

namespace Number

/-! ## Bases -/

/-- The digits of a number in a base, the lowest first, at most as many as there are tries. -/
def digitsFrom (base : Nat) : Nat → Nat → List Nat
  | 0, _ => []
  | tries + 1, value =>
    value % base :: if value < base then [] else digitsFrom base tries (value / base)

/-- The character of a digit. -/
def digitCharacter (digit : Nat) : Char :=
  if digit < 10 then Char.ofNat ('0'.toNat + digit) else Char.ofNat ('a'.toNat + digit - 10)

/-- The digits of a number in a base. -/
def inBase (base value : Nat) : List Char :=
  ((digitsFrom base (value.log2 + 1) value).map digitCharacter).reverse

/-! ## Fractions -/

/-- The size of a quotient with a number of places after the point: the digits before it and
after it. -/
def fixed (places : Nat) (value : Ratio) : List Char × List Char :=
  let scaled := Dyadic.roundedQuotient (value.numerator.natAbs * Nat.pow 10 places)
    value.denominator
  let digits := inBase 10 scaled
  let padded := List.replicate (places + 1 - digits.length) '0' ++ digits
  padded.splitAt (padded.length - places)

/-- The exponent of the greatest power of ten that is not greater than a quotient that is not
zero. -/
def exponentOf (value : Ratio) : Int :=
  let size := value.numerator.natAbs
  let estimate := Int.ofNat (inBase 10 size).length - Int.ofNat (inBase 10 value.denominator).length
  let isAtLeast (exponent : Int) : Bool :=
    value.denominator * Nat.pow 10 exponent.toNat ≤ size * Nat.pow 10 (-exponent).toNat
  if isAtLeast estimate then estimate else estimate - 1

/-- The digits of a quotient that is not zero, one more than `places`, and its exponent. -/
def significant (places : Nat) (value : Ratio) : List Char × Int :=
  let exponent := exponentOf value
  let shift := Int.ofNat places - exponent
  let scaled := Dyadic.roundedQuotient (value.numerator.natAbs * Nat.pow 10 shift.toNat)
    (value.denominator * Nat.pow 10 (-shift).toNat)
  let digits := inBase 10 scaled
  if places + 1 < digits.length then (digits.dropLast, exponent + 1) else (digits, exponent)

/-- An exponent as it is written. -/
def exponentText (letter : Char) (exponent : Int) : List Char :=
  let digits := inBase 10 exponent.natAbs
  letter :: (if exponent < 0 then '-' else '+') ::
    (if digits.length < 2 then '0' :: digits else digits)

/-- What comes after the digits before a point: the point is left out before nothing. -/
def pointed (hasPoint : Bool) (digits : List Char) : List Char :=
  if digits.isEmpty && !hasPoint then [] else '.' :: digits

/-- A quotient with an exponent. -/
def scientific (letter : Char) (hasPoint : Bool) (places : Nat) (value : Ratio) :
    List Char × List Char :=
  let (digits, exponent) :=
    if value.numerator = 0 then (List.replicate (places + 1) '0', 0) else significant places value
  (digits.take 1, pointed hasPoint (digits.drop 1) ++ exponentText letter exponent)

/-- Digits without the zeros at their end. -/
def withoutZeros (digits : List Char) : List Char := Text.dropTrailing '0' digits

/-- A quotient with a number of digits in all, with an exponent from `limit` on. -/
def general (letter : Char) (isKept hasFraction : Bool) (count limit : Nat) (value : Ratio) :
    List Char × List Char :=
  let (digits, exponent) :=
    if value.numerator = 0 then (List.replicate count '0', 0) else significant (count - 1) value
  let trimmed (places : List Char) : List Char := if isKept then places else withoutZeros places
  if exponent < -4 || Int.ofNat limit ≤ exponent then
    (digits.take 1, pointed isKept (trimmed (digits.drop 1)) ++ exponentText letter exponent)
  else
    let (before, after) :=
      if exponent < 0 then (['0'], List.replicate (-exponent - 1).toNat '0' ++ digits)
      else
        let padded := digits ++ List.replicate (exponent.toNat + 1 - digits.length) '0'
        padded.splitAt (exponent.toNat + 1)
    let after := trimmed after
    (before, if after.isEmpty && hasFraction then ['.', '0'] else pointed isKept after)

end Number

end ServiceStubs
