import ServiceStubs.Source.Items

/-!
# Arithmetic

Operators between numbers. Whole numbers give whole numbers wherever they can; a number with a
fraction on either side makes the result one, and a complex number a complex one. Divisions by zero
and results that are too great are faults.
-/

namespace ServiceStubs.Source

/-! ## Whole numbers -/

/-- The number of bits from which on a power or a shift is not worked out. -/
def greatestShift : Nat := 65536

/-- A power of a whole number. -/
def wholePower (base : Int) (exponent : Nat) : Int :=
  let size := base.natAbs
  let count :=
    if size ≤ 1 then min exponent 1 else min exponent (greatestShift / size.log2 + 1)
  let power := Int.ofNat (Nat.pow size count)
  if base < 0 && exponent % 2 = 1 then -power else power

/-- The bits of a number with infinitely many of them: those below a width. -/
def lowBits (width : Nat) (number : Int) : Nat := (number % Int.ofNat (Nat.pow 2 width)).toNat

/-- Two numbers combined bit by bit. -/
def bitwise (combine : Nat → Nat → Nat) (left right : Int) : Int :=
  let width := max left.natAbs.log2 right.natAbs.log2 + 2
  let combined := combine (lowBits width left) (lowBits width right)
  if combined < Nat.pow 2 (width - 1) then Int.ofNat combined
  else Int.ofNat combined - Int.ofNat (Nat.pow 2 width)

/-- Whether a whole number is too great for a number with a fraction. -/
def isTooGreat (number : Int) : Bool := (Floating.ofInt number) matches .infinite _

/-- A whole number as one with a fraction. -/
def asFraction (number : Int) : Except Fault Floating :=
  if isTooGreat number then .error (.tooGreat "int too large to convert to float")
  else .ok (.ofInt number)

/-- The quotient of two whole numbers, which has a fraction. -/
def wholeQuotient (left right : Int) : Except Fault Value :=
  if right = 0 then .error (.zeroDivision "division by zero")
  else
    let sign : Int := if right < 0 then -1 else 1
    match Floating.ofRatio (right < 0) ⟨sign * left, right.natAbs⟩ with
    | .infinite _ => .error (.tooGreat "integer division result too large for a float")
    | quotient => .ok (.ofFloating quotient)

/-! ## Numbers with a fraction -/

/-- A power of a complex number. -/
def complexPower (left right : Complex) : Except Fault Value :=
  match left.power right with
  | .ok power => .ok (.complex power)
  | .error .tooGreat => .error (.tooGreat "complex exponentiation")
  | .error _ => .error (.zeroDivision "0.0 to a negative or complex power")

/-- A power of a number with a fraction. -/
def fractionPower (left right : Floating) : Except Fault Value :=
  match left.power right with
  | .ok power => .ok (.ofFloating power)
  | .error .zeroBase => .error (.zeroDivision "0.0 cannot be raised to a negative power")
  | .error .tooGreat => .error (.tooGreat "(34, 'Numerical result out of range')")
  | .error .imaginary => complexPower (.ofFloating left) (.ofFloating right)

/-- An operator between two whole numbers, if it has a meaning for them. -/
def wholeOperator? (operator : String) (left right : Int) : Option (Except Fault Value) :=
  let divided (result : Int) (message : String) : Except Fault Value :=
    if right = 0 then .error (.zeroDivision message) else .ok (.ofInt result)
  let shifted (result : Nat → Int) : Except Fault Value :=
    if right < 0 then .error (.wrongValue "negative shift count")
    else .ok (.ofInt (result (min right.toNat greatestShift)))
  match operator with
  | "+" => some (.ok (.ofInt (left + right)))
  | "-" => some (.ok (.ofInt (left - right)))
  | "*" => some (.ok (.ofInt (left * right)))
  | "/" => some (wholeQuotient left right)
  | "//" => some (divided (left.fdiv right) "integer division or modulo by zero")
  | "%" => some (divided (left.fmod right) "integer modulo by zero")
  | "|" => some (.ok (.ofInt (bitwise Nat.lor left right)))
  | "&" => some (.ok (.ofInt (bitwise Nat.land left right)))
  | "^" => some (.ok (.ofInt (bitwise Nat.xor left right)))
  | "**" =>
    if 0 ≤ right then some (.ok (.ofInt (wholePower left right.toNat)))
    else some do fractionPower (← asFraction left) (← asFraction right)
  | "<<" => some (shifted fun count => left * Int.ofNat (Nat.pow 2 count))
  | ">>" => some (shifted fun count => left.fdiv (Int.ofNat (Nat.pow 2 count)))
  | _ => none

/-- An operator between two numbers with a fraction, if it has a meaning for them. -/
def fractionOperator? (operator : String) (left right : Floating) : Option (Except Fault Value) :=
  let divided (result : Floating) (message : String) : Except Fault Value :=
    if right.isZero then .error (.zeroDivision message) else .ok (.ofFloating result)
  match operator with
  | "+" => some (.ok (.ofFloating (left.add right)))
  | "-" => some (.ok (.ofFloating (left.subtract right)))
  | "*" => some (.ok (.ofFloating (left.multiply right)))
  | "/" => some (divided (left.divide right) "float division by zero")
  | "//" => some (divided (left.floorDivide right) "float floor division by zero")
  | "%" => some (divided (left.modulo right) "float modulo")
  | "**" => some (fractionPower left right)
  | _ => none

/-- An operator between two complex numbers, if it has a meaning for them. -/
def complexOperator? (operator : String) (left right : Complex) : Option (Except Fault Value) :=
  match operator with
  | "+" => some (.ok (.complex (left.add right)))
  | "-" => some (.ok (.complex (left.subtract right)))
  | "*" => some (.ok (.complex (left.multiply right)))
  | "/" =>
    if right.isZero then some (.error (.zeroDivision "complex division by zero"))
    else some (.ok (.complex (left.divide right)))
  | "**" => some (complexPower left right)
  | _ => none

/-! ## Numbers of any type -/

/-- A number of any type. -/
inductive Scalar
  | whole (value : Int)
  | fraction (value : Floating)
  | complex (value : Complex)

/-- The number that a value is. -/
def Value.scalar? (value : Value) : Option Scalar :=
  match value.plain with
  | .complex number => some (.complex number)
  | plain => (plain.datum?.bind Datum.number?).map fun
    | .whole number => .whole number
    | .fraction number => .fraction number

/-- A number as one with a fraction. -/
def Scalar.asFraction : Scalar → Except Fault Floating
  | .whole value => Source.asFraction value
  | .fraction value => .ok value
  | .complex value => .ok value.real

/-- A number as a complex one. -/
def Scalar.asComplex : Scalar → Except Fault Complex
  | .complex value => .ok value
  | number => number.asFraction.map .ofFloating

/-- An operator between two numbers, if it has a meaning for them. -/
def Scalar.operator? (operator : String) (left right : Scalar) : Option (Except Fault Value) :=
  let both {α : Type} (view : Scalar → Except Fault α)
      (operate : α → α → Option (Except Fault Value)) : Option (Except Fault Value) :=
    match view left, view right with
    | .ok first, .ok second => operate first second
    | .error fault, _ | _, .error fault => some (.error fault)
  match left, right with
  | .whole first, .whole second => wholeOperator? operator first second
  | .complex _, _ | _, .complex _ => both asComplex (complexOperator? operator)
  | _, _ => both asFraction (fractionOperator? operator)

/-- Two truth values combined, if the operator combines them to one. -/
def flagOperator? (operator : String) (left right : Bool) : Option Bool :=
  match operator with
  | "|" => some (left || right)
  | "&" => some (left && right)
  | "^" => some (left != right)
  | _ => none

/-- A sign before a number, if it has a meaning there. -/
def Scalar.signed? (operator : String) (number : Scalar) : Option Value :=
  match operator, number with
  | "-", .whole value => some (.ofInt (-value))
  | "+", .whole value => some (.ofInt value)
  | "~", .whole value => some (.ofInt (-value - 1))
  | "-", .fraction value => some (.ofFloating value.negated)
  | "+", .fraction value => some (.ofFloating value)
  | "-", .complex value => some (.complex value.negated)
  | "+", .complex value => some (.complex value)
  | _, _ => none

end ServiceStubs.Source
