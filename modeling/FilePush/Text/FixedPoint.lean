/-!
# Fixed-point text of measured figures

Times and speeds are binary fractions and are shown with a fixed number of decimal places.  The
exact value of the fraction is rounded to the nearest decimal, and a value halfway between two
decimals goes to the one with the even last digit.
-/

namespace FilePush

namespace FixedPoint

/-- A nonnegative binary fraction, `mantissa * 2 ^ exponent`. -/
structure Dyadic where
  /-- The digits of the fraction. -/
  mantissa : Nat
  /-- The power of two they are scaled by. -/
  exponent : Int
  deriving DecidableEq, Repr

/-- The magnitude of a finite double, from its bits. -/
def Dyadic.ofBits (bits : UInt64) : Dyadic :=
  let fraction := (bits &&& 0xFFFFFFFFFFFFF).toNat
  let scale := (bits >>> 52 &&& 0x7FF).toNat
  if scale = 0 then ⟨fraction, -1074⟩ else ⟨0x10000000000000 + fraction, Int.ofNat scale - 1075⟩

/-- The number of units of the last of `places` decimal places in a whole. -/
def unitsPerWhole (places : Nat) : Nat := Nat.pow 10 places

/-- The whole number nearest to a quotient, the even one of two that are equally near. -/
def roundDiv (numerator denominator : Nat) : Nat :=
  let quotient := numerator / denominator
  let twice := 2 * (numerator % denominator)
  if denominator < twice ∨ denominator = twice ∧ quotient % 2 = 1 then quotient + 1 else quotient

/-- How many units of the last of `places` decimal places a binary fraction rounds to. -/
def Dyadic.units (places : Nat) (value : Dyadic) : Nat :=
  match value.exponent with
  | .ofNat exponent => (value.mantissa <<< exponent) * unitsPerWhole places
  | .negSucc exponent => roundDiv (value.mantissa * unitsPerWhole places) (1 <<< (exponent + 1))

/-- A number of units of the last decimal place, with the point put in. -/
def renderUnits (places units : Nat) : String :=
  let whole := toString (units / unitsPerWhole places)
  let fraction := toString (units % unitsPerWhole places)
  if places = 0 then whole
  else whole ++ "." ++ String.ofList (List.replicate (places - fraction.length) '0') ++ fraction

/-- A finite nonnegative double with `places` decimal places. -/
def render (places : Nat) (value : Float) : String :=
  renderUnits places ((Dyadic.ofBits value.toBits).units places)

end FixedPoint

end FilePush
