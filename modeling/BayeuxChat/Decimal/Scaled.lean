/-!
# Scaling by powers of ten

The floating-point number for a significand and a decimal exponent.  The
significand is rounded first and then multiplied by, or divided by, a power of
ten that is itself rounded; so the result can differ in its last place from the
number nearest to the decimal.  Powers beyond `10 ^ 308` are not representable:
a smaller number is divided step by step, a greater one is out of range.
-/

namespace BayeuxChat
namespace Decimal

/-- The greatest exponent of a representable power of ten. -/
def greatestPower : Nat := 308

def powerOfTen (n : Nat) : Float :=
  Float.ofScientific 1 false n

/-- `x * 10 ^ e` in at most `steps + 1` multiplications or divisions, or nothing
if it is too great. -/
def scaleWithin (steps : Nat) (x : Float) (e : Int) : Option Float :=
  if e.natAbs ≤ greatestPower then
    if 0 ≤ e then
      let product := x * powerOfTen e.natAbs
      if product.isInf then none else some product
    else some (x / powerOfTen e.natAbs)
  else if x == 0 then some x
  else if 0 ≤ e then none
  else
    match steps with
    | 0 => some x
    | steps + 1 => scaleWithin steps (x / powerOfTen greatestPower) (e + greatestPower)

/-- The number for `significand * 10 ^ exponent`, or nothing if it is too great. -/
def scaled? (significand : Nat) (exponent : Int) : Option Float :=
  scaleWithin (exponent.natAbs / greatestPower + 1) (UInt64.ofNat significand).toFloat exponent

end Decimal
end BayeuxChat
