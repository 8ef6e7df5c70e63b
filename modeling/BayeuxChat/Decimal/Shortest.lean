/-!
# Shortest decimals

The shortest decimal of a floating-point number is the one with the fewest
digits among those that round to it, and of these the nearest.  The search is
exact: the numbers that round to a given one form an interval of rationals, and
for one digit, two digits and so on the two neighbours of the value on the grid
of that many digits are tested against the interval.  A point of a grid lies in
the interval only if one of these neighbours does, and seventeen digits always
suffice.
-/

namespace BayeuxChat
namespace Decimal

/-- The rationals that round to one floating-point number `value`. -/
structure RoundingInterval where
  lower : Rat
  value : Rat
  upper : Rat
  /-- Whether the two ends round to `value` as well. -/
  closed : Bool

namespace RoundingInterval

def contains (r : RoundingInterval) (x : Rat) : Bool :=
  if r.closed then decide (r.lower ≤ x ∧ x ≤ r.upper)
  else decide (r.lower < x ∧ x < r.upper)

/-- The interval about `m * 2 ^ q`.  A tie goes to the even significand, so the
ends belong to it just when `m` is even; at a power of two the neighbour below
is only half as far away. -/
def ofBinary (m : Nat) (q : Int) (powerOfTwo : Bool) : RoundingInterval :=
  let unit : Rat := (2 : Rat) ^ q
  let value := m * unit
  { lower := value - unit / (if powerOfTwo then 4 else 2)
    value := value
    upper := value + unit / 2
    closed := m % 2 == 0 }

/-- The point of the grid of step `10 ^ k`, counted in steps, that lies in the
interval nearest to the value; a tie between two goes to the even one. -/
def onGrid? (r : RoundingInterval) (k : Int) : Option Nat :=
  let steps := r.value / (10 : Rat) ^ k
  let below := steps.floor.toNat
  let inside (n : Nat) : Bool := r.contains (n * (10 : Rat) ^ k)
  match inside below, inside (below + 1) with
  | false, false => none
  | true, false => some below
  | false, true => some (below + 1)
  | true, true =>
    let rest := steps - below
    if rest < 1 / 2 || (rest == 1 / 2 && below % 2 == 0) then some below
    else some (below + 1)

end RoundingInterval

/-- The exponent of the greatest power of ten that is at most `x`, for `x`
positive. -/
def magnitude (x : Rat) : Int :=
  let places (n : Nat) : Int := (Nat.toDigits 10 n).length
  let e := places x.num.toNat - places x.den
  if (10 : Rat) ^ e ≤ x then e else e - 1

/-- A positive decimal `d.ddd… * 10 ^ exponent`, by its digits. -/
structure Digits where
  digits : List Char
  exponent : Int

/-- The digits of `n * 10 ^ k` without the zeros at their end. -/
def Digits.ofNat (n : Nat) (k : Int) : Digits :=
  let all := Nat.toDigits 10 n
  { digits := (all.reverse.dropWhile (· == '0')).reverse
    exponent := k + all.length - 1 }

def RoundingInterval.shortest (r : RoundingInterval) : Digits :=
  let e := magnitude r.value
  let hit := (List.range 17).findSome? fun (places : Nat) =>
    let k := e - places
    (r.onGrid? k).map fun n => Digits.ofNat n k
  hit.getD (Digits.ofNat (r.value / (10 : Rat) ^ (e - 16)).floor.toNat (e - 16))

end Decimal
end BayeuxChat
