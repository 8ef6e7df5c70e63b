import BayeuxChat.Decimal.Shortest

/-!
# The text of a floating-point number

A finite number is written with the digits of its shortest decimal, either in
plain form with a point, or in scientific form with an exponent.  A `Layout`
says at which exponents the form changes; everything else is common to all
layouts: at least one digit after the point in plain form, no point after a
single digit in scientific form, and a sign on every exponent.
-/

namespace BayeuxChat
namespace Decimal

/-- Where plain form is used: for exponents `e` with `leastPlain ≤ e` and
`e < leastScientific`. -/
structure Layout where
  leastPlain : Int
  leastScientific : Int

/-- The digits with a point among them, zeros filling the places that are left. -/
def Digits.plain (d : Digits) : List Char :=
  if d.exponent < 0 then
    ['0', '.'] ++ List.replicate (-d.exponent - 1).toNat '0' ++ d.digits
  else
    let whole := d.exponent.toNat + 1
    let fraction := d.digits.drop whole
    d.digits.take whole ++ List.replicate (whole - d.digits.length) '0' ++
      '.' :: (if fraction.isEmpty then ['0'] else fraction)

/-- The first digit, the others after a point, and the exponent with its sign. -/
def Digits.scientific (d : Digits) : List Char :=
  let sign := if d.exponent < 0 then '-' else '+'
  let fraction := d.digits.drop 1
  d.digits.take 1 ++ (if fraction.isEmpty then [] else '.' :: fraction) ++
    'e' :: sign :: Nat.toDigits 10 d.exponent.natAbs

/-- The digits in the form that the layout chooses for their exponent. -/
def Layout.place (layout : Layout) (d : Digits) : List Char :=
  if layout.leastPlain ≤ d.exponent ∧ d.exponent < layout.leastScientific then d.plain
  else d.scientific

/-- The leading bit of a significand, which is not stored: the 52 bits of the
fraction lie below it. -/
def leadingBit : Nat := 0x10000000000000

/-- The text of `x`, or nothing if `x` is not finite. -/
def Layout.text? (layout : Layout) (x : Float) : Option String :=
  let bits := x.toBits.toNat
  let fraction := bits % leadingBit
  let field : Nat := bits / leadingBit % 0x800
  let sign := if 0x8000000000000000 ≤ bits then ['-'] else []
  if field = 2047 then none
  else
    let body :=
      if field = 0 then
        if fraction = 0 then ['0', '.', '0']
        else layout.place (RoundingInterval.ofBinary fraction (-1074) false).shortest
      else
        let powerOfTwo := fraction == 0 && field != 1
        layout.place
          (RoundingInterval.ofBinary (leadingBit + fraction) ((field : Int) - 1075)
            powerOfTwo).shortest
    some (String.ofList (sign ++ body))

end Decimal
end BayeuxChat
