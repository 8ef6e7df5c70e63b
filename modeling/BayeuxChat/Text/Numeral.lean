/-!
# Numerals

Reading unsigned decimal numerals with an upper bound, and writing and reading
hexadecimal ones.  A decimal numeral may begin with a single plus sign; blanks,
a minus sign and an empty digit string are refused, leading zeros are not.
Hexadecimal numerals are written in lower case and filled up with zeros to a
given width.
-/

namespace BayeuxChat
namespace Text

/-- The value of an ASCII decimal digit. -/
def digit? (c : Char) : Option Nat :=
  if '0' ≤ c ∧ c ≤ '9' then some (c.toNat - '0'.toNat) else none

/-- The value of an ASCII hexadecimal digit of either case. -/
def hexDigit? (c : Char) : Option Nat :=
  if '0' ≤ c ∧ c ≤ '9' then some (c.toNat - '0'.toNat)
  else if 'a' ≤ c ∧ c ≤ 'f' then some (c.toNat - 'a'.toNat + 10)
  else if 'A' ≤ c ∧ c ≤ 'F' then some (c.toNat - 'A'.toNat + 10)
  else none

/-- The value of a string of decimal digits that follow a number `high`. -/
def digitsValue? (high : Nat) : List Char → Option Nat
  | [] => some high
  | c :: cs => (digit? c).bind fun d => digitsValue? (high * 10 + d) cs

/-- The value of a nonempty string of decimal digits. -/
def natural? : List Char → Option Nat
  | [] => none
  | cs => digitsValue? 0 cs

/-- The value of a decimal numeral, with or without a plus sign, that is at
most `limit`. -/
def boundedNumeral? (limit : Nat) (cs : List Char) : Option Nat :=
  let unsigned := match cs with
    | '+' :: rest => natural? rest
    | _ => natural? cs
  unsigned.filter (· ≤ limit)

def decimal (n : Nat) : String :=
  String.ofList (Nat.toDigits 10 n)

/-- The decimal numeral of `n`, behind a minus sign if it is negative. -/
def signedDecimal (n : Int) : String :=
  if n < 0 then "-" ++ decimal n.natAbs else decimal n.natAbs

/-- The lower-case hexadecimal digits of `n`, without leading zeros. -/
def hexDigits (n : Nat) : List Char :=
  Nat.toDigits 16 n

/-- The lower-case hexadecimal digits of `n` behind as many zeros as make up
`width` places. -/
def paddedHexDigits (width n : Nat) : List Char :=
  List.replicate (width - (hexDigits n).length) '0' ++ hexDigits n

/-- The hexadecimal numeral of `n` in at least `width` places. -/
def paddedHex (width n : Nat) : String :=
  String.ofList (paddedHexDigits width n)

/-- A digit of a base up to sixteen is one of the sixteen lower-case digits. -/
theorem digitChar_mem_of_lt : ∀ d < 16, Nat.digitChar d ∈ "0123456789abcdef".toList := by
  decide

theorem mem_of_mem_hexDigits (n : Nat) (c : Char) (h : c ∈ hexDigits n) :
    c ∈ "0123456789abcdef".toList := by
  induction n using Nat.strongRecOn generalizing c with
  | _ n ih =>
    by_cases hn : n < 16
    · rw [hexDigits, Nat.toDigits_of_lt_base hn, List.mem_singleton] at h
      exact h ▸ digitChar_mem_of_lt n hn
    · rw [hexDigits, Nat.toDigits_of_base_le (by decide) (by omega), List.mem_append,
        List.mem_singleton] at h
      rcases h with h | rfl
      · exact ih (n / 16) (by omega) c h
      · exact digitChar_mem_of_lt (n % 16) (by omega)

theorem le_length_paddedHexDigits (width n : Nat) :
    width ≤ (paddedHexDigits width n).length := by
  simp only [paddedHexDigits, List.length_append, List.length_replicate]
  omega

theorem le_of_boundedNumeral? (limit : Nat) (cs : List Char) (n : Nat)
    (h : boundedNumeral? limit cs = some n) : n ≤ limit := by
  simp only [boundedNumeral?, Option.filter_eq_some_iff, decide_eq_true_eq] at h
  exact h.2

end Text
end BayeuxChat
