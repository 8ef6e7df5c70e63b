import BayeuxChat.Text.Numeral

/-!
# Padded hexadecimal numerals

What a hexadecimal numeral of a given width says, told by reading it digit by digit.
Numerals that are written out read back as the numbers that they were written for, so
no two numbers share one.
-/

namespace BayeuxChat
namespace Text

/-- The value of a string of hexadecimal digits that follow a number `high`. -/
def hexValue? (high : Nat) : List Char → Option Nat
  | [] => some high
  | c :: cs => (hexDigit? c).bind fun d => hexValue? (high * 16 + d) cs

/-- The text is the lower-case hexadecimal numeral of `n` in at least `width` places:
zeros fill it up to the width, but no further. -/
structure IsPaddedHex (width n : Nat) (text : String) : Prop where
  lowerCase : ∀ c ∈ text.toList, c ∈ "0123456789abcdef".toList
  value : hexValue? 0 text.toList = some n
  width_le : width ≤ text.toList.length
  unfilled : width < text.toList.length → text.toList.head? ≠ some '0'

theorem hexDigit?_digitChar : ∀ d < 16, hexDigit? (Nat.digitChar d) = some d := by
  decide

theorem digitChar_ne_zero : ∀ d < 16, d ≠ 0 → Nat.digitChar d ≠ '0' := by
  decide

theorem hexValue?_append (high : Nat) (cs ds : List Char) :
    hexValue? high (cs ++ ds) = (hexValue? high cs).bind fun v => hexValue? v ds := by
  induction cs generalizing high with
  | nil => rfl
  | cons c cs ih =>
      cases hdigit : hexDigit? c with
      | none => simp [hexValue?, hdigit]
      | some d => simp [hexValue?, hdigit, ih]

theorem hexValue?_replicate_zero (k : Nat) : hexValue? 0 (List.replicate k '0') = some 0 := by
  induction k with
  | zero => rfl
  | succ k ih =>
      rw [List.replicate_succ]
      exact ih

/-- The last digit of a numeral stands behind the numeral of a smaller number. -/
theorem hexDigits_of_le {n : Nat} (h : 16 ≤ n) :
    hexDigits n = hexDigits (n / 16) ++ [Nat.digitChar (n % 16)] :=
  Nat.toDigits_of_base_le (by decide) h

theorem hexDigits_of_lt {n : Nat} (h : n < 16) : hexDigits n = [Nat.digitChar n] :=
  Nat.toDigits_of_lt_base h

theorem hexValue?_hexDigits (n : Nat) : hexValue? 0 (hexDigits n) = some n := by
  induction n using Nat.strongRecOn with
  | _ n ih =>
    by_cases hn : n < 16
    · simp [hexDigits_of_lt hn, hexValue?, hexDigit?_digitChar n hn]
    · have hlast : n % 16 < 16 := Nat.mod_lt _ (by decide)
      have hvalue : n / 16 * 16 + n % 16 = n := by omega
      rw [hexDigits_of_le (by omega), hexValue?_append, ih (n / 16) (by omega)]
      simp [hexValue?, hexDigit?_digitChar _ hlast, hvalue]

/-- No zero stands in front, except for the number zero. -/
theorem head?_hexDigits_ne_zero {n : Nat} (h : n ≠ 0) : (hexDigits n).head? ≠ some '0' := by
  induction n using Nat.strongRecOn with
  | _ n ih =>
    by_cases hn : n < 16
    · simpa [hexDigits_of_lt hn] using digitChar_ne_zero n hn h
    · have hhigh : (hexDigits (n / 16)).head? ≠ some '0' := ih (n / 16) (by omega) (by omega)
      have hdigits : hexDigits (n / 16) ≠ [] := Nat.toDigits_ne_nil
      obtain ⟨c, cs, hcons⟩ := List.exists_cons_of_ne_nil hdigits
      rw [hcons] at hhigh
      rw [hexDigits_of_le (by omega), hcons]
      exact hhigh

theorem hexValue?_paddedHexDigits (width n : Nat) :
    hexValue? 0 (paddedHexDigits width n) = some n := by
  rw [paddedHexDigits, hexValue?_append, hexValue?_replicate_zero]
  exact hexValue?_hexDigits n

theorem isPaddedHex_paddedHex {width : Nat} (hwidth : 0 < width) (n : Nat) :
    IsPaddedHex width n (paddedHex width n) := by
  constructor
  · intro c hc
    rw [paddedHex, String.toList_ofList, paddedHexDigits, List.mem_append] at hc
    rcases hc with hzero | hdigit
    · obtain rfl := List.eq_of_mem_replicate hzero
      decide
    · exact mem_of_mem_hexDigits n c hdigit
  · rw [paddedHex, String.toList_ofList]
    exact hexValue?_paddedHexDigits width n
  · rw [paddedHex, String.toList_ofList]
    exact le_length_paddedHexDigits width n
  · intro hlong
    rw [paddedHex, String.toList_ofList, paddedHexDigits] at hlong ⊢
    rw [List.length_append, List.length_replicate] at hlong
    have hnone : width - (hexDigits n).length = 0 := by omega
    have hn : n ≠ 0 := by
      rintro rfl
      have hlength : (hexDigits 0).length = 1 := rfl
      omega
    rw [hnone]
    exact head?_hexDigits_ne_zero hn

/-- Different numbers have different numerals. -/
theorem paddedHex_inj {width m n : Nat} (h : paddedHex width m = paddedHex width n) :
    m = n := by
  have hdigits : paddedHexDigits width m = paddedHexDigits width n := String.ofList_injective h
  have hvalue := hexValue?_paddedHexDigits width n
  rw [← hdigits, hexValue?_paddedHexDigits] at hvalue
  exact Option.some.inj hvalue

end Text
end BayeuxChat
