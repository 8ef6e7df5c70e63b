import BayeuxChat.Text.Blank
import BayeuxChat.Text.Numeral

/-!
# Decimal numerals

What a decimal numeral is and which number it is for, said without reading it digit by
digit.  A numeral with a bound is read just if it is one and its number is within the
bound.
-/

namespace BayeuxChat
namespace Text

/-- The list consists of one decimal digit or more, leading zeros among them, and its
value is `n`. -/
structure IsDigits (n : Nat) (cs : List Char) : Prop where
  ne_nil : cs ≠ []
  digit : ∀ c ∈ cs, c.isDigit = true
  value : Nat.ofDigitChars 10 cs 0 = n

/-- The list is a numeral of `n`: digits, perhaps behind a plus sign. -/
def IsNumeral (n : Nat) (cs : List Char) : Prop :=
  IsDigits n cs ∨ ∃ digits, cs = '+' :: digits ∧ IsDigits n digits

theorem digit?_eq_some_iff {c : Char} {d : Nat} :
    digit? c = some d ↔ c.isDigit = true ∧ c.toNat - '0'.toNat = d := by
  have hrange : ('0' ≤ c ∧ c ≤ '9') ↔ c.isDigit = true := by
    simp [Char.isDigit, Char.le_def]
  simp only [digit?, hrange]
  split
  · next h => simp [h]
  · next h => simp [h]

/-- The digits that are read extend the number read before. -/
theorem digitsValue?_eq_some_iff {cs : List Char} {high n : Nat} :
    digitsValue? high cs = some n ↔
      (∀ c ∈ cs, c.isDigit = true) ∧ Nat.ofDigitChars 10 cs high = n := by
  induction cs generalizing high with
  | nil => simp [digitsValue?]
  | cons c cs ih =>
      rw [digitsValue?, Option.bind_eq_some_iff, Nat.ofDigitChars_cons, List.forall_mem_cons]
      constructor
      · rintro ⟨d, hd, hrest⟩
        obtain ⟨hdigit, rfl⟩ := digit?_eq_some_iff.mp hd
        obtain ⟨hdigits, hvalue⟩ := ih.mp hrest
        rw [Nat.mul_comm] at hvalue
        exact ⟨⟨hdigit, hdigits⟩, hvalue⟩
      · rintro ⟨⟨hdigit, hdigits⟩, hvalue⟩
        rw [Nat.mul_comm] at hvalue
        exact ⟨_, digit?_eq_some_iff.mpr ⟨hdigit, rfl⟩, ih.mpr ⟨hdigits, hvalue⟩⟩

theorem natural?_eq_some_iff {cs : List Char} {n : Nat} :
    natural? cs = some n ↔ IsDigits n cs := by
  cases cs with
  | nil =>
      refine iff_of_false (by simp [natural?]) ?_
      intro h
      exact h.ne_nil rfl
  | cons c cs =>
      rw [natural?, digitsValue?_eq_some_iff]
      · constructor
        · rintro ⟨hdigit, hvalue⟩
          exact ⟨List.cons_ne_nil c cs, hdigit, hvalue⟩
        · intro h
          exact ⟨h.digit, h.value⟩
      · simp

/-- A list that begins with a plus sign does not consist of digits. -/
theorem not_isDigits_plus (n : Nat) (digits : List Char) : ¬IsDigits n ('+' :: digits) := by
  intro h
  have hplus := h.digit '+' List.mem_cons_self
  contradiction

theorem boundedNumeral?_eq_some_iff {limit n : Nat} {cs : List Char} :
    boundedNumeral? limit cs = some n ↔ IsNumeral n cs ∧ n ≤ limit := by
  simp only [boundedNumeral?, Option.filter_eq_some_iff, decide_eq_true_eq]
  refine and_congr_left fun _ => ?_
  split
  · next digits => simp [natural?_eq_some_iff, IsNumeral, not_isDigits_plus]
  · next hplain =>
    have hnone : ¬∃ digits, cs = '+' :: digits ∧ IsDigits n digits := by
      rintro ⟨digits, rfl, -⟩
      exact hplain digits rfl
    rw [natural?_eq_some_iff, IsNumeral, or_iff_left hnone]

/-- A number is written in digits that read back. -/
theorem isDigits_toDigits (n : Nat) : IsDigits n (Nat.toDigits 10 n) where
  ne_nil := Nat.toDigits_ne_nil
  digit := fun _ hc => Nat.isDigit_of_mem_toDigits (by decide) (by decide) hc
  value := Nat.ofDigitChars_ten_toDigits

/-- No digit is white space. -/
theorem isBlank_eq_false_of_isDigit {c : Char} (h : c.isDigit = true) : isBlank c = false := by
  have hrange : 48 ≤ c.toNat ∧ c.toNat ≤ 57 := by
    simpa [Char.isDigit, UInt32.le_iff_toNat_le] using h
  simp only [isBlank, Bool.or_eq_false_iff, Bool.and_eq_false_iff, decide_eq_false_iff_not,
    beq_eq_false_iff_ne]
  omega

end Text
end BayeuxChat
