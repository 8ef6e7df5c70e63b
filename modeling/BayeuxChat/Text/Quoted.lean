import BayeuxChat.Text.Extending
import BayeuxChat.Text.Numeral
import BayeuxChat.Text.Printable

/-!
# Quoted texts

The form in which a text is quoted inside an error message: between double
quotes, with a short escape for a few characters, and with `\u` and the code
point in braces for every other character that would not show up on its own.
A quoted text therefore stays on one line (`newline_notMem_quoted`).
-/

namespace BayeuxChat
namespace Text

/-- The numeric escape of `c`: its code point in hexadecimal between braces. -/
def codePointEscape (c : Char) : List Char :=
  ['\\', 'u', '\x7b'] ++ hexDigits c.toNat ++ ['\x7d']

/-- The letter that stands behind a backslash for `c`, if there is one. -/
def shortEscape? : Char → Option Char
  | '\x00' => some '0'
  | '\t' => some 't'
  | '\r' => some 'r'
  | '\n' => some 'n'
  | '\\' => some '\\'
  | '"' => some '"'
  | _ => none

/-- How `c` is written inside quotes. -/
def quotedChar (c : Char) : List Char :=
  match shortEscape? c with
  | some letter => ['\\', letter]
  | none => if isExtending c || !isPrintable c then codePointEscape c else [c]

/-- A list of characters between double quotes, escaped where needed. -/
def quoted (cs : List Char) : List Char :=
  '"' :: cs.flatMap quotedChar ++ ['"']

def quote (s : String) : String :=
  String.ofList (quoted s.toList)

theorem newline_notMem_codePointEscape (c : Char) : '\n' ∉ codePointEscape c := by
  intro h
  simp only [codePointEscape, List.mem_append] at h
  rcases h with (h | h) | h
  · simp at h
  · exact absurd (mem_of_mem_hexDigits _ _ h) (by decide)
  · simp at h

theorem ne_newline_of_shortEscape? (c letter : Char) (h : shortEscape? c = some letter) :
    '\n' ≠ letter := by
  unfold shortEscape? at h
  split at h <;> simp_all <;> subst h <;> decide

theorem newline_notMem_quotedChar (c : Char) : '\n' ∉ quotedChar c := by
  unfold quotedChar
  split
  · next letter h => simpa using ne_newline_of_shortEscape? c letter h
  · next h =>
    split
    · exact newline_notMem_codePointEscape c
    · rw [List.mem_singleton]
      rintro rfl
      simp [shortEscape?] at h

theorem newline_notMem_quoted (cs : List Char) : '\n' ∉ quoted cs := by
  intro h
  simp only [quoted, List.mem_append, List.mem_cons, List.mem_flatMap] at h
  rcases h with (h | ⟨c, _, h⟩) | h
  · simp at h
  · exact newline_notMem_quotedChar c h
  · simp at h

end Text
end BayeuxChat
