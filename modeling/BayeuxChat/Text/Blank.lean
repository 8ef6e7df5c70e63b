/-!
# Blank characters

The characters that count as white space around a word, and the trimming of a
text.  The class is Unicode's `White_Space`, which is wider than the six ASCII
blanks of `Char.isWhitespace` (`isBlank_of_isWhitespace`): the no-break space
and the ideographic space belong to it, the zero-width space does not.

Trimming is stated on lists of characters, where `dropEndWhile` is the mirror
image of `List.dropWhile`.
-/

namespace BayeuxChat
namespace Text

/-- Whether `c` is white space in the sense of Unicode's `White_Space`. -/
def isBlank (c : Char) : Bool :=
  let n := c.toNat
  (0x9 ≤ n && n ≤ 0xD) || n == 0x20 || n == 0x85 || n == 0xA0 || n == 0x1680 ||
    (0x2000 ≤ n && n ≤ 0x200A) || n == 0x2028 || n == 0x2029 || n == 0x202F ||
    n == 0x205F || n == 0x3000

/-- The list without its longest ending that satisfies `p` throughout. -/
def dropEndWhile (p : Char → Bool) (cs : List Char) : List Char :=
  (cs.reverse.dropWhile p).reverse

/-- The list without the blanks at either end. -/
def trimmed (cs : List Char) : List Char :=
  dropEndWhile isBlank (cs.dropWhile isBlank)

def trim (s : String) : String :=
  String.ofList (trimmed s.toList)

theorem isBlank_of_isWhitespace (c : Char) (h : c.isWhitespace = true) :
    isBlank c = true := by
  simp only [Char.isWhitespace, Bool.or_eq_true, decide_eq_true_eq] at h
  rcases h with ((rfl | rfl) | rfl) | rfl <;> decide

@[simp] theorem dropEndWhile_nil (p : Char → Bool) : dropEndWhile p [] = [] := rfl

/-- What `dropEndWhile` removes is an ending that satisfies `p` throughout. -/
theorem exists_eq_dropEndWhile_append (p : Char → Bool) (cs : List Char) :
    ∃ tail, cs = dropEndWhile p cs ++ tail ∧ ∀ c ∈ tail, p c = true := by
  refine ⟨(cs.reverse.takeWhile p).reverse, ?_, ?_⟩
  · rw [dropEndWhile, ← List.reverse_append, List.takeWhile_append_dropWhile,
      List.reverse_reverse]
  · intro c hc
    exact List.all_eq_true.1 List.all_takeWhile c (List.mem_reverse.1 hc)

end Text
end BayeuxChat
