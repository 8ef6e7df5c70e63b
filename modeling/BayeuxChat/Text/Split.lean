/-!
# Cutting a text at a separator

`cut` divides a list of characters at the first separator, `pieces` at every
one.  Neither loses a character but the separators: `append_of_cut` and
`intercalate_pieces` put the parts together again.
-/

namespace BayeuxChat
namespace Text

/-- What stands before and after the first `sep`, if there is one. -/
def cut (sep : Char) : List Char → Option (List Char × List Char)
  | [] => none
  | c :: cs =>
    if c = sep then some ([], cs)
    else (cut sep cs).map fun (before, after) => (c :: before, after)

/-- The parts between the separators, in order; there is always at least one. -/
def pieces (sep : Char) : List Char → List (List Char)
  | [] => [[]]
  | c :: cs =>
    if c = sep then [] :: pieces sep cs
    else
      match pieces sep cs with
      | [] => [[c]]
      | p :: ps => (c :: p) :: ps

/-- A text without the separator cannot be cut, and only such a text. -/
theorem cut_eq_none_iff (sep : Char) (cs : List Char) : cut sep cs = none ↔ sep ∉ cs := by
  induction cs with
  | nil => simp [cut]
  | cons c cs ih =>
    by_cases h : c = sep
    · simp [cut, h]
    · simp [cut, h, ih, Ne.symm h]

/-- The two parts with the separator between them are the text. -/
theorem append_of_cut (sep : Char) (cs before after : List Char)
    (h : cut sep cs = some (before, after)) :
    cs = before ++ sep :: after ∧ sep ∉ before := by
  induction cs generalizing before with
  | nil => simp [cut] at h
  | cons c cs ih =>
    by_cases hc : c = sep
    · simp only [cut, hc, if_true, Option.some.injEq, Prod.mk.injEq] at h
      obtain ⟨rfl, rfl⟩ := h
      simp [hc]
    · simp only [cut, hc, if_false, Option.map_eq_some_iff, Prod.mk.injEq] at h
      obtain ⟨⟨b, a⟩, hcut, rfl, rfl⟩ := h
      obtain ⟨rfl, hb⟩ := ih b hcut
      simp [hb, Ne.symm hc]

/-- A text is cut at its first separator, whatever stands behind it. -/
theorem cut_append {sep : Char} {before : List Char} (h : sep ∉ before) (after : List Char) :
    cut sep (before ++ sep :: after) = some (before, after) := by
  induction before with
  | nil => simp [cut]
  | cons c before ih =>
    rw [List.mem_cons, not_or] at h
    obtain ⟨hc, hbefore⟩ := h
    simp [cut, Ne.symm hc, ih hbefore]

theorem cut_eq_some_iff {sep : Char} {cs before after : List Char} :
    cut sep cs = some (before, after) ↔ cs = before ++ sep :: after ∧ sep ∉ before := by
  constructor
  · exact append_of_cut sep cs before after
  · rintro ⟨rfl, hbefore⟩
    exact cut_append hbefore after

theorem pieces_ne_nil (sep : Char) (cs : List Char) : pieces sep cs ≠ [] := by
  cases cs with
  | nil => simp [pieces]
  | cons c cs =>
    simp only [pieces]
    split
    · simp
    · split <;> simp

/-- The pieces with a separator between each two are the text. -/
theorem intercalate_pieces (sep : Char) (cs : List Char) :
    [sep].intercalate (pieces sep cs) = cs := by
  induction cs with
  | nil => rfl
  | cons c cs ih =>
    obtain ⟨p, ps, hp⟩ := List.exists_cons_of_ne_nil (pieces_ne_nil sep cs)
    rw [hp] at ih
    by_cases hc : c = sep
    · simp only [pieces, hc, if_true, hp]
      rw [← ih]
      simp [List.intercalate]
    · simp only [pieces, hc, if_false, hp]
      rw [← ih]
      cases ps <;> simp [List.intercalate]

/-- The pieces are those of the general splitting of lists. -/
theorem pieces_eq_splitOn (sep : Char) (cs : List Char) : pieces sep cs = cs.splitOn sep := by
  induction cs with
  | nil => rfl
  | cons c cs ih =>
    rw [pieces, List.splitOn_cons_eq_if_modifyHead, ih]
    by_cases hc : c = sep
    · simp [hc]
    · simp only [hc, beq_iff_eq, if_false]
      obtain ⟨p, ps, hp⟩ := List.exists_cons_of_ne_nil (List.splitOn_ne_nil sep cs)
      rw [hp, List.modifyHead_cons]

end Text
end BayeuxChat
