import BayeuxChat.Text.Blank

/-!
# What trimming leaves

A text loses as much as possible at an end, but nothing in its middle.  Here this is said
without a search: what is left stands in the text, all around it satisfies the condition,
and the characters at its own ends do not.
-/

namespace BayeuxChat
namespace Text

/-! ## One end -/

/-- `core` is the list without its longest ending that satisfies `p` throughout. -/
def IsFront (p : Char → Bool) (cs core : List Char) : Prop :=
  ∃ ending, cs = core ++ ending ∧ (∀ c ∈ ending, p c = true) ∧
    ∀ c, core.getLast? = some c → p c = false

theorem dropWhile_eq_self
    {p : Char → Bool} {cs : List Char} (h : ∀ c, cs.head? = some c → p c = false) :
    cs.dropWhile p = cs := by
  cases cs with
  | nil => rfl
  | cons c cs => rw [List.dropWhile_cons, h c rfl, if_neg Bool.false_ne_true]

theorem eq_false_of_head?_dropWhile
    {p : Char → Bool} {cs : List Char} {c : Char} (h : (cs.dropWhile p).head? = some c) :
    p c = false := by
  have hhead := List.head?_dropWhile_not p cs
  rwa [h] at hhead

/-- What satisfies the condition at the end of a list does not count. -/
theorem dropEndWhile_append
    {p : Char → Bool} {ending : List Char} (h : ∀ c ∈ ending, p c = true) (cs : List Char) :
    dropEndWhile p (cs ++ ending) = dropEndWhile p cs := by
  have hreverse : ∀ c ∈ ending.reverse, p c = true := by simpa using h
  rw [dropEndWhile, List.reverse_append, List.dropWhile_append_of_pos hreverse, dropEndWhile]

theorem dropEndWhile_eq_self
    {p : Char → Bool} {cs : List Char} (h : ∀ c, cs.getLast? = some c → p c = false) :
    dropEndWhile p cs = cs := by
  have hhead : ∀ c, cs.reverse.head? = some c → p c = false := by simpa using h
  rw [dropEndWhile, dropWhile_eq_self hhead, List.reverse_reverse]

theorem eq_false_of_getLast?_dropEndWhile
    {p : Char → Bool} {cs : List Char} {c : Char} (h : (dropEndWhile p cs).getLast? = some c) :
    p c = false := by
  rw [dropEndWhile, List.getLast?_reverse] at h
  exact eq_false_of_head?_dropWhile h

theorem dropEndWhile_eq_iff {p : Char → Bool} {cs core : List Char} :
    dropEndWhile p cs = core ↔ IsFront p cs core := by
  constructor
  · rintro rfl
    obtain ⟨ending, hsplit, hending⟩ := exists_eq_dropEndWhile_append p cs
    exact ⟨ending, hsplit, hending, fun c hc => eq_false_of_getLast?_dropEndWhile hc⟩
  · rintro ⟨ending, rfl, hending, hlast⟩
    rw [dropEndWhile_append hending, dropEndWhile_eq_self hlast]

/-! ## Both ends -/

/-- `core` is the list without the blanks at either end. -/
def IsCore (cs core : List Char) : Prop :=
  ∃ before after, cs = before ++ core ++ after ∧
    (∀ c ∈ before, isBlank c = true) ∧ (∀ c ∈ after, isBlank c = true) ∧
    (∀ c, core.head? = some c → isBlank c = false) ∧
    ∀ c, core.getLast? = some c → isBlank c = false

/-- What is trimmed at its end still begins as it did. -/
theorem head?_of_head?_dropEndWhile
    {p : Char → Bool} {cs : List Char} {c : Char} (h : (dropEndWhile p cs).head? = some c) :
    cs.head? = some c := by
  obtain ⟨ending, hsplit, -⟩ := exists_eq_dropEndWhile_append p cs
  rw [hsplit, List.head?_append, h, Option.some_or]

theorem trimmed_isCore (cs : List Char) : IsCore cs (trimmed cs) := by
  obtain ⟨after, hsplit, hafter⟩ := exists_eq_dropEndWhile_append isBlank (cs.dropWhile isBlank)
  refine ⟨cs.takeWhile isBlank, after, ?_, ?_, hafter, ?_, ?_⟩
  · rw [List.append_assoc, trimmed, ← hsplit, List.takeWhile_append_dropWhile]
  · exact List.all_eq_true.mp List.all_takeWhile
  · intro c hc
    exact eq_false_of_head?_dropWhile (head?_of_head?_dropEndWhile hc)
  · intro c hc
    exact eq_false_of_getLast?_dropEndWhile hc

theorem trimmed_eq_iff {cs core : List Char} : trimmed cs = core ↔ IsCore cs core := by
  constructor
  · rintro rfl
    exact trimmed_isCore cs
  · rintro ⟨before, after, rfl, hbefore, hafter, hfirst, hlast⟩
    rw [trimmed, List.append_assoc, List.dropWhile_append_of_pos hbefore]
    cases core with
    | nil =>
        have hnothing : after.dropWhile isBlank = [] := by
          rw [← List.append_nil after, List.dropWhile_append_of_pos hafter, List.dropWhile_nil]
        rw [List.nil_append, hnothing, dropEndWhile_nil]
    | cons c cs =>
        rw [dropWhile_eq_self (by simpa using hfirst), dropEndWhile_append hafter,
          dropEndWhile_eq_self hlast]

/-- Trimming brings in no character. -/
theorem IsCore.subset {cs core : List Char} (h : IsCore cs core) : core ⊆ cs := by
  obtain ⟨before, after, rfl, -⟩ := h
  intro c hc
  simp [hc]

end Text
end BayeuxChat
