import Mathlib.Data.List.Infix
import Mathlib.Data.String.Basic

/-!
# Offsets in a text

A place in a text is known by the number of bytes in front of it.  A part of a text can be
taken only between places at which characters begin or end.  The places at which a search
finds a pattern are such, and so are those at which what it found ends.
-/

namespace BayeuxChat
namespace Text

open String (utf8Len)

/-! ## Parts of a text -/

/-- The part of a text between two offsets, if these lie in the text, in this order and at
characters' boundaries. -/
def slice? (s : String) (start stop : Nat) : Option String :=
  if start ≤ stop ∧ String.Pos.Raw.IsValid s ⟨start⟩ ∧ String.Pos.Raw.IsValid s ⟨stop⟩ then
    some (String.Pos.Raw.extract s ⟨start⟩ ⟨stop⟩)
  else none

/-- The bytes of a text from an offset on, if it lies in the text. -/
def bytesFrom? (s : String) (start : Nat) : Option (List UInt8) :=
  if start ≤ s.utf8ByteSize then some (s.toUTF8.data.toList.drop start) else none

theorem isValid_utf8Len (before after : List Char) :
    String.Pos.Raw.IsValid (String.ofList (before ++ after)) ⟨utf8Len before⟩ := by
  rw [String.Pos.Raw.isValid_iff_exists_append]
  refine ⟨String.ofList before, String.ofList after, String.ofList_append, ?_⟩
  rw [String.rawEndPos, String.utf8ByteSize_ofList]

/-- Any part of a text can be taken. -/
theorem slice?_append (before part after : List Char) :
    slice? (String.ofList (before ++ part ++ after)) (utf8Len before) (utf8Len (before ++ part)) =
      some (String.ofList part) := by
  have hstart : String.Pos.Raw.IsValid (String.ofList (before ++ part ++ after))
      ⟨utf8Len before⟩ := by
    rw [List.append_assoc]
    exact isValid_utf8Len before (part ++ after)
  have hstop := isValid_utf8Len (before ++ part) after
  have hle : utf8Len before ≤ utf8Len (before ++ part) := by
    rw [String.utf8Len_append]
    exact Nat.le_add_right _ _
  rw [slice?, if_pos ⟨hle, hstart, hstop⟩, String.utf8Len_append, String.extract_of_valid]

theorem slice?_start (part after : List Char) :
    slice? (String.ofList (part ++ after)) 0 (utf8Len part) = some (String.ofList part) :=
  slice?_append [] part after

theorem slice?_stop (before part : List Char) :
    slice? (String.ofList (before ++ part)) (utf8Len before) (utf8Len (before ++ part)) =
      some (String.ofList part) := by
  have h := slice?_append before part []
  rwa [List.append_nil] at h

/-- The bytes of a text are those of its characters. -/
theorem bytes_ofList (cs : List Char) :
    (String.ofList cs).toUTF8.data.toList = cs.flatMap String.utf8EncodeChar := by
  simp [List.utf8Encode]

theorem length_flatMap_utf8EncodeChar (cs : List Char) :
    (cs.flatMap String.utf8EncodeChar).length = utf8Len cs := by
  induction cs with
  | nil => rfl
  | cons c cs ih =>
      rw [List.flatMap_cons, List.length_append, ih, String.length_utf8EncodeChar,
        String.utf8Len_cons, Nat.add_comm]

theorem bytesFrom?_append (before after : List Char) :
    bytesFrom? (String.ofList (before ++ after)) (utf8Len before) =
      some (after.flatMap String.utf8EncodeChar) := by
  have hle : utf8Len before ≤ (String.ofList (before ++ after)).utf8ByteSize := by
    rw [String.utf8ByteSize_ofList, String.utf8Len_append]
    exact Nat.le_add_right _ _
  rw [bytesFrom?, if_pos hle, bytes_ofList, List.flatMap_append,
    ← length_flatMap_utf8EncodeChar before, List.drop_left]

/-- A character is a single byte, its code, or else it begins with a greater byte than any
of these. -/
theorem utf8EncodeChar_cases (c : Char) :
    c.toNat ≤ 127 ∧ String.utf8EncodeChar c = [UInt8.ofNat c.toNat] ∨
      127 < c.toNat ∧
        ∃ first more, String.utf8EncodeChar c = first :: more ∧ 127 < first.toNat := by
  by_cases hone : c.toNat ≤ 127
  · exact .inl ⟨hone, if_pos hone⟩
  refine .inr ⟨by omega, ?_⟩
  simp only [String.utf8EncodeChar, Char.toNat_val]
  rw [if_neg hone]
  by_cases htwo : c.toNat ≤ 2047
  · refine ⟨_, _, if_pos htwo, ?_⟩
    rw [UInt8.toNat_ofNat']
    omega
  rw [if_neg htwo]
  by_cases hthree : c.toNat ≤ 65535
  · refine ⟨_, _, if_pos hthree, ?_⟩
    rw [UInt8.toNat_ofNat']
    omega
  · refine ⟨_, _, if_neg hthree, ?_⟩
    rw [UInt8.toNat_ofNat']
    omega

theorem ofNat_toNat_eq_iff {a c : Char} (ha : a.toNat ≤ 127) (hc : c.toNat ≤ 127) :
    UInt8.ofNat c.toNat = UInt8.ofNat a.toNat ↔ c = a := by
  rw [← UInt8.toNat_inj, UInt8.toNat_ofNat', UInt8.toNat_ofNat', ← Char.toNat_inj]
  omega

/-- Whether a text begins with a certain single byte is seen from its bytes. -/
theorem head?_flatMap_eq_iff {a : Char} (ha : a.toNat ≤ 127) (cs : List Char) :
    (cs.flatMap String.utf8EncodeChar).head? = some (UInt8.ofNat a.toNat) ↔
      cs.head? = some a := by
  cases cs with
  | nil => simp
  | cons c cs =>
      rw [List.flatMap_cons, List.head?_cons, Option.some.injEq]
      rcases utf8EncodeChar_cases c with ⟨hc, henc⟩ | ⟨hc, first, more, henc, hfirst⟩
      · rw [henc, List.singleton_append, List.head?_cons, Option.some.injEq]
        exact ofNat_toNat_eq_iff ha hc
      · rw [henc, List.cons_append, List.head?_cons, Option.some.injEq]
        refine iff_of_false ?_ ?_
        · rintro rfl
          rw [UInt8.toNat_ofNat'] at hfirst
          omega
        · rintro rfl
          omega

/-! ## Searches -/

/-- The pattern stands between the two parts of the text, and nowhere earlier. -/
structure FirstBetween (pattern cs before after : List Char) : Prop where
  eq : cs = before ++ pattern ++ after
  le : ∀ earlier later, cs = earlier ++ pattern ++ later → before.length ≤ earlier.length

/-- What stands first in a text still does behind one more character, with which the
pattern does not begin to stand there. -/
theorem FirstBetween.cons
    {pattern cs before after : List Char} (h : FirstBetween pattern cs before after) {c : Char}
    (hhere : ¬pattern <+: c :: cs) : FirstBetween pattern (c :: cs) (c :: before) after where
  eq := congrArg (c :: ·) h.eq
  le := by
    intro earlier later hsplit
    cases earlier with
    | nil => exact absurd ⟨later, hsplit.symm⟩ hhere
    | cons c' earlier => exact Nat.succ_le_succ (h.le earlier later (List.cons.inj hsplit).2)

theorem firstBetween_nil (pattern after : List Char) :
    FirstBetween pattern (pattern ++ after) [] after :=
  ⟨rfl, fun _ _ _ => Nat.zero_le _⟩

/-- The offset at which a pattern is found first. -/
def offset? (pattern : List Char) : List Char → Option Nat
  | [] => if pattern = [] then some 0 else none
  | c :: cs =>
    if pattern <+: c :: cs then some 0 else (offset? pattern cs).map (· + c.utf8Size)

/-- The first occurrence is found if there is one. -/
theorem offset?_cases (pattern cs : List Char) :
    (∃ before after, FirstBetween pattern cs before after ∧
        offset? pattern cs = some (utf8Len before)) ∨
      (¬pattern <:+: cs ∧ offset? pattern cs = none) := by
  induction cs with
  | nil =>
      by_cases hnil : pattern = []
      · subst hnil
        exact .inl ⟨[], [], firstBetween_nil [] [], rfl⟩
      · exact .inr ⟨by simpa using hnil, if_neg hnil⟩
  | cons c cs ih =>
      by_cases hhere : pattern <+: c :: cs
      · obtain ⟨after, hafter⟩ := hhere
        refine .inl ⟨[], after, ?_, if_pos ⟨after, hafter⟩⟩
        rw [← hafter]
        exact firstBetween_nil pattern after
      rcases ih with ⟨before, after, hfirst, hfound⟩ | ⟨hnone, hnotFound⟩
      · refine .inl ⟨c :: before, after, hfirst.cons hhere, ?_⟩
        simp [offset?, hhere, hfound, String.utf8Len_cons]
      · refine .inr ⟨?_, by simp [offset?, hhere, hnotFound]⟩
        rw [List.infix_cons_iff]
        exact not_or.mpr ⟨hhere, hnone⟩

/-- The offsets at which a pattern is found from left to right, where what it is found in
is not searched again: the next `skipped` characters are left out. -/
def offsets (pattern : List Char) : Nat → List Char → List Nat
  | _, [] => []
  | skipped + 1, c :: cs => (offsets pattern skipped cs).map (· + c.utf8Size)
  | 0, c :: cs =>
    if pattern <+: c :: cs then
      0 :: (offsets pattern (pattern.length - 1) cs).map (· + c.utf8Size)
    else (offsets pattern 0 cs).map (· + c.utf8Size)

/-- The pattern stands in the text with `n` bytes in front of it. -/
def OccursAt (pattern cs : List Char) (n : Nat) : Prop :=
  ∃ before after, cs = before ++ pattern ++ after ∧ n = utf8Len before

theorem occursAt_cons_iff {pattern cs : List Char} {c : Char} {n : Nat} :
    OccursAt pattern (c :: cs) n ↔
      (pattern <+: c :: cs ∧ n = 0) ∨ ∃ m, OccursAt pattern cs m ∧ m + c.utf8Size = n := by
  constructor
  · rintro ⟨before, after, hsplit, rfl⟩
    cases before with
    | nil => exact .inl ⟨⟨after, hsplit.symm⟩, rfl⟩
    | cons c' before =>
        obtain ⟨rfl, hrest⟩ := List.cons.inj hsplit
        exact .inr ⟨utf8Len before, ⟨before, after, hrest, rfl⟩, rfl⟩
  · rintro (⟨⟨after, hafter⟩, rfl⟩ | ⟨m, ⟨before, after, rfl, rfl⟩, rfl⟩)
    · exact ⟨[], after, hafter.symm, rfl⟩
    · exact ⟨c :: before, after, rfl, rfl⟩

/-- No occurrence is missed if the first character of the pattern is none of the others:
the characters left out cannot begin one. -/
theorem mem_offsets_iff_occursAt
    {first : Char} {others : List Char} (h : first ∉ others) (skipped : Nat) (cs : List Char)
    (hskipped : first ∉ cs.take skipped) (n : Nat) :
    n ∈ offsets (first :: others) skipped cs ↔ OccursAt (first :: others) cs n := by
  induction cs generalizing skipped n with
  | nil =>
      have hnone : ¬OccursAt (first :: others) [] n := by
        rintro ⟨before, after, hsplit, -⟩
        simp at hsplit
      simpa [offsets] using hnone
  | cons c cs ih =>
      rw [occursAt_cons_iff]
      cases skipped with
      | succ skipped =>
          rw [List.take_succ_cons, List.mem_cons, not_or] at hskipped
          have hno : ¬first :: others <+: c :: cs := by
            rintro ⟨after, hafter⟩
            exact hskipped.1 (List.cons.inj hafter).1
          simp [offsets, hno, ih skipped hskipped.2]
      | zero =>
          by_cases hhere : first :: others <+: c :: cs
          · -- The rest of what was found is left out, and it does not hold the first character.
            have hothers : first ∉ cs.take others.length := by
              obtain ⟨after, hafter⟩ := hhere
              rw [← (List.cons.inj hafter).2]
              simpa using h
            simp [offsets, hhere, ih others.length hothers]
          · simp [offsets, hhere, ih 0 (by simp)]

/-- Occurrences are found in their order. -/
theorem pairwise_offsets (pattern : List Char) (skipped : Nat) (cs : List Char) :
    (offsets pattern skipped cs).Pairwise (· < ·) := by
  induction cs generalizing skipped with
  | nil => simp [offsets]
  | cons c cs ih =>
      have hshift (k : Nat) :
          ((offsets pattern k cs).map (· + c.utf8Size)).Pairwise (· < ·) := by
        refine (ih k).map _ ?_
        intro a b hab
        exact Nat.add_lt_add_right hab _
      cases skipped with
      | succ skipped => exact hshift skipped
      | zero =>
          unfold offsets
          split
          · refine List.pairwise_cons.mpr ⟨?_, hshift _⟩
            intro n hn
            obtain ⟨m, -, rfl⟩ := List.mem_map.mp hn
            exact Nat.add_pos_right m c.utf8Size_pos
          · exact hshift 0

/-- The shorter of two beginnings of a text takes no more bytes. -/
theorem length_le_of_utf8Len_le
    {before before' after after' : List Char} (h : before ++ after = before' ++ after')
    (hle : utf8Len before ≤ utf8Len before') : before.length ≤ before'.length := by
  rcases List.append_eq_append_iff.mp h with ⟨between, rfl, -⟩ | ⟨between, rfl, -⟩
  · simp
  · cases between with
    | nil => simp
    | cons c between =>
        rw [String.utf8Len_append, String.utf8Len_cons] at hle
        have hpos := c.utf8Size_pos
        omega

/-- A text is divided in one way only at an offset. -/
theorem append_inj_of_utf8Len_eq
    {before before' after after' : List Char} (h : before ++ after = before' ++ after')
    (heq : utf8Len before = utf8Len before') : before = before' ∧ after = after' := by
  refine List.append_inj h (le_antisymm ?_ ?_)
  · exact length_le_of_utf8Len_le h heq.le
  · exact length_le_of_utf8Len_le h.symm heq.ge

end Text
end BayeuxChat
