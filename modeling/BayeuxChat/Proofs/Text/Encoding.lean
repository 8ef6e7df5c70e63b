import BayeuxChat.Proofs.Text.Offset

/-!
# Decoding bytes

The bytes of a text are those of its characters, one after the other.  A character whose
code is at most 127 is a single byte, and this byte is part of no other character.  So
where such bytes end a text, or stand in it, can be seen from the bytes alone.
-/

namespace BayeuxChat
namespace Text

/-- What is decoded is the one text that has these bytes. -/
theorem fromUTF8?_eq_some_iff {bytes : List UInt8} {s : String} :
    String.fromUTF8? ⟨bytes.toArray⟩ = some s ↔
      s.toList.flatMap String.utf8EncodeChar = bytes := by
  have hbytes : s.toByteArray.data.toList = s.toList.flatMap String.utf8EncodeChar := by
    rw [← bytes_ofList, String.ofList_toList]
    rfl
  rw [String.fromUTF8?, ← hbytes]
  constructor
  · intro h
    obtain ⟨hvalid, heq⟩ := Option.dite_none_right_eq_some.mp h
    rw [← Option.some.inj heq]
    rfl
  · rintro rfl
    exact dif_pos s.isValidUTF8

/-- A character that is not a single byte has no byte that is a character. -/
theorem lt_of_mem_utf8EncodeChar
    {c : Char} (h : 127 < c.toNat) {b : UInt8} (hb : b ∈ String.utf8EncodeChar c) :
    127 < b.toNat := by
  simp only [String.utf8EncodeChar, Char.toNat_val] at hb
  rw [if_neg (by omega)] at hb
  split at hb
  · simp only [List.mem_cons, List.not_mem_nil, or_false] at hb
    rcases hb with rfl | rfl <;> rw [UInt8.toNat_ofNat'] <;> omega
  · split at hb
    · simp only [List.mem_cons, List.not_mem_nil, or_false] at hb
      rcases hb with rfl | rfl | rfl <;> rw [UInt8.toNat_ofNat'] <;> omega
    · simp only [List.mem_cons, List.not_mem_nil, or_false] at hb
      rcases hb with rfl | rfl | rfl | rfl <;> rw [UInt8.toNat_ofNat'] <;> omega

/-- A single byte is the only byte of its character. -/
theorem utf8EncodeChar_of_le {c : Char} (h : c.toNat ≤ 127) :
    String.utf8EncodeChar c = [UInt8.ofNat c.toNat] :=
  if_pos h

theorem mem_flatMap_utf8EncodeChar
    {a : Char} (ha : a.toNat ≤ 127) {cs : List Char} (h : a ∈ cs) :
    UInt8.ofNat a.toNat ∈ cs.flatMap String.utf8EncodeChar := by
  refine List.mem_flatMap.mpr ⟨a, h, ?_⟩
  rw [utf8EncodeChar_of_le ha]
  exact List.mem_singleton_self _

theorem flatMap_utf8EncodeChar_concat {a : Char} (ha : a.toNat ≤ 127) (cs : List Char) :
    (cs ++ [a]).flatMap String.utf8EncodeChar =
      cs.flatMap String.utf8EncodeChar ++ [UInt8.ofNat a.toNat] := by
  rw [List.flatMap_append, List.flatMap_singleton, utf8EncodeChar_of_le ha]

/-- If the last byte is a character, then it is the last character. -/
theorem exists_concat_of_flatMap_utf8EncodeChar
    {a : Char} (ha : a.toNat ≤ 127) {cs : List Char} {bytes : List UInt8}
    (h : cs.flatMap String.utf8EncodeChar = bytes ++ [UInt8.ofNat a.toNat]) :
    ∃ before, cs = before ++ [a] ∧ before.flatMap String.utf8EncodeChar = bytes := by
  rcases List.eq_nil_or_concat cs with rfl | ⟨before, c, rfl⟩
  · simp at h
  rw [List.concat_eq_append] at h ⊢
  by_cases hc : c.toNat ≤ 127
  · rw [flatMap_utf8EncodeChar_concat hc] at h
    obtain ⟨hbefore, hlast⟩ := List.append_inj' h rfl
    have hca : c = a := (ofNat_toNat_eq_iff ha hc).mp (List.singleton_inj.mp hlast)
    exact ⟨before, by rw [hca], hbefore⟩
  · -- Then the last byte is one of a longer character's.
    exfalso
    have hne : String.utf8EncodeChar c ≠ [] := by
      intro hnil
      have hlength := String.length_utf8EncodeChar c
      rw [hnil, List.length_nil] at hlength
      have hpos := c.utf8Size_pos
      omega
    have hlast : UInt8.ofNat a.toNat ∈ String.utf8EncodeChar c := by
      have hgetLast := congrArg List.getLast? h
      rw [List.flatMap_append, List.flatMap_singleton, List.getLast?_append_of_ne_nil _ hne,
        List.getLast?_concat] at hgetLast
      exact List.mem_of_getLast? hgetLast
    have hlt := lt_of_mem_utf8EncodeChar (by omega) hlast
    rw [UInt8.toNat_ofNat'] at hlt
    omega

end Text
end BayeuxChat
