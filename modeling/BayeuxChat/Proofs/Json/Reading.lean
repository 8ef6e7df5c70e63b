import BayeuxChat.Json.RecordReader
import BayeuxChat.Proofs.Json.Members

/-!
# What is read of a record

A record that is read from a text has only members that it declares, and each of them is
what was read as a value of its kind.  So what the readers of the kinds guarantee holds
of every member, whether it stood under its name in an object or at its place in an
array.
-/

namespace BayeuxChat
namespace Json

/-- A sequence that succeeds has succeeded at each step. -/
theorem exists_of_bind_eq_ok
    {ε α β : Type} {read : Except ε α} {next : α → Except ε β} {made : β}
    (h : (read >>= next) = .ok made) : ∃ given, read = .ok given ∧ next given = .ok made := by
  cases read with
  | error fault => cases h
  | ok given => exact ⟨given, rfl, h⟩

namespace Record

section

variable {κ : Type} {record : Record κ} {P : Member κ → Json → Prop}

/-- Every member that is given is one that the record declares, with a value as it must
be for that member. -/
def Gives (record : Record κ) (P : Member κ → Json → Prop) (given : Members) : Prop :=
  ∀ p ∈ given, ∃ m ∈ record.members, p.1 = m.name ∧ P m p.2

/-- A member that the record does not declare is passed over. -/
theorem Gives.readMember
    {readKind : κ → Reader Json}
    (hread : ∀ m ∈ record.members, ∀ {cur v cur'}, readKind m.kind cur = .ok (v, cur') → P m v)
    {given given' : Members} {cur cur' : Cursor} (hgiven : record.Gives P given)
    (h : record.readMember readKind given cur = .ok (given', cur')) :
    record.Gives P given' := by
  rw [Record.readMember] at h
  obtain ⟨⟨name, behind⟩, -, h⟩ := exists_of_bind_eq_ok h
  cases hfound : record.members.find? (·.name == name) with
  | none =>
      simp only [hfound] at h
      obtain ⟨_, -, h⟩ := exists_of_bind_eq_ok h
      obtain ⟨_, -, h⟩ := exists_of_bind_eq_ok h
      obtain ⟨rfl, -⟩ := Prod.mk.inj (Except.ok.inj h)
      exact hgiven
  | some m =>
      simp only [hfound] at h
      split at h
      · cases h
      · obtain ⟨_, -, h⟩ := exists_of_bind_eq_ok h
        obtain ⟨⟨v, _⟩, hv, h⟩ := exists_of_bind_eq_ok h
        obtain ⟨rfl, -⟩ := Prod.mk.inj (Except.ok.inj h)
        have hm : m ∈ record.members := List.mem_of_find?_eq_some hfound
        have hname : m.name = name := by simpa using List.find?_some hfound
        intro p hp
        rw [List.mem_append, List.mem_singleton] at hp
        rcases hp with hp | rfl
        · exact hgiven p hp
        · exact ⟨m, hm, hname.symm, hread m hm hv⟩

end

end Record

/-! ## Texts and choices -/

end Json
end BayeuxChat
