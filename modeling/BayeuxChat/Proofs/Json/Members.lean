import BayeuxChat.Json.Basic

/-!
# Members that are left out

A member that says nothing is left out when an object is written: there is none for a
text that is absent and none for a mark that is not set.  What is written is in the order
of the names as long as the names that may occur are, and putting members into that order
does not change what stands for a name.
-/

namespace BayeuxChat
namespace Json

/-- What is made of members is made of some that were accepted. -/
theorem exists_of_map_eq_ok
    {ε α β : Type} {read : Except ε α} {make : α → β} {made : β} (h : read.map make = .ok made) :
    ∃ given, read = .ok given ∧ make given = made := by
  cases read with
  | error fault => cases h
  | ok given => exact ⟨given, rfl, Except.ok.inj h⟩

/-- The value is an object in which just the names in `names` stand, in their order and
each once, and none of them for `null` or `false`. -/
def HasJust (names : String → Prop) (v : Json) : Prop :=
  ∃ members, v = .object members ∧ Members.Sorted members ∧
    (∀ name, name ∈ members.map Prod.fst ↔ names name) ∧
    ∀ p ∈ members, p.2 ≠ .null ∧ p.2 ≠ .bool false

theorem HasJust.congr
    {names names' : String → Prop} {v : Json} (h : v.HasJust names)
    (hnames : ∀ name, names name ↔ names' name) : v.HasJust names' := by
  obtain ⟨members, hv, hsorted, hmem, hvalues⟩ := h
  exact ⟨members, hv, hsorted, fun name => (hmem name).trans (hnames name), hvalues⟩

namespace Members

/-- Members are in order if their names are some of those in an ordered list. -/
theorem sorted_of_sublist
    {members : Members} {names : List String}
    (h : (members.map Prod.fst).Sublist names) (hnames : names.Pairwise (· < ·)) :
    Sorted members :=
  List.pairwise_map.mp (hnames.sublist h)

theorem mem_names_ofText? (name other : String) (text : Option String) :
    other ∈ (ofText? name text).map Prod.fst ↔ other = name ∧ text.isSome := by
  cases text with
  | none => simp [ofText?]
  | some s => simp [ofText?]

theorem mem_names_ofFlag (name other : String) (flag : Bool) :
    other ∈ (ofFlag name flag).map Prod.fst ↔ other = name ∧ flag := by
  cases flag with
  | false => simp [ofFlag]
  | true => simp [ofFlag]

theorem names_ofText?_sublist (name : String) (text : Option String) :
    ((ofText? name text).map Prod.fst).Sublist [name] := by
  cases text with
  | none => exact List.nil_sublist _
  | some s => exact List.Sublist.refl _

theorem names_ofFlag_sublist (name : String) (flag : Bool) :
    ((ofFlag name flag).map Prod.fst).Sublist [name] := by
  cases flag with
  | false => exact List.nil_sublist _
  | true => exact List.Sublist.refl _

theorem exists_text_of_mem_ofText?
    {name : String} {text : Option String} {p : String × Json} (h : p ∈ ofText? name text) :
    ∃ s, p.2 = .string s := by
  cases text with
  | none => cases h
  | some s =>
      rw [ofText?, List.mem_singleton] at h
      exact ⟨s, congrArg Prod.snd h⟩

theorem eq_true_of_mem_ofFlag
    {name : String} {flag : Bool} {p : String × Json} (h : p ∈ ofFlag name flag) :
    p.2 = .bool true := by
  cases flag with
  | false => cases h
  | true =>
      rw [ofFlag, if_pos rfl, List.mem_singleton] at h
      exact congrArg Prod.snd h

theorem names_ofValue?_sublist (name : String) (value : Option Json) :
    ((ofValue? name value).map Prod.fst).Sublist [name] := by
  cases value with
  | none => exact List.nil_sublist _
  | some v => exact List.Sublist.refl _

/-! ## What stands for a name -/

theorem lookup_cons_eq_ite (name other : String) (value : Json) (rest : Members) :
    List.lookup other ((name, value) :: rest) =
      if other = name then some value else rest.lookup other := by
  rw [List.lookup_cons]
  by_cases h : other = name
  · rw [if_pos h, beq_iff_eq.mpr h]
  · rw [if_neg h, beq_false_of_ne h]

theorem lookup_ofText? (name other : String) (text : Option String) :
    (ofText? name text).lookup other = if other = name then text.map .string else none := by
  cases text with
  | none => simp [ofText?]
  | some s => rw [ofText?, lookup_cons_eq_ite]; rfl

theorem lookup_ofValue? (name other : String) (value : Option Json) :
    (ofValue? name value).lookup other = if other = name then value else none := by
  cases value with
  | none => simp [ofValue?]
  | some v => rw [ofValue?, lookup_cons_eq_ite]; rfl

/-- What is put in stands for its name, and nothing else changes. -/
theorem lookup_insert (name other : String) (value : Json) (members : Members) :
    (insert name value members).lookup other =
      if other = name then some value else members.lookup other := by
  induction members with
  | nil => rw [insert, lookup_cons_eq_ite]
  | cons head rest ih =>
      obtain ⟨first, present⟩ := head
      rw [insert]
      split
      · rw [lookup_cons_eq_ite]
      · split
        · next heq =>
          subst heq
          rw [lookup_cons_eq_ite, lookup_cons_eq_ite]
          split
          · rfl
          · rfl
        · next hne =>
          rw [lookup_cons_eq_ite, ih, lookup_cons_eq_ite]
          by_cases h : other = name
          · rw [if_pos h, if_pos h, if_neg (h ▸ hne)]
          · rw [if_neg h, if_neg h]

theorem lookup_eq_none_of_notMem
    {members : Members} {name : String} (h : name ∉ members.map Prod.fst) :
    members.lookup name = none := by
  rw [List.lookup_eq_none_iff]
  intro p hp
  have hne : name ≠ p.1 := by
    intro heq
    exact h (List.mem_map.mpr ⟨p, hp, heq.symm⟩)
  rwa [bne_iff_ne]

/-- Members with different names that are put in one after the other come before what was
there. -/
theorem lookup_foldl_insert
    {members : Members} (h : (members.map Prod.fst).Nodup) (name : String) (sofar : Members) :
    (members.foldl (fun sofar p => insert p.1 p.2 sofar) sofar).lookup name =
      (members.lookup name).or (sofar.lookup name) := by
  induction members generalizing sofar with
  | nil => rfl
  | cons head rest ih =>
      obtain ⟨first, value⟩ := head
      obtain ⟨hfresh, hrest⟩ := List.nodup_cons.mp h
      rw [List.foldl_cons, ih hrest, lookup_insert, lookup_cons_eq_ite]
      by_cases hname : name = first
      · subst hname
        rw [lookup_eq_none_of_notMem hfresh, if_pos rfl, if_pos rfl]
        rfl
      · rw [if_neg hname, if_neg hname]

/-- Putting members with different names into order does not change what they stand for. -/
theorem lookup_ordered
    {members : Members} (h : (members.map Prod.fst).Nodup) (name : String) :
    (ordered members).lookup name = members.lookup name :=
  (lookup_foldl_insert h name []).trans (by simp)

end Members
end Json
end BayeuxChat
