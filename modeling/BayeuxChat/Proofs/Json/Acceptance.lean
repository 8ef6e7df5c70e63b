import BayeuxChat.Json.Record
import Mathlib.Data.List.Perm.Basic

/-!
# What a record accepts

A record reads the members that a value has, wherever they stand in it: under their
names in an object, at their places in an array.  This file says once for all records
when that succeeds and what comes of it, so that nothing that is read by a record needs
a look at how the record goes about it.
-/

namespace BayeuxChat
namespace Json

/-! ## Members one by one -/

section

variable {κ : Type} (read : κ → Json → Except Fault Json)

/-- Whatever is found for one of the members is accepted as a value of its kind. -/
def Admitted (ms : List (Member κ)) (found : String → Option Json) : Prop :=
  ∀ m ∈ ms, ∀ v, found m.name = some v → ∃ w, read m.kind v = .ok w

/-- What a member is read as. -/
def Member.value? (m : Member κ) (found : String → Option Json) : Option Json :=
  (found m.name).bind fun v => (read m.kind v).toOption

/-- The members that are found, each as what it is read as. -/
def taken (ms : List (Member κ)) (found : String → Option Json) : Members :=
  ms.filterMap fun m => (m.value? read found).map fun w => (m.name, w)

end

section

variable {κ : Type} {read : κ → Json → Except Fault Json}

theorem admitted_congr
    {ms : List (Member κ)} {found found' : String → Option Json}
    (h : ∀ m ∈ ms, found m.name = found' m.name) :
    Admitted read ms found ↔ Admitted read ms found' := by
  constructor
  · intro hadmitted m hm v hv
    exact hadmitted m hm v ((h m hm).trans hv)
  · intro hadmitted m hm v hv
    exact hadmitted m hm v ((h m hm).symm.trans hv)

theorem admitted_cons_of_none
    {m : Member κ} {found : String → Option Json} (h : found m.name = none)
    (rest : List (Member κ)) :
    Admitted read (m :: rest) found ↔ Admitted read rest found := by
  simp [Admitted, h]

theorem admitted_cons_of_some
    {m : Member κ} {found : String → Option Json} {v w : Json}
    (hfound : found m.name = some v) (hread : read m.kind v = .ok w)
    (rest : List (Member κ)) :
    Admitted read (m :: rest) found ↔ Admitted read rest found := by
  simp [Admitted, hfound, hread]

theorem not_admitted_cons
    {m : Member κ} {found : String → Option Json} {v : Json} {fault : Fault}
    (hfound : found m.name = some v) (hread : read m.kind v = .error fault)
    (rest : List (Member κ)) :
    ¬Admitted read (m :: rest) found := by
  simp [Admitted, hfound, hread]

theorem taken_congr
    {ms : List (Member κ)} {found found' : String → Option Json}
    (h : ∀ m ∈ ms, found m.name = found' m.name) :
    taken read ms found = taken read ms found' := by
  apply List.filterMap_congr
  intro m hm
  simp [Member.value?, h m hm]

theorem taken_cons_of_none
    {m : Member κ} {found : String → Option Json} (h : found m.name = none)
    (rest : List (Member κ)) :
    taken read (m :: rest) found = taken read rest found := by
  simp [taken, Member.value?, h]

theorem taken_cons_of_some
    {m : Member κ} {found : String → Option Json} {v w : Json}
    (hfound : found m.name = some v) (hread : read m.kind v = .ok w)
    (rest : List (Member κ)) :
    taken read (m :: rest) found = (m.name, w) :: taken read rest found := by
  simp [taken, Member.value?, hfound, hread, Except.toOption]

theorem lookup_taken_of_notMem
    {ms : List (Member κ)} {name : String} (h : name ∉ ms.map (·.name))
    (found : String → Option Json) : (taken read ms found).lookup name = none := by
  rw [List.lookup_eq_none_iff]
  intro p hp
  obtain ⟨m, hm, hmember⟩ := List.mem_filterMap.mp hp
  obtain ⟨w, -, rfl⟩ := Option.map_eq_some_iff.mp hmember
  have hne : m.name ≠ name := by
    rintro rfl
    exact h (List.mem_map_of_mem hm)
  simpa using hne.symm

/-- Each member stands for what it is read as. -/
theorem lookup_taken
    {ms : List (Member κ)} (hnames : (ms.map (·.name)).Nodup)
    (found : String → Option Json) {m : Member κ} (hm : m ∈ ms) :
    (taken read ms found).lookup m.name = m.value? read found := by
  induction ms with
  | nil => cases hm
  | cons first rest ih =>
      obtain ⟨hfresh, hrest⟩ := List.nodup_cons.mp hnames
      have hhead : taken read (first :: rest) found =
          (first.value? read found).toList.map (fun w => (first.name, w)) ++
            taken read rest found := by
        cases hvalue : first.value? read found with
        | none => simp [taken, hvalue]
        | some w => simp [taken, hvalue]
      rw [hhead]
      rcases List.mem_cons.mp hm with rfl | hm
      · have hnone : (taken read rest found).lookup m.name = none :=
          lookup_taken_of_notMem hfresh found
        cases hvalue : m.value? read found with
        | none => simpa using hnone
        | some w => simp
      · have hne : m.name ≠ first.name := by
          intro heq
          exact hfresh (List.mem_map.mpr ⟨m, hm, heq⟩)
        rw [← ih hrest hm]
        cases first.value? read found with
        | none => simp
        | some w => simp [List.lookup_cons, beq_false_of_ne hne]

end

/-! ## Objects and arrays -/

namespace Record

variable {κ : Type} {read : κ → Json → Except Fault Json}

theorem perm_place (m : Member κ) (ms : List (Member κ)) : (place m ms).Perm (m :: ms) := by
  induction ms with
  | nil => exact List.Perm.refl _
  | cons other rest ih =>
      rw [place]
      split
      · exact List.Perm.refl _
      · exact (ih.cons other).trans (List.Perm.swap m other rest)

/-- The order of the names has all members in it, and nothing else. -/
theorem perm_byName (record : Record κ) : record.byName.Perm record.members := by
  rw [byName]
  induction record.members with
  | nil => exact List.Perm.refl _
  | cons m rest ih => exact (perm_place m _).trans (ih.cons m)

variable (read) in
theorem acceptNamed_cases (given : Members) (ms : List (Member κ)) :
    (Admitted read ms (given.lookup ·) ∧
      acceptNamed read given ms = .ok (taken read ms (given.lookup ·))) ∨
    (¬Admitted read ms (given.lookup ·) ∧
      ∃ fault, acceptNamed read given ms = .error fault) := by
  induction ms with
  | nil => exact .inl ⟨by simp [Admitted], rfl⟩
  | cons m rest ih =>
      cases hfound : given.lookup m.name with
      | none =>
          rw [admitted_cons_of_none hfound, taken_cons_of_none hfound]
          simpa [acceptNamed, hfound] using ih
      | some v =>
          cases hread : read m.kind v with
          | error fault =>
              refine .inr ⟨not_admitted_cons hfound hread rest, fault, ?_⟩
              simp [acceptNamed, hfound, hread, bind, Except.bind]
          | ok w =>
              rw [admitted_cons_of_some hfound hread, taken_cons_of_some hfound hread]
              rcases ih with ⟨hadmitted, hrest⟩ | ⟨hnot, fault, hrest⟩
              · refine .inl ⟨hadmitted, ?_⟩
                simp [acceptNamed, hfound, hread, hrest, bind, Except.bind, pure, Except.pure]
              · refine .inr ⟨hnot, fault, ?_⟩
                simp [acceptNamed, hfound, hread, hrest, bind, Except.bind]

/-- The items of an array are enough for the members and not too many. -/
def FitsItems (ms : List (Member κ)) (items : List Json) : Prop :=
  items.length ≤ ms.length ∧ ∀ m ∈ ms.drop items.length, m.presence = .defaulted

/-- An array has an item for every member that cannot be left out of it. -/
theorem FitsItems.lt_length
    {ms : List (Member κ)} {items : List Json} (h : FitsItems ms items) {i : Nat}
    (hi : i < ms.length) (hpresence : ms[i].presence ≠ .defaulted) : i < items.length := by
  by_contra hge
  apply hpresence
  apply h.2
  rw [List.mem_drop_iff_getElem]
  exact ⟨i - items.length, by omega, by congr 1; omega⟩

/-- The item at the place of the member with a given name. -/
def item? (ms : List (Member κ)) (items : List Json) (name : String) : Option Json :=
  ((ms.map (·.name)).zip items).lookup name

theorem item?_cons_of_mem
    {first m : Member κ} {rest : List (Member κ)} (hnames : ((first :: rest).map (·.name)).Nodup)
    (hm : m ∈ rest) (v : Json) (others : List Json) :
    item? (first :: rest) (v :: others) m.name = item? rest others m.name := by
  have hne : m.name ≠ first.name := by
    intro heq
    exact (List.nodup_cons.mp hnames).1 (List.mem_map.mpr ⟨m, hm, heq⟩)
  simp [item?, List.lookup_cons, beq_false_of_ne hne]

variable (read) in
theorem acceptItems_cases
    (record : Record κ) (length : Nat) {ms : List (Member κ)}
    (hnames : (ms.map (·.name)).Nodup) (items : List Json) :
    ((FitsItems ms items ∧ Admitted read ms (item? ms items)) ∧
      acceptItems read record length ms items = .ok (taken read ms (item? ms items))) ∨
    (¬(FitsItems ms items ∧ Admitted read ms (item? ms items)) ∧
      ∃ fault, acceptItems read record length ms items = .error fault) := by
  induction ms generalizing length items with
  | nil =>
      cases items with
      | nil => exact .inl ⟨⟨by simp [FitsItems], by simp [Admitted]⟩, rfl⟩
      | cons v others =>
          refine .inr ⟨by simp [FitsItems], ?_⟩
          exact ⟨_, rfl⟩
  | cons m rest ih =>
      have hrest : (rest.map (·.name)).Nodup := (List.nodup_cons.mp hnames).2
      cases items with
      | nil =>
          have hfound : item? (m :: rest) [] m.name = none := by
            simp [item?]
          have hnothing : item? (m :: rest) [] = item? rest [] := by
            funext name
            simp [item?]
          rw [admitted_cons_of_none hfound, taken_cons_of_none hfound, hnothing]
          by_cases hdefaulted : m.presence = .defaulted
          · have hfits : FitsItems (m :: rest) [] ↔ FitsItems rest [] := by
              simp [FitsItems, hdefaulted]
            rw [hfits]
            simpa [acceptItems, hdefaulted] using ih length hrest []
          · refine .inr ⟨?_, ?_⟩
            · rintro ⟨⟨-, hall⟩, -⟩
              exact hdefaulted (hall m List.mem_cons_self)
            · exact ⟨record.tooShort length, by simp [acceptItems, hdefaulted]⟩
      | cons v others =>
          have hfound : item? (m :: rest) (v :: others) m.name = some v := by
            simp [item?]
          have hothers : ∀ m' ∈ rest,
              item? (m :: rest) (v :: others) m'.name = item? rest others m'.name := by
            intro m' hm'
            exact item?_cons_of_mem hnames hm' v others
          have hfits : FitsItems (m :: rest) (v :: others) ↔ FitsItems rest others := by
            simp [FitsItems]
          cases hread : read m.kind v with
          | error fault =>
              refine .inr ⟨?_, fault, ?_⟩
              · rintro ⟨-, hadmitted⟩
                exact not_admitted_cons hfound hread rest hadmitted
              · simp [acceptItems, hread, bind, Except.bind]
          | ok w =>
              rw [hfits, admitted_cons_of_some hfound hread, admitted_congr hothers,
                taken_cons_of_some hfound hread, taken_congr hothers]
              rcases ih (length + 1) hrest others with ⟨hgood, hreads⟩ | ⟨hbad, fault, hrefused⟩
              · refine .inl ⟨hgood, ?_⟩
                simp [acceptItems, hread, hreads, bind, Except.bind, pure, Except.pure]
              · refine .inr ⟨hbad, fault, ?_⟩
                simp [acceptItems, hread, hrefused, bind, Except.bind]

/-! ## Values -/

/-- What stands in a value for the member with a given name. -/
def found? (record : Record κ) : Json → String → Option Json
  | .object given, name => given.lookup name
  | .array items, name => item? record.members items name
  | _, _ => none

/-- No member is missing that is required. -/
def IsComplete (record : Record κ) (given : Members) : Prop :=
  ∀ m ∈ record.members, m.presence = .required → (given.lookup m.name).isSome

/-- Whether a value has room for the members: it is an object in which none is missing
that is required, or an array of the right length. -/
def HasShape (record : Record κ) : Json → Prop
  | .object given => record.IsComplete given
  | .array items => FitsItems record.members items
  | _ => False

theorem complete_cases (record : Record κ) (given : Members) :
    (record.IsComplete given ∧ record.complete given = .ok given) ∨
      (¬record.IsComplete given ∧ ∃ fault, record.complete given = .error fault) := by
  rw [complete]
  split
  · next m hfind =>
    have hm := List.mem_of_find?_eq_some hfind
    have habsent := List.find?_some hfind
    simp only [Bool.and_eq_true, beq_iff_eq, Option.isNone_iff_eq_none] at habsent
    refine .inr ⟨?_, _, rfl⟩
    intro hcomplete
    have hpresent := hcomplete m hm habsent.1
    simp [habsent.2] at hpresent
  · next hfind =>
    refine .inl ⟨?_, rfl⟩
    intro m hm hrequired
    have hpresent := List.find?_eq_none.mp hfind m hm
    simpa [hrequired, Option.isSome_iff_ne_none] using hpresent

theorem isSome_value?_iff
    {ms : List (Member κ)} {found : String → Option Json} (h : Admitted read ms found)
    {m : Member κ} (hm : m ∈ ms) :
    (m.value? read found).isSome ↔ (found m.name).isSome := by
  cases hfound : found m.name with
  | none => simp [Member.value?, hfound]
  | some v =>
      obtain ⟨w, hw⟩ := h m hm v hfound
      simp [Member.value?, hfound, hw, Except.toOption]

variable (read) in
/-- What the record accepts: a value with room for the members, which are all of their
kinds as far as they are there. -/
def Accepts (record : Record κ) (v : Json) : Prop :=
  record.HasShape v ∧ Admitted read record.members (record.found? v)

variable (read) in
/-- Either the value is accepted, and each member is read where it is found, or there is
a fault. -/
def ReadsWell (record : Record κ) (v : Json) : Prop :=
  (record.Accepts read v ∧
    ∃ given, record.accept read v = .ok given ∧
      ∀ m ∈ record.members, given.lookup m.name = m.value? read (record.found? v)) ∨
  (¬record.Accepts read v ∧ ∃ fault, record.accept read v = .error fault)

theorem readsWell_object
    {record : Record κ} (hnames : (record.members.map (·.name)).Nodup) (present : Members) :
    record.ReadsWell read (.object present) := by
  have hmem : ∀ m, m ∈ record.byName ↔ m ∈ record.members := by
    intro m
    exact record.perm_byName.mem_iff
  have hnamed : (record.byName.map (·.name)).Nodup :=
    (record.perm_byName.map (·.name)).nodup_iff.mpr hnames
  have hall : Admitted read record.byName (present.lookup ·) ↔
      Admitted read record.members (present.lookup ·) := by
    simp only [Admitted, hmem]
  rcases acceptNamed_cases read present record.byName with
    ⟨hadmitted, hread⟩ | ⟨hnot, fault, hread⟩
  · have hlookup : ∀ m ∈ record.members,
        (taken read record.byName (present.lookup ·)).lookup m.name =
          m.value? read (present.lookup ·) := by
      intro m hm
      exact lookup_taken hnamed _ ((hmem m).mpr hm)
    -- What is missing in the object is just what is missing after reading.
    have hcomplete :
        record.IsComplete (taken read record.byName (present.lookup ·)) ↔
          record.IsComplete present := by
      apply forall₂_congr
      intro m hm
      rw [hlookup m hm, isSome_value?_iff (hall.mp hadmitted) hm]
    rcases complete_cases record (taken read record.byName (present.lookup ·)) with
      ⟨hyes, hgiven⟩ | ⟨hno, fault, hgiven⟩
    · refine .inl ⟨⟨hcomplete.mp hyes, hall.mp hadmitted⟩, _, ?_, hlookup⟩
      simp [accept, hread, hgiven, bind, Except.bind]
    · refine .inr ⟨fun haccepts => hno (hcomplete.mpr haccepts.1), fault, ?_⟩
      simp [accept, hread, hgiven, bind, Except.bind]
  · refine .inr ⟨fun haccepts => hnot (hall.mpr haccepts.2), fault, ?_⟩
    simp [accept, hread, bind, Except.bind]

theorem readsWell_array
    {record : Record κ} (hnames : (record.members.map (·.name)).Nodup) (items : List Json) :
    record.ReadsWell read (.array items) := by
  rcases acceptItems_cases read record 0 hnames items with
    ⟨haccepts, hread⟩ | ⟨hnot, hread⟩
  · refine .inl ⟨haccepts, _, hread, ?_⟩
    intro m hm
    exact lookup_taken hnames _ hm
  · exact .inr ⟨hnot, hread⟩

variable (read) in
/-- A record whose members have different names reads every value well. -/
theorem readsWell
    (record : Record κ) (hnames : (record.members.map (·.name)).Nodup) (v : Json) :
    record.ReadsWell read v := by
  cases v with
  | object present => exact readsWell_object hnames present
  | array items => exact readsWell_array hnames items
  | _ => exact .inr ⟨fun haccepts => haccepts.1, _, rfl⟩

theorem exists_accept_of_accepts
    {record : Record κ} (hnames : (record.members.map (·.name)).Nodup) {v : Json}
    (h : record.Accepts read v) :
    ∃ given, record.accept read v = .ok given ∧
      ∀ m ∈ record.members, given.lookup m.name = m.value? read (record.found? v) := by
  rcases readsWell read record hnames v with ⟨-, hgiven⟩ | ⟨hnot, -⟩
  · exact hgiven
  · exact absurd h hnot

theorem accepts_of_accept
    {record : Record κ} (hnames : (record.members.map (·.name)).Nodup) {v : Json}
    {given : Members} (h : record.accept read v = .ok given) : record.Accepts read v := by
  rcases readsWell read record hnames v with ⟨haccepts, -⟩ | ⟨-, fault, hfault⟩
  · exact haccepts
  · cases h.symm.trans hfault

end Record
end Json
end BayeuxChat
