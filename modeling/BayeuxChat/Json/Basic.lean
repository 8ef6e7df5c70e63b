import BayeuxChat.Decimal.Layout
import BayeuxChat.Text.Numeral

/-!
# JSON values

A JSON value is a tree.  Numbers are integers or floating-point numbers and are
never converted into one another.  The members of an object are a list of names
and values; an object built by `Members.insert` has its names in increasing
order of code points, each once (`pairwise_insert`), and then two objects are
equal just when they have the same members.
-/

namespace BayeuxChat

inductive Number where
  | integer (n : Int)
  | float (x : Float)
  deriving DecidableEq, Inhabited

/-- Floating-point numbers are written in plain form from `10 ^ -5` up to, but
not including, `10 ^ 16`. -/
def Number.layout : Decimal.Layout :=
  { leastPlain := -5, leastScientific := 16 }

/-- The text of a number; what is not finite has no numeral and becomes `null`. -/
def Number.text : Number → String
  | .integer n => Text.signedDecimal n
  | .float x => (Number.layout.text? x).getD "null"

inductive Json where
  | null
  | bool (b : Bool)
  | number (n : Number)
  | string (s : String)
  | array (items : List Json)
  | object (members : List (String × Json))
  deriving Inhabited

namespace Json

abbrev Members := List (String × Json)

/-- The members with `name` standing for `value`, in its place among the names. -/
def Members.insert (name : String) (value : Json) : Members → Members
  | [] => [(name, value)]
  | (other, present) :: rest =>
    if name < other then (name, value) :: (other, present) :: rest
    else if name = other then (name, value) :: rest
    else (other, present) :: Members.insert name value rest

/-- The same members in increasing order of their names; of several with one
name the last counts. -/
def Members.ordered (members : Members) : Members :=
  members.foldl (fun sofar (name, value) => Members.insert name value sofar) []

def ofMembers (members : Members) : Json :=
  .object (Members.ordered members)

/-- The member `name` with a text, if there is one. -/
def Members.ofText? (name : String) : Option String → Members
  | none => []
  | some s => [(name, .string s)]

/-- The member `name`, present just when it is true. -/
def Members.ofFlag (name : String) (flag : Bool) : Members :=
  if flag then [(name, .bool true)] else []

/-- The member `name` with a value, if there is one. -/
def Members.ofValue? (name : String) : Option Json → Members
  | none => []
  | some v => [(name, v)]

/-- The text that stands for `name`, if it is one. -/
def Members.text? (members : Members) (name : String) : Option String :=
  match members.lookup name with
  | some (.string s) => some s
  | _ => none

/-- The truth value that stands for `name`, with `false` for anything else. -/
def Members.flag (members : Members) (name : String) : Bool :=
  match members.lookup name with
  | some (.bool b) => b
  | _ => false

/-- The value that stands for `name`, where `null` counts as none. -/
def Members.value? (members : Members) (name : String) : Option Json :=
  match members.lookup name with
  | some .null => none
  | found => found

/-- The members of the object that stands for `name`. -/
def Members.inner (members : Members) (name : String) : Members :=
  match members.lookup name with
  | some (.object inner) => inner
  | _ => []

/-- Names in increasing order, each once. -/
def Members.Sorted (members : Members) : Prop :=
  members.Pairwise fun a b => a.1 < b.1

/-- The names after an insertion are those before it and the inserted one. -/
theorem mem_map_fst_insert (name other : String) (value : Json) (members : Members)
    (h : other ∈ (Members.insert name value members).map Prod.fst) :
    other = name ∨ other ∈ members.map Prod.fst := by
  induction members with
  | nil => simpa [Members.insert] using h
  | cons head rest ih =>
    obtain ⟨first, present⟩ := head
    simp only [Members.insert] at h
    split at h
    · simpa using h
    · split at h
      · next heq =>
        subst heq
        simp only [List.map_cons, List.mem_cons] at h ⊢
        rcases h with h | h
        · exact .inl h
        · exact .inr (.inr h)
      · simp only [List.map_cons, List.mem_cons] at h ⊢
        rcases h with h | h
        · exact .inr (.inl h)
        · rcases ih h with h | h
          · exact .inl h
          · exact .inr (.inr h)

theorem pairwise_insert (name : String) (value : Json) (members : Members)
    (h : Members.Sorted members) : Members.Sorted (Members.insert name value members) := by
  induction members with
  | nil => simp [Members.insert, Members.Sorted]
  | cons head rest ih =>
    obtain ⟨first, present⟩ := head
    simp only [Members.Sorted, List.pairwise_cons] at h ih
    obtain ⟨hfirst, hrest⟩ := h
    simp only [Members.insert]
    split
    · next hlt =>
      simp only [Members.Sorted, List.pairwise_cons, List.mem_cons]
      refine ⟨?_, hfirst, hrest⟩
      rintro p (rfl | hp)
      · exact hlt
      · exact String.lt_trans hlt (hfirst p hp)
    · next hnlt =>
      split
      · next heq =>
        subst heq
        exact List.pairwise_cons.2 ⟨hfirst, hrest⟩
      · next hne =>
        refine List.pairwise_cons.2 ⟨?_, ih hrest⟩
        intro p hp
        have hname := mem_map_fst_insert name p.1 value rest (List.mem_map_of_mem hp)
        rcases hname with heq | hmem
        · simp only [heq]
          exact Std.lt_of_le_of_ne (String.not_lt.1 hnlt) (Ne.symm hne)
        · obtain ⟨q, hq, hqp⟩ := List.mem_map.1 hmem
          exact hqp ▸ hfirst q hq

/-- The members of an object that was built from a list are sorted. -/
theorem sorted_ordered (members : Members) : Members.Sorted (Members.ordered members) := by
  have general : ∀ (rest sofar : Members), Members.Sorted sofar →
      Members.Sorted (rest.foldl (fun sofar (name, value) =>
        Members.insert name value sofar) sofar) := by
    intro rest
    induction rest with
    | nil => intro sofar h; exact h
    | cons head rest ih => intro sofar h; exact ih _ (pairwise_insert _ _ _ h)
  exact general members [] List.Pairwise.nil

end Json
end BayeuxChat
