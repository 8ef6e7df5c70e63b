import BayeuxChat.ChatError
import BayeuxChat.Proofs.Json.Acceptance
import BayeuxChat.Proofs.Json.Members

/-!
# The format of envelopes

What data has to look like to be read as an envelope, said without the reader: the
object form and the array form of either flavor of room, and the envelope that each
stands for.  The reader accepts just this format, and a message with any other data is a
bad one.
-/

namespace BayeuxChat
namespace Envelope

open Json

/-! ## Fields -/

/-- What is found for a field states an optional text: nothing or `null` stands for
none. -/
inductive StatesText : Option Json → Option String → Prop
  | absent : StatesText none none
  | null : StatesText (some .null) none
  | text (s : String) : StatesText (some (.string s)) (some s)

/-- What is found for a field states a truth value, which is `false` if nothing is
found. -/
inductive StatesFlag : Option Json → Bool → Prop
  | absent : StatesFlag none false
  | flag (b : Bool) : StatesFlag (some (.bool b)) b

/-- What the data of a message states in a room with personal channels. -/
structure PersonalContent where
  sender : Option String
  text : Option String
  addressee : Option String
  kind : Option String

/-- What the data of a message states in a collapsing room. -/
structure CollapsingContent where
  sender : Option String
  text : Option String
  join : Bool
  leave : Bool

/-- The data is an object in which nothing but texts and `null` stands for the four
fields, or an array of four such items. -/
inductive PersonalForm : Json → PersonalContent → Prop
  | object {members : Members} {c : PersonalContent} :
      StatesText (members.lookup "from") c.sender →
      StatesText (members.lookup "chat") c.text →
      StatesText (members.lookup "to") c.addressee →
      StatesText (members.lookup "type") c.kind →
      PersonalForm (.object members) c
  | array {sender text addressee kind : Json} {c : PersonalContent} :
      StatesText (some sender) c.sender →
      StatesText (some text) c.text →
      StatesText (some addressee) c.addressee →
      StatesText (some kind) c.kind →
      PersonalForm (.array [sender, text, addressee, kind]) c

/-- The data is an object in which nothing but texts and `null` stands for the sender
and the text and nothing but truth values for the two marks, or an array of such items,
in which the marks may be left out from the end. -/
inductive CollapsingForm : Json → CollapsingContent → Prop
  | object {members : Members} {c : CollapsingContent} :
      StatesText (members.lookup "user") c.sender →
      StatesText (members.lookup "chat") c.text →
      StatesFlag (members.lookup "join") c.join →
      StatesFlag (members.lookup "leave") c.leave →
      CollapsingForm (.object members) c
  | array {sender text : Json} {marks : List Json} {c : CollapsingContent} :
      marks.length ≤ 2 →
      StatesText (some sender) c.sender →
      StatesText (some text) c.text →
      StatesFlag marks[0]? c.join →
      StatesFlag marks[1]? c.leave →
      CollapsingForm (.array (sender :: text :: marks)) c

/-- The envelope that is meant.  Only two types are known, any other stands for chat. -/
def PersonalContent.envelope (c : PersonalContent) : Envelope :=
  if c.kind = some "join" then .join (c.sender.getD "") c.text
  else if c.kind = some "leave" then .leave (c.sender.getD "") c.text
  else .chat (c.sender.getD "") c.text c.addressee

/-- The envelope that is meant.  A mark for joining counts before one for leaving. -/
def CollapsingContent.envelope (c : CollapsingContent) : Envelope :=
  if c.join then .join (c.sender.getD "") c.text
  else if c.leave then .leave (c.sender.getD "") c.text
  else .chat (c.sender.getD "") c.text none

/-! ## What is found -/

theorem hasShape_personal_array_iff (items : List Json) :
    personalRecord.HasShape (.array items) ↔ items.length = 4 := by
  constructor
  · intro hfits
    have hmost : items.length ≤ 4 := hfits.1
    have hleast : 3 < items.length := hfits.lt_length (by decide) (by decide)
    omega
  · intro hlength
    refine ⟨Nat.le_of_eq hlength, ?_⟩
    rw [hlength]
    decide

theorem hasShape_collapsing_array_iff (items : List Json) :
    collapsingRecord.HasShape (.array items) ↔ 1 < items.length ∧ items.length ≤ 4 := by
  constructor
  · intro hfits
    exact ⟨hfits.lt_length (by decide) (by decide), hfits.1⟩
  · rintro ⟨hleast, hmost⟩
    have hmarks : ∀ m ∈ collapsingRecord.members.drop 2, m.presence = .defaulted := by
      decide
    refine ⟨hmost, ?_⟩
    intro m hm
    exact hmarks m (List.drop_subset_drop_left collapsingRecord.members hleast hm)

theorem personalForm_iff (data : Json) (c : PersonalContent) :
    PersonalForm data c ↔
      personalRecord.HasShape data ∧
        StatesText (personalRecord.found? data "from") c.sender ∧
        StatesText (personalRecord.found? data "chat") c.text ∧
        StatesText (personalRecord.found? data "to") c.addressee ∧
        StatesText (personalRecord.found? data "type") c.kind := by
  constructor
  · rintro (⟨hsender, htext, haddressee, hkind⟩ | ⟨hsender, htext, haddressee, hkind⟩)
    · refine ⟨?_, hsender, htext, haddressee, hkind⟩
      simp [Record.HasShape, Record.IsComplete, personalRecord]
    · refine ⟨?_, hsender, htext, haddressee, hkind⟩
      exact (hasShape_personal_array_iff _).mpr rfl
  · rintro ⟨hshape, hsender, htext, haddressee, hkind⟩
    cases data with
    | object members => exact .object hsender htext haddressee hkind
    | array items =>
        match items, (hasShape_personal_array_iff items).mp hshape with
        | [_, _, _, _], _ => exact .array hsender htext haddressee hkind
    | _ => exact hshape.elim

theorem collapsingForm_iff (data : Json) (c : CollapsingContent) :
    CollapsingForm data c ↔
      collapsingRecord.HasShape data ∧
        StatesText (collapsingRecord.found? data "user") c.sender ∧
        StatesText (collapsingRecord.found? data "chat") c.text ∧
        StatesFlag (collapsingRecord.found? data "join") c.join ∧
        StatesFlag (collapsingRecord.found? data "leave") c.leave := by
  have hjoinMark : ∀ (sender text : Json) (marks : List Json),
      collapsingRecord.found? (.array (sender :: text :: marks)) "join" = marks[0]? := by
    intro sender text marks
    cases marks <;> rfl
  have hleaveMark : ∀ (sender text : Json) (marks : List Json),
      collapsingRecord.found? (.array (sender :: text :: marks)) "leave" = marks[1]? := by
    intro sender text marks
    match marks with
    | [] => rfl
    | [_] => rfl
    | _ :: _ :: _ => rfl
  constructor
  · rintro (⟨hsender, htext, hjoin, hleave⟩ | ⟨hmarks, hsender, htext, hjoin, hleave⟩)
    · refine ⟨?_, hsender, htext, hjoin, hleave⟩
      simp [Record.HasShape, Record.IsComplete, collapsingRecord]
    · rw [hjoinMark, hleaveMark]
      refine ⟨?_, hsender, htext, hjoin, hleave⟩
      apply (hasShape_collapsing_array_iff _).mpr
      rw [List.length_cons, List.length_cons]
      constructor
      · omega
      · omega
  · rintro ⟨hshape, hsender, htext, hjoin, hleave⟩
    cases data with
    | object members => exact .object hsender htext hjoin hleave
    | array items =>
        obtain ⟨hleast, hmost⟩ := (hasShape_collapsing_array_iff items).mp hshape
        match items, hleast with
        | _ :: _ :: marks, _ =>
            have hmarks : marks.length ≤ 2 := by
              rw [List.length_cons, List.length_cons] at hmost
              omega
            rw [hjoinMark] at hjoin
            rw [hleaveMark] at hleave
            exact .array hmarks hsender htext hjoin hleave
    | _ => exact hshape.elim

/-! ## What is read -/

/-- What is found for a member that is an optional text is accepted just if it states
one. -/
theorem exists_accept_optionalText_iff (found : Option Json) :
    (∀ v, found = some v → ∃ w, Scalar.optionalText.accept v = .ok w) ↔
      ∃ text, StatesText found text := by
  constructor
  · intro h
    cases found with
    | none => exact ⟨none, .absent⟩
    | some v =>
        obtain ⟨w, hw⟩ := h v rfl
        cases v with
        | null => exact ⟨none, .null⟩
        | string s => exact ⟨some s, .text s⟩
        | _ => cases hw
  · rintro ⟨text, hstates⟩ v hv
    cases hstates with
    | absent => cases hv
    | null =>
        obtain rfl := Option.some.inj hv
        exact ⟨.null, rfl⟩
    | text s =>
        obtain rfl := Option.some.inj hv
        exact ⟨.string s, rfl⟩

theorem exists_accept_flag_iff (found : Option Json) :
    (∀ v, found = some v → ∃ w, Scalar.flag.accept v = .ok w) ↔
      ∃ b, StatesFlag found b := by
  constructor
  · intro h
    cases found with
    | none => exact ⟨false, .absent⟩
    | some v =>
        obtain ⟨w, hw⟩ := h v rfl
        cases v with
        | bool b => exact ⟨b, .flag b⟩
        | _ => cases hw
  · rintro ⟨b, hstates⟩ v hv
    cases hstates with
    | absent => cases hv
    | flag b =>
        obtain rfl := Option.some.inj hv
        exact ⟨.bool b, rfl⟩

theorem text?_eq
    {given : Members} {found : String → Option Json} {name : String} {presence : Presence}
    {text : Option String}
    (hlookup : given.lookup name =
      Member.value? Scalar.accept ⟨name, .optionalText, presence⟩ found)
    (hstates : StatesText (found name) text) :
    given.text? name = text := by
  rw [Members.text?, hlookup, Member.value?]
  cases hfound : found name with
  | none =>
      rw [hfound] at hstates
      cases hstates
      rfl
  | some v =>
      rw [hfound] at hstates
      cases hstates with
      | null => rfl
      | text s => rfl

theorem flag_eq
    {given : Members} {found : String → Option Json} {name : String} {presence : Presence}
    {b : Bool}
    (hlookup : given.lookup name = Member.value? Scalar.accept ⟨name, .flag, presence⟩ found)
    (hstates : StatesFlag (found name) b) :
    given.flag name = b := by
  rw [Members.flag, hlookup, Member.value?]
  cases hfound : found name with
  | none =>
      rw [hfound] at hstates
      cases hstates
      rfl
  | some v =>
      rw [hfound] at hstates
      cases hstates
      rfl

theorem accepts_personal_iff (data : Json) :
    personalRecord.Accepts Scalar.accept data ↔ ∃ c, PersonalForm data c := by
  constructor
  · rintro ⟨hshape, hadmitted⟩
    have hstates : ∀ name, ⟨name, .optionalText, .optional⟩ ∈ personalRecord.members →
        ∃ text, StatesText (personalRecord.found? data name) text := by
      intro name hm
      exact (exists_accept_optionalText_iff _).mp (hadmitted _ hm)
    obtain ⟨sender, hsender⟩ := hstates "from" (by simp [personalRecord])
    obtain ⟨text, htext⟩ := hstates "chat" (by simp [personalRecord])
    obtain ⟨addressee, haddressee⟩ := hstates "to" (by simp [personalRecord])
    obtain ⟨kind, hkind⟩ := hstates "type" (by simp [personalRecord])
    exact ⟨⟨sender, text, addressee, kind⟩,
      (personalForm_iff _ _).mpr ⟨hshape, hsender, htext, haddressee, hkind⟩⟩
  · rintro ⟨c, hform⟩
    obtain ⟨hshape, hsender, htext, haddressee, hkind⟩ := (personalForm_iff _ _).mp hform
    refine ⟨hshape, ?_⟩
    simp only [Admitted, personalRecord, List.forall_mem_cons, exists_accept_optionalText_iff]
    exact ⟨⟨_, hsender⟩, ⟨_, htext⟩, ⟨_, haddressee⟩, ⟨_, hkind⟩, by simp⟩

theorem accepts_collapsing_iff (data : Json) :
    collapsingRecord.Accepts Scalar.accept data ↔ ∃ c, CollapsingForm data c := by
  constructor
  · rintro ⟨hshape, hadmitted⟩
    have hstatesText : ∀ name, ⟨name, .optionalText, .optional⟩ ∈ collapsingRecord.members →
        ∃ text, StatesText (collapsingRecord.found? data name) text := by
      intro name hm
      exact (exists_accept_optionalText_iff _).mp (hadmitted _ hm)
    have hstatesFlag : ∀ name, ⟨name, .flag, .defaulted⟩ ∈ collapsingRecord.members →
        ∃ b, StatesFlag (collapsingRecord.found? data name) b := by
      intro name hm
      exact (exists_accept_flag_iff _).mp (hadmitted _ hm)
    obtain ⟨sender, hsender⟩ := hstatesText "user" (by simp [collapsingRecord])
    obtain ⟨text, htext⟩ := hstatesText "chat" (by simp [collapsingRecord])
    obtain ⟨join, hjoin⟩ := hstatesFlag "join" (by simp [collapsingRecord])
    obtain ⟨leave, hleave⟩ := hstatesFlag "leave" (by simp [collapsingRecord])
    exact ⟨⟨sender, text, join, leave⟩,
      (collapsingForm_iff _ _).mpr ⟨hshape, hsender, htext, hjoin, hleave⟩⟩
  · rintro ⟨c, hform⟩
    obtain ⟨hshape, hsender, htext, hjoin, hleave⟩ := (collapsingForm_iff _ _).mp hform
    refine ⟨hshape, ?_⟩
    simp only [Admitted, collapsingRecord, List.forall_mem_cons, exists_accept_optionalText_iff,
      exists_accept_flag_iff]
    exact ⟨⟨_, hsender⟩, ⟨_, htext⟩, ⟨_, hjoin⟩, ⟨_, hleave⟩, by simp⟩

theorem ofPersonal_eq
    {given : Members} {c : PersonalContent}
    (hsender : given.text? "from" = c.sender) (htext : given.text? "chat" = c.text)
    (haddressee : given.text? "to" = c.addressee) (hkind : given.text? "type" = c.kind) :
    ofPersonal given = c.envelope := by
  rw [ofPersonal, hsender, htext, haddressee, hkind, PersonalContent.envelope]
  split
  · next hjoin => rw [if_pos hjoin]
  · next hleave => simp [hleave]
  · next hjoin hleave => rw [if_neg hjoin, if_neg hleave]

theorem nodup_personal : (personalRecord.members.map (·.name)).Nodup := by
  decide

theorem nodup_collapsing : (collapsingRecord.members.map (·.name)).Nodup := by
  decide

theorem decode_of_personalForm {data : Json} {c : PersonalContent} (h : PersonalForm data c) :
    decode .personal data = .ok c.envelope := by
  have haccepts := (accepts_personal_iff data).mpr ⟨c, h⟩
  obtain ⟨given, hgiven, hlookup⟩ := Record.exists_accept_of_accepts nodup_personal haccepts
  have hread : ∀ name text, ⟨name, .optionalText, .optional⟩ ∈ personalRecord.members →
      StatesText (personalRecord.found? data name) text → given.text? name = text := by
    intro name text hm hstates
    exact text?_eq (hlookup _ hm) hstates
  obtain ⟨-, hsender, htext, haddressee, hkind⟩ := (personalForm_iff _ _).mp h
  have henvelope : ofPersonal given = c.envelope :=
    ofPersonal_eq (hread "from" _ (by simp [personalRecord]) hsender)
      (hread "chat" _ (by simp [personalRecord]) htext)
      (hread "to" _ (by simp [personalRecord]) haddressee)
      (hread "type" _ (by simp [personalRecord]) hkind)
  rw [decode, hgiven, ← henvelope]
  rfl

theorem decode_of_collapsingForm
    {data : Json} {c : CollapsingContent} (h : CollapsingForm data c) :
    decode .collapsing data = .ok c.envelope := by
  have haccepts := (accepts_collapsing_iff data).mpr ⟨c, h⟩
  obtain ⟨given, hgiven, hlookup⟩ := Record.exists_accept_of_accepts nodup_collapsing haccepts
  have hread : ∀ name text, ⟨name, .optionalText, .optional⟩ ∈ collapsingRecord.members →
      StatesText (collapsingRecord.found? data name) text → given.text? name = text := by
    intro name text hm hstates
    exact text?_eq (hlookup _ hm) hstates
  have hmark : ∀ name b, ⟨name, .flag, .defaulted⟩ ∈ collapsingRecord.members →
      StatesFlag (collapsingRecord.found? data name) b → given.flag name = b := by
    intro name b hm hstates
    exact flag_eq (hlookup _ hm) hstates
  obtain ⟨-, hsender, htext, hjoin, hleave⟩ := (collapsingForm_iff _ _).mp h
  have henvelope : ofCollapsing given = c.envelope := by
    rw [ofCollapsing, CollapsingContent.envelope,
      hread "user" _ (by simp [collapsingRecord]) hsender,
      hread "chat" _ (by simp [collapsingRecord]) htext,
      hmark "join" _ (by simp [collapsingRecord]) hjoin,
      hmark "leave" _ (by simp [collapsingRecord]) hleave]
  rw [decode, hgiven, ← henvelope]
  rfl

theorem exists_personalForm_of_decode
    {data : Json} {e : Envelope} (h : decode .personal data = .ok e) :
    ∃ c, PersonalForm data c := by
  obtain ⟨given, hgiven, -⟩ := exists_of_map_eq_ok h
  exact (accepts_personal_iff data).mp (Record.accepts_of_accept nodup_personal hgiven)

theorem exists_collapsingForm_of_decode
    {data : Json} {e : Envelope} (h : decode .collapsing data = .ok e) :
    ∃ c, CollapsingForm data c := by
  obtain ⟨given, hgiven, -⟩ := exists_of_map_eq_ok h
  exact (accepts_collapsing_iff data).mp (Record.accepts_of_accept nodup_collapsing hgiven)

/-- Data is read as an envelope just if it has one of the two forms of the room's
flavor, and the envelope is the one that is meant by what the four fields state.  Any
other data makes a bad message of every message that carries it. -/
theorem decode_exactly (data : Json) :
    (∀ e, decode .personal data = .ok e ↔ ∃ c, PersonalForm data c ∧ e = c.envelope) ∧
      (∀ e, decode .collapsing data = .ok e ↔
        ∃ c, CollapsingForm data c ∧ e = c.envelope) ∧
      ∀ flavor, (∀ e, decode flavor data ≠ .ok e) →
        ∃ fault, decode flavor data = .error fault ∧
          ∀ m : Message, m.data = some data →
            ofMessage flavor m = .error (.badMessage (.malformed (.ofFault fault))) := by
  refine ⟨?_, ?_, ?_⟩
  · intro e
    constructor
    · intro hdecode
      obtain ⟨c, hform⟩ := exists_personalForm_of_decode hdecode
      have hsame := hdecode.symm.trans (decode_of_personalForm hform)
      exact ⟨c, hform, Except.ok.inj hsame⟩
    · rintro ⟨c, hform, rfl⟩
      exact decode_of_personalForm hform
  · intro e
    constructor
    · intro hdecode
      obtain ⟨c, hform⟩ := exists_collapsingForm_of_decode hdecode
      have hsame := hdecode.symm.trans (decode_of_collapsingForm hform)
      exact ⟨c, hform, Except.ok.inj hsame⟩
    · rintro ⟨c, hform, rfl⟩
      exact decode_of_collapsingForm hform
  · intro flavor hnone
    cases hdecode : decode flavor data with
    | ok e => exact absurd hdecode (hnone e)
    | error fault =>
        refine ⟨fault, rfl, ?_⟩
        intro m hdata
        rw [ofMessage, hdata]
        simp only [hdecode]
        rfl

end Envelope
end BayeuxChat
