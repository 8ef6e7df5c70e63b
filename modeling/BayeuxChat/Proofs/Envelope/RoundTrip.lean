import BayeuxChat.Envelope
import BayeuxChat.Proofs.Json.Members
import Mathlib.Tactic.Tauto

/-!
# Envelopes on the way through a channel

What a user publishes comes back as data that has to be read again.  This file
shows that reading undoes writing in both flavors of room, up to the addressee,
which collapsing rooms do not carry.  The data holds nothing that reading would take
for granted: no member is `null` or `false`, and each that is there tells the envelope
from another one.
-/

namespace BayeuxChat

namespace Envelope

open Json

/-! ## Reading undoes writing -/

/-- What is left of an envelope once it was written and read in a room of the
given flavor. -/
def conveyed : Flavor → Envelope → Envelope
  | .collapsing, .chat sender text _ => .chat sender text none
  | _, envelope => envelope

/-- Reading the form of rooms with personal channels.  Only two words are known
as types, any other stands for chat. -/
theorem decode_personalData
    (sender : String) (text addressee kind : Option String) :
    decode .personal (personalData sender text addressee kind) =
      .ok (match kind with
        | some "join" => .join sender text
        | some "leave" => .leave sender text
        | _ => .chat sender text addressee) := by
  cases text <;> cases addressee <;> cases kind <;> rfl

/-- Reading the form of collapsing rooms. -/
theorem decode_collapsingData
    (sender : String) (text : Option String) (join leave : Bool) :
    decode .collapsing (collapsingData sender text join leave) =
      .ok (if join then .join sender text
        else if leave then .leave sender text
        else .chat sender text none) := by
  cases text <;> cases join <;> cases leave <;> rfl

/-- What is published can be read, and says what was meant. -/
theorem decode_encode (flavor : Flavor) (envelope : Envelope) :
    decode flavor (encode flavor envelope) =
      .ok (envelope.conveyed flavor) := by
  cases flavor with
  | personal =>
      cases envelope with
      | join user text => exact decode_personalData user text none (some "join")
      | leave user text => exact decode_personalData user text none (some "leave")
      | chat sender text addressee =>
          exact decode_personalData sender text addressee none
  | collapsing =>
      cases envelope with
      | join user text => exact decode_collapsingData user text true false
      | leave user text => exact decode_collapsingData user text false true
      | chat sender text addressee =>
          exact decode_collapsingData sender text false false

/-- What was read is conveyed as a whole. -/
theorem conveyed_of_decode
    {flavor : Flavor} {data : Json} {envelope : Envelope} (h : decode flavor data = .ok envelope) :
    envelope.conveyed flavor = envelope := by
  cases flavor with
  | personal => rfl
  | collapsing =>
      obtain ⟨given, -, henvelope⟩ := exists_of_map_eq_ok h
      rw [← henvelope, ofCollapsing]
      split
      · rfl
      · split
        · rfl
        · rfl

/-! ## The members of the data -/

theorem personalData_hasJust
    (sender : String) (text addressee kind : Option String) :
    (personalData sender text addressee kind).HasJust fun name =>
      name = "from" ∨ (name = "chat" ∧ text.isSome) ∨
        (name = "to" ∧ addressee.isSome) ∨ (name = "type" ∧ kind.isSome) := by
  refine ⟨_, rfl, ?_, ?_, ?_⟩
  · have hordered : ["chat", "from", "to", "type"].Pairwise (· < ·) := by decide
    refine Members.sorted_of_sublist ?_ hordered
    simp only [List.map_append]
    have hchat := Members.names_ofText?_sublist "chat" text
    have hfrom := Members.names_ofText?_sublist "from" (some sender)
    have hto := Members.names_ofText?_sublist "to" addressee
    have htype := Members.names_ofText?_sublist "type" kind
    exact ((hchat.append hfrom).append hto).append htype
  · intro name
    simp only [List.map_append, List.mem_append, Members.mem_names_ofText?, Option.isSome_some]
    tauto
  · intro p hp
    have htext : ∃ s, p.2 = .string s := by
      simp only [List.mem_append] at hp
      rcases hp with ((hp | hp) | hp) | hp
      all_goals exact Members.exists_text_of_mem_ofText? hp
    obtain ⟨s, hs⟩ := htext
    simp [hs]

theorem collapsingData_hasJust
    (sender : String) (text : Option String) (join leave : Bool) :
    (collapsingData sender text join leave).HasJust fun name =>
      name = "user" ∨ (name = "chat" ∧ text.isSome) ∨
        (name = "join" ∧ join) ∨ (name = "leave" ∧ leave) := by
  refine ⟨_, rfl, ?_, ?_, ?_⟩
  · have hordered : ["chat", "join", "leave", "user"].Pairwise (· < ·) := by decide
    refine Members.sorted_of_sublist ?_ hordered
    simp only [List.map_append]
    have hchat := Members.names_ofText?_sublist "chat" text
    have hjoin := Members.names_ofFlag_sublist "join" join
    have hleave := Members.names_ofFlag_sublist "leave" leave
    have huser := Members.names_ofText?_sublist "user" (some sender)
    exact ((hchat.append hjoin).append hleave).append huser
  · intro name
    simp only [List.map_append, List.mem_append, Members.mem_names_ofText?,
      Members.mem_names_ofFlag, Option.isSome_some]
    tauto
  · intro p hp
    simp only [List.mem_append] at hp
    rcases hp with ((hp | hp) | hp) | hp
    · obtain ⟨s, hs⟩ := Members.exists_text_of_mem_ofText? hp
      simp [hs]
    · simp [Members.eq_true_of_mem_ofFlag hp]
    · simp [Members.eq_true_of_mem_ofFlag hp]
    · obtain ⟨s, hs⟩ := Members.exists_text_of_mem_ofText? hp
      simp [hs]

/-- A name that stands in the data of an envelope: the one of the sender, the one of the
text if there is a text, and those that tell the envelope from one of another kind. -/
def HasName (flavor : Flavor) (envelope : Envelope) (name : String) : Prop :=
  match flavor with
  | .personal =>
    name = "from" ∨ (name = "chat" ∧ envelope.text.isSome) ∨
      (name = "to" ∧ ∃ sender text addressee, envelope = .chat sender text (some addressee)) ∨
      (name = "type" ∧ envelope.isAnnouncement)
  | .collapsing =>
    name = "user" ∨ (name = "chat" ∧ envelope.text.isSome) ∨
      (name = "join" ∧ ∃ user text, envelope = .join user text) ∨
      (name = "leave" ∧ ∃ user text, envelope = .leave user text)

theorem encode_hasJust (flavor : Flavor) (envelope : Envelope) :
    (encode flavor envelope).HasJust (envelope.HasName flavor) := by
  cases flavor with
  | personal =>
      cases envelope with
      | join user text =>
          apply (personalData_hasJust user text none (some "join")).congr
          simp [HasName, Envelope.text, isAnnouncement]
      | leave user text =>
          apply (personalData_hasJust user text none (some "leave")).congr
          simp [HasName, Envelope.text, isAnnouncement]
      | chat sender text addressee =>
          apply (personalData_hasJust sender text addressee none).congr
          simp [HasName, Envelope.text, isAnnouncement, Option.isSome_iff_exists]
  | collapsing =>
      cases envelope with
      | join user text =>
          apply (collapsingData_hasJust user text true false).congr
          simp [HasName, Envelope.text]
      | leave user text =>
          apply (collapsingData_hasJust user text false true).congr
          simp [HasName, Envelope.text]
      | chat sender text addressee =>
          apply (collapsingData_hasJust sender text false false).congr
          simp [HasName, Envelope.text]

/-- The data of every envelope can be read again in a room of its flavor, which yields
the envelope, in collapsing rooms without its addressee.  It is an object with just the
names that the envelope has there, none of them for `null` or `false`.  With personal
channels different envelopes have different data, and whatever data an envelope was
read from, the envelope's own data reads the same. -/
theorem encode_faithful (flavor : Flavor) (envelope : Envelope) :
    decode flavor (encode flavor envelope) = .ok (envelope.conveyed flavor) ∧
      (encode flavor envelope).HasJust (envelope.HasName flavor) ∧
      (∀ other, encode .personal envelope = encode .personal other → envelope = other) ∧
      ∀ data, decode flavor data = .ok envelope →
        decode flavor (encode flavor envelope) = .ok envelope := by
  refine ⟨decode_encode flavor envelope, encode_hasJust flavor envelope, ?_, ?_⟩
  · intro other hsame
    have hread : decode .personal (encode .personal other) = .ok envelope := by
      rw [← hsame]
      exact decode_encode .personal envelope
    rw [decode_encode] at hread
    exact (Except.ok.inj hread).symm
  · intro data hdata
    rw [decode_encode, conveyed_of_decode hdata]

end Envelope
end BayeuxChat
