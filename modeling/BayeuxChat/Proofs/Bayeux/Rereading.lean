import BayeuxChat.Bayeux.Message
import BayeuxChat.Bayeux.MetaEvent
import BayeuxChat.Proofs.Json.Acceptance
import BayeuxChat.Proofs.Json.Members

/-!
# Messages and events are read as they were written

A record that is written has at most one member for each name, and what stands there is
of the kind declared for it, so it is read member by member as what it is.  There is one
exception: data that is present but `null` is written as `null`, and reads as no data at
all.  What was read has no such data, so writing and reading it again changes nothing.
-/

namespace BayeuxChat

open Json

namespace Json

variable {κ : Type} {read : κ → Json → Except Fault Json}

/-- An object in which every member of the record is read as what it is gives back these
members, in whatever order they were written. -/
theorem Record.exists_accept_ofMembers
    {record : Record κ} {given : Members} (hnames : (record.members.map (·.name)).Nodup)
    (hgiven : (given.map Prod.fst).Nodup) (hcomplete : record.IsComplete given)
    (hfixed : ∀ m ∈ record.members, ∀ v, given.lookup m.name = some v → read m.kind v = .ok v) :
    ∃ got, record.accept read (ofMembers given) = .ok got ∧
      ∀ m ∈ record.members, got.lookup m.name = given.lookup m.name := by
  have hfound : record.found? (ofMembers given) = (given.lookup ·) := by
    funext name
    exact Members.lookup_ordered hgiven name
  have hshape : record.HasShape (ofMembers given) := by
    intro m hm hrequired
    rw [Members.lookup_ordered hgiven]
    exact hcomplete m hm hrequired
  have hadmitted : Admitted read record.members (record.found? (ofMembers given)) := by
    intro m hm v hv
    rw [hfound] at hv
    exact ⟨v, hfixed m hm v hv⟩
  obtain ⟨got, haccept, hgot⟩ := Record.exists_accept_of_accepts hnames ⟨hshape, hadmitted⟩
  refine ⟨got, haccept, ?_⟩
  intro m hm
  simp only [hgot m hm, Member.value?, hfound]
  cases hlookup : given.lookup m.name with
  | none => rfl
  | some v =>
      rw [Option.bind_some, hfixed m hm v hlookup]
      rfl

/-- A text that may be left out is of its kind if it is there. -/
theorem accept_optionalText
    {found : Option Json} {text : Option String} (h : found = text.map .string) :
    ∀ v, found = some v → Scalar.optionalText.accept v = .ok v := by
  intro v hv
  obtain ⟨s, -, rfl⟩ := Option.map_eq_some_iff.mp (h.symm.trans hv)
  rfl

theorem text?_of_lookup
    {given : Members} {name : String} {text : Option String}
    (h : given.lookup name = text.map .string) : given.text? name = text := by
  rw [Members.text?, h]
  cases text with
  | none => rfl
  | some s => rfl

end Json

/-! ## Messages -/

namespace Message

theorem nodup_record : (record.members.map (·.name)).Nodup := by
  decide

theorem nodup_toMembers (m : Message) : (m.toMembers.map Prod.fst).Nodup := by
  have hnames : (m.toMembers.map Prod.fst).Sublist ["channel", "data", "id", "clientId"] := by
    simp only [toMembers, List.map_append]
    exact (((Members.names_ofText?_sublist _ _).append
      (Members.names_ofValue?_sublist _ _)).append
      (Members.names_ofText?_sublist _ _)).append (Members.names_ofText?_sublist _ _)
  exact List.Sublist.nodup hnames (by decide)

/-- What is written for each of the members. -/
theorem lookup_toMembers (m : Message) :
    m.toMembers.lookup "channel" = some (.string m.channel) ∧
    m.toMembers.lookup "data" = m.data ∧
    m.toMembers.lookup "id" = m.id.map .string ∧
    m.toMembers.lookup "clientId" = m.clientId.map .string := by
  simp [toMembers, List.lookup_append, Members.lookup_ofText?, Members.lookup_ofValue?]

/-- Every member of a message is of its kind. -/
theorem accept_toMembers (m : Message) :
    ∀ member ∈ record.members, ∀ v, m.toMembers.lookup member.name = some v →
      member.kind.accept v = .ok v := by
  obtain ⟨hchannel, -, hid, hclientId⟩ := m.lookup_toMembers
  simp only [record, List.forall_mem_cons]
  refine ⟨?channel, ?data, ?id, ?clientId, by simp⟩
  case channel =>
    intro v hv
    obtain rfl := Option.some.inj (hchannel.symm.trans hv)
    rfl
  case data =>
    intro v _
    rfl
  case id => exact accept_optionalText hid
  case clientId => exact accept_optionalText hclientId

/-- A message is read as it was written, except that data that is `null` counts as none. -/
theorem ofJson_toJson (m : Message) :
    ofJson m.toJson =
      .ok { m with data := match m.data with | some .null => none | data => data } := by
  obtain ⟨hchannel, hdata, hid, hclientId⟩ := m.lookup_toMembers
  have hcomplete : record.IsComplete m.toMembers := by
    simp only [Record.IsComplete, record, List.forall_mem_cons, hchannel]
    simp
  obtain ⟨got, haccept, hgot⟩ :=
    Record.exists_accept_ofMembers nodup_record m.nodup_toMembers hcomplete m.accept_toMembers
  simp only [record, List.forall_mem_cons, hchannel, hdata, hid, hclientId] at hgot
  obtain ⟨hgotChannel, hgotData, hgotId, hgotClientId, -⟩ := hgot
  have htext : got.text? "channel" = some m.channel := text?_of_lookup hgotChannel
  have hmessage : ofMembers got =
      { m with data := match m.data with | some .null => none | data => data } := by
    rw [ofMembers, htext, text?_of_lookup hgotId, text?_of_lookup hgotClientId, Members.value?,
      hgotData]
    rfl
  rw [ofJson, toJson, haccept]
  exact congrArg Except.ok hmessage

/-- Data that is `null` is never read. -/
theorem data_of_ofJson {v : Json} {m : Message} (h : ofJson v = .ok m) : m.data ≠ some .null := by
  obtain ⟨given, -, rfl⟩ := exists_of_map_eq_ok h
  rw [ofMembers, Members.value?]
  split
  · nofun
  · next hnull => exact hnull

theorem ofJson_toJson_of_data {m : Message} (h : m.data ≠ some .null) :
    ofJson m.toJson = .ok m := by
  rw [ofJson_toJson]
  split
  · next hnull => exact absurd hnull h
  · rfl

end Message

/-! ## Events -/

namespace MetaReply

/-- A reply is of the form in which it is read. -/
theorem accept_toMembers (r : MetaReply) :
    record.accept Scalar.accept (.object r.toMembers) = .ok r.toMembers := by
  obtain ⟨clientId, error⟩ := r
  cases clientId <;> cases error <;> rfl

theorem ofMembers_toMembers (r : MetaReply) : ofMembers r.toMembers = r := by
  obtain ⟨clientId, error⟩ := r
  cases clientId <;> cases error <;> rfl

end MetaReply

namespace MetaEvent

theorem ofName_name (topic : MetaTopic) : MetaTopic.ofName topic.name = topic := by
  cases topic <;> rfl

theorem nodup_record : (record.members.map (·.name)).Nodup := by
  decide

/-- Every member of an event is of its kind; any word stands for a topic. -/
theorem accept_toMembers (e : MetaEvent) :
    ∀ member ∈ record.members, ∀ v, e.toMembers.lookup member.name = some v →
      member.kind.accept v = .ok v := by
  simp only [record, List.forall_mem_cons]
  refine ⟨?action, ?successful, ?response, by simp⟩
  case action =>
    rintro v ⟨⟩
    rfl
  case successful =>
    rintro v ⟨⟩
    rfl
  case response =>
    rintro v ⟨⟩
    rw [Kind.accept, e.reply.accept_toMembers]
    rfl

/-- An event is read as it was written. -/
theorem ofJson_toJson (e : MetaEvent) : ofJson e.toJson = .ok e := by
  have hgiven : (e.toMembers.map Prod.fst).Nodup := by
    simp [toMembers]
  have hcomplete : record.IsComplete e.toMembers := by
    simp only [Record.IsComplete, record, List.forall_mem_cons, toMembers]
    exact ⟨fun _ => rfl, fun _ => rfl, fun _ => rfl, by simp⟩
  obtain ⟨got, haccept, hgot⟩ :=
    Record.exists_accept_ofMembers nodup_record hgiven hcomplete e.accept_toMembers
  simp only [record, List.forall_mem_cons] at hgot
  obtain ⟨haction, hsuccessful, hresponse, -⟩ := hgot
  have htopic : got.text? "action" = some e.topic.name := text?_of_lookup haction
  have hflag : got.flag "successful" = e.successful := by
    rw [Members.flag, hsuccessful]
    rfl
  have hinner : got.inner "response" = e.reply.toMembers := by
    rw [Members.inner, hresponse]
    rfl
  have hevent : ofMembers got = e := by
    rw [ofMembers, htopic, hflag, hinner, Option.getD_some, ofName_name,
      MetaReply.ofMembers_toMembers]
  rw [ofJson, toJson, haccept]
  exact congrArg Except.ok hevent

end MetaEvent

/-- What goes over the wire survives being written again.  A message is read as it was
written unless its data is `null`, and then as the message without data; so a message that
was itself read, from whatever value, is reproduced.  An event about any topic is read as
it was written. -/
theorem messages_and_events_reread :
    (∀ m : Message, m.data ≠ some .null → Message.ofJson m.toJson = .ok m) ∧
    (∀ m : Message, m.data = some .null →
      Message.ofJson m.toJson = .ok { m with data := none }) ∧
    (∀ (v : Json) (m : Message), Message.ofJson v = .ok m → Message.ofJson m.toJson = .ok m) ∧
    (∀ e : MetaEvent, MetaEvent.ofJson e.toJson = .ok e) := by
  refine ⟨?_, ?_, ?_, ?_⟩
  · intro m hdata
    exact Message.ofJson_toJson_of_data hdata
  · intro m hdata
    rw [Message.ofJson_toJson, hdata]
  · intro v m hread
    exact Message.ofJson_toJson_of_data (Message.data_of_ofJson hread)
  · intro e
    exact e.ofJson_toJson

end BayeuxChat
