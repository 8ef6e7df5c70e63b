import BayeuxChat.Proofs.Room.CallGrammar
import BayeuxChat.Proofs.Settings.Channels

/-!
# Who hears what is said to one user

What is said to one user is published on that user's channel, and those hear it who
subscribed to the channel when they joined.  The addressee did, and nobody else with
one exception: what is said to a user by the name of `public`, whether there is one
or not, is published on the channel of everyone, and so everyone hears it.
-/

namespace BayeuxChat
namespace Settings

variable (s : Settings) (user : String) (listener : Listener)

theorem subscribe_mem_joinCalls_iff (channel : String) :
    Call.subscribe channel ∈ s.joinCalls user listener ↔ channel ∈ s.channelsOf user := by
  simp [joinCalls, ← map_channelsOf]

theorem subscribe_notMem_leaveCalls (channel : String) :
    Call.subscribe channel ∉ s.leaveCalls user listener := by
  simp [leaveCalls, ← map_channelsOf]

end Settings

namespace Room

theorem exists_calls_leave (room : Room Journal) :
    ∃ leaving, room.leave.transport.calls = room.transport.calls ++ leaving ∧
      ∀ channel, Call.subscribe channel ∉ leaving := by
  cases hsession : room.session with
  | none =>
      refine ⟨[], ?_, fun channel => List.not_mem_nil⟩
      rw [leave_of_none hsession, List.append_nil]
  | some session =>
      refine ⟨room.settings.leaveCalls session.user session.listener, ?_,
        room.settings.subscribe_notMem_leaveCalls session.user session.listener⟩
      rw [leave_over_journal hsession]
      rfl

/-- Whether or not somebody else has to leave first, a user who joins subscribes just to
the user's own channels. -/
theorem exists_calls_join (room : Room Journal) {name : String} (hname : checkUser name = .ok ()) :
    ∃ joining, (room.join name).room.transport.calls = room.transport.calls ++ joining ∧
      ∀ channel, Call.subscribe channel ∈ joining ↔ channel ∈ room.settings.channelsOf name := by
  obtain ⟨leaving, hleaving, hnone⟩ := exists_calls_leave room
  refine ⟨leaving ++ room.settings.joinCalls name ⟨room.leave.transport.nextListener⟩, ?_, ?_⟩
  · rw [join_of_ok room hname, ← List.append_assoc, ← hleaving, ← settings_leave room]
    exact congrArg (·.transport.calls) (enter_over_journal room.leave name)
  · intro channel
    rw [List.mem_append, Settings.subscribe_mem_joinCalls_iff]
    exact or_iff_right (hnone channel)

/-- What can be said to one user is published once, on that user's channel. -/
theorem calls_say_only
    {room : Room Journal} {text addressee : String}
    (hsay : (room.say text (.only addressee)).result = .ok ()) :
    room.settings.flavor = .personal ∧
      ∃ data, (room.say text (.only addressee)).room.transport.calls =
        room.transport.calls ++ [.publish (room.settings.channel (.only addressee)) data] := by
  rcases say_cases room text (.only addressee) with ⟨e, hfail⟩ | ⟨user, -, -, haudience, hsend⟩
  · rw [hfail] at hsay
    cases hsay
  · obtain ⟨hflavor, -⟩ := (checkAudience_only_eq_ok_iff _ addressee).mp haudience
    rw [hsend, send_room]
    exact ⟨hflavor, _, rfl⟩

/-- Whoever says something to one user makes one call, which publishes on a channel that
just the addressee subscribes to on joining a room of the same settings; but if the
addressee is called `public`, all do. -/
theorem subscribe_of_said_only
    {room : Room Journal} {text addressee : String}
    (hsay : (room.say text (.only addressee)).result = .ok ()) :
    ∃ channel data,
      (room.say text (.only addressee)).room.transport.calls =
        room.transport.calls ++ [.publish channel data] ∧
      ∀ (other : Room Journal) (name : String),
        other.settings = room.settings → checkUser name = .ok () →
        ∃ joining,
          (other.join name).room.transport.calls = other.transport.calls ++ joining ∧
          (Call.subscribe channel ∈ joining ↔ addressee = "public" ∨ addressee = name) := by
  obtain ⟨hflavor, data, hcalls⟩ := calls_say_only hsay
  refine ⟨room.settings.channel (.only addressee), data, hcalls, ?_⟩
  intro other name hsettings hname
  obtain ⟨joining, hjoining, hsubscribe⟩ := exists_calls_join other hname
  refine ⟨joining, hjoining, ?_⟩
  rw [hsubscribe, hsettings]
  exact Settings.channel_only_mem_channelsOf_iff hflavor addressee name

theorem subscribe_of_said_to_bob :
    let room := ((empty {} ({} : Journal)).join "alice").room
    (room.say "hi" (.only "bob")).result = .ok () ∧
      ∃ channel data,
        (room.say "hi" (.only "bob")).room.transport.calls =
          room.transport.calls ++ [.publish channel data] ∧
        ∀ (other : Room Journal) (name : String),
          other.settings = room.settings → checkUser name = .ok () →
          ∃ joining,
            (other.join name).room.transport.calls = other.transport.calls ++ joining ∧
            (Call.subscribe channel ∈ joining ↔ "bob" = "public" ∨ "bob" = name) := by
  intro room
  have hsay : (room.say "hi" (.only "bob")).result = .ok () := rfl
  exact ⟨hsay, subscribe_of_said_only hsay⟩

/-- What Alice says to a user called `public` is published on a channel that Bob
subscribes to. -/
theorem bob_subscribes_of_said_to_public :
    let room := ((empty {} ({} : Journal)).join "alice").room
    let said := room.say "hi" (.only "public")
    let joined := (empty {} ({} : Journal)).join "bob"
    said.result = .ok () ∧ joined.result = .ok () ∧ "bob" ≠ "public" ∧
      ∃ channel data,
        said.room.transport.calls = room.transport.calls ++ [.publish channel data] ∧
        Call.subscribe channel ∈ joined.room.transport.calls := by
  intro room said joined
  have hname : checkUser "bob" = .ok () := rfl
  obtain ⟨joining, hjoining, hsubscribe⟩ := exists_calls_join (empty {} ({} : Journal)) hname
  refine ⟨rfl, rfl, by decide, "/chat/room0/public", _, rfl, ?_⟩
  rw [hjoining]
  apply List.mem_append_right
  rw [hsubscribe]
  decide

end Room
end BayeuxChat
