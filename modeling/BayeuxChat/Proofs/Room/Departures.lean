import BayeuxChat.Proofs.Envelope.RoundTrip
import BayeuxChat.Proofs.Room.CallGrammar
import BayeuxChat.Proofs.Room.Delivery
import BayeuxChat.Proofs.Transport.Recording

/-!
# Departures are announced

Whoever has joined is in the room until a departure is announced under the same name,
be it because the user leaves or joins again, or because the connection is lost.  So the
guests whose departure was announced, and then the one who is still there, are all who
have ever joined, in order.
-/

namespace BayeuxChat

/-- The channel and the user of the departure that the call announces, if it does. -/
def Call.departure? (flavor : Flavor) : Call → Option (String × String)
  | .publish channel data =>
    match Envelope.decode flavor data with
    | .ok (.leave user _) => some (channel, user)
    | _ => none
  | _ => none

/-- The departures that are announced by calls, in order. -/
def Call.departures (flavor : Flavor) (calls : List Call) : List (String × String) :=
  calls.filterMap (Call.departure? flavor)

/-- The departure of a user as it is announced to everyone. -/
def Settings.departure (s : Settings) (user : String) : String × String :=
  (s.channel .everyone, user)

/-- The user who has joined by the step, if the step is a joining that succeeded. -/
def RoomStep.joined? (step : RoomStep) (result : Except ChatError Unit) : Option String :=
  match step, result with
  | .join name, .ok () => some name
  | _, _ => none

/-! ## Announcements among the calls -/

namespace Call

@[simp] theorem departures_append (flavor : Flavor) (calls more : List Call) :
    departures flavor (calls ++ more) = departures flavor calls ++ departures flavor more :=
  List.filterMap_append

theorem departure?_publish_leave (s : Settings) (channel user : String) :
    departure? s.flavor (.publish channel (s.leaveData user)) = some (channel, user) := by
  rw [departure?, ← Settings.encode_leaveEnvelope, Envelope.decode_encode]
  cases s.flavor <;> rfl

theorem departure?_publish_join (s : Settings) (channel user : String) :
    departure? s.flavor (.publish channel (s.joinData user)) = none := by
  rw [departure?, ← Settings.encode_joinEnvelope, Envelope.decode_encode]
  cases s.flavor <;> rfl

theorem departure?_publish_say
    (flavor : Flavor) (channel user text : String) (audience : Audience) :
    departure? flavor (.publish channel ((Room.sayEnvelope user text audience).encode flavor)) =
      none := by
  rw [departure?, Envelope.decode_encode]
  cases flavor <;> cases audience <;> rfl

/-- Subscriptions announce nothing, and neither does giving them up. -/
theorem departures_callEach
    (s : Settings) (user : String) (call : String → Call)
    (hcall : ∀ channel, departure? s.flavor (call channel) = none) :
    departures s.flavor (s.callEach user call) = [] := by
  rw [departures, List.filterMap_eq_nil_iff, ← Settings.map_channelsOf]
  intro call' hmem
  obtain ⟨channel, -, rfl⟩ := List.mem_map.mp hmem
  exact hcall channel

theorem departures_joinCalls (s : Settings) (user : String) (listener : Listener) :
    departures s.flavor (s.joinCalls user listener) = [] := by
  have hbegun : departures s.flavor [.connect s.endpoint, .beginBatch] = [] := rfl
  have hsubscribed := departures_callEach s user .subscribe (fun _ => rfl)
  have hjoined : departures s.flavor
      [.publish (s.channel .everyone) (s.joinData user), .endBatch, .listen listener] = [] :=
    List.filterMap_cons_none (departure?_publish_join s _ user)
  rw [Settings.joinCalls, departures_append, departures_append, hbegun, hsubscribed, hjoined]
  rfl

theorem departures_leaveCalls (s : Settings) (user : String) (listener : Listener) :
    departures s.flavor (s.leaveCalls user listener) = [s.departure user] := by
  have hbegun : departures s.flavor [.unlisten listener, .beginBatch] = [] := rfl
  have hunsubscribed := departures_callEach s user .unsubscribe (fun _ => rfl)
  have hleft : departures s.flavor
      [.publish (s.channel .everyone) (s.leaveData user), .endBatch, .disconnect] =
        [s.departure user] :=
    List.filterMap_cons_some (departure?_publish_leave s _ user)
  rw [Settings.leaveCalls, departures_append, departures_append, hbegun, hunsubscribed, hleft]
  rfl

end Call

/-! ## The guests of a room -/

namespace Room

/-- The departures announced so far, and then that of the user who is in the room. -/
def guests (room : Room Journal) : List (String × String) :=
  Call.departures room.settings.flavor room.transport.calls ++
    room.user.toList.map room.settings.departure

/-- Calls that announce no departure leave the guests as they are. -/
theorem guests_of_calls
    {room room' : Room Journal} {calls : List Call}
    (hcalls : Call.departures room.settings.flavor calls = [])
    (hsettings : room'.settings = room.settings)
    (htransport : room'.transport.calls = room.transport.calls ++ calls)
    (hoccupant : room'.occupant = room.occupant) : room'.guests = room.guests := by
  rw [guests, guests, user_eq_map_occupant, user_eq_map_occupant, hsettings, htransport,
    hoccupant, Call.departures_append, hcalls, List.append_nil]

theorem guests_leave (room : Room Journal) : room.leave.guests = room.guests := by
  obtain hsession | ⟨session, hsession⟩ := Option.eq_none_or_eq_some room.session
  · rw [leave_of_none hsession]
  · rw [leave_over_journal hsession]
    simp [guests, Journal.noteAll, Call.departures_leaveCalls, user, hsession]

theorem guests_enter {room : Room Journal} (hsession : room.session = none) (name : String) :
    (room.enter name).guests = room.guests ++ [room.settings.departure name] := by
  rw [enter_over_journal]
  simp [guests, Call.departures_joinCalls, user, hsession]

theorem guests_say (room : Room Journal) (text : String) (audience : Audience) :
    (room.say text audience).room.guests = room.guests := by
  rcases say_cases room text audience with ⟨e, hsay⟩ | ⟨user, -, -, -, hsay⟩
  · rw [hsay]
    rfl
  · have hsaid : Call.departures room.settings.flavor
        [.publish (room.settings.channel audience)
          ((sayEnvelope user text audience).encode room.settings.flavor)] = [] :=
      List.filterMap_cons_none (Call.departure?_publish_say _ _ user text audience)
    rw [hsay, send_room]
    exact guests_of_calls hsaid rfl rfl rfl

theorem guests_hear (room : Room Journal) (x : Arrival) :
    (room.hear x).room.guests = room.guests := by
  have hnothing (flavor : Flavor) : Call.departures flavor [] = [] := rfl
  obtain ⟨hsettings, ⟨htransport, hoccupant⟩ | ⟨-, -, htransport, hoccupant⟩ |
    ⟨-, -, htransport, hoccupant⟩⟩ := hear_cases room x
  · apply guests_of_calls (hnothing _) hsettings _ hoccupant
    rw [htransport, List.append_nil]
  · have hsubscribed : Call.departures room.settings.flavor
        [.subscribe (room.settings.channel .everyone)] = [] := rfl
    apply guests_of_calls hsubscribed hsettings _ hoccupant
    rw [htransport]
    rfl
  · have hleft : room.leave.occupant = none := occupant_eq_none_iff.mpr (session_leave room)
    rw [← guests_leave room]
    apply guests_of_calls (hnothing _) (hsettings.trans (settings_leave room).symm) _
      (hoccupant.trans hleft.symm)
    rw [htransport, List.append_nil]

/-- Only joining changes the guests, and it adds the new one. -/
theorem guests_step (room : Room Journal) (step : RoomStep) :
    (room.step step).room.guests =
      room.guests ++
        (step.joined? (room.step step).result).toList.map room.settings.departure := by
  cases step with
  | join name =>
      rcases join_cases room name with ⟨refusal, -, hjoin⟩ | ⟨-, hjoin⟩
      · simp [step, hjoin, fail, RoomStep.joined?]
      · have hentered := guests_enter (session_leave room) name
        rw [settings_leave, guests_leave] at hentered
        simp [step, hjoin, done, RoomStep.joined?, hentered]
  | leave => simp [step, done, RoomStep.joined?, guests_leave]
  | say text audience => simp [step, RoomStep.joined?, guests_say]
  | hear x => simp [step, RoomStep.joined?, guests_hear]

/-- Over any transport that numbers its listeners, the departures which the calls of a
step announce, and then the user who is in the room after it, are the user who was there
before and then the one who has joined. -/
theorem departures_callsOf
    {τ : Type} [Transport τ] [Transport.Numbering τ] (room : Room τ) (step : RoomStep) :
    Call.departures room.settings.flavor (room.callsOf step) ++
        (room.step step).room.user.toList.map room.settings.departure =
      room.user.toList.map room.settings.departure ++
        (step.joined? (room.step step).result).toList.map room.settings.departure := by
  have hsettings : room.journaled.settings = room.settings := rfl
  have hbefore : room.journaled.guests = room.user.toList.map room.settings.departure := by
    have huser : room.journaled.user = room.user := user_carry _ room.recorded
    rw [guests, huser]
    rfl
  obtain ⟨hcalls, huser, hresult⟩ := journaled_step room step
  have hstep := guests_step room.journaled step
  rw [hbefore, hresult, guests, settings_step, hcalls, huser, hsettings] at hstep
  exact hstep

end Room

/-! ## Runs over a loopback -/

namespace Moment

/-- The step that the move makes the room take, and the room that takes it, if it makes
it take one: what happens to the connection is no step of the room. -/
def step? (m : Moment) : Option (Room Loopback × RoomStep) :=
  match m.move with
  | .join name => some (m.before, .join name)
  | .leave => some (m.before, .leave)
  | .say text audience => some (m.before, .say text audience)
  | .stall => none
  | .forget => none
  | .hearOldest => m.before.takeWaiting?.map fun (x, taken) => (taken, .hear x)

/-- The calls that the room makes in the move. -/
def calls (m : Moment) : List Call :=
  (m.step?.map fun (room, step) => room.callsOf step).getD []

/-- The user who joins by the move, if it is a joining that succeeds. -/
def joined? (m : Moment) : Option String :=
  m.step?.bind fun (_, step) => step.joined? m.outcome.result

/-- A move makes the room take one step, as it was but for its mailbox, or it changes
nothing about who is in the room. -/
theorem step?_cases (m : Moment) :
    (m.step? = none ∧ m.outcome.room.user = m.before.user) ∨
      ∃ room step, m.step? = some (room, step) ∧ m.outcome = room.step step ∧
        room.user = m.before.user ∧ room.settings = m.before.settings := by
  obtain ⟨before, move⟩ := m
  cases move with
  | join name => exact .inr ⟨before, .join name, rfl, rfl, rfl, rfl⟩
  | leave => exact .inr ⟨before, .leave, rfl, rfl, rfl, rfl⟩
  | say text audience => exact .inr ⟨before, .say text audience, rfl, rfl, rfl, rfl⟩
  | stall => exact .inl ⟨rfl, rfl⟩
  | forget => exact .inl ⟨rfl, rfl⟩
  | hearOldest =>
      cases htaken : before.takeWaiting? with
      | none => exact .inl (by simp [step?, outcome, Room.move, htaken, Room.done])
      | some oldest =>
          obtain ⟨x, taken⟩ := oldest
          obtain ⟨rest, -, rfl⟩ := Room.takeWaiting?_eq_some_iff.mp htaken
          refine .inr ⟨before.withMailbox (some rest), .hear x, ?_, ?_, rfl, rfl⟩
          · simp [step?, htaken]
          · simp [outcome, Room.move, htaken, Room.step]

/-- The departures that a move announces, and then the user who is in the room after it,
are the user who was there before and then the one who has joined. -/
theorem departures_calls (m : Moment) :
    Call.departures m.before.settings.flavor m.calls ++
        m.outcome.room.user.toList.map m.before.settings.departure =
      m.before.user.toList.map m.before.settings.departure ++
        m.joined?.toList.map m.before.settings.departure := by
  rcases m.step?_cases with
    ⟨hstep, huser⟩ | ⟨room, step, hstep, houtcome, huser, hsettings⟩
  · simp [calls, joined?, hstep, huser, Call.departures]
  · have hdepartures := Room.departures_callsOf room step
    rw [huser, hsettings, ← houtcome] at hdepartures
    rw [calls, joined?, hstep]
    exact hdepartures

end Moment

namespace Room

/-- In a run from a room that nobody is in, all who have joined are those whose
departure was announced, in order, and then the user who is still in the room. -/
theorem departures_history
    {room : Room Loopback} (hempty : room.user = none) (moves : List Move) :
    Call.departures room.settings.flavor ((room.history moves).flatMap Moment.calls) ++
        (room.afterMoves moves).user.toList.map room.settings.departure =
      ((room.history moves).filterMap Moment.joined?).map room.settings.departure := by
  induction moves using List.reverseRecOn with
  | nil =>
      have hafter : (room.afterMoves []).user = none := hempty
      rw [hafter]
      rfl
  | append_singleton moves m ih =>
      let now : Moment := { before := room.afterMoves moves, move := m }
      have hsettings : now.before.settings = room.settings := settings_afterMoves room moves
      have hnow := now.departures_calls
      rw [hsettings] at hnow
      have hjoined : [now].filterMap Moment.joined? = now.joined?.toList := by
        cases hjoined : now.joined? <;> simp [hjoined]
      rw [history_concat, afterMoves_concat, List.flatMap_append, Call.departures_append,
        List.filterMap_append, List.map_append, ← ih, hjoined, List.append_assoc,
        List.append_assoc, ← hnow, List.flatMap_singleton]
      rfl

end Room
end BayeuxChat
