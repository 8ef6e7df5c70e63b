import BayeuxChat.Bayeux.Journal
import BayeuxChat.Proofs.Room.Operations
import BayeuxChat.Proofs.Room.PublishedData
import Mathlib.Data.List.Induction

/-!
# The grammar of transport calls

A room over a journal leaves behind the list of all calls that it made.  Whatever
was done with the room and whatever it heard, the list is made of stays, one after
the other: a user joins, makes some calls, and leaves.  Only the last stay may lack
its end, and it does just while that user is in the room.
-/

namespace BayeuxChat

/-! ## The grammar -/

/-- A call for each of a user's channels: that of everyone and, where there are
personal channels, the user's own. -/
def Settings.callEach (s : Settings) (user : String) (call : String → Call) : List Call :=
  match s.flavor with
  | .personal => [call (s.channel .everyone), call (s.channel (.only user))]
  | .collapsing => [call (s.channel .everyone)]

/-- The calls by which `user` joins and gets `listener`. -/
def Settings.joinCalls (s : Settings) (user : String) (listener : Listener) : List Call :=
  [.connect s.endpoint, .beginBatch] ++ s.callEach user .subscribe ++
    [.publish (s.channel .everyone) (s.joinData user), .endBatch, .listen listener]

/-- The calls by which `user` leaves and gives `listener` up. -/
def Settings.leaveCalls (s : Settings) (user : String) (listener : Listener) : List Call :=
  [.unlisten listener, .beginBatch] ++ s.callEach user .unsubscribe ++
    [.publish (s.channel .everyone) (s.leaveData user), .endBatch, .disconnect]

/-- A call that may stand between joining and leaving. -/
inductive Settings.InnerCall (s : Settings) (user : String) : Call → Prop
  | everyone {text : String} :
      text ≠ "" →
      InnerCall s user (.publish (s.channel .everyone) (s.chatData user text))
  | only {text addressee : String} :
      s.flavor = .personal → text ≠ "" → Room.checkUser addressee = .ok () →
      InnerCall s user
        (.publish (s.channel (.only addressee)) (Settings.privateChatData user text addressee))
  | again :
      s.flavor = .collapsing → InnerCall s user (.subscribe (s.channel .everyone))

/-- What a transport sees of the time that a user spends in a room. -/
structure Stay where
  user : String
  listener : Listener
  /-- The calls between joining and leaving. -/
  inner : List Call := []

/-- The calls of a stay that has not ended. -/
def Stay.begun (s : Settings) (stay : Stay) : List Call :=
  s.joinCalls stay.user stay.listener ++ stay.inner

/-- The calls of a stay that has ended. -/
def Stay.whole (s : Settings) (stay : Stay) : List Call :=
  stay.begun s ++ s.leaveCalls stay.user stay.listener

/-- The calls are those of stays that have ended and of one that may be left. -/
structure Settings.Stays
    (s : Settings) (calls : List Call) (ended : List Stay) (current : Option Stay) :
    Prop where
  calls_eq : calls = ended.flatMap (·.whole s) ++ (current.map (·.begun s)).getD []
  innerCall : ∀ stay ∈ ended ++ current.toList, ∀ call ∈ stay.inner,
    s.InnerCall stay.user call

namespace Settings.Stays

variable {s : Settings} {calls : List Call} {ended : List Stay} {stay : Stay}

theorem nil (s : Settings) : s.Stays [] [] none :=
  ⟨rfl, by simp⟩

theorem join (h : s.Stays calls ended none) (user : String) (listener : Listener) :
    s.Stays (calls ++ s.joinCalls user listener) ended
      (some { user := user, listener := listener }) := by
  constructor
  · simp [h.calls_eq, Stay.begun]
  · intro stay hstay call hcall
    rw [List.mem_append, Option.toList_some, List.mem_singleton] at hstay
    rcases hstay with hstay | rfl
    · exact h.innerCall stay (by simp [hstay]) call hcall
    · simp at hcall

theorem inner
    (h : s.Stays calls ended (some stay)) {call : Call}
    (hcall : s.InnerCall stay.user call) :
    s.Stays (calls ++ [call]) ended
      (some { stay with inner := stay.inner ++ [call] }) := by
  constructor
  · simp [h.calls_eq, Stay.begun]
  · intro stay' hstay' call' hcall'
    rw [List.mem_append, Option.toList_some, List.mem_singleton] at hstay'
    rcases hstay' with hstay' | rfl
    · exact h.innerCall stay' (by simp [hstay']) call' hcall'
    · rw [List.mem_append, List.mem_singleton] at hcall'
      rcases hcall' with hcall' | rfl
      · exact h.innerCall stay (by simp) call' hcall'
      · exact hcall

theorem leave (h : s.Stays calls ended (some stay)) :
    s.Stays (calls ++ s.leaveCalls stay.user stay.listener) (ended ++ [stay]) none := by
  constructor
  · simp [h.calls_eq, Stay.whole]
  · simpa using h.innerCall

end Settings.Stays

/-! ## The calls of each operation -/

namespace Journal

/-- Writes down some more calls. -/
def noteAll (calls : List Call) (j : Journal) : Journal :=
  { j with calls := j.calls ++ calls }

theorem subscribeAll_eq (channels : List String) (j : Journal) :
    Transport.subscribeAll channels j = j.noteAll (channels.map .subscribe) := by
  induction channels generalizing j with
  | nil => simp [Transport.subscribeAll, noteAll]
  | cons first rest ih =>
      rw [Transport.subscribeAll, List.foldl_cons, ← Transport.subscribeAll, ih]
      simp [Transport.subscribe, note, noteAll]

theorem unsubscribeAll_eq (channels : List String) (j : Journal) :
    Transport.unsubscribeAll channels j = j.noteAll (channels.map .unsubscribe) := by
  induction channels generalizing j with
  | nil => simp [Transport.unsubscribeAll, noteAll]
  | cons first rest ih =>
      rw [Transport.unsubscribeAll, List.foldl_cons, ← Transport.unsubscribeAll, ih]
      simp [Transport.unsubscribe, note, noteAll]

end Journal

theorem Settings.map_channelsOf (s : Settings) (user : String) (call : String → Call) :
    (s.channelsOf user).map call = s.callEach user call := by
  cases h : s.flavor <;> simp [channelsOf, audiencesOf, callEach, h]

namespace Room

theorem leave_over_journal
    {room : Room Journal} {session : Session} (hsession : room.session = some session) :
    room.leave =
      { room with
        transport := room.transport.noteAll
          (room.settings.leaveCalls session.user session.listener)
        session := none } := by
  simp [leave, hsession, Transport.batch, Journal.unsubscribeAll_eq,
    Settings.map_channelsOf, publish, Settings.encode_leaveEnvelope, Transport.unlisten,
    Transport.beginBatch, Transport.publish, Transport.endBatch, Transport.disconnect,
    Journal.note, Journal.noteAll, Settings.leaveCalls]

theorem enter_over_journal (room : Room Journal) (user : String) :
    room.enter user =
      { room with
        transport :=
          { calls := room.transport.calls ++
              room.settings.joinCalls user ⟨room.transport.nextListener⟩
            nextListener := room.transport.nextListener + 1 }
        connected := true
        session := some { user := user, listener := ⟨room.transport.nextListener⟩ } } := by
  simp [enter, Transport.batch, Journal.subscribeAll_eq, Settings.map_channelsOf, publish,
    Settings.encode_joinEnvelope, Transport.connect, Transport.beginBatch,
    Transport.publish, Transport.endBatch, Transport.listen, Journal.note, Journal.noteAll,
    Settings.joinCalls]

theorem calls_prefix_leave (room : Room Journal) :
    room.transport.calls <+: room.leave.transport.calls := by
  obtain hsession | ⟨session, hsession⟩ := Option.eq_none_or_eq_some room.session
  · simp [leave_of_none hsession]
  · rw [leave_over_journal hsession]
    exact List.prefix_append _ _

/-- No step takes back a call. -/
theorem calls_prefix_step (room : Room Journal) (step : RoomStep) :
    room.transport.calls <+: (room.step step).room.transport.calls := by
  cases step with
  | join name =>
      rcases join_cases room name with ⟨refusal, -, hjoin⟩ | ⟨-, hjoin⟩
      · rw [Room.step, hjoin]
        exact List.prefix_rfl
      · rw [Room.step, hjoin, enter_over_journal]
        exact (calls_prefix_leave room).trans (List.prefix_append _ _)
  | leave => exact calls_prefix_leave room
  | say text audience =>
      rcases say_cases room text audience with ⟨e, hsay⟩ | ⟨user, -, -, -, hsay⟩
      · rw [Room.step, hsay]
        exact List.prefix_rfl
      · rw [Room.step, hsay, send_room]
        exact List.prefix_append _ _
  | hear x =>
      obtain ⟨-, ⟨htransport, -⟩ | ⟨-, -, htransport, -⟩ | ⟨-, -, htransport, -⟩⟩ :=
        hear_cases room x
      · simp [Room.step, htransport]
      · rw [Room.step, htransport]
        exact List.prefix_append _ _
      · rw [Room.step, htransport]
        exact calls_prefix_leave room

/-- The room's calls follow the grammar, and the stay that has not ended is that of
its occupant. -/
def FollowsGrammar (room : Room Journal) : Prop :=
  ∃ ended current, room.settings.Stays room.transport.calls ended current ∧
    room.occupant = current.map fun stay => (stay.user, stay.listener)

namespace FollowsGrammar

variable {room : Room Journal}

theorem of_none (h : room.FollowsGrammar) (hsession : room.session = none) :
    ∃ ended, room.settings.Stays room.transport.calls ended none := by
  obtain ⟨ended, current, hstays, hoccupant⟩ := h
  rw [occupant_eq_none_iff.mpr hsession] at hoccupant
  cases current with
  | none => exact ⟨ended, hstays⟩
  | some stay => cases hoccupant

theorem of_session
    (h : room.FollowsGrammar) {session : Session} (hsession : room.session = some session) :
    ∃ ended stay, room.settings.Stays room.transport.calls ended (some stay) ∧
      stay.user = session.user ∧ stay.listener = session.listener := by
  obtain ⟨ended, current, hstays, hoccupant⟩ := h
  rw [occupant_eq_some_iff.mpr ⟨session, hsession, rfl, rfl⟩] at hoccupant
  cases current with
  | none => cases hoccupant
  | some stay =>
      obtain ⟨huser, hlistener⟩ := Prod.mk.inj (Option.some.inj hoccupant)
      exact ⟨ended, stay, hstays, huser.symm, hlistener.symm⟩

theorem empty (s : Settings) : (Room.empty s ({} : Journal)).FollowsGrammar :=
  ⟨[], none, Settings.Stays.nil s, rfl⟩

theorem leave (h : room.FollowsGrammar) : room.leave.FollowsGrammar := by
  obtain hsession | ⟨session, hsession⟩ := Option.eq_none_or_eq_some room.session
  · rwa [leave_of_none hsession]
  · obtain ⟨ended, stay, hstays, huser, hlistener⟩ := h.of_session hsession
    rw [leave_over_journal hsession, ← huser, ← hlistener]
    exact ⟨ended ++ [stay], none, hstays.leave, rfl⟩

theorem enter (h : room.FollowsGrammar) (hsession : room.session = none) (user : String) :
    (room.enter user).FollowsGrammar := by
  obtain ⟨ended, hstays⟩ := h.of_none hsession
  rw [enter_over_journal]
  exact ⟨ended, _, hstays.join user _, rfl⟩

/-- A further call keeps the grammar if it may stand between joining and leaving and
the occupant stays. -/
theorem inner
    (h : room.FollowsGrammar) {room' : Room Journal}
    {session : Session} (hsession : room.session = some session)
    {call : Call} (hcall : room.settings.InnerCall session.user call)
    (hsettings : room'.settings = room.settings)
    (hcalls : room'.transport.calls = room.transport.calls ++ [call])
    (hoccupant : room'.occupant = room.occupant) :
    room'.FollowsGrammar := by
  obtain ⟨ended, stay, hstays, huser, hlistener⟩ := h.of_session hsession
  rw [← huser] at hcall
  refine ⟨ended, some { stay with inner := stay.inner ++ [call] }, ?_, ?_⟩
  · rw [hsettings, hcalls]
    exact hstays.inner hcall
  · rw [hoccupant, occupant_eq_some_iff.mpr ⟨session, hsession, rfl, rfl⟩, ← huser,
      ← hlistener]
    rfl

theorem join (h : room.FollowsGrammar) (name : String) :
    (room.join name).room.FollowsGrammar := by
  rcases join_cases room name with ⟨refusal, -, hjoin⟩ | ⟨-, hjoin⟩
  · rw [hjoin]
    exact h
  · rw [hjoin]
    exact h.leave.enter (session_leave room) name

theorem say (h : room.FollowsGrammar) (text : String) (audience : Audience) :
    (room.say text audience).room.FollowsGrammar := by
  rcases say_cases room text audience with ⟨e, hsay⟩ | ⟨user, htext, huser, haudience, hsay⟩
  · rw [hsay]
    exact h
  · obtain ⟨session, hsession, rfl⟩ := user_eq_some_iff.mp huser
    have hcall : room.settings.InnerCall session.user
        (.publish (room.settings.channel audience)
          ((sayEnvelope session.user text audience).encode room.settings.flavor)) := by
      cases audience with
      | everyone =>
          rw [sayEnvelope, Settings.encode_chat]
          exact .everyone htext
      | only addressee =>
          obtain ⟨hflavor, haddressee⟩ :=
            (checkAudience_only_eq_ok_iff _ addressee).mp haudience
          rw [sayEnvelope, hflavor, Settings.encode_privateChat]
          exact .only hflavor htext haddressee
    rw [hsay, send_room]
    exact h.inner hsession hcall rfl rfl rfl

theorem hear (h : room.FollowsGrammar) (x : Arrival) :
    (room.hear x).room.FollowsGrammar := by
  obtain ⟨hsettings, ⟨htransport, hoccupant⟩ | ⟨hflavor, hsome, htransport, hoccupant⟩ |
    ⟨-, -, htransport, hoccupant⟩⟩ := hear_cases room x
  -- Hearing makes no call, or subscribes once more, or ends the stay.
  · obtain ⟨ended, current, hstays, hcurrent⟩ := h
    refine ⟨ended, current, ?_, hoccupant.trans hcurrent⟩
    rwa [hsettings, htransport]
  · obtain ⟨session, hsession⟩ := Option.isSome_iff_exists.mp hsome
    refine h.inner hsession (.again hflavor) hsettings ?_ hoccupant
    rw [htransport]
    rfl
  · obtain ⟨ended, hstays⟩ := h.leave.of_none (session_leave room)
    refine ⟨ended, none, ?_, hoccupant⟩
    rwa [hsettings, htransport, ← settings_leave room]

theorem step (h : room.FollowsGrammar) (step : RoomStep) :
    (room.step step).room.FollowsGrammar := by
  cases step with
  | join name => exact h.join name
  | leave => exact h.leave
  | say text audience => exact h.say text audience
  | hear x => exact h.hear x

end FollowsGrammar

theorem followsGrammar_afterSteps (s : Settings) (steps : List RoomStep) :
    ((empty s ({} : Journal)).afterSteps steps).FollowsGrammar ∧
      ((empty s ({} : Journal)).afterSteps steps).settings = s := by
  induction steps using List.reverseRecOn with
  | nil => exact ⟨.empty s, rfl⟩
  | append_singleton steps step ih =>
      rw [afterSteps_concat]
      exact ⟨ih.1.step step, (settings_step _ step).trans ih.2⟩

/-- The calls of every run are those of stays one after the other.  A stay begins
with the calls of joining; calls that publish what its user says, or in a collapsing
room subscribe again, may follow; and it ends with the calls of leaving.  All stays
but the last have ended, and the last has not just if its user is in the room, under
the listener that it got. -/
theorem calls_of_steps (s : Settings) (steps : List RoomStep) :
    let room := (Room.empty s ({} : Journal)).afterSteps steps
    ∃ (ended : List Stay) (current : Option Stay),
      room.transport.calls =
        ended.flatMap (·.whole s) ++ (current.map (·.begun s)).getD [] ∧
      (∀ stay ∈ ended ++ current.toList, ∀ call ∈ stay.inner,
        s.InnerCall stay.user call) ∧
      room.user = current.map (·.user) ∧
      room.session.map (·.listener) = current.map (·.listener) := by
  intro room
  obtain ⟨⟨ended, current, hstays, hoccupant⟩, hsettings⟩ := followsGrammar_afterSteps s steps
  rw [hsettings] at hstays
  change room.occupant = _ at hoccupant
  refine ⟨ended, current, hstays.calls_eq, hstays.innerCall, ?_, ?_⟩
  · rw [user_eq_map_occupant, hoccupant]
    simp [Function.comp_def]
  · rw [listener_eq_map_occupant, hoccupant]
    simp [Function.comp_def]

end Room
end BayeuxChat
