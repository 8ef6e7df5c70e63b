import BayeuxChat.Room.Basic

/-!
# The operations of a room

Over any transport, an operation either fails and leaves everything as it was, or
it does one thing.  The cases are stated here once, with the causes of each
failure, so that no later argument has to open the operations again.
-/

namespace BayeuxChat
namespace Room

variable {τ : Type}

theorem checkUser_eq_ok_iff (name : String) :
    checkUser name = .ok () ↔
      name ≠ "" ∧ '/' ∉ name.toList ∧ '*' ∉ name.toList := by
  by_cases hname : name = ""
  · simp [checkUser, hname]
  · by_cases hslash : '/' ∈ name.toList
    · simp [checkUser, hname, checkSegment, hslash]
    · by_cases hstar : '*' ∈ name.toList
      · simp [checkUser, hname, checkSegment, hstar]
      · simp [checkUser, hname, checkSegment, hslash, hstar]

/-- A text can be meant for one user only where there are personal channels, and
only under a name that the user could join under. -/
theorem checkAudience_only_eq_ok_iff (flavor : Flavor) (user : String) :
    checkAudience flavor (.only user) = .ok () ↔
      flavor = .personal ∧ checkUser user = .ok () := by
  cases flavor with
  | collapsing => simp [checkAudience]
  | personal =>
      by_cases huser : user = ""
      · simp [checkAudience, checkUser, huser]
      · simp [checkAudience, checkUser, huser]

theorem user_eq_some_iff {room : Room τ} {user : String} :
    room.user = some user ↔
      ∃ session, room.session = some session ∧ session.user = user := by
  simp [Room.user]

/-- The user who is in the room, and the listener of the session. -/
def occupant (room : Room τ) : Option (String × Listener) :=
  room.session.map fun session => (session.user, session.listener)

theorem occupant_eq_none_iff {room : Room τ} :
    room.occupant = none ↔ room.session = none := by
  simp [occupant]

theorem occupant_eq_some_iff {room : Room τ} {user : String} {listener : Listener} :
    room.occupant = some (user, listener) ↔
      ∃ session, room.session = some session ∧
        session.user = user ∧ session.listener = listener := by
  simp [occupant]

theorem user_eq_map_occupant (room : Room τ) : room.user = room.occupant.map Prod.fst := by
  simp [Room.user, occupant, Function.comp_def]

theorem listener_eq_map_occupant (room : Room τ) :
    room.session.map (·.listener) = room.occupant.map Prod.snd := by
  simp [occupant, Function.comp_def]

theorem presence_eq_out_iff {room : Room τ} :
    room.presence = .out ↔ room.session = none := by
  cases hsession : room.session with
  | none => simp [presence, hsession]
  | some session => cases hconfirmed : session.confirmed <;> simp [presence, hsession, hconfirmed]

theorem exists_session_of_presence
    {room : Room τ} {user : String}
    (h : room.presence = .entering user ∨ room.presence = .inside user) :
    ∃ session, room.session = some session ∧ session.user = user := by
  cases hsession : room.session with
  | none => simp [presence, hsession] at h
  | some session =>
      refine ⟨session, rfl, ?_⟩
      cases hconfirmed : session.confirmed <;> simpa [presence, hsession, hconfirmed] using h

variable [Transport τ]

/-- The room after some steps. -/
def afterSteps (room : Room τ) (steps : List RoomStep) : Room τ :=
  steps.foldl (fun room step => (room.step step).room) room

@[simp] theorem afterSteps_concat (room : Room τ) (steps : List RoomStep) (step : RoomStep) :
    room.afterSteps (steps ++ [step]) = ((room.afterSteps steps).step step).room := by
  simp [afterSteps]

/-! ## What stays as it is -/

@[simp] theorem settings_leave (room : Room τ) :
    room.leave.settings = room.settings := by
  cases h : room.session <;> simp [leave, h]

@[simp] theorem renderer_leave (room : Room τ) :
    room.leave.renderer = room.renderer := by
  cases h : room.session <;> simp [leave, h]

@[simp] theorem connected_leave (room : Room τ) :
    room.leave.connected = room.connected := by
  cases h : room.session <;> simp [leave, h]

@[simp] theorem session_leave (room : Room τ) : room.leave.session = none := by
  cases h : room.session <;> simp [leave, h]

theorem leave_of_none {room : Room τ} (hsession : room.session = none) :
    room.leave = room := by
  simp [leave, hsession]

@[simp] theorem settings_resubscribe (room : Room τ) :
    room.resubscribe.settings = room.settings := by
  simp only [resubscribe]
  split <;> rfl

@[simp] theorem renderer_resubscribe (room : Room τ) :
    room.resubscribe.renderer = room.renderer := by
  simp only [resubscribe]
  split <;> rfl

@[simp] theorem session_resubscribe (room : Room τ) :
    room.resubscribe.session = room.session := by
  simp only [resubscribe]
  split <;> rfl

/-! ## The cases -/

theorem join_of_ok (room : Room τ) {name : String} (hname : checkUser name = .ok ()) :
    room.join name = (room.leave.enter name).done := by
  simp only [join, hname]

/-- Joining is refused for the name alone; otherwise whoever was in the room leaves
and the new user enters. -/
theorem join_cases (room : Room τ) (name : String) :
    (∃ refusal, checkUser name = .error refusal ∧
      room.join name = room.fail (.refused refusal)) ∨
    (checkUser name = .ok () ∧ room.join name = (room.leave.enter name).done) := by
  cases h : checkUser name with
  | error refusal => exact .inl ⟨refusal, rfl, by simp [join, h]⟩
  | ok u => exact .inr ⟨rfl, join_of_ok room h⟩

/-- Saying something fails and leaves the room as it was, or the text is sent by
the user who is in the room. -/
theorem say_cases (room : Room τ) (text : String) (audience : Audience) :
    (∃ e, room.say text audience = room.fail e) ∨
    (∃ user, text ≠ "" ∧ room.user = some user ∧
      checkAudience room.settings.flavor audience = .ok () ∧
      room.say text audience = room.send user text audience) := by
  by_cases htext : text = ""
  · exact .inl ⟨.refused .noText, by simp [say, htext]⟩
  · cases huser : room.user with
    | none => exact .inl ⟨.outside, by simp [say, htext, huser]⟩
    | some user =>
        cases haudience : checkAudience room.settings.flavor audience with
        | error refusal =>
            exact .inl ⟨.refused refusal, by simp [say, htext, huser, haudience]⟩
        | ok u => exact .inr ⟨user, htext, rfl, rfl, by simp [say, htext, huser, haudience]⟩

theorem hear_event_of_ne
    {room : Room τ} {listener : Listener}
    (h : room.session.map (·.listener) ≠ some listener) (e : MetaEvent) :
    room.hear (.event listener e) = room.done := by
  simp only [hear, if_neg h]

/-- An event is heard only by the session that listens under its number. -/
theorem hear_event_cases (room : Room τ) (listener : Listener) (e : MetaEvent) :
    (room.session.map (·.listener) ≠ some listener ∧
      room.hear (.event listener e) = room.done) ∨
    (∃ session, room.session = some session ∧ session.listener = listener ∧
      room.hear (.event listener e) = room.hearEvent e) := by
  by_cases h : room.session.map (·.listener) = some listener
  · obtain ⟨session, hsession, hlistener⟩ := Option.map_eq_some_iff.mp h
    exact .inr ⟨session, hsession, hlistener, by simp [hear, h]⟩
  · exact .inl ⟨h, hear_event_of_ne h e⟩

/-- A connection is lost only once.  Where there are personal channels its loss
ends the session. -/
theorem hearUnanswered_cases (room : Room τ) :
    (room.connected = false ∧ room.hearUnanswered = room.done) ∨
    (room.connected = true ∧ room.settings.flavor = .collapsing ∧
      room.hearUnanswered =
        { room.tell .connect "disconnected!" with
          room := { (room.tell .connect "disconnected!").room with connected := false } }) ∨
    (room.connected = true ∧ room.settings.flavor = .personal ∧
      room.hearUnanswered =
        { room.tell .connect "disconnected!" with
          room := { (room.tell .connect "disconnected!").room.leave with
            connected := false } }) := by
  cases hconnected : room.connected with
  | false => exact .inl ⟨rfl, by simp [hearUnanswered, hconnected]⟩
  | true =>
      refine .inr ?_
      cases hflavor : room.settings.flavor with
      | collapsing => exact .inl ⟨rfl, rfl, by simp [hearUnanswered, hconnected, hflavor]⟩
      | personal => exact .inr ⟨rfl, rfl, by simp [hearUnanswered, hconnected, hflavor]⟩

/-- The room after it has heard of a successful handshake. -/
theorem hearHandshake_room (room : Room τ) (reply : MetaReply) :
    (room.hearHandshake true reply).room.settings = room.settings ∧
      (room.hearHandshake true reply).room.occupant = room.occupant ∧
      ((room.hearHandshake true reply).room.transport = room.transport ∨
        (room.settings.flavor = .collapsing ∧
          (room.hearHandshake true reply).room.transport =
            Transport.subscribe (room.settings.channel .everyone) room.transport)) := by
  simp only [hearHandshake, if_true, confirm, occupant, session_resubscribe,
    settings_resubscribe, Option.map_map]
  refine ⟨rfl, ?_, ?_⟩
  · simp [tell, display, countHandshake, Function.comp_def]
  · simp only [resubscribe]
    split
    · next h => exact .inr ⟨h.2, rfl⟩
    · exact .inl rfl

/-- Whatever is heard, who is in the room changes only when the user leaves because
the connection is lost, and the transport takes only the calls of that leave or
another subscription to the channel of everyone. -/
theorem hear_cases (room : Room τ) (x : Arrival) :
    (room.hear x).room.settings = room.settings ∧
      (((room.hear x).room.transport = room.transport ∧
          (room.hear x).room.occupant = room.occupant) ∨
        (room.settings.flavor = .collapsing ∧ room.session.isSome ∧
          (room.hear x).room.transport =
            Transport.subscribe (room.settings.channel .everyone) room.transport ∧
          (room.hear x).room.occupant = room.occupant) ∨
        (room.settings.flavor = .personal ∧ room.session.isSome ∧
          (room.hear x).room.transport = room.leave.transport ∧
          (room.hear x).room.occupant = none)) := by
  cases x with
  | message m => exact ⟨rfl, .inl ⟨rfl, rfl⟩⟩
  | event listener e =>
      rcases hear_event_cases room listener e with
        ⟨-, hhear⟩ | ⟨session, hsession, -, hhear⟩
      · rw [hhear]
        exact ⟨rfl, .inl ⟨rfl, rfl⟩⟩
      · have hsome : room.session.isSome := by simp [hsession]
        rw [hhear, hearEvent]
        cases htopic : e.topic with
        | handshake =>
            cases hsuccessful : e.successful with
            | true =>
                obtain ⟨hsettings, hoccupant, hsame | ⟨hflavor, hsubscribed⟩⟩ :=
                  hearHandshake_room room e.reply
                · exact ⟨hsettings, .inl ⟨hsame, hoccupant⟩⟩
                · exact ⟨hsettings, .inr (.inl ⟨hflavor, hsome, hsubscribed, hoccupant⟩)⟩
            | false => exact ⟨rfl, .inl ⟨rfl, rfl⟩⟩
        | connect =>
            cases hsuccessful : e.successful with
            | true =>
                simp only [if_true, hearAnswered, confirm, occupant, Option.map_map]
                split
                · exact ⟨rfl, .inl ⟨rfl, rfl⟩⟩
                · exact ⟨rfl, .inl ⟨rfl, rfl⟩⟩
            | false =>
                -- The only case in which hearing something makes the user leave.
                simp only [Bool.false_eq_true, if_false]
                rcases hearUnanswered_cases room with
                  ⟨-, hlost⟩ | ⟨-, -, hlost⟩ | ⟨-, hflavor, hlost⟩
                · rw [hlost]
                  exact ⟨rfl, .inl ⟨rfl, rfl⟩⟩
                · rw [hlost]
                  exact ⟨rfl, .inl ⟨rfl, rfl⟩⟩
                · rw [hlost]
                  refine ⟨settings_leave _, .inr (.inr ⟨hflavor, hsome, ?_, ?_⟩)⟩
                  · simp [leave, tell, display, hsession]
                  · exact occupant_eq_none_iff.mpr (session_leave _)
        | other => exact ⟨rfl, .inl ⟨rfl, rfl⟩⟩

/-- Nothing that is sent changes the room but its transport and, where the text is
shown at once, the renderer's memory. -/
theorem send_room (room : Room τ) (user text : String) (audience : Audience) :
    (room.send user text audience).room =
      { room with
        transport := publish room.settings audience (sayEnvelope user text audience)
          room.transport
        renderer := (room.send user text audience).room.renderer } := by
  by_cases hechoed : isEchoed text audience
  · simp [send, hechoed, display]
  · simp [send, hechoed, done]

@[simp] theorem settings_join (room : Room τ) (name : String) :
    (room.join name).room.settings = room.settings := by
  rcases join_cases room name with ⟨refusal, -, h⟩ | ⟨-, h⟩
  · rw [h]
    rfl
  · rw [h]
    exact settings_leave room

@[simp] theorem settings_say (room : Room τ) (text : String) (audience : Audience) :
    (room.say text audience).room.settings = room.settings := by
  rcases say_cases room text audience with ⟨e, h⟩ | ⟨user, -, -, -, h⟩
  · rw [h]
    rfl
  · rw [h, send_room]

/-- The settings never change. -/
theorem settings_step (room : Room τ) (step : RoomStep) :
    (room.step step).room.settings = room.settings := by
  cases step with
  | join name => exact settings_join room name
  | leave => exact settings_leave room
  | say text audience => exact settings_say room text audience
  | hear x => exact (hear_cases room x).1

theorem settings_afterSteps (room : Room τ) (steps : List RoomStep) :
    (room.afterSteps steps).settings = room.settings := by
  induction steps generalizing room with
  | nil => rfl
  | cons step later ih => exact (ih (room.step step).room).trans (settings_step room step)

theorem send_result (room : Room τ) (user text : String) (audience : Audience) :
    (room.send user text audience).result = .ok () := by
  by_cases hechoed : isEchoed text audience
  · simp [send, hechoed, display]
  · simp [send, hechoed, done]

end Room
end BayeuxChat
