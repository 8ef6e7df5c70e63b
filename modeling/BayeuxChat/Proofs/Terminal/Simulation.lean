import BayeuxChat.Proofs.Terminal.Hearing

/-!
# The client does what its digest says

For every command, what a client prints and becomes is compared with what its
digest prints and becomes.  The two agree as long as the client fits its digest and
nothing waits for it, and then they still fit.  So they agree along every list of
commands, whatever the state in which the commands are given.
-/

namespace BayeuxChat

/-! ## Refusals in words -/

namespace Digest

theorem nameAlert?_eq (name : String) :
    nameAlert? name =
      match Room.checkUser name with
      | .error refusal => some (ChatError.refused refusal).message
      | .ok () => none := by
  by_cases hname : name = ""
  · simp [nameAlert?, Room.checkUser, hname, ChatError.message, Refusal.message]
  · by_cases hbad : '/' ∈ name.toList ∨ '*' ∈ name.toList
    · simp [nameAlert?, Room.checkUser, Room.checkSegment, hname, hbad, isBadName,
        badNameAlert, ChatError.message, Refusal.message]
    · simp [nameAlert?, Room.checkUser, Room.checkSegment, hname, hbad, isBadName]

theorem addresseeAlert?_eq (flavor : Flavor) (addressee : String) :
    addresseeAlert? flavor addressee =
      match Room.checkAudience flavor (.only addressee) with
      | .error refusal => some (ChatError.refused refusal).message
      | .ok () => none := by
  cases flavor with
  | collapsing =>
      simp [addresseeAlert?, Room.checkAudience, ChatError.message, Refusal.message]
  | personal =>
      by_cases hname : addressee = ""
      · simp [addresseeAlert?, Room.checkAudience, hname, ChatError.message, Refusal.message]
      · by_cases hbad : '/' ∈ addressee.toList ∨ '*' ∈ addressee.toList
        · simp [addresseeAlert?, Room.checkAudience, Room.checkSegment, hname, hbad,
            isBadName, badNameAlert, ChatError.message, Refusal.message]
        · simp [addresseeAlert?, Room.checkAudience, Room.checkSegment, hname, hbad,
            isBadName]

@[simp] theorem audience_hear (flavor : Flavor) (d : Digest) (news : News) :
    (d.hear flavor news).2.audience = d.audience := by
  cases news with
  | remark r => rfl
  | _ =>
      simp only [hear]
      split <;> rfl

@[simp] theorem audience_hearAll (flavor : Flavor) (d : Digest) (news : List News) :
    (d.hearAll flavor news).2.audience = d.audience := by
  induction news generalizing d with
  | nil => rfl
  | cons first rest ih => rw [hearAll, ih, audience_hear]

end Digest

/-- What a user says to one other user comes back if it is said to the user's own
name, or to the name that the channel of everyone ends with. -/
theorem Settings.comesBack_only_iff
    {s : Settings} (hflavor : s.flavor = .personal) (user addressee : String) :
    s.comesBack user (.only addressee) = true ↔ addressee = user ∨ addressee = "public" := by
  simp only [comesBack, channel_everyone_of_personal hflavor, Bool.or_eq_true, beq_iff_eq,
    channel_only_inj]
  exact or_comm

/-! ## Operations of a room that fits -/

namespace Room.Fits

variable {room : Room Loopback} {s : Settings} {listener : Listener} {d : Digest}

theorem withAudience
    {waiting : List Arrival} (h : room.Fits s listener waiting d) (audience : Audience) :
    room.Fits s listener waiting { d with audience := audience } :=
  ⟨h.coupled, h.settings, h.flavor, h.mailbox, h.occupant, h.named, h.connected,
    h.handshakes, h.last⟩

/-- A user who joins listens under a new number, and what waits is the announcement
and the welcome. -/
theorem join
    (h : room.Fits s listener [] d) {name : String} (hname : checkUser name = .ok ()) :
    ∃ listener' waiting,
      (room.join name).room.Fits s listener' waiting
        { d with user := some name, connected := true, handshakes := d.handshakes + 1 } ∧
      List.Forall₂ (News.ToldBy s listener') waiting
        [.remark (.joined name), .welcomed (d.handshakes + 1), .answered] := by
  have hleft := h.leave
  have hidle := hleft.coupled.idle (session_leave room)
  have hjoin := join_of_ok room hname
  have hmailbox := mailbox_join h.coupled hname h.mailbox
  have hnamed := ((checkUser_eq_ok_iff name).mp hname).1
  have hlistens : (room.join name).room.occupant =
      some (name, ⟨room.leave.transport.nextListener⟩) := by
    rw [hjoin, enter_of_idle hidle]
    rfl
  refine ⟨⟨room.leave.transport.nextListener⟩, _, ⟨coupled_join h.coupled name,
    (settings_join room name).trans h.settings, ?_, hmailbox, hlistens, ?_, ?_, ?_, ?_⟩, ?_⟩
  · rw [hjoin]
    exact hleft.flavor
  · intro user huser
    obtain rfl := Option.some.inj huser
    exact hnamed
  · rw [hjoin, enter_of_idle hidle]
    rfl
  · rw [hjoin, enter_of_idle hidle]
    exact congrArg (· + 1) hleft.handshakes
  · rw [hjoin]
    exact hleft.last
  · rw [hleft.handshakes, h.settings]
    exact .cons (.remark trivial hnamed (data_announcement _ s name))
      (.cons (.welcomed _) (.cons .answered .nil))

theorem stall (h : room.Fits s listener [] d) :
    ∃ waiting,
      Fits { room with transport := room.transport.stall } s listener waiting d ∧
      List.Forall₂ (News.ToldBy s listener) waiting
        (if d.user.isSome then [.unanswered] else []) := by
  obtain huser | ⟨user, huser⟩ := Option.eq_none_or_eq_some d.user
  · rw [(h.coupled.idle (h.session_eq_none huser)).stall_eq, huser]
    exact ⟨[], h, .nil⟩
  · obtain ⟨session, hsession, -, rfl⟩ := h.exists_session huser
    have hstall := (h.coupled.serves hsession).stall_eq
    have hcoupled := coupled_stall h.coupled
    rw [hstall] at hcoupled ⊢
    rw [huser]
    refine ⟨[.event session.listener .unanswered], ⟨hcoupled, h.settings, h.flavor, ?_,
      h.occupant, h.named, h.connected, h.handshakes, h.last⟩, .cons .unanswered .nil⟩
    simp [h.mailbox]

theorem forget (h : room.Fits s listener [] d) :
    ∃ waiting,
      Fits { room with transport := room.transport.forget } s listener waiting
        (if d.user.isSome then { d with handshakes := d.handshakes + 1 } else d) ∧
      List.Forall₂ (News.ToldBy s listener) waiting
        (if d.user.isSome then [.welcomed (d.handshakes + 1), .answered] else []) := by
  obtain huser | ⟨user, huser⟩ := Option.eq_none_or_eq_some d.user
  · rw [(h.coupled.idle (h.session_eq_none huser)).forget_eq, huser]
    exact ⟨[], h, .nil⟩
  · obtain ⟨session, hsession, -, rfl⟩ := h.exists_session huser
    have hforget := (h.coupled.serves hsession).forget_eq
    have hcoupled := coupled_forget h.coupled
    have hsome : d.user.isSome := by simp [huser]
    rw [hforget, h.handshakes] at hcoupled
    rw [hforget, h.handshakes, if_pos hsome, if_pos hsome]
    refine ⟨Loopback.welcome session.listener (d.handshakes + 1), ⟨hcoupled, h.settings,
      h.flavor, ?_, h.occupant, h.named, h.connected, rfl, h.last⟩,
      .cons (.welcomed _) (.cons .answered .nil)⟩
    simp [h.mailbox]

/-- Only what is said to one user is ever shown at once, and it is shown as it would
be if it came back. -/
theorem lines_send
    (h : room.Fits s listener [] d) {user text : String} {audience : Audience}
    (huser : d.user = some user) (hproper : (Remark.said user text audience).Proper s.flavor) :
    (room.send user text audience).lines =
      if isEchoed text audience then
        [Digest.remarkLine s.flavor d.last (.said user text audience)]
      else [] := by
  cases audience with
  | everyone => rfl
  | only addressee =>
      have hpersonal := ((checkAudience_only_eq_ok_iff _ _).mp hproper.2).1
      have hline := (Renderer.lines_remark h.flavor h.last hproper (h.named _ huser)).1
      have hconveyed :
          ((Remark.said user text (.only addressee)).envelope s.flavor).conveyed s.flavor =
            sayEnvelope user text (.only addressee) := by
        rw [hpersonal]
        rfl
      rw [hconveyed] at hline
      by_cases hechoed : isEchoed text (.only addressee)
      · simpa [Room.send, hechoed, Room.display] using hline
      · simp [Room.send, hechoed, Room.done]

/-- Where lines are collapsed nothing is shown at once, so nothing is forgotten by
saying something. -/
theorem renderer_send
    (h : room.Fits s listener [] d) {user text : String} {audience : Audience}
    (hproper : (Remark.said user text audience).Proper s.flavor) :
    (room.send user text audience).room.renderer.flavor = s.flavor ∧
      (s.flavor = .collapsing →
        (room.send user text audience).room.renderer.last = d.last) := by
  cases audience with
  | everyone => exact ⟨h.flavor, h.last⟩
  | only addressee =>
      have hpersonal := ((checkAudience_only_eq_ok_iff _ _).mp hproper.2).1
      constructor
      · by_cases hechoed : isEchoed text (.only addressee)
        · simp [Room.send, hechoed, Room.display, h.flavor]
        · simp [Room.send, hechoed, Room.done, h.flavor]
      · intro hcollapsing
        rw [hpersonal] at hcollapsing
        cases hcollapsing

/-- After something is said, it waits as a message if it comes back. -/
theorem send
    (h : room.Fits s listener [] d) {user text : String} {audience : Audience}
    (huser : d.user = some user) (hproper : (Remark.said user text audience).Proper s.flavor) :
    ∃ waiting,
      (room.send user text audience).room.Fits s listener waiting d ∧
      List.Forall₂ (News.ToldBy s listener) waiting
        (if s.comesBack user audience then [.remark (.said user text audience)] else []) := by
  obtain ⟨session, hsession, rfl, hlistener⟩ := h.exists_session huser
  have hserves := h.coupled.serves hsession
  have hin : room.user = some session.user := by simp [Room.user, hsession]
  have hmailbox := mailbox_send h.coupled hin (h.settings ▸ hproper) h.mailbox
  have hroom := send_room room session.user text audience
  have hhandshakes :
      (publish room.settings audience (sayEnvelope session.user text audience)
        room.transport).handshakes = room.transport.handshakes := by
    rw [hserves.publish_eq]
    split <;> rfl
  obtain ⟨hflavor, hlast⟩ := h.renderer_send hproper
  refine ⟨_, ⟨?_, ?_, hflavor, hmailbox, ?_, h.named, ?_, ?_, hlast⟩, ?_⟩
  · rw [hroom]
    exact coupled_of_serves hsession (hserves.publish _ _)
  · rw [hroom]
    exact h.settings
  · rw [hroom]
    exact h.occupant
  · rw [hroom]
    exact h.connected
  · rw [hroom]
    exact hhandshakes.trans h.handshakes
  · rw [h.settings]
    by_cases hback : s.comesBack session.user audience
    · rw [if_pos hback, if_pos hback]
      exact .cons (.remark hproper (h.named _ huser) rfl) .nil
    · rw [if_neg hback, if_neg hback]
      exact .nil

end Room.Fits

/-! ## Clients that fit -/

namespace Client

/-- The client fits the digest, and nothing waits for it. -/
structure Fits (c : Client) (s : Settings) (d : Digest) : Prop where
  audience : c.audience = d.audience
  room : ∃ listener, c.room.Fits s listener [] d

theorem fits_initial (s : Settings) : (initial s).Fits s {} where
  audience := rfl
  room := ⟨⟨0⟩, Room.coupled_empty s, rfl, rfl, rfl, rfl, by simp, rfl, rfl, fun _ => rfl⟩

/-- The client prints what the digest prints, and the two still fit. -/
def Agrees (c : Client) (s : Settings) (d : Digest) (command : Command) : Prop :=
  (c.respond command).1 = (d.step s.flavor command).1 ∧
    (c.respond command).2.Fits s (d.step s.flavor command).2

variable {c : Client} {s : Settings} {d : Digest} {command : Command}

/-- It is enough to know the turn of the command itself and what news waits after
it. -/
theorem agrees_of_obey
    {turn : Turn} (hobey : c.obey command = turn)
    {listener : Listener} {waiting : List Arrival} {between : Digest}
    (hfits : turn.client.room.Fits s listener waiting between)
    {news : List News} (htold : List.Forall₂ (News.ToldBy s listener) waiting news)
    (haudience : turn.client.audience = between.audience)
    (hstep : d.step s.flavor command =
      (turn.printed ++ (between.hearAll s.flavor news).1.map .line,
        (between.hearAll s.flavor news).2)) :
    c.Agrees s d command := by
  obtain ⟨hprinted, hsettled⟩ := hfits.settle htold
  rw [Agrees, hstep, respond, hobey]
  refine ⟨congrArg (turn.printed ++ ·) hprinted, ?_, listener, hsettled⟩
  rw [Digest.audience_hearAll]
  exact haudience

/-- The case in which no news waits. -/
theorem agrees_of_obey_nil
    {turn : Turn} (hobey : c.obey command = turn)
    {listener : Listener} {d' : Digest}
    (hfits : turn.client.room.Fits s listener [] d')
    (haudience : turn.client.audience = d'.audience)
    (hstep : d.step s.flavor command = (turn.printed, d')) :
    c.Agrees s d command := by
  refine agrees_of_obey hobey hfits .nil haudience ?_
  rw [hstep, Digest.hearAll]
  simp

/-! ### Each command -/

theorem agrees_join (h : c.Fits s d) (name : String) : c.Agrees s d (.join name) := by
  obtain ⟨listener, hfits⟩ := h.room
  have hverdict := Digest.nameAlert?_eq name
  cases hname : Room.checkUser name with
  | error refusal =>
      rw [hname] at hverdict
      have hobey : c.obey (.join name) = c.after (c.room.fail (.refused refusal)) := by
        simp [obey, Room.join, hname]
      refine agrees_of_obey_nil hobey hfits h.audience ?_
      simp [Digest.step, Digest.join, hverdict, after, Room.fail, printedOf]
  | ok u =>
      rw [hname] at hverdict
      obtain ⟨listener', waiting, hjoined, htold⟩ := hfits.join hname
      refine agrees_of_obey rfl hjoined htold h.audience ?_
      simp [Digest.step, Digest.join, hverdict, obey, after, Room.join, hname, Room.done,
        printedOf, Digest.hearAll, Digest.hear, Digest.remarkLine, Digest.lastAfter]

theorem agrees_leave (h : c.Fits s d) : c.Agrees s d .leave := by
  obtain ⟨listener, hfits⟩ := h.room
  exact agrees_of_obey_nil rfl hfits.leave h.audience rfl

theorem agrees_address (h : c.Fits s d) (audience : Audience) :
    c.Agrees s d (.address audience) := by
  obtain ⟨listener, hfits⟩ := h.room
  exact agrees_of_obey_nil rfl (hfits.withAudience audience) rfl rfl

theorem agrees_loseConnection (h : c.Fits s d) : c.Agrees s d .loseConnection := by
  obtain ⟨listener, hfits⟩ := h.room
  cases hconnected : d.connected with
  | false =>
      have hobey : c.obey .loseConnection = c.printing [.alert "not connected"] := by
        simp [obey, hfits.connected, hconnected]
      refine agrees_of_obey_nil hobey hfits h.audience ?_
      simp [Digest.step, Digest.loseConnection, hconnected, printing]
  | true =>
      have hobey : c.obey .loseConnection = (c.withTransport Loopback.stall).printing [] := by
        simp [obey, hfits.connected, hconnected]
      obtain ⟨waiting, hstalled, htold⟩ := hfits.stall
      refine agrees_of_obey hobey hstalled htold h.audience ?_
      cases huser : d.user with
      | none =>
          simp [Digest.step, Digest.loseConnection, hconnected, huser, printing,
            Digest.hearAll]
      | some user =>
          simp [Digest.step, Digest.loseConnection, hconnected, huser, printing,
            Digest.hearAll, Digest.hear]

theorem agrees_forgetClient (h : c.Fits s d) : c.Agrees s d .forgetClient := by
  obtain ⟨listener, hfits⟩ := h.room
  obtain ⟨waiting, hforgot, htold⟩ := hfits.forget
  refine agrees_of_obey rfl hforgot htold ?_ ?_
  · split <;> exact h.audience
  · cases huser : d.user with
    | none =>
        simp [Digest.step, Digest.forgetClient, huser, obey, printing, Digest.hearAll]
    | some user =>
        cases hconnected : d.connected with
        | false =>
            simp [Digest.step, Digest.forgetClient, huser, hconnected, obey, printing,
              Digest.hearAll, Digest.hear]
        | true =>
            simp [Digest.step, Digest.forgetClient, huser, hconnected, obey, printing,
              Digest.hearAll, Digest.hear]

/-- Refusing to say something is left to the audience once there is a text and a
user. -/
theorem obey_say
    (h : c.Fits s d) {user text : String} (htext : text ≠ "") (huser : d.user = some user) :
    c.obey (.say text) =
      match Room.checkAudience s.flavor d.audience with
      | .error refusal => c.after (c.room.fail (.refused refusal))
      | .ok () => c.after (c.room.send user text d.audience) := by
  obtain ⟨listener, hfits⟩ := h.room
  have hin : c.room.user = some user := hfits.user_eq.trans huser
  simp only [obey, Room.say, htext, if_false, hin, hfits.settings, h.audience]
  cases Room.checkAudience s.flavor d.audience <;> rfl

theorem agrees_say_everyone
    (h : c.Fits s d) {user text : String} (htext : text ≠ "") (huser : d.user = some user)
    (haudience : d.audience = .everyone) : c.Agrees s d (.say text) := by
  obtain ⟨listener, hfits⟩ := h.room
  have hobey := obey_say h htext huser
  have hchecked : Room.checkAudience s.flavor .everyone = .ok () := rfl
  rw [haudience, hchecked] at hobey
  have hproper : (Remark.said user text .everyone).Proper s.flavor := ⟨htext, rfl⟩
  have hlines := hfits.lines_send huser hproper
  obtain ⟨waiting, hsent, htold⟩ := hfits.send huser hproper
  refine agrees_of_obey hobey hsent htold h.audience ?_
  simp [Digest.step, Digest.say, htext, huser, haudience, after, hlines, Room.send_result,
    Room.isEchoed, printedOf, Settings.comesBack, Digest.hearAll, Digest.hear,
    Digest.remarkLine, Digest.lastAfter]

theorem agrees_say_only
    (h : c.Fits s d) {user text addressee : String} (htext : text ≠ "")
    (huser : d.user = some user) (haudience : d.audience = .only addressee) :
    c.Agrees s d (.say text) := by
  obtain ⟨listener, hfits⟩ := h.room
  have hobey := obey_say h htext huser
  have hverdict := Digest.addresseeAlert?_eq s.flavor addressee
  rw [haudience] at hobey
  cases hchecked : Room.checkAudience s.flavor (.only addressee) with
  | error refusal =>
      rw [hchecked] at hobey hverdict
      refine agrees_of_obey_nil hobey hfits h.audience ?_
      simp [Digest.step, Digest.say, htext, huser, haudience, hverdict, after, Room.fail,
        printedOf]
  | ok u =>
      rw [hchecked] at hobey hverdict
      have hpersonal := ((Room.checkAudience_only_eq_ok_iff _ _).mp hchecked).1
      have hback := Settings.comesBack_only_iff hpersonal user addressee
      have hproper : (Remark.said user text (.only addressee)).Proper s.flavor :=
        ⟨htext, hchecked⟩
      have hlines := hfits.lines_send huser hproper
      obtain ⟨waiting, hsent, htold⟩ := hfits.send huser hproper
      -- Whether the text is shown at once and whether it comes back do not depend on
      -- each other, so the two are computed apart.
      have hprinted : (c.after (c.room.send user text (.only addressee))).printed =
          if text.toList.head? = some '/' then []
          else [.line (Digest.privateLine user addressee text)] := by
        by_cases hslash : text.toList.head? = some '/'
        · simp [after, hlines, Room.send_result, Room.isEchoed, printedOf, hslash]
        · simp [after, hlines, Room.send_result, Room.isEchoed, printedOf, hslash,
            Digest.remarkLine]
      have hheard : d.hearAll s.flavor
          (if s.comesBack user (.only addressee) then
            [.remark (.said user text (.only addressee))] else []) =
          (if addressee = user ∨ addressee = "public" then
            [Digest.privateLine user addressee text] else [], d) := by
        by_cases hboth : addressee = user ∨ addressee = "public"
        · rw [if_pos (hback.mpr hboth), if_pos hboth]
          rfl
        · rw [if_neg (mt hback.mp hboth), if_neg hboth]
          rfl
      refine agrees_of_obey hobey hsent htold h.audience ?_
      rw [hprinted, hheard]
      by_cases hboth : addressee = user ∨ addressee = "public"
      · simp [Digest.step, Digest.say, htext, huser, haudience, hverdict, Digest.sayTo, hboth]
      · simp [Digest.step, Digest.say, htext, huser, haudience, hverdict, Digest.sayTo, hboth]

theorem agrees_say (h : c.Fits s d) (text : String) : c.Agrees s d (.say text) := by
  obtain ⟨listener, hfits⟩ := h.room
  by_cases htext : text = ""
  · have hobey : c.obey (.say text) = c.after (c.room.fail (.refused .noText)) := by
      simp [obey, Room.say, htext]
    refine agrees_of_obey_nil hobey hfits h.audience ?_
    simp [Digest.step, Digest.say, htext, after, Room.fail, printedOf, ChatError.message,
      Refusal.message]
  · cases huser : d.user with
    | none =>
        have hout := hfits.user_eq.trans huser
        have hobey : c.obey (.say text) = c.after (c.room.fail .outside) := by
          simp [obey, Room.say, htext, hout]
        refine agrees_of_obey_nil hobey hfits h.audience ?_
        simp [Digest.step, Digest.say, htext, huser, after, Room.fail, printedOf,
          ChatError.message]
    | some user =>
        cases haudience : d.audience with
        | everyone => exact agrees_say_everyone h htext huser haudience
        | only addressee => exact agrees_say_only h htext huser haudience

theorem agrees (h : c.Fits s d) (command : Command) : c.Agrees s d command := by
  obtain ⟨listener, hfits⟩ := h.room
  cases command with
  | join name => exact agrees_join h name
  | leave => exact agrees_leave h
  | address audience => exact agrees_address h audience
  | loseConnection => exact agrees_loseConnection h
  | forgetClient => exact agrees_forgetClient h
  | quit => exact agrees_of_obey_nil rfl hfits h.audience rfl
  | say text => exact agrees_say h text
  | unknown word => exact agrees_of_obey_nil rfl hfits h.audience rfl

/-! ### Lists of commands -/

theorem Fits.observe
    (h : c.Fits s d) (commands : List Command) :
    c.observe commands = d.observe s.flavor commands ∧
      (c.afterCommands commands).room.transport.waiting = [] := by
  induction commands generalizing c d with
  | nil =>
      obtain ⟨listener, hfits⟩ := h.room
      exact ⟨rfl, by simp [afterCommands, Loopback.waiting, hfits.mailbox]⟩
  | cons command rest ih =>
      obtain ⟨hprinted, hfits⟩ := agrees h command
      obtain ⟨hobserved, hwaiting⟩ := ih hfits
      obtain ⟨listener, hroom⟩ := hfits.room
      refine ⟨?_, hwaiting⟩
      simp only [Client.observe, Digest.observe, hobserved, hprinted, hroom.user_eq,
        hroom.connected]

/-- Whatever commands are given from the beginning, in rooms of either flavor, each
of them prints, and leaves to be noticed, exactly what the digest says, and nothing
waits to be heard in the end. -/
theorem observe_initial (s : Settings) (commands : List Command) :
    (initial s).observe commands = ({} : Digest).observe s.flavor commands ∧
      ((initial s).afterCommands commands).room.transport.waiting = [] :=
  (fits_initial s).observe commands

end Client
end BayeuxChat
