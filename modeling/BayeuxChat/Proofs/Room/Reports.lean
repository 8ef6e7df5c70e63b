import BayeuxChat.Proofs.Room.CallGrammar
import BayeuxChat.Proofs.Room.Failure
import BayeuxChat.Proofs.Room.Standing
import BayeuxChat.Proofs.Terminal.Hearing
import BayeuxChat.Proofs.Transport.Recording

/-!
# What a session makes of the events it hears

Of an event that a session hears only this is to be known to say what comes of it: which
events it has heard before.  A handshake tells the client's identity and, where there is a
single channel, is followed by another subscription unless it is the first.  A report on
the connection is told just if the one before was different, so that the loss of the
connection and its return are told by turns.  Where there are personal channels, the first
loss ends the session, and nothing comes of whatever follows.
-/

namespace BayeuxChat

/-- Whether it tells the client's new identity. -/
def MetaEvent.identifies (e : MetaEvent) : Bool :=
  decide (e.topic = .handshake) && e.successful

/-- The first `n` notices of a connection that is lost and returns by turns. -/
def Digest.interruptions (flavor : Flavor) (n : Nat) : List Line :=
  (List.range n).map fun i =>
    systemLine flavor (if i % 2 = 0 then "disconnected!" else "reconnected!")

namespace Room

variable {τ : Type} [Transport τ]

/-! ## Lines and calls -/

omit [Transport τ] in
/-- Where there is nothing to tell, the renderer does not change either. -/
theorem tell_nothing
    {room : Room τ} (hflavor : room.renderer.flavor = room.settings.flavor)
    (topic : MetaTopic) : room.tell topic "" = room.done := by
  have hlines : room.renderer.lines (newsEnvelope room.settings.flavor topic "") =
      ([], room.renderer) := by
    cases hsettings : room.settings.flavor with
    | personal => exact Renderer.lines_of_personal (hflavor.trans hsettings) _
    | collapsing =>
        apply Renderer.lines_of_wordless (hflavor.trans hsettings)
        cases topic <;> rfl
  simp only [tell, display, hlines, done]

omit [Transport τ] in
/-- News of the connection is told in a single line, unless there is nothing to tell. -/
theorem lines_tell
    {room : Room τ} (hflavor : room.renderer.flavor = room.settings.flavor)
    (topic : MetaTopic) (text : String) :
    (room.tell topic text).lines =
      if text = "" then [] else [Digest.systemLine room.settings.flavor text] := by
  by_cases htext : text = ""
  · rw [if_pos htext, htext, tell_nothing hflavor]
    rfl
  · rw [if_neg htext]
    exact (Renderer.lines_newsEnvelope hflavor topic htext).1

theorem transport_resubscribe (room : Room τ) :
    room.resubscribe.transport =
      if room.settings.flavor = .collapsing ∧ 1 < (room.session.map (·.handshakes)).getD 0 then
        Transport.subscribe (room.settings.channel .everyone) room.transport
      else room.transport := by
  simp only [resubscribe, and_comm]
  split <;> rfl

theorem calls_unsubscribeAll (channels : List String) (r : Recording τ) :
    (Transport.unsubscribeAll channels r).calls = r.calls ++ channels.map .unsubscribe := by
  induction channels generalizing r with
  | nil => simp [Transport.unsubscribeAll]
  | cons first rest ih =>
      rw [Transport.unsubscribeAll, List.foldl_cons, ← Transport.unsubscribeAll, ih]
      simp [Transport.unsubscribe, Recording.perform]

/-- The calls made when something is heard, by what has become of the recorded transport. -/
theorem callsOf_hear
    {room : Room τ} {x : Arrival} {t : Recording τ}
    (h : (room.recorded.hear x).room.transport = t) : room.callsOf (.hear x) = t.calls :=
  congrArg Recording.calls h

/-- The calls by which a session ends, over any transport. -/
theorem calls_leave_recorded
    {room : Room τ} {session : Session} (hsession : room.session = some session) :
    room.recorded.leave.transport.calls =
      room.settings.leaveCalls session.user session.listener := by
  simp [leave, recorded, hsession, Transport.batch, calls_unsubscribeAll,
    Settings.map_channelsOf, publish, Settings.encode_leaveEnvelope, Transport.unlisten,
    Transport.beginBatch, Transport.publish, Transport.endBatch, Transport.disconnect,
    Recording.perform, Settings.leaveCalls]

/-! ## A session and what it has heard -/

/-- The room is in a session of `user`, who listens as `listener` and has heard just
`heard`. -/
structure HasHeard
    (room : Room τ) (s : Settings) (user : String) (listener : Listener)
    (heard : List MetaEvent) : Prop where
  settings : room.settings = s
  flavor : room.renderer.flavor = s.flavor
  session : room.session = some
    { user := user
      listener := listener
      confirmed := heard.any (·.confirms)
      handshakes := heard.countP (·.identifies) }
  connected : room.connected = (MetaEvent.lastReport? heard).getD true

namespace HasHeard

variable {room : Room τ} {s : Settings} {user : String} {listener : Listener}
variable {heard : List MetaEvent} {e : MetaEvent}

omit [Transport τ] in
theorem recorded (h : room.HasHeard s user listener heard) :
    room.recorded.HasHeard s user listener heard :=
  ⟨h.settings, h.flavor, h.session, h.connected⟩

theorem hear_eq (h : room.HasHeard s user listener heard) (e : MetaEvent) :
    room.hear (.event listener e) = room.hearEvent e := by
  simp [hear, h.session]

omit [Transport τ] in
theorem lines_tell (h : room.HasHeard s user listener heard) (topic : MetaTopic)
    (text : String) :
    (room.tell topic text).lines =
      if text = "" then [] else [Digest.systemLine s.flavor text] := by
  rw [← h.settings]
  exact Room.lines_tell (h.flavor.trans (congrArg Settings.flavor h.settings.symm)) topic text

omit [Transport τ] in
/-- What is needed of a room that has heard one more event in the same session. -/
theorem concat
    (h : room.HasHeard s user listener heard) {after : Room τ}
    (hsettings : after.settings = room.settings)
    (hflavor : after.renderer.flavor = room.renderer.flavor)
    (hsession : after.session = some
      { user := user
        listener := listener
        confirmed := heard.any (·.confirms) || e.confirms
        handshakes := heard.countP (·.identifies) + if e.identifies then 1 else 0 })
    (hconnected : after.connected = if e.topic = .connect then e.successful else room.connected) :
    after.HasHeard s user listener (heard ++ [e]) where
  settings := hsettings.trans h.settings
  flavor := hflavor.trans h.flavor
  session := by
    rw [hsession, List.any_append, List.countP_append, List.countP_singleton]
    simp
  connected := by
    rw [hconnected, MetaEvent.lastReport?_concat, h.connected]
    split <;> rfl

theorem identified
    (h : room.HasHeard s user listener heard)
    (htopic : e.topic = .handshake) (hsuccessful : e.successful = true) :
    let o := room.hear (.event listener e)
    o.lines =
        [Digest.systemLine s.flavor
          ("reinitialized client id: " ++ e.reply.clientId.getD "")] ∧
      o.room.transport =
        (if s.flavor = .collapsing ∧ heard.any (·.identifies) = true then
          Transport.subscribe (s.channel .everyone) room.transport
        else room.transport) ∧
      o.room.HasHeard s user listener (heard ++ [e]) := by
  intro o
  have ho : o = room.hearHandshake true e.reply := by
    simp only [o, h.hear_eq, hearEvent, htopic, hsuccessful]
  have hidentifies : e.identifies = true := by simp [MetaEvent.identifies, htopic, hsuccessful]
  have hconfirms : e.confirms = true := by simp [MetaEvent.confirms, htopic, hsuccessful]
  rw [ho]
  refine ⟨?_, ?_, ?_⟩
  · have htold := h.lines_tell .handshake ("reinitialized client id: " ++ e.reply.clientId.getD "")
    rwa [if_neg (by simp)] at htold
  · have hagain : 1 < heard.countP (·.identifies) + 1 ↔ heard.any (·.identifies) = true := by
      rw [Nat.lt_add_left_iff_pos, List.countP_pos_iff, List.any_eq_true]
    simp only [hearHandshake, if_true, confirm, transport_resubscribe]
    simp [tell, display, countHandshake, h.settings, h.session, hagain]
  · refine h.concat ?_ ?_ ?_ ?_
    · simp [hearHandshake, confirm, tell, display, countHandshake]
    · simp [hearHandshake, confirm, tell, display, countHandshake, Renderer.flavor_lines]
    · simp [hearHandshake, confirm, tell, display, countHandshake, h.session, hidentifies,
        hconfirms]
    · simp [hearHandshake, confirm, tell, display, countHandshake, htopic]

/-- A failed handshake is told, and that is all. -/
theorem rejected
    (h : room.HasHeard s user listener heard)
    (htopic : e.topic = .handshake) (hsuccessful : e.successful = false) :
    let o := room.hear (.event listener e)
    o.lines =
        (if e.reply.error.getD "" = "" then []
        else [Digest.systemLine s.flavor (e.reply.error.getD "")]) ∧
      o.room = { room with renderer := o.room.renderer } ∧
      (e.reply.error.getD "" = "" → o = room.done) ∧
      o.room.HasHeard s user listener (heard ++ [e]) := by
  intro o
  have ho : o = room.tell .handshake (e.reply.error.getD "") := by
    simp only [o, h.hear_eq, hearEvent, htopic, hsuccessful, hearHandshake, Bool.false_eq_true,
      if_false]
  have hidentifies : e.identifies = false := by simp [MetaEvent.identifies, hsuccessful]
  have hconfirms : e.confirms = false := by simp [MetaEvent.confirms, hsuccessful]
  rw [ho]
  refine ⟨h.lines_tell _ _, rfl, ?_, ?_⟩
  · intro hempty
    rw [hempty]
    exact tell_nothing (h.flavor.trans (congrArg Settings.flavor h.settings.symm)) _
  · refine h.concat rfl (Renderer.flavor_lines _ _) ?_ ?_
    · simp [tell, display, h.session, hidentifies, hconfirms]
    · simp [tell, display, htopic]

/-- A report that the connection is there is told if it was not. -/
theorem answered
    (h : room.HasHeard s user listener heard)
    (htopic : e.topic = .connect) (hsuccessful : e.successful = true) :
    let o := room.hear (.event listener e)
    o.lines =
        (if room.connected = true then [] else [Digest.systemLine s.flavor "reconnected!"]) ∧
      o.room.transport = room.transport ∧
      o.room.HasHeard s user listener (heard ++ [e]) := by
  intro o
  have ho : o = room.hearAnswered := by
    simp only [o, h.hear_eq, hearEvent, htopic, hsuccessful, if_true]
  have hidentifies : e.identifies = false := by simp [MetaEvent.identifies, htopic]
  have hconfirms : e.confirms = true := by simp [MetaEvent.confirms, htopic, hsuccessful]
  rw [ho, hearAnswered]
  cases hconnected : room.connected with
  | true =>
      refine ⟨rfl, rfl, h.concat rfl rfl ?_ ?_⟩
      · simp [confirm, done, h.session, hidentifies, hconfirms]
      · simp [confirm, htopic, hsuccessful]
  | false =>
      refine ⟨?_, rfl, h.concat rfl (Renderer.flavor_lines _ _) ?_ ?_⟩
      · exact (h.lines_tell .connect "reconnected!").trans (if_neg (by decide))
      · simp [confirm, tell, display, h.session, hidentifies, hconfirms]
      · simp [confirm, htopic, hsuccessful]

/-- Where there is a single channel, a lost connection is told if it was there. -/
theorem unanswered_of_collapsing
    (h : room.HasHeard s user listener heard) (hflavor : s.flavor = .collapsing)
    (htopic : e.topic = .connect) (hsuccessful : e.successful = false) :
    let o := room.hear (.event listener e)
    o.lines =
        (if room.connected = true then [Digest.systemLine s.flavor "disconnected!"] else []) ∧
      o.room.transport = room.transport ∧
      o.room.HasHeard s user listener (heard ++ [e]) := by
  intro o
  have ho : o = room.hearUnanswered := by
    simp only [o, h.hear_eq, hearEvent, htopic, hsuccessful, Bool.false_eq_true, if_false]
  have hidentifies : e.identifies = false := by simp [MetaEvent.identifies, htopic]
  have hconfirms : e.confirms = false := by simp [MetaEvent.confirms, hsuccessful]
  rw [ho]
  rcases hearUnanswered_cases room with
    ⟨hlost, hhear⟩ | ⟨hthere, -, hhear⟩ | ⟨-, hpersonal, -⟩
  · rw [hhear, hlost]
    refine ⟨rfl, rfl, h.concat rfl rfl ?_ ?_⟩
    · simp [done, h.session, hidentifies, hconfirms]
    · simp [done, hlost, htopic, hsuccessful]
  · rw [hhear, hthere]
    refine ⟨?_, rfl, h.concat rfl (Renderer.flavor_lines _ _) ?_ ?_⟩
    · exact (h.lines_tell .connect "disconnected!").trans (if_neg (by decide))
    · simp [tell, display, h.session, hidentifies, hconfirms]
    · simp [htopic, hsuccessful]
  · rw [h.settings, hflavor] at hpersonal
    cases hpersonal

/-- Where there are personal channels, the user leaves when the connection is lost. -/
theorem unanswered_of_personal
    (h : room.HasHeard s user listener heard) (hflavor : s.flavor = .personal)
    (hconnected : room.connected = true)
    (htopic : e.topic = .connect) (hsuccessful : e.successful = false) :
    let o := room.hear (.event listener e)
    o.lines = [Digest.systemLine s.flavor "disconnected!"] ∧
      o.room.transport = room.leave.transport ∧ o.room.session = none := by
  intro o
  have ho : o = room.hearUnanswered := by
    simp only [o, h.hear_eq, hearEvent, htopic, hsuccessful, Bool.false_eq_true, if_false]
  rw [ho]
  rcases hearUnanswered_cases room with
    ⟨hlost, -⟩ | ⟨-, hcollapsing, -⟩ | ⟨-, -, hhear⟩
  · cases hlost.symm.trans hconnected
  · rw [h.settings, hflavor] at hcollapsing
    cases hcollapsing
  · rw [hhear]
    refine ⟨?_, ?_, session_leave _⟩
    · exact (h.lines_tell .connect "disconnected!").trans (if_neg (by decide))
    · simp [leave, tell, display, h.session]

theorem unconcerned
    (h : room.HasHeard s user listener heard) (htopic : e.topic = .other) :
    room.hear (.event listener e) = room.done ∧
      room.HasHeard s user listener (heard ++ [e]) := by
  have hidentifies : e.identifies = false := by simp [MetaEvent.identifies, htopic]
  have hconfirms : e.confirms = false := by simp [MetaEvent.confirms, htopic]
  refine ⟨by simp only [h.hear_eq, hearEvent, htopic], h.concat rfl rfl ?_ ?_⟩
  · simp [h.session, hidentifies, hconfirms]
  · simp [htopic]

omit [Transport τ] in
/-- Where there are personal channels, a session has heard of no loss while it lasts. -/
theorem connected_of_no_loss
    (h : room.HasHeard s user listener heard)
    (hlasting : heard.any (·.reportsLoss) = false) : room.connected = true := by
  rw [h.connected]
  apply MetaEvent.lastReport?_getD_of_no_loss
  simpa using hlasting

end HasHeard

/-! ## What comes of an event -/

/-- What comes of the event `e` in a session of `user` that has heard `heard`. -/
structure Tells
    (room : Room τ) (s : Settings) (user : String) (listener : Listener)
    (heard : List MetaEvent) (e : MetaEvent) : Prop where
  result : (room.hear (.event listener e)).result = .ok ()
  identified : e.topic = .handshake → e.successful = true →
    (room.hear (.event listener e)).lines =
        [Digest.systemLine s.flavor
          ("reinitialized client id: " ++ e.reply.clientId.getD "")] ∧
      room.callsOf (.hear (.event listener e)) =
        if s.flavor = .collapsing ∧ heard.any (·.identifies) = true then
          [.subscribe (s.channel .everyone)]
        else []
  rejected : e.topic = .handshake → e.successful = false →
    (room.hear (.event listener e)).lines =
        (if e.reply.error.getD "" = "" then []
        else [Digest.systemLine s.flavor (e.reply.error.getD "")]) ∧
      room.callsOf (.hear (.event listener e)) = [] ∧
      (room.hear (.event listener e)).room =
        { room with renderer := (room.hear (.event listener e)).room.renderer } ∧
      (e.reply.error.getD "" = "" → room.hear (.event listener e) = room.done)
  reported : e.topic = .connect →
    (room.hear (.event listener e)).lines =
        (if e.successful = (MetaEvent.lastReport? heard).getD true then []
        else [Digest.systemLine s.flavor
          (if e.successful = true then "reconnected!" else "disconnected!")]) ∧
      (room.callsOf (.hear (.event listener e)) =
        if s.flavor = .personal ∧ e.successful = false then s.leaveCalls user listener
        else []) ∧
      (s.flavor = .personal → e.successful = false →
        (room.hear (.event listener e)).room.session = none)
  unconcerned : e.topic = .other →
    room.hear (.event listener e) = room.done ∧
      room.callsOf (.hear (.event listener e)) = []

namespace HasHeard

variable {room : Room τ} {s : Settings} {user : String} {listener : Listener}
variable {heard : List MetaEvent} {e : MetaEvent}

/-- What comes of a report on the connection. -/
theorem reported
    (h : room.HasHeard s user listener heard)
    (hlasting : s.flavor = .personal → heard.any (·.reportsLoss) = false)
    (htopic : e.topic = .connect) :
    (room.hear (.event listener e)).lines =
        (if e.successful = (MetaEvent.lastReport? heard).getD true then []
        else [Digest.systemLine s.flavor
          (if e.successful = true then "reconnected!" else "disconnected!")]) ∧
      (room.callsOf (.hear (.event listener e)) =
        if s.flavor = .personal ∧ e.successful = false then s.leaveCalls user listener
        else []) ∧
      (s.flavor = .personal → e.successful = false →
        (room.hear (.event listener e)).room.session = none) := by
  rw [← h.connected]
  cases hsuccessful : e.successful with
  | true =>
      obtain ⟨hlines, -⟩ := h.answered htopic hsuccessful
      obtain ⟨-, htransport, -⟩ := h.recorded.answered htopic hsuccessful
      refine ⟨?_, ?_, fun _ hfailed => (by cases hfailed)⟩
      · rw [hlines]
        cases room.connected <;> rfl
      · rw [callsOf_hear htransport, if_neg (by simp)]
        rfl
  | false =>
      cases hflavor : s.flavor with
      | collapsing =>
          obtain ⟨hlines, -⟩ := h.unanswered_of_collapsing hflavor htopic hsuccessful
          obtain ⟨-, htransport, -⟩ :=
            h.recorded.unanswered_of_collapsing hflavor htopic hsuccessful
          refine ⟨?_, ?_, fun hpersonal => (by cases hpersonal)⟩
          · rw [hlines, hflavor]
            cases room.connected <;> rfl
          · rw [callsOf_hear htransport, if_neg (by simp)]
            rfl
      | personal =>
          have hconnected := h.connected_of_no_loss (hlasting hflavor)
          obtain ⟨hlines, -, hsession⟩ :=
            h.unanswered_of_personal hflavor hconnected htopic hsuccessful
          obtain ⟨-, htransport, -⟩ :=
            h.recorded.unanswered_of_personal hflavor hconnected htopic hsuccessful
          refine ⟨?_, ?_, fun _ _ => hsession⟩
          · rw [hlines, hflavor, hconnected]
            rfl
          · rw [callsOf_hear htransport, if_pos ⟨rfl, rfl⟩, calls_leave_recorded h.session,
              h.settings]

/-- In a session that lasts, all of this comes of an event. -/
theorem tells
    (h : room.HasHeard s user listener heard)
    (hlasting : s.flavor = .personal → heard.any (·.reportsLoss) = false) (e : MetaEvent) :
    room.Tells s user listener heard e := by
  refine ⟨hear_event_result room listener e, ?_, ?_, h.reported hlasting, ?_⟩
  · intro htopic hsuccessful
    obtain ⟨hlines, -⟩ := h.identified htopic hsuccessful
    obtain ⟨-, htransport, -⟩ := h.recorded.identified htopic hsuccessful
    refine ⟨hlines, (callsOf_hear htransport).trans ?_⟩
    split <;> rfl
  · intro htopic hsuccessful
    obtain ⟨hlines, hroom, hnothing, -⟩ := h.rejected htopic hsuccessful
    obtain ⟨-, hrecorded, -⟩ := h.recorded.rejected htopic hsuccessful
    exact ⟨hlines, callsOf_hear (congrArg Room.transport hrecorded), hroom, hnothing⟩
  · intro htopic
    obtain ⟨hdone, -⟩ := h.unconcerned htopic
    obtain ⟨hrecorded, -⟩ := h.recorded.unconcerned htopic
    exact ⟨hdone, callsOf_hear (congrArg (fun o => o.room.transport) hrecorded)⟩

/-- The session lasts with one more event heard, unless the event is a loss that ends it. -/
theorem next
    (h : room.HasHeard s user listener heard)
    (hlasting : s.flavor = .personal → heard.any (·.reportsLoss) = false) (e : MetaEvent) :
    (s.flavor = .personal ∧ e.reportsLoss = true ∧
        (room.hear (.event listener e)).room.session = none) ∨
      ((s.flavor = .personal → e.reportsLoss = false) ∧
        (room.hear (.event listener e)).room.HasHeard s user listener (heard ++ [e])) := by
  cases htopic : e.topic with
  | handshake =>
      refine .inr ⟨fun _ => by simp [MetaEvent.reportsLoss, htopic], ?_⟩
      cases hsuccessful : e.successful with
      | true => exact (h.identified htopic hsuccessful).2.2
      | false => exact (h.rejected htopic hsuccessful).2.2.2
  | other =>
      obtain ⟨hdone, hheard⟩ := h.unconcerned htopic
      refine .inr ⟨fun _ => by simp [MetaEvent.reportsLoss, htopic], ?_⟩
      rw [hdone]
      exact hheard
  | connect =>
      cases hsuccessful : e.successful with
      | true =>
          refine .inr ⟨fun _ => by simp [MetaEvent.reportsLoss, hsuccessful], ?_⟩
          exact (h.answered htopic hsuccessful).2.2
      | false =>
          have hloss : e.reportsLoss = true := by
            simp [MetaEvent.reportsLoss, htopic, hsuccessful]
          cases hflavor : s.flavor with
          | personal =>
              have hconnected := h.connected_of_no_loss (hlasting hflavor)
              obtain ⟨-, -, hsession⟩ :=
                h.unanswered_of_personal hflavor hconnected htopic hsuccessful
              exact .inl ⟨rfl, hloss, hsession⟩
          | collapsing =>
              refine .inr ⟨fun hpersonal => (by cases hpersonal), ?_⟩
              exact (h.unanswered_of_collapsing hflavor htopic hsuccessful).2.2

end HasHeard

/-! ## What comes of all events -/

/-- The room after `listener` has been told of some events. -/
def afterReports (room : Room τ) (listener : Listener) (es : List MetaEvent) : Room τ :=
  room.afterSteps (es.map fun e => .hear (.event listener e))

/-- The lines by which the room tells of the connection as `listener` is told of events. -/
def connectionLines (room : Room τ) (listener : Listener) : List MetaEvent → List Line
  | [] => []
  | e :: later =>
    (if e.topic = .connect then (room.hear (.event listener e)).lines else []) ++
      (room.hear (.event listener e)).room.connectionLines listener later

@[simp] theorem afterReports_concat
    (room : Room τ) (listener : Listener) (es : List MetaEvent) (e : MetaEvent) :
    room.afterReports listener (es ++ [e]) =
      ((room.afterReports listener es).hear (.event listener e)).room := by
  simp [afterReports, Room.step]

theorem connectionLines_concat
    (room : Room τ) (listener : Listener) (es : List MetaEvent) (e : MetaEvent) :
    room.connectionLines listener (es ++ [e]) =
      room.connectionLines listener es ++
        if e.topic = .connect then
          ((room.afterReports listener es).hear (.event listener e)).lines
        else [] := by
  induction es generalizing room with
  | nil => simp [connectionLines, afterReports, afterSteps]
  | cons first rest ih =>
      rw [List.cons_append, connectionLines, connectionLines, ih, List.append_assoc]
      rfl

theorem hear_event_of_no_session
    {room : Room τ} (hsession : room.session = none) (listener : Listener) (e : MetaEvent) :
    room.hear (.event listener e) = room.done ∧
      room.callsOf (.hear (.event listener e)) = [] := by
  have hnobody : room.session.map (·.listener) ≠ some listener := by
    simp [hsession]
  have hnobodyRecorded : room.recorded.session.map (·.listener) ≠ some listener := hnobody
  have hrecorded := hear_event_of_ne hnobodyRecorded e
  exact ⟨hear_event_of_ne hnobody e, congrArg (fun o => o.room.transport.calls) hrecorded⟩

/-- A session has ended with the first loss that it has heard, where there are personal
channels, and else it has heard all events. -/
theorem afterReports_cases
    {room : Room τ} {s : Settings} {user : String} {listener : Listener}
    (h : room.HasHeard s user listener []) (es : List MetaEvent) :
    (s.flavor = .personal ∧ es.any (·.reportsLoss) = true ∧
        (room.afterReports listener es).session = none) ∨
      ((s.flavor = .personal → es.any (·.reportsLoss) = false) ∧
        (room.afterReports listener es).HasHeard s user listener es) := by
  induction es using List.reverseRecOn with
  | nil => exact .inr ⟨fun _ => rfl, h⟩
  | append_singleton es e ih =>
      rw [afterReports_concat]
      have hany : (es ++ [e]).any (·.reportsLoss) = (es.any (·.reportsLoss) || e.reportsLoss) := by
        simp
      rw [hany]
      rcases ih with ⟨hflavor, hlost, hsession⟩ | ⟨hlasting, hheard⟩
      · rw [(hear_event_of_no_session hsession listener e).1]
        exact .inl ⟨hflavor, by rw [hlost, Bool.true_or], hsession⟩
      · rcases hheard.next hlasting e with ⟨hflavor, hloss, hsession⟩ | ⟨hkept, hnext⟩
        · exact .inl ⟨hflavor, by rw [hloss, Bool.or_true], hsession⟩
        · refine .inr ⟨?_, hnext⟩
          intro hflavor
          rw [hlasting hflavor, hkept hflavor, Bool.or_false]

theorem interruptions_succ (flavor : Flavor) (n : Nat) :
    Digest.interruptions flavor (n + 1) =
      Digest.interruptions flavor n ++
        [Digest.systemLine flavor (if n % 2 = 0 then "disconnected!" else "reconnected!")] := by
  simp [Digest.interruptions, List.range_succ]

/-- The connection is told to be lost and to be back by turns: its loss comes next just if
it was there when last heard of. -/
theorem exists_interruptions
    {room : Room τ} {s : Settings} {user : String} {listener : Listener}
    (h : room.HasHeard s user listener []) (es : List MetaEvent) :
    ∃ n, room.connectionLines listener es = Digest.interruptions s.flavor n ∧
      (s.flavor = .personal → n ≤ 1) ∧
      ((s.flavor = .personal → es.any (·.reportsLoss) = false) →
        (n % 2 = 0 ↔ (MetaEvent.lastReport? es).getD true = true)) := by
  induction es using List.reverseRecOn with
  | nil => exact ⟨0, rfl, fun _ => Nat.zero_le 1, fun _ => by simp [MetaEvent.lastReport?]⟩
  | append_singleton es e ih =>
      obtain ⟨n, hlines, hbound, hturn⟩ := ih
      rw [connectionLines_concat, hlines]
      rcases afterReports_cases h es with ⟨hflavor, hlost, hsession⟩ | ⟨hlasting, hheard⟩
      · -- The session has ended, and nothing more is told.
        refine ⟨n, ?_, hbound, ?_⟩
        · rw [(hear_event_of_no_session hsession listener e).1]
          simp [done]
        · intro hno
          have hkept := hno hflavor
          simp [hlost] at hkept
      · have hturn := hturn hlasting
        by_cases htopic : e.topic = .connect
        · obtain ⟨htold, -, -⟩ := (hheard.tells hlasting e).reported htopic
          rw [if_pos htopic, htold, MetaEvent.lastReport?_concat, if_pos htopic]
          by_cases hsame : e.successful = (MetaEvent.lastReport? es).getD true
          · refine ⟨n, by rw [if_pos hsame, List.append_nil], hbound, fun _ => ?_⟩
            rw [hturn, ← hsame]
            rfl
          · have hchange : n % 2 = 0 ↔ e.successful = false := by
              rw [hturn, Bool.eq_not.mpr hsame]
              simp
            rw [if_neg hsame]
            refine ⟨n + 1, ?_, ?_, fun _ => ?_⟩
            · rw [interruptions_succ]
              cases hsuccessful : e.successful with
              | true => simp [hchange, hsuccessful]
              | false => simp [hchange, hsuccessful]
            · intro hflavor
              have hthere := hheard.connected_of_no_loss (hlasting hflavor)
              rw [hheard.connected] at hthere
              have heven := hturn.mpr hthere
              have hle := hbound hflavor
              omega
            · rw [Option.getD_some]
              cases hsuccessful : e.successful with
              | true =>
                  have hodd : ¬n % 2 = 0 := by simp [hchange, hsuccessful]
                  exact iff_of_true (by omega) rfl
              | false =>
                  have heven : n % 2 = 0 := by simp [hchange, hsuccessful]
                  exact iff_of_false (by omega) Bool.false_ne_true
        · refine ⟨n, by rw [if_neg htopic, List.append_nil], hbound, fun _ => ?_⟩
          rw [MetaEvent.lastReport?_concat, if_neg htopic]
          exact hturn

/-! ## Sessions -/

/-- A user who has just joined has heard nothing. -/
theorem exists_hasHeard_join
    (s : Settings) (t : τ) (before : List (Happening τ)) {name : String}
    (hname : checkUser name = .ok ()) :
    ∃ listener,
      (((empty s t).afterRun before).join name).room.session.map (·.listener) = some listener ∧
        (((empty s t).afterRun before).join name).room.HasHeard s name listener [] := by
  rw [join_of_ok _ hname]
  refine ⟨_, rfl, ?_, ?_, rfl, rfl⟩
  · exact (settings_leave _).trans (settings_afterRun _ before)
  · exact (congrArg Renderer.flavor (renderer_leave _)).trans (flavor_renderer_afterRun s t before)

/-- After any run, somebody joins and then hears events, and nothing else happens.  In a
session that lasts, a successful handshake is told with the client's identity and, where
there is a single channel, followed by a subscription to it unless it is the first; a
failed one is told if there is an error, and changes nothing.  A report on the connection
is told just if it differs from the one before, of which the first is taken to be that the
connection is there; where there are personal channels, the user leaves at the first loss.
Nothing comes of anything else, nor of what is heard after that.  So the connection is told
to be lost and to be back by turns, and never to be back where there are personal
channels. -/
theorem reports_of_session
    (s : Settings) (t : τ) (before : List (Happening τ)) {name : String}
    (hname : checkUser name = .ok ()) :
    let room := (((empty s t).afterRun before).join name).room
    ∃ listener, room.session.map (·.listener) = some listener ∧
      (∀ heard e,
        let here := room.afterReports listener heard
        ((s.flavor = .personal → heard.any (·.reportsLoss) = false) →
          here.Tells s name listener heard e) ∧
        (s.flavor = .personal → heard.any (·.reportsLoss) = true →
          here.session = none ∧ here.hear (.event listener e) = here.done ∧
            here.callsOf (.hear (.event listener e)) = [])) ∧
      ∀ es, ∃ n, room.connectionLines listener es = Digest.interruptions s.flavor n ∧
        (s.flavor = .personal → n ≤ 1) := by
  intro room
  obtain ⟨listener, hlistener, hroom⟩ := exists_hasHeard_join s t before hname
  refine ⟨listener, hlistener, ?_, ?_⟩
  · intro heard e here
    rcases afterReports_cases hroom heard with ⟨hflavor, hlost, hsession⟩ | ⟨hlasting, hheard⟩
    · refine ⟨?_, fun _ _ => ⟨hsession, hear_event_of_no_session hsession listener e⟩⟩
      intro hno
      cases (hno hflavor).symm.trans hlost
    · refine ⟨fun _ => hheard.tells hlasting e, ?_⟩
      intro hflavor hlost
      cases (hlasting hflavor).symm.trans hlost
  · intro es
    obtain ⟨n, hlines, hbound, -⟩ := exists_interruptions hroom es
    exact ⟨n, hlines, hbound⟩

/-- Carol's client is given a second identity where there is a single channel. -/
theorem reports_of_session_of_carol :
    let s : Settings := { flavor := .collapsing }
    let room := (((empty s ({} : Journal)).afterRun []).join "carol").room
    checkUser "carol" = .ok () ∧
      ∃ listener, room.session.map (·.listener) = some listener ∧
        let here := room.afterReports listener [.welcomed "1f", .unanswered]
        (here.hear (.event listener (.welcomed "20"))).lines =
            [Digest.systemLine .collapsing ("reinitialized client id: " ++ "20")] ∧
          here.callsOf (.hear (.event listener (.welcomed "20"))) =
            [.subscribe (s.channel .everyone)] := by
  intro s room
  have hname : checkUser "carol" = .ok () := rfl
  obtain ⟨listener, hlistener, hevents, -⟩ := reports_of_session s ({} : Journal) [] hname
  obtain ⟨htells, -⟩ := hevents [.welcomed "1f", .unanswered] (.welcomed "20")
  have hlasting : s.flavor = .personal →
      [MetaEvent.welcomed "1f", .unanswered].any (·.reportsLoss) = false := by
    intro hpersonal
    cases hpersonal
  obtain ⟨hlines, hcalls⟩ := (htells hlasting).identified rfl rfl
  exact ⟨hname, listener, hlistener, hlines, hcalls⟩

end Room
end BayeuxChat
