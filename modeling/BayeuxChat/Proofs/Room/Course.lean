import BayeuxChat.Proofs.Room.Rendering

/-!
# What a renderer's memory has a part in

A step decides what is done, what is shown and what comes of it; the renderer only puts
what is shown into lines.  So two rooms that differ in nothing but their renderers' memory
take the same course, and only titles can tell them apart.
-/

namespace BayeuxChat

/-- The lines for what is shown, if anything is, and the renderer after it. -/
def Renderer.linesOf? (r : Renderer) : Option Envelope → List Line × Renderer
  | none => ([], r)
  | some envelope => r.lines envelope

theorem Renderer.flavor_linesOf? (r : Renderer) (shown : Option Envelope) :
    (r.linesOf? shown).2.flavor = r.flavor := by
  cases shown with
  | none => rfl
  | some envelope => exact flavor_lines r envelope

/-- The room with another renderer. -/
def Room.withRenderer {τ : Type} (room : Room τ) (r : Renderer) : Room τ :=
  { room with renderer := r }

/-- What comes of a step, up to the renderer. -/
structure Course (τ : Type) where
  result : Except ChatError Unit
  /-- What is shown, before it is put into lines. -/
  shown : Option Envelope
  /-- The room after the step, with any renderer. -/
  room : Room τ

/-- The outcome of a course for a renderer. -/
def Course.render {τ : Type} (c : Course τ) (r : Renderer) : Outcome τ :=
  { result := c.result
    lines := (r.linesOf? c.shown).1
    room := c.room.withRenderer (r.linesOf? c.shown).2 }

namespace Room

variable {τ : Type} [Transport τ]

/-- The room takes the course by the step, whatever its renderer remembers.  Where lines
are collapsed, what is shown announces something or is what a message says. -/
structure Takes (room : Room τ) (step : RoomStep) (c : Course τ) : Prop where
  step_eq : ∀ r, r.flavor = room.settings.flavor →
    (room.withRenderer r).step step = c.render r
  shown : ∀ envelope, c.shown = some envelope → room.settings.flavor = .collapsing →
    envelope.isAnnouncement = true ∨
      ∃ m, step = .hear (.message m) ∧ Envelope.ofMessage .collapsing m = .ok envelope

/-- The course of a step that shows nothing. -/
theorem exists_takes_of_silent
    {room : Room τ} {step : RoomStep} (result : Except ChatError Unit) (after : Room τ)
    (h : ∀ r, (room.withRenderer r).step step =
      { result := result, lines := [], room := after.withRenderer r }) :
    ∃ c, room.Takes step c :=
  ⟨{ result := result, shown := none, room := after }, fun r _ => h r,
    fun _ henvelope => by cases henvelope⟩

theorem exists_takes_of_fail
    {room : Room τ} {step : RoomStep} (e : ChatError)
    (h : ∀ r, (room.withRenderer r).step step = (room.withRenderer r).fail e) :
    ∃ c, room.Takes step c :=
  exists_takes_of_silent (.error e) room h

/-! ## Joining, leaving, saying -/

theorem leave_withRenderer (room : Room τ) (r : Renderer) :
    (room.withRenderer r).leave = room.leave.withRenderer r := by
  cases hsession : room.session <;> simp [leave, withRenderer, hsession]

theorem exists_takes_join (room : Room τ) (name : String) :
    ∃ c, room.Takes (.join name) c := by
  cases hname : checkUser name with
  | error refusal =>
      exact exists_takes_of_fail (.refused refusal) fun r => by simp only [Room.step, join, hname]
  | ok u =>
      refine exists_takes_of_silent (.ok ()) (room.leave.enter name) fun r => ?_
      rw [Room.step, join_of_ok _ hname, leave_withRenderer]
      rfl

theorem exists_takes_leave (room : Room τ) : ∃ c, room.Takes .leave c := by
  refine exists_takes_of_silent (.ok ()) room.leave fun r => ?_
  rw [Room.step, leave_withRenderer]
  rfl

/-- What is sent is shown only where the audience can be one user, and so nothing is
collapsed. -/
theorem exists_takes_send
    {room : Room τ} {text : String} {audience : Audience} (user : String)
    (haudience : checkAudience room.settings.flavor audience = .ok ())
    (h : ∀ r, (room.withRenderer r).step (.say text audience) =
      (room.withRenderer r).send user text audience) :
    ∃ c, room.Takes (.say text audience) c := by
  let envelope := sayEnvelope user text audience
  let after : Room τ :=
    { room with transport := publish room.settings audience envelope room.transport }
  cases hechoed : isEchoed text audience with
  | false =>
      refine exists_takes_of_silent (.ok ()) after fun r => ?_
      rw [h, send]
      simp only [hechoed, Bool.false_eq_true, if_false]
      rfl
  | true =>
      refine ⟨{ result := .ok (), shown := some envelope, room := after }, fun r _ => ?_,
        fun _ _ hcollapsing => ?_⟩
      · rw [h, send]
        simp only [hechoed, if_true]
        rfl
      · cases audience with
        | everyone => cases hechoed
        | only addressee => simp [checkAudience, hcollapsing] at haudience

theorem exists_takes_say (room : Room τ) (text : String) (audience : Audience) :
    ∃ c, room.Takes (.say text audience) c := by
  by_cases htext : text = ""
  · exact exists_takes_of_fail (.refused .noText) fun r => by
      simp only [Room.step, say, if_pos htext]
  · cases huser : room.user with
    | none =>
        have hnobody : ∀ r, (room.withRenderer r).user = none := fun _ => huser
        exact exists_takes_of_fail .outside fun r => by
          simp only [Room.step, say, if_neg htext, hnobody]
    | some user =>
        have hsomebody : ∀ r, (room.withRenderer r).user = some user := fun _ => huser
        cases haudience : checkAudience room.settings.flavor audience with
        | error refusal =>
            have hrefused : ∀ r,
                checkAudience (room.withRenderer r).settings.flavor audience = .error refusal :=
              fun _ => haudience
            exact exists_takes_of_fail (.refused refusal) fun r => by
              simp only [Room.step, say, if_neg htext, hsomebody, hrefused]
        | ok u =>
            have haccepted : ∀ r,
                checkAudience (room.withRenderer r).settings.flavor audience = .ok () :=
              fun _ => haudience
            exact exists_takes_send user haudience fun r => by
              simp only [Room.step, say, if_neg htext, hsomebody, haccepted]

/-! ## Hearing -/

theorem exists_takes_hear_message (room : Room τ) (m : Message) :
    ∃ c, room.Takes (.hear (.message m)) c := by
  cases hm : Envelope.ofMessage room.settings.flavor m with
  | error e =>
      refine ⟨{ result := .error e, shown := none, room := room }, fun r hr => ?_,
        fun _ henvelope => by cases henvelope⟩
      simp only [Room.step, hear, hearMessage, withRenderer, Renderer.linesOfMessage, hr, hm]
      rfl
  | ok envelope =>
      refine ⟨{ result := .ok (), shown := some envelope, room := room }, fun r hr => ?_,
        fun other hother hcollapsing => ?_⟩
      · simp only [Room.step, hear, hearMessage, withRenderer, Renderer.linesOfMessage, hr, hm]
        rfl
      · obtain rfl := Option.some.inj hother
        exact .inr ⟨m, rfl, hcollapsing ▸ hm⟩

omit [Transport τ] in
/-- News of the connection announces something where lines are collapsed. -/
theorem isAnnouncement_newsEnvelope (topic : MetaTopic) (text : String) :
    (newsEnvelope .collapsing topic text).isAnnouncement = true := by
  cases topic <;> rfl

/-- The course of an event that is told as news, after which the room is as `after`. -/
theorem exists_takes_of_news
    {room : Room τ} {step : RoomStep} (topic : MetaTopic) (text : String) (after : Room τ)
    (h : ∀ r, (room.withRenderer r).step step =
      { (room.withRenderer r).tell topic text with
        room := after.withRenderer ((room.withRenderer r).tell topic text).room.renderer }) :
    ∃ c, room.Takes step c := by
  refine ⟨{ result := .ok (), shown := some (newsEnvelope room.settings.flavor topic text),
            room := after }, fun r _ => h r, fun envelope henvelope hcollapsing => ?_⟩
  obtain rfl := Option.some.inj henvelope
  rw [hcollapsing]
  exact .inl (isAnnouncement_newsEnvelope topic text)

theorem resubscribe_withRenderer (room : Room τ) (r : Renderer) :
    (room.withRenderer r).resubscribe = room.resubscribe.withRenderer r := by
  by_cases hagain : 1 < (room.session.map (·.handshakes)).getD 0 ∧
      room.settings.flavor = .collapsing
  · have hroom : room.resubscribe = _ := if_pos hagain
    rw [hroom]
    exact if_pos hagain
  · have hroom : room.resubscribe = _ := if_neg hagain
    rw [hroom]
    exact if_neg hagain

theorem exists_takes_hearHandshake
    {room : Room τ} {step : RoomStep} (successful : Bool) (reply : MetaReply)
    (h : ∀ r, (room.withRenderer r).step step =
      (room.withRenderer r).hearHandshake successful reply) :
    ∃ c, room.Takes step c := by
  cases successful with
  | true =>
      refine exists_takes_of_news .handshake ("reinitialized client id: " ++ reply.clientId.getD "")
        room.countHandshake.resubscribe.confirm fun r => ?_
      rw [h, hearHandshake, if_pos rfl]
      have hsubscribed := resubscribe_withRenderer room.countHandshake
        (((room.withRenderer r).tell .handshake
          ("reinitialized client id: " ++ reply.clientId.getD "")).room.renderer)
      exact congrArg (fun after : Room τ => Outcome.mk _ _ after.confirm) hsubscribed
  | false => exact exists_takes_of_news .handshake (reply.error.getD "") room h

theorem exists_takes_hearAnswered
    {room : Room τ} {step : RoomStep}
    (h : ∀ r, (room.withRenderer r).step step = (room.withRenderer r).hearAnswered) :
    ∃ c, room.Takes step c := by
  have hconnected : ∀ r, (room.withRenderer r).connected = room.connected := fun _ => rfl
  let after : Room τ := { room with connected := true }.confirm
  cases hbefore : room.connected with
  | true =>
      refine exists_takes_of_silent (.ok ()) after fun r => ?_
      rw [h, hearAnswered, hconnected, hbefore]
      rfl
  | false =>
      refine exists_takes_of_news .connect "reconnected!" after fun r => ?_
      rw [h, hearAnswered, hconnected, hbefore]
      rfl

theorem exists_takes_hearUnanswered
    {room : Room τ} {step : RoomStep}
    (h : ∀ r, (room.withRenderer r).step step = (room.withRenderer r).hearUnanswered) :
    ∃ c, room.Takes step c := by
  have hconnected : ∀ r, (room.withRenderer r).connected = room.connected := fun _ => rfl
  have hflavor : ∀ r, (room.withRenderer r).settings.flavor = room.settings.flavor :=
    fun _ => rfl
  cases hbefore : room.connected with
  | false =>
      refine exists_takes_of_silent (.ok ()) room fun r => ?_
      rw [h, hearUnanswered, hconnected, hbefore]
      rfl
  | true =>
      cases hpersonal : room.settings.flavor with
      | collapsing =>
          refine exists_takes_of_news .connect "disconnected!" { room with connected := false }
            fun r => ?_
          rw [h, hearUnanswered, hconnected, hbefore, hflavor, hpersonal]
          rfl
      | personal =>
          refine exists_takes_of_news .connect "disconnected!"
            { room.leave with connected := false } fun r => ?_
          rw [h, hearUnanswered, hconnected, hbefore, hflavor, hpersonal]
          have hleft := leave_withRenderer room
            ((room.withRenderer r).tell .connect "disconnected!").room.renderer
          exact congrArg
            (fun after : Room τ => Outcome.mk _ _ { after with connected := false }) hleft

theorem exists_takes_hear_event (room : Room τ) (listener : Listener) (e : MetaEvent) :
    ∃ c, room.Takes (.hear (.event listener e)) c := by
  by_cases hlistener : room.session.map (·.listener) = some listener
  · have hstep : ∀ r, (room.withRenderer r).step (.hear (.event listener e)) =
        (room.withRenderer r).hearEvent e := fun r => if_pos hlistener
    cases htopic : e.topic with
    | handshake =>
        exact exists_takes_hearHandshake e.successful e.reply fun r => by
          rw [hstep, hearEvent, htopic]
    | connect =>
        cases hsuccessful : e.successful with
        | true =>
            exact exists_takes_hearAnswered fun r => by
              rw [hstep, hearEvent, htopic]
              exact if_pos hsuccessful
        | false =>
            exact exists_takes_hearUnanswered fun r => by
              rw [hstep, hearEvent, htopic]
              exact if_neg (by rw [hsuccessful]; exact Bool.false_ne_true)
    | other =>
        exact exists_takes_of_silent (.ok ()) room fun r => by
          rw [hstep, hearEvent, htopic]
          rfl
  · have hother : ∀ r, (room.withRenderer r).session.map (·.listener) ≠ some listener :=
      fun _ => hlistener
    exact exists_takes_of_silent (.ok ()) room fun r => hear_event_of_ne (hother r) e

/-- Every step takes a course that no renderer has a part in. -/
theorem exists_takes (room : Room τ) (step : RoomStep) : ∃ c, room.Takes step c := by
  cases step with
  | join name => exact exists_takes_join room name
  | leave => exact exists_takes_leave room
  | say text audience => exact exists_takes_say room text audience
  | hear x =>
      cases x with
      | message m => exact exists_takes_hear_message room m
      | event listener e => exact exists_takes_hear_event room listener e

/-! ## Rooms that differ in what they remember -/

/-- The rooms differ in nothing but what their renderers remember. -/
structure Alike (room other : Room τ) : Prop where
  eq : other = room.withRenderer other.renderer
  flavor : room.renderer.flavor = room.settings.flavor
  flavor_other : other.renderer.flavor = other.settings.flavor

namespace Alike

variable {room other : Room τ}

omit [Transport τ] in
theorem of_withRenderer
    {r : Renderer} (hroom : room.renderer.flavor = room.settings.flavor)
    (hr : r.flavor = room.settings.flavor) : Alike room (room.withRenderer r) :=
  ⟨rfl, hroom, hr⟩

omit [Transport τ] in
theorem refl (hroom : room.renderer.flavor = room.settings.flavor) : Alike room room :=
  ⟨rfl, hroom, hroom⟩

omit [Transport τ] in
theorem settings (h : Alike room other) : other.settings = room.settings := by
  rw [h.eq]
  rfl

omit [Transport τ] in
theorem transport (h : Alike room other) : other.transport = room.transport := by
  rw [h.eq]
  rfl

omit [Transport τ] in
theorem session (h : Alike room other) : other.session = room.session := by
  rw [h.eq]
  rfl

omit [Transport τ] in
theorem connected (h : Alike room other) : other.connected = room.connected := by
  rw [h.eq]
  rfl

/-- By the same step both rooms take the same course, and stay alike. -/
theorem exists_step (h : Alike room other) (step : RoomStep) :
    ∃ c, room.Takes step c ∧ room.step step = c.render room.renderer ∧
      other.step step = c.render other.renderer ∧
      Alike (room.step step).room (other.step step).room := by
  obtain ⟨c, hc⟩ := exists_takes room step
  have hroom : room.step step = c.render room.renderer := hc.step_eq _ h.flavor
  have hother : other.step step = c.render other.renderer := by
    have hflavor := h.flavor_other.trans (congrArg Settings.flavor h.settings)
    rw [h.eq]
    exact hc.step_eq _ hflavor
  refine ⟨c, hc, hroom, hother, ?_⟩
  have hrendered : ∀ (x : Room τ), x.step step = c.render x.renderer →
      x.renderer.flavor = x.settings.flavor →
      (x.step step).room.renderer.flavor = (x.step step).room.settings.flavor := by
    intro x hx hflavor
    rw [settings_step, ← hflavor, hx]
    exact Renderer.flavor_linesOf? _ _
  refine ⟨?_, hrendered room hroom h.flavor, hrendered other hother h.flavor_other⟩
  rw [hroom, hother]
  rfl

end Alike

end Room
end BayeuxChat
