import BayeuxChat.Proofs.Room.Operations

/-!
# What a room shows

Over any transport, a room never writes lines of its own making: whatever is done
with it, at most one envelope goes through its renderer.  Together with the
renderer's memory this tells who every line of the log comes from, even if its
title is only `...`.
-/

namespace BayeuxChat

/-! ## One envelope at a time -/

/-- The outcome shows nothing and leaves the renderer as it was in `room`, or it
shows the lines of one envelope. -/
def Outcome.ShowsAtMostOne {τ : Type} (room : Room τ) (o : Outcome τ) : Prop :=
  (o.lines = [] ∧ o.room.renderer = room.renderer) ∨
    ∃ envelope, o.lines = (room.renderer.lines envelope).1 ∧
      o.room.renderer = (room.renderer.lines envelope).2

namespace Room

variable {τ : Type} [Transport τ]

omit [Transport τ] in
theorem showsAtMostOne_fail (room : Room τ) (e : ChatError) :
    (room.fail e).ShowsAtMostOne room :=
  .inl ⟨rfl, rfl⟩

theorem showsAtMostOne_join (room : Room τ) (name : String) :
    (room.join name).ShowsAtMostOne room := by
  rcases join_cases room name with ⟨refusal, -, h⟩ | ⟨-, h⟩
  · rw [h]
    exact showsAtMostOne_fail room _
  · rw [h]
    exact .inl ⟨rfl, renderer_leave room⟩

theorem showsAtMostOne_say (room : Room τ) (text : String) (audience : Audience) :
    (room.say text audience).ShowsAtMostOne room := by
  rcases say_cases room text audience with ⟨e, h⟩ | ⟨user, -, -, -, h⟩
  · rw [h]
    exact showsAtMostOne_fail room e
  · rw [h]
    by_cases hechoed : isEchoed text audience
    · exact .inr ⟨sayEnvelope user text audience, by simp [send, hechoed, display]⟩
    · exact .inl (by simp [send, hechoed, done])

theorem showsAtMostOne_hearEvent (room : Room τ) (e : MetaEvent) :
    (room.hearEvent e).ShowsAtMostOne room := by
  cases htopic : e.topic with
  | handshake =>
      refine .inr ⟨newsEnvelope room.settings.flavor .handshake
        (if e.successful then "reinitialized client id: " ++ e.reply.clientId.getD ""
          else e.reply.error.getD ""), ?_⟩
      cases hsuccessful : e.successful with
      | true =>
          simp [hearEvent, htopic, hearHandshake, hsuccessful, tell, display, confirm,
            countHandshake]
      | false => simp [hearEvent, htopic, hearHandshake, hsuccessful, tell, display]
  | connect =>
      cases hsuccessful : e.successful with
      | true =>
          cases hconnected : room.connected with
          | true =>
              exact .inl (by simp [hearEvent, htopic, hsuccessful, hearAnswered, hconnected,
                done, confirm])
          | false =>
              refine .inr ⟨newsEnvelope room.settings.flavor .connect "reconnected!", ?_⟩
              simp [hearEvent, htopic, hsuccessful, hearAnswered, hconnected, tell, display,
                confirm]
      | false =>
          simp only [hearEvent, htopic, hsuccessful, Bool.false_eq_true, if_false]
          rcases hearUnanswered_cases room with ⟨-, h⟩ | ⟨-, -, h⟩ | ⟨-, -, h⟩
          · rw [h]
            exact .inl ⟨rfl, rfl⟩
          · rw [h]
            exact .inr ⟨newsEnvelope room.settings.flavor .connect "disconnected!", rfl, rfl⟩
          · rw [h]
            exact .inr ⟨newsEnvelope room.settings.flavor .connect "disconnected!", rfl,
              renderer_leave _⟩
  | other => exact .inl (by simp [hearEvent, htopic, done])

omit [Transport τ] in
theorem showsAtMostOne_hearMessage (room : Room τ) (m : Message) :
    (room.hearMessage m).ShowsAtMostOne room := by
  cases h : Envelope.ofMessage room.renderer.flavor m with
  | error e => exact .inl (by simp [hearMessage, Renderer.linesOfMessage, h])
  | ok envelope => exact .inr ⟨envelope, by simp [hearMessage, Renderer.linesOfMessage, h]⟩

theorem showsAtMostOne_hear (room : Room τ) (x : Arrival) :
    (room.hear x).ShowsAtMostOne room := by
  cases x with
  | message m => exact showsAtMostOne_hearMessage room m
  | event listener e =>
      rcases hear_event_cases room listener e with ⟨-, h⟩ | ⟨session, -, -, h⟩
      · rw [h]
        exact .inl ⟨rfl, rfl⟩
      · rw [h]
        exact showsAtMostOne_hearEvent room e

/-- Every step of a room shows at most one envelope. -/
theorem showsAtMostOne_step (room : Room τ) (step : RoomStep) :
    (room.step step).ShowsAtMostOne room := by
  cases step with
  | join name => exact showsAtMostOne_join room name
  | leave => exact .inl (by simp [Room.step, done])
  | say text audience => exact showsAtMostOne_say room text audience
  | hear x => exact showsAtMostOne_hear room x

end Room

/-! ## Whose lines they are -/

/-- The last line of a log is by `user`: it is titled with the name, or it
continues a line that is. -/
inductive Log.LastBy (user : String) : List Line → Prop
  | named {log : List Line} {line : Line} :
      line.title = user ++ ":" → LastBy user (log ++ [line])
  | continued {log : List Line} {line : Line} :
      line.title = "..." → LastBy user log → LastBy user (log ++ [line])

namespace Log.LastBy

theorem concat_iff {user : String} {log : List Line} {line : Line} :
    LastBy user (log ++ [line]) ↔
      line.title = user ++ ":" ∨ (line.title = "..." ∧ LastBy user log) := by
  constructor
  · intro h
    generalize hwhole : log ++ [line] = whole at h
    cases h with
    | named htitle =>
        obtain ⟨-, rfl⟩ := List.append_singleton_inj.mp hwhole
        exact .inl htitle
    | continued htitle hbefore =>
        obtain ⟨rfl, rfl⟩ := List.append_singleton_inj.mp hwhole
        exact .inr ⟨htitle, hbefore⟩
  · rintro (htitle | ⟨htitle, hbefore⟩)
    · exact .named htitle
    · exact .continued htitle hbefore

theorem named_ne_continued (user : String) : user ++ ":" ≠ "..." := by
  intro h
  have hlast := congrArg (fun title => title.toList.getLast?) h
  simp at hlast

/-- Nobody else is the one that the last line is by. -/
theorem unique
    {user other : String} {log : List Line}
    (huser : LastBy user log) (hother : LastBy other log) : user = other := by
  induction huser with
  | named htitle =>
      rcases concat_iff.mp hother with hnamed | ⟨hcontinued, -⟩
      · exact (String.append_left_inj ":").mp (htitle.symm.trans hnamed)
      · exact absurd (htitle.symm.trans hcontinued) (named_ne_continued user)
  | continued htitle _ ih =>
      rcases concat_iff.mp hother with hnamed | ⟨-, hbefore⟩
      · exact absurd (hnamed.symm.trans htitle) (named_ne_continued other)
      · exact ih hbefore

end Log.LastBy

/-- The renderer remembers the sender of the last line of the log, if it
remembers anybody; where lines are not collapsed it remembers nobody. -/
structure Renderer.Remembers (r : Renderer) (log : List Line) : Prop where
  nobody : r.flavor = .personal → r.last = none
  lastBy : ∀ user, r.last = some user → Log.LastBy user log

namespace Renderer

@[simp] theorem flavor_lines (r : Renderer) (envelope : Envelope) :
    (r.lines envelope).2.flavor = r.flavor := by
  simp only [lines, line]
  split
  · rfl
  · simp only [collapsingLine]
    split
    · rfl
    · rfl

theorem shownText_eq
    {envelope : Envelope} {text : String} (h : envelope.text = some text) (htext : text ≠ "") :
    shownText envelope = some text := by
  rw [shownText, h, Option.filter_some, if_pos]
  simpa using htext

/-- Where lines are not collapsed, nothing depends on what is remembered. -/
theorem lines_of_personal
    {r : Renderer} (hflavor : r.flavor = .personal) (envelope : Envelope) :
    r.lines envelope = ((personalLine envelope).toList, r) := by
  simp [Renderer.lines, line, hflavor]

theorem lines_of_wordless
    {r : Renderer} (hflavor : r.flavor = .collapsing)
    {envelope : Envelope} (htext : shownText envelope = none) :
    r.lines envelope = ([], r) := by
  simp [Renderer.lines, line, hflavor, collapsingLine, htext]

theorem lines_of_collapsing
    {r : Renderer} (hflavor : r.flavor = .collapsing)
    {envelope : Envelope} {text : String} (htext : shownText envelope = some text) :
    r.lines envelope =
      ([{ title := if r.continues envelope then sameSender else title envelope.sender none
          text := text
          alert := envelope.isAnnouncement }],
        { r with last := if envelope.isAnnouncement then none else some envelope.sender }) := by
  simp [Renderer.lines, line, hflavor, collapsingLine, htext]

/-- Only a line by the remembered sender is titled `...`. -/
theorem lastBy_collapsingLine
    {r : Renderer} {log : List Line} (h : r.Remembers log)
    {envelope : Envelope} {text : String}
    (htext : shownText envelope = some text) :
    ∃ line, (r.collapsingLine envelope).1 = some line ∧
      line.text = text ∧ line.alert = envelope.isAnnouncement ∧
      Log.LastBy envelope.sender (log ++ [line]) := by
  simp only [collapsingLine, htext]
  refine ⟨_, rfl, rfl, rfl, ?_⟩
  by_cases hcontinues : r.continues envelope
  · have hlast : r.last = some envelope.sender := by
      simp only [continues, Bool.and_eq_true] at hcontinues
      exact eq_of_beq hcontinues.2
    refine .continued ?_ (h.lastBy _ hlast)
    simp [hcontinues, sameSender]
  · refine .named ?_
    simp [hcontinues, title]

/-- Rendering keeps the memory true of the log that grows by it. -/
theorem Remembers.lines
    {r : Renderer} {log : List Line} (h : r.Remembers log) (envelope : Envelope) :
    (r.lines envelope).2.Remembers (log ++ (r.lines envelope).1) := by
  cases hflavor : r.flavor with
  | personal =>
      have hlast := h.nobody hflavor
      have hsame : (r.lines envelope).2 = r := by
        simp [Renderer.lines, line, hflavor]
      rw [hsame]
      exact ⟨fun _ => hlast, fun user huser => by simp [hlast] at huser⟩
  | collapsing =>
      refine ⟨fun hpersonal => ?_, fun user huser => ?_⟩
      · rw [flavor_lines, hflavor] at hpersonal
        cases hpersonal
      · cases htext : shownText envelope with
        | none =>
            simp only [Renderer.lines, line, hflavor, collapsingLine, htext] at huser ⊢
            simpa using h.lastBy user huser
        | some text =>
            obtain ⟨line, hline, -, -, hlastBy⟩ := lastBy_collapsingLine h htext
            have hsender : envelope.sender = user := by
              simp only [Renderer.lines, Renderer.line, hflavor, collapsingLine, htext] at huser
              split at huser
              · cases huser
              · exact Option.some.inj huser
            simpa [Renderer.lines, Renderer.line, hflavor, hline, ← hsender] using hlastBy

/-- A room's renderer remembers rightly after an outcome if it did before. -/
theorem Remembers.outcome {τ : Type}
    {room : Room τ} {o : Outcome τ} {log : List Line}
    (h : room.renderer.Remembers log) (hshows : o.ShowsAtMostOne room) :
    o.room.renderer.Remembers (log ++ o.lines) ∧
      o.room.renderer.flavor = room.renderer.flavor := by
  rcases hshows with ⟨hlines, hrenderer⟩ | ⟨envelope, hlines, hrenderer⟩
  · rw [hlines, hrenderer, List.append_nil]
    exact ⟨h, rfl⟩
  · rw [hlines, hrenderer]
    exact ⟨h.lines envelope, flavor_lines _ _⟩

end Renderer
end BayeuxChat
