import BayeuxChat.Proofs.Room.Run

/-!
# When an operation fails

Whether an operation of a room fails can be told from what is asked for and from
whether somebody is in the room.  Everything that can be refused is checked before
anything is done, so a failure changes nothing, shows nothing and makes no call.
-/

namespace BayeuxChat

/-! ## Kinds and causes of failure -/

/-- The user is told that something cannot be asked for. -/
def ChatError.IsRefusal (e : ChatError) : Prop :=
  ∃ refusal, e = .refused refusal

/-- Something that was heard makes no sense. -/
def ChatError.IsBadMessage (e : ChatError) : Prop :=
  ∃ bad, e = .badMessage bad

/-- The result is a failure of one kind under a condition, and otherwise a success. -/
structure FailsJustIf
    (result : Except ChatError Unit) (kind : ChatError → Prop) (condition : Prop) :
    Prop where
  failure : condition → ∃ e, kind e ∧ result = .error e
  success : ¬condition → result = .ok ()

namespace FailsJustIf

variable {result : Except ChatError Unit} {kind : ChatError → Prop} {condition : Prop}

theorem of_error
    (hcondition : condition) {e : ChatError} (hkind : kind e) (hresult : result = .error e) :
    FailsJustIf result kind condition where
  failure _ := ⟨e, hkind, hresult⟩
  success hnot := absurd hcondition hnot

theorem of_ok (hcondition : ¬condition) (hresult : result = .ok ()) :
    FailsJustIf result kind condition where
  failure h := absurd h hcondition
  success _ := hresult

end FailsJustIf

namespace Room

/-- No user can go by the name: it is empty or would not be one segment of a
channel. -/
def UnfitName (name : String) : Prop :=
  name = "" ∨ '/' ∈ name.toList ∨ '*' ∈ name.toList

/-- The text is meant for one user, but the room has no private messages or no user
can go by the name. -/
def UnfitAudience (flavor : Flavor) (audience : Audience) : Prop :=
  ∃ user, audience = .only user ∧ (flavor = .collapsing ∨ UnfitName user)

/-- Nothing can be made of the message in a room of the given flavor: there is no
data, or the data is no envelope. -/
def Unreadable (flavor : Flavor) (m : Message) : Prop :=
  m.data = none ∨
    ∃ data fault, m.data = some data ∧ Envelope.decode flavor data = .error fault

/-! ## The checks -/

theorem checkUser_cases (name : String) :
    (UnfitName name ∧ ∃ refusal, checkUser name = .error refusal) ∨
      (¬UnfitName name ∧ checkUser name = .ok ()) := by
  have hok : checkUser name = .ok () ↔ ¬UnfitName name := by
    rw [checkUser_eq_ok_iff, UnfitName, not_or, not_or]
  cases h : checkUser name with
  | error refusal =>
      refine .inl ⟨?_, refusal, rfl⟩
      by_contra hfit
      cases h.symm.trans (hok.mpr hfit)
  | ok u => exact .inr ⟨hok.mp h, rfl⟩

theorem checkAudience_cases (flavor : Flavor) (audience : Audience) :
    (UnfitAudience flavor audience ∧ ∃ refusal, checkAudience flavor audience = .error refusal) ∨
      (¬UnfitAudience flavor audience ∧ checkAudience flavor audience = .ok ()) := by
  cases audience with
  | everyone => exact .inr ⟨by simp [UnfitAudience], rfl⟩
  | only user =>
      cases flavor with
      | collapsing => exact .inl ⟨⟨user, rfl, .inl rfl⟩, .noPrivateMessages, rfl⟩
      | personal =>
          -- In a room with private messages an addressee is checked like a user.
          have hok := checkAudience_only_eq_ok_iff .personal user
          rcases checkUser_cases user with ⟨hunfit, refusal, huser⟩ | ⟨hfit, huser⟩
          · refine .inl ⟨⟨user, rfl, .inr hunfit⟩, ?_⟩
            cases h : checkAudience .personal (.only user) with
            | error refusal => exact ⟨refusal, rfl⟩
            | ok u => cases huser.symm.trans (hok.mp h).2
          · refine .inr ⟨?_, hok.mpr ⟨rfl, huser⟩⟩
            rintro ⟨user', heq, hcollapsing | hunfit⟩
            · cases hcollapsing
            · cases heq
              exact hfit hunfit

variable {τ : Type} [Transport τ]

/-! ## The result of each operation -/

theorem join_failsJustIf (room : Room τ) (name : String) :
    FailsJustIf (room.join name).result ChatError.IsRefusal (UnfitName name) := by
  rcases checkUser_cases name with ⟨hunfit, refusal, hname⟩ | ⟨hfit, hname⟩
  · have hjoin : (room.join name).result = .error (.refused refusal) := by
      simp [join, hname, fail]
    exact .of_error hunfit ⟨refusal, rfl⟩ hjoin
  · have hjoin : (room.join name).result = .ok () := by
      rw [join_of_ok room hname]
      rfl
    exact .of_ok hfit hjoin

/-- What somebody in the room says is refused only for the audience. -/
theorem say_failsJustIf
    {room : Room τ} {text user : String} (htext : text ≠ "") (huser : room.user = some user)
    (audience : Audience) :
    FailsJustIf (room.say text audience).result ChatError.IsRefusal
      (UnfitAudience room.settings.flavor audience) := by
  rcases checkAudience_cases room.settings.flavor audience with
    ⟨hunfit, refusal, haudience⟩ | ⟨hfit, haudience⟩
  · have hsay : (room.say text audience).result = .error (.refused refusal) := by
      simp [say, htext, huser, haudience, fail]
    exact .of_error hunfit ⟨refusal, rfl⟩ hsay
  · have hsay : (room.say text audience).result = .ok () := by
      simp [say, htext, huser, haudience, send_result]
    exact .of_ok hfit hsay

/-- A message of which nothing can be made is dropped. -/
theorem hear_message_cases (room : Room τ) (m : Message) :
    (Unreadable room.renderer.flavor m ∧
      ∃ bad, room.hear (.message m) = room.fail (.badMessage bad)) ∨
    (¬Unreadable room.renderer.flavor m ∧ (room.hear (.message m)).result = .ok ()) := by
  cases hdata : m.data with
  | none =>
      refine .inl ⟨.inl hdata, .noData m, ?_⟩
      simp [hear, hearMessage, Renderer.linesOfMessage, Envelope.ofMessage, hdata, fail]
  | some data =>
      cases hdecode : Envelope.decode room.renderer.flavor data with
      | error fault =>
          refine .inl ⟨.inr ⟨data, fault, hdata, hdecode⟩, .malformed (.ofFault fault), ?_⟩
          simp [hear, hearMessage, Renderer.linesOfMessage, Envelope.ofMessage, hdata,
            hdecode, Except.mapError, ChatError.ofFault, fail]
      | ok envelope =>
          refine .inr ⟨?_, ?_⟩
          · rintro (hnone | ⟨data', fault, hsome, herror⟩)
            · simp [hdata] at hnone
            · obtain rfl := Option.some.inj (hdata.symm.trans hsome)
              simp [hdecode] at herror
          · simp [hear, hearMessage, Renderer.linesOfMessage, Envelope.ofMessage, hdata,
              hdecode, Except.mapError]

theorem hear_message_failsJustIf (room : Room τ) (m : Message) :
    FailsJustIf (room.hear (.message m)).result ChatError.IsBadMessage
      (Unreadable room.renderer.flavor m) := by
  rcases hear_message_cases room m with ⟨hunreadable, bad, hhear⟩ | ⟨hreadable, hhear⟩
  · rw [hhear]
    exact .of_error hunreadable ⟨bad, rfl⟩ rfl
  · exact .of_ok hreadable hhear

theorem hearEvent_result (room : Room τ) (e : MetaEvent) :
    (room.hearEvent e).result = .ok () := by
  cases htopic : e.topic with
  | handshake =>
      cases hsuccessful : e.successful <;>
        simp [hearEvent, htopic, hearHandshake, hsuccessful, tell, display]
  | connect =>
      cases hsuccessful : e.successful with
      | true =>
          cases hconnected : room.connected <;>
            simp [hearEvent, htopic, hsuccessful, hearAnswered, hconnected, tell, display, done]
      | false =>
          simp only [hearEvent, htopic, hsuccessful, Bool.false_eq_true, if_false]
          rcases hearUnanswered_cases room with ⟨-, h⟩ | ⟨-, -, h⟩ | ⟨-, -, h⟩ <;>
            rw [h] <;> rfl
  | other => simp [hearEvent, htopic, done]

theorem hear_event_result (room : Room τ) (listener : Listener) (e : MetaEvent) :
    (room.hear (.event listener e)).result = .ok () := by
  rcases hear_event_cases room listener e with ⟨-, h⟩ | ⟨session, -, -, h⟩
  · rw [h]
    rfl
  · rw [h]
    exact hearEvent_result room e

/-! ## Failures -/

/-- A step that fails does nothing else. -/
theorem step_eq_fail
    {room : Room τ} {step : RoomStep} {e : ChatError}
    (hresult : (room.step step).result = .error e) : room.step step = room.fail e := by
  have of_fail : ∀ e', room.step step = room.fail e' → room.step step = room.fail e := by
    intro e' hfail
    rw [hfail] at hresult
    rw [hfail, Except.error.inj hresult]
  cases step with
  | join name =>
      rcases join_cases room name with ⟨refusal, -, hjoin⟩ | ⟨-, hjoin⟩
      · exact of_fail _ hjoin
      · simp [Room.step, hjoin, done] at hresult
  | leave => simp [Room.step, done] at hresult
  | say text audience =>
      rcases say_cases room text audience with ⟨e', hsay⟩ | ⟨user, -, -, -, hsay⟩
      · exact of_fail e' hsay
      · simp [Room.step, hsay, send_result] at hresult
  | hear x =>
      cases x with
      | message m =>
          rcases hear_message_cases room m with ⟨-, bad, hhear⟩ | ⟨-, hhear⟩
          · exact of_fail _ hhear
          · simp [Room.step, hhear] at hresult
      | event listener e' => simp [Room.step, hear_event_result] at hresult

/-- In every room that a run leads to, joining is refused just for an unfit name and
leaving never fails.  Saying nothing is refused; saying something fails while nobody
is in the room, and is otherwise refused just for an unfit audience.  Hearing a
message fails just if nothing can be made of it, and hearing an event never fails.
Whatever fails leaves the room with its session, its renderer and its transport as
they were, and adds nothing to any log. -/
theorem failures_of_run (s : Settings) (t : τ) (run : List (Happening τ)) :
    let room := (empty s t).afterRun run
    (∀ name, FailsJustIf (room.step (.join name)).result ChatError.IsRefusal (UnfitName name)) ∧
      (room.step .leave).result = .ok () ∧
      (∀ text audience,
        let said := (room.step (.say text audience)).result
        (text = "" → ∃ refusal, said = .error (.refused refusal)) ∧
          (text ≠ "" → room.presence = .out → said = .error .outside) ∧
          (text ≠ "" → room.presence ≠ .out →
            FailsJustIf said ChatError.IsRefusal (UnfitAudience s.flavor audience))) ∧
      (∀ m, FailsJustIf (room.step (.hear (.message m))).result ChatError.IsBadMessage
        (Unreadable s.flavor m)) ∧
      (∀ listener e, (room.step (.hear (.event listener e))).result = .ok ()) ∧
      ∀ step e, (room.step step).result = .error e →
        (room.step step).room = room ∧
          ∀ log : Log, log.addAll (room.step step).lines = log := by
  intro room
  have hflavor : room.settings.flavor = s.flavor :=
    congrArg Settings.flavor (settings_afterRun (empty s t) run)
  have hrenders : room.renderer.flavor = s.flavor := flavor_renderer_afterRun s t run
  refine ⟨join_failsJustIf room, rfl, ?_, ?_, hear_event_result room, ?_⟩
  · intro text audience said
    refine ⟨?_, ?_, ?_⟩
    · rintro rfl
      exact ⟨.noText, rfl⟩
    · intro htext hout
      have huser : room.user = none := by
        simp [Room.user, presence_eq_out_iff.mp hout]
      simp [said, Room.step, say, htext, huser, fail]
    · intro htext hin
      obtain ⟨session, hsession⟩ := Option.ne_none_iff_exists'.mp (mt presence_eq_out_iff.mpr hin)
      have huser : room.user = some session.user := by
        simp [Room.user, hsession]
      exact hflavor ▸ say_failsJustIf htext huser audience
  · intro m
    exact hrenders ▸ hear_message_failsJustIf room m
  · intro step e hresult
    rw [step_eq_fail hresult]
    exact ⟨rfl, fun log => rfl⟩

end Room
end BayeuxChat
