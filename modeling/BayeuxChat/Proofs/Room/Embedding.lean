import BayeuxChat.Proofs.Room.Operations
import Mathlib.Logic.Function.Basic

/-!
# Rooms over embedded transports

One transport is embedded in another when the states of the one are among those of the
other, take the same calls there, and their listeners have other numbers.  A room does
over the other transport what it does over the one: it looks at its transport only to
make calls, and at listeners only to tell them apart.
-/

namespace BayeuxChat

/-- The states of one transport within another, and the numbers that its listeners have
there. -/
structure Transport.Embedding (σ τ : Type) [Transport σ] [Transport τ] where
  state : σ → τ
  listener : Listener → Listener
  listener_injective : Function.Injective listener
  state_connect : ∀ address t,
    state (Transport.connect address t) = Transport.connect address (state t)
  state_disconnect : ∀ t, state (Transport.disconnect t) = Transport.disconnect (state t)
  state_beginBatch : ∀ t, state (Transport.beginBatch t) = Transport.beginBatch (state t)
  state_endBatch : ∀ t, state (Transport.endBatch t) = Transport.endBatch (state t)
  state_subscribe : ∀ channel t,
    state (Transport.subscribe channel t) = Transport.subscribe channel (state t)
  state_unsubscribe : ∀ channel t,
    state (Transport.unsubscribe channel t) = Transport.unsubscribe channel (state t)
  state_publish : ∀ channel data t,
    state (Transport.publish channel data t) = Transport.publish channel data (state t)
  listener_listen : ∀ t, listener (Transport.listen t).1 = (Transport.listen (state t)).1
  state_listen : ∀ t, state (Transport.listen t).2 = (Transport.listen (state t)).2
  state_unlisten : ∀ l t,
    state (Transport.unlisten l t) = Transport.unlisten (listener l) (state t)

namespace Transport.Embedding

attribute [simp] state_connect state_disconnect state_beginBatch state_endBatch
  state_subscribe state_unsubscribe state_publish listener_listen state_listen state_unlisten

variable {σ τ : Type} [Transport σ] [Transport τ]

@[simp] theorem state_subscribeAll
    (f : Embedding σ τ) (channels : List String) (t : σ) :
    f.state (subscribeAll channels t) = subscribeAll channels (f.state t) := by
  induction channels generalizing t with
  | nil => rfl
  | cons channel rest ih =>
      rw [subscribeAll, List.foldl_cons, ← subscribeAll, ih, f.state_subscribe]
      rfl

@[simp] theorem state_unsubscribeAll
    (f : Embedding σ τ) (channels : List String) (t : σ) :
    f.state (unsubscribeAll channels t) = unsubscribeAll channels (f.state t) := by
  induction channels generalizing t with
  | nil => rfl
  | cons channel rest ih =>
      rw [unsubscribeAll, List.foldl_cons, ← unsubscribeAll, ih, f.state_unsubscribe]
      rfl

@[simp] theorem state_publishEnvelope
    (f : Embedding σ τ) (s : Settings) (audience : Audience) (envelope : Envelope) (t : σ) :
    f.state (Room.publish s audience envelope t) =
      Room.publish s audience envelope (f.state t) :=
  f.state_publish _ _ t

end Transport.Embedding

/-! ## Under other numbers -/

/-- The session with its listener under another number. -/
def Session.mapListener (g : Listener → Listener) (session : Session) : Session :=
  { session with listener := g session.listener }

/-- The step with listeners under other numbers: an event is addressed to one. -/
def RoomStep.mapListener (g : Listener → Listener) : RoomStep → RoomStep
  | .hear (.event listener e) => .hear (.event (g listener) e)
  | step => step

theorem RoomStep.eq_message_of_mapListener
    {g : Listener → Listener} {step : RoomStep} {m : Message}
    (h : step.mapListener g = .hear (.message m)) : step = .hear (.message m) := by
  cases step with
  | hear x =>
      cases x with
      | message other => exact h
      | event listener e => cases h
  | _ => cases h

open Transport (Embedding)

variable {σ τ : Type} [Transport σ] [Transport τ]

/-- The room over the transport in which its own is embedded. -/
def Room.carry (f : Embedding σ τ) (room : Room σ) : Room τ :=
  { settings := room.settings
    transport := f.state room.transport
    session := room.session.map (Session.mapListener f.listener)
    connected := room.connected
    renderer := room.renderer }

/-- The outcome over the transport in which that of its room is embedded. -/
def Outcome.carry (f : Embedding σ τ) (o : Outcome σ) : Outcome τ :=
  { result := o.result, lines := o.lines, room := o.room.carry f }

namespace Room

variable (f : Embedding σ τ)

theorem user_carry (room : Room σ) : (room.carry f).user = room.user := by
  cases hsession : room.session <;> simp [Room.user, carry, hsession, Session.mapListener]

theorem presence_carry (room : Room σ) : (room.carry f).presence = room.presence := by
  cases hsession : room.session <;> simp [presence, carry, hsession, Session.mapListener]

theorem listener_carry (room : Room σ) :
    (room.carry f).session.map (·.listener) =
      (room.session.map (·.listener)).map f.listener := by
  cases hsession : room.session <;> simp [carry, hsession, Session.mapListener]

/-! ## Joining, leaving, saying -/

theorem leave_carry (room : Room σ) : (room.carry f).leave = room.leave.carry f := by
  cases hsession : room.session with
  | none => simp [leave, carry, hsession]
  | some session =>
      simp [leave, carry, hsession, Session.mapListener, Transport.batch]

theorem enter_carry (room : Room σ) (user : String) :
    (room.carry f).enter user = (room.enter user).carry f := by
  simp [enter, carry, Session.mapListener, Transport.batch]

theorem join_carry (room : Room σ) (name : String) :
    (room.carry f).join name = (room.join name).carry f := by
  cases hname : checkUser name with
  | error refusal =>
      simp only [join, hname]
      rfl
  | ok u =>
      rw [join_of_ok _ hname, join_of_ok _ hname, leave_carry, enter_carry]
      rfl

theorem send_carry (room : Room σ) (user text : String) (audience : Audience) :
    (room.carry f).send user text audience = (room.send user text audience).carry f := by
  by_cases hechoed : isEchoed text audience
  · simp [send, hechoed, display, carry, Outcome.carry]
  · simp [send, hechoed, done, carry, Outcome.carry]

theorem say_carry (room : Room σ) (text : String) (audience : Audience) :
    (room.carry f).say text audience = (room.say text audience).carry f := by
  have hsettings : (room.carry f).settings = room.settings := rfl
  by_cases htext : text = ""
  · simp only [say, if_pos htext]
    rfl
  · cases huser : room.user with
    | none =>
        simp only [say, if_neg htext, user_carry, huser]
        rfl
    | some user =>
        cases haudience : checkAudience room.settings.flavor audience with
        | error refusal =>
            simp only [say, if_neg htext, user_carry, huser, hsettings, haudience]
            rfl
        | ok u =>
            simp only [say, if_neg htext, user_carry, huser, hsettings, haudience]
            exact send_carry f room user text audience

/-! ## Hearing -/

theorem tell_carry (room : Room σ) (topic : MetaTopic) (text : String) :
    (room.carry f).tell topic text = (room.tell topic text).carry f :=
  rfl

theorem confirm_carry (room : Room σ) : (room.carry f).confirm = room.confirm.carry f := by
  cases hsession : room.session <;> simp [confirm, carry, hsession, Session.mapListener]

theorem countHandshake_carry (room : Room σ) :
    (room.carry f).countHandshake = room.countHandshake.carry f := by
  cases hsession : room.session <;>
    simp [countHandshake, carry, hsession, Session.mapListener]

theorem handshakes_carry (room : Room σ) :
    (room.carry f).session.map (·.handshakes) = room.session.map (·.handshakes) := by
  cases hsession : room.session <;> simp [carry, hsession, Session.mapListener]

theorem resubscribe_carry (room : Room σ) :
    (room.carry f).resubscribe = room.resubscribe.carry f := by
  have hsettings : (room.carry f).settings = room.settings := rfl
  simp only [resubscribe, handshakes_carry, hsettings]
  split
  · simp [carry]
  · rfl

theorem hearHandshake_carry (room : Room σ) (successful : Bool) (reply : MetaReply) :
    (room.carry f).hearHandshake successful reply =
      (room.hearHandshake successful reply).carry f := by
  cases successful with
  | true =>
      simp only [hearHandshake, if_true, countHandshake_carry, tell_carry, Outcome.carry,
        resubscribe_carry, confirm_carry]
  | false => rfl

theorem hearAnswered_carry (room : Room σ) :
    (room.carry f).hearAnswered = room.hearAnswered.carry f := by
  have hconnected : (room.carry f).connected = room.connected := rfl
  cases hbefore : room.connected with
  | true =>
      simp only [hearAnswered, hconnected, hbefore, if_true]
      exact congrArg (Outcome.mk _ _) (confirm_carry f { room with connected := true })
  | false =>
      simp only [hearAnswered, hconnected, hbefore, Bool.false_eq_true, if_false]
      exact congrArg (Outcome.mk _ _)
        (confirm_carry f { (room.tell .connect "reconnected!").room with connected := true })

theorem hearUnanswered_carry (room : Room σ) :
    (room.carry f).hearUnanswered = room.hearUnanswered.carry f := by
  have hconnected : (room.carry f).connected = room.connected := rfl
  have hsettings : (room.carry f).settings = room.settings := rfl
  cases hbefore : room.connected with
  | false =>
      simp only [hearUnanswered, hconnected, hbefore, Bool.false_eq_true, if_false]
      rfl
  | true =>
      simp only [hearUnanswered, hconnected, hbefore, if_true, hsettings, tell_carry,
        Outcome.carry, leave_carry]
      split <;> rfl

theorem hearEvent_carry (room : Room σ) (e : MetaEvent) :
    (room.carry f).hearEvent e = (room.hearEvent e).carry f := by
  cases htopic : e.topic with
  | handshake =>
      simp only [hearEvent, htopic]
      exact hearHandshake_carry f room e.successful e.reply
  | connect =>
      cases hsuccessful : e.successful with
      | true =>
          simp only [hearEvent, htopic, hsuccessful, if_true]
          exact hearAnswered_carry f room
      | false =>
          simp only [hearEvent, htopic, hsuccessful, Bool.false_eq_true, if_false]
          exact hearUnanswered_carry f room
  | other =>
      simp only [hearEvent, htopic]
      rfl

/-- An event is for the session just if, under the other number, it is there. -/
theorem hear_event_carry (room : Room σ) (listener : Listener) (e : MetaEvent) :
    (room.carry f).hear (.event (f.listener listener) e) =
      (room.hear (.event listener e)).carry f := by
  have hlistener : (room.carry f).session.map (·.listener) = some (f.listener listener) ↔
      room.session.map (·.listener) = some listener := by
    rw [listener_carry, ← Option.map_some]
    exact (Option.map_injective f.listener_injective).eq_iff
  by_cases h : room.session.map (·.listener) = some listener
  · rw [hear, if_pos (hlistener.mpr h), hear, if_pos h, hearEvent_carry]
  · rw [hear, if_neg (mt hlistener.mp h), hear, if_neg h]
    rfl

/-- Over the other transport every step comes to the same. -/
theorem step_carry (room : Room σ) (step : RoomStep) :
    (room.carry f).step (step.mapListener f.listener) = (room.step step).carry f := by
  cases step with
  | join name => exact join_carry f room name
  | leave => exact congrArg done (leave_carry f room)
  | say text audience => exact say_carry f room text audience
  | hear x =>
      cases x with
      | message m => rfl
      | event listener e => exact hear_event_carry f room listener e

end Room
end BayeuxChat
