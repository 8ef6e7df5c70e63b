import BayeuxChat.Proofs.Room.Embedding
import BayeuxChat.Proofs.Transport.Numbering

/-!
# Recording calls

Any transport can be recorded: it takes its calls as before, and they are written down
besides.  The recorded transport is seen in two ways.  Without the record it is the
transport itself, and without the transport it is a journal.  A room does the same over
all three, so what is known of the calls over a journal holds over every transport.
-/

namespace BayeuxChat

open Transport (Embedding Numbering)

/-- A transport and the calls that it has taken since it was recorded. -/
structure Recording (τ : Type) where
  inner : τ
  calls : List Call := []

namespace Recording

variable {τ : Type} [Transport τ]

/-- Makes a call and writes it down. -/
def perform (call : Call) (change : τ → τ) (r : Recording τ) : Recording τ :=
  { inner := change r.inner, calls := r.calls ++ [call] }

instance : Transport (Recording τ) where
  connect address := perform (.connect address) (Transport.connect address)
  disconnect := perform .disconnect Transport.disconnect
  beginBatch := perform .beginBatch Transport.beginBatch
  endBatch := perform .endBatch Transport.endBatch
  subscribe channel := perform (.subscribe channel) (Transport.subscribe channel)
  unsubscribe channel := perform (.unsubscribe channel) (Transport.unsubscribe channel)
  publish channel data := perform (.publish channel data) (Transport.publish channel data)
  listen r :=
    let listener := (Transport.listen r.inner).1
    (listener, perform (.listen listener) (fun t => (Transport.listen t).2) r)
  unlisten listener := perform (.unlisten listener) (Transport.unlisten listener)

/-- The recorded transport without the record. -/
def withoutRecord : Embedding (Recording τ) τ where
  state r := r.inner
  listener := id
  listener_injective := Function.injective_id
  state_connect _ _ := rfl
  state_disconnect _ := rfl
  state_beginBatch _ := rfl
  state_endBatch _ := rfl
  state_subscribe _ _ := rfl
  state_unsubscribe _ _ := rfl
  state_publish _ _ _ := rfl
  listener_listen _ := rfl
  state_listen _ := rfl
  state_unlisten _ _ := rfl

/-- The record alone is a journal which numbers listeners as the transport does. -/
def asJournal [Numbering τ] : Embedding (Recording τ) Journal where
  state r := { calls := r.calls, nextListener := Numbering.next r.inner }
  listener := id
  listener_injective := Function.injective_id
  state_connect _ _ := congrArg (Journal.mk _) (Numbering.next_connect _ _)
  state_disconnect _ := congrArg (Journal.mk _) (Numbering.next_disconnect _)
  state_beginBatch _ := congrArg (Journal.mk _) (Numbering.next_beginBatch _)
  state_endBatch _ := congrArg (Journal.mk _) (Numbering.next_endBatch _)
  state_subscribe _ _ := congrArg (Journal.mk _) (Numbering.next_subscribe _ _)
  state_unsubscribe _ _ := congrArg (Journal.mk _) (Numbering.next_unsubscribe _ _)
  state_publish _ _ _ := congrArg (Journal.mk _) (Numbering.next_publish _ _ _)
  listener_listen r := Numbering.listen_fst r.inner
  state_listen r := by
    simp [Transport.listen, perform, Journal.note]
  state_unlisten _ _ := congrArg (Journal.mk _) (Numbering.next_unlisten _ _)

end Recording

/-! ## The calls of a step -/

@[simp] theorem RoomStep.mapListener_id (step : RoomStep) : step.mapListener id = step := by
  cases step with
  | hear x => cases x <;> rfl
  | _ => rfl

namespace Room

variable {τ : Type}

/-- The room with its transport recorded from now on. -/
def recorded (room : Room τ) : Room (Recording τ) :=
  { settings := room.settings
    transport := { inner := room.transport }
    session := room.session
    connected := room.connected
    renderer := room.renderer }

variable [Transport τ]

/-- The calls that a step of the room makes. -/
def callsOf (room : Room τ) (step : RoomStep) : List Call :=
  (room.recorded.step step).room.transport.calls

theorem carry_recorded (room : Room τ) :
    room.recorded.carry Recording.withoutRecord = room := by
  obtain ⟨settings, transport, session, connected, renderer⟩ := room
  cases session <;> rfl

/-- A step that is recorded comes to the same as one that is not. -/
theorem carry_recorded_step (room : Room τ) (step : RoomStep) :
    (room.recorded.step step).carry Recording.withoutRecord = room.step step := by
  have hstep := step_carry Recording.withoutRecord room.recorded step
  rw [carry_recorded] at hstep
  exact hstep.symm.trans (congrArg room.step step.mapListener_id)

/-- The room over a journal that numbers listeners as the room's transport does. -/
def journaled [Numbering τ] (room : Room τ) : Room Journal :=
  room.recorded.carry Recording.asJournal

/-- What is known over a journal of a step's calls, and of who is in the room after it,
is known over every transport that numbers its listeners. -/
theorem journaled_step [Numbering τ] (room : Room τ) (step : RoomStep) :
    (room.journaled.step step).room.transport.calls = room.callsOf step ∧
      (room.journaled.step step).room.user = (room.step step).room.user ∧
      (room.journaled.step step).result = (room.step step).result := by
  have hstep := step_carry Recording.asJournal room.recorded step
  have hid : step.mapListener (Recording.asJournal : Embedding (Recording τ) _).listener = step :=
    step.mapListener_id
  rw [hid] at hstep
  rw [journaled, hstep]
  refine ⟨rfl, ?_, ?_⟩
  · rw [← carry_recorded_step room step]
    exact (user_carry _ _).trans (user_carry _ _).symm
  · rw [← carry_recorded_step room step]
    rfl

end Room
end BayeuxChat
