import BayeuxChat.Proofs.Room.Operations

/-!
# What a room's calls keep

A room gets at its transport only by calls.  So what every single call keeps is kept by
whatever is done with the room, in whatever state the room is.
-/

namespace BayeuxChat

variable {τ : Type} [Transport τ]

/-- Every call that a transport takes keeps the property. -/
structure Transport.Keeps (P : τ → Prop) : Prop where
  connect : ∀ {t : τ} (address : String), P t → P (Transport.connect address t)
  disconnect : ∀ {t : τ}, P t → P (Transport.disconnect t)
  beginBatch : ∀ {t : τ}, P t → P (Transport.beginBatch t)
  endBatch : ∀ {t : τ}, P t → P (Transport.endBatch t)
  subscribe : ∀ {t : τ} (channel : String), P t → P (Transport.subscribe channel t)
  unsubscribe : ∀ {t : τ} (channel : String), P t → P (Transport.unsubscribe channel t)
  publish : ∀ {t : τ} (channel : String) (data : Json), P t → P (Transport.publish channel data t)
  listen : ∀ {t : τ}, P t → P (Transport.listen t).2
  unlisten : ∀ {t : τ} (listener : Listener), P t → P (Transport.unlisten listener t)

namespace Transport.Keeps

variable {P : τ → Prop}

omit [Transport τ] in
theorem foldl
    {call : String → τ → τ} (hcall : ∀ {t : τ} (channel : String), P t → P (call channel t))
    (channels : List String) {t : τ} (ht : P t) :
    P (channels.foldl (fun t channel => call channel t) t) := by
  induction channels generalizing t with
  | nil => exact ht
  | cons channel rest ih => exact ih (hcall channel ht)

variable (h : Keeps P)
include h

theorem subscribeAll (channels : List String) {t : τ} (ht : P t) :
    P (Transport.subscribeAll channels t) :=
  foldl h.subscribe channels ht

theorem unsubscribeAll (channels : List String) {t : τ} (ht : P t) :
    P (Transport.unsubscribeAll channels t) :=
  foldl h.unsubscribe channels ht

theorem batch {calls : τ → τ} (hcalls : ∀ {t : τ}, P t → P (calls t)) {t : τ} (ht : P t) :
    P (Transport.batch calls t) :=
  h.endBatch (hcalls (h.beginBatch ht))

theorem room_leave {room : Room τ} (hroom : P room.transport) : P room.leave.transport := by
  obtain hsession | ⟨session, hsession⟩ := Option.eq_none_or_eq_some room.session
  · rwa [Room.leave_of_none hsession]
  · simp only [Room.leave, hsession]
    apply h.disconnect
    apply h.batch
    · intro t ht
      exact h.publish _ _ (h.unsubscribeAll _ ht)
    · exact h.unlisten _ hroom

theorem room_enter {room : Room τ} (hroom : P room.transport) (user : String) :
    P (room.enter user).transport := by
  apply h.listen
  apply h.batch
  · intro t ht
    exact h.publish _ _ (h.subscribeAll _ ht)
  · exact h.connect _ hroom

/-- What every call keeps, every step of a room keeps. -/
theorem room_step {room : Room τ} (hroom : P room.transport) (step : RoomStep) :
    P (room.step step).room.transport := by
  cases step with
  | join name =>
      rcases Room.join_cases room name with ⟨refusal, -, hjoin⟩ | ⟨-, hjoin⟩
      · rw [Room.step, hjoin]
        exact hroom
      · rw [Room.step, hjoin]
        exact h.room_enter (h.room_leave hroom) name
  | leave => exact h.room_leave hroom
  | say text audience =>
      rcases Room.say_cases room text audience with ⟨e, hsay⟩ | ⟨user, -, -, -, hsay⟩
      · rw [Room.step, hsay]
        exact hroom
      · rw [Room.step, hsay, Room.send_room]
        exact h.publish _ _ hroom
  | hear x =>
      obtain ⟨-, ⟨htransport, -⟩ | ⟨-, -, htransport, -⟩ | ⟨-, -, htransport, -⟩⟩ :=
        Room.hear_cases room x
      · rw [Room.step, htransport]
        exact hroom
      · rw [Room.step, htransport]
        exact h.subscribe _ hroom
      · rw [Room.step, htransport]
        exact h.room_leave hroom

end Transport.Keeps
end BayeuxChat
