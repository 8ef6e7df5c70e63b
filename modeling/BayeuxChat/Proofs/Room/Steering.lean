import BayeuxChat.Bayeux.Journal
import BayeuxChat.Proofs.Room.Course
import Mathlib.Data.List.Induction

/-!
# Messages do not steer

Messages come from strangers, who may put anything into them: what makes no sense,
another's name, the mark of joining or leaving.  A room shows what it hears in this way,
and its renderer remembers it.  But what the room does afterwards, and what it knows of
its session, is as if no message had come.
-/

namespace BayeuxChat

namespace RoomStep

/-- The step hands a message to the room. -/
def isDelivery : RoomStep → Bool
  | .hear (.message _) => true
  | _ => false

/-- The steps that hand no message to the room. -/
def withoutMessages (steps : List RoomStep) : List RoomStep :=
  steps.filter fun step => !step.isDelivery

theorem isDelivery_iff {step : RoomStep} :
    step.isDelivery = true ↔ ∃ m, step = .hear (.message m) := by
  constructor
  · intro h
    cases step with
    | hear x =>
        cases x with
        | message m => exact ⟨m, rfl⟩
        | event listener e => cases h
    | _ => cases h
  · rintro ⟨m, rfl⟩
    rfl

theorem withoutMessages_message_cons (m : Message) (later : List RoomStep) :
    withoutMessages (.hear (.message m) :: later) = withoutMessages later :=
  rfl

theorem withoutMessages_cons
    {step : RoomStep} (hstep : step.isDelivery = false) (later : List RoomStep) :
    withoutMessages (step :: later) = step :: withoutMessages later :=
  List.filter_cons_of_pos (by rw [hstep]; rfl)

theorem withoutMessages_concat_message (steps : List RoomStep) (m : Message) :
    withoutMessages (steps ++ [.hear (.message m)]) = withoutMessages steps := by
  rw [withoutMessages, List.filter_append]
  exact List.append_nil _

theorem withoutMessages_concat
    (steps : List RoomStep) {step : RoomStep} (hstep : step.isDelivery = false) :
    withoutMessages (steps ++ [step]) = withoutMessages steps ++ [step] := by
  rw [withoutMessages, List.filter_append]
  exact congrArg _ (withoutMessages_cons hstep [])

end RoomStep

/-! ## Accounts of a run -/

/-- What is known after a step, but for what it shows. -/
structure Account where
  result : Except ChatError Unit
  presence : Presence
  user : Option String
  connected : Bool
  listener : Option Listener
  /-- The handshakes of the session, or of the last one if nobody is in the room. -/
  handshakes : Nat

/-- The handshakes of the session, or as many as there were before if there is none. -/
def Room.lastHandshakes {τ : Type} (room : Room τ) (before : Nat) : Nat :=
  (room.session.map (·.handshakes)).getD before

/-- The account of an outcome, when there were so many handshakes before. -/
def Outcome.account {τ : Type} (o : Outcome τ) (before : Nat) : Account :=
  { result := o.result
    presence := o.room.presence
    user := o.room.user
    connected := o.room.connected
    listener := o.room.session.map (·.listener)
    handshakes := o.room.lastHandshakes before }

namespace Room

variable {τ : Type} [Transport τ]

/-- The accounts of those steps that hand no message to the room. -/
def accounts (room : Room τ) (before : Nat) : List RoomStep → List Account
  | [] => []
  | step :: later =>
    let o := room.step step
    let rest := o.room.accounts (o.room.lastHandshakes before) later
    if step.isDelivery then rest else o.account before :: rest

omit [Transport τ] in
theorem lastHandshakes_lastHandshakes (room : Room τ) (before : Nat) :
    room.lastHandshakes (room.lastHandshakes before) = room.lastHandshakes before := by
  cases hsession : room.session <;> simp [lastHandshakes, hsession]

/-! ## Rooms that heard different messages -/

namespace Alike

variable {room other : Room τ}

omit [Transport τ] in
theorem lastHandshakes (h : Alike room other) (before : Nat) :
    other.lastHandshakes before = room.lastHandshakes before := by
  simp only [Room.lastHandshakes, h.session]

/-- A message reaches no further than the renderer. -/
theorem hear_message (h : Alike room other) (m : Message) :
    Alike room (other.step (.hear (.message m))).room := by
  obtain ⟨c, -, -, -, hboth⟩ := h.exists_step (.hear (.message m))
  refine ⟨?_, h.flavor, hboth.flavor_other⟩
  have hother : (other.step (.hear (.message m))).room =
      other.withRenderer (other.step (.hear (.message m))).room.renderer := rfl
  have hroom : ∀ r, other.withRenderer r = room.withRenderer r := by
    intro r
    rw [h.eq]
    rfl
  exact hother.trans (hroom _)

theorem account_step (h : Alike room other) (step : RoomStep) (before : Nat) :
    (other.step step).account before = (room.step step).account before := by
  obtain ⟨c, -, hroom, hother, hafter⟩ := h.exists_step step
  have hresult : (other.step step).result = (room.step step).result := by
    rw [hother, hroom]
    rfl
  simp only [Outcome.account, hresult, presence, Room.user, hafter.session, hafter.connected,
    hafter.lastHandshakes]

/-- The room that is handed messages gives the same accounts as the one that is not. -/
theorem accounts_eq
    (h : Alike room other) {before : Nat} (hbefore : room.lastHandshakes before = before)
    (steps : List RoomStep) :
    other.accounts before steps =
      room.accounts before (RoomStep.withoutMessages steps) := by
  induction steps generalizing room other before with
  | nil => rfl
  | cons step later ih =>
      cases hdelivery : step.isDelivery with
      | true =>
          obtain ⟨m, rfl⟩ := RoomStep.isDelivery_iff.mp hdelivery
          have hafter := h.hear_message m
          rw [RoomStep.withoutMessages_message_cons, accounts, if_pos hdelivery,
            hafter.lastHandshakes, hbefore]
          exact ih hafter hbefore
      | false =>
          have hother : ¬step.isDelivery = true := by simp [hdelivery]
          obtain ⟨c, -, -, -, hafter⟩ := h.exists_step step
          rw [RoomStep.withoutMessages_cons hdelivery, accounts, accounts, if_neg hother,
            if_neg hother, h.account_step, hafter.lastHandshakes,
            ih hafter (lastHandshakes_lastHandshakes _ _)]

/-- However many messages the one room is handed, both stay alike. -/
theorem afterSteps (h : Alike room other) (steps : List RoomStep) :
    Alike (room.afterSteps (RoomStep.withoutMessages steps)) (other.afterSteps steps) := by
  induction steps using List.reverseRecOn with
  | nil => exact h
  | append_singleton steps step ih =>
      rw [afterSteps_concat]
      cases hdelivery : step.isDelivery with
      | true =>
          obtain ⟨m, rfl⟩ := RoomStep.isDelivery_iff.mp hdelivery
          rw [RoomStep.withoutMessages_concat_message]
          exact ih.hear_message m
      | false =>
          rw [RoomStep.withoutMessages_concat _ hdelivery, afterSteps_concat]
          obtain ⟨c, -, -, -, hafter⟩ := ih.exists_step step
          exact hafter

end Alike

/-- Two runs that differ only in the messages that the room is handed, in what they say
and in when they come, give the same account of every other step: how it ended, and
afterwards the presence, the user, whether the room is connected, its listener and how
many handshakes there were.  And they make the same calls. -/
theorem accounts_of_other_messages (s : Settings) {steps steps' : List RoomStep}
    (h : RoomStep.withoutMessages steps = RoomStep.withoutMessages steps') :
    let room := Room.empty s ({} : Journal)
    room.accounts 0 steps = room.accounts 0 steps' ∧
      (room.afterSteps steps).transport.calls = (room.afterSteps steps').transport.calls := by
  intro room
  have halike : Alike room room := .refl rfl
  constructor
  · rw [halike.accounts_eq rfl steps, halike.accounts_eq rfl steps', h]
  · rw [(halike.afterSteps steps).transport, (halike.afterSteps steps').transport, h]

/-- To Alice it is said in her own name that she leaves, by somebody else that Alice joins,
and something that has no data at all, before she loses the connection and leaves. -/
theorem accounts_of_forged_messages :
    let forged (kind : String) : RoomStep :=
      .hear (.message
        { channel := "/chat/room0"
          data := some (.object [("user", .string "alice"), (kind, .bool true),
            ("chat", .string "gone")]) })
    let lost : RoomStep := .hear (.event ⟨0⟩ .unanswered)
    let steps := [.join "alice", forged "leave", .say "hi" .everyone, lost, .leave]
    let steps' :=
      [.hear (.message { channel := "" }), .join "alice", .say "hi" .everyone,
        forged "join", lost, .hear (.message { channel := "/chat/room0" }), .leave]
    let room := Room.empty { flavor := .collapsing } ({} : Journal)
    RoomStep.withoutMessages steps = RoomStep.withoutMessages steps' ∧
      (room.accounts 0 steps).length = 4 ∧ room.accounts 0 steps = room.accounts 0 steps' ∧
      (room.afterSteps steps).transport.calls = (room.afterSteps steps').transport.calls := by
  intro forged lost steps steps' room
  have h : RoomStep.withoutMessages steps = RoomStep.withoutMessages steps' := rfl
  exact ⟨h, rfl, accounts_of_other_messages { flavor := .collapsing } h⟩

end Room
end BayeuxChat
