import BayeuxChat.Proofs.Room.Coupling
import BayeuxChat.Proofs.Room.Keeping

/-!
# Hearing what waits comes to an end

What waits for a room can be heard, oldest first, until nothing waits any more.  By
hearing nothing new arrives, so this ends after as many arrivals as waited at first.
It does so even when the loopback has been driven past its room, so that the two are
not coupled: a batch may be open that the room has not begun, and the room may be in a
session of which the loopback knows nothing.
-/

namespace BayeuxChat

/-- One step of a room and its loopback, which may also be driven directly. -/
inductive JointStep where
  | room (step : RoomStep)
  | loopback (step : LoopbackStep)
  /-- The oldest arrival that waits is taken out, if there is one. -/
  | take
  deriving Inhabited

/-- Every call of a room keeps all that is put off inside batches. -/
theorem Loopback.keeps_putsOffInBatch : Transport.Keeps PutsOffInBatch where
  connect address h := putsOffInBatch_step h (.connect address)
  disconnect h := putsOffInBatch_step h .disconnect
  beginBatch h := putsOffInBatch_step h .beginBatch
  endBatch h := putsOffInBatch_step h .endBatch
  subscribe channel h := putsOffInBatch_step h (.subscribe channel)
  unsubscribe channel h := putsOffInBatch_step h (.unsubscribe channel)
  publish channel data h := putsOffInBatch_step h (.publish channel data)
  listen h := putsOffInBatch_step h .listen
  unlisten listener h := putsOffInBatch_step h (.unlisten listener)

namespace Room

/-! ## States that steps lead to -/

def jointStep (room : Room Loopback) : JointStep → Room Loopback
  | .room step => (room.step step).room
  | .loopback step => { room with transport := (room.transport.step step).2 }
  | .take =>
    match room.takeWaiting? with
    | none => room
    | some (_, taken) => taken

def afterJointSteps (room : Room Loopback) (steps : List JointStep) : Room Loopback :=
  steps.foldl jointStep room

theorem putsOffInBatch_jointStep
    {room : Room Loopback} (h : room.transport.PutsOffInBatch) (step : JointStep) :
    (room.jointStep step).transport.PutsOffInBatch := by
  cases step with
  | room step => exact Loopback.keeps_putsOffInBatch.room_step h step
  | loopback step => exact Loopback.putsOffInBatch_step h step
  | take =>
      rw [jointStep]
      split
      · exact h
      · next x taken htaken =>
        obtain ⟨rest, -, rfl⟩ := takeWaiting?_eq_some_iff.mp htaken
        exact h

theorem putsOffInBatch_afterJointSteps
    {room : Room Loopback} (h : room.transport.PutsOffInBatch) (steps : List JointStep) :
    (room.afterJointSteps steps).transport.PutsOffInBatch := by
  induction steps generalizing room with
  | nil => exact h
  | cons step rest ih =>
      rw [afterJointSteps, List.foldl_cons]
      exact ih (putsOffInBatch_jointStep h step)

/-! ## One arrival after the other -/

theorem takeWaiting?_eq_none_iff {room : Room Loopback} :
    room.takeWaiting? = none ↔ room.transport.waiting = [] := by
  rw [takeWaiting?, Option.map_eq_none_iff, Loopback.take?, Loopback.waiting]
  split
  · next hmailbox => simp [hmailbox]
  · next hempty =>
    cases hmailbox : room.transport.mailbox with
    | none => simp
    | some waiting =>
        cases waiting with
        | nil => simp
        | cons x rest => exact absurd hmailbox (hempty x rest)

theorem mailbox_of_waiting_cons
    {t : Loopback} {x : Arrival} {rest : List Arrival} (h : t.waiting = x :: rest) :
    t.mailbox = some (x :: rest) := by
  rw [Loopback.waiting] at h
  cases hmailbox : t.mailbox with
  | none => simp [hmailbox] at h
  | some waiting => simpa [hmailbox] using h

theorem settle_nil {room : Room Loopback} (h : room.transport.waiting = []) :
    room.settle = ([], room) := by
  simp [settle, h, hearWaiting]

/-- What waits behind an arrival is all that waits once the arrival was heard. -/
theorem settle_cons
    {room : Room Loopback} (hunbatched : room.transport.PutsOffInBatch)
    {x : Arrival} {rest : List Arrival}
    (h : room.transport.mailbox = some (x :: rest)) {first : Outcome Loopback}
    (hfirst : (room.withMailbox (some rest)).hear x = first) :
    room.settle =
      ({ arrival := x, result := first.result, lines := first.lines } ::
        first.room.settle.1, first.room.settle.2) := by
  have htaken := takeWaiting?_eq_some_iff.mpr ⟨rest, h, rfl⟩
  have hkept : (room.withMailbox (some rest)).transport.PutsOffInBatch := hunbatched
  have hrest : first.room.transport.waiting = rest := by
    simp [← hfirst, Loopback.waiting, mailbox_hear hkept]
  have hwaiting : room.transport.waiting.length = rest.length + 1 := by
    simp [Loopback.waiting, h]
  rw [settle, hwaiting, hearWaiting, htaken]
  simp only [settle, hrest, hfirst]

/-- To hear the oldest arrival, again and again until nothing waits, takes `n` arrivals
and ends with the room `after`. -/
inductive Drains : Room Loopback → Nat → Room Loopback → Prop
  | nothing {room : Room Loopback} : room.takeWaiting? = none → Drains room 0 room
  | oldest {room taken after : Room Loopback} {x : Arrival} {n : Nat} :
      room.takeWaiting? = some (x, taken) → Drains (taken.hear x).room n after →
        Drains room (n + 1) after

/-- There is at most one way to the end. -/
theorem Drains.unique
    {room after after' : Room Loopback} {n n' : Nat}
    (h : room.Drains n after) (h' : room.Drains n' after') : n = n' ∧ after = after' := by
  induction h generalizing n' with
  | nothing hnone =>
      cases h' with
      | nothing _ => exact ⟨rfl, rfl⟩
      | oldest hsome _ => cases hnone.symm.trans hsome
  | oldest hsome _ ih =>
      cases h' with
      | nothing hnone => cases hnone.symm.trans hsome
      | oldest hsome' hrest =>
          obtain ⟨rfl, rfl⟩ := Prod.mk.inj (Option.some.inj (hsome.symm.trans hsome'))
          obtain ⟨hcount, hafter⟩ := ih hrest
          exact ⟨congrArg (· + 1) hcount, hafter⟩

/-- The end is reached, and no sooner than everything that waited was heard. -/
theorem drains_settle {room : Room Loopback} (h : room.transport.PutsOffInBatch) :
    room.Drains room.transport.waiting.length room.settle.2 := by
  -- The mailbox does not grow by what is heard, so the induction is on what waits there.
  generalize hwaiting : room.transport.waiting = waiting
  induction waiting generalizing room with
  | nil =>
      rw [settle_nil hwaiting]
      exact .nothing (takeWaiting?_eq_none_iff.mpr hwaiting)
  | cons x rest ih =>
      have hmailbox := mailbox_of_waiting_cons hwaiting
      have hkept : (room.withMailbox (some rest)).transport.PutsOffInBatch := h
      have hheard := Loopback.keeps_putsOffInBatch.room_step hkept (.hear x)
      have hrest : ((room.withMailbox (some rest)).hear x).room.transport.waiting = rest := by
        rw [Loopback.waiting, mailbox_hear hkept]
        rfl
      rw [settle_cons h hmailbox rfl]
      exact .oldest (takeWaiting?_eq_some_iff.mpr ⟨rest, hmailbox, rfl⟩) (ih hheard hrest)

/-- Whatever was done before with a room and, directly, with its loopback, nothing
arrives by hearing an arrival, be it one that waited or any other, and nothing by
leaving.  So hearing the oldest arrival until nothing waits ends after exactly as many
arrivals as waited, with the room that has heard them all. -/
theorem draining_of_jointSteps (s : Settings) (steps : List JointStep) :
    let room := (empty s {}).afterJointSteps steps
    (∀ x, (room.hear x).room.transport.mailbox = room.transport.mailbox) ∧
      room.leave.transport.mailbox = room.transport.mailbox ∧
      ∀ n after, room.Drains n after ↔
        n = room.transport.waiting.length ∧ after = room.settle.2 := by
  intro room
  have hempty : (empty s ({} : Loopback)).transport.PutsOffInBatch := fun _ => rfl
  have hunbatched : room.transport.PutsOffInBatch :=
    putsOffInBatch_afterJointSteps hempty steps
  refine ⟨mailbox_hear hunbatched, mailbox_leave hunbatched, ?_⟩
  intro n after
  constructor
  · intro hdrains
    exact hdrains.unique (drains_settle hunbatched)
  · rintro ⟨rfl, rfl⟩
    exact drains_settle hunbatched

end Room
end BayeuxChat
