import BayeuxChat.Proofs.Room.Run
import BayeuxChat.Proofs.Transport.Numbering

/-!
# Events of a session that has ended

Events can wait for long, and be heard when the session that they were meant for has
ended and others have begun.  A room listens under a new number in each session and
under none in between, so nothing comes of such an event, now or at any later time.
-/

namespace BayeuxChat

open Transport (Numbering)

variable {τ : Type} [Transport τ] [Numbering τ]

/-- What happens to the transport by itself gives no number of a listener back. -/
def Happening.KeepsNumbers : Happening τ → Prop
  | .step _ => True
  | .aside change => ∀ t, Numbering.next t ≤ Numbering.next (change t)

namespace Room

/-- The step ends whatever session there is: nobody is in the room after it, or
somebody joins. -/
def EndsSession (room : Room τ) (step : RoomStep) : Prop :=
  (room.step step).room.session = none ∨
    ∃ name, step = .join name ∧ checkUser name = .ok ()

/-! ## The listener of a room -/

@[simp] theorem next_leave (room : Room τ) :
    Numbering.next room.leave.transport = Numbering.next room.transport := by
  cases hsession : room.session with
  | none => rw [leave_of_none hsession]
  | some session => simp [leave, hsession, Transport.batch, publish]

theorem next_enter (room : Room τ) (user : String) :
    Numbering.next (room.enter user).transport = Numbering.next room.transport + 1 := by
  simp [enter, Transport.batch, publish]

theorem listener_enter (room : Room τ) (user : String) :
    (room.enter user).session.map (·.listener) = some ⟨Numbering.next room.transport⟩ := by
  simp [enter, Transport.batch, publish]

theorem next_join (room : Room τ) {name : String} (hname : checkUser name = .ok ()) :
    Numbering.next (room.join name).room.transport = Numbering.next room.transport + 1 := by
  rw [join_of_ok room hname]
  exact (next_enter _ _).trans (congrArg (· + 1) (next_leave room))

theorem listener_join (room : Room τ) {name : String} (hname : checkUser name = .ok ()) :
    (room.join name).room.session.map (·.listener) =
      some ⟨Numbering.next room.transport⟩ := by
  rw [join_of_ok room hname, ← next_leave room]
  exact listener_enter room.leave name

/-- A step takes no number and keeps the listener or gives it up, or it takes the next
number for a new listener. -/
theorem listener_step_cases (room : Room τ) (step : RoomStep) :
    (Numbering.next (room.step step).room.transport = Numbering.next room.transport ∧
        ((room.step step).room.session.map (·.listener) = room.session.map (·.listener) ∨
          (room.step step).room.session = none)) ∨
      (Numbering.next (room.step step).room.transport = Numbering.next room.transport + 1 ∧
        (room.step step).room.session.map (·.listener) =
          some ⟨Numbering.next room.transport⟩) := by
  cases step with
  | join name =>
      rcases join_cases room name with ⟨refusal, -, hjoin⟩ | ⟨hname, -⟩
      · simp only [Room.step, hjoin]
        exact .inl ⟨rfl, .inl rfl⟩
      · exact .inr ⟨next_join room hname, listener_join room hname⟩
  | leave => exact .inl ⟨next_leave room, .inr (session_leave room)⟩
  | say text audience =>
      rcases say_cases room text audience with ⟨e, hsay⟩ | ⟨user, -, -, -, hsay⟩
      · simp only [Room.step, hsay]
        exact .inl ⟨rfl, .inl rfl⟩
      · simp only [Room.step, hsay]
        rw [send_room]
        exact .inl ⟨Numbering.next_publish _ _ _, .inl rfl⟩
  | hear x =>
      simp only [Room.step]
      rw [listener_eq_map_occupant, listener_eq_map_occupant, ← occupant_eq_none_iff]
      obtain ⟨-, ⟨htransport, hoccupant⟩ | ⟨-, -, htransport, hoccupant⟩ |
        ⟨-, -, htransport, hoccupant⟩⟩ := hear_cases room x
      · exact .inl ⟨by rw [htransport], .inl (by rw [hoccupant])⟩
      · exact .inl ⟨by rw [htransport, Numbering.next_subscribe], .inl (by rw [hoccupant])⟩
      · exact .inl ⟨by rw [htransport, next_leave], .inr hoccupant⟩

/-- The room does not listen under the number and never will again, since it was given
out before. -/
structure Abandoned (room : Room τ) (listener : Listener) : Prop where
  given : listener.number < Numbering.next room.transport
  other : room.session.map (·.listener) ≠ some listener

/-- The number of a room's listener was given out. -/
theorem number_lt_next
    (s : Settings) (t : τ) {run : List (Happening τ)} (hrun : ∀ x ∈ run, x.KeepsNumbers)
    {listener : Listener}
    (hlistener : ((empty s t).afterRun run).session.map (·.listener) = some listener) :
    listener.number < Numbering.next ((empty s t).afterRun run).transport := by
  induction run using List.reverseRecOn with
  | nil => cases hlistener
  | append_singleton run x ih =>
      have hearlier := ih fun y hy => hrun y (List.mem_append_left _ hy)
      rw [afterRun_concat] at hlistener ⊢
      cases x with
      | aside change =>
          have hkeeps : ∀ t, Numbering.next t ≤ Numbering.next (change t) :=
            hrun (.aside change) (by simp)
          exact Nat.lt_of_lt_of_le (hearlier hlistener) (hkeeps _)
      | step step =>
          simp only [undergo] at hlistener ⊢
          rcases listener_step_cases ((empty s t).afterRun run) step with
            ⟨hnext, hsame | hnone⟩ | ⟨hnext, hnew⟩
          · rw [hnext]
            exact hearlier (hsame ▸ hlistener)
          · simp [hnone] at hlistener
          · obtain rfl := Option.some.inj (hnew.symm.trans hlistener)
            rw [hnext]
            exact Nat.lt_succ_self _

/-- A number that was given out is not that of a new listener. -/
theorem abandoned_of_new
    {room room' : Room τ} {listener : Listener}
    (hgiven : listener.number < Numbering.next room.transport)
    (hnext : Numbering.next room'.transport = Numbering.next room.transport + 1)
    (hnew : room'.session.map (·.listener) = some ⟨Numbering.next room.transport⟩) :
    room'.Abandoned listener := by
  constructor
  · rw [hnext]
    exact Nat.lt_succ_of_lt hgiven
  · rw [hnew]
    intro heq
    obtain rfl := Option.some.inj heq
    exact Nat.lt_irrefl _ hgiven

/-- A listener whose session ends is abandoned. -/
theorem abandoned_of_endsSession
    {room : Room τ} {listener : Listener}
    (hgiven : listener.number < Numbering.next room.transport)
    {step : RoomStep} (hstep : room.EndsSession step) :
    (room.step step).room.Abandoned listener := by
  rcases hstep with hnone | ⟨name, rfl, hname⟩
  · rcases listener_step_cases room step with ⟨hnext, -⟩ | ⟨-, hnew⟩
    · exact ⟨hnext ▸ hgiven, by simp [hnone]⟩
    · simp [hnone] at hnew
  · exact abandoned_of_new hgiven (next_join room hname) (listener_join room hname)

namespace Abandoned

variable {room : Room τ} {listener : Listener}

theorem step (h : room.Abandoned listener) (step : RoomStep) :
    (room.step step).room.Abandoned listener := by
  rcases listener_step_cases room step with ⟨hnext, hsame | hnone⟩ | ⟨hnext, hnew⟩
  · exact ⟨hnext ▸ h.given, hsame ▸ h.other⟩
  · exact ⟨hnext ▸ h.given, by simp [hnone]⟩
  · exact abandoned_of_new h.given hnext hnew

theorem undergo (h : room.Abandoned listener) {x : Happening τ} (hx : x.KeepsNumbers) :
    (room.undergo x).Abandoned listener := by
  cases x with
  | step step => exact h.step step
  | aside change => exact ⟨Nat.lt_of_lt_of_le h.given (hx room.transport), h.other⟩

theorem afterRun
    (h : room.Abandoned listener) {run : List (Happening τ)}
    (hrun : ∀ x ∈ run, x.KeepsNumbers) : (room.afterRun run).Abandoned listener := by
  induction run using List.reverseRecOn with
  | nil => exact h
  | append_singleton run x ih =>
      rw [afterRun_concat]
      have hearlier := ih fun y hy => hrun y (List.mem_append_left _ hy)
      exact hearlier.undergo (hrun x (by simp))

end Abandoned

/-- Once a session has ended, nothing comes of an event for its listener: whatever has
happened since, to hear it succeeds, shows nothing and leaves the room as it is, with
its session, its renderer and its transport. -/
theorem hear_of_ended
    (s : Settings) (t : τ) {before since : List (Happening τ)} {ending : RoomStep}
    {listener : Listener}
    (hbefore : ∀ x ∈ before, x.KeepsNumbers) (hsince : ∀ x ∈ since, x.KeepsNumbers)
    (hlistener : ((empty s t).afterRun before).session.map (·.listener) = some listener)
    (hending : ((empty s t).afterRun before).EndsSession ending) (e : MetaEvent) :
    let room := (empty s t).afterRun (before ++ .step ending :: since)
    (room.hear (.event listener e)).result = .ok () ∧
      (room.hear (.event listener e)).lines = [] ∧
      (room.hear (.event listener e)).room = room := by
  intro room
  have hgiven := number_lt_next s t hbefore hlistener
  have hended := abandoned_of_endsSession hgiven hending
  have habandoned : room.Abandoned listener := by
    have hlater := hended.afterRun hsince
    rwa [← undergo, ← afterRun_cons, ← afterRun_append] at hlater
  rw [hear_event_of_ne habandoned.other e]
  exact ⟨rfl, rfl, rfl⟩

/-- The loss of the connection is reported to Alice, who leaves and comes back before
the report is taken out and heard. -/
theorem hear_of_ended_by_leaving :
    let before : List (Happening Loopback) :=
      [.step (.join "alice"), .aside fun t => (t.step .stall).2]
    let since : List (Happening Loopback) :=
      [.step (.join "alice"), .aside fun t => t.takeAll.2]
    let room := (empty {} ({} : Loopback)).afterRun (before ++ .step .leave :: since)
    (room.hear (.event ⟨0⟩ .unanswered)).result = .ok () ∧
      (room.hear (.event ⟨0⟩ .unanswered)).lines = [] ∧
      (room.hear (.event ⟨0⟩ .unanswered)).room = room := by
  intro before since
  have hbefore : ∀ x ∈ before, x.KeepsNumbers :=
    List.forall_mem_cons.mpr ⟨trivial,
      List.forall_mem_singleton.mpr fun t => t.nextListener_le_step .stall⟩
  have hsince : ∀ x ∈ since, x.KeepsNumbers :=
    List.forall_mem_cons.mpr ⟨trivial, List.forall_mem_singleton.mpr fun t => Nat.le_refl _⟩
  have hname : checkUser "alice" = .ok () := rfl
  have hlistener :
      ((empty {} ({} : Loopback)).afterRun before).session.map (·.listener) = some ⟨0⟩ :=
    listener_join (empty {} ({} : Loopback)) hname
  have hending : ((empty {} ({} : Loopback)).afterRun before).EndsSession .leave :=
    .inl (session_leave _)
  exact hear_of_ended {} ({} : Loopback) hbefore hsince hlistener hending .unanswered

end Room
end BayeuxChat
