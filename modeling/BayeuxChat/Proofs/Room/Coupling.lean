import BayeuxChat.Proofs.Room.OverLoopback
import Mathlib.Data.List.Induction

/-!
# The session and its transport stay together

A run of a room over a loopback mixes, in any order, what the user does, what the
connection does, and the hearing of what has arrived, oldest first.  What waits may
be long out of date when it is heard.  Still the two states never come apart: after
every move the loopback is idle or serves exactly the session that the room is in.
-/

namespace BayeuxChat

/-! ## Runs -/

/-- One move of a run of a room over a loopback. -/
inductive Move where
  | join (name : String)
  | leave
  | say (text : String) (audience : Audience)
  /-- A connect request is left unanswered. -/
  | stall
  /-- The server demands another handshake. -/
  | forget
  /-- The oldest arrival that waits is heard, if there is one. -/
  | hearOldest
  deriving DecidableEq, Inhabited

namespace Room

/-- Makes one move. -/
def move (room : Room Loopback) : Move → Outcome Loopback
  | .join name => room.join name
  | .leave => room.leave.done
  | .say text audience => room.say text audience
  | .stall => { room with transport := room.transport.stall }.done
  | .forget => { room with transport := room.transport.forget }.done
  | .hearOldest =>
    match room.takeWaiting? with
    | none => room.done
    | some (x, room) => room.hear x

/-- The room after a run. -/
def afterMoves (room : Room Loopback) (moves : List Move) : Room Loopback :=
  moves.foldl (fun room m => (room.move m).room) room

@[simp] theorem afterMoves_concat (room : Room Loopback) (moves : List Move) (m : Move) :
    room.afterMoves (moves ++ [m]) = ((room.afterMoves moves).move m).room := by
  simp [afterMoves]

theorem afterMoves_append (room : Room Loopback) (moves more : List Move) :
    room.afterMoves (moves ++ more) = (room.afterMoves moves).afterMoves more :=
  List.foldl_append

/-! ## Taking out what waits -/

/-- The room with another mailbox. -/
def withMailbox (room : Room Loopback) (mailbox : Option (List Arrival)) : Room Loopback :=
  { room with transport := { room.transport with mailbox := mailbox } }

@[simp] theorem mailbox_withMailbox
    (room : Room Loopback) (mailbox : Option (List Arrival)) :
    (room.withMailbox mailbox).transport.mailbox = mailbox :=
  rfl

theorem takeWaiting?_eq_some_iff {room room' : Room Loopback} {x : Arrival} :
    room.takeWaiting? = some (x, room') ↔
      ∃ rest, room.transport.mailbox = some (x :: rest) ∧
        room' = room.withMailbox (some rest) := by
  constructor
  · intro h
    simp only [takeWaiting?, Option.map_eq_some_iff, Prod.exists] at h
    obtain ⟨y, t, htake, heq⟩ := h
    obtain ⟨rfl, rfl⟩ := Prod.mk.inj heq
    simp only [Loopback.take?] at htake
    split at htake
    · next y rest hmailbox =>
      obtain ⟨rfl, rfl⟩ := Prod.mk.inj (Option.some.inj htake)
      exact ⟨rest, hmailbox, rfl⟩
    · cases htake
  · rintro ⟨rest, hmailbox, rfl⟩
    simp [takeWaiting?, Loopback.take?, hmailbox, withMailbox]

/-- To hear what waits is to move once for every arrival that is heard. -/
theorem hearWaiting_eq_afterMoves (n : Nat) (room : Room Loopback) :
    (room.hearWaiting n).2 =
      room.afterMoves ((room.hearWaiting n).1.map fun _ => .hearOldest) := by
  induction n generalizing room with
  | zero => rfl
  | succ n ih =>
      cases htaken : room.takeWaiting? with
      | none => simp [hearWaiting, htaken, afterMoves]
      | some oldest =>
          have hmove : (room.move .hearOldest).room = (oldest.2.hear oldest.1).room := by
            simp [move, htaken]
          simp [hearWaiting, htaken, ih, afterMoves, hmove]

/-- The mailbox has no part in the coupling. -/
theorem Coupled.withMailbox
    {room : Room Loopback} (h : room.Coupled) (mailbox : Option (List Arrival)) :
    (room.withMailbox mailbox).Coupled := by
  obtain hsession | ⟨session, hsession⟩ := Option.eq_none_or_eq_some room.session
  · have hidle := h.idle hsession
    exact coupled_of_idle hsession ⟨hidle.address, hidle.clientId, hidle.handshakeDue,
      hidle.subscriptions, hidle.listeners, hidle.batchDepth, hidle.deferred⟩
  · have hserves := h.serves hsession
    exact coupled_of_serves hsession
      (hserves.of_eq rfl hserves.clientId hserves.handshakeDue rfl rfl rfl rfl)

/-! ## The coupling along a run -/

theorem coupled_stall {room : Room Loopback} (h : room.Coupled) :
    Coupled { room with transport := room.transport.stall } := by
  obtain hsession | ⟨session, hsession⟩ := Option.eq_none_or_eq_some room.session
  · rwa [(h.idle hsession).stall_eq]
  · exact coupled_of_serves hsession (h.serves hsession).stall

theorem coupled_forget {room : Room Loopback} (h : room.Coupled) :
    Coupled { room with transport := room.transport.forget } := by
  obtain hsession | ⟨session, hsession⟩ := Option.eq_none_or_eq_some room.session
  · rwa [(h.idle hsession).forget_eq]
  · exact coupled_of_serves hsession (h.serves hsession).forget

/-- Every move keeps the room and its loopback together. -/
theorem coupled_move {room : Room Loopback} (h : room.Coupled) (m : Move) :
    (room.move m).room.Coupled := by
  cases m with
  | join name => exact coupled_join h name
  | leave => exact coupled_leave h
  | say text audience => exact coupled_say h text audience
  | stall => exact coupled_stall h
  | forget => exact coupled_forget h
  | hearOldest =>
      simp only [move]
      split
      · exact h
      · next x taken htaken =>
        obtain ⟨rest, -, rfl⟩ := takeWaiting?_eq_some_iff.mp htaken
        exact coupled_hear (h.withMailbox _) x

theorem settings_move (room : Room Loopback) (m : Move) :
    (room.move m).room.settings = room.settings := by
  cases m with
  | join name => exact settings_join room name
  | leave => exact settings_leave room
  | say text audience => exact settings_say room text audience
  | stall => rfl
  | forget => rfl
  | hearOldest =>
      simp only [move]
      split
      · rfl
      · next x taken htaken =>
        obtain ⟨rest, -, rfl⟩ := takeWaiting?_eq_some_iff.mp htaken
        exact (hear_cases _ x).1

theorem settings_afterMoves (room : Room Loopback) (moves : List Move) :
    (room.afterMoves moves).settings = room.settings := by
  induction moves using List.reverseRecOn with
  | nil => rfl
  | append_singleton moves m ih => rw [afterMoves_concat, settings_move, ih]

/-- What holds along every run: the coupling, and the settings it started with. -/
theorem coupled_afterMoves (s : Settings) (moves : List Move) :
    ((empty s {}).afterMoves moves).Coupled ∧
      ((empty s {}).afterMoves moves).settings = s := by
  refine ⟨?_, settings_afterMoves _ moves⟩
  induction moves using List.reverseRecOn with
  | nil => exact coupled_empty s
  | append_singleton moves m ih =>
      rw [afterMoves_concat]
      exact coupled_move ih m

/-- After every move of every run, no batch is open and nothing is put off.  While
nobody is in the room, it has no listener, and its loopback is not connected and has
no identity, no handshake due, no subscription and no listener.  While a user is in
the room, the loopback is connected to the room's endpoint, has an identity and no
handshake due, is subscribed to exactly the user's channels, and its only listener
is the room's. -/
theorem coupling_of_moves (s : Settings) (moves : List Move) :
    let room := (empty s {}).afterMoves moves
    let t := room.transport
    t.batchDepth = 0 ∧ t.deferred = [] ∧
      (room.presence = .out →
        room.session.map (·.listener) = none ∧ t.address = none ∧ t.clientId = none ∧
          t.handshakeDue = false ∧ t.subscriptions = [] ∧ t.listeners = []) ∧
      ∀ user, (room.presence = .entering user ∨ room.presence = .inside user) →
        t.address = some s.endpoint ∧ t.clientId.isSome ∧ t.handshakeDue = false ∧
          t.subscriptions.Nodup ∧
          (∀ channel, channel ∈ t.subscriptions ↔
            channel = s.channel .everyone ∨
              (s.flavor = .personal ∧ channel = s.channel (.only user))) ∧
          ∃ listener, room.session.map (·.listener) = some listener ∧
            t.listeners = [listener] := by
  intro room t
  obtain ⟨hcoupled, hsettings⟩ := coupled_afterMoves s moves
  change room.Coupled at hcoupled
  change room.settings = s at hsettings
  obtain ⟨hbatchDepth, hdeferred⟩ := hcoupled.unbatched
  refine ⟨hbatchDepth, hdeferred, ?_, ?_⟩
  · intro hout
    have hsession := presence_eq_out_iff.mp hout
    have hidle := hcoupled.idle hsession
    exact ⟨by simp [hsession], hidle.address, hidle.clientId, hidle.handshakeDue,
      hidle.subscriptions, hidle.listeners⟩
  · intro user hin
    obtain ⟨session, hsession, rfl⟩ := exists_session_of_presence hin
    have hserves := hcoupled.serves hsession
    rw [hsettings] at hserves
    refine ⟨hserves.address, hserves.clientId, hserves.handshakeDue,
      hserves.nodup_subscriptions, ?_, session.listener, by simp [hsession],
      hserves.listeners⟩
    intro channel
    rw [hserves.mem_subscriptions, Settings.mem_channelsOf_iff]

end Room
end BayeuxChat
