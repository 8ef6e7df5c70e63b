import BayeuxChat.Proofs.Room.Coupling
import BayeuxChat.Proofs.Room.Standing
import BayeuxChat.Terminal.Client

/-!
# Whether the connection is there

A room keeps what it last heard of its connection, and a user who leaves hears nothing
any more.  While somebody is in the room the connection is there, whatever the room has
heard of it.  While nobody is, it is not there, and the room knows this unless the last
user left it in the belief that it was.
-/

namespace BayeuxChat

namespace Room

/-- The user left by a command while the connection seemed to be there, and nobody has
joined since. -/
def LeftConnected (s : Settings) (moves : List Move) : Prop :=
  ∃ before since, moves = before ++ .leave :: since ∧
    ((empty s {}).afterMoves before).user.isSome ∧
    ((empty s {}).afterMoves before).connected = true ∧
    ∀ name, .join name ∈ since → checkUser name ≠ .ok ()

/-- A move by which nobody joins leaves it at that. -/
theorem LeftConnected.concat
    {s : Settings} {moves : List Move} (h : LeftConnected s moves) {m : Move}
    (hm : ∀ name, m = .join name → checkUser name ≠ .ok ()) : LeftConnected s (moves ++ [m]) := by
  obtain ⟨before, since, rfl, huser, hconnected, hsince⟩ := h
  refine ⟨before, since ++ [m], by simp, huser, hconnected, ?_⟩
  intro name hname
  rw [List.mem_append, List.mem_singleton] at hname
  rcases hname with hname | hname
  · exact hsince name hname
  · exact hm name hname.symm

/-- A user who leaves because of an event has heard that the connection is lost. -/
theorem connected_of_departure
    {room : Room Loopback} {session : Session} (hsession : room.session = some session)
    {e : MetaEvent} (hout : (room.hearEvent e).room.session = none) :
    (room.hearEvent e).room.connected = false := by
  have hholds : room.Holds session.user session.listener session.confirmed :=
    ⟨session.handshakes, hsession⟩
  cases htopic : e.topic with
  | handshake =>
      obtain ⟨⟨handshakes, hafter⟩, -⟩ := hearHandshake_standing hholds e.successful e.reply
      simp only [hearEvent, htopic] at hout
      cases hafter.symm.trans hout
  | connect =>
      cases hsuccessful : e.successful with
      | true =>
          obtain ⟨⟨handshakes, hafter⟩, -⟩ := hearAnswered_standing hholds
          simp only [hearEvent, htopic, hsuccessful, if_true] at hout
          cases hafter.symm.trans hout
      | false =>
          simp only [hearEvent, htopic, hsuccessful, Bool.false_eq_true, if_false] at hout ⊢
          rcases hearUnanswered_cases room with ⟨hlost, hhear⟩ | ⟨-, -, hhear⟩ | ⟨-, -, hhear⟩
          · rw [hhear]
            exact hlost
          · rw [hhear]
          · rw [hhear]
  | other =>
      simp only [hearEvent, htopic] at hout
      cases hsession.symm.trans hout

/-- When something is heard after which nobody is in the room, nobody was before, or the
room has heard that the connection is lost. -/
theorem hear_cases_of_vacant
    {room : Room Loopback} {x : Arrival} (hout : (room.hear x).room.session = none) :
    (room.session = none ∧ (room.hear x).room.connected = room.connected) ∨
      (room.hear x).room.connected = false := by
  cases x with
  | message m => exact .inl ⟨hout, rfl⟩
  | event listener e =>
      rcases hear_event_cases room listener e with ⟨-, hhear⟩ | ⟨session, hsession, -, hhear⟩
      · rw [hhear] at hout ⊢
        exact .inl ⟨hout, rfl⟩
      · rw [hhear] at hout ⊢
        exact .inr (connected_of_departure hsession hout)

/-- A move after which nobody is in the room though its connection seems to be there is
the user's leaving, or nobody joins by it and so it was before. -/
theorem move_cases_of_vacant
    {room : Room Loopback} {m : Move} (hout : (room.move m).room.session = none)
    (hconnected : (room.move m).room.connected = true) :
    room.connected = true ∧
      ((room.session.isSome ∧ m = .leave) ∨
        (room.session = none ∧ ∀ name, m = .join name → checkUser name ≠ .ok ())) := by
  -- Most moves change neither who is in the room nor what it knows of the connection.
  have hsame {o : Outcome Loopback} (hsession : o.room.session = room.session)
      (hknown : o.room.connected = room.connected) (ho : room.move m = o)
      (hm : ∀ name, m = .join name → checkUser name ≠ .ok ()) :
      room.connected = true ∧
        ((room.session.isSome ∧ m = .leave) ∨
          (room.session = none ∧ ∀ name, m = .join name → checkUser name ≠ .ok ())) := by
    rw [ho] at hout hconnected
    exact ⟨hknown.symm.trans hconnected, .inr ⟨hsession.symm.trans hout, hm⟩⟩
  cases m with
  | join name =>
      rcases join_cases room name with ⟨refusal, hname, hjoin⟩ | ⟨-, hjoin⟩
      · refine hsame rfl rfl hjoin ?_
        rintro other ⟨rfl⟩ hok
        cases hname.symm.trans hok
      · simp only [move, hjoin] at hout
        cases hout
  | leave =>
      have hknown : room.connected = true := (connected_leave room).symm.trans hconnected
      cases hsession : room.session with
      | none => exact ⟨hknown, .inr ⟨rfl, fun name hname => by cases hname⟩⟩
      | some session => exact ⟨hknown, .inl ⟨rfl, rfl⟩⟩
  | say text audience =>
      rcases say_cases room text audience with ⟨e, hsay⟩ | ⟨user, -, -, -, hsay⟩
      · exact hsame rfl rfl hsay fun name hname => by cases hname
      · have hroom := send_room room user text audience
        refine hsame ?_ ?_ hsay fun name hname => by cases hname
        · rw [hroom]
        · rw [hroom]
  | stall => exact hsame rfl rfl rfl fun name hname => by cases hname
  | forget => exact hsame rfl rfl rfl fun name hname => by cases hname
  | hearOldest =>
      cases htaken : room.takeWaiting? with
      | none =>
          have hmove : room.move .hearOldest = room.done := by simp [move, htaken]
          exact hsame rfl rfl hmove fun name hname => by cases hname
      | some oldest =>
          obtain ⟨x, taken⟩ := oldest
          have hmove : room.move .hearOldest = taken.hear x := by simp [move, htaken]
          obtain ⟨rest, -, rfl⟩ := takeWaiting?_eq_some_iff.mp htaken
          rw [hmove] at hout hconnected
          rcases hear_cases_of_vacant hout with ⟨hvacant, hknown⟩ | hlost
          · exact ⟨hknown.symm.trans hconnected, .inr ⟨hvacant, fun name hname => by cases hname⟩⟩
          · cases hlost.symm.trans hconnected

/-! ## Runs -/

/-- While nobody is in the room, its connection seems to be there only if the user left it
so. -/
theorem leftConnected_of_vacant
    (s : Settings) (moves : List Move)
    (hvacant : ((empty s {}).afterMoves moves).session = none)
    (hconnected : ((empty s {}).afterMoves moves).connected = true) : LeftConnected s moves := by
  induction moves using List.reverseRecOn with
  | nil => cases hconnected
  | append_singleton moves m ih =>
      rw [afterMoves_concat] at hvacant hconnected
      obtain ⟨hbefore, ⟨hin, rfl⟩ | ⟨hout, hm⟩⟩ := move_cases_of_vacant hvacant hconnected
      · exact ⟨moves, [], rfl, by simpa [user] using hin, hbefore, by simp⟩
      · exact (ih hout hbefore).concat hm

/-- After every move of every run, the connection is there if it seems to be, unless the
user left the room while it seemed to be there and nobody has joined since; while a user is
in the room, it is there in any case.  So whoever wants to lose the connection while nobody
is in the room is told that there is none, but for that one case. -/
theorem connection_of_moves (s : Settings) (moves : List Move) :
    let room := (empty s {}).afterMoves moves
    (room.user.isSome → room.transport.connected = true) ∧
      (room.connected = true → room.transport.connected = true ∨ LeftConnected s moves) ∧
      ∀ audience, room.user = none → ¬LeftConnected s moves →
        let c : Client := { room := room, audience := audience }
        c.obey .loseConnection = c.printing [.alert "not connected"] := by
  intro room
  obtain ⟨hcoupled, -⟩ := coupled_afterMoves s moves
  change room.Coupled at hcoupled
  have hthere : room.user.isSome → room.transport.connected = true := by
    intro hin
    obtain ⟨user, huser⟩ := Option.isSome_iff_exists.mp hin
    obtain ⟨session, hsession, -⟩ := user_eq_some_iff.mp huser
    exact (hcoupled.serves hsession).connected
  have hvacant : room.user = none → room.connected = true → LeftConnected s moves := by
    intro hout hconnected
    rw [Room.user, Option.map_eq_none_iff] at hout
    exact leftConnected_of_vacant s moves hout hconnected
  refine ⟨hthere, ?_, ?_⟩
  · intro hconnected
    cases huser : room.user with
    | none => exact .inr (hvacant huser hconnected)
    | some user => exact .inl (hthere (by rw [huser]; rfl))
  · intro audience hout hnot c
    have hlost : c.room.connected = false := by
      rw [Bool.eq_false_iff]
      exact fun hconnected => hnot (hvacant hout hconnected)
    simp [Client.obey, hlost]

/-- A user who leaves gives the connection up, but the room does not say so. -/
theorem connected_after_leaving :
    let room := (empty {} {}).afterMoves [.join "alice", .leave]
    let c : Client := { room := room }
    room.connected = true ∧ room.transport.connected = false ∧ room.user = none ∧
      (c.obey .loseConnection).printed = [] := by
  decide

end Room
end BayeuxChat
