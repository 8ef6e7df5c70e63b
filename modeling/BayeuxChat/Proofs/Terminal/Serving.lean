import BayeuxChat.Proofs.Room.Departures
import BayeuxChat.Proofs.Terminal.Digest

/-!
# The client always leaves

The client waits for a line and for an arrival at the same time, and deals with what it
gets first.  So between one line and the next it may have heard any part of what waits,
and in the end some arrivals may never be heard.  This file follows the client at every
pace.  `Client.serve` is the client that hears everything before it takes the next line.
-/

namespace BayeuxChat

/-- What comes of serving for a while: what is printed, the moves that are made with the
room, and the client in the end. -/
structure Service where
  printed : List Printed
  moves : List Move
  client : Client

/-- Goes on serving. -/
def Service.andThen (first : Service) (next : Client → Service) : Service :=
  { printed := first.printed ++ (next first.client).printed
    moves := first.moves ++ (next first.client).moves
    client := (next first.client).client }

namespace InputLine

/-- Whether the line is the last that the client reads: it is not UTF-8, or the user
quits. -/
def isLast : InputLine → Bool
  | .undecodable => true
  | .text line => decide (Command.ofLine line = .quit)

def command? : InputLine → Option Command
  | .undecodable => none
  | .text line => some (Command.ofLine line)

end InputLine

namespace Client

/-! ## Serving at a pace -/

/-- The moves that a command makes with the room. -/
def movesOf (c : Client) : Command → List Move
  | .join name => [.join name]
  | .leave => [.leave]
  | .loseConnection => if c.room.connected then [.stall] else []
  | .forgetClient => [.forget]
  | .say text => [.say text c.audience]
  | .address _ => []
  | .quit => []
  | .unknown _ => []

def idling (c : Client) : Service :=
  { printed := [], moves := [], client := c }

def obeying (command : Command) (c : Client) : Service :=
  { printed := (c.obey command).printed
    moves := c.movesOf command
    client := (c.obey command).client }

/-- Hears as many arrivals as wait, up to a number. -/
def hearing (n : Nat) (c : Client) : Service :=
  let (reactions, room) := c.room.hearWaiting n
  { printed := reactions.flatMap fun r => printedOf r.lines r.result
    moves := reactions.map fun _ => .hearOldest
    client := { c with room := room } }

/-- Obeys commands, one after the other.  The pace says how many of the arrivals that
wait are heard after each of them, the first having the number zero.  Before the first
nothing waits. -/
def obeyingAll (pace : Nat → Client → Nat) : List Command → Client → Service
  | [], c => c.idling
  | command :: commands, c =>
    ((c.obeying command).andThen fun c => c.hearing (pace 0 c)).andThen
      (obeyingAll (fun n => pace (n + 1)) commands)

/-- Takes lines until one is the last, and hears at a pace what arrives. -/
def serving (pace : Nat → Client → Nat) : List InputLine → Client → Service
  | [], c => c.idling
  | .undecodable :: _, c => c.idling
  | .text line :: lines, c =>
    let obeyed := c.obeying (Command.ofLine line)
    if (c.obey (Command.ofLine line)).goesOn then
      (obeyed.andThen fun c => c.hearing (pace 0 c)).andThen
        (serving (fun n => pace (n + 1)) lines)
    else obeyed

/-- The pace at which everything is heard before the next line is taken. -/
def hearingAll (_ : Nat) (c : Client) : Nat :=
  c.room.transport.waiting.length

/-- The lines are taken in order, up to the first that is the last. -/
theorem serving_eq_obeyingAll
    (pace : Nat → Client → Nat) (lines : List InputLine) (c : Client) :
    c.serving pace lines =
      c.obeyingAll pace
        ((lines.takeWhile fun line => !line.isLast).filterMap InputLine.command?) := by
  induction lines generalizing pace c with
  | nil => rfl
  | cons line lines ih =>
      cases line with
      | undecodable => rfl
      | text line =>
          by_cases hquit : Command.ofLine line = .quit
          · simp [serving, InputLine.isLast, hquit, obeyingAll, obeying, obey, stopped,
              movesOf, idling]
          · have hgoesOn := (c.goesOn_obey_iff (Command.ofLine line)).mpr hquit
            have hrest := funext (ih fun n => pace (n + 1))
            simp [serving, hgoesOn, InputLine.isLast, hquit, InputLine.command?, obeyingAll,
              hrest]

/-! ## What is served is a run of moves -/

theorem room_andThen
    {room : Room Loopback} {first : Service} {next : Client → Service}
    (hfirst : first.client.room = room.afterMoves first.moves)
    (hnext : ∀ c, (next c).client.room = c.room.afterMoves (next c).moves) :
    (first.andThen next).client.room = room.afterMoves (first.andThen next).moves := by
  have hsecond := hnext first.client
  rw [hfirst, ← Room.afterMoves_append] at hsecond
  exact hsecond

theorem room_obeying (command : Command) (c : Client) :
    (c.obeying command).client.room = c.room.afterMoves (c.obeying command).moves := by
  cases command with
  | loseConnection =>
      simp only [obeying, obey, movesOf]
      split <;> rfl
  | _ => rfl

theorem room_hearing (n : Nat) (c : Client) :
    (c.hearing n).client.room = c.room.afterMoves (c.hearing n).moves :=
  Room.hearWaiting_eq_afterMoves n c.room

theorem room_obeyingAll (pace : Nat → Client → Nat) (commands : List Command) (c : Client) :
    (c.obeyingAll pace commands).client.room =
      c.room.afterMoves (c.obeyingAll pace commands).moves := by
  induction commands generalizing pace c with
  | nil => rfl
  | cons command commands ih =>
      have hfirst := room_andThen (c.room_obeying command) fun c => c.room_hearing (pace 0 c)
      exact room_andThen hfirst (ih _)

theorem room_serving (pace : Nat → Client → Nat) (lines : List InputLine) (c : Client) :
    (c.serving pace lines).client.room = c.room.afterMoves (c.serving pace lines).moves := by
  rw [serving_eq_obeyingAll]
  exact room_obeyingAll pace _ c

/-! ## Everything is heard -/

theorem takeLines_eq_serving (lines : List InputLine) (c : Client) :
    (takeLines lines c).2.1.flatten = (c.serving hearingAll lines).printed ∧
      (takeLines lines c).2.2 = (c.serving hearingAll lines).client := by
  induction lines generalizing c with
  | nil => exact ⟨rfl, rfl⟩
  | cons line lines ih =>
      cases line with
      | undecodable => exact ⟨rfl, rfl⟩
      | text line =>
          by_cases hgoesOn : (c.obey (Command.ofLine line)).goesOn = true
          · have hquit := (c.goesOn_obey_iff (Command.ofLine line)).mp hgoesOn
            obtain ⟨hprinted, hclient⟩ := ih (c.respond (Command.ofLine line)).2
            simp only [takeLines, turn_text c hquit, if_true, List.flatten_cons, hprinted, hclient,
              serving, hgoesOn]
            exact ⟨rfl, rfl⟩
          · simp [takeLines, turn, serving, hgoesOn, obeying]

theorem takeLines_concat (lines : List InputLine) (line : InputLine) (c : Client) :
    takeLines (lines ++ [line]) c =
      if (takeLines lines c).1 then
        let last := (takeLines lines c).2.2.turn line
        (last.goesOn, (takeLines lines c).2.1 ++ [last.printed], last.client)
      else takeLines lines c := by
  induction lines generalizing c with
  | nil => cases hgoesOn : (c.turn line).goesOn <;> simp [takeLines, hgoesOn]
  | cons first lines ih =>
      by_cases hgoesOn : (c.turn first).goesOn
      · simp only [List.cons_append, takeLines, hgoesOn, if_true, ih]
        split <;> rfl
      · simp [takeLines, hgoesOn]

/-- What follows the last line feed is taken as one more line. -/
theorem takeInput_eq_takeLines (c : Client) (input : Input) :
    (c.takeInput input).1.flatten =
        help :: (takeLines (input.lines ++ input.rest.toList) c).2.1.flatten ∧
      (c.takeInput input).2 = (takeLines (input.lines ++ input.rest.toList) c).2.2 := by
  cases hrest : input.rest with
  | none =>
      rw [Option.toList_none, List.append_nil]
      cases hgoesOn : (takeLines input.lines c).1 <;> simp [takeInput, hgoesOn, hrest]
  | some line =>
      rw [Option.toList_some, takeLines_concat]
      cases hgoesOn : (takeLines input.lines c).1 <;> simp [takeInput, hgoesOn, hrest]

/-- The client that hears everything before the next line is the one that serves. -/
theorem serve_eq_serving (s : Settings) (input : Input) :
    let served := (initial s).serving hearingAll (input.lines ++ input.rest.toList)
    (serve s input).1.flatten = help :: served.printed ∧
      (serve s input).2 = served.client.room.leave := by
  intro served
  obtain ⟨hprinted, hclient⟩ :=
    takeLines_eq_serving (input.lines ++ input.rest.toList) (initial s)
  obtain ⟨hpieces, hlast⟩ := (initial s).takeInput_eq_takeLines input
  have hroom : (serve s input).2 = ((initial s).takeInput input).2.room.leave := rfl
  constructor
  · rw [serve, hpieces, hprinted]
  · rw [hroom, hlast, hclient]

/-! ## The end -/

/-- Whatever bytes are read and at whatever pace arrivals are heard, the client takes the
lines in order up to the first that is not UTF-8 or by which the user quits, or to the
end of the input, and nothing after that counts.  Then it leaves, which succeeds and
shows nothing: nobody is in the room and its loopback is idle.  In the whole run, with
this last move, exactly one departure was announced for each joining that succeeded,
under the same name and in the same order.  At the pace at which everything is heard,
this is the session at the terminal. -/
theorem departures_of_serving (s : Settings) (bytes : List UInt8) (pace : Nat → Client → Nat) :
    let input := Input.ofBytes bytes
    let lines := input.lines ++ input.rest.toList
    let served := (initial s).serving pace lines
    let last := served.client.room.move .leave
    let moments := (Room.empty s {}).history (served.moves ++ [.leave])
    served = (initial s).obeyingAll pace
        ((lines.takeWhile fun line => !line.isLast).filterMap InputLine.command?) ∧
      last.room = (Room.empty s {}).afterMoves (served.moves ++ [.leave]) ∧
      last.result = .ok () ∧ last.lines = [] ∧
      last.room.presence = .out ∧ last.room.transport.Idle ∧
      Call.departures s.flavor (moments.flatMap Moment.calls) =
        (moments.filterMap Moment.joined?).map s.departure ∧
      (serve s input).1.flatten = help :: ((initial s).serving hearingAll lines).printed ∧
      (serve s input).2 = ((initial s).serving hearingAll lines).client.room.leave := by
  intro input lines served last moments
  have hrun : last.room = (Room.empty s {}).afterMoves (served.moves ++ [.leave]) := by
    have hserved := room_serving pace lines (initial s)
    rw [Room.afterMoves_concat]
    exact congrArg (fun room => (Room.move room .leave).room) hserved
  have hout : last.room.session = none := Room.session_leave served.client.room
  have hidle : last.room.transport.Idle := by
    obtain ⟨hcoupled, -⟩ := Room.coupled_afterMoves s (served.moves ++ [.leave])
    rw [← hrun] at hcoupled
    exact hcoupled.idle hout
  have hdepartures : Call.departures s.flavor (moments.flatMap Moment.calls) =
      (moments.filterMap Moment.joined?).map s.departure := by
    have hnobody : last.room.user = none := by rw [Room.user, hout, Option.map_none]
    have hempty : (Room.empty s ({} : Loopback)).user = none := rfl
    have hguests := Room.departures_history hempty (served.moves ++ [.leave])
    rw [← hrun, hnobody, Option.toList_none, List.map_nil, List.append_nil] at hguests
    exact hguests
  exact ⟨serving_eq_obeyingAll pace lines _, hrun, rfl, rfl, Room.presence_eq_out_iff.mpr hout,
    hidle, hdepartures, serve_eq_serving s input⟩

end Client
end BayeuxChat
