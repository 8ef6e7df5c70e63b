import BayeuxChat.Bayeux.Loopback
import BayeuxChat.Room.Basic

/-!
# Hearing what waits

A room over a loopback finds what has arrived in the loopback's mailbox.  It is
taken out piece by piece, oldest first, and heard.
-/

namespace BayeuxChat

/-- What came of hearing one arrival: how it ended, and the lines shown. -/
structure Reaction where
  arrival : Arrival
  result : Except ChatError Unit
  lines : List Line

namespace Room

def takeWaiting? (room : Room Loopback) : Option (Arrival × Room Loopback) :=
  room.transport.take?.map fun (x, t) => (x, { room with transport := t })

/-- Hears as many arrivals as wait, up to a number. -/
def hearWaiting : Nat → Room Loopback → List Reaction × Room Loopback
  | 0, room => ([], room)
  | n + 1, room =>
    match room.takeWaiting? with
    | none => ([], room)
    | some (x, room) =>
      let first := room.hear x
      let (rest, room) := hearWaiting n first.room
      ({ arrival := x, result := first.result, lines := first.lines } :: rest, room)

def settle (room : Room Loopback) : List Reaction × Room Loopback :=
  hearWaiting room.transport.waiting.length room

end Room
end BayeuxChat
