import BayeuxChat.Room.Waiting
import BayeuxChat.Terminal.Command
import BayeuxChat.Terminal.Input

/-!
# The terminal client

The client takes one line at a time, does what it asks for, and hears everything
that has arrived by then before it takes the next.  It prints alerts and lines of
the log.  The session at the terminal ends with the input, with a line that is not
UTF-8, or when the user quits, and on the way out the user leaves the room.
-/

namespace BayeuxChat

/-- One thing that the client prints, always a line of its own. -/
inductive Printed where
  | alert (text : String)
  | line (l : Line)
  deriving DecidableEq, Inhabited

/-- The text that appears, with its line end. -/
def Printed.text : Printed → String
  | .alert text => "! " ++ text ++ "\n"
  | .line l => l.printed ++ "\n"

def Printed.texts (printed : List Printed) : String :=
  String.join (printed.map Printed.text)

/-- The client: a room over a loopback, and whom the next text is meant for. -/
structure Client where
  room : Room Loopback
  audience : Audience := .everyone

/-- What comes of one line: whether the client goes on, what it prints, and the
client after it. -/
structure Turn where
  goesOn : Bool
  printed : List Printed
  client : Client

namespace Client

def initial (settings : Settings) : Client :=
  { room := Room.empty settings {} }

def help : Printed :=
  .alert "commands: :join <name>, :leave, :to <name>, :public, :drop, :rehandshake, :quit"

/-- What is printed when lines are to be shown and there may be a failure. -/
def printedOf (lines : List Line) (result : Except ChatError Unit) : List Printed :=
  let alerts := match result with
    | .ok () => []
    | .error e => [.alert e.message]
  lines.map .line ++ alerts

/-- The turn in which something was done with the room. -/
def after (c : Client) (o : Outcome Loopback) : Turn :=
  { goesOn := true
    printed := printedOf o.lines o.result
    client := { c with room := o.room } }

/-- The turn in which nothing was done but print. -/
def printing (c : Client) (printed : List Printed) : Turn :=
  { goesOn := true, printed := printed, client := c }

def stopped (c : Client) : Turn :=
  { goesOn := false, printed := [], client := c }

/-- The client after something happened to its transport. -/
def withTransport (c : Client) (happens : Loopback → Loopback) : Client :=
  { c with room := { c.room with transport := happens c.room.transport } }

def obey (c : Client) : Command → Turn
  | .join name => c.after (c.room.join name)
  | .leave => c.after c.room.leave.done
  | .address audience => printing { c with audience := audience } []
  | .loseConnection =>
    if c.room.connected then (c.withTransport Loopback.stall).printing []
    else c.printing [.alert "not connected"]
  | .forgetClient => (c.withTransport Loopback.forget).printing []
  | .quit => c.stopped
  | .say text => c.after (c.room.say text c.audience)
  | .unknown word => c.printing [.alert ("unknown command " ++ Text.quote word), help]

def settle (c : Client) : List Printed × Client :=
  let (reactions, room) := c.room.settle
  (reactions.flatMap fun r => printedOf r.lines r.result, { c with room := room })

/-- Does what a line asks for and hears what arrives. -/
def turn (c : Client) : InputLine → Turn
  | .undecodable => c.stopped
  | .text line =>
    let obeyed := c.obey (Command.ofLine line)
    if obeyed.goesOn then
      let (heard, c) := obeyed.client.settle
      { goesOn := true, printed := obeyed.printed ++ heard, client := c }
    else obeyed

/-- Takes the lines until one is the last; what is printed comes line by line. -/
def takeLines : List InputLine → Client → Bool × List (List Printed) × Client
  | [], c => (true, [], c)
  | line :: lines, c =>
    let first := c.turn line
    if first.goesOn then
      let (goesOn, printed, c) := takeLines lines first.client
      (goesOn, first.printed :: printed, c)
    else (false, [first.printed], first.client)

/-- Takes a whole input.  What is printed comes in pieces: one before the first
line, one for each line, and one at the end of the input if it is reached. -/
def takeInput (c : Client) (input : Input) : List (List Printed) × Client :=
  let (goesOn, printed, c) := takeLines input.lines c
  if goesOn then
    match input.rest with
    | none => ([help] :: printed ++ [[]], c)
    | some line =>
      let last := c.turn line
      ([help] :: printed ++ [last.printed], last.client)
  else ([help] :: printed, c)

/-- The session at the terminal: what is printed, and the room after the user has
left it for good. -/
def serve (settings : Settings) (input : Input) : List (List Printed) × Room Loopback :=
  let (printed, c) := (initial settings).takeInput input
  (printed, c.room.leave)

end Client
end BayeuxChat
