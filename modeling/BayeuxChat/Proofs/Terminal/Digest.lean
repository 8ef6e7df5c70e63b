import BayeuxChat.Terminal.Client

/-!
# The client in brief

A client that has heard everything keeps much that can no longer be noticed:
listeners, subscriptions, an empty mailbox.  What can be noticed depends on five
values only.  This file describes the client by these values and by what it prints,
with every line and every alert written out.
-/

namespace BayeuxChat

/-- What a client comes down to once it has heard everything. -/
structure Digest where
  audience : Audience := .everyone
  user : Option String := none
  connected : Bool := false
  handshakes : Nat := 0
  /-- Who said the last line, unless it was an announcement. -/
  last : Option String := none
  deriving DecidableEq, Inhabited

namespace Digest

/-! ## Lines -/

def joinLine (flavor : Flavor) (name : String) : Line :=
  match flavor with
  | .personal => { title := name ++ ":", text := name ++ " has joined.", alert := false }
  | .collapsing => { title := name ++ ":", text := name ++ " has joined", alert := true }

/-- A line that tells of the connection. -/
def systemLine (flavor : Flavor) (text : String) : Line :=
  match flavor with
  | .personal => { title := "server:", text := text, alert := false }
  | .collapsing => { title := "SERVER:", text := text, alert := true }

/-- The line for the `n`-th handshake. -/
def clientIdLine (flavor : Flavor) (n : Nat) : Line :=
  systemLine flavor ("reinitialized client id: " ++ Text.paddedHex 8 n)

/-- What is said to everyone.  Where lines are collapsed, the name is left out if
the last line was by the same user. -/
def chatLine (flavor : Flavor) (last : Option String) (user text : String) : Line :=
  match flavor with
  | .personal => { title := user ++ ":", text := text, alert := false }
  | .collapsing =>
    { title := if last = some user then "..." else user ++ ":", text := text, alert := false }

def privateLine (user addressee text : String) : Line :=
  { title := user ++ " to " ++ addressee ++ ":", text := text, alert := false }

/-! ## Alerts -/

def badNameAlert : String :=
  "A userName can't contain '/' or '*'"

def helpAlert : String :=
  "commands: :join <name>, :leave, :to <name>, :public, :drop, :rehandshake, :quit"

/-- Whether no user can have the name. -/
def isBadName (name : String) : Bool :=
  name.toList.contains '/' || name.toList.contains '*'

/-- The alert for a name that nobody can join under. -/
def nameAlert? (name : String) : Option String :=
  if name = "" then some "Please enter a userName!"
  else if isBadName name then some badNameAlert
  else none

/-- The alert for an addressee to whom nothing can be said. -/
def addresseeAlert? (flavor : Flavor) (addressee : String) : Option String :=
  if flavor = .collapsing then some "Private messages aren't available in this room"
  else if addressee = "" then some "Please enter the destination username"
  else if isBadName addressee then some badNameAlert
  else none

/-! ## Commands -/

def join (flavor : Flavor) (d : Digest) (name : String) : List Printed × Digest :=
  match nameAlert? name with
  | some alert => ([.alert alert], d)
  | none =>
    ([.line (joinLine flavor name), .line (clientIdLine flavor (d.handshakes + 1))],
      { d with
        user := some name, connected := true, handshakes := d.handshakes + 1, last := none })

def loseConnection (flavor : Flavor) (d : Digest) : List Printed × Digest :=
  match d.connected, d.user with
  | false, _ => ([.alert "not connected"], d)
  | true, none => ([], d)
  | true, some user =>
    ([.line (systemLine flavor "disconnected!")],
      { d with
        user := if flavor = .personal then none else some user
        connected := false, last := none })

def forgetClient (flavor : Flavor) (d : Digest) : List Printed × Digest :=
  match d.user with
  | none => ([], d)
  | some _ =>
    (.line (clientIdLine flavor (d.handshakes + 1)) ::
        if d.connected then [] else [.line (systemLine flavor "reconnected!")],
      { d with connected := true, handshakes := d.handshakes + 1, last := none })

/-- What a user says to one other user is shown at once unless it begins with a
slash, and it comes back if the user listens on the channel that it goes to. -/
def sayTo (user addressee text : String) : List Printed :=
  let line := .line (privateLine user addressee text)
  (if text.toList.head? = some '/' then [] else [line]) ++
    if addressee = user ∨ addressee = "public" then [line] else []

def say (flavor : Flavor) (d : Digest) (text : String) : List Printed × Digest :=
  if text = "" then ([.alert "Please enter some message"], d)
  else
    match d.user, d.audience with
    | none, _ => ([.alert "Please join the room first"], d)
    | some user, .everyone =>
      ([.line (chatLine flavor d.last user text)], { d with last := some user })
    | some user, .only addressee =>
      match addresseeAlert? flavor addressee with
      | some alert => ([.alert alert], d)
      | none => (sayTo user addressee text, d)

/-- What a command makes the client print, and what becomes of it. -/
def step (flavor : Flavor) (d : Digest) : Command → List Printed × Digest
  | .join name => d.join flavor name
  | .leave => ([], { d with user := none })
  | .address audience => ([], { d with audience := audience })
  | .loseConnection => d.loseConnection flavor
  | .forgetClient => d.forgetClient flavor
  | .quit => ([], d)
  | .say text => d.say flavor text
  | .unknown word =>
    ([.alert ("unknown command " ++ Text.quote word), .alert helpAlert], d)

end Digest

/-! ## What can be noticed -/

/-- What can be noticed of a command: what is printed, who is in the room
afterwards, and whether the connection is there. -/
structure Observation where
  printed : List Printed
  user : Option String
  connected : Bool
  deriving DecidableEq

def Digest.observe (flavor : Flavor) (d : Digest) : List Command → List Observation
  | [] => []
  | command :: rest =>
    let next := d.step flavor command
    { printed := next.1, user := next.2.user, connected := next.2.connected } ::
      next.2.observe flavor rest

namespace Client

/-- Does what a command asks for and hears what arrives. -/
def respond (c : Client) (command : Command) : List Printed × Client :=
  let obeyed := c.obey command
  let (heard, c) := obeyed.client.settle
  (obeyed.printed ++ heard, c)

def observe (c : Client) : List Command → List Observation
  | [] => []
  | command :: rest =>
    let next := c.respond command
    { printed := next.1, user := next.2.room.user, connected := next.2.room.connected } ::
      next.2.observe rest

/-- The client after some commands. -/
def afterCommands (c : Client) (commands : List Command) : Client :=
  commands.foldl (fun c command => (c.respond command).2) c

/-- Only a user who wants out makes the client stop. -/
theorem goesOn_obey_iff (c : Client) (command : Command) :
    (c.obey command).goesOn = true ↔ command ≠ .quit := by
  cases command with
  | quit => simp [obey, stopped]
  | loseConnection =>
      simp only [obey]
      split <;> simp [printing]
  | _ => simp [obey, after, printing]

/-- Every line but the last is taken by responding to its command. -/
theorem turn_text
    (c : Client) {line : String} (h : Command.ofLine line ≠ .quit) :
    c.turn (.text line) =
      { goesOn := true
        printed := (c.respond (Command.ofLine line)).1
        client := (c.respond (Command.ofLine line)).2 } := by
  have hgoesOn := (c.goesOn_obey_iff (Command.ofLine line)).mpr h
  simp only [turn, hgoesOn, if_true, respond]

end Client
end BayeuxChat
