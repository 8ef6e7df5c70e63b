import BayeuxChat.Bayeux.Transport
import BayeuxChat.Log.Renderer
import BayeuxChat.Settings.Endpoint

/-!
# Chat rooms

A room as it looks to one of its users.  Between joining and leaving lies a
session: the room is connected, subscribed to the user's channels, and listens on
the meta channel.  Every session listens under a number of its own, and events
for any other listener are ignored, however late they arrive.

What is done with a room yields an `Outcome`.  Whatever can be refused is checked
before anything is done, so a failure leaves the room as it was.
-/

namespace BayeuxChat

/-- The time that a user spends in a room. -/
structure Session where
  user : String
  listener : Listener
  /-- Whether the connection has been confirmed. -/
  confirmed : Bool := false
  /-- How many handshakes there were in this session. -/
  handshakes : Nat := 0
  deriving DecidableEq, Inhabited

/-- A room with its transport. -/
structure Room (τ : Type) where
  settings : Settings
  transport : τ
  session : Option Session := none
  /-- Whether the connection was there when last heard of. -/
  connected : Bool := false
  renderer : Renderer := { flavor := settings.flavor }

/-- Whether the user is in the room. -/
inductive Presence where
  | out
  /-- The user has joined, but the connection is not confirmed yet. -/
  | entering (user : String)
  | inside (user : String)
  deriving DecidableEq

/-- What comes of doing something with a room: how it ended, the lines that are
shown, and the room after it. -/
structure Outcome (τ : Type) where
  result : Except ChatError Unit
  lines : List Line
  room : Room τ

namespace Room

variable {τ : Type}

/-- The room before anybody has joined. -/
def empty (settings : Settings) (transport : τ) : Room τ :=
  { settings := settings, transport := transport }

def user (room : Room τ) : Option String :=
  room.session.map (·.user)

def presence (room : Room τ) : Presence :=
  match room.session with
  | none => .out
  | some s => if s.confirmed then .inside s.user else .entering s.user

/-- The failure that leaves the room as it is. -/
def fail (room : Room τ) (e : ChatError) : Outcome τ :=
  { result := .error e, lines := [], room := room }

/-- The success that shows nothing. -/
def done (room : Room τ) : Outcome τ :=
  { result := .ok (), lines := [], room := room }

def display (room : Room τ) (envelope : Envelope) : Outcome τ :=
  let (lines, renderer) := room.renderer.lines envelope
  { result := .ok (), lines := lines, room := { room with renderer := renderer } }

/-- A name is one segment of a channel: it holds neither the separator of segments
nor the star that stands for any of them. -/
def checkSegment (name : String) : Except Refusal Unit :=
  if '/' ∈ name.toList ∨ '*' ∈ name.toList then .error .badUserName else .ok ()

def checkUser (name : String) : Except Refusal Unit :=
  if name = "" then .error .noUserName else checkSegment name

def checkAudience (flavor : Flavor) : Audience → Except Refusal Unit
  | .everyone => .ok ()
  | .only user =>
    if flavor = .collapsing then .error .noPrivateMessages
    else if user = "" then .error .noAddressee
    else checkSegment user

def joinEnvelope (flavor : Flavor) (user : String) : Envelope :=
  match flavor with
  | .personal => .join user none
  | .collapsing => .join user (some (user ++ " has joined"))

def leaveEnvelope (user : String) : Envelope :=
  .leave user (some (user ++ " has left"))

def sayEnvelope (user text : String) : Audience → Envelope
  | .everyone => .chat user (some text) none
  | .only addressee => .chat user (some text) (some addressee)

variable [Transport τ]

def publish (settings : Settings) (audience : Audience) (envelope : Envelope) (t : τ) : τ :=
  Transport.publish (settings.channel audience) (envelope.encode settings.flavor) t

/-- Begins a session of `user`. -/
def enter (room : Room τ) (user : String) : Room τ :=
  let s := room.settings
  let t := Transport.connect s.endpoint room.transport
  let t := Transport.batch
    (fun t => publish s .everyone (joinEnvelope s.flavor user)
      (Transport.subscribeAll (s.channelsOf user) t)) t
  let (listener, t) := Transport.listen t
  { room with
    transport := t
    connected := true
    session := some { user := user, listener := listener } }

/-- Ends the session, if there is one. -/
def leave (room : Room τ) : Room τ :=
  match room.session with
  | none => room
  | some session =>
    let s := room.settings
    let t := Transport.unlisten session.listener room.transport
    let t := Transport.batch
      (fun t => publish s .everyone (leaveEnvelope session.user)
        (Transport.unsubscribeAll (s.channelsOf session.user) t)) t
    { room with transport := Transport.disconnect t, session := none }

/-- Joins under a name; a session that is still there ends first. -/
def join (room : Room τ) (name : String) : Outcome τ :=
  match checkUser name with
  | .error refusal => room.fail (.refused refusal)
  | .ok () => (room.leave.enter name).done

/-- Whether a text is shown at once when it is sent: a private one is, since it
does not come back, unless it begins with a slash. -/
def isEchoed (text : String) : Audience → Bool
  | .everyone => false
  | .only _ => text.toList.head? != some '/'

/-- Sends what `user` says to an audience. -/
def send (room : Room τ) (user text : String) (audience : Audience) : Outcome τ :=
  let envelope := sayEnvelope user text audience
  let shown := if isEchoed text audience then room.display envelope else room.done
  { shown with
    room := { shown.room with
      transport := publish room.settings audience envelope shown.room.transport } }

def say (room : Room τ) (text : String) (audience : Audience) : Outcome τ :=
  if text = "" then room.fail (.refused .noText)
  else
    match room.user with
    | none => room.fail .outside
    | some user =>
      match checkAudience room.settings.flavor audience with
      | .error refusal => room.fail (.refused refusal)
      | .ok () => room.send user text audience

/-- The form in which news of the connection is shown.  In collapsing rooms news of
a handshake looks like somebody joining, other news like somebody leaving. -/
def newsEnvelope (flavor : Flavor) (topic : MetaTopic) (text : String) : Envelope :=
  match flavor, topic with
  | .personal, _ => .chat "server" (some text) none
  | .collapsing, .handshake => .join "SERVER" (some text)
  | .collapsing, _ => .leave "SERVER" (some text)

def tell (room : Room τ) (topic : MetaTopic) (text : String) : Outcome τ :=
  room.display (newsEnvelope room.settings.flavor topic text)

/-- Takes the connection of the session for confirmed. -/
def confirm (room : Room τ) : Room τ :=
  { room with session := room.session.map fun s => { s with confirmed := true } }

def countHandshake (room : Room τ) : Room τ :=
  { room with session := room.session.map fun s => { s with handshakes := s.handshakes + 1 } }

/-- Subscribes again after a handshake that was not the first: the server has
forgotten the client and its subscriptions.  This is done in collapsing rooms. -/
def resubscribe (room : Room τ) : Room τ :=
  let handshakes := (room.session.map (·.handshakes)).getD 0
  if 1 < handshakes ∧ room.settings.flavor = .collapsing then
    { room with
      transport := Transport.subscribe (room.settings.channel .everyone) room.transport }
  else room

def hearHandshake (room : Room τ) (successful : Bool) (reply : MetaReply) : Outcome τ :=
  if successful then
    let told := room.countHandshake.tell .handshake
      ("reinitialized client id: " ++ reply.clientId.getD "")
    { told with room := told.room.resubscribe.confirm }
  else room.tell .handshake (reply.error.getD "")

def hearAnswered (room : Room τ) : Outcome τ :=
  let told := if room.connected then room.done else room.tell .connect "reconnected!"
  { told with room := { told.room with connected := true }.confirm }

/-- Hears that the connection is lost, which ends the session where there are
personal channels. -/
def hearUnanswered (room : Room τ) : Outcome τ :=
  if room.connected then
    let told := room.tell .connect "disconnected!"
    let after := if room.settings.flavor = .personal then told.room.leave else told.room
    { told with room := { after with connected := false } }
  else room.done

def hearEvent (room : Room τ) (e : MetaEvent) : Outcome τ :=
  match e.topic with
  | .handshake => room.hearHandshake e.successful e.reply
  | .connect => if e.successful then room.hearAnswered else room.hearUnanswered
  | .other => room.done

def hearMessage (room : Room τ) (m : Message) : Outcome τ :=
  let (result, lines, renderer) := room.renderer.linesOfMessage m
  { result := result, lines := lines, room := { room with renderer := renderer } }

/-- Deals with what has arrived. -/
def hear (room : Room τ) : Arrival → Outcome τ
  | .message m => room.hearMessage m
  | .event listener e =>
    if room.session.map (·.listener) = some listener then room.hearEvent e else room.done

end Room

/-- What can be done with a room. -/
inductive RoomStep where
  | join (name : String)
  | leave
  | say (text : String) (audience : Audience)
  | hear (x : Arrival)
  deriving Inhabited

def Room.step {τ : Type} [Transport τ] (room : Room τ) : RoomStep → Outcome τ
  | .join name => room.join name
  | .leave => room.leave.done
  | .say text audience => room.say text audience
  | .hear x => room.hear x

end BayeuxChat
