import BayeuxChat.Bayeux.Transport
import BayeuxChat.Text.Numeral

/-!
# The loopback

A transport without a server, for a single client: what it publishes on a channel
that it is subscribed to arrives at once, and nothing else does.  A handshake is
due with every connection and takes place as soon as somebody listens on the meta
channel.  Inside a batch, subscriptions and publishes are put off until the
outermost batch ends.

Arrivals wait in a mailbox, in order, until they are taken out.  The mailbox can
be closed; whatever would arrive after that is lost.
-/

namespace BayeuxChat

/-- A call that can be put off. -/
inductive Deferred where
  | subscribe (channel : String)
  | unsubscribe (channel : String)
  | publish (channel : String) (data : Json)
  deriving Inhabited

/-- The state of a loopback. -/
structure Loopback where
  /-- The address it is connected to, if it is. -/
  address : Option String := none
  /-- The identity given by the last handshake of the connection. -/
  clientId : Option String := none
  handshakeDue : Bool := false
  /-- The channels subscribed to, each once. -/
  subscriptions : List String := []
  /-- Those who listen on the meta channel, in the order of their numbers. -/
  listeners : List Listener := []
  nextListener : Nat := 0
  handshakes : Nat := 0
  /-- How many messages were published and heard. -/
  messages : Nat := 0
  /-- How many batches are open, one inside the other. -/
  batchDepth : Nat := 0
  /-- The calls put off, in order. -/
  deferred : List Deferred := []
  /-- What has arrived and was not taken out, oldest first, unless closed. -/
  mailbox : Option (List Arrival) := some []
  deriving Inhabited

namespace Loopback

def connected (t : Loopback) : Bool :=
  t.address.isSome

def waiting (t : Loopback) : List Arrival :=
  t.mailbox.getD []

/-- Puts an arrival into the mailbox. -/
def post (x : Arrival) (t : Loopback) : Loopback :=
  { t with mailbox := t.mailbox.map (· ++ [x]) }

/-- Closes the mailbox; what waits there is lost. -/
def close (t : Loopback) : Loopback :=
  { t with mailbox := none }

/-- Takes the oldest arrival out of the mailbox. -/
def take? (t : Loopback) : Option (Arrival × Loopback) :=
  match t.mailbox with
  | some (x :: rest) => some (x, { t with mailbox := some rest })
  | _ => none

def takeAll (t : Loopback) : List Arrival × Loopback :=
  (t.waiting, { t with mailbox := t.mailbox.map fun _ => [] })

def broadcast (e : MetaEvent) (t : Loopback) : Loopback :=
  t.listeners.foldl (fun t listener => t.post (.event listener e)) t

/-- The identity given by the `n`-th handshake. -/
def identity (n : Nat) : String :=
  Text.paddedHex 8 n

/-- Performs a handshake, after which the connect request is answered. -/
def handshake (t : Loopback) : Loopback :=
  let n := t.handshakes + 1
  let t := { t with handshakes := n }
  let t := broadcast .answered (broadcast (.welcomed (identity n)) t)
  { t with clientId := some (identity n), handshakeDue := false }

/-- Leaves a connect request unanswered. -/
def stall (t : Loopback) : Loopback :=
  broadcast .unanswered t

/-- Demands another handshake, as a server does that has forgotten its client. -/
def forget (t : Loopback) : Loopback :=
  if t.connected then t.handshake else t

def carryOut (call : Deferred) (t : Loopback) : Loopback :=
  match call with
  | .subscribe channel =>
    if channel ∈ t.subscriptions then t
    else { t with subscriptions := t.subscriptions ++ [channel] }
  | .unsubscribe channel =>
    { t with subscriptions := t.subscriptions.filter (· != channel) }
  | .publish channel data =>
    if channel ∈ t.subscriptions then
      let n := t.messages + 1
      let m : Message :=
        { channel := channel, data := some data, id := some (Text.decimal n),
          clientId := t.clientId }
      post (.message m) { t with messages := n }
    else t

/-- Carries out a call or, inside a batch, puts it off.  Without a connection it
is lost. -/
def accept (call : Deferred) (t : Loopback) : Loopback :=
  if t.connected then
    if 0 < t.batchDepth then { t with deferred := t.deferred ++ [call] } else carryOut call t
  else t

/-- Connects; the handshake takes place at once if somebody listens. -/
def connect (address : String) (t : Loopback) : Loopback :=
  let t := { t with address := some address, handshakeDue := true }
  if t.listeners.isEmpty then t else t.handshake

/-- Disconnects, which ends all batches and drops what was put off. -/
def disconnect (t : Loopback) : Loopback :=
  { t with
    address := none, clientId := none, handshakeDue := false
    subscriptions := [], deferred := [], batchDepth := 0 }

def beginBatch (t : Loopback) : Loopback :=
  { t with batchDepth := t.batchDepth + 1 }

/-- Ends a batch; with the outermost one, the calls put off are carried out. -/
def endBatch (t : Loopback) : Loopback :=
  match t.batchDepth with
  | 0 => t
  | 1 =>
    t.deferred.foldl (fun t call => carryOut call t)
      { t with batchDepth := 0, deferred := [] }
  | n + 2 => { t with batchDepth := n + 1 }

/-- Adds a listener; a handshake that is due takes place. -/
def listen (t : Loopback) : Listener × Loopback :=
  let listener : Listener := ⟨t.nextListener⟩
  let t := { t with
    nextListener := t.nextListener + 1, listeners := t.listeners ++ [listener] }
  (listener, if t.handshakeDue && t.connected then t.handshake else t)

def unlisten (listener : Listener) (t : Loopback) : Loopback :=
  { t with listeners := t.listeners.filter (· != listener) }

instance : Transport Loopback where
  connect := connect
  disconnect := disconnect
  beginBatch := beginBatch
  endBatch := endBatch
  subscribe channel := accept (.subscribe channel)
  unsubscribe channel := accept (.unsubscribe channel)
  publish channel data := accept (.publish channel data)
  listen := listen
  unlisten := unlisten

end Loopback

/-- What can be done to a loopback, by its client and from outside. -/
inductive LoopbackStep where
  | connect (address : String)
  | disconnect
  | beginBatch
  | endBatch
  | subscribe (channel : String)
  | unsubscribe (channel : String)
  | publish (channel : String) (data : Json)
  | listen
  | unlisten (listener : Listener)
  | stall
  | forget
  | close
  deriving Inhabited

/-- Does one step; the answer is the new listener, if there is one. -/
def Loopback.step (t : Loopback) : LoopbackStep → Option Listener × Loopback
  | .connect address => (none, t.connect address)
  | .disconnect => (none, t.disconnect)
  | .beginBatch => (none, t.beginBatch)
  | .endBatch => (none, t.endBatch)
  | .subscribe channel => (none, t.accept (.subscribe channel))
  | .unsubscribe channel => (none, t.accept (.unsubscribe channel))
  | .publish channel data => (none, t.accept (.publish channel data))
  | .listen =>
    let (listener, t) := t.listen
    (some listener, t)
  | .unlisten listener => (none, t.unlisten listener)
  | .stall => (none, t.stall)
  | .forget => (none, t.forget)
  | .close => (none, t.close)

end BayeuxChat
