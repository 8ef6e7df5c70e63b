import BayeuxChat.Bayeux.Message
import BayeuxChat.Bayeux.MetaEvent

/-!
# Transports

A transport carries calls to a Bayeux server: to connect, to subscribe to
channels, to publish on them.  No call is answered.  What the server has to tell
arrives later, one `Arrival` after the other.  Events of the meta channel arrive
for those who listen there, each under the listener's own number, so that what
was meant for somebody who has stopped listening can be recognized.

A transport is a state of type `τ`, and every call yields the next state.
-/

namespace BayeuxChat

/-- One who listens on the meta channel. -/
structure Listener where
  number : Nat
  deriving DecidableEq, Inhabited

/-- What arrives from a transport. -/
inductive Arrival where
  /-- A message on a channel that was subscribed to. -/
  | message (m : Message)
  /-- An event of the meta channel, for one listener. -/
  | event (listener : Listener) (e : MetaEvent)
  deriving Inhabited

/-- The calls that a transport takes. -/
class Transport (τ : Type) where
  /-- Turns to the server at an address, which begins with a handshake. -/
  connect : String → τ → τ
  disconnect : τ → τ
  beginBatch : τ → τ
  endBatch : τ → τ
  subscribe : String → τ → τ
  unsubscribe : String → τ → τ
  publish : String → Json → τ → τ
  /-- Begins to listen on the meta channel, under a new number. -/
  listen : τ → Listener × τ
  /-- Stops listening; nothing more arrives under the number. -/
  unlisten : Listener → τ → τ

namespace Transport

variable {τ α : Type} [Transport τ]

/-- Makes calls inside a batch, which reach the server together, and passes on
their answer. -/
def batchWith (calls : τ → α × τ) (t : τ) : α × τ :=
  let (answer, t) := calls (beginBatch t)
  (answer, endBatch t)

def batch (calls : τ → τ) (t : τ) : τ :=
  endBatch (calls (beginBatch t))

def subscribeAll (channels : List String) (t : τ) : τ :=
  channels.foldl (fun t channel => subscribe channel t) t

def unsubscribeAll (channels : List String) (t : τ) : τ :=
  channels.foldl (fun t channel => unsubscribe channel t) t

end Transport
end BayeuxChat
