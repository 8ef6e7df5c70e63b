import BayeuxChat.Bayeux.Transport

/-!
# The journal

A transport that does nothing but write down the calls it takes.  Its listeners
get the numbers 0, 1, 2 and so on.
-/

namespace BayeuxChat

inductive Call where
  | connect (address : String)
  | disconnect
  | beginBatch
  | endBatch
  | subscribe (channel : String)
  | unsubscribe (channel : String)
  | publish (channel : String) (data : Json)
  /-- The listener is the one that the call made. -/
  | listen (listener : Listener)
  | unlisten (listener : Listener)
  deriving Inhabited

/-- The calls taken so far and the number of the next listener. -/
structure Journal where
  calls : List Call := []
  nextListener : Nat := 0
  deriving Inhabited

namespace Journal

def note (call : Call) (j : Journal) : Journal :=
  { j with calls := j.calls ++ [call] }

instance : Transport Journal where
  connect address := note (.connect address)
  disconnect := note .disconnect
  beginBatch := note .beginBatch
  endBatch := note .endBatch
  subscribe channel := note (.subscribe channel)
  unsubscribe channel := note (.unsubscribe channel)
  publish channel data := note (.publish channel data)
  listen j :=
    let listener : Listener := ⟨j.nextListener⟩
    (listener, note (.listen listener) { j with nextListener := j.nextListener + 1 })
  unlisten listener := note (.unlisten listener)

end Journal
end BayeuxChat
