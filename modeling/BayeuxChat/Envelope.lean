import BayeuxChat.Json.Record
import BayeuxChat.Settings.Basic

/-!
# Chat envelopes

An envelope is what one message in a room conveys: somebody joins, somebody
leaves, or somebody has something to tell.  It travels as a JSON object, in a
form that depends on the flavor of the room.  Reading takes a missing sender for
the empty name and an unknown type for plain chat.
-/

namespace BayeuxChat

/-- The payload of one message in a room. -/
inductive Envelope where
  | join (user : String) (text : Option String)
  | leave (user : String) (text : Option String)
  | chat (sender : String) (text : Option String) (addressee : Option String)
  deriving DecidableEq, Inhabited

namespace Envelope

open Json

def sender : Envelope → String
  | .join user _ => user
  | .leave user _ => user
  | .chat sender _ _ => sender

def text : Envelope → Option String
  | .join _ text => text
  | .leave _ text => text
  | .chat _ text _ => text

/-- Whether it announces that somebody comes or goes. -/
def isAnnouncement : Envelope → Bool
  | .join _ _ => true
  | .leave _ _ => true
  | .chat _ _ _ => false

/-- The form in rooms with personal channels, members in the order of their names. -/
def personalData (sender : String) (text addressee kind : Option String) : Json :=
  .object (Members.ofText? "chat" text ++ Members.ofText? "from" sender ++
    Members.ofText? "to" addressee ++ Members.ofText? "type" kind)

/-- The form in collapsing rooms, members in the order of their names. -/
def collapsingData (sender : String) (text : Option String) (join leave : Bool) : Json :=
  .object (Members.ofText? "chat" text ++ Members.ofFlag "join" join ++
    Members.ofFlag "leave" leave ++ Members.ofText? "user" sender)

/-- The data under which the envelope is published.  Collapsing rooms have no
private messages, so the addressee is dropped there. -/
def encode : Flavor → Envelope → Json
  | .personal, .join user text => personalData user text none (some "join")
  | .personal, .leave user text => personalData user text none (some "leave")
  | .personal, .chat sender text addressee => personalData sender text addressee none
  | .collapsing, .join user text => collapsingData user text true false
  | .collapsing, .leave user text => collapsingData user text false true
  | .collapsing, .chat sender text _ => collapsingData sender text false false

def personalRecord : Record Scalar :=
  { name := "PrivateData"
    members := [
      { name := "from", kind := .optionalText, presence := .optional },
      { name := "chat", kind := .optionalText, presence := .optional },
      { name := "to", kind := .optionalText, presence := .optional },
      { name := "type", kind := .optionalText, presence := .optional }] }

def collapsingRecord : Record Scalar :=
  { name := "CollapsingData"
    members := [
      { name := "user", kind := .optionalText, presence := .optional },
      { name := "chat", kind := .optionalText, presence := .optional },
      { name := "join", kind := .flag, presence := .defaulted },
      { name := "leave", kind := .flag, presence := .defaulted }] }

def ofPersonal (given : Members) : Envelope :=
  let user := (given.text? "from").getD ""
  let text := given.text? "chat"
  match given.text? "type" with
  | some "join" => .join user text
  | some "leave" => .leave user text
  | _ => .chat user text (given.text? "to")

def ofCollapsing (given : Members) : Envelope :=
  let user := (given.text? "user").getD ""
  let text := given.text? "chat"
  if given.flag "join" then .join user text
  else if given.flag "leave" then .leave user text
  else .chat user text none

/-- Reads the data of a message in a room of the given flavor. -/
def decode : Flavor → Json → Except Fault Envelope
  | .personal, data => (personalRecord.accept Scalar.accept data).map ofPersonal
  | .collapsing, data => (collapsingRecord.accept Scalar.accept data).map ofCollapsing

end Envelope
end BayeuxChat
