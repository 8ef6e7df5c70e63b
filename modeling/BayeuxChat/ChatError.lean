import BayeuxChat.Bayeux.Message
import BayeuxChat.Envelope
import BayeuxChat.Settings.Error

/-!
# What can go wrong in a chat

The causes for which something is not done, and their wording.  Calls to a
transport are not among them, since nobody answers a call.
-/

namespace BayeuxChat

/-- Why something the user asked for is refused. -/
inductive Refusal where
  | noUserName
  | badUserName
  | noText
  | noAddressee
  /-- There are no private messages in collapsing rooms. -/
  | noPrivateMessages
  deriving DecidableEq

/-- The wording of a refusal. -/
def Refusal.message : Refusal → String
  | .noUserName => "Please enter a userName!"
  | .badUserName => "A userName can't contain '/' or '*'"
  | .noText => "Please enter some message"
  | .noAddressee => "Please enter the destination username"
  | .noPrivateMessages => "Private messages aren't available in this room"

/-- Why nothing can be made of a message. -/
inductive BadMessage where
  | noData (m : Message)
  | malformed (error : Json.ReadError)

/-- The wording for a bad message, which ends with the message itself if it has
no data. -/
def BadMessage.message (b : BadMessage) : String :=
  "bad message format " ++
    match b with
    | .noData m => m.text
    | .malformed error => error.message

/-- Why something was not done. -/
inductive ChatError where
  | refused (refusal : Refusal)
  /-- The user is not in the room. -/
  | outside
  | badMessage (b : BadMessage)
  | settings (error : SettingsError)

/-- The wording of an error. -/
def ChatError.message : ChatError → String
  | .refused refusal => refusal.message
  | .outside => "Please join the room first"
  | .badMessage b => b.message
  | .settings error => error.message

/-- The error of a value that has no place in a text. -/
def ChatError.ofFault (fault : Json.Fault) : ChatError :=
  .badMessage (.malformed (.ofFault fault))

/-- The envelope inside a message, in a room of the given flavor. -/
def Envelope.ofMessage (flavor : Flavor) (m : Message) : Except ChatError Envelope :=
  match m.data with
  | none => .error (.badMessage (.noData m))
  | some data => (decode flavor data).mapError .ofFault

end BayeuxChat
