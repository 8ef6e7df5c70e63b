import BayeuxChat.Json.Printer
import BayeuxChat.Json.RecordReader

/-!
# Bayeux messages

A message as the transport delivers it: a channel, the data published there, and
what the server added.  Data may be absent, and may be present and `null`; a
message that is read has no data in both cases.
-/

namespace BayeuxChat

open Json

/-- A message that was delivered on a channel. -/
structure Message where
  channel : String
  data : Option Json := none
  id : Option String := none
  clientId : Option String := none
  deriving Inhabited

namespace Message

def record : Record Kind :=
  { name := "Message"
    members := [
      { name := "channel", kind := .scalar .text, presence := .required },
      { name := "data", kind := .scalar .anything, presence := .defaulted },
      { name := "id", kind := .scalar .optionalText, presence := .defaulted },
      { name := "clientId", kind := .scalar .optionalText, presence := .defaulted }] }

def ofMembers (given : Members) : Message :=
  { channel := (given.text? "channel").getD ""
    data := given.value? "data"
    id := given.text? "id"
    clientId := given.text? "clientId" }

/-- The members of a message in the order of their declaration; what is absent is
left out. -/
def toMembers (m : Message) : Members :=
  Members.ofText? "channel" m.channel ++ Members.ofValue? "data" m.data ++
    Members.ofText? "id" m.id ++ Members.ofText? "clientId" m.clientId

def toJson (m : Message) : Json :=
  Json.ofMembers m.toMembers

/-- The text of the message, its members in the order of their declaration. -/
def text (m : Message) : String :=
  (Json.object m.toMembers).text

def ofJson (v : Json) : Except Fault Message :=
  (record.accept Kind.accept v).map ofMembers

def ofText (text : String) : Except ReadError Message :=
  (record.ofText text).map ofMembers

end Message
end BayeuxChat
