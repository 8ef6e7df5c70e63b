import BayeuxChat.Json.Printer
import BayeuxChat.Json.RecordReader

/-!
# Events of the meta channel

On the meta channel a transport reports about the connection itself: on a
handshake with the server, on a connect request, and whether it was successful.
Reports on anything else can be read as well, but they are all alike.
-/

namespace BayeuxChat

open Json

/-- What a report is about. -/
inductive MetaTopic where
  | handshake
  | connect
  /-- Anything else, such as a subscription. -/
  | other
  deriving DecidableEq, Inhabited

def MetaTopic.name : MetaTopic → String
  | .handshake => "handshake"
  | .connect => "connect"
  | .other => "other"

/-- The topic for a word; words that are not known stand for any other topic. -/
def MetaTopic.ofName (name : String) : MetaTopic :=
  if name = "handshake" then .handshake
  else if name = "connect" then .connect
  else .other

/-- What the server answered. -/
structure MetaReply where
  clientId : Option String := none
  error : Option String := none
  deriving DecidableEq, Inhabited

/-- One report about the connection. -/
structure MetaEvent where
  topic : MetaTopic
  successful : Bool
  reply : MetaReply := {}
  deriving DecidableEq, Inhabited

namespace MetaReply

def record : Record Scalar :=
  { name := "MetaResponse"
    members := [
      { name := "clientId", kind := .optionalText, presence := .defaulted },
      { name := "error", kind := .optionalText, presence := .defaulted }] }

def ofMembers (given : Members) : MetaReply :=
  { clientId := given.text? "clientId", error := given.text? "error" }

/-- The members of a reply; what is absent is left out. -/
def toMembers (r : MetaReply) : Members :=
  Members.ofText? "clientId" r.clientId ++ Members.ofText? "error" r.error

end MetaReply

namespace MetaEvent

/-- The client was given an identity. -/
def welcomed (clientId : String) : MetaEvent :=
  { topic := .handshake, successful := true, reply := { clientId := some clientId } }

/-- The server did not accept the client. -/
def rejected (error : String) : MetaEvent :=
  { topic := .handshake, successful := false, reply := { error := some error } }

def answered : MetaEvent :=
  { topic := .connect, successful := true }

def unanswered : MetaEvent :=
  { topic := .connect, successful := false }

/-- The topics that are told apart; other words are allowed. -/
def topics : Choice :=
  { names := [MetaTopic.handshake.name, MetaTopic.connect.name], others := true }

def record : Record Kind :=
  { name := "LifecycleEvent"
    members := [
      { name := "action", kind := .scalar (.choice topics), presence := .required },
      { name := "successful", kind := .scalar .flag, presence := .required },
      { name := "response", kind := .record MetaReply.record, presence := .defaulted }] }

def ofMembers (given : Members) : MetaEvent :=
  { topic := MetaTopic.ofName ((given.text? "action").getD "")
    successful := given.flag "successful"
    reply := .ofMembers (given.inner "response") }

/-- The members of an event in the order of their declaration. -/
def toMembers (e : MetaEvent) : Members :=
  [("action", .string e.topic.name), ("successful", .bool e.successful),
    ("response", .object e.reply.toMembers)]

def toJson (e : MetaEvent) : Json :=
  Json.ofMembers e.toMembers

/-- The text of the event, its members in the order of their declaration. -/
def text (e : MetaEvent) : String :=
  (Json.object e.toMembers).text

def ofJson (v : Json) : Except Fault MetaEvent :=
  (record.accept Kind.accept v).map ofMembers

def ofText (text : String) : Except ReadError MetaEvent :=
  (record.ofText text).map ofMembers

end MetaEvent
end BayeuxChat
