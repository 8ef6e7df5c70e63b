/-!
# Settings of a room

What has to be known to enter a room: its flavor, its name, and the location of
the page that the chat belongs to.  The names of the room's channels follow from
these: every audience has a channel of its own, and a user listens on the
channels of all audiences that the user is in.
-/

namespace BayeuxChat

/-- The two flavors of chat room. -/
inductive Flavor where
  /-- One channel for everyone and one for each user, so that private messages are
  possible; a lost connection ends the session. -/
  | personal
  /-- A single channel; consecutive lines of one sender are collapsed. -/
  | collapsing
  deriving DecidableEq, Inhabited

/-- The word for a flavor in settings. -/
def Flavor.name : Flavor → String
  | .personal => "private"
  | .collapsing => "collapsing"

/-- For whom a text is meant. -/
inductive Audience where
  | everyone
  | only (user : String)
  deriving DecidableEq, Inhabited

structure Settings where
  flavor : Flavor := .personal
  room : String := "room0"
  /-- The address of the page, from which the endpoint is derived. -/
  location : String := "http://localhost:8080/chat/"
  deriving DecidableEq, Inhabited

namespace Settings

def channel (s : Settings) : Audience → String
  | .only user => "/chat/" ++ s.room ++ "/" ++ user
  | .everyone =>
    match s.flavor with
    | .personal => "/chat/" ++ s.room ++ "/public"
    | .collapsing => "/chat/" ++ s.room

/-- The audiences that `user` is in. -/
def audiencesOf (s : Settings) (user : String) : List Audience :=
  match s.flavor with
  | .personal => [.everyone, .only user]
  | .collapsing => [.everyone]

/-- The channels that `user` listens on while in the room. -/
def channelsOf (s : Settings) (user : String) : List String :=
  (s.audiencesOf user).map s.channel

end Settings
end BayeuxChat
