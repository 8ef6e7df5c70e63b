import BayeuxChat.Room.Basic

/-!
# What a room publishes

The data of a room's announcements and of what its users say, written out as JSON
for each flavor.  The members of an object stand in the order of their names.
-/

namespace BayeuxChat
namespace Settings

/-- The data that announces that `user` has joined. -/
def joinData (s : Settings) (user : String) : Json :=
  match s.flavor with
  | .personal => .object [("from", .string user), ("type", .string "join")]
  | .collapsing =>
    .object [("chat", .string (user ++ " has joined")), ("join", .bool true),
      ("user", .string user)]

/-- The data that announces that `user` has left. -/
def leaveData (s : Settings) (user : String) : Json :=
  match s.flavor with
  | .personal =>
    .object [("chat", .string (user ++ " has left")), ("from", .string user),
      ("type", .string "leave")]
  | .collapsing =>
    .object [("chat", .string (user ++ " has left")), ("leave", .bool true),
      ("user", .string user)]

/-- The data of a text that `user` says to everyone. -/
def chatData (s : Settings) (user text : String) : Json :=
  match s.flavor with
  | .personal => .object [("chat", .string text), ("from", .string user)]
  | .collapsing => .object [("chat", .string text), ("user", .string user)]

/-- The data of a text that `user` says to one other user. -/
def privateChatData (user text addressee : String) : Json :=
  .object [("chat", .string text), ("from", .string user), ("to", .string addressee)]

theorem encode_joinEnvelope (s : Settings) (user : String) :
    (Room.joinEnvelope s.flavor user).encode s.flavor = s.joinData user := by
  cases h : s.flavor <;> simp only [joinData, h] <;> rfl

theorem encode_leaveEnvelope (s : Settings) (user : String) :
    (Room.leaveEnvelope user).encode s.flavor = s.leaveData user := by
  cases h : s.flavor <;> simp only [leaveData, h] <;> rfl

theorem encode_chat (s : Settings) (user text : String) :
    (Envelope.chat user (some text) none).encode s.flavor = s.chatData user text := by
  cases h : s.flavor <;> simp only [chatData, h] <;> rfl

theorem encode_privateChat (user text addressee : String) :
    (Envelope.chat user (some text) (some addressee)).encode .personal =
      privateChatData user text addressee :=
  rfl

end Settings
end BayeuxChat
