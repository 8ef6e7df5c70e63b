import BayeuxChat.Proofs.Envelope.RoundTrip
import BayeuxChat.Proofs.Room.OverLoopback
import BayeuxChat.Proofs.Room.PublishedData
import BayeuxChat.Proofs.Room.Rendering

/-!
# Remarks

What a user does for others to hear is a remark: to join, or to say something.  A
remark is published as data on the channel of its audience.  Over a loopback it
comes back as a message if the user listens on that channel, and when the message
is heard it makes one line, to the credit of the user.
-/

namespace BayeuxChat

/-- What a user does for others to hear. -/
inductive Remark where
  | joined (user : String)
  | said (user text : String) (audience : Audience)
  deriving DecidableEq

namespace Remark

/-- Who made the remark. -/
def user : Remark → String
  | .joined user => user
  | .said user _ _ => user

def audience : Remark → Audience
  | .joined _ => .everyone
  | .said _ _ audience => audience

/-- The data under which the remark is published. -/
def data (s : Settings) : Remark → Json
  | .joined user => s.joinData user
  | .said user text .everyone => s.chatData user text
  | .said user text (.only addressee) => Settings.privateChatData user text addressee

/-- The text of the line that the remark makes. -/
def text (flavor : Flavor) : Remark → String
  | .joined user =>
    match flavor with
    | .personal => user ++ " has joined."
    | .collapsing => user ++ " has joined"
  | .said _ text _ => text

/-- The title of the line that the remark makes where lines are not collapsed. -/
def title : Remark → String
  | .said user _ (.only addressee) => user ++ " to " ++ addressee ++ ":"
  | r => r.user ++ ":"

/-- The line behind a log is credited to the user who made the remark.  In a
collapsing room its title may be `...` if the line before it is by the same user. -/
def Credits (flavor : Flavor) (r : Remark) (log : List Line) (line : Line) : Prop :=
  match flavor with
  | .personal => line.title = r.title
  | .collapsing => Log.LastBy r.user (log ++ [line])

/-- A remark that a room lets pass: no text is empty, and the audience is one that
the room has. -/
def Proper (flavor : Flavor) : Remark → Prop
  | .joined _ => True
  | .said _ text audience => text ≠ "" ∧ Room.checkAudience flavor audience = .ok ()

/-- The envelope in which the remark is published. -/
def envelope (flavor : Flavor) : Remark → Envelope
  | .joined user => Room.joinEnvelope flavor user
  | .said user text audience => Room.sayEnvelope user text audience

theorem encode_envelope
    (s : Settings) {r : Remark} (h : r.Proper s.flavor) :
    (r.envelope s.flavor).encode s.flavor = r.data s := by
  cases r with
  | joined user => exact s.encode_joinEnvelope user
  | said user text audience =>
      cases audience with
      | everyone => exact s.encode_chat user text
      | only addressee =>
          obtain ⟨hflavor, -⟩ := (Room.checkAudience_only_eq_ok_iff _ _).mp h.2
          rw [hflavor]
          exact Settings.encode_privateChat user text addressee

theorem personalLine_envelope {r : Remark} (h : r.Proper .personal) :
    Renderer.personalLine (r.envelope .personal) =
      some { title := r.title, text := r.text .personal, alert := false } := by
  cases r with
  | joined user => rfl
  | said user text audience =>
      obtain ⟨htext, haudience⟩ := h
      cases audience with
      | everyone =>
          simp [envelope, Room.sayEnvelope, Renderer.personalLine, Renderer.shownText,
            Envelope.text, htext, Renderer.title, title, Remark.user, Remark.text]
      | only addressee =>
          obtain ⟨-, hname⟩ := (Room.checkAudience_only_eq_ok_iff _ _).mp haudience
          have haddressee := ((Room.checkUser_eq_ok_iff addressee).mp hname).1
          simp [envelope, Room.sayEnvelope, Renderer.personalLine, Renderer.shownText,
            Envelope.text, htext, Renderer.title, Option.filter, haddressee, title,
            Remark.text]

theorem shownText_envelope {r : Remark} (h : r.Proper .collapsing) :
    Renderer.shownText ((r.envelope .collapsing).conveyed .collapsing) =
      some (r.text .collapsing) := by
  cases r with
  | joined user =>
      have hne : user ++ " has joined" ≠ "" := by simp
      simp [envelope, Room.joinEnvelope, Envelope.conveyed, Renderer.shownText,
        Envelope.text, Remark.text, hne]
  | said user text audience =>
      obtain ⟨htext, -⟩ := h
      cases audience <;>
        simp [envelope, Room.sayEnvelope, Envelope.conveyed, Renderer.shownText,
          Envelope.text, Remark.text, htext]

theorem sender_envelope (flavor : Flavor) (r : Remark) :
    ((r.envelope flavor).conveyed flavor).sender = r.user := by
  cases r with
  | joined user => cases flavor <;> rfl
  | said user text audience => cases flavor <;> cases audience <;> rfl

/-- A remark that is rendered makes one line, with its text and to its user's
credit. -/
theorem lines_envelope
    {r : Remark} {renderer : Renderer} {log : List Line}
    (hproper : r.Proper renderer.flavor) (hremembers : renderer.Remembers log) :
    ∃ line,
      (renderer.lines ((r.envelope renderer.flavor).conveyed renderer.flavor)).1 = [line] ∧
        line.text = r.text renderer.flavor ∧ r.Credits renderer.flavor log line := by
  cases hflavor : renderer.flavor with
  | personal =>
      rw [hflavor] at hproper
      refine ⟨{ title := r.title, text := r.text .personal, alert := false }, ?_, rfl, rfl⟩
      simp [Renderer.lines, Renderer.line, hflavor, Envelope.conveyed,
        personalLine_envelope hproper]
  | collapsing =>
      rw [hflavor] at hproper
      obtain ⟨line, hline, htext, -, hlastBy⟩ :=
        Renderer.lastBy_collapsingLine hremembers (shownText_envelope hproper)
      rw [sender_envelope] at hlastBy
      exact ⟨line, by simp [Renderer.lines, Renderer.line, hflavor, hline], htext, hlastBy⟩

theorem ofMessage_eq
    {s : Settings} {r : Remark} (hproper : r.Proper s.flavor)
    {m : Message} (hdata : m.data = some (r.data s)) :
    Envelope.ofMessage s.flavor m = .ok ((r.envelope s.flavor).conveyed s.flavor) := by
  rw [Envelope.ofMessage, hdata, ← encode_envelope s hproper]
  simp only [Envelope.decode_encode]
  rfl

/-- A message that carries a remark is heard without failure, and the remark is
rendered. -/
theorem hear_message_eq
    {τ : Type} [Transport τ] {room : Room τ} {s : Settings}
    (hflavor : room.renderer.flavor = s.flavor)
    {r : Remark} (hproper : r.Proper s.flavor)
    {m : Message} (hdata : m.data = some (r.data s)) :
    room.hear (.message m) = room.display ((r.envelope s.flavor).conveyed s.flavor) := by
  have hread := ofMessage_eq hproper hdata
  rw [← hflavor] at hread ⊢
  simp [Room.hear, Room.hearMessage, Renderer.linesOfMessage, hread, Room.display]

/-- The line that is shown when a remark is heard. -/
theorem hear_message
    {τ : Type} [Transport τ] {room : Room τ} {s : Settings} {log : List Line}
    (hflavor : room.renderer.flavor = s.flavor) (hremembers : room.renderer.Remembers log)
    {r : Remark} (hproper : r.Proper s.flavor)
    {m : Message} (hdata : m.data = some (r.data s)) :
    (room.hear (.message m)).result = .ok () ∧
      ∃ line, (room.hear (.message m)).lines = [line] ∧
        line.text = r.text s.flavor ∧ r.Credits s.flavor log line := by
  rw [hear_message_eq hflavor hproper hdata]
  have hlines := lines_envelope (hflavor.symm ▸ hproper) hremembers
  rw [hflavor] at hlines
  exact ⟨rfl, hlines⟩

end Remark

/-! ## Remarks that come back -/

/-- Whether a user's remark to an audience comes back to the user. -/
def Settings.comesBack (s : Settings) (user : String) : Audience → Bool
  | .everyone => true
  | .only addressee =>
    s.channel (.only addressee) == s.channel .everyone ||
      s.channel (.only addressee) == s.channel (.only user)

theorem Settings.comesBack_iff
    {s : Settings} (user : String) {audience : Audience}
    (h : Room.checkAudience s.flavor audience = .ok ()) :
    s.comesBack user audience ↔ s.channel audience ∈ s.channelsOf user := by
  cases audience with
  | everyone => simp [comesBack, channel_everyone_mem]
  | only addressee =>
      obtain ⟨hflavor, -⟩ := (Room.checkAudience_only_eq_ok_iff _ _).mp h
      simp [comesBack, mem_channelsOf_iff, hflavor]

namespace Room

theorem mailbox_join
    {room : Room Loopback} (h : room.Coupled) {name : String}
    (hname : checkUser name = .ok ()) {waiting : List Arrival}
    (hwaiting : room.transport.mailbox = some waiting) :
    (room.join name).room.transport.mailbox =
      some (waiting ++ .message (room.leave.transport.announcement room.settings name) ::
        Loopback.welcome ⟨room.leave.transport.nextListener⟩
          (room.leave.transport.handshakes + 1)) := by
  have hidle := (coupled_leave h).idle (session_leave room)
  rw [join_of_ok room hname, enter_of_idle hidle]
  simp [done, Loopback.occupied, mailbox_leave h.putsOffInBatch, hwaiting]

theorem data_announcement (t : Loopback) (s : Settings) (name : String) :
    (t.announcement s name).data = some ((Remark.joined name).data s) :=
  congrArg some (s.encode_joinEnvelope name)

theorem mailbox_send
    {room : Room Loopback} (h : room.Coupled) {user text : String} {audience : Audience}
    (huser : room.user = some user)
    (hproper : (Remark.said user text audience).Proper room.settings.flavor)
    {waiting : List Arrival} (hwaiting : room.transport.mailbox = some waiting) :
    (room.send user text audience).room.transport.mailbox =
      some (waiting ++
        if room.settings.comesBack user audience then
          [.message (room.transport.delivery (room.settings.channel audience)
            ((Remark.said user text audience).data room.settings))]
        else []) := by
  obtain ⟨session, hsession, rfl⟩ := user_eq_some_iff.mp huser
  have hback := Settings.comesBack_iff session.user hproper.2
  rw [send_room, (h.serves hsession).publish_eq, ← Remark.encode_envelope _ hproper]
  by_cases hmem : room.settings.channel audience ∈ room.settings.channelsOf session.user
  · simp [hmem, hback.mpr hmem, hwaiting, Remark.envelope]
  · simp [hmem, mt hback.mp hmem, hwaiting]

end Room
end BayeuxChat
