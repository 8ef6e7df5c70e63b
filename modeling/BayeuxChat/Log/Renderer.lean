import BayeuxChat.ChatError
import BayeuxChat.Log.Line

/-!
# From envelopes to lines

A renderer turns envelopes into lines of the log.  In rooms with personal
channels every envelope is rendered by itself.  In collapsing rooms a line by
the sender of the line before it is titled `...` instead of the name, so the
renderer remembers who that was.  Announcements are highlighted there; they are
never continued, and neither are lines without a sender.

An envelope without text has no line, except that joining and leaving a room
with personal channels is put into words.
-/

namespace BayeuxChat

/-- What the next line depends on. -/
structure Renderer where
  flavor : Flavor
  /-- The sender of the last line, if the line can be continued. -/
  last : Option String := none
  deriving DecidableEq, Inhabited

namespace Renderer

/-- The title of a line that continues the one before it. -/
def sameSender : String := "..."

/-- The text of an envelope, unless it is empty. -/
def shownText (envelope : Envelope) : Option String :=
  envelope.text.filter (· != "")

/-- The title of a line by `sender`, with its addressee if there is one. -/
def title (sender : String) (addressee : Option String) : String :=
  match addressee.filter (· != "") with
  | some user => sender ++ " to " ++ user ++ ":"
  | none => sender ++ ":"

/-- The line for an envelope in a room with personal channels. -/
def personalLine : Envelope → Option Line
  | .join user _ =>
    some { title := title user none, text := user ++ " has joined.", alert := false }
  | .leave user _ =>
    some { title := title user none, text := user ++ " has left.", alert := false }
  | .chat sender text addressee =>
    (shownText (.chat sender text addressee)).map fun text =>
      { title := title sender addressee, text := text, alert := false }

/-- Whether the line of an envelope continues the one before it. -/
def continues (r : Renderer) (envelope : Envelope) : Bool :=
  !envelope.isAnnouncement && envelope.sender != "" && r.last == some envelope.sender

/-- The line for an envelope in a collapsing room, and the renderer after it. -/
def collapsingLine (r : Renderer) (envelope : Envelope) : Option Line × Renderer :=
  match shownText envelope with
  | none => (none, r)
  | some text =>
    let title := if r.continues envelope then sameSender else title envelope.sender none
    let last := if envelope.isAnnouncement then none else some envelope.sender
    (some { title := title, text := text, alert := envelope.isAnnouncement },
      { r with last := last })

/-- The line for an envelope, if it has one, and the renderer after it. -/
def line (r : Renderer) (envelope : Envelope) : Option Line × Renderer :=
  match r.flavor with
  | .personal => (personalLine envelope, r)
  | .collapsing => r.collapsingLine envelope

/-- The lines for an envelope, of which there is at most one. -/
def lines (r : Renderer) (envelope : Envelope) : List Line × Renderer :=
  let (line, r) := r.line envelope
  (line.toList, r)

/-- The lines for a message.  If nothing can be made of it, nothing is shown and
nothing changes. -/
def linesOfMessage (r : Renderer) (m : Message) :
    Except ChatError Unit × List Line × Renderer :=
  match Envelope.ofMessage r.flavor m with
  | .error e => (.error e, [], r)
  | .ok envelope =>
    let (lines, r) := r.lines envelope
    (.ok (), lines, r)

end Renderer
end BayeuxChat
