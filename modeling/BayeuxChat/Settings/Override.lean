import BayeuxChat.Settings.Basic
import BayeuxChat.Settings.Error
import BayeuxChat.Text.Blank

/-!
# Overriding settings

Each of the three settings can be overridden by a variable of the environment.
The flavor is overridden first, then the room, then the location; the first that
is not acceptable ends it, and what was overridden before stays overridden.
-/

namespace BayeuxChat

/-- The variables that are set, by their names. -/
abbrev Environment := String → Option String

/-- The flavor for a word of any case between blanks; the flavors are also known
by the numbers one and two. -/
def Flavor.ofWord (text : String) : Except SettingsError Flavor :=
  let word := String.ofList ((Text.trimmed text.toList).map Char.toLower)
  if word = "private" ∨ word = "1" then .ok .personal
  else if word = "collapsing" ∨ word = "2" then .ok .collapsing
  else .error (.unknownFlavor word)

namespace Settings

/-- Whether `name` can name a room: it is a single segment of a channel. -/
def IsRoomName (name : String) : Prop :=
  name ≠ "" ∧ '/' ∉ name.toList

instance (name : String) : Decidable (IsRoomName name) :=
  inferInstanceAs (Decidable (_ ∧ _))

def overrideFlavor (env : Environment) (s : Settings) : Except SettingsError Settings :=
  match env "CHAT_VARIANT" with
  | none => .ok s
  | some word => (Flavor.ofWord word).map fun flavor => { s with flavor := flavor }

def overrideRoom (env : Environment) (s : Settings) : Except SettingsError Settings :=
  match env "CHAT_ROOM" with
  | none => .ok s
  | some name =>
    if IsRoomName name then .ok { s with room := name } else .error (.badRoom name)

/-- Overrides the location if its variable is set; any text is acceptable. -/
def overrideLocation (env : Environment) (s : Settings) : Settings :=
  match env "CHAT_LOCATION" with
  | none => s
  | some location => { s with location := location }

/-- Overrides the settings as far as the variables are acceptable. -/
def override (env : Environment) (s : Settings) : Except SettingsError Unit × Settings :=
  match s.overrideFlavor env with
  | .error e => (.error e, s)
  | .ok s =>
    match s.overrideRoom env with
    | .error e => (.error e, s)
    | .ok s => (.ok (), s.overrideLocation env)

end Settings
end BayeuxChat
