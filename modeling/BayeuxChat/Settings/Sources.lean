import BayeuxChat.Json.RecordReader
import BayeuxChat.Settings.Override

/-!
# Where settings come from

Every setting has a default.  A JSON file, if one is given, takes precedence over
the defaults, and the environment takes precedence over both.
-/

namespace BayeuxChat
namespace Settings

open Json

def flavorChoice : Choice :=
  { names := [Flavor.personal.name, Flavor.collapsing.name], others := false }

/-- The record that a settings file holds; every member may be left out. -/
def record : Record Kind :=
  { name := "Config"
    members := [
      { name := "variant", kind := .scalar (.choice flavorChoice), presence := .defaulted },
      { name := "room", kind := .scalar .text, presence := .defaulted },
      { name := "location", kind := .scalar .text, presence := .defaulted }] }

/-- The settings with the given members, the others being the default. -/
def ofMembers (given : Members) : Settings :=
  let default : Settings := {}
  { flavor :=
      match given.text? "variant" with
      | none => default.flavor
      | some word => if word = Flavor.collapsing.name then .collapsing else .personal
    room := (given.text? "room").getD default.room
    location := (given.text? "location").getD default.location }

def ofText (text : String) : Except SettingsError Settings :=
  match record.ofText text with
  | .ok given => .ok (ofMembers given)
  | .error e => .error (.malformed e)

/-- Reads the bytes of the settings file at `path`, or why there are none. -/
def ofFile (path : String) (content : Except FileFault ByteArray) :
    Except SettingsError Settings :=
  match content with
  | .error fault => .error (.unreadable path fault)
  | .ok bytes =>
    match String.fromUTF8? bytes with
    | none => .error (.unreadable path .notText)
    | some text => ofText text

/-- The settings from the file at `path`, if one is given, and the environment. -/
def resolve (path : Option String) (read : String → Except FileFault ByteArray)
    (env : Environment) : Except SettingsError Settings := do
  let s ← match path with
    | none => .ok {}
    | some path => ofFile path (read path)
  let (result, s) := s.override env
  result.map fun _ => s

end Settings
end BayeuxChat
