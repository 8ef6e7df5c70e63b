import BayeuxChat.Settings.Basic

/-!
# The endpoint of a room

The endpoint is derived from the location of the page: the scheme and the host
are dropped, and so is everything from the first chat directory on.  A chat
directory is `/chat/`, or, where rooms have personal channels, `/chat` followed
by one digit and a slash.
-/

namespace BayeuxChat
namespace Settings

/-- What begins the part of a location that names the host. -/
def scheme : List Char := "http://".toList

/-- The location without its first scheme and the host behind it. -/
def withoutHost : List Char → List Char
  | [] => []
  | c :: rest =>
    if scheme.isPrefixOf (c :: rest) then
      ((c :: rest).drop scheme.length).dropWhile (· != '/')
    else c :: withoutHost rest

/-- Whether a chat directory begins here. -/
def beginsChat (flavor : Flavor) : List Char → Bool
  | '/' :: 'c' :: 'h' :: 'a' :: 't' :: '/' :: _ => true
  | '/' :: 'c' :: 'h' :: 'a' :: 't' :: digit :: '/' :: _ =>
    flavor == .personal && digit.isDigit
  | _ => false

/-- The part of a path before its first chat directory. -/
def beforeChat (flavor : Flavor) : List Char → List Char
  | [] => []
  | c :: rest =>
    if beginsChat flavor (c :: rest) then [] else c :: beforeChat flavor rest

/-- The address of the endpoint that the room is spoken to at. -/
def endpoint (s : Settings) : String :=
  String.ofList (beforeChat s.flavor (withoutHost s.location.toList)) ++ "/bayeux"

end Settings
end BayeuxChat
