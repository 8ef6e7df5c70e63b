import BayeuxChat.Settings.Basic
import BayeuxChat.Text.Blank
import BayeuxChat.Text.Split

/-!
# Commands

A line that begins with a colon is a command: a word, and after the first space
an argument, blanks around which do not count.  Any other line is said in the
room as it stands.
-/

namespace BayeuxChat

inductive Command where
  | join (name : String)
  | leave
  /-- From now on, what is said is meant for this audience. -/
  | address (audience : Audience)
  | loseConnection
  /-- The server is to forget the client. -/
  | forgetClient
  | quit
  | say (text : String)
  | unknown (word : String)
  deriving DecidableEq, Inhabited

namespace Command

def ofWord (word argument : String) : Command :=
  match word with
  | "join" => .join argument
  | "leave" => .leave
  | "to" => .address (.only argument)
  | "public" => .address .everyone
  | "drop" => .loseConnection
  | "rehandshake" => .forgetClient
  | "quit" => .quit
  | _ => .unknown word

/-- The characters that may end a line. -/
def isLineEnd (c : Char) : Bool :=
  c == '\r' || c == '\n'

/-- The word of a command and its argument, which is empty if there is no space. -/
def wordAndArgument (cs : List Char) : List Char × List Char :=
  match Text.cut ' ' cs with
  | none => (cs, [])
  | some (word, argument) => (word, Text.trimmed argument)

/-- What a line asks for; the line ends behind it do not count. -/
def ofLine (line : String) : Command :=
  match Text.dropEndWhile isLineEnd line.toList with
  | ':' :: rest =>
    let (word, argument) := wordAndArgument rest
    ofWord (String.ofList word) (String.ofList argument)
  | text => .say (String.ofList text)

end Command
end BayeuxChat
