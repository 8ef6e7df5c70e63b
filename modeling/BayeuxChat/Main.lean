import BayeuxChat.Terminal.Program

/-!
# The command line

Reads the environment, the settings file and standard input, and prints what the
client prints.  Every decision is made by `Settings.resolve` and `Client.turn`; here
is only the input and output.
-/

namespace BayeuxChat

/-- The fault that the system knows by a number, which may come negated. -/
def FileFault.ofCode (code : UInt32) (details : String) : FileFault :=
  match min code.toNat (UInt32.size - code.toNat) with
  | 2 => .noSuchFile
  | 13 => .denied
  | 20 => .notDirectory
  | 21 => .isDirectory
  | 36 => .nameTooLong
  | _ => .other details

/-- The cause of a failure to read a file. -/
def FileFault.ofError : IO.Error → FileFault
  | .noFileOrDirectory _ code details => .ofCode code details
  | .permissionDenied _ code details => .ofCode code details
  | .inappropriateType _ code details => .ofCode code details
  | .invalidArgument _ code details => .ofCode code details
  | e => .other (toString e)

def readFile (path : String) : IO (Except FileFault ByteArray) := do
  try
    return .ok (← IO.FS.readBinFile path)
  catch e =>
    return .error (FileFault.ofError e)

def put (printed : List Printed) : IO Unit := do
  let out ← IO.getStdout
  out.putStr (Printed.texts printed)
  out.flush

/-- Reads the bytes of a line, up to its line feed or the end of the input. -/
partial def readLine (input : IO.FS.Stream) (sofar : List UInt8) : IO (List UInt8) := do
  let byte ← input.read 1
  match byte.toList with
  | [] => return sofar.reverse
  | b :: _ =>
    if b = InputLine.lineFeed then return (b :: sofar).reverse
    else readLine input (b :: sofar)

/-- Takes lines as they come.  What the user's leaving does in the end is not seen
at the terminal. -/
partial def serve (input : IO.FS.Stream) (c : Client) : IO Unit := do
  let read := Input.ofBytes (← readLine input [])
  match read.lines, read.rest with
  | line :: _, _ =>
    let turn := c.turn line
    put turn.printed
    if turn.goesOn then serve input turn.client
  | [], some line => put (c.turn line).printed
  | [], none => return

end BayeuxChat

open BayeuxChat

/-- Runs the client with the settings file that is given, if one is. -/
def main (arguments : List String) : IO UInt32 := do
  let flavor ← IO.getEnv "CHAT_VARIANT"
  let room ← IO.getEnv "CHAT_ROOM"
  let location ← IO.getEnv "CHAT_LOCATION"
  let env : Environment := fun name =>
    match name with
    | "CHAT_VARIANT" => flavor
    | "CHAT_ROOM" => room
    | "CHAT_LOCATION" => location
    | _ => none
  let path := arguments.head?
  let content ← match path with
    | none => pure (.error .noSuchFile)
    | some path => readFile path
  match Settings.resolve path (fun _ => content) env with
  | .error e =>
    (← IO.getStderr).putStr (e.message ++ "\n")
    return 1
  | .ok settings =>
    put [Client.help]
    serve (← IO.getStdin) (Client.initial settings)
    return 0
