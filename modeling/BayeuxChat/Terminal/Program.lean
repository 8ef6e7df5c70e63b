import BayeuxChat.Settings.Sources
import BayeuxChat.Terminal.Client

/-!
# The program

The first argument of the program, if there is one, is the path of a settings
file.  Settings that are refused are reported on standard error, and the exit code
is one; otherwise standard input is served and the exit code is zero.
-/

namespace BayeuxChat

/-- What a run of the program leaves behind. -/
structure Exit where
  code : Nat
  stdout : String
  stderr : String
  deriving DecidableEq

/-- A run of the program, given its arguments, of which only the first counts, the
files, the environment and standard input. -/
def Exit.ofRun (arguments : List String) (read : String → Except FileFault ByteArray)
    (env : Environment) (stdin : List UInt8) : Exit :=
  match Settings.resolve arguments.head? read env with
  | .error e => { code := 1, stdout := "", stderr := e.message ++ "\n" }
  | .ok settings =>
    let (printed, _) := Client.serve settings (Input.ofBytes stdin)
    { code := 0, stdout := String.join (printed.map Printed.texts), stderr := "" }

end BayeuxChat
