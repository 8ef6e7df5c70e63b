import BayeuxChat.Text.Blank
import BayeuxChat.Text.Numeral
import BayeuxChat.Text.Split

/-!
# Error texts of the protocol

A Bayeux server states an error as `code:args:message`: a number, arguments
separated by commas, and a message that may hold further colons.
-/

namespace BayeuxChat

/-- An error as a server states it. -/
structure BayeuxError where
  code : Nat
  args : List String
  message : String
  deriving DecidableEq

namespace BayeuxError

def greatestCode : Nat := 65535

/-- The arguments that are written as `cs`; nothing written is no argument. -/
def argsOf (cs : List Char) : List String :=
  if cs.isEmpty then [] else (Text.pieces ',' cs).map String.ofList

/-- The error that a text states, if it has the form; blanks around the code do
not count. -/
def ofText? (text : String) : Option BayeuxError := do
  let (code, rest) ← Text.cut ':' text.toList
  let (args, message) ← Text.cut ':' rest
  let code ← Text.boundedNumeral? greatestCode (Text.trimmed code)
  pure { code := code, args := argsOf args, message := String.ofList message }

/-- The text that states an error; no argument and one empty argument look alike. -/
def text (e : BayeuxError) : String :=
  Text.decimal e.code ++ ":" ++ ",".intercalate e.args ++ ":" ++ e.message

end BayeuxError
end BayeuxChat
