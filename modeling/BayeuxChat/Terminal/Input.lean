/-!
# Lines of input

Standard input is a string of bytes.  A line feed ends a line, and so does a
carriage return with a line feed; what follows the last line feed is a line too
if it is not empty.  A line that is not UTF-8 ends the input.
-/

namespace BayeuxChat

inductive InputLine where
  | text (line : String)
  | undecodable
  deriving DecidableEq, Inhabited

/-- The lines of an input, and what follows the last line feed. -/
structure Input where
  lines : List InputLine
  rest : Option InputLine
  deriving DecidableEq, Inhabited

namespace InputLine

def lineFeed : UInt8 := 0x0A

/-- The byte that may stand before a line feed. -/
def carriageReturn : UInt8 := 0x0D

def ofBytes (bytes : List UInt8) : InputLine :=
  match String.fromUTF8? ⟨bytes.toArray⟩ with
  | some line => .text line
  | none => .undecodable

/-- The bytes of a line that a line feed ended, without a carriage return before it. -/
def withoutReturn (bytes : List UInt8) : List UInt8 :=
  if bytes.getLast? = some carriageReturn then bytes.dropLast else bytes

end InputLine

namespace Input

/-- The bytes of each line that is ended by a line feed, and of what is left. -/
def cutLines : List UInt8 → List (List UInt8) × List UInt8
  | [] => ([], [])
  | b :: bytes =>
    if b = InputLine.lineFeed then
      let (lines, rest) := cutLines bytes
      ([] :: lines, rest)
    else
      match cutLines bytes with
      | ([], rest) => ([], b :: rest)
      | (line :: lines, rest) => ((b :: line) :: lines, rest)

def ofBytes (bytes : List UInt8) : Input :=
  let (lines, rest) := cutLines bytes
  { lines := lines.map fun line => InputLine.ofBytes (InputLine.withoutReturn line)
    rest := if rest.isEmpty then none else some (InputLine.ofBytes rest) }

end Input
end BayeuxChat
