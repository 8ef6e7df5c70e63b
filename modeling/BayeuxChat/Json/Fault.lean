import BayeuxChat.Json.Basic
import BayeuxChat.Text.Quoted

/-!
# What can be wrong with JSON

A `Fault` says why a text is not JSON, or why a value does not have the form
that was asked for.  Faults are causes; their wording is the single function
`Fault.message`.  Where the value came from a text, a `ReadError` adds the
position at which the fault was noticed.
-/

namespace BayeuxChat
namespace Json

/-- A departure from the grammar of JSON, or from its limits. -/
inductive SyntaxFault where
  | endInValue
  | endInArray
  | endInObject
  | endInString
  | noColon
  | noCommaInArray
  | noCommaInObject
  | badKeyword
  | noValue
  | badEscape
  | badNumber
  | numberTooGreat
  | controlCharacter
  | keyNotString
  | loneSurrogate
  | brokenSurrogatePair
  | trailingComma
  | trailingCharacters
  | tooDeep
  deriving DecidableEq

def SyntaxFault.message : SyntaxFault → String
  | .endInValue => "EOF while parsing a value"
  | .endInArray => "EOF while parsing a list"
  | .endInObject => "EOF while parsing an object"
  | .endInString => "EOF while parsing a string"
  | .noColon => "expected `:`"
  | .noCommaInArray => "expected `,` or `]`"
  | .noCommaInObject => "expected `,` or `\x7d`"
  | .badKeyword => "expected ident"
  | .noValue => "expected value"
  | .badEscape => "invalid escape"
  | .badNumber => "invalid number"
  | .numberTooGreat => "number out of range"
  | .controlCharacter =>
    "control character (\\u0000-\\u001F) found while parsing a string"
  | .keyNotString => "key must be a string"
  | .loneSurrogate => "lone leading surrogate in hex escape"
  | .brokenSurrogatePair => "unexpected end of hex escape"
  | .trailingComma => "trailing comma"
  | .trailingCharacters => "trailing characters"
  | .tooDeep => "recursion limit exceeded"

/-- What was found where something else was expected. -/
inductive Found where
  | null
  | bool (b : Bool)
  | number (n : Number)
  | string (s : String)
  | array
  | object
  deriving DecidableEq

/-- What the value `v` counts as where it was not expected. -/
def Found.ofJson : Json → Found
  | .null => .null
  | .bool b => .bool b
  | .number n => .number n
  | .string s => .string s
  | .array _ => .array
  | .object _ => .object

/-- The words for what was found; a scalar is told with its value. -/
def Found.message : Found → String
  | .null => "null"
  | .bool true => "boolean `true`"
  | .bool false => "boolean `false`"
  | .number (.integer n) => "integer `" ++ Text.signedDecimal n ++ "`"
  | .number (.float x) => "floating point `" ++ (Number.float x).text ++ "`"
  | .string s => "string " ++ Text.quote s
  | .array => "sequence"
  | .object => "map"

inductive Expected where
  | text
  | flag
  | nothing
  | record (name : String)
  | choice
  deriving DecidableEq

def Expected.message : Expected → String
  | .text => "a string"
  | .flag => "a boolean"
  | .nothing => "unit"
  | .record name => "struct " ++ name
  | .choice => "string or map"

/-- Why a text or a value was refused. -/
inductive Fault where
  | syntactic (fault : SyntaxFault)
  /-- A value of the wrong type. -/
  | wrongType (found : Found) (expected : Expected)
  /-- An object that should name one choice has no key or several. -/
  | notSingleKey
  /-- An array with `length` items is too short for the record. -/
  | tooShort (length : Nat) (record : String) (size : Nat)
  /-- An array with `length` items is longer than the record. -/
  | tooLong (length : Nat)
  | missing (name : String)
  | repeated (name : String)
  /-- A name that is not among the `known` ones. -/
  | unknownChoice (name : String) (known : List String)
  deriving DecidableEq

/-- Names in backticks, the last two joined by a word. -/
def oneOf : List String → String
  | [] => "nothing"
  | [a] => "`" ++ a ++ "`"
  | [a, b] => "`" ++ a ++ "` or `" ++ b ++ "`"
  | names => "one of " ++ ", ".intercalate (names.map fun a => "`" ++ a ++ "`")

def Fault.message : Fault → String
  | .syntactic fault => fault.message
  | .wrongType found expected =>
    "invalid type: " ++ found.message ++ ", expected " ++ expected.message
  | .notSingleKey => "invalid value: map, expected map with a single key"
  | .tooShort length record size =>
    "invalid length " ++ Text.decimal length ++ ", expected struct " ++ record ++ " with " ++
      Text.decimal size ++ " elements"
  | .tooLong length =>
    "invalid length " ++ Text.decimal length ++ ", expected fewer elements in array"
  | .missing name => "missing field `" ++ name ++ "`"
  | .repeated name => "duplicate field `" ++ name ++ "`"
  | .unknownChoice name known =>
    "unknown variant `" ++ name ++ "`, expected " ++ oneOf known

/-- A place in a text: lines are counted from one, columns are the bytes passed
since the line began. -/
structure Position where
  line : Nat
  column : Nat
  deriving DecidableEq

/-- A fault and, if the value was read from a text, where it was noticed. -/
structure ReadError where
  fault : Fault
  position : Option Position
  deriving DecidableEq

/-- A fault of a value that has no place in a text. -/
def ReadError.ofFault (fault : Fault) : ReadError :=
  { fault := fault, position := none }

/-- The words for a fault, with its place if it has one. -/
def ReadError.message (e : ReadError) : String :=
  match e.position with
  | none => e.fault.message
  | some p =>
    e.fault.message ++ " at line " ++ Text.decimal p.line ++ " column " ++
      Text.decimal p.column

end Json
end BayeuxChat
