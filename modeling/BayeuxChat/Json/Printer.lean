import BayeuxChat.Json.Basic

/-!
# Writing JSON

The compact text of a JSON value: no blanks between tokens, members in the order
in which they stand.  Inside a string the quote, the backslash and the control
characters below U+0020 are escaped, the common ones by a letter, the others by
four hexadecimal digits; everything else is written as it is.
-/

namespace BayeuxChat
namespace Json

/-- The letter that stands behind a backslash for `c`, if there is one. -/
def shortEscape? : Char → Option Char
  | '"' => some '"'
  | '\\' => some '\\'
  | '\x08' => some 'b'
  | '\x0c' => some 'f'
  | '\n' => some 'n'
  | '\r' => some 'r'
  | '\t' => some 't'
  | _ => none

/-- How `c` is written inside a string. -/
def escapedChar (c : Char) : List Char :=
  match shortEscape? c with
  | some letter => ['\\', letter]
  | none =>
    if c.toNat < 0x20 then '\\' :: 'u' :: Text.paddedHexDigits 4 c.toNat else [c]

/-- A string between its quotes. -/
def stringText (s : String) : String :=
  String.ofList ('"' :: s.toList.flatMap escapedChar ++ ['"'])

mutual

/-- The compact text of a value. -/
def text : Json → String
  | .null => "null"
  | .bool true => "true"
  | .bool false => "false"
  | .number n => n.text
  | .string s => stringText s
  | .array items => "[" ++ ",".intercalate (itemTexts items) ++ "]"
  | .object members => "\x7b" ++ ",".intercalate (memberTexts members) ++ "\x7d"

/-- The texts of the items of an array. -/
def itemTexts : List Json → List String
  | [] => []
  | v :: rest => text v :: itemTexts rest

/-- The texts of the members of an object. -/
def memberTexts : List (String × Json) → List String
  | [] => []
  | (name, v) :: rest => (stringText name ++ ":" ++ text v) :: memberTexts rest

end

end Json
end BayeuxChat
