import BayeuxChat.Json.Reader

/-!
# Passing over values

The value of a member that nobody asked for is passed over.  Its syntax is
checked, but it may be nested as deep as it likes, its numbers may be of any
size, and its strings may hold half a surrogate pair.  The brackets that are
open are kept on a stack.
-/

namespace BayeuxChat
namespace Json

open Cursor

/-- The kind of bracket that is open. -/
inductive Bracket where
  | square
  | curly

def Bracket.closing : Bracket → Char
  | .square => ']'
  | .curly => '}'

/-- What is wrong if the text ends inside the brackets. -/
def Bracket.unclosed : Bracket → SyntaxFault
  | .square => .endInArray
  | .curly => .endInObject

/-- What is wrong if neither a comma nor the closing bracket follows. -/
def Bracket.noComma : Bracket → SyntaxFault
  | .square => .noCommaInArray
  | .curly => .noCommaInObject

/-- Passes over at most `n` characters of a string and its closing quote. -/
def skipCharsWithin : Nat → Cursor → Except ReadError Cursor
  | 0, cur => cur.failHere .endInString
  | n + 1, cur =>
    match cur.rest with
    | [] => cur.failHere .endInString
    | '"' :: _ => .ok cur.step
    | '\\' :: [] => cur.step.failHere .endInString
    | '\\' :: 'u' :: _ => do
      let (_, cur) ← readFourHexDigits cur.step.step
      skipCharsWithin n cur
    | '\\' :: c :: _ =>
      if (escapedBy? c).isSome then skipCharsWithin n cur.step.step
      else cur.step.failPast .badEscape
    | c :: _ =>
      if c.toNat < 0x20 then cur.failHere .controlCharacter else skipCharsWithin n cur.step

/-- Passes over a string, behind its opening quote. -/
def skipString (cur : Cursor) : Except ReadError Cursor :=
  skipCharsWithin (cur.rest.length + 1) cur

/-- Passes over a scalar or an opening bracket, which is the answer. -/
def skipToken (cur : Cursor) : Except ReadError (Option Bracket × Cursor) :=
  match cur.rest with
  | '[' :: _ => .ok (some .square, cur.step)
  | '{' :: _ => .ok (some .curly, cur.step)
  | '"' :: _ => do
    let cur ← skipString cur.step
    pure (none, cur)
  | c :: _ =>
    if c = '-' ∨ c.isDigit then do
      let (_, cur) ← readNumeral .badNumber cur
      pure (none, cur)
    else do
      let (_, cur) ← readScalar cur
      pure (none, cur)
  | [] => cur.failPast .endInValue

/-- Passes over closing brackets until another value is due, and gives the
brackets that are still open then.  A comma is due if `afterValue`. -/
def skipClosing (afterValue : Bool) : List Bracket → Cursor →
    Except ReadError (List Bracket × Cursor)
  | [], cur => .ok ([], cur)
  | bracket :: outer, cur =>
    let cur := cur.skipSpace
    match cur.rest with
    | [] => cur.failPast bracket.unclosed
    | c :: _ =>
      if c = bracket.closing then skipClosing true outer cur.step
      else if !afterValue then .ok (bracket :: outer, cur)
      else if c = ',' then .ok (bracket :: outer, cur.step)
      else cur.failPast bracket.noComma

def skipName (cur : Cursor) : Except ReadError Cursor :=
  let cur := cur.skipSpace
  match cur.rest with
  | [] => cur.failPast .endInObject
  | '"' :: _ => do
    let cur ← skipString cur.step
    readColon cur
  | _ => cur.failPast .keyNotString

/-- Passes over at most `n` tokens, the brackets `outer` being open. -/
def skipWithin : Nat → List Bracket → Cursor → Except ReadError Cursor
  | 0, _, cur => cur.failHere .endInValue
  | n + 1, outer, cur => do
    let (opened, cur) ← skipToken cur.skipSpace
    let (still, cur) ← match opened with
      | some bracket => skipClosing false (bracket :: outer) cur
      | none => skipClosing true outer cur
    match still with
    | [] => pure cur
    | .square :: _ => skipWithin n still cur
    | .curly :: _ =>
      let cur ← skipName cur
      skipWithin n still cur

def skipValue (cur : Cursor) : Except ReadError Cursor :=
  skipWithin (cur.rest.length + 1) [] cur

end Json
end BayeuxChat
