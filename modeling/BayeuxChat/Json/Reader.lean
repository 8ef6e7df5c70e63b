import BayeuxChat.Json.Token

/-!
# Reading JSON

A whole text is read to one value.  Arrays and objects are read by loops that
take the reader of a single item or member as an argument, so that records can
use the same loops.  How deep brackets may be nested is an argument too, on
which reading a value recurses.
-/

namespace BayeuxChat
namespace Json

open Cursor

variable {α σ : Type}

/-- How many brackets may be open at once. -/
def deepest : Nat := 127

/-- Goes to the next item of an array, or to its closing bracket, where the
answer is `false`.  Before the `first` item no comma is due. -/
def nextItem (first : Bool) (cur : Cursor) : Except ReadError (Bool × Cursor) :=
  let cur := cur.skipSpace
  match cur.rest with
  | [] => cur.failPast .endInArray
  | c :: _ =>
    if c = ']' then .ok (false, cur)
    else if first then .ok (true, cur)
    else if c = ',' then
      let cur := cur.step.skipSpace
      match cur.rest with
      | [] => cur.failPast .endInValue
      | ']' :: _ => cur.failPast .trailingComma
      | _ => .ok (true, cur)
    else cur.failPast .noCommaInArray

/-- Goes to the next name in an object, or to its closing bracket, where the
answer is `false`.  Before the `first` name no comma is due. -/
def nextName (first : Bool) (cur : Cursor) : Except ReadError (Bool × Cursor) :=
  let cur := cur.skipSpace
  match cur.rest with
  | [] => cur.failPast .endInObject
  | c :: _ =>
    if c = '}' then .ok (false, cur)
    else if first then
      if c = '"' then .ok (true, cur) else cur.failPast .keyNotString
    else if c = ',' then
      let cur := cur.step.skipSpace
      match cur.rest with
      | [] => cur.failPast .endInValue
      | '"' :: _ => .ok (true, cur)
      | '}' :: _ => cur.failPast .trailingComma
      | _ => cur.failPast .keyNotString
    else cur.failPast .noCommaInObject

def readColon (cur : Cursor) : Except ReadError Cursor :=
  let cur := cur.skipSpace
  match cur.rest with
  | [] => cur.failPast .endInObject
  | ':' :: _ => .ok cur.step
  | _ => cur.failPast .noColon

/-- Reads at most `n` items and the closing bracket. -/
def readItemsWithin (item : Reader α) : Nat → Bool → Cursor → Except ReadError (List α × Cursor)
  | 0, _, cur => cur.failHere .endInArray
  | n + 1, first, cur => do
    let (more, cur) ← nextItem first cur
    if more then
      let (x, cur) ← item cur
      let (xs, cur) ← readItemsWithin item n false cur
      pure (x :: xs, cur)
    else pure ([], cur.step)

/-- Reads the items of an array, behind its opening bracket, and the closing one. -/
def readItems (item : Reader α) (cur : Cursor) : Except ReadError (List α × Cursor) :=
  readItemsWithin item (cur.rest.length + 1) true cur

/-- Reads at most `n` members and the closing bracket.  What to do with a member
is up to `member`, which stands behind the quote that opens the name and changes
the state `s`. -/
def readMembersWithin (member : σ → Reader σ) :
    Nat → Bool → σ → Cursor → Except ReadError (σ × Cursor)
  | 0, _, _, cur => cur.failHere .endInObject
  | n + 1, first, s, cur => do
    let (more, cur) ← nextName first cur
    if more then
      let (s, cur) ← member s cur.step
      readMembersWithin member n false s cur
    else pure (s, cur.step)

/-- Reads the members of an object, behind its opening bracket, and the closing one. -/
def readMembers (member : σ → Reader σ) (s : σ) (cur : Cursor) :
    Except ReadError (σ × Cursor) :=
  readMembersWithin member (cur.rest.length + 1) true s cur

/-- Reads one member of an object of arbitrary values and adds it to `members`. -/
def readMember (value : Reader Json) (members : Members) (cur : Cursor) :
    Except ReadError (Members × Cursor) := do
  let (name, cur) ← readString cur
  let cur ← readColon cur
  let (v, cur) ← value cur
  pure (Members.insert name v members, cur)

/-- Reads a value with no brackets. -/
def readScalar (cur : Cursor) : Except ReadError (Json × Cursor) :=
  match cur.rest with
  | 'n' :: _ => do
    let cur ← readKeyword "null".toList cur
    pure (.null, cur)
  | 't' :: _ => do
    let cur ← readKeyword "true".toList cur
    pure (.bool true, cur)
  | 'f' :: _ => do
    let cur ← readKeyword "false".toList cur
    pure (.bool false, cur)
  | '"' :: _ => do
    let (s, cur) ← readString cur.step
    pure (.string s, cur)
  | c :: _ =>
    if c = '-' ∨ c.isDigit then do
      let (n, cur) ← readNumber cur
      pure (.number n, cur)
    else cur.failPast .noValue
  | [] => cur.failPast .endInValue

/-- Reads a value with at most `depth` brackets open at once. -/
def readValue : Nat → Cursor → Except ReadError (Json × Cursor)
  | 0, cur =>
    let cur := cur.skipSpace
    match cur.rest with
    | '[' :: _ => cur.failPast .tooDeep
    | '{' :: _ => cur.failPast .tooDeep
    | _ => readScalar cur
  | depth + 1, cur =>
    let cur := cur.skipSpace
    match cur.rest with
    | '[' :: _ => do
      let (items, cur) ← readItems (readValue depth) cur.step
      pure (.array items, cur)
    | '{' :: _ => do
      let (members, cur) ← readMembers (readMember (readValue depth)) [] cur.step
      pure (.object members, cur)
    | _ => readScalar cur

/-- Reads a whole text with `reader`, which must leave nothing but blanks. -/
def readWith (reader : Reader α) (text : String) : Except ReadError α := do
  let (x, cur) ← reader (Cursor.start text)
  let cur := cur.skipSpace
  if cur.rest.isEmpty then pure x else cur.failPast .trailingCharacters

def ofText (text : String) : Except ReadError Json :=
  readWith (readValue deepest) text

end Json
end BayeuxChat
