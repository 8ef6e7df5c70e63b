import BayeuxChat.Json.Record
import BayeuxChat.Json.Skip

/-!
# Reading records

A record is read from a text member by member, in the order in which they stand
there, so the first fault in the text is the one reported, be it in the syntax
or in a member.  A name that comes twice is a fault, and members that the record
does not know are passed over.  What is only noticed at the end of a record, and
a repeated name, is reported behind the closing bracket if that comes next.
-/

namespace BayeuxChat
namespace Json

open Cursor

/-- The cursor at the next token, or behind it if that is the bracket `closing`. -/
def Cursor.skipClosing (cur : Cursor) (closing : Char) : Cursor :=
  let cur := cur.skipSpace
  match cur.rest with
  | c :: _ => if c = closing then cur.step else cur
  | [] => cur

/-- Reads what stands where something else was expected.  A scalar is read to its
end, a bracket is not. -/
def readUnexpected {α : Type} (expected : Expected) (cur : Cursor) :
    Except ReadError (α × Cursor) :=
  match cur.rest with
  | '[' :: _ => refuse cur.position (.wrongType .array expected)
  | '{' :: _ => refuse cur.position (.wrongType .object expected)
  | _ => do
    let (v, cur) ← readScalar cur
    refuse cur.position (.wrongType (.ofJson v) expected)

/-- Reads a string. -/
def readText (cur : Cursor) : Except ReadError (String × Cursor) :=
  let cur := cur.skipSpace
  match cur.rest with
  | '"' :: _ => readString cur.step
  | _ => readUnexpected .text cur

/-- Reads a keyword that stands for a value, where `expected` is expected. -/
def readFlag (cur : Cursor) : Except ReadError (Json × Cursor) :=
  let cur := cur.skipSpace
  match cur.rest with
  | 't' :: _ => readScalar cur
  | 'f' :: _ => readScalar cur
  | _ => readUnexpected .flag cur

/-- Reads the word `null`. -/
def readNothing (cur : Cursor) : Except ReadError (Json × Cursor) :=
  let cur := cur.skipSpace
  match cur.rest with
  | 'n' :: _ => readScalar cur
  | _ => readUnexpected .nothing cur

/-- Reads the name of a choice, behind the quote that opens it. -/
def Choice.readName (choice : Choice) (cur : Cursor) : Except ReadError (Json × Cursor) := do
  let (name, cur) ← readString cur
  match choice.pick name with
  | .ok name => pure (.string name, cur)
  | .error fault => refuse cur.position fault

/-- Reads the only member of an object that wraps a choice, behind the opening
bracket, and the closing one.  The name of the choice is the key, so it has to be a
string, and there has to be one. -/
def Choice.readWrapped (choice : Choice) (cur : Cursor) : Except ReadError (Json × Cursor) :=
  let cur := cur.skipSpace
  match cur.rest with
  | [] => cur.failPast .endInObject
  | '}' :: _ => cur.failPast .noValue
  | '"' :: _ => do
    let (name, cur) ← choice.readName cur.step
    let cur ← readColon cur
    let (_, cur) ← readNothing cur
    let cur := cur.skipSpace
    match cur.rest with
    | '}' :: _ => pure (name, cur.step)
    | [] => cur.failHere .endInObject
    | _ => cur.failHere .noValue
  | _ => cur.failPast .keyNotString

/-- Reads a choice: a string, or an object with one name and the value `null`. -/
def Choice.read (choice : Choice) (depth : Nat) (cur : Cursor) :
    Except ReadError (Json × Cursor) :=
  let cur := cur.skipSpace
  match cur.rest with
  | [] => cur.failPast .endInValue
  | '"' :: _ => choice.readName cur.step
  | '{' :: _ => if depth = 0 then cur.failPast .tooDeep else choice.readWrapped cur.step
  | _ => cur.failPast .noValue

/-- Reads a member of the given kind with at most `depth` brackets. -/
def Scalar.read (depth : Nat) : Scalar → Cursor → Except ReadError (Json × Cursor)
  | .text, cur => do
    let (s, cur) ← readText cur
    pure (.string s, cur)
  | .optionalText, cur =>
    let cur := cur.skipSpace
    match cur.rest with
    | 'n' :: _ => readScalar cur
    | _ => do
      let (s, cur) ← readText cur
      pure (.string s, cur)
  | .flag, cur => readFlag cur
  | .anything, cur => readValue depth cur
  | .choice names, cur => names.read depth cur

namespace Record

variable {κ : Type}

/-- Reads one member, behind the quote that opens its name, and adds it to those
`given` before. -/
def readMember (readKind : κ → Reader Json) (record : Record κ) (given : Members)
    (cur : Cursor) : Except ReadError (Members × Cursor) := do
  let (name, cur) ← readString cur
  match record.members.find? (·.name == name) with
  | none =>
    let cur ← readColon cur
    let cur ← skipValue cur
    pure (given, cur)
  | some m =>
    if (given.lookup name).isSome then
      refuse (cur.skipClosing '}').position (.repeated name)
    else
      let cur ← readColon cur
      let (v, cur) ← readKind m.kind cur
      pure (given ++ [(name, v)], cur)

/-- Reads the members of an object, behind its opening bracket. -/
def readNamed (readKind : κ → Reader Json) (record : Record κ) (cur : Cursor) :
    Except ReadError (Members × Cursor) := do
  let (given, cur) ← readMembers (readMember readKind record) [] cur
  match record.complete given with
  | .ok given => pure (given, cur)
  | .error fault => refuse cur.position fault

/-- Reads the items of an array up to its closing bracket, `length` of which stand
before the cursor. -/
def readPositional (readKind : κ → Reader Json) (record : Record κ) :
    Nat → List (Member κ) → Cursor → Except ReadError (Members × Cursor)
  | _, [], cur => .ok ([], cur)
  | length, m :: rest, cur => do
    let (more, cur) ← nextItem (length == 0) cur
    if more then
      let (v, cur) ← readKind m.kind cur
      let (given, cur) ← readPositional readKind record (length + 1) rest cur
      pure ((m.name, v) :: given, cur)
    else if m.presence = .defaulted then readPositional readKind record length rest cur
    else refuse (cur.skipClosing ']').position (record.tooShort length)

/-- Reads the closing bracket of an array that may have no further items. -/
def readArrayEnd (cur : Cursor) : Except ReadError Cursor :=
  let cur := cur.skipSpace
  match cur.rest with
  | [] => cur.failPast .endInArray
  | ']' :: _ => .ok cur.step
  | ',' :: _ =>
    let cur := cur.step.skipSpace
    match cur.rest with
    | ']' :: _ => cur.failPast .trailingComma
    | _ => cur.failPast .trailingCharacters
  | _ => cur.failPast .trailingCharacters

/-- Reads a record with at most `depth` brackets open at once. -/
def read (readKind : Nat → κ → Reader Json) (record : Record κ) (depth : Nat)
    (cur : Cursor) : Except ReadError (Members × Cursor) :=
  let cur := cur.skipSpace
  match depth, cur.rest with
  | 0, '[' :: _ => cur.failPast .tooDeep
  | 0, '{' :: _ => cur.failPast .tooDeep
  | depth + 1, '[' :: _ => do
    let (given, cur) ← readPositional (readKind depth) record 0 record.members cur.step
    let cur ← readArrayEnd cur
    pure (given, cur)
  | depth + 1, '{' :: _ => readNamed (readKind depth) record cur.step
  | _, _ => readUnexpected (.record record.name) cur

end Record

/-- Reads a member of the given kind with at most `depth` brackets; a record is
turned into the object of its members. -/
def Kind.read (depth : Nat) : Kind → Cursor → Except ReadError (Json × Cursor)
  | .scalar kind, cur => kind.read depth cur
  | .record form, cur => do
    let (given, cur) ← form.read Scalar.read depth cur
    pure (.object given, cur)

/-- Reads a whole text to the members of a record. -/
def Record.ofText (record : Record Kind) (text : String) : Except ReadError Members :=
  readWith (record.read Kind.read deepest) text

end Json
end BayeuxChat
