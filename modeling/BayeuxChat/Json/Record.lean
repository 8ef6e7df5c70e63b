import BayeuxChat.Json.Fault

/-!
# Records

A record is the form of an object whose members are known beforehand.  A value
is accepted as a record if it is an object with the right members, whatever
others it has, or an array with the members' values in the order of their
declaration.  The answer is a list of names and values: the members that were
given, each known to be of its kind.

Members of an object are looked at in the order of their names and the first
fault is reported; that a member is missing is noticed after that.
-/

namespace BayeuxChat
namespace Json

/-- When a member may be left out. -/
inductive Presence where
  | required
  /-- Out of an object, but not out of an array. -/
  | optional
  /-- Out of an object, and at the end of an array. -/
  | defaulted
  deriving DecidableEq

structure Member (κ : Type) where
  name : String
  kind : κ
  presence : Presence

/-- The declaration of a record, its members being of kinds `κ`. -/
structure Record (κ : Type) where
  name : String
  members : List (Member κ)

/-- A set of names, one of which is to be chosen. -/
structure Choice where
  names : List String
  /-- Whether other names are allowed as well. -/
  others : Bool

/-- The name itself if it may be chosen. -/
def Choice.pick (choice : Choice) (name : String) : Except Fault String :=
  if choice.others || choice.names.contains name then .ok name
  else .error (.unknownChoice name choice.names)

/-- The kinds of members that are not records. -/
inductive Scalar where
  | text
  | optionalText
  | flag
  | anything
  | choice (names : Choice)

/-- The kinds of members: scalars, and records of scalars. -/
inductive Kind where
  | scalar (kind : Scalar)
  | record (form : Record Scalar)

/-- Accepts a value as a member of the given kind, or says why not.  A choice may
be wrapped into an object, as its only name, with the value `null`. -/
def Scalar.accept : Scalar → Json → Except Fault Json
  | .text, .string s => .ok (.string s)
  | .text, v => .error (.wrongType (.ofJson v) .text)
  | .optionalText, .null => .ok .null
  | .optionalText, .string s => .ok (.string s)
  | .optionalText, v => .error (.wrongType (.ofJson v) .text)
  | .flag, .bool b => .ok (.bool b)
  | .flag, v => .error (.wrongType (.ofJson v) .flag)
  | .anything, v => .ok v
  | .choice names, .string s => (names.pick s).map .string
  | .choice names, .object [(name, v)] => do
    let picked ← names.pick name
    match v with
    | .null => .ok (.string picked)
    | v => .error (.wrongType (.ofJson v) .nothing)
  | .choice _, .object _ => .error .notSingleKey
  | .choice _, v => .error (.wrongType (.ofJson v) .choice)

namespace Record

variable {κ : Type}

/-- Puts a member among others that are in the order of their names. -/
def place (member : Member κ) : List (Member κ) → List (Member κ)
  | [] => [member]
  | other :: rest =>
    if member.name < other.name then member :: other :: rest else other :: place member rest

def byName (record : Record κ) : List (Member κ) :=
  record.members.foldr place []

/-- Accepts those of the members that `given` has. -/
def acceptNamed (accept : κ → Json → Except Fault Json) (given : Members) :
    List (Member κ) → Except Fault Members
  | [] => .ok []
  | m :: rest =>
    match given.lookup m.name with
    | none => acceptNamed accept given rest
    | some v => do
      let v ← accept m.kind v
      let others ← acceptNamed accept given rest
      pure ((m.name, v) :: others)

/-- The members given, provided that none is missing. -/
def complete (record : Record κ) (given : Members) : Except Fault Members :=
  let absent (m : Member κ) : Bool :=
    m.presence == .required && (given.lookup m.name).isNone
  match record.members.find? absent with
  | some m => .error (.missing m.name)
  | none => .ok given

/-- The fault of an array that ends after `length` items, before `next`. -/
def tooShort (record : Record κ) (length : Nat) : Fault :=
  .tooShort length record.name record.members.length

/-- Accepts the items of an array, `length` of which stand before the first. -/
def acceptItems (accept : κ → Json → Except Fault Json) (record : Record κ) :
    Nat → List (Member κ) → List Json → Except Fault Members
  | _, [], [] => .ok []
  | length, [], rest => .error (.tooLong (length + rest.length))
  | length, m :: rest, [] =>
    if m.presence = .defaulted then acceptItems accept record length rest []
    else .error (record.tooShort length)
  | length, m :: rest, v :: others => do
    let v ← accept m.kind v
    let given ← acceptItems accept record (length + 1) rest others
    pure ((m.name, v) :: given)

def accept (acceptKind : κ → Json → Except Fault Json) (record : Record κ) :
    Json → Except Fault Members
  | .object given => do
    let given ← acceptNamed acceptKind given record.byName
    record.complete given
  | .array items => acceptItems acceptKind record 0 record.members items
  | v => .error (.wrongType (.ofJson v) (.record record.name))

end Record

/-- Accepts a value as a member of the given kind; a record is turned into the
object of its members. -/
def Kind.accept : Kind → Json → Except Fault Json
  | .scalar kind, v => kind.accept v
  | .record form, v => (form.accept Scalar.accept v).map .object

end Json
end BayeuxChat
