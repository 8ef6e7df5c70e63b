import BayeuxChat.Json.Fault

/-!
# Places in a text

A `Cursor` is what is left of a text together with the position reached.  A
fault is reported either where the cursor stands, once everything it blames has
been passed, or one byte further on, which puts the byte it blames inside the
columns counted.
-/

namespace BayeuxChat
namespace Json

/-- The position after the character `c`. -/
def Position.after (p : Position) (c : Char) : Position :=
  if c = '\n' then { line := p.line + 1, column := 0 }
  else { p with column := p.column + c.utf8Size }

/-- The rest of a text and the position where it begins. -/
structure Cursor where
  rest : List Char
  position : Position

/-- What reads a part of a text and leaves the cursor behind it. -/
abbrev Reader (α : Type) := Cursor → Except ReadError (α × Cursor)

namespace Cursor

/-- The beginning of a text. -/
def start (text : String) : Cursor :=
  { rest := text.toList, position := { line := 1, column := 0 } }

/-- The cursor one character further on; at the end it stays. -/
def step (cur : Cursor) : Cursor :=
  match cur.rest with
  | [] => cur
  | c :: rest => { rest := rest, position := cur.position.after c }

/-- The position one byte further on; at the end the cursor's own. -/
def past (cur : Cursor) : Position :=
  match cur.rest with
  | [] => cur.position
  | c :: _ =>
    if c = '\n' then { line := cur.position.line + 1, column := 0 }
    else { cur.position with column := cur.position.column + 1 }

/-- The position after the next `n` bytes, which may end inside a character. -/
def afterBytes (cur : Cursor) (n : Nat) : Position :=
  go cur.rest cur.position n
where
  /-- Counts `n` bytes from `p` on. -/
  go : List Char → Position → Nat → Position
    | [], p, _ => p
    | c :: rest, p, n =>
      if n = 0 then p
      else if c.utf8Size ≤ n then go rest (p.after c) (n - c.utf8Size)
      else { p with column := p.column + n }

/-- The cursor after the longest run of characters that satisfy `p`, and the run. -/
def span (p : Char → Bool) (cur : Cursor) : List Char × Cursor :=
  go cur.rest cur.position
where
  /-- Takes characters from the front as long as they satisfy `p`. -/
  go : List Char → Position → List Char × Cursor
    | [], place => ([], { rest := [], position := place })
    | c :: rest, place =>
      if p c then
        let (taken, cur) := go rest (place.after c)
        (c :: taken, cur)
      else ([], { rest := c :: rest, position := place })

/-- The end of the text. -/
def finish (cur : Cursor) : Cursor :=
  (cur.span fun _ => true).2

/-- The four characters that may stand between tokens. -/
def isSpace (c : Char) : Bool :=
  c == ' ' || c == '\t' || c == '\n' || c == '\r'

/-- The cursor at the next token. -/
def skipSpace (cur : Cursor) : Cursor :=
  (cur.span isSpace).2

/-- A fault of the form or the value, noticed at `p`. -/
def refuse {α : Type} (p : Position) (fault : Fault) : Except ReadError α :=
  .error { fault := fault, position := some p }

/-- A fault noticed where the cursor stands. -/
def failHere {α : Type} (cur : Cursor) (fault : SyntaxFault) : Except ReadError α :=
  refuse cur.position (.syntactic fault)

/-- A fault of the byte at the cursor. -/
def failPast {α : Type} (cur : Cursor) (fault : SyntaxFault) : Except ReadError α :=
  refuse cur.past (.syntactic fault)

end Cursor
end Json
end BayeuxChat
