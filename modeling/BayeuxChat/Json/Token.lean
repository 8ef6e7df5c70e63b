import BayeuxChat.Decimal.Scaled
import BayeuxChat.Json.Cursor

/-!
# Tokens of JSON

Reading the keywords, strings and numbers.  Each reader starts at the token's
first character, or behind it where the doc comment says so, and leaves the
cursor behind the token.

A number keeps its kind: a numeral without fraction and exponent is an integer
as long as it fits into 64 bits, with or without a sign, and everything else is
a floating-point number.  Of the digits of such a number as many are kept as fit
into 64 bits; the others only count for the exponent, or not at all after the
point.
-/

namespace BayeuxChat
namespace Json

open Cursor

def readKeyword : List Char → Cursor → Except ReadError Cursor
  | [], cur => .ok cur
  | c :: word, cur =>
    match cur.rest with
    | [] => cur.failHere .endInValue
    | d :: _ => if d = c then readKeyword word cur.step else cur.failPast .badKeyword

/-- The value of four hexadecimal digits. -/
def fourHexDigits? : List Char → Option Nat
  | [a, b, c, d] => do
    let a ← Text.hexDigit? a
    let b ← Text.hexDigit? b
    let c ← Text.hexDigit? c
    let d ← Text.hexDigit? d
    pure (((a * 16 + b) * 16 + c) * 16 + d)
  | _ => none

/-- Reads the four digits behind `\u`.  The four bytes there are taken as a
whole, whatever they are. -/
def readFourHexDigits (cur : Cursor) : Except ReadError (Nat × Cursor) :=
  let four := cur.rest.take 4
  if (String.ofList four).utf8ByteSize < 4 then cur.finish.failHere .endInString
  else
    match fourHexDigits? four with
    | some n => .ok (n, cur.step.step.step.step)
    | none => refuse (cur.afterBytes 4) (.syntactic .badEscape)

/-- Whether `n` is the first half of a surrogate pair. -/
def isHighSurrogate (n : Nat) : Bool :=
  0xD800 ≤ n && n ≤ 0xDBFF

/-- Whether `n` is the second half of a surrogate pair. -/
def isLowSurrogate (n : Nat) : Bool :=
  0xDC00 ≤ n && n ≤ 0xDFFF

/-- Reads the character behind `\u`, which takes two escapes outside the basic
plane. -/
def readUnicodeEscape (cur : Cursor) : Except ReadError (Char × Cursor) := do
  let (high, cur) ← readFourHexDigits cur
  if isLowSurrogate high then cur.failHere .loneSurrogate
  else if isHighSurrogate high then
    match cur.rest with
    | [] => cur.failHere .endInString
    | '\\' :: [] => cur.step.failHere .endInString
    | '\\' :: 'u' :: _ =>
      let (low, cur) ← readFourHexDigits cur.step.step
      if isLowSurrogate low then
        pure (Char.ofNat (0x10000 + (high - 0xD800) * 0x400 + (low - 0xDC00)), cur)
      else cur.failHere .loneSurrogate
    | '\\' :: _ => cur.step.failPast .brokenSurrogatePair
    | _ => cur.failPast .brokenSurrogatePair
  else pure (Char.ofNat high, cur)

/-- The character that a letter stands for behind a backslash. -/
def escapedBy? : Char → Option Char
  | '"' => some '"'
  | '\\' => some '\\'
  | '/' => some '/'
  | 'b' => some '\x08'
  | 'f' => some '\x0c'
  | 'n' => some '\n'
  | 'r' => some '\r'
  | 't' => some '\t'
  | _ => none

def readEscape (cur : Cursor) : Except ReadError (Char × Cursor) :=
  match cur.rest with
  | [] => cur.failHere .endInString
  | 'u' :: _ => readUnicodeEscape cur.step
  | c :: _ =>
    match escapedBy? c with
    | some escaped => .ok (escaped, cur.step)
    | none => cur.failPast .badEscape

/-- Reads at most `n` characters of a string and its closing quote. -/
def readCharsWithin : Nat → Cursor → Except ReadError (List Char × Cursor)
  | 0, cur => cur.failHere .endInString
  | n + 1, cur =>
    match cur.rest with
    | [] => cur.failHere .endInString
    | '"' :: _ => .ok ([], cur.step)
    | '\\' :: _ => do
      let (c, cur) ← readEscape cur.step
      let (cs, cur) ← readCharsWithin n cur
      pure (c :: cs, cur)
    | c :: _ =>
      if c.toNat < 0x20 then cur.failPast .controlCharacter
      else do
        let (cs, cur) ← readCharsWithin n cur.step
        pure (c :: cs, cur)

def readString (cur : Cursor) : Except ReadError (String × Cursor) := do
  let (cs, cur) ← readCharsWithin (cur.rest.length + 1) cur
  pure (String.ofList cs, cur)

/-- The parts of a numeral as it is written. -/
structure Numeral where
  negative : Bool
  whole : List Char
  fraction : Option (List Char)
  /-- Whether the exponent is negative, its digits, and where they begin. -/
  exponent : Option (Bool × List Char × Position)

/-- Reads one digit or more; `unfinished` is the fault of a text that ends instead. -/
def readDigits (unfinished : SyntaxFault) (cur : Cursor) :
    Except ReadError (List Char × Cursor) :=
  let (digits, after) := cur.span Char.isDigit
  if digits.isEmpty then
    if cur.rest.isEmpty then cur.failHere unfinished else cur.failPast .badNumber
  else .ok (digits, after)

/-- Reads the part of a numeral before the point: a zero alone, or digits that do
not begin with one. -/
def readWhole (unfinished : SyntaxFault) (cur : Cursor) :
    Except ReadError (List Char × Cursor) :=
  match cur.rest with
  | '0' :: next =>
    if (next.head?.map Char.isDigit).getD false then cur.step.failPast .badNumber
    else .ok (['0'], cur.step)
  | _ => readDigits unfinished cur

def readFraction (unfinished : SyntaxFault) (cur : Cursor) :
    Except ReadError (Option (List Char) × Cursor) :=
  match cur.rest with
  | '.' :: _ => do
    let (digits, cur) ← readDigits unfinished cur.step
    pure (some digits, cur)
  | _ => .ok (none, cur)

def readExponent (unfinished : SyntaxFault) (cur : Cursor) :
    Except ReadError (Option (Bool × List Char × Position) × Cursor) :=
  match cur.rest with
  | c :: next =>
    if c = 'e' ∨ c = 'E' then do
      let signed := match next with
        | '+' :: _ => cur.step.step
        | '-' :: _ => cur.step.step
        | _ => cur.step
      let (digits, after) ← readDigits unfinished signed
      pure (some (next.head? == some '-', digits, signed.position), after)
    else .ok (none, cur)
  | [] => .ok (none, cur)

/-- Reads a numeral, its minus sign included. -/
def readNumeral (unfinished : SyntaxFault) (cur : Cursor) :
    Except ReadError (Numeral × Cursor) := do
  let (negative, cur) := match cur.rest with
    | '-' :: _ => (true, cur.step)
    | _ => (false, cur)
  let (whole, cur) ← readWhole unfinished cur
  let (fraction, cur) ← readFraction unfinished cur
  let (exponent, cur) ← readExponent unfinished cur
  pure ({ negative, whole, fraction, exponent }, cur)

/-- The number that digits make when appended to `n`, as far as it stays within
`limit`, and the digits that were left over. -/
def appendDigits (limit n : Nat) : List Char → Nat × List Char
  | [] => (n, [])
  | c :: cs =>
    let m := n * 10 + (c.toNat - '0'.toNat)
    if m ≤ limit then appendDigits limit m cs else (n, c :: cs)

/-- The greatest integer, and the greatest significand of a number. -/
def greatestInteger : Nat := 0xFFFFFFFFFFFFFFFF

/-- The greatest exponent that may be written. -/
def greatestExponent : Nat := 0x7FFFFFFF

/-- A floating-point number with its sign. -/
def signedFloat (negative : Bool) (x : Float) : Number :=
  .float (if negative then -x else x)

/-- The number for an integer numeral whose digits make `n`. -/
def wholeNumber (negative : Bool) (n : Nat) : Number :=
  if !negative then .integer n
  else if n = 0 ∨ 0x8000000000000000 < n then signedFloat true (UInt64.ofNat n).toFloat
  else .integer (-n)

/-- The value of a numeral that ends at `last`, or the position at which it is
known to be too great. -/
def Numeral.value (m : Numeral) (last : Position) : Except Position Number :=
  let (whole, dropped) := appendDigits greatestInteger 0 m.whole
  if m.fraction.isNone && m.exponent.isNone && dropped.isEmpty then
    .ok (wholeNumber m.negative whole)
  else
    let fraction := m.fraction.getD []
    let (significand, unused) := appendDigits greatestInteger whole fraction
    let shift : Int := dropped.length - (fraction.length - unused.length : Nat)
    let scaled (exponent : Int) : Except Position Number :=
      match Decimal.scaled? significand exponent with
      | some x => .ok (signedFloat m.negative x)
      | none => .error last
    match m.exponent with
    | none => scaled shift
    | some (down, digits, first) =>
      let (exponent, beyond) := appendDigits greatestExponent 0 digits
      if beyond.isEmpty then scaled (if down then shift - exponent else shift + exponent)
      else if significand = 0 ∨ down then .ok (signedFloat m.negative 0)
      else
        let passed := digits.length - beyond.length + 1
        .error { first with column := first.column + passed }

def readNumber (cur : Cursor) : Except ReadError (Number × Cursor) := do
  let (numeral, cur) ← readNumeral .endInValue cur
  match numeral.value cur.position with
  | .ok n => pure (n, cur)
  | .error p => refuse p (.syntactic .numberTooGreat)

end Json
end BayeuxChat
