import TableFeed.Number.Binary
import TableFeed.Number.Printer
import TableFeed.Text.Glyph
import TableFeed.Value.Basic

/-!
# Reading JSON

A reader of JSON texts that says where and why it stops.  Beside the standard it takes the three
names of floats that are not finite.  If an object has a name twice, the last value counts and
stands in the first place.

Each step takes the characters that are left and returns those that it leaves.  A fault records
how many characters were left where it was found, from which `read` computes the position.
-/

namespace TableFeed.Json

open Number Text

/-- Why a text is no JSON. -/
inductive Problem where
  /-- No value stands where one is needed. -/
  | value
  /-- No name stands where one is needed. -/
  | name
  /-- The colon after a name is missing. -/
  | colon
  /-- The comma between two parts is missing. -/
  | comma
  /-- More text follows the value. -/
  | extra
  /-- A control character stands in a text. -/
  | control
  /-- A text is not closed. -/
  | unterminated
  /-- A backslash is followed by no known escape. -/
  | escape
  /-- An escape of four digits has fewer. -/
  | unitEscape
  /-- The text starts with a byte order mark. -/
  | mark
  /-- An integer has too many digits. -/
  | digits (count : Nat)
  /-- A list or, if not `listed`, an object stands within too many others. -/
  | depth (listed : Bool)
deriving DecidableEq, Repr

/-- What is said about a problem. -/
def Problem.message : Problem → String
  | value => "Expecting value"
  | name => "Expecting property name enclosed in double quotes"
  | colon => "Expecting ':' delimiter"
  | comma => "Expecting ',' delimiter"
  | extra => "Extra data"
  | control => "Invalid control character at"
  | unterminated => "Unterminated string starting at"
  | escape => "Invalid \\escape"
  | unitEscape => "Invalid \\uXXXX escape"
  | mark => "Unexpected UTF-8 BOM (decode using utf-8-sig)"
  | digits n => "an integer of " ++ Nat.repr n ++ " digits"
  | depth listed => "a nested " ++ if listed then "list" else "object"

/-- What a text may hold at most. -/
structure Limits where
  /-- The number of digits of an integer. -/
  digits : Option Nat := none
  /-- The number of lists and objects that stand within each other. -/
  depth : Option Nat := none
deriving DecidableEq, Repr

/-- The limits within a list or an object, if there may be one. -/
def Limits.inside? (limits : Limits) : Option Limits :=
  match limits.depth with
  | none => some limits
  | some 0 => none
  | some (n + 1) => some { limits with depth := some n }

/-- A problem, and how many characters were left where it was found. -/
structure Stop where
  /-- The problem. -/
  problem : Problem
  /-- How many characters were left. -/
  left : Nat

/-- A step of the reader: what it read and the characters that it leaves. -/
abbrev Step (α : Type) := Except Stop (α × List Char)

/-- Stops in front of the given characters. -/
def stop {α : Type} (problem : Problem) (cs : List Char) : Except Stop α :=
  .error ⟨problem, cs.length⟩

/-- Whether a character is white space between the parts of a JSON text. -/
def isSpace (c : Char) : Bool := c == ' ' || c == '\t' || c == '\n' || c == '\r'

/-- The characters after white space. -/
def skipSpace (cs : List Char) : List Char := cs.dropWhile isSpace

/-- The character of an escape of one letter. -/
def escapeOf? (c : Char) : Option Char :=
  if c = '"' ∨ c = '\\' ∨ c = '/' then some c
  else if c = 'b' then some '\x08'
  else if c = 'f' then some '\x0c'
  else if c = 'n' then some '\n'
  else if c = 'r' then some '\r'
  else if c = 't' then some '\t'
  else none

/-- Reads the four digits of an escape, after its `u`.  Something has to follow them. -/
def readUnit (cs : List Char) : Step Nat :=
  match cs with
  | a :: b :: c :: d :: e :: rest =>
    match unitOf? [a, b, c, d] with
    | some n => .ok (n, e :: rest)
    | none => .error ⟨.unitEscape, cs.length + 1⟩
  | _ => .error ⟨.unitEscape, cs.length + 1⟩

/-- Reads an escape, after its backslash.  The text starts in front of `start`. -/
def readEscape (start cs : List Char) : Except Stop (Glyph × List Char) :=
  match cs with
  | [] => stop .unterminated start
  | 'u' :: rest => do
    let (n, rest) ← readUnit rest
    match rest with
    | '\\' :: 'u' :: more =>
      if isHighUnit n && !(more.drop 4).isEmpty then
        let (m, after) ← readUnit more
        if isLowUnit m then .ok (.char (charOfPair n m), after) else .ok (.ofPoint n, rest)
      else .ok (.ofPoint n, rest)
    | _ => .ok (.ofPoint n, rest)
  | c :: rest =>
    match escapeOf? c with
    | some e => .ok (.char e, rest)
    | none => .error ⟨.escape, cs.length + 1⟩

/-- Reads a text after its opening quote, in front of which `start` is left.  What was read is kept
in reverse.  Every round uses up a character, so that as many rounds as characters are enough. -/
def readText (start : List Char) : Nat → List Glyph → List Char → Step Value
  | 0, _, _ => stop .unterminated start
  | _ + 1, _, [] => stop .unterminated start
  | fuel + 1, before, c :: rest =>
    if c = '"' then .ok (.ofGlyphs before.reverse, rest)
    else if c = '\\' then
      match readEscape start rest with
      | .ok (e, rest) => readText start fuel (e :: before) rest
      | .error s => .error s
    else if c < ' ' then stop .control (c :: rest)
    else readText start fuel (.char c :: before) rest

/-- Reads a text from its opening quote on. -/
def readString (fuel : Nat) (cs : List Char) : Step Value := readText cs fuel [] (cs.drop 1)

/-- Reads the exponent of a number, if there is one. -/
def readExponent (cs : List Char) : Option Int × List Char :=
  match cs with
  | mark :: rest =>
    if mark = 'e' ∨ mark = 'E' then
      let (neg, body) := match rest with
        | '-' :: r => (true, r)
        | '+' :: r => (false, r)
        | r => (false, r)
      match body.span isAsciiDigit with
      | ([], _) => (none, cs)
      | (digits, after) =>
        let n := Int.ofNat (ofDigits 10 (digits.map fun c => c.toNat - 48))
        (some (if neg then -n else n), after)
    else (none, cs)
  | [] => (none, cs)

/-- Reads the digits after the point of a number, if there are any. -/
def readFraction (cs : List Char) : List Char × List Char :=
  match cs with
  | '.' :: rest =>
    match rest.span isAsciiDigit with
    | ([], _) => ([], cs)
    | found => found
  | _ => ([], cs)

/-- Reads a number.  A leading zero is a number of its own. -/
def readNumber (limits : Limits) (cs : List Char) : Step Value :=
  let (neg, body) := match cs with
    | '-' :: r => (true, r)
    | r => (false, r)
  let (whole, rest) := match body with
    | '0' :: r => (['0'], r)
    | r => r.span isAsciiDigit
  if whole.isEmpty then stop .value cs
  else
    let (fraction, rest) := readFraction rest
    let (exponent, rest) := readExponent rest
    let number := ofDigits 10 ((whole ++ fraction).map fun c => c.toNat - 48)
    if fraction.isEmpty && exponent.isNone then
      if limits.digits.any (· < whole.length) then stop (.digits whole.length) cs
      else .ok (.int (if neg then -Int.ofNat number else Int.ofNat number), rest)
    else
      let x := ofDecimal neg number (exponent.getD 0 - Int.ofNat fraction.length)
      .ok (.float x, rest)

/-- The names of values. -/
def keywords : List (String × Value) := [
  ("null", .null), ("true", .bool true), ("false", .bool false), ("NaN", .float notANumber),
  ("Infinity", .float (infinity false)), ("-Infinity", .float (infinity true))]

/-- Reads the name of a value. -/
def readKeyword? (cs : List Char) : Option (Value × List Char) :=
  keywords.findSome? fun (word, v) =>
    if word.toList.isPrefixOf cs then some (v, cs.drop word.length) else none

mutual

/-- Reads a value. -/
def readValue (limits : Limits) : Nat → List Char → Step Value
  | 0, cs => stop .value cs
  | fuel + 1, cs =>
    match cs with
    | '"' :: _ => readString (fuel + 1) cs
    | '\x7b' :: rest =>
      match limits.inside?, skipSpace rest with
      | none, _ => stop (.depth false) cs
      | some _, '\x7d' :: rest => .ok (.mapping [], rest)
      | some limits, rest => readEntries limits fuel [] rest
    | '[' :: rest =>
      match limits.inside?, skipSpace rest with
      | none, _ => stop (.depth true) cs
      | some _, ']' :: rest => .ok (.list [], rest)
      | some limits, rest => readItems limits fuel [] rest
    | cs =>
      match readKeyword? cs with
      | some found => .ok found
      | none => readNumber limits cs

/-- Reads the items of a list, from the first one to the closing bracket.  Those already read are
kept in reverse. -/
def readItems (limits : Limits) : Nat → List Value → List Char → Step Value
  | 0, _, cs => stop .value cs
  | fuel + 1, before, cs =>
    match readValue limits fuel cs with
    | .error s => .error s
    | .ok (v, rest) =>
      match skipSpace rest with
      | ']' :: rest => .ok (.list (v :: before).reverse, rest)
      | ',' :: rest => readItems limits fuel (v :: before) (skipSpace rest)
      | rest => stop .comma rest

/-- Reads the entries of an object, from the first name to the closing brace. -/
def readEntries (limits : Limits) : Nat → List (Value × Value) → List Char → Step Value
  | 0, _, cs => stop .value cs
  | fuel + 1, before, cs =>
    match cs with
    | '"' :: _ =>
      match readString (fuel + 1) cs with
      | .error s => .error s
      | .ok (name, rest) =>
        match skipSpace rest with
        | ':' :: rest =>
          match readValue limits fuel (skipSpace rest) with
          | .error s => .error s
          | .ok (v, rest) =>
            let entries := Value.put before name v
            match skipSpace rest with
            | '\x7d' :: rest => .ok (.mapping entries, rest)
            | ',' :: rest => readEntries limits fuel entries (skipSpace rest)
            | rest => stop .comma rest
        | rest => stop .colon rest
    | cs => stop .name cs

end

/-- Where and why a text is no JSON. -/
structure SyntaxFault where
  /-- The problem. -/
  problem : Problem
  /-- How many characters stand in front of it. -/
  position : Nat
  /-- The line in which it stands, from 1. -/
  line : Nat
  /-- The place within that line, from 1. -/
  column : Nat
deriving Repr

namespace SyntaxFault

/-- The fault at a position of a text. -/
def locate (problem : Problem) (cs : List Char) (position : Nat) : SyntaxFault :=
  let before := cs.take position
  let lastLine := before.reverse.takeWhile (· ≠ '\n')
  ⟨problem, position, before.count '\n' + 1, lastLine.length + 1⟩

/-- What is said about the fault. -/
def message (f : SyntaxFault) : String :=
  f.problem.message ++ ": line " ++ Nat.repr f.line ++ " column " ++ Nat.repr f.column ++
    " (char " ++ Nat.repr f.position ++ ")"

end SyntaxFault

/-- Reads a JSON text within limits.  Every nested value uses up a character, so that the number of
characters bounds the depth. -/
def readChars (limits : Limits) (cs : List Char) : Except Stop Value :=
  match cs with
  | '\ufeff' :: _ => stop .mark cs
  | cs => do
    let (v, rest) ← readValue limits (2 * cs.length + 2) (skipSpace cs)
    match skipSpace rest with
    | [] => .ok v
    | rest => stop .extra rest

/-- Reads a JSON text within limits. -/
def read (limits : Limits) (text : String) : Except SyntaxFault Value :=
  let cs := text.toList
  (readChars limits cs).mapError fun s => SyntaxFault.locate s.problem cs (cs.length - s.left)

end TableFeed.Json
