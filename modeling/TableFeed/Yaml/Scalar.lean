import TableFeed.Text.Glyph
import TableFeed.Text.Utf8
import TableFeed.Yaml.Cursor

/-!
# Scalars

The text of a scalar is written plainly, between quotes, or as an indented block.  In the first two
forms a line end is folded into a space; a block keeps its line ends or folds them.
-/

namespace TableFeed.Yaml

open Text

/-! ### Plain scalars -/

/-- Whether a plain scalar stops in front of the place that is some way ahead.  `flow` says whether
it stands in a bracketed collection. -/
def stopsPlain (flow : Bool) (a b : Char) : Bool :=
  isGap a || (a == ':' && (isGap b || (flow && ",[]\x7b\x7d".contains b))) ||
    (flow && ",?[]\x7b\x7d".contains a)

/-- How many of some characters belong to a plain scalar. -/
def plainLength (flow : Bool) : List Char → Nat
  | [] => 0
  | a :: rest => if stopsPlain flow a (rest.headD ending) then 0 else plainLength flow rest + 1

/-- Line ends, with the spaces around them, in a plain scalar.  There is nothing to answer with if
the document ends there. -/
def plainBreaks : Nat → List Char → Cursor → Option (List Char) × Cursor
  | 0, before, c => (some before.reverse, c)
  | fuel + 1, before, c =>
    if c.peek == ' ' then plainBreaks fuel before c.next
    else match c.lineEnd? with
      | none => (some before.reverse, c)
      | some (a, c) => if c.atSeparator then (none, c) else plainBreaks fuel (a :: before) c

/-- What a line end and the line ends after it amount to. -/
def folded (first : Char) (more : List Char) : List Char :=
  if first != '\n' then first :: more else if more.isEmpty then [' '] else more

/-- The spaces and line ends after a piece of a plain scalar.  The answer says whether a line has
ended. -/
def plainSpaces (c : Cursor) : List Char × Bool × Cursor :=
  let (spaces, c) := c.span (· == ' ')
  match c.lineEnd? with
  | none => (spaces, false, c)
  | some (a, c) =>
    if c.atSeparator then ([], true, c)
    else match plainBreaks c.bound [] c with
      | (none, c) => ([], true, c)
      | (some more, c) => (folded a more, true, c)

/-- The pieces of a plain scalar, after the text before them, its last character first.  The answer
has the text, the place after it and whether a line has ended since its last piece. -/
def plainPieces (flow : Bool) (indent : Int) :
    Nat → List Char → List Char → Bool → Cursor → List Char × Bool × Cursor
  | 0, before, _, ended, c => (before.reverse, ended, c)
  | fuel + 1, before, spaces, ended, c =>
    let n := plainLength flow c.rest
    if c.peek == '#' || n == 0 then (before.reverse, ended, c)
    else
      let before := (c.rest.take n).reverse ++ (spaces.reverse ++ before)
      let (spaces, ended, c) := plainSpaces (c.skip n)
      if spaces.isEmpty || c.peek == '#' || (!flow && Int.ofNat c.column < indent) then
        (before.reverse, ended, c)
      else plainPieces flow indent fuel before spaces ended c

/-- Reads a plain scalar within an indentation. -/
def scanPlain (flow : Bool) (indent : Int) (c : Cursor) : List Char × Bool × Cursor :=
  plainPieces flow indent c.bound [] [] false c

/-! ### Quoted scalars -/

/-- The characters that one letter after a backslash stands for. -/
def letterEscapes : List (Char × Char) := [
  ('0', '\x00'), ('a', '\x07'), ('b', '\x08'), ('t', '\t'), ('\t', '\t'), ('n', '\n'),
  ('v', '\x0b'), ('f', '\x0c'), ('r', '\r'), ('e', '\x1b'), (' ', ' '), ('"', '"'), ('\\', '\\'),
  ('/', '/'), ('N', '\x85'), ('_', '\xa0'), ('L', '\u2028'), ('P', '\u2029')]

/-- How many digits follow a letter that announces them. -/
def digitEscape? : Char → Option Nat
  | 'x' => some 2
  | 'u' => some 4
  | 'U' => some 8
  | _ => none

/-- The number that some digits in base sixteen write at a place. -/
def numberAt? (count : Nat) (c : Cursor) : Option Nat :=
  let digits := c.rest.take count
  if digits.length = count then unitOf? digits else none

/-- Reads the digits of an escape.  Half of a pair stays what it is, whatever follows. -/
def scanNumber (count : Nat) (c : Cursor) : Except Fault (List Glyph × Cursor) :=
  match numberAt? count c with
  | none => refuse
  | some n =>
    if 0x110000 ≤ n then .error (.scalar (.codePoint n)) else .ok ([.ofPoint n], c.skip count)

/-- Line ends, with the blanks around them, in a quoted scalar. -/
def quotedBreaks : Nat → List Char → Cursor → Except Fault (List Char × Cursor)
  | 0, _, _ => refuse
  | fuel + 1, before, c =>
    if c.atSeparator then refuse
    else
      let c := c.dropWhile fun a => a == ' ' || a == '\t'
      match c.lineEnd? with
      | some (a, c) => quotedBreaks fuel (a :: before) c
      | none => .ok (before.reverse, c)

/-- What follows a backslash in a quoted scalar. -/
def scanEscape (c : Cursor) : Except Fault (List Glyph × Cursor) :=
  let a := c.peek
  match letterEscapes.lookup a with
  | some b => .ok ([.char b], c.next)
  | none =>
    match digitEscape? a with
    | some count => scanNumber count c.next
    | none =>
      match c.lineEnd? with
      | some (_, c) => (quotedBreaks c.bound [] c).map fun (ends, c) => (ends.map .char, c)
      | none => refuse

/-- Whether a character of a quoted scalar stands for itself. -/
def isOrdinary (a : Char) : Bool :=
  !(a == '\x27' || a == '"' || a == '\\' || isGap a)

/-- The characters of a quoted scalar up to the next blank, line end or closing quote, after the
text before them.  The text has its last character first. -/
def quotedWord (quote : Char) : Nat → List Glyph → Cursor → Except Fault (List Glyph × Cursor)
  | 0, before, c => .ok (before, c)
  | fuel + 1, before, c =>
    let (plain, c) := c.span isOrdinary
    let before := (plain.reverse.map .char) ++ before
    let a := c.peek
    if quote == '"' && a == '\\' then
      match scanEscape c.next with
      | .error f => .error f
      | .ok (more, c) => quotedWord quote fuel (more.reverse ++ before) c
    else if a == quote then
      if quote == '\x27' && c.peekAt 1 == quote then
        quotedWord quote fuel (.char a :: before) (c.skip 2)
      else .ok (before, c)
    else if a == '\x27' || a == '"' || a == '\\' then
      quotedWord quote fuel (.char a :: before) c.next
    else .ok (before, c)

/-- The blanks and line ends between two words of a quoted scalar. -/
def quotedSpaces (c : Cursor) : Except Fault (List Char × Cursor) :=
  let (blanks, c) := c.span fun a => a == ' ' || a == '\t'
  if c.rest.isEmpty then refuse
  else match c.lineEnd? with
    | none => .ok (blanks, c)
    | some (a, c) => do
      let (more, c) ← quotedBreaks c.bound [] c
      .ok (folded a more, c)

/-- The words of a quoted scalar and what stands between them, up to the closing quote, after the
text before them, its last character first. -/
def quotedWords (quote : Char) : Nat → List Glyph → Cursor → Except Fault (List Glyph × Cursor)
  | 0, _, _ => refuse
  | fuel + 1, before, c =>
    match quotedWord quote c.bound before c with
    | .error f => .error f
    | .ok (before, c) =>
      if c.peek == quote then .ok (before.reverse, c.next)
      else match quotedSpaces c with
        | .error f => .error f
        | .ok (spaces, c) => quotedWords quote fuel (spaces.reverse.map .char ++ before) c

/-- Reads a quoted scalar. -/
def scanQuoted (c : Cursor) : Except Fault (List Glyph × Cursor) :=
  quotedWords c.peek c.bound [] c.next

/-! ### Block scalars -/

/-- What becomes of the line ends at the end of a block. -/
inductive Chomping where
  /-- One stays. -/
  | clip
  /-- None stays. -/
  | strip
  /-- All stay. -/
  | keep

/-- The sign that says what becomes of the line ends at the end. -/
def chomping? : Char → Option Chomping
  | '+' => some .keep
  | '-' => some .strip
  | _ => none

/-- Reads the digit that gives the indentation of a block, if there is one.  It may not be zero. -/
def scanIncrement (c : Cursor) : Except Fault (Option Nat × Cursor) :=
  match baseDigit? 10 c.peek with
  | none => .ok (none, c)
  | some 0 => refuse
  | some n => .ok (some n, c.next)

/-- Reads the signs after the mark of a block. -/
def scanBlockSigns (c : Cursor) : Except Fault ((Chomping × Option Nat) × Cursor) := do
  let (signs, c) ← match chomping? c.peek with
    | some chomping => do
      let (n, c) ← scanIncrement c.next
      pure ((chomping, n), c)
    | none => do
      let (n, c) ← scanIncrement c
      match n.bind fun _ => chomping? c.peek with
      | some chomping => pure ((chomping, n), c.next)
      | none => pure ((.clip, n), c)
  if isSpaceOrEnd c.peek then .ok (signs, c) else refuse

/-- The rest of the line after the signs of a block, which holds at most a comment. -/
def scanIgnoredLine (c : Cursor) : Except Fault Cursor :=
  let c := c.dropSpaces.dropComment
  match c.lineEnd? with
  | some (_, c) => .ok c
  | none => if c.rest.isEmpty then .ok c else refuse

/-- The empty lines at the start of a block, and the largest indentation among them and the first
line. -/
def blockIndent : Nat → List Char → Nat → Cursor → List Char × Nat × Cursor
  | 0, before, widest, c => (before.reverse, widest, c)
  | fuel + 1, before, widest, c =>
    if c.peek == ' ' then blockIndent fuel before (max widest c.next.column) c.next
    else match c.lineEnd? with
      | some (a, c) => blockIndent fuel (a :: before) widest c
      | none => (before.reverse, widest, c)

/-- The place after the spaces of an indentation. -/
def dropIndent (indent : Nat) (c : Cursor) : Cursor :=
  c.skip (min (indent - c.column) (c.rest.takeWhile (· == ' ')).length)

/-- The empty lines in a block of a given indentation. -/
def blockBreaks (indent : Nat) : Nat → List Char → Cursor → List Char × Cursor
  | 0, before, c => (before.reverse, c)
  | fuel + 1, before, c =>
    let c := dropIndent indent c
    match c.lineEnd? with
    | some (a, c) => blockBreaks indent fuel (a :: before) c
    | none => (before.reverse, c)

/-- A block as it was read: its text, the last line end and the empty lines after that. -/
structure BlockText where
  /-- The text up to the end of the last line that is not empty, its last character first. -/
  before : List Char := []
  /-- The line end there. -/
  last : List Char := []
  /-- The empty lines after it. -/
  tail : List Char

/-- Whether a character is a space or a tab. -/
def isBlankChar (a : Char) : Bool := a == ' ' || a == '\t'

/-- The lines of a block. -/
def blockLines (fold : Bool) (indent : Nat) : Nat → BlockText → Cursor → BlockText × Cursor
  | 0, b, c => (b, c)
  | fuel + 1, b, c =>
    if c.column != indent || c.rest.isEmpty then (b, c)
    else
      let leads := !isBlankChar c.peek
      let (line, c) := c.span fun a => !isBreakOrEnd a
      let before := line.reverse ++ (b.tail.reverse ++ b.before)
      let (last, c) := match c.lineEnd? with
        | some (a, c) => ([a], c)
        | none => ([], c)
      let (tail, c) := blockBreaks indent c.bound [] c
      if c.column == indent && !c.rest.isEmpty then
        let joint :=
          if fold && last == ['\n'] && leads && !isBlankChar c.peek then
            if tail.isEmpty then [' '] else []
          else last
        blockLines fold indent fuel ⟨joint ++ before, last, tail⟩ c
      else (⟨before, last, tail⟩, c)

/-- The text of a block, with the line ends at its end that are to stay. -/
def BlockText.chomped (b : BlockText) : Chomping → List Char
  | .clip => b.before.reverse ++ b.last
  | .strip => b.before.reverse
  | .keep => b.before.reverse ++ b.last ++ b.tail

/-- Reads a block scalar within an indentation. -/
def scanBlock (fold : Bool) (indent : Int) (c : Cursor) : Except Fault (List Char × Cursor) := do
  let ((chomping, increment), c) ← scanBlockSigns c.next
  let c ← scanIgnoredLine c
  let least := (max (indent + 1) 1).toNat
  let fuel := c.bound
  let (tail, width, c) := match increment with
    | none =>
      let (tail, widest, c) := blockIndent fuel [] 0 c
      (tail, max least widest, c)
    | some n =>
      let width := least + n - 1
      let (tail, c) := blockBreaks width fuel [] c
      (tail, width, c)
  let (b, c) := blockLines fold width fuel ⟨[], [], tail⟩ c
  .ok (b.chomped chomping, c)

end TableFeed.Yaml
