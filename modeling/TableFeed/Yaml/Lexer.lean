import TableFeed.Yaml.Token

/-!
# From characters to tokens

Most tokens are found where they stand.  A key is the exception: a node turns out to be one only
when a colon follows it on the same line.  Until that is decided, the node's tokens wait in a queue,
so that the mark of the key, and the start of the mapping that it may open, can be put in front of
them.  `tokens` lists the tokens in the order in which they leave the queue.
-/

namespace TableFeed.Yaml

/-- A node that may turn out to be a key. -/
structure PossibleKey where
  /-- The level of brackets at which it stands. -/
  level : Int
  /-- The number of its first token. -/
  number : Nat
  /-- Whether it has to be a key, since it starts a line of a mapping. -/
  required : Bool
  /-- The number of characters before it. -/
  index : Nat
  /-- The line on which it stands. -/
  line : Nat
  /-- The column at which it stands. -/
  column : Nat

/-- The state of the scanner. -/
structure Lexer where
  /-- The place that is reached. -/
  cursor : Cursor
  /-- The column of the innermost collection by indentation. -/
  indent : Int := -1
  /-- The columns of the collections around it, the innermost first. -/
  outer : List Int := []
  /-- The level of brackets.  Inside brackets, indentation counts nothing. -/
  level : Int := 0
  /-- Whether a key may start at the place. -/
  keyAllowed : Bool := true
  /-- The nodes that may turn out to be keys, at most one at each level. -/
  possible : List PossibleKey := []
  /-- The tokens that have not left the queue. -/
  queue : List Token := []
  /-- How many tokens have left the queue. -/
  taken : Nat := 0
  /-- Whether the end was reached. -/
  done : Bool := false

namespace Lexer

/-- Whether the place is inside brackets. -/
def inFlow (s : Lexer) : Bool := s.level != 0

/-- The state with more tokens at the end of the queue. -/
def push (s : Lexer) (tokens : List Token) : Lexer := { s with queue := s.queue ++ tokens }

/-- The state at another place. -/
def goTo (s : Lexer) (c : Cursor) : Lexer := { s with cursor := c }

/-- The state in which a key may start, or may not. -/
def allow (s : Lexer) (keyAllowed : Bool) : Lexer := { s with keyAllowed := keyAllowed }

/-- Whether a node can no longer be a key. -/
def isStale (s : Lexer) (k : PossibleKey) : Bool :=
  k.line != s.cursor.line || 1024 < s.cursor.index - k.index

/-- Gives up the nodes that can no longer be keys. -/
def dropStale (s : Lexer) : Except Fault Lexer :=
  if s.possible.any fun k => s.isStale k && k.required then refuse
  else .ok { s with possible := s.possible.filter fun k => !s.isStale k }

/-- Gives up the node at the level of the place. -/
def dropPossible (s : Lexer) : Except Fault Lexer :=
  if s.possible.any fun k => k.level == s.level && k.required then refuse
  else .ok { s with possible := s.possible.filter fun k => k.level != s.level }

/-- Notes that the node at the place may turn out to be a key. -/
def savePossible (s : Lexer) : Except Fault Lexer :=
  if s.keyAllowed then do
    let s ← s.dropPossible
    let required := !s.inFlow && s.indent == Int.ofNat s.cursor.column
    let c := s.cursor
    let k : PossibleKey :=
      ⟨s.level, s.taken + s.queue.length, required, c.index, c.line, c.column⟩
    .ok { s with possible := s.possible ++ [k] }
  else .ok s

/-- Ends the collections that stand further in than a column. -/
def unwindFrom (column : Int) : List Int → Lexer → Lexer
  | [], s => s
  | i :: outer, s =>
    if column < s.indent then
      unwindFrom column outer ({ s with indent := i, outer := outer }.push [.blockEnd])
    else s

/-- Ends the collections that stand further in than a column.  Inside brackets there are none. -/
def unwind (column : Int) (s : Lexer) : Lexer :=
  if s.inFlow then s else unwindFrom column s.outer s

/-- Opens a collection at a column, if it stands further in than the innermost one. -/
def openAt (s : Lexer) (column : Nat) : Bool × Lexer :=
  if s.indent < Int.ofNat column then
    (true, { s with indent := Int.ofNat column, outer := s.indent :: s.outer })
  else (false, s)

/-- Opens a collection at the place, and puts the token for its start into the queue. -/
def openHere (s : Lexer) (token : Token) : Lexer :=
  let (opened, s) := s.openAt s.cursor.column
  if opened then s.push [token] else s

/-- The spaces, comments and line ends in front of the next token. -/
def skipGaps : Nat → Lexer → Lexer
  | 0, s => s
  | fuel + 1, s =>
    let c := s.cursor.dropSpaces.dropComment
    match c.lineEnd? with
    | none => s.goTo c
    | some (_, c) => skipGaps fuel ((s.goTo c).allow (s.keyAllowed || !s.inFlow))

/-- Goes to the next token. -/
def toNextToken (s : Lexer) : Lexer :=
  let c := s.cursor
  let s := if c.index == 0 && c.peek == '\ufeff' then s.goTo c.next else s
  s.skipGaps s.cursor.bound

/-- The end of the document. -/
def fetchEnd (s : Lexer) : Except Fault Lexer := do
  let s ← (s.unwind (-1)).dropPossible
  .ok ({ s with keyAllowed := false, possible := [], done := true }.push [.streamEnd])

/-- A directive. -/
def fetchDirective (s : Lexer) : Except Fault Lexer := do
  let s ← (s.unwind (-1)).dropPossible
  let (token, c) ← scanDirective s.cursor
  .ok (((s.allow false).goTo c).push [token])

/-- A mark between documents. -/
def fetchSeparator (s : Lexer) (token : Token) : Except Fault Lexer := do
  let s ← (s.unwind (-1)).dropPossible
  .ok (((s.allow false).goTo (s.cursor.skip 3)).push [token])

/-- The start of a collection in brackets. -/
def fetchOpening (s : Lexer) (token : Token) : Except Fault Lexer := do
  let s ← s.savePossible
  .ok ({ s with level := s.level + 1, keyAllowed := true, cursor := s.cursor.next }.push [token])

/-- The end of a collection in brackets. -/
def fetchClosing (s : Lexer) (token : Token) : Except Fault Lexer := do
  let s ← s.dropPossible
  .ok ({ s with level := s.level - 1, keyAllowed := false, cursor := s.cursor.next }.push [token])

/-- A comma in brackets. -/
def fetchComma (s : Lexer) : Except Fault Lexer := do
  let s ← (s.allow true).dropPossible
  .ok ((s.goTo s.cursor.next).push [.comma])

/-- The mark of an item. -/
def fetchItem (s : Lexer) : Except Fault Lexer := do
  let s ←
    if s.inFlow then pure s
    else if s.keyAllowed then pure (s.openHere .blockList)
    else refuse
  let s ← (s.allow true).dropPossible
  .ok ((s.goTo s.cursor.next).push [.item])

/-- The mark of a key. -/
def fetchKey (s : Lexer) : Except Fault Lexer := do
  let s ←
    if s.inFlow then pure s
    else if s.keyAllowed then pure (s.openHere .blockMapping)
    else refuse
  let s ← (s.allow !s.inFlow).dropPossible
  .ok ((s.goTo s.cursor.next).push [.key])

/-- The state in which a node that may be a key has turned out to be one. -/
def settleKey (s : Lexer) (k : PossibleKey) : Lexer :=
  let place := k.number - s.taken
  let s := { s with possible := s.possible.filter fun k => k.level != s.level }
  let (opened, s) := if s.inFlow then (false, s) else s.openAt k.column
  let tokens := if opened then [.blockMapping, .key] else [.key]
  { s with queue := s.queue.take place ++ tokens ++ s.queue.drop place, keyAllowed := false }

/-- The mark of a value. -/
def fetchValue (s : Lexer) : Except Fault Lexer := do
  let s ← match s.possible.find? fun k => k.level == s.level with
    | some k => pure (s.settleKey k)
    | none =>
      if s.inFlow then (s.allow false).dropPossible
      else if s.keyAllowed then ((s.openHere .blockMapping).allow true).dropPossible
      else refuse
  .ok ((s.goTo s.cursor.next).push [.value])

/-- A token that a key may start with. -/
def fetchNode (s : Lexer) (scan : Cursor → Except Fault (Token × Cursor)) :
    Except Fault Lexer := do
  let s ← s.savePossible
  let (token, c) ← scan s.cursor
  .ok (((s.allow false).goTo c).push [token])

/-- A scalar that is written as a block. -/
def fetchBlock (s : Lexer) (fold : Bool) : Except Fault Lexer := do
  let s ← (s.allow true).dropPossible
  let (text, c) ← scanBlock fold s.indent s.cursor
  .ok ((s.goTo c).push [.scalar (text.map .char) false])

/-- A plain scalar. -/
def fetchPlain (s : Lexer) : Except Fault Lexer := do
  let s ← s.savePossible
  let (text, ended, c) := scanPlain s.inFlow (s.indent + 1) s.cursor
  .ok (((s.allow ended).goTo c).push [.scalar (text.map .char) true])

/-- Whether a plain scalar may start at a place. -/
def mayStartPlain (flow : Bool) (c : Cursor) : Bool :=
  let a := c.peek
  !(isGap a || "-?:,[]\x7b\x7d#&*!|>'\"%@\x60".contains a) ||
    (!isGap (c.peekAt 1) && (a == '-' || (!flow && (a == '?' || a == ':'))))

/-- Whether the mark of a key or of a value stands at a place. -/
def isMark (flow : Bool) (c : Cursor) : Bool := flow || isGap (c.peekAt 1)

/-- Reads the token at the place. -/
def fetchHere (s : Lexer) : Except Fault Lexer :=
  let c := s.cursor
  let a := c.peek
  let start := c.column == 0
  if c.rest.isEmpty then s.fetchEnd
  else if a == '%' && start then s.fetchDirective
  else if start && c.atMarks '-' then s.fetchSeparator .documentStart
  else if start && c.atMarks '.' then s.fetchSeparator .documentEnd
  else if a == '[' then s.fetchOpening .flowList
  else if a == '\x7b' then s.fetchOpening .flowMapping
  else if a == ']' then s.fetchClosing .flowListEnd
  else if a == '\x7d' then s.fetchClosing .flowMappingEnd
  else if a == ',' then s.fetchComma
  else if a == '-' && isGap (c.peekAt 1) then s.fetchItem
  else if a == '?' && isMark s.inFlow c then s.fetchKey
  else if a == ':' && isMark s.inFlow c then s.fetchValue
  else if a == '*' then
    s.fetchNode fun c => (scanName c.next).map fun (name, c) => (.alias name, c)
  else if a == '&' then
    s.fetchNode fun c => (scanName c.next).map fun (name, c) => (.anchor name, c)
  else if a == '!' then s.fetchNode fun c => (scanTag c).map fun (tag, c) => (.tag tag, c)
  else if a == '|' && !s.inFlow then s.fetchBlock false
  else if a == '>' && !s.inFlow then s.fetchBlock true
  else if a == '\x27' || a == '"' then
    s.fetchNode fun c => (scanQuoted c).map fun (text, c) => (.scalar text false, c)
  else if mayStartPlain s.inFlow c then s.fetchPlain
  else refuse

/-- Reads the next token into the queue. -/
def fetch (s : Lexer) : Except Fault Lexer := do
  let s ← s.toNextToken.dropStale
  (s.unwind (Int.ofNat s.cursor.column)).fetchHere

/-- Whether the first token of the queue may still change. -/
def needsMore (s : Lexer) : Bool :=
  s.queue.isEmpty || s.possible.any fun k => k.number == s.taken

end Lexer

/-- Tokens, and the fault after the last of them, if there is one. -/
structure Tokens where
  /-- The tokens. -/
  list : List Token
  /-- The fault. -/
  fault : Option Fault

/-- The tokens that leave the queue from a state on, after those before, the last one first. -/
def Lexer.run : Nat → List Token → Lexer → Tokens
  | 0, before, _ => ⟨before.reverse, none⟩
  | fuel + 1, before, s =>
    match s.queue with
    | [] =>
      if s.done then ⟨before.reverse, none⟩
      else match s.fetch with
        | .error f => ⟨before.reverse, some f⟩
        | .ok s => run fuel before s
    | token :: queue =>
      if s.done then run fuel (token :: before) { s with queue := queue, taken := s.taken + 1 }
      else match s.dropStale with
        | .error f => ⟨before.reverse, some f⟩
        | .ok s =>
          if s.needsMore then
            match s.fetch with
            | .error f => ⟨before.reverse, some f⟩
            | .ok s => run fuel before s
          else run fuel (token :: before) { s with queue := queue, taken := s.taken + 1 }

/-- The tokens of a document.  A round of the scanner reads a character or hands out a token, and a
character gives at most four tokens. -/
def tokens (cs : List Char) : Tokens :=
  Lexer.run (8 * cs.length + 16) [] { cursor := Cursor.ofText cs }

end TableFeed.Yaml
