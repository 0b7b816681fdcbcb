import TableFeed.Yaml.Scalar

/-!
# Tokens

The words of a document: the marks between documents, the borders of collections, the marks of
their entries, and the scalars with their names and tags.  The borders of collections that are
written by indentation are tokens too, although nothing is written in their place.
-/

namespace TableFeed.Yaml

open Text

/-- A tag as it is written: a handle that stands for the start of the tag, and the rest. -/
structure TagText where
  /-- The handle, if there is one. -/
  handle : Option String
  /-- The rest. -/
  suffix : String
deriving DecidableEq, Repr

/-- A word of a document. -/
inductive Token where
  /-- The version of the document. -/
  | version (major : Nat)
  /-- A handle for tags, and what it stands for. -/
  | handle (name target : String)
  /-- A directive without effect. -/
  | directive
  /-- The mark in front of a document. -/
  | documentStart
  /-- The mark after a document. -/
  | documentEnd
  /-- The end. -/
  | streamEnd
  /-- A list by indentation starts. -/
  | blockList
  /-- A mapping by indentation starts. -/
  | blockMapping
  /-- A collection by indentation ends. -/
  | blockEnd
  /-- A list in brackets starts. -/
  | flowList
  /-- A list in brackets ends. -/
  | flowListEnd
  /-- A mapping in brackets starts. -/
  | flowMapping
  /-- A mapping in brackets ends. -/
  | flowMappingEnd
  /-- The comma in brackets. -/
  | comma
  /-- The mark of an item. -/
  | item
  /-- The mark of a key. -/
  | key
  /-- The mark of a value. -/
  | value
  /-- A node that is repeated. -/
  | alias (name : String)
  /-- The name of a node. -/
  | anchor (name : String)
  /-- The tag of a node. -/
  | tag (tag : TagText)
  /-- A scalar; `plain` if it is written without quotes and not as a block. -/
  | scalar (text : List Glyph) (plain : Bool)
deriving DecidableEq, Repr

/-! ### Names -/

/-- Reads the name of a node, after the mark that announces it. -/
def scanName (c : Cursor) : Except Fault (String × Cursor) :=
  let (name, c) := c.span isNameChar
  if name.isEmpty then refuse
  else if isGap c.peek || "?:,]\x7d%@\x60".contains c.peek then .ok (String.ofList name, c)
  else refuse

/-! ### Tags -/

/-- Whether a character may stand in the rest of a tag as it is. -/
def isTagChar (a : Char) : Bool := a.isAlphanum || "-;/?:@&=+$,_.!~*'()[]".contains a

/-- Reads octets that are written by two digits after a mark each. -/
def scanOctets : Nat → List UInt8 → Cursor → Except Fault (List UInt8 × Cursor)
  | 0, before, c => .ok (before.reverse, c)
  | fuel + 1, before, c =>
    if c.peek != '%' then .ok (before.reverse, c)
    else match baseDigit? 16 (c.peekAt 1), baseDigit? 16 (c.peekAt 2) with
      | some a, some b => scanOctets fuel (UInt8.ofNat (a * 16 + b) :: before) (c.skip 3)
      | _, _ => refuse

/-- Reads pieces of the rest of a tag. -/
def tagPieces : Nat → List Char → Cursor → Except Fault (List Char × Cursor)
  | 0, text, c => .ok (text, c)
  | fuel + 1, text, c =>
    let (plain, c) := c.span isTagChar
    let text := text ++ plain
    if c.peek != '%' then .ok (text, c)
    else match scanOctets c.bound [] c with
      | .error f => .error f
      | .ok (octets, c) =>
        match decodeWhole octets with
        | .error _ => refuse
        | .ok more => tagPieces fuel (text ++ more) c

/-- Reads the rest of a tag, which may not be empty. -/
def scanTagRest (c : Cursor) : Except Fault (String × Cursor) := do
  let (text, after) ← tagPieces c.bound [] c
  if after.index = c.index then refuse else .ok (String.ofList text, after)

/-- Reads a handle: a mark alone, or a name between two marks. -/
def scanHandle (c : Cursor) : Except Fault (String × Cursor) :=
  if c.peek != '!' then refuse
  else if c.peekAt 1 == ' ' then .ok ("!", c.next)
  else
    let (name, after) := c.next.span isNameChar
    if after.peek == '!' then .ok (String.ofList ('!' :: name ++ ['!']), after.next) else refuse

/-- Whether a second mark stands in a tag before the next space. -/
def hasHandle (cs : List Char) : Bool :=
  (cs.drop 1 |>.takeWhile fun a => !isSpaceOrEnd a).contains '!'

/-- Reads a tag. -/
def scanTag (c : Cursor) : Except Fault (TagText × Cursor) := do
  let (tag, c) ←
    if c.peekAt 1 == '<' then do
      let (suffix, c) ← scanTagRest (c.skip 2)
      if c.peek == '>' then pure (TagText.mk none suffix, c.next) else refuse
    else if isGap (c.peekAt 1) then pure (TagText.mk none "!", c.next)
    else do
      let (handle, c) ← if hasHandle c.rest then scanHandle c else pure ("!", c.next)
      let (suffix, c) ← scanTagRest c
      pure (TagText.mk (some handle) suffix, c)
  if isSpaceOrEnd c.peek then .ok (tag, c) else refuse

/-! ### Directives -/

/-- Reads a number of a version. -/
def scanVersionNumber (c : Cursor) : Except Fault (Nat × Cursor) :=
  let (digits, c) := c.span isAsciiDigit
  if digits.isEmpty then refuse
  else if Number.digitLimit < digits.length then
    .error (.scalar (.value (.unreadable digits.length)))
  else .ok (ofDigits 10 (digits.map fun a => a.toNat - 48), c)

/-- Reads the version of a document. -/
def scanVersion (c : Cursor) : Except Fault (Token × Cursor) := do
  let (major, c) ← scanVersionNumber c.dropSpaces
  if c.peek != '.' then refuse
  let (_, c) ← scanVersionNumber c.next
  if isSpaceOrEnd c.peek then .ok (.version major, c) else refuse

/-- Reads a handle and what it stands for. -/
def scanHandleTarget (c : Cursor) : Except Fault (Token × Cursor) := do
  let (name, c) ← scanHandle c.dropSpaces
  if c.peek != ' ' then refuse
  let (target, c) ← scanTagRest c.dropSpaces
  if isSpaceOrEnd c.peek then .ok (.handle name target, c) else refuse

/-- Reads a directive, from its mark to the end of its line. -/
def scanDirective (c : Cursor) : Except Fault (Token × Cursor) := do
  let (name, c) := c.next.span isNameChar
  if name.isEmpty || !isSpaceOrEnd c.peek then refuse
  let (token, c) ←
    if name = "YAML".toList then scanVersion c
    else if name = "TAG".toList then scanHandleTarget c
    else pure (.directive, c.dropWhile fun a => !isBreakOrEnd a)
  .ok (token, ← scanIgnoredLine c)

end TableFeed.Yaml
