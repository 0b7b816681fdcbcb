import TableFeed.Yaml.Lexer

/-!
# From tokens to events

The events of a document are its nodes in the order in which they start, with the ends of the
collections among them.  What may come next depends on the collections that are open; each has a
state that says where in it the reading stands.
-/

namespace TableFeed.Yaml

/-- What a node says of itself. -/
structure Properties where
  /-- Its name, if it has one. -/
  anchor : Option String := none
  /-- Its tag, if it has one. -/
  tag : Option String := none

/-- A step through a document. -/
inductive Event where
  /-- A document starts. -/
  | documentStart
  /-- A document ends. -/
  | documentEnd
  /-- There is nothing more. -/
  | streamEnd
  /-- A node is repeated. -/
  | alias (name : String)
  /-- A scalar; if `open`, its kind shows in its text. -/
  | scalar (properties : Properties) (text : List Text.Glyph) (isOpen : Bool)
  /-- A list starts. -/
  | listStart (properties : Properties)
  /-- A list ends. -/
  | listEnd
  /-- A mapping starts. -/
  | mappingStart (properties : Properties)
  /-- A mapping ends. -/
  | mappingEnd

/-- Where in a document the reading stands. -/
inductive Expecting where
  /-- At the start. -/
  | firstDocument
  /-- Between two documents. -/
  | document
  /-- At the end of a document. -/
  | documentEnd
  /-- At the start of a document that was announced. -/
  | content
  /-- In front of a node. -/
  | node
  /-- In front of an item of a list by indentation. -/
  | item
  /-- In front of an item of a list that stands as far out as the mapping around it. -/
  | bareItem
  /-- In front of a key of a mapping by indentation. -/
  | key
  /-- In front of a value of a mapping by indentation. -/
  | value
  /-- In front of an item of a list in brackets, which may be the first. -/
  | flowItem (first : Bool)
  /-- In front of the key of a pair in a list in brackets. -/
  | pairKey
  /-- In front of the value of a pair in a list in brackets. -/
  | pairValue
  /-- At the end of a pair in a list in brackets. -/
  | pairEnd
  /-- In front of a key of a mapping in brackets, which may be the first. -/
  | flowKey (first : Bool)
  /-- In front of a value of a mapping in brackets. -/
  | flowValue
  /-- After a key of a mapping in brackets that has no value. -/
  | flowNoValue
  /-- At the end. -/
  | nothing
deriving DecidableEq

/-- The state of the reading. -/
structure Parser where
  /-- The tokens that are left. -/
  tokens : List Token
  /-- The fault after them. -/
  fault : Option Fault
  /-- Where the reading stands. -/
  expecting : Expecting := .firstDocument
  /-- Where it will stand when the collections that are open have ended, the innermost first. -/
  stack : List Expecting := []
  /-- The handles for tags. -/
  handles : List (String × String) := []

namespace Parser

/-- The handles that hold everywhere. -/
def standardHandles : List (String × String) := [("!", "!"), ("!!", "tag:yaml.org,2002:")]

/-- Stops for want of an event. -/
def refuse {α : Type} : Except Fault α := .error (.refused .events)

/-- The next token. -/
def peek (p : Parser) : Except Fault Token :=
  match p.tokens with
  | t :: _ => .ok t
  | [] => .error (p.fault.getD (.refused .tokens))

/-- The state after the next token. -/
def drop (p : Parser) : Parser := { p with tokens := p.tokens.drop 1 }

/-- The state that expects something else. -/
def expect (p : Parser) (e : Expecting) : Parser := { p with expecting := e }

/-- The state that expects what the collection around it does. -/
def pop (p : Parser) : Parser :=
  match p.stack with
  | e :: stack => { p with expecting := e, stack := stack }
  | [] => { p with expecting := .nothing }

/-- The state in which a node comes next, and then something else. -/
def push (p : Parser) (e : Expecting) : Parser := { p with stack := e :: p.stack }

/-- The scalar that stands where nothing is written. -/
def emptyScalar : Event := .scalar {} [] true

/-- Takes the name of a node, if it comes next. -/
def takeAnchor (p : Parser) : Except Fault (Option String × Parser) := do
  match ← p.peek with
  | .anchor name => .ok (some name, p.drop)
  | _ => .ok (none, p)

/-- Takes the tag of a node, if it comes next. -/
def takeTag (p : Parser) : Except Fault (Option TagText × Parser) := do
  match ← p.peek with
  | .tag t => .ok (some t, p.drop)
  | _ => .ok (none, p)

/-- Takes the name and the tag of a node, in either order. -/
def takeProperties (p : Parser) : Except Fault (Option String × Option TagText × Parser) := do
  match ← p.takeAnchor with
  | (some name, p) =>
    let (tag, p) ← p.takeTag
    .ok (some name, tag, p)
  | (none, p) =>
    match ← p.takeTag with
    | (none, p) => .ok (none, none, p)
    | (some tag, p) =>
      let (name, p) ← p.takeAnchor
      .ok (name, some tag, p)

/-- The tag that a written tag stands for. -/
def resolveTag (p : Parser) (tag : TagText) : Except Fault String :=
  match tag.handle with
  | none => .ok tag.suffix
  | some handle =>
    match p.handles.lookup handle with
    | some target => .ok (target ++ tag.suffix)
    | none => refuse

/-- The events that start a node.  `block` says whether the node may be written by indentation, and
`bare` whether it may be a list that stands as far out as the mapping around it. -/
def node (p : Parser) (block bare : Bool) : Except Fault (Event × Parser) := do
  match ← p.peek with
  | .alias name => .ok (.alias name, p.drop.pop)
  | _ =>
    let (anchor, written, p) ← p.takeProperties
    let tag ← match written with
      | none => pure none
      | some t => (p.resolveTag t).map some
    let isOpen := tag.all (· == "!")
    let properties : Properties := ⟨anchor, tag.filter (· != "!")⟩
    match ← p.peek with
    | .item =>
      if bare then .ok (.listStart properties, p.expect .bareItem)
      else if anchor.isSome || tag.isSome then .ok (.scalar properties [] isOpen, p.pop)
      else refuse
    | .scalar text plain =>
      .ok (.scalar properties text (if tag.isNone then plain else isOpen), p.drop.pop)
    | .flowList => .ok (.listStart properties, p.drop.expect (.flowItem true))
    | .flowMapping => .ok (.mappingStart properties, p.drop.expect (.flowKey true))
    | token =>
      if block && token = .blockList then .ok (.listStart properties, p.drop.expect .item)
      else if block && token = .blockMapping then .ok (.mappingStart properties, p.drop.expect .key)
      else if anchor.isSome || tag.isSome then .ok (.scalar properties [] isOpen, p.pop)
      else refuse

/-- The version and the handles that a document announces. -/
def directives (versioned : Bool) : Nat → Parser → Except Fault Parser
  | 0, p => .ok p
  | fuel + 1, p => do
    match ← p.peek with
    | .version major => if versioned || major != 1 then refuse else directives true fuel p.drop
    | .handle name target =>
      if (p.handles.lookup name).isSome then refuse
      else directives versioned fuel { p.drop with handles := p.handles ++ [(name, target)] }
    | .directive => directives versioned fuel p.drop
    | _ => .ok p

/-- The state after the marks at the end of a document. -/
def dropEnds : Nat → Parser → Except Fault Parser
  | 0, p => .ok p
  | fuel + 1, p => do
    match ← p.peek with
    | .documentEnd => dropEnds fuel p.drop
    | _ => .ok p

/-- The start of a document that is announced, or the end. -/
def document (p : Parser) : Except Fault (Event × Parser) := do
  let p ← dropEnds (p.tokens.length + 1) p
  if (← p.peek) = .streamEnd then .ok (.streamEnd, p.drop.expect .nothing)
  else
    let p ← directives false (p.tokens.length + 1) { p with handles := [] }
    if (← p.peek) = .documentStart then
      let p := { p with handles := p.handles ++ standardHandles }
      .ok (.documentStart, (p.drop.push .documentEnd).expect .content)
    else refuse

/-- What stands where a node may be left out: nothing, if one of some tokens comes next. -/
def nodeUnless (p : Parser) (stops : List Token) (after : Expecting) (block bare : Bool) :
    Except Fault (Event × Parser) := do
  if stops.contains (← p.peek) then .ok (emptyScalar, p.expect after)
  else (p.push after).node block bare

/-- An item of a list in brackets, or the end of the list. -/
def flowItem (p : Parser) (first : Bool) : Except Fault (Event × Parser) := do
  let token ← p.peek
  if token = .flowListEnd then .ok (.listEnd, p.drop.pop)
  else
    let p ← if first then pure p else if token = .comma then pure p.drop else refuse
    match ← p.peek with
    | .key => .ok (.mappingStart {}, p.expect .pairKey)
    | .flowListEnd => .ok (.listEnd, p.drop.pop)
    | _ => (p.push (.flowItem false)).node false false

/-- A key of a mapping in brackets, or the end of the mapping. -/
def flowKey (p : Parser) (first : Bool) : Except Fault (Event × Parser) := do
  let token ← p.peek
  if token = .flowMappingEnd then .ok (.mappingEnd, p.drop.pop)
  else
    let p ← if first then pure p else if token = .comma then pure p.drop else refuse
    match ← p.peek with
    | .key => p.drop.nodeUnless [.value, .comma, .flowMappingEnd] .flowValue false false
    | .flowMappingEnd => .ok (.mappingEnd, p.drop.pop)
    | _ => (p.push .flowNoValue).node false false

/-- The value after a mark for it, which may be missing. -/
def markedValue (p : Parser) (stops : List Token) (after : Expecting) (block : Bool) :
    Except Fault (Event × Parser) := do
  if (← p.peek) = .value then p.drop.nodeUnless stops after block block
  else .ok (emptyScalar, p.expect after)

/-- The next event. -/
def step (p : Parser) : Except Fault (Event × Parser) := do
  match p.expecting with
  | .firstDocument =>
    if [.documentStart, .streamEnd, .directive].contains (← p.peek) then p.document
    else match ← p.peek with
      | .version _ => p.document
      | .handle _ _ => p.document
      | _ =>
        let p := { p with handles := standardHandles }
        .ok (.documentStart, (p.push .documentEnd).expect .node)
  | .document => p.document
  | .documentEnd =>
    let token ← p.peek
    .ok (.documentEnd, (if token = .documentEnd then p.drop else p).expect .document)
  | .content =>
    match ← p.peek with
    | .version _ => .ok (emptyScalar, p.pop)
    | .handle _ _ => .ok (emptyScalar, p.pop)
    | token =>
      if [.directive, .documentStart, .documentEnd, .streamEnd].contains token then
        .ok (emptyScalar, p.pop)
      else p.node true false
  | .node => p.node true false
  | .item =>
    match ← p.peek with
    | .item => p.drop.nodeUnless [.item, .blockEnd] .item true false
    | .blockEnd => .ok (.listEnd, p.drop.pop)
    | _ => refuse
  | .bareItem =>
    if (← p.peek) = .item then
      p.drop.nodeUnless [.item, .key, .value, .blockEnd] .bareItem true false
    else .ok (.listEnd, p.pop)
  | .key =>
    match ← p.peek with
    | .key => p.drop.nodeUnless [.key, .value, .blockEnd] .value true true
    | .blockEnd => .ok (.mappingEnd, p.drop.pop)
    | _ => refuse
  | .value => p.markedValue [.key, .value, .blockEnd] .key true
  | .flowItem first => p.flowItem first
  | .pairKey => p.drop.nodeUnless [.value, .comma, .flowListEnd] .pairValue false false
  | .pairValue => p.markedValue [.comma, .flowListEnd] .pairEnd false
  | .pairEnd => do
    discard p.peek
    .ok (.mappingEnd, p.expect (.flowItem false))
  | .flowKey first => p.flowKey first
  | .flowValue => p.markedValue [.comma, .flowMappingEnd] (.flowKey false) false
  | .flowNoValue => do
    discard p.peek
    .ok (emptyScalar, p.expect (.flowKey false))
  | .nothing => .ok (.streamEnd, p)

end Parser

/-- Events, and the fault after the last of them, if there is one. -/
structure Events where
  /-- The events. -/
  list : List Event
  /-- The fault. -/
  fault : Option Fault

/-- The events from a state on, after those before, the last one first. -/
def Parser.run : Nat → List Event → Parser → Events
  | 0, before, _ => ⟨before.reverse, none⟩
  | fuel + 1, before, p =>
    if p.expecting = .nothing then ⟨before.reverse, none⟩
    else match p.step with
      | .error f => ⟨before.reverse, some f⟩
      | .ok (e, p) => run fuel (e :: before) p

/-- The events of a document.  A token gives at most three events. -/
def events (ts : Tokens) : Events :=
  Parser.run (4 * ts.list.length + 8) [] { tokens := ts.list, fault := ts.fault }

end TableFeed.Yaml
