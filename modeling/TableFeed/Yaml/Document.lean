import Std.Data.HashMap
import TableFeed.Value.SetOrder
import TableFeed.Yaml.Merge

/-!
# From nodes to values

The nodes of a document are visited level by level: first the outermost collection, then the
collections in it, and so on.  The first fault on this way is the one that is reported; where there
is none, every node that was met has become a cell.

A collection may hold itself.  `Document.value` puts the value of a cell together, and shows a
collection that comes back within itself as `Value.within`.
-/

namespace TableFeed.Yaml

/-- What a node has become.  The parts of a collection are known by the numbers of their nodes. -/
inductive Cell where
  /-- A value without parts. -/
  | scalar (value : Value)
  /-- A list. -/
  | list (items : List Nat)
  /-- A mapping. -/
  | mapping (entries : List (Value × Nat))
  /-- A set. -/
  | set (items : List Value)
  /-- A list of pairs. -/
  | pairs (items : List (Nat × Nat))

/-- The cells of a document, by the numbers of their nodes. -/
abbrev Cells := Array (Option Cell)

/-- The nodes of a document and the cells that were made of them. -/
structure Builder where
  /-- The nodes. -/
  graph : Graph
  /-- The cells. -/
  cells : Cells
  /-- The collections that were met and not visited, the last one first. -/
  waiting : List Nat := []

namespace Builder

/-- The cell of a node, if it was met. -/
def cell? (b : Builder) (n : Nat) : Option Cell := b.cells.getD n none

/-- The state in which a node has become a cell. -/
def put (b : Builder) (n : Nat) (c : Cell) : Builder :=
  { b with cells := b.cells.setIfInBounds n (some c) }

/-- The text of a node that has to be a scalar.  A mapping may name one that stands for it. -/
def scalarText (g : Graph) : Nat → Nat → Except Fault (List Text.Glyph)
  | 0, _ => badScalar .endless
  | depth + 1, n =>
    match (g.node n).content with
    | .scalar text => .ok text
    | .list _ => valueless
    | .mapping entries =>
      match entries.find? fun (k, _) => (g.node k).kind = .default with
      | some (_, v) => scalarText g depth v
      | none => valueless

/-- The value of a node that has no parts.  A point in time has to be a scalar itself. -/
def scalarOf (g : Graph) (n : Nat) : Except Fault Value := do
  let node := g.node n
  if node.kind matches .merge | .default | .other then valueless
  let text ← scalarText g (g.size + 1) n
  match node.kind, node.content with
  | .moment, .mapping _ => badScalar .momentless
  | kind, _ => scalarValue n kind text

/-- Whether a kind is one of collections. -/
def isCollection : Kind → Bool
  | .list => true
  | .mapping => true
  | .set => true
  | .orderedPairs => true
  | .pairs => true
  | _ => false

/-- Meets a node.  A collection waits for its visit; anything else gets its value. -/
def meet (b : Builder) (n : Nat) : Except Fault Builder :=
  if (b.cell? n).isSome then .ok b
  else if isCollection (b.graph.node n).kind then
    .ok { b.put n (.list []) with waiting := n :: b.waiting }
  else (scalarOf b.graph n).map fun v => b.put n (.scalar v)

/-- Meets nodes in order. -/
def meetAll (b : Builder) (ns : List Nat) : Except Fault Builder := ns.foldlM meet b

/-- Meets a node that is a key.  The answer has its value; a collection has none that could be
one. -/
def meetKey (b : Builder) (n : Nat) : Except Fault (Value × Builder) := do
  let b ← b.meet n
  if isCollection (b.graph.node n).kind then valueless
  match b.cell? n with
  | some (.scalar v) => .ok (v, b)
  | _ => valueless

/-- Meets the entries of a mapping in order.  The answer has them by their keys. -/
def meetEntries (found : List (Value × Nat)) (b : Builder) :
    List Entry → Except Fault (List (Value × Nat) × Builder)
  | [] => .ok (found, b)
  | (k, v) :: rest => do
    let (key, b) ← b.meetKey k
    let b ← b.meet v
    meetEntries (Value.put found key v) b rest

/-- Merges the entries of a mapping, and meets them. -/
def meetMapping (b : Builder) (n : Nat) : Except Fault (List (Value × Nat) × Builder) := do
  match b.graph.entries? n with
  | none => valueless
  | some _ =>
    let graph ← b.graph.merge n
    meetEntries [] { b with graph := graph } ((graph.entries? n).getD [])

/-- Meets the keys and values of mappings that are pairs. -/
def meetPairs (found : List (Nat × Nat)) (b : Builder) :
    List Nat → Except Fault (List (Nat × Nat) × Builder)
  | [] => .ok (found.reverse, b)
  | n :: rest =>
    match b.graph.entries? n with
    | some [(k, v)] => do
      let b ← b.meetAll [k, v]
      meetPairs ((k, v) :: found) b rest
    | _ => valueless

/-- Visits a collection: meets what it holds. -/
def visit (b : Builder) (n : Nat) : Except Fault Builder := do
  let node := b.graph.node n
  match node.kind, node.content with
  | .list, .list items => return (← b.meetAll items).put n (.list items)
  | .mapping, _ =>
    let (entries, b) ← b.meetMapping n
    return b.put n (.mapping entries)
  | .set, _ =>
    let (entries, b) ← b.meetMapping n
    return b.put n (.set (Value.inSetOrder (entries.map Prod.fst)))
  | .orderedPairs, .list items =>
    let (pairs, b) ← meetPairs [] b items
    return b.put n (.pairs pairs)
  | .pairs, .list items =>
    let (pairs, b) ← meetPairs [] b items
    return b.put n (.pairs pairs)
  | _, _ => valueless

/-- Visits the collections that wait, and those that are met on the way, level by level. -/
def visitAll : Nat → Builder → Except Fault Builder
  | 0, b => .ok b
  | levels + 1, b =>
    if b.waiting.isEmpty then .ok b
    else do visitAll levels (← b.waiting.reverse.foldlM visit { b with waiting := [] })

end Builder

/-- A document: its cells, and the number of the outermost one. -/
structure Document where
  /-- The cells. -/
  cells : Cells
  /-- The number of the outermost cell. -/
  root : Nat

namespace Document

/-- A cell. -/
def cell (d : Document) (n : Nat) : Cell := (d.cells.getD n none).getD (.scalar .null)

/-- The values of the cells that lead to no collection within itself. -/
abbrev Known := Std.HashMap Nat Value

/-- Puts values together, and says whether all of them can be kept. -/
abbrev Unfolding := StateM Known (Value × Bool)

/-- The value of a collection, out of the values of its parts. -/
def gathered (make : List Value → Value) (parts : List (Value × Bool)) : Value × Bool :=
  (make (parts.map Prod.fst), parts.all Prod.snd)

/-- The mapping with some keys and values. -/
def mappingOf (keys : List Value) (values : List Value) : Value := .mapping (keys.zip values)

/-- The value of a cell within the collections of a path, down to some depth. -/
def unfold (d : Document) : Nat → List Nat → Nat → Unfolding
  | 0, _, _ => return (.null, false)
  | depth + 1, path, n => do
    if let some v := (← get)[n]? then return (v, true)
    let part := unfold d depth (n :: path)
    let (v, kept) ← match d.cell n with
      | .scalar v => pure (v, true)
      | .set items => pure (Value.set items, true)
      | .list items =>
        if path.contains n then pure (Value.within true, false)
        else do pure (gathered Value.list (← items.mapM part))
      | .mapping entries =>
        if path.contains n then pure (Value.within false, false)
        else do
          pure (gathered (mappingOf (entries.map Prod.fst)) (← entries.mapM (part ·.2)))
      | .pairs items =>
        if path.contains n then pure (Value.within true, false)
        else do
          pure (gathered Value.list (← items.mapM fun (k, v) => do
            pure (gathered Value.tuple [← part k, ← part v])))
    if kept then modify (·.insert n v)
    return (v, kept)

/-- The value of a cell. -/
def value (d : Document) (n : Nat) : Value :=
  ((d.unfold (d.cells.size + 1) [] n).run {}).1.1

end Document

/-- Whether a text has only characters that may stand in a document. -/
def isDocumentText (cs : List Char) : Bool := cs.all isAllowed

/-- Reads a document, which may be empty. -/
def read (cs : List Char) : Except Fault (Option Document) := do
  if !isDocumentText cs then .error (.refused .characters)
  match ← Graph.ofEvents (events (tokens cs)) with
  | none => .ok none
  | some (root, graph) =>
    let b : Builder := ⟨graph, Array.replicate graph.size none, []⟩
    let b ← Builder.visitAll (graph.size + 1) (← b.meet root)
    .ok (some ⟨b.cells, root⟩)

end TableFeed.Yaml
