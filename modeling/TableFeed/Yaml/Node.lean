import TableFeed.Yaml.Event
import TableFeed.Yaml.Kind

/-!
# From events to nodes

A document is a graph of nodes: scalars, lists and mappings.  A node is known by its number; one
that is repeated by its name has one number at all its places, also within itself.
-/

namespace TableFeed.Yaml

open Text

/-- An entry of a mapping: the numbers of its key and of its value. -/
abbrev Entry := Nat × Nat

/-- What a node holds. -/
inductive Content where
  /-- A text. -/
  | scalar (text : List Glyph)
  /-- Items, by their numbers. -/
  | list (items : List Nat)
  /-- Entries. -/
  | mapping (entries : List Entry)

/-- A node of a document. -/
structure Node where
  /-- What it stands for. -/
  kind : Kind
  /-- What it holds. -/
  content : Content

instance : Inhabited Node := ⟨⟨.other, .scalar []⟩⟩

/-- The nodes of a document, by their numbers. -/
structure Graph where
  /-- The nodes. -/
  nodes : Array Node := #[]

namespace Graph

/-- A node. -/
def node (g : Graph) (n : Nat) : Node := g.nodes.getD n default

/-- The number of nodes. -/
def size (g : Graph) : Nat := g.nodes.size

/-- The graph with one more node, which gets the next number. -/
def add (g : Graph) (n : Node) : Graph := ⟨g.nodes.push n⟩

/-- The graph in which a node is another one. -/
def set (g : Graph) (n : Nat) (node : Node) : Graph := ⟨g.nodes.setIfInBounds n node⟩

/-- The entries of a node, if it is a mapping. -/
def entries? (g : Graph) (n : Nat) : Option (List Entry) :=
  match (g.node n).content with
  | .mapping entries => some entries
  | _ => none

/-- The graph in which a mapping has other entries. -/
def setEntries (g : Graph) (n : Nat) (entries : List Entry) : Graph :=
  g.set n { g.node n with content := .mapping entries }

/-- The graph in which a node is of another kind. -/
def setKind (g : Graph) (n : Nat) (kind : Kind) : Graph := g.set n { g.node n with kind := kind }

end Graph

/-- Events that are left, the nodes so far, and the names given to them. -/
structure Composer where
  /-- The events. -/
  events : List Event
  /-- The fault after them. -/
  fault : Option Fault
  /-- The nodes. -/
  graph : Graph := {}
  /-- The names. -/
  anchors : List (String × Nat) := []

namespace Composer

/-- Stops for want of a document. -/
def refuse {α : Type} : Except Fault α := .error (.refused .nodes)

/-- Takes the next event. -/
def take (c : Composer) : Except Fault (Event × Composer) :=
  match c.events with
  | e :: rest => .ok (e, { c with events := rest })
  | [] => .error (c.fault.getD (.refused .events))

/-- The kind of a node with some properties: that of its tag, or the usual one. -/
def kindOf (p : Properties) (usual : Kind) : Kind := (p.tag.map Kind.ofTag).getD usual

/-- Adds a node with some properties.  The name in them may not be taken. -/
def add (c : Composer) (p : Properties) (node : Node) : Except Fault (Nat × Composer) :=
  let n := c.graph.size
  match p.anchor with
  | none => .ok (n, { c with graph := c.graph.add node })
  | some a =>
    if (c.anchors.lookup a).isSome then refuse
    else .ok (n, { c with graph := c.graph.add node, anchors := (a, n) :: c.anchors })

/-- Gives a node what it holds. -/
def fill (c : Composer) (n : Nat) (node : Node) : Composer :=
  { c with graph := c.graph.set n node }

/-- The number of collections that may stand within each other. -/
def depthLimit : Nat := 490

mutual

/-- Composes the node that starts with an event, within which collections may stand on some levels.
The answer has its number. -/
def node : Nat → Nat → Event → Composer → Except Fault (Nat × Composer)
  | 0, _, _, _ => refuse
  | fuel + 1, levels, e, c =>
    match e, levels with
    | .alias a, _ => (c.anchors.lookup a).elim refuse fun n => .ok (n, c)
    | .scalar p text isOpen, _ =>
      c.add p ⟨kindOf p (if isOpen then Kind.ofPlain text else .text), .scalar text⟩
    | .listStart p, levels + 1 => do
      let kind := kindOf p .list
      let (n, c) ← c.add p ⟨kind, .list []⟩
      let (ns, c) ← items fuel levels [] c
      .ok (n, c.fill n ⟨kind, .list ns⟩)
    | .mappingStart p, levels + 1 => do
      let kind := kindOf p .mapping
      let (n, c) ← c.add p ⟨kind, .mapping []⟩
      let (es, c) ← entries fuel levels [] c
      .ok (n, c.fill n ⟨kind, .mapping es⟩)
    | .listStart _, 0 => .error (.scalar .nested)
    | .mappingStart _, 0 => .error (.scalar .nested)
    | _, _ => refuse

/-- Composes the items of a list, after those before, the last one first. -/
def items : Nat → Nat → List Nat → Composer → Except Fault (List Nat × Composer)
  | 0, _, _, _ => refuse
  | fuel + 1, levels, before, c => do
    match ← c.take with
    | (.listEnd, c) => .ok (before.reverse, c)
    | (e, c) =>
      let (n, c) ← node fuel levels e c
      items fuel levels (n :: before) c

/-- Composes the entries of a mapping, after those before, the last one first. -/
def entries : Nat → Nat → List Entry → Composer → Except Fault (List Entry × Composer)
  | 0, _, _, _ => refuse
  | fuel + 1, levels, before, c => do
    match ← c.take with
    | (.mappingEnd, c) => .ok (before.reverse, c)
    | (e, c) =>
      let (key, c) ← node fuel levels e c
      let (e, c) ← c.take
      let (value, c) ← node fuel levels e c
      entries fuel levels ((key, value) :: before) c

end

end Composer

/-- The nodes of a document, of which there may be at most one, and the number of the outermost
one. -/
def Graph.ofEvents (es : Events) : Except Fault (Option (Nat × Graph)) := do
  let c : Composer := { events := es.list, fault := es.fault }
  match ← c.take with
  | (.streamEnd, _) => .ok none
  | (_, c) =>
    let (first, c) ← c.take
    let (root, c) ← Composer.node (es.list.length + 1) Composer.depthLimit first c
    let (_, c) ← c.take
    match ← c.take with
    | (.streamEnd, _) => .ok (some (root, c.graph))
    | _ => Composer.refuse

end TableFeed.Yaml
