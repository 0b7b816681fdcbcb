import TableFeed.Yaml.Node
import TableFeed.Yaml.ScalarValue

/-!
# Merged entries

A key of the kind `merge` is no entry: the entries of the mappings that are its value are put in
front of those around it.  These mappings are merged first, and stay so.  A key of the kind
`default` becomes a text once the mapping around it is merged.
-/

namespace TableFeed.Yaml.Graph

/-- Merges the mappings that are the items of a list.  The answer has the entries of each, the last
mapping first, after those in `before`. -/
def mergeItems (merge : Nat → Graph → Except Fault Graph) (before : List (List Entry)) :
    List Nat → Graph → Except Fault (List (List Entry) × Graph)
  | [], g => .ok (before, g)
  | n :: rest, g =>
    match g.entries? n with
    | none => valueless
    | some _ => do
      let g ← merge n g
      mergeItems merge ((g.entries? n).getD [] :: before) rest g

/-- Merges the mappings that are the value of a key.  The answer has their entries. -/
def mergeValue (merge : Nat → Graph → Except Fault Graph) (n : Nat) (g : Graph) :
    Except Fault (List Entry × Graph) :=
  match (g.node n).content with
  | .mapping _ => do
    let g ← merge n g
    .ok ((g.entries? n).getD [], g)
  | .list items => do
    let (found, g) ← mergeItems merge [] items g
    .ok (found.flatten, g)
  | .scalar _ => valueless

/-- Goes through the entries of a mapping from a position on, for a number of steps.  `found` are
the entries that are to be put in front.  A key that asks for them is taken out before they are
merged, since they may lead back to the mapping. -/
def mergeFrom (merge : Nat → Graph → Except Fault Graph) (n : Nat) :
    Nat → Nat → List Entry → Graph → Except Fault Graph
  | 0, _, found, g =>
    .ok (if found.isEmpty then g else g.setEntries n (found ++ (g.entries? n).getD []))
  | steps + 1, position, found, g => do
    let entries := (g.entries? n).getD []
    match entries[position]? with
    | none => mergeFrom merge n 0 position found g
    | some (k, v) =>
      match (g.node k).kind with
      | .merge =>
        let (more, g) ← mergeValue merge v (g.setEntries n (entries.eraseIdx position))
        mergeFrom merge n steps position (found ++ more) g
      | .default => mergeFrom merge n steps (position + 1) found (g.setKind k .text)
      | _ => mergeFrom merge n steps (position + 1) found g

/-- The number of entries of all mappings. -/
def entryCount (g : Graph) : Nat :=
  g.nodes.foldl (fun count node => match node.content with
    | .mapping entries => count + entries.length
    | _ => count) 0

/-- Merges the entries of a mapping, and of the mappings that it asks for, down to some depth.  Each
step down takes a key out, and none comes back, so that the number of entries bounds the depth. -/
def mergeWithin : Nat → Nat → Graph → Except Fault Graph
  | 0, _, g => .ok g
  | depth + 1, n, g =>
    mergeFrom (mergeWithin depth) n ((g.entries? n).getD []).length 0 [] g

/-- Whether a mapping has a key that is more than an entry. -/
def needsMerge (g : Graph) (n : Nat) : Bool :=
  ((g.entries? n).getD []).any fun (k, _) =>
    (g.node k).kind = .merge || (g.node k).kind = .default

/-- Merges the entries of a mapping. -/
def merge (n : Nat) (g : Graph) : Except Fault Graph :=
  if g.needsMerge n then mergeWithin (g.entryCount + 1) n g else .ok g

end TableFeed.Yaml.Graph
