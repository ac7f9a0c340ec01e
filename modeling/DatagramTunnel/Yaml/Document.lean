import DatagramTunnel.Yaml.EventSource

/-!
# YAML documents

A document is kept as the list of its items, up to the place where the text is refused, if it is. So
a reader of documents reports what is wrong with the part in front of that place first.

An alias repeats the node with the number that the name of its anchor has at that place. A new name
gets the count of the names before it. A name that is set again counts itself too, so it shares its
number with the next new name. Of the nodes with one number the last one in the document is
repeated, even by an alias in front of it.
-/

namespace DatagramTunnel.Yaml

/-- The start of a node; all of it for a scalar. -/
inductive Node where
  | scalar (content : Scalar)
  | sequence (tag : Option Tag)
  | mapping (tag : Option Tag)
  deriving DecidableEq, Repr

/-- What stands at some place of a document. -/
inductive Item where
  | node (start : Node)
  /-- Repeats the node with a number. -/
  | alias (number : Nat)
  | sequenceEnd
  | mappingEnd
  deriving DecidableEq, Repr

/-! ## Anchors -/

/-- The anchors of a document. -/
structure Anchors where
  /-- The number of each name. -/
  numbers : List (List Char × Nat) := []
  /-- The numbered nodes, the latest first. -/
  nodes : List (Nat × Placed Node) := []
  deriving DecidableEq, Repr

namespace Anchors

/-- Gives a node an anchor. -/
def set (a : Anchors) (name : List Char) (node : Placed Node) : Anchors :=
  let number := a.numbers.length
  { numbers := (name, number) :: a.numbers.filter fun (other, _) => other != name
    nodes := (number, node) :: a.nodes }

/-- Gives a node the anchor it was written with, if there is one. -/
def note (a : Anchors) (name : Option (List Char)) (node : Placed Node) : Anchors :=
  match name with
  | some name => a.set name node
  | none => a

end Anchors

/-! ## Documents -/

/-- The first document of a text. -/
structure Document where
  items : List (Placed Item)
  anchors : Anchors
  /-- The text is the document and nothing else; all of it is well formed. -/
  wellFormed : Bool
  deriving DecidableEq, Repr

namespace Document

/-- The node that starts with an item, or that an alias repeats. -/
def node? (d : Document) (item : Placed Item) : Option (Placed Node) :=
  match item.what with
  | .node start => some ⟨start, item.start⟩
  | .alias number => d.anchors.nodes.lookup number
  | _ => none

/-- The item of an event inside a document, and the anchors with it; `none` for an alias of an
unknown anchor. -/
def itemOf? (anchors : Anchors) (start : Position) : Event → Option (Item × Anchors)
  | .scalar anchor content => some (noted anchor (.scalar content))
  | .sequenceStart anchor tag => some (noted anchor (.sequence tag))
  | .mappingStart anchor tag => some (noted anchor (.mapping tag))
  | .sequenceEnd => some (.sequenceEnd, anchors)
  | .mappingEnd => some (.mappingEnd, anchors)
  | .alias name => (anchors.numbers.lookup name).map fun number => (.alias number, anchors)
  | _ => none
where
  /-- The item of a node, which may have an anchor. -/
  noted (anchor : Option (List Char)) (node : Node) : Item × Anchors :=
    (.node node, anchors.note anchor ⟨node, start⟩)

/-- Whether nothing follows a document. -/
def nothingFollows (s : EventSource) : Bool :=
  match s.next with
  | some (⟨.streamEnd, _⟩, _) => true
  | _ => false

/-- Collects the items of the document that the source is in, in reverse order. -/
def collect : Nat → Anchors → List (Placed Item) → EventSource → Document
  | 0, anchors, items, _ => ⟨items.reverse, anchors, false⟩
  | fuel + 1, anchors, items, s => match s.next with
    | none => ⟨items.reverse, anchors, false⟩
    | some (⟨.documentEnd, _⟩, s) => ⟨items.reverse, anchors, nothingFollows s⟩
    | some (⟨event, start⟩, s) => match itemOf? anchors start event with
      | none => ⟨items.reverse, anchors, false⟩
      | some (item, anchors) => collect fuel anchors (⟨item, start⟩ :: items) s

/-- A bound on the events of a text: each character makes few tokens, and each token few events. -/
def fuelFor (text : List Char) : Nat := 16 * text.length + 64

/-- Reads the first document of a text; a text without one has no items. -/
def ofText (text : List Char) : Document :=
  match EventSource.next { tokens := TokenSource.ofText text } with
  | some (⟨.documentStart, _⟩, s) => collect (fuelFor text) {} [] s
  | some (⟨.streamEnd, _⟩, _) => ⟨[], {}, true⟩
  | _ => ⟨[], {}, false⟩

end Document

end DatagramTunnel.Yaml
