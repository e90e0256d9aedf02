/-
**Documents that become nodes, and nodes that vanish.**

A document that has been read is a value; to be edited it becomes nodes of a forest.  Nodes that
nobody holds any more, neither directly nor through a node above them, vanish: links to them are
cut.

Main definitions:

* `Forest.plant` — the forest with the nodes of a document;
* `Forest.retain` — the forest in which only the nodes below some nodes are left.
-/

import XmlScribe.Forest.Attributes

set_option autoImplicit false

namespace XmlScribe

namespace Forest

/-! ### Planting -/

/-- Attributes with serial numbers from `serial` on. -/
def numberCells (serial : Nat) : List Attribute → List AttrCell
  | [] => []
  | a :: attributes => ⟨serial, a⟩ :: numberCells (serial + 1) attributes

/-- The forest with a node for an element, not counting its content. -/
def addElement (F : Forest) (owner parent : NodeId) (name : QName)
    (attributes : List Attribute) : Forest × NodeId :=
  let G := { F with nextSerial := F.nextSerial + attributes.length }
  G.add ⟨.element name (numberCells F.nextSerial attributes), some parent, some owner, []⟩

/-- The forest with a node that has no children. -/
def addLeaf (F : Forest) (owner parent : NodeId) (payload : Payload) : Forest × NodeId :=
  F.add ⟨payload, some parent, some owner, []⟩

mutual

/-- The forest with the nodes of an item below `parent`, and the number of the topmost. -/
def plantItem (F : Forest) (owner parent : NodeId) : Item → Forest × NodeId
  | .element name attributes content =>
      let (F, id) := F.addElement owner parent name attributes
      let (F, children) := plantItems F owner id content
      (F.modify id ({ · with children := children }), id)
  | .text data => F.addLeaf owner parent (.text data)
  | .cdata data => F.addLeaf owner parent (.cdata data)
  | .comment data => F.addLeaf owner parent (.comment data)
  | .instruction target data => F.addLeaf owner parent (.instruction target data)
  | .doctype d => F.addLeaf owner parent (.doctype d)

/-- The forest with the nodes of some items below `parent`, and the numbers of the topmost. -/
def plantItems (F : Forest) (owner parent : NodeId) : List Item → Forest × List NodeId
  | [] => (F, [])
  | item :: items =>
      let (F, id) := plantItem F owner parent item
      let (F, ids) := plantItems F owner parent items
      (F, id :: ids)

end

/-- The forest with the nodes of a document, and the number of the document. -/
def plant (F : Forest) (doc : Document) : Forest × NodeId :=
  let (F, id) := F.add ⟨.document doc.declaration false, none, none, []⟩
  let (F, children) := plantItems F id id doc.content
  (F.modify id ({ · with children := children }), id)

/-! ### Vanishing -/

/-- A node without the links to nodes that are not left. -/
def cutLinks (left : List NodeId) (node : Node) : Node :=
  { node with
    parent := node.parent.filter left.elem
    owner := node.owner.filter left.elem }

/-- A node without its attributes. -/
def bare (node : Node) : Node :=
  match node.payload with
  | .element name _ => { node with payload := .element name [] }
  | _ => node

/-- The forest in which only the nodes in `held`, and those below them, are left.  The attributes
of the others belong to no element any more. -/
def retain (F : Forest) (held : List NodeId) : Forest :=
  let left := held.flatMap F.preorder
  let gone := (List.range F.size).filter (!left.elem ·)
  let orphans := gone.flatMap fun id => (F.cells id).map fun cell => ⟨cell, F.owner? id⟩
  let detached := (orphans ++ F.detached).map fun (d : DetachedAttr) =>
    { d with owner := d.owner.filter left.elem }
  let nodes := F.nodes.mapIdx fun id node =>
    cutLinks left (if left.elem id then node else bare node)
  ⟨nodes, F.nextSerial, detached⟩

end Forest

end XmlScribe
