/-
**Nodes with identity.**

A forest holds nodes under numbers.  Every node knows its parent, its children and the document
that it belongs to, so a node can be looked up, moved and changed wherever it stands.  An attribute
bears a serial number by which it can be found again, even after it has been removed.

Main definitions:

* `Node`, `Payload` — a node, and what it carries besides its links;
* `Forest` — all nodes;
* `Forest.get?`, `Forest.add`, `Forest.modify` — reading and changing nodes;
* `Forest.lineage`, `Forest.preorder` — a node with those above it, with those below it.

Main results:

* `Forest.get?_add`, `Forest.get?_modify` — what reading finds after a change.
-/

import XmlScribe.Document.Basic
import XmlScribe.Document.Rules

set_option autoImplicit false

namespace XmlScribe

/-- The number of a node. -/
abbrev NodeId := Nat

/-- An attribute of a node, with a serial number of its own. -/
structure AttrCell where
  /-- The serial number. -/
  serial : Nat
  /-- The attribute. -/
  attr : Attribute
deriving DecidableEq, Repr

/-- What a node carries besides its links. -/
inductive Payload where
  /-- A document: what its declaration says, and whether it refuses changes. -/
  | document (declaration : Declaration) (readOnly : Bool)
  /-- An element. -/
  | element (name : QName) (cells : List AttrCell)
  /-- Character data. -/
  | text (data : Text)
  /-- A CDATA section. -/
  | cdata (data : Text)
  /-- A comment. -/
  | comment (data : Text)
  /-- A processing instruction. -/
  | instruction (target : Text) (data : Option Text)
  /-- A document type. -/
  | doctype (d : Doctype)
deriving DecidableEq, Repr

/-- The kind of a node. -/
def Payload.type : Payload → NodeType
  | .document _ _ => .document
  | .element _ _ => .element
  | .text _ => .text
  | .cdata _ => .cdata
  | .comment _ => .comment
  | .instruction _ _ => .instruction
  | .doctype _ => .doctype

/-- A node. -/
structure Node where
  /-- What the node carries. -/
  payload : Payload
  /-- The node that it is a child of. -/
  parent : Option NodeId
  /-- The document that it belongs to; a document belongs to none. -/
  owner : Option NodeId
  /-- The nodes below it, in order. -/
  children : List NodeId
deriving DecidableEq, Repr

/-- An attribute that belongs to no element any more. -/
structure DetachedAttr where
  /-- The attribute. -/
  cell : AttrCell
  /-- The document that it belongs to. -/
  owner : Option NodeId
deriving DecidableEq, Repr

/-- A set of nodes. -/
structure Forest where
  /-- The nodes by number. -/
  nodes : Array Node
  /-- The serial number of the next attribute. -/
  nextSerial : Nat
  /-- The attributes that have been removed. -/
  detached : List DetachedAttr
deriving DecidableEq, Repr

namespace Forest

/-- The forest without nodes. -/
def empty : Forest := ⟨#[], 0, []⟩

/-- The number of nodes. -/
def size (F : Forest) : Nat :=
  F.nodes.size

/-- The node with a number. -/
def get? (F : Forest) (id : NodeId) : Option Node :=
  F.nodes[id]?

/-- The forest with one more node, and its number. -/
def add (F : Forest) (node : Node) : Forest × NodeId :=
  let id := F.nodes.size
  ({ F with nodes := F.nodes.push node }, id)

/-- The forest with one node changed. -/
def modify (F : Forest) (id : NodeId) (f : Node → Node) : Forest :=
  { F with nodes := F.nodes.modify id f }

theorem get?_add (F : Forest) (node : Node) (id : NodeId) :
    (F.add node).1.get? id = if id = F.size then some node else F.get? id :=
  Array.getElem?_push

theorem get?_modify (F : Forest) (id other : NodeId) (f : Node → Node) :
    (F.modify id f).get? other = if id = other then (F.get? other).map f else F.get? other := by
  simp only [get?, modify, Array.getElem?_modify]

theorem size_modify (F : Forest) (id : NodeId) (f : Node → Node) :
    (F.modify id f).size = F.size := by
  simp [size, modify]

/-! ### Links -/

/-- What a node carries. -/
def payload? (F : Forest) (id : NodeId) : Option Payload :=
  (F.get? id).map Node.payload

/-- The kind of a node. -/
def type? (F : Forest) (id : NodeId) : Option NodeType :=
  (F.payload? id).map Payload.type

/-- The node is an element. -/
def isElement (F : Forest) (id : NodeId) : Bool :=
  F.type? id == some .element

/-- The node above a node. -/
def parent? (F : Forest) (id : NodeId) : Option NodeId :=
  (F.get? id).bind Node.parent

/-- The nodes below a node. -/
def children (F : Forest) (id : NodeId) : List NodeId :=
  ((F.get? id).map Node.children).getD []

/-- The document that a node belongs to. -/
def owner? (F : Forest) (id : NodeId) : Option NodeId :=
  (F.get? id).bind Node.owner

/-- The node and those above it, up to `fuel` of them. -/
def lineageFrom (F : Forest) : (fuel : Nat) → NodeId → List NodeId
  | 0, _ => []
  | fuel + 1, id =>
      match F.parent? id with
      | some p => id :: F.lineageFrom fuel p
      | none => [id]

/-- The node and those above it, from the inside out. -/
def lineage (F : Forest) (id : NodeId) : List NodeId :=
  F.lineageFrom F.size id

/-- The node and those below it, in the order of the document, down to `fuel` levels. -/
def preorderFrom (F : Forest) : (fuel : Nat) → NodeId → List NodeId
  | 0, _ => []
  | fuel + 1, id => id :: (F.children id).flatMap (F.preorderFrom fuel)

/-- The node and those below it, in the order of the document. -/
def preorder (F : Forest) (id : NodeId) : List NodeId :=
  F.preorderFrom F.size id

/-! ### Documents -/

/-- The document refuses changes, or the node belongs to one that does. -/
def isReadOnly (F : Forest) (id : NodeId) : Bool :=
  let locked (doc : NodeId) :=
    match F.payload? doc with
    | some (.document _ readOnly) => readOnly
    | _ => false
  locked id || (F.owner? id).any locked

/-- Refuses a change to a node that is read-only. -/
def checkWritable (F : Forest) (id : NodeId) : Except TreeFault Unit :=
  if F.isReadOnly id then .error .readOnly else .ok ()

/-- The first child of a kind. -/
def childOfType? (F : Forest) (id : NodeId) (type : NodeType) : Option NodeId :=
  (F.children id).find? fun child => F.type? child == some type

/-- The document element. -/
def root? (F : Forest) (doc : NodeId) : Option NodeId :=
  F.childOfType? doc .element

/-- The node of the document type. -/
def doctypeNode? (F : Forest) (doc : NodeId) : Option NodeId :=
  F.childOfType? doc .doctype

/-- The document type of a document. -/
def doctype? (F : Forest) (doc : NodeId) : Option Doctype :=
  match (F.doctypeNode? doc).bind F.payload? with
  | some (.doctype d) => some d
  | _ => none

/-- What the declaration of a document says. -/
def declaration (F : Forest) (doc : NodeId) : Declaration :=
  match F.payload? doc with
  | some (.document declaration _) => declaration
  | _ => .none

end Forest

end XmlScribe
