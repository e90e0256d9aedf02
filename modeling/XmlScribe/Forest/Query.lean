/-
**Questions about nodes.**

Main definitions:

* `Forest.nodeName`, `Forest.nodeValue` — the name and the value of a node of any kind;
* `Forest.previousSibling?`, `Forest.nextSibling?` — the neighbours of a node;
* `Forest.textContent?` — the character data in a node and below it;
* `Forest.toItem?`, `Forest.toDocument` — a node, a document as a value.
-/

import XmlScribe.Forest.Basic

set_option autoImplicit false

namespace XmlScribe

namespace Forest

/-- The name of an element. -/
def elementName? (F : Forest) (id : NodeId) : Option QName :=
  match F.payload? id with
  | some (.element name _) => some name
  | _ => none

/-- The name of a node of any kind. -/
def nodeName (F : Forest) (id : NodeId) : Text :=
  match F.payload? id with
  | some (.document _ _) => "#document".toList
  | some (.element name _) => name.text
  | some (.text _) => "#text".toList
  | some (.cdata _) => "#cdata-section".toList
  | some (.comment _) => "#comment".toList
  | some (.instruction target _) => target
  | some (.doctype d) => d.name
  | none => []

/-- The data of a node, if nodes of its kind have any. -/
def nodeValue (F : Forest) (id : NodeId) : Option Text :=
  match F.payload? id with
  | some (.text data) => some data
  | some (.cdata data) => some data
  | some (.comment data) => some data
  | some (.instruction _ data) => data
  | _ => none

/-- The child before a node. -/
def previousSibling? (F : Forest) (id : NodeId) : Option NodeId := do
  let siblings := F.children (← F.parent? id)
  let index ← siblings.idxOf? id
  if index = 0 then none else siblings[index - 1]?

/-- The child after a node. -/
def nextSibling? (F : Forest) (id : NodeId) : Option NodeId := do
  let siblings := F.children (← F.parent? id)
  let index ← siblings.idxOf? id
  siblings[index + 1]?

/-- The character data that a node itself adds to the text of an element. -/
def ownText (F : Forest) (id : NodeId) : Text :=
  match F.payload? id with
  | some (.text data) => data
  | some (.cdata data) => data
  | _ => []

/-- The character data in a node and below it. -/
def textContent? (F : Forest) (id : NodeId) : Option Text :=
  if F.isElement id then some ((F.preorder id).flatMap F.ownText) else F.nodeValue id

/-! ### Nodes as values -/

/-- The item that a node and those below it form, down to `fuel` levels. -/
def toItemFrom (F : Forest) : (fuel : Nat) → NodeId → Option Item
  | 0, _ => none
  | fuel + 1, id =>
      match F.get? id with
      | none => none
      | some node =>
          match node.payload with
          | .document _ _ => none
          | .element name cells =>
              some (.element name (cells.map AttrCell.attr)
                (node.children.filterMap (F.toItemFrom fuel)))
          | .text data => some (.text data)
          | .cdata data => some (.cdata data)
          | .comment data => some (.comment data)
          | .instruction target data => some (.instruction target data)
          | .doctype d => some (.doctype d)

/-- The item that a node and those below it form. -/
def toItem? (F : Forest) (id : NodeId) : Option Item :=
  F.toItemFrom F.size id

/-- The document that a node and those below it form. -/
def toDocument (F : Forest) (doc : NodeId) : Document :=
  ⟨F.declaration doc, (F.children doc).filterMap F.toItem?⟩

end Forest

end XmlScribe
