/-
**What may stand where.**

The rules that every document obeys, whether it is read or put together node by node.

Main definitions:

* `NodeType`, `NodeType.mayHold` — the kinds of nodes, and which may be below which;
* `Instruction.checkTarget` — the targets of processing instructions.
-/

import XmlScribe.Name.Basic

set_option autoImplicit false

namespace XmlScribe

/-- The kinds of nodes of a document. -/
inductive NodeType where
  /-- An element. -/
  | element
  /-- Character data. -/
  | text
  /-- A CDATA section. -/
  | cdata
  /-- A processing instruction. -/
  | instruction
  /-- A comment. -/
  | comment
  /-- A document. -/
  | document
  /-- A document type. -/
  | doctype
deriving DecidableEq, Repr

namespace NodeType

/-- The number of the kind in the Document Object Model. -/
def code : NodeType → Nat
  | .element => 1
  | .text => 3
  | .cdata => 4
  | .instruction => 7
  | .comment => 8
  | .document => 9
  | .doctype => 10

/-- A node of the first kind may hold a node of the second kind. -/
def mayHold : NodeType → NodeType → Bool
  | .element, .element | .element, .text | .element, .comment => true
  | .element, .instruction | .element, .cdata => true
  | .document, .element | .document, .instruction => true
  | .document, .comment | .document, .doctype => true
  | _, _ => false

/-- A document may hold only one node of the kind. -/
def isUniqueInDocument : NodeType → Bool
  | .element => true
  | .doctype => true
  | _ => false

end NodeType

/-- Refuses a text that cannot be the target of a processing instruction.  The name `xml`, in any
mixture of capitals, is kept for the XML declaration. -/
def Instruction.checkTarget (target : Text) : Except TreeFault Unit :=
  if target.map Char.toLower = ['x', 'm', 'l'] then .error .invalidCharacter
  else Name.check target

end XmlScribe
