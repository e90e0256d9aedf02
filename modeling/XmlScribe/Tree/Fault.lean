/-
**Why the tree refuses an operation.**

Main definitions:

* `TreeFault` — the causes, after the error codes of the Document Object Model;
* `TreeFault.code`, `TreeFault.message` — the number and the wording of each.
-/

set_option autoImplicit false

namespace XmlScribe

/-- Why an operation on a tree of nodes is refused. -/
inductive TreeFault where
  /-- A node would stand where its kind, or its position in the tree, is not allowed. -/
  | hierarchy
  /-- The node and its new place belong to different documents. -/
  | wrongDocument
  /-- A text is no name. -/
  | invalidCharacter
  /-- The document is read-only. -/
  | readOnly
  /-- The node is not where it was said to be. -/
  | notFound
  /-- The attribute belongs to another element. -/
  | attributeInUse
  /-- The name does not fit its namespace. -/
  | namespaceMismatch
deriving DecidableEq, Repr

namespace TreeFault

/-- The number of the error code. -/
def code : TreeFault → Nat
  | .hierarchy => 3
  | .wrongDocument => 4
  | .invalidCharacter => 5
  | .readOnly => 7
  | .notFound => 8
  | .attributeInUse => 10
  | .namespaceMismatch => 14

/-- What the error code means. -/
def description : TreeFault → String
  | .hierarchy => "node inserted where it does not belong"
  | .wrongDocument => "node belongs to a different document"
  | .invalidCharacter => "invalid character in name"
  | .readOnly => "modification not allowed"
  | .notFound => "node not found"
  | .attributeInUse => "attribute is already in use by another element"
  | .namespaceMismatch => "namespace constraint violated"

/-- The wording of a fault. -/
def message (fault : TreeFault) : String :=
  "DOMException(" ++ toString fault.code ++ "): " ++ fault.description

end TreeFault

end XmlScribe
