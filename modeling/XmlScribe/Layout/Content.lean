/-
**The content of an element as it is laid out.**

Adjacent text nodes are one text.  Whether spaces at the edges of a text may be dropped depends on
what stands beside it: at the edge of a block, after a block or a line break, and before a block
they may.

Main definitions:

* `Content` — a text or another node;
* `Forest.content` — the content of an element;
* `Neighbour` — what stands beside a text;
* `Trim.between` — which edges of a text lose their spaces.
-/

import XmlScribe.Forest.Basic
import XmlScribe.Text.Runs

set_option autoImplicit false

namespace XmlScribe

/-- A part of the content of an element. -/
inductive Content where
  /-- The data of all text nodes in a row. -/
  | text (data : Text)
  /-- A node of another kind. -/
  | node (id : NodeId)
deriving DecidableEq, Repr

namespace Content

/-- The content with a text before it. -/
def consText (data : Text) : List Content → List Content
  | .text next :: content => .text (data ++ next) :: content
  | content => .text data :: content

end Content

namespace Forest

/-- Some nodes as content. -/
def contentOf (F : Forest) : List NodeId → List Content
  | [] => []
  | id :: ids =>
      match F.payload? id with
      | some (.text data) => Content.consText data (F.contentOf ids)
      | _ => .node id :: F.contentOf ids

/-- The content of an element. -/
def content (F : Forest) (id : NodeId) : List Content :=
  F.contentOf (F.children id)

end Forest

/-- What stands beside a text. -/
inductive Neighbour where
  /-- Nothing: the text is at the edge of the element. -/
  | edge
  /-- An element. -/
  | element (isBlock isBreak : Bool)
  /-- A node of another kind. -/
  | other
deriving DecidableEq, Repr

/-- Which edges of a text between two neighbours lose their spaces. -/
def Trim.between (parentIsBlock : Bool) (before after : Neighbour) : Trim where
  atStart :=
    match before with
    | .edge => parentIsBlock
    | .element isBlock isBreak => isBlock || isBreak
    | .other => false
  atEnd :=
    match after with
    | .edge => parentIsBlock
    | .element isBlock _ => isBlock
    | .other => false

end XmlScribe
