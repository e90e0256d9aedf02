/-
**Calls that change a forest.**

A forest grows and changes by calls: documents are added, documents make nodes, nodes are inserted,
moved, removed and given other contents.  A call that is refused leaves the forest as it is.

Main definitions:

* `Change`, `Change.apply` — the calls, and what they do;
* `Forest.step`, `Forest.run` — a forest after a call, after some calls.

Main results:

* `Forest.brings_create`, `Forest.brings_addDocument` — a node that is made stands alone.
-/

import XmlScribe.Forest.Attributes
import XmlScribe.Proofs.Forest.WellLinked

set_option autoImplicit false

namespace XmlScribe

/-- A call that changes a forest. -/
inductive Change where
  /-- A new document. -/
  | addDocument
  /-- A new element whose name has no namespace. -/
  | createElement (doc : NodeId) (name : Text)
  /-- A new element whose name lies in a namespace. -/
  | createElementNs (doc : NodeId) (uri : Option Text) (name : Text)
  /-- New character data. -/
  | createText (doc : NodeId) (data : Text)
  /-- A new CDATA section. -/
  | createCData (doc : NodeId) (data : Text)
  /-- A new comment. -/
  | createComment (doc : NodeId) (data : Text)
  /-- A new processing instruction. -/
  | createInstruction (doc : NodeId) (target : Text) (data : Option Text)
  /-- A new document type. -/
  | createDoctype (doc : NodeId) (name : Text) (publicId systemId : Option Text)
  /-- A node is put below another one, before one of its children or at the end. -/
  | insertBefore (parent child : NodeId) (before : Option NodeId)
  /-- A node is put below another one, at the end. -/
  | appendChild (parent child : NodeId)
  /-- A node is taken from the node above it. -/
  | removeChild (parent child : NodeId)
  /-- An attribute is set, told by the name that it is written with. -/
  | setAttribute (id : NodeId) (name value : Text)
  /-- An attribute is set, told by namespace and local name. -/
  | setAttributeNs (id : NodeId) (uri : Option Text) (name value : Text)
  /-- An attribute is removed. -/
  | removeAttribute (id : NodeId) (name : Text)
  /-- An attribute is set, told by its serial number. -/
  | setAttrValue (serial : Nat) (value : Text)
  /-- Other data in a node. -/
  | setData (id : NodeId) (data : Text)
  /-- More data in a node. -/
  | appendData (id : NodeId) (data : Text)
  /-- Another internal subset of a document type. -/
  | setSubset (id : NodeId) (subset : Option Text)
  /-- One more entity in a document type. -/
  | addEntity (id : NodeId) (decl : EntityDecl)
  /-- Another declaration of a document. -/
  | setDeclaration (doc : NodeId) (declaration : Declaration)
  /-- A document refuses changes from now on, or does not any more. -/
  | setReadOnly (doc : NodeId) (readOnly : Bool)
deriving DecidableEq, Repr

namespace Forest

/-- What a document has made.  Nothing else makes nodes. -/
def madeBy (F : Forest) (doc : NodeId) (made : Except TreeFault (Forest × NodeId)) :
    Except TreeFault Forest :=
  if F.type? doc = some .document then made.map Prod.fst else .ok F

end Forest

/-- What a call does. -/
def Change.apply (F : Forest) : Change → Except TreeFault Forest
  | addDocument => .ok F.addDocument.1
  | createElement doc name => F.madeBy doc (F.createElement doc name)
  | createElementNs doc uri name => F.madeBy doc (F.createElementNs doc uri name)
  | createText doc data => F.madeBy doc (.ok (F.createText doc data))
  | createCData doc data => F.madeBy doc (.ok (F.createCData doc data))
  | createComment doc data => F.madeBy doc (.ok (F.createComment doc data))
  | createInstruction doc target data => F.madeBy doc (F.createInstruction doc target data)
  | createDoctype doc name publicId systemId =>
      F.madeBy doc (F.createDoctype doc name publicId systemId)
  | insertBefore parent child before => F.insertBefore parent child before
  | appendChild parent child => F.appendChild parent child
  | removeChild parent child => F.removeChild parent child
  | setAttribute id name value => F.setAttribute id name value
  | setAttributeNs id uri name value => F.setAttributeNs id uri name value
  | removeAttribute id name => F.removeAttribute id name
  | setAttrValue serial value => F.setAttrValue serial value
  | setData id data => F.setData id data
  | appendData id data => F.appendData id data
  | setSubset id subset => F.setSubset id subset
  | addEntity id decl => (F.addEntity id decl).map Prod.fst
  | setDeclaration doc declaration => .ok (F.setDeclaration doc declaration)
  | setReadOnly doc readOnly => .ok (F.setReadOnly doc readOnly)

namespace Forest

/-- The forest after a call.  A call that is refused changes nothing. -/
def step (F : Forest) (change : Change) : Forest :=
  match change.apply F with
  | .ok G => G
  | .error _ => F

/-- The forest after some calls. -/
def run (F : Forest) (changes : List Change) : Forest :=
  changes.foldl step F

/-! ### New nodes -/

/-- A document makes a node that stands alone. -/
theorem brings_create {F : Forest} {doc : NodeId} {payload : Payload}
    (hdoc : F.type? doc = some .document) (hp : payload.type ≠ .document) :
    F.Brings (F.create doc payload).1 ⟨payload, none, some doc, []⟩ :=
  ⟨get?_add F _, rfl, rfl, Or.inr ⟨hp, doc, rfl, hdoc⟩⟩

/-- A new document stands alone. -/
theorem brings_addDocument (F : Forest) :
    F.Brings F.addDocument.1 ⟨.document .none false, none, none, []⟩ :=
  ⟨get?_add F _, rfl, rfl, Or.inl ⟨rfl, rfl⟩⟩

end Forest

end XmlScribe
