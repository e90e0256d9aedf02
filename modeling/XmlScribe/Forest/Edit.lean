/-
**Making, moving and changing nodes.**

A new node belongs to a document but has no parent yet.

A node that is inserted is first taken from where it stands.  An insertion or a removal either
keeps to the rules of documents or is refused.

Main definitions:

* `Forest.addDocument` — a new document;
* `Forest.createElement`, `Forest.createElementNs` — a new element without or with a namespace;
* `Forest.createText` and others — the other kinds of nodes;
* `Forest.checkInsertion` — the conditions of an insertion;
* `Forest.insertBefore`, `Forest.appendChild`, `Forest.removeChild` — the operations;
* `Forest.setData`, `Forest.appendData` — changes to character data;
* `Forest.addEntity`, `Forest.setSubset` — changes to a document type.
-/

import XmlScribe.Forest.Basic

set_option autoImplicit false

namespace XmlScribe

namespace Forest

/-! ### New nodes -/

/-- A new document that says nothing and is empty. -/
def addDocument (F : Forest) : Forest × NodeId :=
  F.add ⟨.document .none false, none, none, []⟩

/-- A new node of a document. -/
def create (F : Forest) (doc : NodeId) (payload : Payload) : Forest × NodeId :=
  F.add ⟨payload, none, some doc, []⟩

/-- A new element whose name has no namespace, whatever colons it has. -/
def createElement (F : Forest) (doc : NodeId) (name : Text) :
    Except TreeFault (Forest × NodeId) :=
  (Name.check name).map fun _ => F.create doc (.element (QName.plain name) [])

/-- A new element whose name lies in a namespace. -/
def createElementNs (F : Forest) (doc : NodeId) (uri : Option Text) (name : Text) :
    Except TreeFault (Forest × NodeId) :=
  (QName.ofText uri name).map fun q => F.create doc (.element q [])

/-- New character data. -/
def createText (F : Forest) (doc : NodeId) (data : Text) : Forest × NodeId :=
  F.create doc (.text data)

/-- A new CDATA section. -/
def createCData (F : Forest) (doc : NodeId) (data : Text) : Forest × NodeId :=
  F.create doc (.cdata data)

/-- A new comment. -/
def createComment (F : Forest) (doc : NodeId) (data : Text) : Forest × NodeId :=
  F.create doc (.comment data)

/-- A new processing instruction. -/
def createInstruction (F : Forest) (doc : NodeId) (target : Text) (data : Option Text) :
    Except TreeFault (Forest × NodeId) :=
  (Instruction.checkTarget target).map fun _ => F.create doc (.instruction target data)

/-- A new document type. -/
def createDoctype (F : Forest) (doc : NodeId) (name : Text) (publicId systemId : Option Text) :
    Except TreeFault (Forest × NodeId) :=
  (Name.check name).map fun _ => F.create doc (.doctype ⟨name, publicId, systemId, none, []⟩)

/-! ### Children -/

/-- The kinds of nodes that can have children. -/
def isContainer (F : Forest) (id : NodeId) : Bool :=
  match F.type? id with
  | some .element => true
  | some .document => true
  | _ => false

/-- The node belongs to the document that `parent` is or belongs to. -/
def sharesDocument (F : Forest) (parent child : NodeId) : Bool :=
  if F.type? parent = some .document then F.owner? child == some parent
  else (F.owner? parent).isSome && F.owner? parent == F.owner? child

/-- The node may be below the other one, by their kinds. -/
def mayHold (F : Forest) (parent child : NodeId) : Bool :=
  match F.type? parent, F.type? child with
  | some p, some c => p.mayHold c
  | _, _ => false

/-- Refuses the insertion of `child` below `parent`, before the child `before` if it is given. -/
def checkInsertion (F : Forest) (parent child : NodeId) (before : Option NodeId) :
    Except TreeFault Unit :=
  if F.isReadOnly parent then .error .readOnly
  else if !F.mayHold parent child then .error .hierarchy
  else if (F.lineage parent).elem child then .error .hierarchy
  else if !F.sharesDocument parent child then .error .wrongDocument
  else if before.all (F.children parent).elem then .ok ()
  else .error .notFound

/-- A document has another node already of a kind that it may have only once. -/
def isDuplicate (F : Forest) (parent child : NodeId) : Bool :=
  match F.type? parent, F.type? child with
  | some .document, some type =>
      type.isUniqueInDocument && (F.childOfType? parent type).any (· != child)
  | _, _ => false

/-- The list with `child` before the first `before`, or at the end. -/
def place (child : NodeId) (before : Option NodeId) (list : List NodeId) : List NodeId :=
  match before with
  | none => list ++ [child]
  | some b => list.takeWhile (· != b) ++ child :: list.dropWhile (· != b)

/-- The forest with a link from a node to its parent. -/
def setParent (F : Forest) (id : NodeId) (parent : Option NodeId) : Forest :=
  F.modify id ({ · with parent := parent })

/-- The forest with other children of a node. -/
def setChildren (F : Forest) (id : NodeId) (children : List NodeId) : Forest :=
  F.modify id ({ · with children := children })

/-- The forest in which `child` is no child of `parent` any more. -/
def removeChild (F : Forest) (parent child : NodeId) : Except TreeFault Forest :=
  if !F.isContainer parent then .error .notFound
  else if F.isReadOnly parent then .error .readOnly
  else if !(F.children parent).elem child then .error .notFound
  else .ok ((F.setChildren parent ((F.children parent).erase child)).setParent child none)

/-- The forest in which a node has no parent. -/
def detach (F : Forest) (child : NodeId) : Except TreeFault Forest :=
  match F.parent? child with
  | some parent => F.removeChild parent child
  | none => .ok F

/-- The forest in which `child` stands below `parent`, before the child `before` or at the end.
Nothing changes if a node is to stand before itself. -/
def insertBefore (F : Forest) (parent child : NodeId) (before : Option NodeId) :
    Except TreeFault Forest :=
  if !F.isContainer parent then .error .hierarchy
  else if before = some child then .ok F
  else do
    F.checkInsertion parent child before
    if F.isDuplicate parent child then throw .hierarchy
    let G ← F.detach child
    G.checkInsertion parent child before
    return (G.setChildren parent (place child before (G.children parent))).setParent child parent

/-- The forest in which `child` is the last child of `parent`. -/
def appendChild (F : Forest) (parent child : NodeId) : Except TreeFault Forest :=
  F.insertBefore parent child none

/-! ### Data -/

/-- The data of a node that has data to change. -/
def data? (F : Forest) (id : NodeId) : Option Text :=
  match F.payload? id with
  | some (.text data) => some data
  | some (.cdata data) => some data
  | some (.comment data) => some data
  | some (.instruction _ data) => some (data.getD [])
  | _ => none

/-- The payload with other data. -/
def withData (data : Text) : Payload → Payload
  | .text _ => .text data
  | .cdata _ => .cdata data
  | .comment _ => .comment data
  | .instruction target _ => .instruction target (some data)
  | payload => payload

/-- The forest with other data in a node. -/
def setData (F : Forest) (id : NodeId) (data : Text) : Except TreeFault Forest :=
  (F.checkWritable id).map fun _ =>
    F.modify id fun node => { node with payload := withData data node.payload }

/-- The forest with more data at the end of a node. -/
def appendData (F : Forest) (id : NodeId) (data : Text) : Except TreeFault Forest :=
  F.setData id ((F.data? id).getD [] ++ data)

/-! ### Documents and document types -/

/-- The forest with another declaration of a document. -/
def setDeclaration (F : Forest) (doc : NodeId) (declaration : Declaration) : Forest :=
  F.modify doc fun node =>
    match node.payload with
    | .document _ readOnly => { node with payload := .document declaration readOnly }
    | _ => node

/-- The forest in which a document refuses changes, or does not. -/
def setReadOnly (F : Forest) (doc : NodeId) (readOnly : Bool) : Forest :=
  F.modify doc fun node =>
    match node.payload with
    | .document declaration _ => { node with payload := .document declaration readOnly }
    | _ => node

/-- The document type that a node carries. -/
def doctypeAt? (F : Forest) (id : NodeId) : Option Doctype :=
  match F.payload? id with
  | some (.doctype d) => some d
  | _ => none

/-- The forest with a document type changed. -/
def modifyDoctype (F : Forest) (id : NodeId) (f : Doctype → Doctype) :
    Except TreeFault Forest :=
  (F.checkWritable id).map fun _ =>
    F.modify id fun node =>
      match node.payload with
      | .doctype d => { node with payload := .doctype (f d) }
      | _ => node

/-- The forest with another internal subset of a document type. -/
def setSubset (F : Forest) (id : NodeId) (subset : Option Text) : Except TreeFault Forest :=
  F.modifyDoctype id ({ · with subset := subset })

/-- The forest with one more entity in a document type, and whether its name was new. -/
def addEntity (F : Forest) (id : NodeId) (decl : EntityDecl) :
    Except TreeFault (Forest × Bool) :=
  (F.modifyDoctype id (·.addEntity decl)).map fun G =>
    (G, !(F.doctypeAt? id).any fun d => (d.entity? decl.name).isSome)

end Forest

end XmlScribe
