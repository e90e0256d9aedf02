/-
**The attributes of nodes.**

Main definitions:

* `Forest.attributes` — the attributes of an element, in the order in which they were added;
* `Forest.setAttribute`, `Forest.setAttributeNs`, `Forest.removeAttribute` — the changes;
* `Forest.elementOfAttr?`, `Forest.attrWithSerial?` — an attribute found again by its serial number;
* `Forest.setAttrValue` — another value for such an attribute.
-/

import XmlScribe.Forest.Basic

set_option autoImplicit false

namespace XmlScribe

namespace Forest

/-- The attributes of an element with their serial numbers. -/
def cells (F : Forest) (id : NodeId) : List AttrCell :=
  match F.payload? id with
  | some (.element _ cells) => cells
  | _ => []

/-- The attributes of an element. -/
def attributes (F : Forest) (id : NodeId) : List Attribute :=
  (F.cells id).map AttrCell.attr

/-- The first attribute that is written with this name. -/
def attrNamed? (F : Forest) (id : NodeId) (name : Text) : Option AttrCell :=
  (F.cells id).find? fun cell => cell.attr.hasText name

/-- The first attribute with this namespace and local name. -/
def attrNamedNs? (F : Forest) (id : NodeId) (uri : Option Text) (localName : Text) :
    Option AttrCell :=
  (F.cells id).find? fun cell =>
    cell.attr.hasExpandedName (QName.someNamespace uri) localName

/-! ### Changes -/

/-- The forest with the attributes of an element changed. -/
def modifyCells (F : Forest) (id : NodeId) (f : List AttrCell → List AttrCell) : Forest :=
  F.modify id fun node =>
    match node.payload with
    | .element name cells => { node with payload := .element name (f cells) }
    | _ => node

/-- The cell with another value. -/
def withValue (value : Text) (cell : AttrCell) : AttrCell :=
  { cell with attr := { cell.attr with value := value } }

/-- The forest with the attribute that `same` holds of set to a value, or with a new attribute.
A new attribute needs a document that it can belong to. -/
def putAttribute (F : Forest) (id : NodeId) (same : Attribute → Bool) (name : QName)
    (value : Text) : Except TreeFault Forest :=
  if F.isReadOnly id then .error .readOnly
  else
    let known := (F.cells id).any fun cell => same cell.attr
    if !known && (F.owner? id).isNone then .error .wrongDocument
    else
      let new : AttrCell := ⟨F.nextSerial, ⟨name, value⟩⟩
      let G := F.modifyCells id
        (Attribute.put (fun cell => same cell.attr) (withValue value) new)
      .ok { G with nextSerial := F.nextSerial + 1 }

/-- The forest with an attribute of an element set to a value.  Attributes are told apart by
namespace and local name. -/
def setAttributeNs (F : Forest) (id : NodeId) (uri : Option Text) (name value : Text) :
    Except TreeFault Forest := do
  let q ← QName.ofText uri name
  F.putAttribute id (Attribute.hasExpandedName q.namespaceUri q.localName) q value

/-- The forest with an attribute of an element set to a value.  Attributes are told apart by the
names that they are written with; names of namespace declarations lie in their own namespace. -/
def setAttribute (F : Forest) (id : NodeId) (name value : Text) : Except TreeFault Forest :=
  if Attribute.isDeclarationName name then F.setAttributeNs id (some xmlnsUri) name value
  else do
    Name.check name
    F.putAttribute id (Attribute.hasText name) (QName.plain name) value

/-- The forest without the first attribute of an element that is written with this name. -/
def removeAttribute (F : Forest) (id : NodeId) (name : Text) : Except TreeFault Forest :=
  if F.isReadOnly id then .error .readOnly
  else
    match F.attrNamed? id name with
    | none => .ok F
    | some cell =>
        let G := F.modifyCells id fun cells =>
          cells.eraseP fun cell => cell.attr.hasText name
        .ok { G with detached := ⟨cell, F.owner? id⟩ :: G.detached }

/-! ### Attributes by serial number -/

/-- The element that the attribute belongs to. -/
def elementOfAttr? (F : Forest) (serial : Nat) : Option NodeId :=
  (List.range F.size).find? fun id => (F.cells id).any (·.serial == serial)

/-- The attribute, wherever it is. -/
def attrWithSerial? (F : Forest) (serial : Nat) : Option Attribute :=
  match F.elementOfAttr? serial with
  | some id =>
      ((F.cells id).find? (·.serial == serial)).map AttrCell.attr
  | none => (F.detached.find? (·.cell.serial == serial)).map (·.cell.attr)

/-- The document that the attribute belongs to. -/
def documentOfAttr? (F : Forest) (serial : Nat) : Option NodeId :=
  match F.elementOfAttr? serial with
  | some id => F.owner? id
  | none => (F.detached.find? (·.cell.serial == serial)).bind DetachedAttr.owner

/-- The cell with another value, if it has this serial number. -/
def withValueOf (serial : Nat) (value : Text) (cell : AttrCell) : AttrCell :=
  if cell.serial = serial then withValue value cell else cell

/-- The forest with the attribute set to a value. -/
def setAttrValue (F : Forest) (serial : Nat) (value : Text) : Except TreeFault Forest :=
  if (F.documentOfAttr? serial).any F.isReadOnly then .error .readOnly
  else
    match F.elementOfAttr? serial with
    | some id => .ok (F.modifyCells id (List.map (withValueOf serial value)))
    | none =>
        let change (d : DetachedAttr) := { d with cell := withValueOf serial value d.cell }
        .ok { F with detached := F.detached.map change }

end Forest

end XmlScribe
