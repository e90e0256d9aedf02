/-
**What the nodes of a forest carry.**

A property of what a node carries is kept by a change if what is new or changed has it.  Calls make
elements without attributes, put attributes on them, take attributes from them and give attributes
other values; a property of an element that all of these keep is kept by every call that gives it
attributes with such names as the property allows.

Main definitions:

* `Forest.CarriesAt`, `Forest.Carries` — a node carries something with the property, all nodes do;
* `Change.given?` — the attribute that a call sets on an element;
* `Payload.IsKept` — what calls do to an element keeps the property.

Main results:

* `Forest.CarriesAt.add`, `Forest.CarriesAt.modify` — a new node, a changed node;
* `Forest.CarriesAt.of_madeBy` — a node that a document has made;
* `Forest.CarriesAt.step`, `Forest.CarriesAt.run` — a call, some calls.
-/

import XmlScribe.Proofs.Forest.Change
import XmlScribe.Proofs.Namespace.Declare

set_option autoImplicit false

namespace XmlScribe

namespace Forest

/-- What the node carries has the property. -/
def CarriesAt (F : Forest) (id : NodeId) (P : Payload → Prop) : Prop :=
  ∀ payload, F.payload? id = some payload → P payload

/-- All nodes carry something with the property. -/
def Carries (F : Forest) (P : Payload → Prop) : Prop :=
  ∀ id payload, F.payload? id = some payload → P payload

variable {P : Payload → Prop}

theorem carries_empty : empty.Carries P := by
  intro id payload h
  simp [payload?, get?, empty] at h

namespace CarriesAt

variable {F G : Forest} {id : NodeId} (hF : F.CarriesAt id P)
include hF

theorem of_get? {node : Node} (h : F.get? id = some node) : P node.payload :=
  hF _ (by rw [payload?, h]; rfl)

theorem of_payload? (h : G.payload? id = F.payload? id) : G.CarriesAt id P :=
  fun payload hp => hF payload (h ▸ hp)

theorem add {node : Node} (h : P node.payload) : (F.add node).1.CarriesAt id P := by
  intro payload hp
  rw [payload?, get?_add] at hp
  split at hp
  · exact Option.some.inj hp ▸ h
  · exact hF payload hp

theorem modify {target : NodeId} {f : Node → Node}
    (h : target = id → ∀ node, P node.payload → P (f node).payload) :
    (F.modify target f).CarriesAt id P := by
  intro payload hp
  rw [payload?, get?_modify] at hp
  split at hp
  · rename_i ht
    rw [Option.map_map] at hp
    obtain ⟨node, hn, rfl⟩ := Option.map_eq_some_iff.1 hp
    exact h ht node (hF.of_get? hn)
  · exact hF payload hp

theorem of_madeBy {doc : NodeId} {made : Except TreeFault (Forest × NodeId)}
    (hmade : ∀ M, made = .ok M → ∃ payload, P payload ∧ M = F.create doc payload)
    (h : F.madeBy doc made = .ok G) : G.CarriesAt id P := by
  rw [madeBy] at h
  split at h
  · obtain ⟨M, hM, rfl⟩ := Outcome.map_eq_ok_iff.1 h
    obtain ⟨payload, hp, rfl⟩ := hmade M hM
    exact hF.add hp
  · obtain rfl : F = G := by simpa using h
    exact hF

/-- The attributes of an element may be changed to what keeps the property. -/
theorem modifyCells {target : NodeId} {f : List AttrCell → List AttrCell}
    (h : target = id → ∀ name cells, P (.element name cells) → P (.element name (f cells))) :
    (F.modifyCells target f).CarriesAt id P := by
  refine hF.modify fun ht node hn => ?_
  obtain ⟨payload, parent, owner, children⟩ := node
  cases payload with
  | element name cells => exact h ht name cells hn
  | _ => exact hn

/-- Where an attribute is set, a new one or another value is put among the attributes. -/
theorem putAttribute {target : NodeId} {same : Attribute → Bool} {name : QName} {value : Text}
    (h : F.putAttribute target same name value = .ok G)
    (hput : target = id → ∀ q cells, P (.element q cells) →
      P (.element q (Attribute.put (fun cell => same cell.attr) (withValue value)
        ⟨F.nextSerial, ⟨name, value⟩⟩ cells))) : G.CarriesAt id P := by
  rw [Forest.putAttribute] at h
  split at h
  · cases h
  · dsimp only at h
    split at h
    · cases h
    · obtain rfl := Except.ok.inj h
      exact (hF.modifyCells hput).of_payload? rfl

end CarriesAt

namespace Carries

variable {F G : Forest} (hF : F.Carries P)
include hF

theorem of_get? {id : NodeId} {node : Node} (h : F.get? id = some node) : P node.payload :=
  CarriesAt.of_get? (hF id) h

theorem of_payload? (h : ∀ id, G.payload? id = F.payload? id) : G.Carries P :=
  fun id => CarriesAt.of_payload? (hF id) (h id)

theorem add {node : Node} (h : P node.payload) : (F.add node).1.Carries P :=
  fun id => CarriesAt.add (hF id) h

theorem modify {target : NodeId} {f : Node → Node}
    (h : ∀ node, P node.payload → P (f node).payload) : (F.modify target f).Carries P :=
  fun id => CarriesAt.modify (hF id) fun _ => h

theorem of_madeBy {doc : NodeId} {made : Except TreeFault (Forest × NodeId)}
    (hmade : ∀ M, made = .ok M → ∃ payload, P payload ∧ M = F.create doc payload)
    (h : F.madeBy doc made = .ok G) : G.Carries P :=
  fun id => CarriesAt.of_madeBy (hF id) hmade h

theorem modifyCells {target : NodeId} {f : List AttrCell → List AttrCell}
    (h : ∀ name cells, P (.element name cells) → P (.element name (f cells))) :
    (F.modifyCells target f).Carries P :=
  fun id => CarriesAt.modifyCells (hF id) fun _ => h

theorem putAttribute {target : NodeId} {same : Attribute → Bool} {name : QName} {value : Text}
    (h : F.putAttribute target same name value = .ok G)
    (hput : ∀ q cells, P (.element q cells) →
      P (.element q (Attribute.put (fun cell => same cell.attr) (withValue value)
        ⟨F.nextSerial, ⟨name, value⟩⟩ cells))) : G.Carries P :=
  fun id => CarriesAt.putAttribute (hF id) h fun _ => hput

end Carries

end Forest

/-! ### What calls keep -/

/-- The attribute that a call sets on an element: the name that it is written with, and its
namespace. -/
def Change.given? (id : NodeId) : Change → Option (Text × Option Text)
  | setAttribute target name _ =>
      if target = id then
        some (name, if Attribute.isDeclarationName name then some xmlnsUri else none)
      else none
  | setAttributeNs target uri name _ =>
      if target = id then some (name, QName.someNamespace uri) else none
  | _ => none

/-- What calls do to an element keeps the property, if they set only attributes that it may have.
Other nodes have the property whatever they carry. -/
structure Payload.IsKept (may : Text → Option Text → Prop) (P : Payload → Prop) : Prop where
  /-- Nothing is asked of other nodes. -/
  other : ∀ payload : Payload, payload.type ≠ .element → P payload
  /-- An element whose name has no namespace. -/
  plain : ∀ name, P (.element (QName.plain name) [])
  /-- An element whose name lies in a namespace. -/
  made : ∀ {uri text q}, QName.ofText uri text = .ok q → P (.element q [])
  /-- An attribute that is told by namespace and local name is set. -/
  putExpanded : ∀ {uri text q name cells} (serial value), QName.ofText uri text = .ok q →
    may text (QName.someNamespace uri) → P (.element name cells) →
    P (.element name (Attribute.put
      (fun cell => cell.attr.hasExpandedName q.namespaceUri q.localName)
      (Forest.withValue value) ⟨serial, ⟨q, value⟩⟩ cells))
  /-- An attribute that is told by the name that it is written with is set. -/
  putPlain : ∀ {text name cells} (serial value), may text none → P (.element name cells) →
    P (.element name (Attribute.put (fun cell => cell.attr.hasText text)
      (Forest.withValue value) ⟨serial, ⟨QName.plain text, value⟩⟩ cells))
  /-- An attribute is removed. -/
  erase : ∀ {name cells} (text), P (.element name cells) →
    P (.element name (cells.eraseP fun cell => cell.attr.hasText text))
  /-- An attribute that is told by its serial number is set. -/
  revalue : ∀ {name cells} (serial value), P (.element name cells) →
    P (.element name (cells.map (Forest.withValueOf serial value)))

namespace Forest.CarriesAt

variable {may : Text → Option Text → Prop} {P : Payload → Prop} {F G : Forest} {id : NodeId}
  (hP : Payload.IsKept may P) (hF : F.CarriesAt id P)
include hP hF

theorem setAttributeNs {target : NodeId} {uri : Option Text} {name value : Text}
    (hmay : target = id → may name (QName.someNamespace uri))
    (h : F.setAttributeNs target uri name value = .ok G) : G.CarriesAt id P := by
  obtain ⟨q, hq, h⟩ := Outcome.bind_eq_ok_iff.1 h
  exact hF.putAttribute h fun ht _ _ hn => hP.putExpanded _ _ hq (hmay ht) hn

/-- A declaration is an attribute that is set. -/
theorem declare {target : NodeId} {b : Binding}
    (hmay : target = id → may b.declarationName (some xmlnsUri))
    (h : F.declare target b = .ok G) : G.CarriesAt id P := by
  rw [Forest.declare] at h
  split at h
  · exact Except.ok.inj h ▸ hF
  · exact hF.setAttributeNs hP hmay h

theorem setAttribute {target : NodeId} {name value : Text}
    (hmay : target = id →
      may name (if Attribute.isDeclarationName name then some xmlnsUri else none))
    (h : F.setAttribute target name value = .ok G) : G.CarriesAt id P := by
  rw [Forest.setAttribute] at h
  split at h
  · rename_i hd
    rw [if_pos hd] at hmay
    exact hF.setAttributeNs hP hmay h
  · rename_i hd
    rw [if_neg hd] at hmay
    obtain ⟨_, -, h⟩ := Outcome.bind_eq_ok_iff.1 h
    exact hF.putAttribute h fun ht _ _ hn => hP.putPlain _ _ (hmay ht) hn

theorem removeAttribute {target : NodeId} {name : Text}
    (h : F.removeAttribute target name = .ok G) : G.CarriesAt id P := by
  rw [Forest.removeAttribute] at h
  split at h
  · cases h
  · split at h
    · exact Except.ok.inj h ▸ hF
    · obtain rfl := Except.ok.inj h
      exact (hF.modifyCells fun _ _ _ hn => hP.erase name hn).of_payload? rfl

theorem setAttrValue {serial : Nat} {value : Text} (h : F.setAttrValue serial value = .ok G) :
    G.CarriesAt id P := by
  rw [Forest.setAttrValue] at h
  split at h
  · cases h
  · split at h
    · exact Except.ok.inj h ▸ hF.modifyCells fun _ _ _ hn => hP.revalue serial value hn
    · obtain rfl := Except.ok.inj h
      exact hF.of_payload? rfl

/-- A change that leaves elements alone and makes none. -/
theorem modifyOther {target : NodeId} {f : Node → Node}
    (h : ∀ node, (f node).payload = node.payload ∨ (f node).payload.type ≠ .element) :
    (F.modify target f).CarriesAt id P := by
  refine hF.modify fun _ node hn => ?_
  rcases h node with hsame | hother
  · exact hsame ▸ hn
  · exact hP.other _ hother

theorem setData {target : NodeId} {data : Text} (h : F.setData target data = .ok G) :
    G.CarriesAt id P := by
  obtain ⟨_, -, rfl⟩ := Outcome.map_eq_ok_iff.1 h
  refine hF.modifyOther hP fun node => ?_
  cases hp : node.payload with
  | element name cells => exact Or.inl rfl
  | _ => exact Or.inr (by simp [withData, Payload.type])

theorem modifyDoctype {target : NodeId} {f : Doctype → Doctype}
    (h : F.modifyDoctype target f = .ok G) : G.CarriesAt id P := by
  obtain ⟨_, -, rfl⟩ := Outcome.map_eq_ok_iff.1 h
  refine hF.modifyOther hP fun node => ?_
  cases hp : node.payload with
  | doctype d => exact Or.inr (by simp [Payload.type])
  | _ => exact Or.inl hp

/-- A call that is not refused. -/
theorem apply {change : Change}
    (hmay : ∀ text uri, change.given? id = some (text, uri) → may text uri)
    (h : change.apply F = .ok G) : G.CarriesAt id P := by
  cases change with
  | addDocument =>
      exact Except.ok.inj h ▸ hF.add (hP.other (.document .none false) (by decide))
  | createElement doc name =>
      refine hF.of_madeBy (fun M hM => ?_) h
      obtain ⟨_, -, rfl⟩ := Outcome.map_eq_ok_iff.1 hM
      exact ⟨.element (QName.plain name) [], hP.plain name, rfl⟩
  | createElementNs doc uri name =>
      refine hF.of_madeBy (fun M hM => ?_) h
      obtain ⟨q, hq, rfl⟩ := Outcome.map_eq_ok_iff.1 hM
      exact ⟨.element q [], hP.made hq, rfl⟩
  | createText doc data =>
      exact hF.of_madeBy (fun M hM =>
        ⟨.text data, hP.other _ (by simp [Payload.type]), Except.ok.inj hM.symm⟩) h
  | createCData doc data =>
      exact hF.of_madeBy (fun M hM =>
        ⟨.cdata data, hP.other _ (by simp [Payload.type]), Except.ok.inj hM.symm⟩) h
  | createComment doc data =>
      exact hF.of_madeBy (fun M hM =>
        ⟨.comment data, hP.other _ (by simp [Payload.type]), Except.ok.inj hM.symm⟩) h
  | createInstruction doc target data =>
      refine hF.of_madeBy (fun M hM => ?_) h
      obtain ⟨_, -, rfl⟩ := Outcome.map_eq_ok_iff.1 hM
      exact ⟨.instruction target data, hP.other _ (by simp [Payload.type]), rfl⟩
  | createDoctype doc name publicId systemId =>
      refine hF.of_madeBy (fun M hM => ?_) h
      obtain ⟨_, -, rfl⟩ := Outcome.map_eq_ok_iff.1 hM
      exact ⟨.doctype ⟨name, publicId, systemId, none, []⟩,
        hP.other _ (by simp [Payload.type]), rfl⟩
  | insertBefore parent child before => exact hF.of_payload? (payload?_insertBefore h id)
  | appendChild parent child => exact hF.of_payload? (payload?_insertBefore h id)
  | removeChild parent child => exact hF.of_payload? (payload?_removeChild h id)
  | setAttribute target name value =>
      exact hF.setAttribute hP (fun ht => hmay _ _ (if_pos ht)) h
  | setAttributeNs target uri name value =>
      exact hF.setAttributeNs hP (fun ht => hmay _ _ (if_pos ht)) h
  | removeAttribute target name => exact hF.removeAttribute hP h
  | setAttrValue serial value => exact hF.setAttrValue hP h
  | setData target data => exact hF.setData hP h
  | appendData target data => exact hF.setData hP h
  | setSubset target subset => exact hF.modifyDoctype hP h
  | addEntity target decl =>
      obtain ⟨M, hM, rfl⟩ := Outcome.map_eq_ok_iff.1 h
      obtain ⟨H, hH, rfl⟩ := Outcome.map_eq_ok_iff.1 hM
      exact hF.modifyDoctype hP hH
  | setDeclaration doc declaration =>
      refine Except.ok.inj h ▸ hF.modifyOther hP fun node => ?_
      cases hp : node.payload with
      | document _ _ => exact Or.inr (by simp [Payload.type])
      | _ => exact Or.inl hp
  | setReadOnly doc readOnly =>
      refine Except.ok.inj h ▸ hF.modifyOther hP fun node => ?_
      cases hp : node.payload with
      | document _ _ => exact Or.inr (by simp [Payload.type])
      | _ => exact Or.inl hp

/-- A call, whether it is refused or not. -/
theorem step {change : Change}
    (hmay : ∀ text uri, change.given? id = some (text, uri) → may text uri) :
    (F.step change).CarriesAt id P := by
  rw [Forest.step]
  cases h : change.apply F with
  | ok G => exact hF.apply hP hmay h
  | error fault => exact hF

theorem run {changes : List Change}
    (hmay : ∀ change ∈ changes, ∀ text uri, change.given? id = some (text, uri) → may text uri) :
    (F.run changes).CarriesAt id P := by
  induction changes generalizing F with
  | nil => exact hF
  | cons change changes ih =>
      exact ih (hF.step hP (hmay change (by simp))) fun other ho => hmay other (by simp [ho])

end Forest.CarriesAt

namespace Forest.Carries

variable {P : Payload → Prop} {F G : Forest} (hP : Payload.IsKept (fun _ _ => True) P)
  (hF : F.Carries P)
include hP hF

theorem declare {target : NodeId} {b : Binding} (h : F.declare target b = .ok G) :
    G.Carries P :=
  fun id => CarriesAt.declare hP (hF id) (fun _ => trivial) h

theorem step (change : Change) : (F.step change).Carries P :=
  fun id => CarriesAt.step hP (hF id) fun _ _ _ => trivial

theorem run (changes : List Change) : (F.run changes).Carries P :=
  fun id => CarriesAt.run hP (hF id) fun _ _ _ _ _ => trivial

end Forest.Carries

end XmlScribe
