/-
**What a call can do.**

A call that is not refused does one of a few things to the nodes: nothing, or there is one more, or
one that takes changes carries something else of the same kind, or a document has another
declaration, or a node is taken from where it stands, or put somewhere.  Only locking and unlocking a
document is a matter of its own.  Whatever is to be kept by all calls needs to be shown for these few
things only.

Main definitions:

* `Forest.Rewrites` — a node carries something else of the same kind;
* `Forest.Alters` — what a call can do that moves no node;
* `Forest.Effect` — the things that a call can do.

Main results:

* `Forest.cases_of_apply` — which calls move nodes, and that the others do not;
* `Forest.effect_of_apply` — a call locks or unlocks a document, or does one of the things.
-/

import XmlScribe.Proofs.Forest.Change
import XmlScribe.Proofs.Namespace.Declare

set_option autoImplicit false

namespace XmlScribe

namespace Forest

/-! ### Documents that refuse changes -/

theorem isReadOnly_of_isLocked {F : Forest} {doc : NodeId} (h : F.isLocked doc = true) :
    F.isReadOnly doc = true := by
  rw [isReadOnly_eq_isLocked, h, Bool.true_or]

theorem isReadOnly_of_checkWritable {F : Forest} {id : NodeId} (h : F.checkWritable id = .ok ()) :
    F.isReadOnly id = false := by
  rw [checkWritable] at h
  split at h
  · cases h
  · rename_i hr
    exact Bool.not_eq_true _ ▸ hr

/-! ### Nodes that carry something else -/

/-- At most this node carries something else, of the same kind. -/
structure Rewrites (F G : Forest) (id : NodeId) : Prop where
  /-- The links are the same. -/
  sameLinks : F.SameLinks G
  /-- The other nodes are the same. -/
  get?_of_ne : ∀ other, other ≠ id → G.get? other = F.get? other

theorem rewrites_modify (F : Forest) (id : NodeId) (f : Node → Node)
    (hf : ∀ node, ∃ payload : Payload, payload.type = node.payload.type ∧
      f node = { node with payload := payload }) : F.Rewrites (F.modify id f) id := by
  refine ⟨sameLinks_modify F id f (fun node => ?_) fun node => ?_, fun other hne => ?_⟩
  · obtain ⟨payload, ht, he⟩ := hf node
    rw [he, ht]
  · obtain ⟨payload, -, he⟩ := hf node
    rw [he]
    exact ⟨rfl, rfl, rfl⟩
  · rw [get?_modify, if_neg (Ne.symm hne)]

theorem rewrites_modifyCells (F : Forest) (id : NodeId) (f : List AttrCell → List AttrCell) :
    F.Rewrites (F.modifyCells id f) id := by
  refine F.rewrites_modify id _ fun node => ?_
  cases hp : node.payload with
  | element name cells => exact ⟨.element name (f cells), rfl, rfl⟩
  | _ => exact ⟨node.payload, hp ▸ rfl, rfl⟩

theorem rewrites_setDeclaration (F : Forest) (doc : NodeId) (declaration : Declaration) :
    F.Rewrites (F.setDeclaration doc declaration) doc := by
  refine F.rewrites_modify doc _ fun node => ?_
  cases hp : node.payload with
  | document _ readOnly => exact ⟨.document declaration readOnly, rfl, rfl⟩
  | _ => exact ⟨node.payload, hp ▸ rfl, rfl⟩

theorem rewrites_setReadOnly (F : Forest) (doc : NodeId) (readOnly : Bool) :
    F.Rewrites (F.setReadOnly doc readOnly) doc := by
  refine F.rewrites_modify doc _ fun node => ?_
  cases hp : node.payload with
  | document declaration _ => exact ⟨.document declaration readOnly, rfl, rfl⟩
  | _ => exact ⟨node.payload, hp ▸ rfl, rfl⟩

/-- Serial numbers and removed attributes are no nodes. -/
theorem Rewrites.of_nodes {F G H : Forest} {id : NodeId} (h : F.Rewrites G id)
    (hn : H.nodes = G.nodes) : F.Rewrites H id := by
  obtain ⟨nodes, serial, detached⟩ := G
  obtain ⟨nodes', serial', detached'⟩ := H
  obtain rfl : nodes' = nodes := hn
  exact ⟨⟨h.sameLinks.type?, h.sameLinks.parent?, h.sameLinks.children, h.sameLinks.owner?⟩,
    h.get?_of_ne⟩

/-! ### The things that a call can do -/

/-- The things that a call can do, other than locking or unlocking a document. -/
inductive Effect (F G : Forest) : Prop where
  /-- Nothing happens to the nodes. -/
  | same (h : ∀ id, G.get? id = F.get? id)
  /-- There is one more node, which stands alone. -/
  | brings (node : Node) (h : F.Brings G node)
  /-- A node that takes changes carries something else. -/
  | rewrites (id : NodeId) (hw : F.isReadOnly id = false) (h : F.Rewrites G id)
  /-- A document has another declaration. -/
  | tells (doc : NodeId) (declaration : Declaration) (h : G = F.setDeclaration doc declaration)
  /-- A node is taken from the node above it. -/
  | removes (parent child : NodeId) (h : F.removeChild parent child = .ok G)
  /-- A node is put below another one. -/
  | inserts (parent child : NodeId) (before : Option NodeId)
      (h : F.insertBefore parent child before = .ok G)

/-- The things that a call can do without moving a node. -/
inductive Alters (F G : Forest) : Prop where
  /-- Nothing happens to the nodes. -/
  | same (h : ∀ id, G.get? id = F.get? id)
  /-- There is one more node, which stands alone. -/
  | brings (node : Node) (h : F.Brings G node)
  /-- A node that takes changes carries something else. -/
  | rewrites (id : NodeId) (hw : F.isReadOnly id = false) (h : F.Rewrites G id)
  /-- A document has another declaration. -/
  | tells (doc : NodeId) (declaration : Declaration) (h : G = F.setDeclaration doc declaration)

section Effect

variable {F G : Forest}

theorem Alters.effect (h : F.Alters G) : F.Effect G := by
  cases h with
  | same h => exact .same h
  | brings node h => exact .brings node h
  | rewrites id hw h => exact .rewrites id hw h
  | tells doc declaration h => exact .tells doc declaration h

/-- A node is added, which stands alone, or the links are the same. -/
theorem Alters.brings_or_sameLinks (h : F.Alters G) :
    (∃ node, F.Brings G node) ∨ F.SameLinks G := by
  cases h with
  | same h => exact Or.inr (sameLinks_of_get? h)
  | brings node h => exact Or.inl ⟨node, h⟩
  | rewrites id _ h => exact Or.inr h.sameLinks
  | tells doc declaration h =>
      exact Or.inr (h ▸ (F.rewrites_setDeclaration doc declaration).sameLinks)

theorem alters_of_madeBy {doc : NodeId} {made : Except TreeFault (Forest × NodeId)}
    (hmade : ∀ M, made = .ok M →
      ∃ payload : Payload, payload.type ≠ .document ∧ M = F.create doc payload)
    (h : F.madeBy doc made = .ok G) : F.Alters G := by
  rw [madeBy] at h
  split at h
  · rename_i hdoc
    obtain ⟨M, hM, rfl⟩ := Outcome.map_eq_ok_iff.1 h
    obtain ⟨payload, hp, rfl⟩ := hmade M hM
    exact .brings _ (brings_create hdoc hp)
  · obtain rfl : F = G := by simpa using h
    exact .same fun _ => rfl

theorem alters_of_putAttribute {id : NodeId} {same : Attribute → Bool} {name : QName}
    {value : Text} (h : F.putAttribute id same name value = .ok G) : F.Alters G := by
  rw [putAttribute] at h
  split at h
  · cases h
  · rename_i hr
    dsimp only at h
    split at h
    · cases h
    · obtain rfl := Except.ok.inj h
      exact .rewrites id (Bool.not_eq_true _ ▸ hr) ((F.rewrites_modifyCells id _).of_nodes rfl)

theorem alters_of_setAttributeNs {id : NodeId} {uri : Option Text} {name value : Text}
    (h : F.setAttributeNs id uri name value = .ok G) : F.Alters G := by
  obtain ⟨q, -, h⟩ := Outcome.bind_eq_ok_iff.1 h
  exact alters_of_putAttribute h

theorem alters_of_setAttribute {id : NodeId} {name value : Text}
    (h : F.setAttribute id name value = .ok G) : F.Alters G := by
  rw [setAttribute] at h
  split at h
  · exact alters_of_setAttributeNs h
  · obtain ⟨_, -, h⟩ := Outcome.bind_eq_ok_iff.1 h
    exact alters_of_putAttribute h

theorem alters_of_removeAttribute {id : NodeId} {name : Text}
    (h : F.removeAttribute id name = .ok G) : F.Alters G := by
  rw [removeAttribute] at h
  split at h
  · cases h
  · rename_i hr
    split at h
    · exact .same fun _ => by rw [Except.ok.inj h]
    · obtain rfl := Except.ok.inj h
      exact .rewrites id (Bool.not_eq_true _ ▸ hr) ((F.rewrites_modifyCells id _).of_nodes rfl)

/-- An element that an attribute belongs to takes changes if its document does. -/
theorem isReadOnly_of_elementOfAttr? {serial : Nat} {id : NodeId}
    (he : F.elementOfAttr? serial = some id)
    (hr : ¬ (F.documentOfAttr? serial).any F.isReadOnly = true) : F.isReadOnly id = false := by
  rw [documentOfAttr?, he] at hr
  have hfound : (List.range F.size).find? (fun id => (F.cells id).any (·.serial == serial)) =
    some id := he
  have hcells := List.find?_some hfound
  rw [cells] at hcells
  split at hcells
  · rename_i name cells hp
    have hlocked : F.isLocked id = false := by rw [isLocked, hp]
    rw [isReadOnly_eq_isLocked, hlocked, Bool.false_or, ← Bool.not_eq_true]
    intro hany
    obtain ⟨doc, ho, hdoc⟩ := (Option.any_eq_true _ _).1 hany
    exact hr ((Option.any_eq_true _ _).2 ⟨doc, ho, isReadOnly_of_isLocked hdoc⟩)
  · simp at hcells

theorem alters_of_setAttrValue {serial : Nat} {value : Text}
    (h : F.setAttrValue serial value = .ok G) : F.Alters G := by
  rw [setAttrValue] at h
  split at h
  · cases h
  · rename_i hr
    split at h
    · rename_i id he
      exact Except.ok.inj h ▸
        .rewrites id (isReadOnly_of_elementOfAttr? he hr) (F.rewrites_modifyCells id _)
    · exact .same fun _ => by rw [← Except.ok.inj h]; rfl

theorem alters_of_setData {id : NodeId} {data : Text} (h : F.setData id data = .ok G) :
    F.Alters G := by
  obtain ⟨⟨⟩, hw, rfl⟩ := Outcome.map_eq_ok_iff.1 h
  refine .rewrites id (isReadOnly_of_checkWritable hw) (F.rewrites_modify id _ fun node =>
    ⟨withData data node.payload, ?_, rfl⟩)
  cases node.payload <;> rfl

theorem alters_of_modifyDoctype {id : NodeId} {f : Doctype → Doctype}
    (h : F.modifyDoctype id f = .ok G) : F.Alters G := by
  obtain ⟨⟨⟩, hw, rfl⟩ := Outcome.map_eq_ok_iff.1 h
  refine .rewrites id (isReadOnly_of_checkWritable hw) (F.rewrites_modify id _ fun node => ?_)
  cases hp : node.payload with
  | doctype d => exact ⟨.doctype (f d), rfl, rfl⟩
  | _ => exact ⟨node.payload, hp ▸ rfl, rfl⟩

theorem alters_of_addEntity {id : NodeId} {decl : EntityDecl}
    (h : (F.addEntity id decl).map Prod.fst = .ok G) : F.Alters G := by
  obtain ⟨M, hM, rfl⟩ := Outcome.map_eq_ok_iff.1 h
  obtain ⟨H, hH, rfl⟩ := Outcome.map_eq_ok_iff.1 hM
  exact alters_of_modifyDoctype hH

/-- A call that is not refused locks or unlocks a document, takes a node from where it stands, puts
one somewhere, or moves no node. -/
theorem cases_of_apply {change : Change} (h : change.apply F = .ok G) :
    (∃ doc readOnly, change = .setReadOnly doc readOnly ∧ G = F.setReadOnly doc readOnly) ∨
      (∃ parent child, change = .removeChild parent child ∧ F.removeChild parent child = .ok G) ∨
      (∃ parent child before, (change = .insertBefore parent child before ∨
          change = .appendChild parent child ∧ before = none) ∧
        F.insertBefore parent child before = .ok G) ∨
      F.Alters G := by
  have still : ∀ {P Q R : Prop}, F.Alters G → P ∨ Q ∨ R ∨ F.Alters G :=
    fun h => Or.inr (Or.inr (Or.inr h))
  cases change with
  | addDocument => exact still (Except.ok.inj h ▸ .brings _ (brings_addDocument F))
  | createElement doc name =>
      refine still (alters_of_madeBy (fun M hM => ?_) h)
      obtain ⟨_, -, rfl⟩ := Outcome.map_eq_ok_iff.1 hM
      exact ⟨_, by simp [Payload.type], rfl⟩
  | createElementNs doc uri name =>
      refine still (alters_of_madeBy (fun M hM => ?_) h)
      obtain ⟨q, -, rfl⟩ := Outcome.map_eq_ok_iff.1 hM
      exact ⟨_, by simp [Payload.type], rfl⟩
  | createText doc data =>
      exact still (alters_of_madeBy
        (fun M hM => ⟨.text data, by simp [Payload.type], Except.ok.inj hM.symm⟩) h)
  | createCData doc data =>
      exact still (alters_of_madeBy
        (fun M hM => ⟨.cdata data, by simp [Payload.type], Except.ok.inj hM.symm⟩) h)
  | createComment doc data =>
      exact still (alters_of_madeBy
        (fun M hM => ⟨.comment data, by simp [Payload.type], Except.ok.inj hM.symm⟩) h)
  | createInstruction doc target data =>
      refine still (alters_of_madeBy (fun M hM => ?_) h)
      obtain ⟨_, -, rfl⟩ := Outcome.map_eq_ok_iff.1 hM
      exact ⟨_, by simp [Payload.type], rfl⟩
  | createDoctype doc name publicId systemId =>
      refine still (alters_of_madeBy (fun M hM => ?_) h)
      obtain ⟨_, -, rfl⟩ := Outcome.map_eq_ok_iff.1 hM
      exact ⟨_, by simp [Payload.type], rfl⟩
  | insertBefore parent child before =>
      exact Or.inr (Or.inr (Or.inl ⟨parent, child, before, Or.inl rfl, h⟩))
  | appendChild parent child =>
      exact Or.inr (Or.inr (Or.inl ⟨parent, child, none, Or.inr ⟨rfl, rfl⟩, h⟩))
  | removeChild parent child => exact Or.inr (Or.inl ⟨parent, child, rfl, h⟩)
  | setAttribute id name value => exact still (alters_of_setAttribute h)
  | setAttributeNs id uri name value => exact still (alters_of_setAttributeNs h)
  | removeAttribute id name => exact still (alters_of_removeAttribute h)
  | setAttrValue serial value => exact still (alters_of_setAttrValue h)
  | setData id data => exact still (alters_of_setData h)
  | appendData id data => exact still (alters_of_setData h)
  | setSubset id subset => exact still (alters_of_modifyDoctype h)
  | addEntity id decl => exact still (alters_of_addEntity h)
  | setDeclaration doc declaration => exact still (.tells doc declaration (Except.ok.inj h).symm)
  | setReadOnly doc readOnly => exact Or.inl ⟨doc, readOnly, rfl, (Except.ok.inj h).symm⟩

/-- A call that is not refused locks or unlocks a document, or does one of the other things. -/
theorem effect_of_apply {change : Change} (h : change.apply F = .ok G) :
    (∃ doc readOnly, change = .setReadOnly doc readOnly ∧ G = F.setReadOnly doc readOnly) ∨
      F.Effect G := by
  rcases cases_of_apply h with hlock | ⟨parent, child, -, h⟩ | ⟨parent, child, before, -, h⟩ | h
  · exact Or.inl hlock
  · exact Or.inr (.removes parent child h)
  · exact Or.inr (.inserts parent child before h)
  · exact Or.inr h.effect

end Effect

end Forest

end XmlScribe
