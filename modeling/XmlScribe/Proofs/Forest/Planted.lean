/-
**A planted document.**

When a document becomes nodes of a forest, every item becomes a node with a number of its own, below
the node of the item that it stands in.  The numbers are new, so the nodes that were there before
stay as they are, and later nodes leave these alone.

Main definitions:

* `Document.doctype?` — the document type of a document;
* `Item.count` — the number of nodes of an item;
* `Forest.Holds` — the item is planted under a number;
* `Forest.Extends`, `Forest.Agrees` — nodes that have stayed as they are;
* `Forest.IsPlanted` — the document is planted under a number.

Main results:

* `Forest.planted_plantItem` — planting an item takes new numbers only and makes its nodes;
* `Forest.isPlanted_plant` — planting a document plants it;
* `Forest.IsPlanted.doctype?`, `Forest.IsPlanted.holdsAt_root?` — its type and its element.
-/

import XmlScribe.Forest.Adopt
import XmlScribe.Markup.Builder
import XmlScribe.Proofs.Forest.Links

set_option autoImplicit false

namespace XmlScribe

/-- The document type, if the item is one. -/
def Item.doctype? : Item → Option Doctype
  | doctype d => some d
  | _ => none

/-- The document type of a document. -/
def Document.doctype? (doc : Document) : Option Doctype :=
  (doc.content.find? Item.isDoctype).bind Item.doctype?

namespace Item

mutual

/-- The number of nodes of an item. -/
def countAt : Item → Nat
  | element _ _ content => count content + 1
  | _ => 1

/-- The number of nodes of some items. -/
def count : List Item → Nat
  | [] => 0
  | item :: items => countAt item + count items

end

theorem countAt_le_count {item : Item} {items : List Item} (h : item ∈ items) :
    item.countAt ≤ count items := by
  induction items with
  | nil => simp at h
  | cons first items ih =>
      rw [count]
      rcases List.mem_cons.1 h with rfl | h
      · exact Nat.le_add_right _ _
      · exact Nat.le_trans (ih h) (Nat.le_add_left _ _)

end Item

namespace Forest

/-! ### Nodes of items -/

mutual

/-- The item is planted as the node `id` below `parent`. -/
def HoldsAt (F : Forest) (owner parent id : NodeId) : Item → Prop
  | .element name attributes content => ∃ cells children,
      cells.map AttrCell.attr = attributes ∧
      F.get? id = some ⟨.element name cells, some parent, some owner, children⟩ ∧
      Holds F owner id children content
  | .text data => F.get? id = some ⟨.text data, some parent, some owner, []⟩
  | .cdata data => F.get? id = some ⟨.cdata data, some parent, some owner, []⟩
  | .comment data => F.get? id = some ⟨.comment data, some parent, some owner, []⟩
  | .instruction target data =>
      F.get? id = some ⟨.instruction target data, some parent, some owner, []⟩
  | .doctype d => F.get? id = some ⟨.doctype d, some parent, some owner, []⟩

/-- The items are planted as nodes below `parent`. -/
def Holds (F : Forest) (owner parent : NodeId) : List NodeId → List Item → Prop
  | [], [] => True
  | id :: ids, item :: items => HoldsAt F owner parent id item ∧ Holds F owner parent ids items
  | _, _ => False

end

theorem eq_nil_of_holds_nil {F : Forest} {owner parent : NodeId} {ids : List NodeId}
    (h : F.Holds owner parent ids []) : ids = [] := by
  cases ids with
  | nil => rfl
  | cons id ids => exact h.elim

theorem get?_of_holdsAt {F : Forest} {owner parent id : NodeId} {item : Item}
    (h : F.HoldsAt owner parent id item) : ∃ node, F.get? id = some node ∧
      node.parent = some parent ∧ node.owner = some owner ∧ node.payload.type = Builder.typeOf item := by
  cases item with
  | element name attributes content =>
      obtain ⟨cells, children, -, hget, -⟩ := h
      exact ⟨_, hget, rfl, rfl, rfl⟩
  | _ => exact ⟨_, h, rfl, rfl, rfl⟩

theorem type?_of_holdsAt {F : Forest} {owner parent id : NodeId} {item : Item}
    (h : F.HoldsAt owner parent id item) : F.type? id = some (Builder.typeOf item) := by
  obtain ⟨node, hget, -, -, htype⟩ := get?_of_holdsAt h
  rw [type?, payload?_of_get? hget, ← htype]
  rfl

theorem exists_mem_of_holds {F : Forest} {owner parent : NodeId} {ids : List NodeId}
    {items : List Item} (h : F.Holds owner parent ids items) {id : NodeId} (hid : id ∈ ids) :
    ∃ item ∈ items, F.HoldsAt owner parent id item := by
  induction ids generalizing items with
  | nil => simp at hid
  | cons first ids ih =>
      cases items with
      | nil => exact h.elim
      | cons item items =>
          rcases List.mem_cons.1 hid with rfl | hid
          · exact ⟨item, by simp, h.1⟩
          · obtain ⟨other, hm, ho⟩ := ih h.2 hid
            exact ⟨other, by simp [hm], ho⟩

/-- All nodes of the forest are nodes of the other. -/
structure Extends (F G : Forest) : Prop where
  /-- There are no fewer nodes. -/
  size_le : F.size ≤ G.size
  /-- The nodes are the same. -/
  get?_eq : ∀ i < F.size, G.get? i = F.get? i

/-- The nodes from `start` on are nodes of the other forest too. -/
def Agrees (start : Nat) (G H : Forest) : Prop :=
  ∀ i, start ≤ i → i < G.size → H.get? i = G.get? i

theorem Extends.trans {F G H : Forest} (h : F.Extends G) (h' : G.Extends H) : F.Extends H :=
  ⟨Nat.le_trans h.size_le h'.size_le, fun i hi =>
    (h'.get?_eq i (Nat.lt_of_lt_of_le hi h.size_le)).trans (h.get?_eq i hi)⟩

/-- What planting does: so many new nodes, of which `P` holds, whatever happens to the others. -/
structure Planted (F G : Forest) (count : Nat) (P : Forest → Prop) : Prop where
  /-- The old nodes stay. -/
  old : F.Extends G
  /-- There are so many new ones. -/
  size_eq : G.size = F.size + count
  /-- The new ones are as they should be. -/
  holds : ∀ H, Agrees F.size G H → P H

/-! ### Planting -/

theorem size_add (F : Forest) (node : Node) : (F.add node).1.size = F.size + 1 :=
  Array.size_push node

theorem extends_add (F : Forest) (node : Node) : F.Extends (F.add node).1 := by
  refine ⟨by rw [size_add]; omega, fun i hi => ?_⟩
  rw [get?_add, if_neg (Nat.ne_of_lt hi)]

/-- A node is added. -/
theorem planted_add (F : Forest) (node : Node) :
    Planted F (F.add node).1 1 fun H => H.get? F.size = some node := by
  refine ⟨extends_add F node, size_add F node, fun H h => ?_⟩
  rw [h F.size (Nat.le_refl _) (by rw [size_add]; omega), get?_add, if_pos rfl]

/-- A node is added, others are planted below it, and then it learns of them. -/
theorem planted_modify {F G : Forest} {node : Node} {count : Nat} {P : Forest → Prop}
    (h : Planted (F.add node).1 G count P) (f : Node → Node) :
    Planted F (G.modify F.size f) (count + 1) fun H => H.get? F.size = some (f node) ∧ P H := by
  have hadd := planted_add F node
  have hid : F.size < (F.add node).1.size := by rw [size_add]; omega
  refine ⟨⟨?_, fun i hi => ?_⟩, ?_, fun H hH => ?_⟩
  · rw [size_modify, h.size_eq, size_add]
    omega
  · rw [get?_modify, if_neg (Nat.ne_of_gt hi), (hadd.old.trans h.old).get?_eq i hi]
  · rw [size_modify, h.size_eq, size_add]
    omega
  · have hlt : F.size < (G.modify F.size f).size := by
      rw [size_modify, h.size_eq]
      omega
    refine ⟨?_, h.holds H fun i hs hi => ?_⟩
    · rw [hH F.size (Nat.le_refl _) hlt, get?_modify, if_pos rfl, h.old.get?_eq _ hid, get?_add,
        if_pos rfl]
      rfl
    · have hne : F.size < i := Nat.lt_of_lt_of_le hid hs
      rw [hH i (Nat.le_of_lt hne) (by rw [size_modify]; exact hi), get?_modify,
        if_neg (Nat.ne_of_lt hne)]

theorem planted_append {F G H : Forest} {m n : Nat} {P Q : Forest → Prop} (h : Planted F G m P)
    (h' : Planted G H n Q) : Planted F H (m + n) fun K => P K ∧ Q K := by
  refine ⟨h.old.trans h'.old, by rw [h'.size_eq, h.size_eq]; omega, fun K hK => ⟨?_, ?_⟩⟩
  · refine h.holds K fun i hs hi => ?_
    rw [hK i hs (Nat.lt_of_lt_of_le hi h'.old.size_le), h'.old.get?_eq i hi]
  · exact h'.holds K fun i hs hi => hK i (Nat.le_trans h.old.size_le hs) hi

theorem map_attr_numberCells (serial : Nat) (attributes : List Attribute) :
    (numberCells serial attributes).map AttrCell.attr = attributes := by
  induction attributes generalizing serial with
  | nil => rfl
  | cons a attributes ih => rw [numberCells, List.map_cons, ih]

theorem planted_addLeaf (F : Forest) (owner parent : NodeId) (payload : Payload) :
    Planted F (F.addLeaf owner parent payload).1 1 fun H =>
      H.get? (F.addLeaf owner parent payload).2 =
        some ⟨payload, some parent, some owner, []⟩ :=
  planted_add F _

mutual

/-- Planting an item makes its nodes. -/
theorem planted_plantItem (owner : NodeId) :
    ∀ (item : Item) (F : Forest) (parent : NodeId),
      Planted F (plantItem F owner parent item).1 item.countAt fun H =>
        H.HoldsAt owner parent (plantItem F owner parent item).2 item
  | .element name attributes content, F, parent => by
      let serials : Forest := { F with nextSerial := F.nextSerial + attributes.length }
      let node : Node := ⟨.element name (numberCells F.nextSerial attributes), some parent,
        some owner, []⟩
      have hcontent := planted_plantItems owner content (serials.add node).1 F.size
      obtain ⟨hold, hsize, hholds⟩ := planted_modify hcontent
        ({ · with children := (plantItems (serials.add node).1 owner F.size content).2 })
      refine ⟨⟨hold.size_le, hold.get?_eq⟩, hsize, fun H hH => ?_⟩
      obtain ⟨hget, hitems⟩ := hholds H hH
      exact ⟨_, _, map_attr_numberCells _ _, hget, hitems⟩
  | .text _, F, parent => planted_addLeaf F owner parent _
  | .cdata _, F, parent => planted_addLeaf F owner parent _
  | .comment _, F, parent => planted_addLeaf F owner parent _
  | .instruction _ _, F, parent => planted_addLeaf F owner parent _
  | .doctype _, F, parent => planted_addLeaf F owner parent _

/-- Planting some items makes their nodes. -/
theorem planted_plantItems (owner : NodeId) :
    ∀ (items : List Item) (F : Forest) (parent : NodeId),
      Planted F (plantItems F owner parent items).1 (Item.count items) fun H =>
        H.Holds owner parent (plantItems F owner parent items).2 items
  | [], _, _ => ⟨⟨Nat.le_refl _, fun _ _ => rfl⟩, rfl, fun _ _ => trivial⟩
  | item :: items, F, parent =>
      planted_append (planted_plantItem owner item F parent)
        (planted_plantItems owner items _ parent)

end

/-! ### Planted documents -/

/-- The document is planted as the node `id`. -/
structure IsPlanted (F : Forest) (id : NodeId) (doc : Document) : Prop where
  /-- The node of the document. -/
  exists_children : ∃ children,
    F.get? id = some ⟨.document doc.declaration false, none, none, children⟩ ∧
      F.Holds id id children doc.content
  /-- There are more nodes than the items have. -/
  count_lt_size : Item.count doc.content < F.size

/-- Planting leaves the nodes that are there as they are. -/
theorem extends_plant (F : Forest) (doc : Document) : F.Extends (F.plant doc).1 :=
  (planted_modify (planted_plantItems F.size doc.content
    (F.add ⟨.document doc.declaration false, none, none, []⟩).1 F.size) _).old

/-- Planting plants the document. -/
theorem isPlanted_plant (F : Forest) (doc : Document) :
    (F.plant doc).1.IsPlanted (F.plant doc).2 doc := by
  have hcontent := planted_plantItems F.size doc.content
    (F.add ⟨.document doc.declaration false, none, none, []⟩).1 F.size
  obtain ⟨-, hsize, hholds⟩ := planted_modify hcontent ({ · with children :=
    (plantItems (F.add ⟨.document doc.declaration false, none, none, []⟩).1 F.size F.size
      doc.content).2 })
  obtain ⟨hget, hitems⟩ := hholds _ fun _ _ _ => rfl
  refine ⟨⟨_, hget, hitems⟩, ?_⟩
  rw [show (F.plant doc).1.size = F.size + (Item.count doc.content + 1) from hsize]
  omega

/-- The first node of which something holds is that of the first item of which it holds. -/
theorem find?_of_holds {F : Forest} {owner parent : NodeId} {p : NodeId → Bool} {q : Item → Bool}
    (hpq : ∀ id item, F.HoldsAt owner parent id item → p id = q item) {ids : List NodeId}
    {items : List Item} (h : F.Holds owner parent ids items) :
    (ids.find? p = none ∧ items.find? q = none) ∨
      ∃ id item, ids.find? p = some id ∧ items.find? q = some item ∧
        F.HoldsAt owner parent id item := by
  induction ids generalizing items with
  | nil =>
      cases items with
      | nil => exact Or.inl ⟨rfl, rfl⟩
      | cons item items => exact h.elim
  | cons id ids ih =>
      cases items with
      | nil => exact h.elim
      | cons item items =>
          rw [List.find?_cons, List.find?_cons, hpq id item h.1]
          cases q item with
          | true => exact Or.inr ⟨id, item, rfl, rfl, h.1⟩
          | false => exact ih h.2

namespace IsPlanted

variable {F : Forest} {id : NodeId} {doc : Document} (h : F.IsPlanted id doc)
include h

theorem declaration : F.declaration id = doc.declaration := by
  obtain ⟨children, hget, -⟩ := h.exists_children
  rw [Forest.declaration, payload?_of_get? hget]

theorem isElement : F.isElement id = false := by
  obtain ⟨children, hget, -⟩ := h.exists_children
  rw [Forest.isElement, type?, payload?_of_get? hget]
  rfl

theorem holds_children : F.Holds id id (F.children id) doc.content := by
  obtain ⟨children, hget, hholds⟩ := h.exists_children
  rw [Forest.children, hget]
  exact hholds

/-- The document type. -/
theorem doctype? : F.doctype? id = doc.doctype? := by
  have htype : ∀ child item, F.HoldsAt id id child item →
      (F.type? child == some .doctype) = item.isDoctype := by
    intro child item hchild
    rw [type?_of_holdsAt hchild]
    cases item <;> rfl
  rw [Forest.doctype?, doctypeNode?, childOfType?, Document.doctype?]
  rcases find?_of_holds htype h.holds_children with ⟨h₁, h₂⟩ | ⟨child, item, h₁, h₂, hchild⟩
  · rw [h₁, h₂]
    rfl
  · rw [h₁, h₂]
    cases item with
    | doctype d =>
        simp [payload?_of_get? hchild, Item.doctype?]
    | _ => exact absurd (List.find?_some h₂) (by simp [Item.isDoctype])

/-- The document element. -/
theorem holdsAt_root? {root : NodeId} (hr : F.root? id = some root) :
    ∃ name attributes content, Item.element name attributes content ∈ doc.content ∧
      F.HoldsAt id id root (.element name attributes content) := by
  have htype : ∀ child item, F.HoldsAt id id child item →
      (F.type? child == some .element) = item.isElement := by
    intro child item hchild
    rw [type?_of_holdsAt hchild]
    cases item <;> rfl
  rw [root?, childOfType?] at hr
  rcases find?_of_holds htype h.holds_children with ⟨h₁, -⟩ | ⟨child, item, h₁, h₂, hchild⟩
  · rw [h₁] at hr
    cases hr
  · obtain rfl := Option.some.inj (h₁.symm.trans hr)
    cases item with
    | element name attributes content =>
        exact ⟨name, attributes, content, List.mem_of_find?_eq_some h₂, hchild⟩
    | _ => exact absurd (List.find?_some h₂) (by simp [Item.isElement])

end IsPlanted

end Forest

end XmlScribe
