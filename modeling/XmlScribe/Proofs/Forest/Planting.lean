/-
**What planting keeps.**

Planting a document is a chain of two steps: a node is added that has no children yet, and an element
or the document, once the nodes below it are there, learns of them.  What both steps keep, planting
keeps.

Main definitions:

* `Forest.home?` — the document that a node is or belongs to;
* `Item.payloadFrom` — what the node of an item carries;
* `Forest.KeptByPlanting` — a property of forests that both steps keep.

Main results:

* `Forest.KeptByPlanting.plant` — planting keeps it;
* `Forest.Carries.plant` — what the nodes of a planted document carry.
-/

import XmlScribe.Proofs.Document.Sound
import XmlScribe.Proofs.Forest.Carried
import XmlScribe.Proofs.Forest.Planted

set_option autoImplicit false

namespace XmlScribe

/-- What the node of an item carries, where attributes are numbered from `serial` on. -/
def Item.payloadFrom (serial : Nat) : Item → Payload
  | element name attributes _ => .element name (Forest.numberCells serial attributes)
  | text data => .text data
  | cdata data => .cdata data
  | comment data => .comment data
  | instruction target data => .instruction target data
  | doctype d => .doctype d

namespace Forest

/-- The document that a node is or belongs to. -/
def home? (F : Forest) (id : NodeId) : Option NodeId :=
  if F.type? id = some .document then some id else F.owner? id

theorem home?_congr {F G : Forest} {id : NodeId} (ht : G.type? id = F.type? id)
    (ho : G.owner? id = F.owner? id) : G.home? id = F.home? id := by
  rw [home?, home?, ht, ho]

theorem home?_of_get? {F : Forest} {id : NodeId} {node : Node} (h : F.get? id = some node) :
    F.home? id = if node.payload.type = .document then some id else node.owner := by
  simp [home?, type?, payload?, owner?, h]

/-- The steps of planting nodes for the document `doc` keep a property of forests, if nodes are added
only with what `P` holds of. -/
structure KeptByPlanting (I : Forest → Prop) (P : Payload → Prop) (doc : NodeId) : Prop where
  /-- Serial numbers do not matter. -/
  serial : ∀ {F : Forest} (n : Nat), I F → I { F with nextSerial := n }
  /-- A node is added. -/
  add : ∀ {F : Forest} {payload : Payload} (parent : NodeId), I F → F.type? doc = some .document →
    P payload → I (F.add ⟨payload, some parent, some doc, []⟩).1
  /-- A node learns of the nodes below it. -/
  link : ∀ {F : Forest} {id : NodeId} {children : List NodeId}, I F → F.home? id = some doc →
    (∀ c ∈ children, F.owner? c = some doc) →
      I (F.modify id ({ · with children := children }))

namespace Extends

variable {F G : Forest} (h : F.Extends G)
include h

theorem get?_eq_some {id : NodeId} {node : Node} (hn : F.get? id = some node) :
    G.get? id = some node :=
  (h.get?_eq id (lt_size_of_get? hn)).trans hn

theorem type?_eq_some {id : NodeId} {t : NodeType} (ht : F.type? id = some t) :
    G.type? id = some t := by
  obtain ⟨node, hn, rfl⟩ := type?_eq_some_iff.1 ht
  exact type?_eq_some_iff.2 ⟨node, h.get?_eq_some hn, rfl⟩

theorem home?_eq_some {id : NodeId} {node : Node} (hn : F.get? id = some node) :
    G.home? id = F.home? id := by
  rw [home?_of_get? hn, home?_of_get? (h.get?_eq_some hn)]

end Extends

theorem owner_of_mem_of_holds {F : Forest} {doc parent : NodeId} {ids : List NodeId}
    {items : List Item} (h : F.Holds doc parent ids items) :
    ∀ c ∈ ids, F.owner? c = some doc := by
  intro c hc
  obtain ⟨item, -, hitem⟩ := exists_mem_of_holds h hc
  obtain ⟨node, hn, -, ho, -⟩ := get?_of_holdsAt hitem
  simp [owner?, hn, ho]

namespace KeptByPlanting

variable {I : Forest → Prop} {P : Payload → Prop} {doc : NodeId}

mutual

theorem plantItem (hI : KeptByPlanting I P doc) : ∀ (item : Item) {F : Forest} (parent : NodeId),
    item.EverywhereAt (fun item => ∀ serial, P (item.payloadFrom serial)) →
      F.type? doc = some .document → I F → I (Forest.plantItem F doc parent item).1
  | .element name attributes content, F, parent, hitem, hdoc, h => by
      let serials : Forest := { F with nextSerial := F.nextSerial + attributes.length }
      let node : Node := ⟨.element name (numberCells F.nextSerial attributes), some parent, some doc,
        []⟩
      have hadd : I (serials.add node).1 := hI.add parent (hI.serial _ h) hdoc (hitem.1 _)
      have hget : (serials.add node).1.get? F.size = some node := by
        rw [get?_add]
        exact if_pos rfl
      have hplanted := planted_plantItems doc content (serials.add node).1 F.size
      have hcontent := plantItems hI content F.size hitem.2
        ((extends_add serials node).type?_eq_some hdoc) hadd
      have hhome := (hplanted.old.home?_eq_some hget).trans (home?_of_get? hget)
      exact hI.link hcontent hhome (owner_of_mem_of_holds (hplanted.holds _ fun _ _ _ => rfl))
  | .text _, _, parent, hitem, hdoc, h => hI.add parent h hdoc (hitem 0)
  | .cdata _, _, parent, hitem, hdoc, h => hI.add parent h hdoc (hitem 0)
  | .comment _, _, parent, hitem, hdoc, h => hI.add parent h hdoc (hitem 0)
  | .instruction _ _, _, parent, hitem, hdoc, h => hI.add parent h hdoc (hitem 0)
  | .doctype _, _, parent, hitem, hdoc, h => hI.add parent h hdoc (hitem 0)

theorem plantItems (hI : KeptByPlanting I P doc) : ∀ (items : List Item) {F : Forest} (parent : NodeId),
    Item.Everywhere (fun item => ∀ serial, P (item.payloadFrom serial)) items →
      F.type? doc = some .document → I F → I (Forest.plantItems F doc parent items).1
  | [], _, _, _, _, h => h
  | item :: items, F, parent, hitems, hdoc, h =>
      plantItems hI items parent hitems.2
        ((planted_plantItem doc item F parent).old.type?_eq_some hdoc)
        (plantItem hI item parent hitems.1 hdoc h)

end

end KeptByPlanting

/-- What the steps of planting keep, planting keeps. -/
theorem KeptByPlanting.plant {I : Forest → Prop} {P : Payload → Prop} {F : Forest}
    (hI : KeptByPlanting I P F.size) (doc : Document)
    (hitems : Item.Everywhere (fun item => ∀ serial, P (item.payloadFrom serial)) doc.content)
    (h : I (F.add ⟨.document doc.declaration false, none, none, []⟩).1) : I (F.plant doc).1 := by
  let node : Node := ⟨.document doc.declaration false, none, none, []⟩
  have hget : (F.add node).1.get? F.size = some node := by rw [get?_add, if_pos rfl]
  have hplanted := planted_plantItems F.size doc.content (F.add node).1 F.size
  have hhome := (hplanted.old.home?_eq_some hget).trans (home?_of_get? hget)
  have hdoc : (F.add node).1.type? F.size = some .document :=
    type?_eq_some_iff.2 ⟨node, hget, rfl⟩
  exact hI.link (hI.plantItems doc.content F.size hitems hdoc h) hhome
    (owner_of_mem_of_holds (hplanted.holds _ fun _ _ _ => rfl))

/-- What the nodes of a planted document carry. -/
theorem Carries.plant {F : Forest} {P : Payload → Prop} (hF : F.Carries P) (doc : Document)
    (hdoc : P (.document doc.declaration false))
    (hitems : Item.Everywhere (fun item => ∀ serial, P (item.payloadFrom serial)) doc.content) :
    (F.plant doc).1.Carries P := by
  have hkept : KeptByPlanting (Carries · P) P F.size :=
    ⟨fun _ h => h, fun _ h _ hp => Carries.add h hp, fun h _ _ => Carries.modify h fun _ hp => hp⟩
  exact hkept.plant doc hitems (hF.add hdoc)

end Forest

end XmlScribe
