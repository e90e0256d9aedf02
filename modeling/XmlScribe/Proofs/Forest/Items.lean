/-
**The items of a document in a forest whose links agree.**

A document of a forest is turned into items with as much fuel as there are nodes.  Where the links
agree no way down is longer, so nothing is lost: every node below the document is planted as a node
of the items, and there are no more items than nodes.

Main results:

* `Forest.IsWellLinked.exists_holdsAt` — a node with enough fuel is planted as its item;
* `Forest.IsWellLinked.holds_toDocument` — the items of a document are planted;
* `Forest.IsWellLinked.count_toDocument_lt` — there are no more items than nodes;
* `Forest.IsWellLinked.exists_root` — the elements of a document are below the document element;
* `Forest.exists_everywhereAt_of_below` — what holds everywhere in the items holds at every node.
-/

import XmlScribe.Forest.Query
import XmlScribe.Proofs.Forest.Linked
import XmlScribe.Proofs.Forest.Lineage
import XmlScribe.Proofs.Namespace.Planted

set_option autoImplicit false

namespace XmlScribe

namespace Forest

variable {F : Forest}

/-- Nodes that are planted as their items are planted as the items together. -/
theorem holds_filterMap {f : NodeId → Option Item} {owner parent : NodeId} {ids : List NodeId}
    (h : ∀ id ∈ ids, ∃ item, f id = some item ∧ F.HoldsAt owner parent id item) :
    F.Holds owner parent ids (ids.filterMap f) := by
  induction ids with
  | nil => trivial
  | cons id ids ih =>
      obtain ⟨item, hf, hitem⟩ := h id (by simp)
      rw [List.filterMap_cons_some hf]
      exact ⟨hitem, ih fun other ho => h other (by simp [ho])⟩

/-- There are as many nodes of items as on the ways down to them. -/
theorem count_filterMap {f : NodeId → Option Item} {g : NodeId → List NodeId} {ids : List NodeId}
    (h : ∀ id ∈ ids, ∃ item, f id = some item ∧ item.countAt = (g id).length) :
    Item.count (ids.filterMap f) = (ids.flatMap g).length := by
  induction ids with
  | nil => rfl
  | cons id ids ih =>
      obtain ⟨item, hf, hcount⟩ := h id (by simp)
      rw [List.filterMap_cons_some hf, Item.count, hcount, List.flatMap_cons, List.length_append,
        ih fun other ho => h other (by simp [ho])]

/-- As many nodes as items are of a kind. -/
theorem countP_of_holds {owner parent : NodeId} {p : NodeId → Bool} {q : Item → Bool}
    (hpq : ∀ id item, F.HoldsAt owner parent id item → p id = q item) {ids : List NodeId}
    {items : List Item} (h : F.Holds owner parent ids items) : ids.countP p = items.countP q := by
  induction ids generalizing items with
  | nil =>
      cases items with
      | nil => rfl
      | cons item items => exact h.elim
  | cons id ids ih =>
      cases items with
      | nil => exact h.elim
      | cons item items => rw [List.countP_cons, List.countP_cons, ih h.2, hpq id item h.1]

/-- What holds everywhere in an item holds at every node below its node. -/
theorem exists_everywhereAt_of_below {owner parent root : NodeId} {item : Item} {Q : Item → Prop}
    (h : F.HoldsAt owner parent root item) (hq : item.EverywhereAt Q) {d : NodeId}
    (hd : F.Below root d) : ∃ parent item, F.HoldsAt owner parent d item ∧ item.EverywhereAt Q := by
  induction hd with
  | refl => exact ⟨parent, item, h, hq⟩
  | child _ hc ih =>
      obtain ⟨parent, item, h, hq⟩ := ih
      obtain ⟨name, attributes, content, rfl, child, hm, hchild⟩ := holdsAt_of_mem_children h hc
      exact ⟨_, child, hchild, Item.everywhere_iff.1 hq.2 child hm⟩

theorem Below.trans {root d x : NodeId} (h : F.Below root d) (h' : F.Below d x) :
    F.Below root x := by
  induction h' with
  | refl => exact h
  | child _ hc ih => exact .child ih hc

/-- What is below a node is the node or below one of its children. -/
theorem Below.eq_or_exists {root d : NodeId} (h : F.Below root d) :
    d = root ∨ ∃ c ∈ F.children root, F.Below c d := by
  induction h with
  | refl => exact Or.inl rfl
  | @child p x _ hx ih =>
      rcases ih with rfl | ⟨c, hc, hp⟩
      · exact Or.inr ⟨x, hx, .refl⟩
      · exact Or.inr ⟨c, hc, .child hp hx⟩

theorem scope_eq_nil {id : NodeId} (h : F.isElement id = false) : F.scope id = [] := by
  rw [scope, elementLineage_eq_nil h]
  rfl

theorem isElement_eq_false_of_document {id : NodeId} (h : F.type? id = some .document) :
    F.isElement id = false := by
  rw [isElement, h]
  rfl

namespace IsWellLinked

variable (hF : F.IsWellLinked)
include hF

/-- A node that may have no children has none. -/
theorem children_eq_nil {id : NodeId} {t : NodeType} (ht : F.type? id = some t)
    (hnone : ∀ s, t.mayHold s = false) : F.children id = [] := by
  refine List.eq_nil_iff_forall_not_mem.2 fun c hc => ?_
  obtain ⟨s, s', hs, -, hm⟩ := exists_type?_of_mayHold (hF.mayHold_of_mem hc)
  obtain rfl := Option.some.inj (ht.symm.trans hs)
  rw [hnone] at hm
  cases hm

/-- A node that is listed names its parent, and is no document. -/
theorem exists_get?_of_mem_children {parent id owner : NodeId} (hid : id ∈ F.children parent)
    (howner : F.owner? id = some owner) :
    ∃ payload, F.get? id = some ⟨payload, some parent, some owner, F.children id⟩ ∧
      payload.type ≠ .document := by
  obtain ⟨s, t, -, ht, hst⟩ := exists_type?_of_mayHold (hF.mayHold_of_mem hid)
  obtain ⟨⟨payload, above, doc, list⟩, hget, rfl⟩ := type?_eq_some_iff.1 ht
  have hparent : above = some parent := by
    have hp := hF.mem_children_iff.1 hid
    rwa [parent?, hget] at hp
  have hdoc : doc = some owner := by rwa [owner?, hget] at howner
  have hchildren : F.children id = list := by rw [children, hget]; rfl
  refine ⟨payload, by rw [hget, hparent, hdoc, hchildren], fun hd => ?_⟩
  -- a document stands nowhere
  rw [show payload.type = .document from hd] at hst
  cases s <;> cases hst

/-- A node below a document or an element is planted as its item, if there is fuel for the ways down
from it. -/
theorem exists_holdsAt {owner parent id : NodeId} (hid : id ∈ F.children parent)
    (howner : F.owner? id = some owner) {fuel : Nat}
    (hfuel : F.size < fuel + (F.lineage id).length) :
    ∃ item, F.toItemFrom fuel id = some item ∧ F.HoldsAt owner parent id item ∧
      item.countAt = (F.preorderFrom fuel id).length := by
  -- induction on the fuel; with every step down there is one node more above
  induction fuel generalizing parent id with
  | zero =>
      have hlt := (hF.lt_size_of_mem hid).2
      have hle := length_le_of_nodup (hF.linksAgree.nodup_lineageFrom F.size id) fun x hx =>
        hF.linksAgree.lt_size_of_mem_lineageFrom hlt hx
      rw [Nat.zero_add, lineage] at hfuel
      omega
  | succ fuel ih =>
      obtain ⟨payload, hget, hne⟩ := hF.exists_get?_of_mem_children hid howner
      have htype : F.type? id = some payload.type := type?_eq_some_iff.2 ⟨_, hget, rfl⟩
      have hleaf : (∀ s, payload.type.mayHold s = false) →
          F.get? id = some ⟨payload, some parent, some owner, []⟩ ∧
            1 = (F.preorderFrom (fuel + 1) id).length := by
        intro hnone
        have hchildren := hF.children_eq_nil htype hnone
        exact ⟨by rw [hget, hchildren], by rw [preorderFrom, hchildren]; rfl⟩
      rw [toItemFrom, hget]
      cases payload with
      | document declaration readOnly => exact absurd rfl hne
      | element name cells =>
          have hall : ∀ c ∈ F.children id, ∃ item, F.toItemFrom fuel c = some item ∧
              F.HoldsAt owner id c item ∧ item.countAt = (F.preorderFrom fuel c).length := by
            intro c hc
            refine ih hc ?_ ?_
            · rw [hF.owner_of_mem hc, htype, if_neg (by simp [Payload.type]), howner]
            · rw [hF.lineage_child hc, List.length_cons]
              omega
          refine ⟨_, rfl, ⟨cells, F.children id, rfl, hget, holds_filterMap fun c hc => ?_⟩, ?_⟩
          · obtain ⟨item, hitem, hholds, -⟩ := hall c hc
            exact ⟨item, hitem, hholds⟩
          · rw [Item.countAt, count_filterMap fun c hc => ?_, preorderFrom, List.length_cons]
            obtain ⟨item, hitem, -, hcount⟩ := hall c hc
            exact ⟨item, hitem, hcount⟩
      | text data => exact ⟨_, rfl, hleaf fun s => rfl⟩
      | cdata data => exact ⟨_, rfl, hleaf fun s => rfl⟩
      | comment data => exact ⟨_, rfl, hleaf fun s => rfl⟩
      | instruction target data => exact ⟨_, rfl, hleaf fun s => rfl⟩
      | doctype d => exact ⟨_, rfl, hleaf fun s => rfl⟩

variable {doc : NodeId} (hdoc : F.type? doc = some .document)
include hdoc

/-- Below a document every child is planted as its item. -/
theorem exists_holdsAt_of_mem {c : NodeId} (hc : c ∈ F.children doc) :
    ∃ item, F.toItem? c = some item ∧ F.HoldsAt doc doc c item ∧
      item.countAt = (F.preorderFrom F.size c).length := by
  refine hF.exists_holdsAt hc ?_ ?_
  · rw [hF.owner_of_mem hc, if_pos hdoc]
  · rw [hF.lineage_child hc, List.length_cons]
    omega

/-- The items of a document are planted. -/
theorem holds_toDocument : F.Holds doc doc (F.children doc) (F.toDocument doc).content :=
  holds_filterMap fun c hc => by
    obtain ⟨item, hitem, hholds, -⟩ := hF.exists_holdsAt_of_mem hdoc hc
    exact ⟨item, hitem, hholds⟩

/-- There are no more items than nodes below the document. -/
theorem count_toDocument_lt : Item.count (F.toDocument doc).content < F.size := by
  have hcount : Item.count (F.toDocument doc).content + 1 =
      (F.preorderFrom (F.size + 1) doc).length := by
    rw [preorderFrom, List.length_cons]
    refine congrArg (· + 1) (count_filterMap fun c hc => ?_)
    obtain ⟨item, hitem, -, hn⟩ := hF.exists_holdsAt_of_mem hdoc hc
    exact ⟨item, hitem, hn⟩
  have hlt : doc < F.size := lt_size_of_type? hdoc
  have hle := length_le_of_nodup (hF.nodup_preorderFrom (F.size + 1) doc) fun x hx => by
    cases @below_of_mem_preorderFrom F doc _ _ _ .refl hx with
    | refl => exact hlt
    | child _ hc => exact (hF.lt_size_of_mem hc).2
  omega

/-- An element below a document is below the document element. -/
theorem exists_root {d : NodeId} (hd : F.Below doc d) (he : F.isElement d = true) :
    ∃ e, F.root? doc = some e ∧ e ∈ F.children doc ∧ F.isElement e = true ∧ F.Below e d := by
  rcases hd.eq_or_exists with rfl | ⟨c, hc, hcd⟩
  · rw [isElement_iff, hdoc] at he
    cases he
  · -- the child is an element, since it is one or has children
    have hce : F.isElement c = true := by
      rcases hcd.eq_or_exists with rfl | ⟨x, hx, -⟩
      · exact he
      · obtain ⟨s, t, hs, ht, hst⟩ := exists_type?_of_mayHold (hF.mayHold_of_mem hc)
        obtain ⟨t', u, ht', -, htu⟩ := exists_type?_of_mayHold (hF.mayHold_of_mem hx)
        obtain rfl := Option.some.inj (hdoc.symm.trans hs)
        obtain rfl := Option.some.inj (ht.symm.trans ht')
        rw [isElement_iff, ht]
        cases t <;> cases u <;> simp_all [NodeType.mayHold]
    cases hr : F.root? doc with
    | none =>
        rw [root?, childOfType?, List.find?_eq_none] at hr
        exact absurd hce (hr c hc)
    | some e =>
        have hem := List.mem_of_find?_eq_some hr
        have hee : F.isElement e = true := List.find?_some hr
        obtain rfl := hF.eq_of_isUniqueInDocument hdoc hem hc rfl (isElement_iff.1 hee)
          (isElement_iff.1 hce)
        exact ⟨e, rfl, hem, hee, hcd⟩

/-- The items of a document may stand there. -/
theorem mayHold_toDocument {item : Item} (hm : item ∈ (F.toDocument doc).content) :
    NodeType.document.mayHold (Builder.typeOf item) = true := by
  obtain ⟨c, hc, hitem⟩ := List.mem_filterMap.1 hm
  obtain ⟨item', hitem', hholds, -⟩ := hF.exists_holdsAt_of_mem hdoc hc
  obtain rfl := Option.some.inj (hitem.symm.trans hitem')
  obtain ⟨s, t, hs, ht, hst⟩ := exists_type?_of_mayHold (hF.mayHold_of_mem hc)
  obtain rfl := Option.some.inj (hdoc.symm.trans hs)
  obtain rfl := Option.some.inj ((type?_of_holdsAt hholds).symm.trans ht)
  exact hst

/-- One of the items of a document is an element at most. -/
theorem countP_le_one {owner : NodeId} {items : List Item}
    (h : F.Holds owner doc (F.children doc) items) : items.countP Item.isElement ≤ 1 := by
  have hcount := countP_of_holds (p := (F.type? · == some .element)) (q := Item.isElement)
    (fun id item hitem => by rw [type?_of_holdsAt hitem]; cases item <;> rfl) h
  rw [← hcount]
  exact hF.countP_children_le_one hdoc rfl

end IsWellLinked

end Forest

end XmlScribe
