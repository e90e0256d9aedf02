/-
**The links of a planted document.**

A document that is planted comes with links of its own.  A node is added with the link to its parent
first, and its parent learns of it only when all nodes below the parent are there.  In between the
links do not agree; but each item leaves only its topmost node to be listed, and in the end no node
is left.

Main definitions:

* `Forest.Sows` — there are new nodes whose links agree, but for some that nobody lists yet.

Main results:

* `Forest.Sows.append`, `Forest.sows_setChildren` — items one after the other, and below a node;
* `Forest.sows_plantItem`, `Forest.sows_plant` — planting an item, planting a document.
-/

import XmlScribe.Proofs.Forest.Links
import XmlScribe.Proofs.Forest.Planted

set_option autoImplicit false

namespace XmlScribe

namespace Forest

theorem Extends.parent?_eq {F G : Forest} (h : F.Extends G) {id : NodeId} (hid : id < F.size) :
    G.parent? id = F.parent? id := by
  rw [parent?, h.get?_eq id hid, ← parent?]

theorem Extends.children_eq {F G : Forest} (h : F.Extends G) {id : NodeId} (hid : id < F.size) :
    G.children id = F.children id := by
  rw [children, h.get?_eq id hid, ← children]

/-- The old nodes are as they were.  The links of the new ones agree, but for the nodes `tops`, which
have the parent `parent` and are not listed. -/
structure Sows (F G : Forest) (parent : Option NodeId) (tops : List NodeId) : Prop where
  /-- The old nodes stay. -/
  old : F.Extends G
  /-- The topmost nodes are new and have this parent. -/
  of_mem_tops : ∀ {c}, c ∈ tops → F.size ≤ c ∧ c < G.size ∧ G.parent? c = parent
  /-- They are different. -/
  nodup_tops : tops.Nodup
  /-- A new node lists only new nodes, which say so. -/
  parent_of_mem : ∀ {p c}, F.size ≤ p → c ∈ G.children p → F.size ≤ c ∧ G.parent? c = some p
  /-- It lists them once. -/
  nodup_children : ∀ {p}, F.size ≤ p → (G.children p).Nodup
  /-- Every other new node is listed by its parent, which is new and has been there before it. -/
  mem_of_parent : ∀ {p c}, F.size ≤ c → G.parent? c = some p →
    c ∈ tops ∨ F.size ≤ p ∧ p < c ∧ c ∈ G.children p

/-- Serial numbers do not matter. -/
theorem Sows.of_nodes {F F' G : Forest} {parent : Option NodeId} {tops : List NodeId}
    (h : F.Sows G parent tops) (hn : F'.nodes = F.nodes) : F'.Sows G parent tops := by
  obtain ⟨nodes, serial, detached⟩ := F
  obtain ⟨nodes', serial', detached'⟩ := F'
  obtain rfl : nodes' = nodes := hn
  exact ⟨⟨h.old.size_le, h.old.get?_eq⟩, h.of_mem_tops, h.nodup_tops, h.parent_of_mem,
    h.nodup_children, h.mem_of_parent⟩

theorem Sows.refl (F : Forest) (parent : Option NodeId) : F.Sows F parent [] where
  old := ⟨Nat.le_refl _, fun _ _ => rfl⟩
  of_mem_tops := nofun
  nodup_tops := .nil
  parent_of_mem := by
    intro p c hp hc
    exact absurd (lt_size_of_mem_children hc) (Nat.not_lt.2 hp)
  nodup_children := by
    intro p hp
    have hnone : F.get? p = none := Array.getElem?_eq_none hp
    simp [children, hnone]
  mem_of_parent := by
    intro p c hc hpar
    exact absurd (lt_size_of_parent? hpar) (Nat.not_lt.2 hc)

/-- Some nodes are planted after others, below the same parent. -/
theorem Sows.append {F G H : Forest} {parent : Option NodeId} {tops more : List NodeId}
    (h : F.Sows G parent tops) (h' : G.Sows H parent more) : F.Sows H parent (tops ++ more) where
  old := h.old.trans h'.old
  of_mem_tops := by
    intro c hc
    rcases List.mem_append.1 hc with hc | hc
    · obtain ⟨hle, hlt, hpar⟩ := h.of_mem_tops hc
      exact ⟨hle, Nat.lt_of_lt_of_le hlt h'.old.size_le, by rw [h'.old.parent?_eq hlt, hpar]⟩
    · obtain ⟨hle, hlt, hpar⟩ := h'.of_mem_tops hc
      exact ⟨Nat.le_trans h.old.size_le hle, hlt, hpar⟩
  nodup_tops := by
    refine List.nodup_append'.2 ⟨h.nodup_tops, h'.nodup_tops, fun c hc hc' => ?_⟩
    exact absurd (h.of_mem_tops hc).2.1 (Nat.not_lt.2 (h'.of_mem_tops hc').1)
  parent_of_mem := by
    intro p c hp hc
    rcases Nat.lt_or_ge p G.size with hlt | hge
    · rw [h'.old.children_eq hlt] at hc
      obtain ⟨hle, hpar⟩ := h.parent_of_mem hp hc
      exact ⟨hle, by rw [h'.old.parent?_eq (lt_size_of_parent? hpar), hpar]⟩
    · obtain ⟨hle, hpar⟩ := h'.parent_of_mem hge hc
      exact ⟨Nat.le_trans h.old.size_le hle, hpar⟩
  nodup_children := by
    intro p hp
    rcases Nat.lt_or_ge p G.size with hlt | hge
    · rw [h'.old.children_eq hlt]
      exact h.nodup_children hp
    · exact h'.nodup_children hge
  mem_of_parent := by
    intro p c hc hpar
    rcases Nat.lt_or_ge c G.size with hlt | hge
    · rw [h'.old.parent?_eq hlt] at hpar
      rcases h.mem_of_parent hc hpar with htop | ⟨hp, hlt, hmem⟩
      · exact Or.inl (List.mem_append_left _ htop)
      · exact Or.inr ⟨hp, hlt, by rwa [h'.old.children_eq (lt_size_of_mem_children hmem)]⟩
    · rcases h'.mem_of_parent hge hpar with htop | ⟨hp, hlt, hmem⟩
      · exact Or.inl (List.mem_append_right _ htop)
      · exact Or.inr ⟨Nat.le_trans h.old.size_le hp, hlt, hmem⟩

/-- A node is added, others are planted below it, and then it learns of them. -/
theorem sows_setChildren {F G : Forest} {node : Node} {tops : List NodeId}
    (h : (F.add node).1.Sows G (some F.size) tops) :
    F.Sows (G.setChildren F.size tops) node.parent [F.size] := by
  have hsize : (F.add node).1.size = F.size + 1 := size_add F node
  have hnew : F.size < (F.add node).1.size := by omega
  have hlt : F.size < G.size := Nat.lt_of_lt_of_le hnew h.old.size_le
  have hpar : ∀ c, (G.setChildren F.size tops).parent? c = G.parent? c :=
    G.parent?_setChildren F.size tops
  have hch : ∀ p, (G.setChildren F.size tops).children p =
      if p = F.size then tops else G.children p := children_setChildren hlt tops
  have hnext : ∀ {id : NodeId}, F.size ≤ id → id ≠ F.size → (F.add node).1.size ≤ id :=
    fun hle hne => hsize ▸ Nat.lt_of_le_of_ne hle (Ne.symm hne)
  have hle : ∀ {id : NodeId}, (F.add node).1.size ≤ id → F.size ≤ id :=
    fun h => Nat.le_of_lt (Nat.lt_of_lt_of_le hnew h)
  have hget : (F.add node).1.get? F.size = some node := by rw [get?_add, if_pos rfl]
  have htop : G.parent? F.size = node.parent := by
    rw [h.old.parent?_eq hnew, parent?, hget]
    rfl
  exact {
    old := by
      refine ⟨?_, fun i hi => ?_⟩
      · rw [size_setChildren]
        omega
      · rw [setChildren, get?_modify, if_neg (Nat.ne_of_gt hi), h.old.get?_eq i (by omega), get?_add,
          if_neg (Nat.ne_of_lt hi)]
    of_mem_tops := by
      intro c hc
      obtain rfl := List.mem_singleton.1 hc
      exact ⟨Nat.le_refl _, by rwa [size_setChildren], by rw [hpar, htop]⟩
    nodup_tops := List.nodup_singleton _
    parent_of_mem := by
      intro p c hp hc
      rw [hch] at hc
      rw [hpar]
      split at hc
      · rename_i hid
        obtain ⟨hnewer, -, hparent⟩ := h.of_mem_tops hc
        exact ⟨hle hnewer, by rw [hparent, hid]⟩
      · rename_i hid
        obtain ⟨hnewer, hparent⟩ := h.parent_of_mem (hnext hp hid) hc
        exact ⟨hle hnewer, hparent⟩
    nodup_children := by
      intro p hp
      rw [hch]
      split
      · exact h.nodup_tops
      · rename_i hid
        exact h.nodup_children (hnext hp hid)
    mem_of_parent := by
      intro p c hc hparent
      rw [hpar] at hparent
      by_cases hid : c = F.size
      · exact Or.inl (List.mem_singleton.2 hid)
      · refine Or.inr ?_
        rw [hch]
        rcases h.mem_of_parent (hnext hc hid) hparent with hmem | ⟨hp, hlt, hmem⟩
        · -- a node that nobody lists yet stands directly below the added one
          obtain ⟨hnewer, -, htop⟩ := h.of_mem_tops hmem
          obtain rfl := Option.some.inj (hparent.symm.trans htop)
          exact ⟨Nat.le_refl _, Nat.lt_of_lt_of_le hnew hnewer, by rwa [if_pos rfl]⟩
        · exact ⟨hle hp, hlt, by rwa [if_neg (Nat.ne_of_gt (Nat.lt_of_lt_of_le hnew hp))]⟩ }

theorem setChildren_self (F : Forest) (id : NodeId) : F.setChildren id (F.children id) = F := by
  have hnodes : F.nodes.modify id ({ · with children := F.children id }) = F.nodes := by
    refine Array.ext_getElem? fun i => ?_
    rw [Array.getElem?_modify]
    split
    · rename_i hid
      subst hid
      cases hget : F.nodes[id]? with
      | none => rfl
      | some node =>
          have hchildren : F.children id = node.children := by rw [children, get?, hget]; rfl
          rw [hchildren]
          rfl
    · rfl
  rw [setChildren, modify, hnodes]

/-- A node without children is planted. -/
theorem sows_addLeaf (F : Forest) (owner parent : NodeId) (payload : Payload) :
    F.Sows (F.addLeaf owner parent payload).1 (some parent) [F.size] := by
  let node : Node := ⟨payload, some parent, some owner, []⟩
  have hnone : (F.add node).1.children F.size = [] := by
    rw [children, get?_add, if_pos rfl]
    rfl
  -- nothing is planted below it, so there is nothing to learn
  have hself : (F.add node).1.setChildren F.size [] = (F.add node).1 := by
    rw [← hnone, setChildren_self]
  have hsows := @sows_setChildren F _ node [] (.refl _ _)
  rwa [hself] at hsows

mutual

/-- Planting an item leaves its topmost node to be listed. -/
theorem sows_plantItem (owner : NodeId) :
    ∀ (item : Item) (F : Forest) (parent : NodeId),
      F.Sows (plantItem F owner parent item).1 (some parent) [(plantItem F owner parent item).2]
  | .element name attributes content, F, parent => by
      let serials : Forest := { F with nextSerial := F.nextSerial + attributes.length }
      let node : Node := ⟨.element name (numberCells F.nextSerial attributes), some parent,
        some owner, []⟩
      have hcontent := sows_plantItems owner content (serials.add node).1 F.size
      exact (@sows_setChildren serials _ node _ hcontent).of_nodes rfl
  | .text _, F, parent => sows_addLeaf F owner parent _
  | .cdata _, F, parent => sows_addLeaf F owner parent _
  | .comment _, F, parent => sows_addLeaf F owner parent _
  | .instruction _ _, F, parent => sows_addLeaf F owner parent _
  | .doctype _, F, parent => sows_addLeaf F owner parent _

/-- Planting some items leaves the topmost nodes to be listed. -/
theorem sows_plantItems (owner : NodeId) :
    ∀ (items : List Item) (F : Forest) (parent : NodeId),
      F.Sows (plantItems F owner parent items).1 (some parent) (plantItems F owner parent items).2
  | [], F, parent => .refl F (some parent)
  | item :: items, F, parent =>
      (sows_plantItem owner item F parent).append (sows_plantItems owner items _ parent)

end

/-- Planting a document leaves only the document itself unlisted, which has no parent. -/
theorem sows_plant (F : Forest) (doc : Document) : F.Sows (F.plant doc).1 none [F.size] :=
  sows_setChildren (sows_plantItems F.size doc.content
    (F.add ⟨.document doc.declaration false, none, none, []⟩).1 F.size)

end Forest

end XmlScribe
