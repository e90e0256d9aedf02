/-
**The border around a document.**

Links do not cross the border of a document: what stands below a node of the document belongs to the
document, and what belongs to it stands below no other node.  Nodes are made, moved and planted on
one side of the border, and as long as the document itself is held, so it is when others vanish.

Main definitions:

* `Forest.HasBorder` — no link crosses the border of a document.

Main results:

* `Forest.HasBorder.home?_of_below` — what stands below a document belongs to it;
* `Forest.HasBorder.step` — a call keeps the border;
* `Forest.HasBorder.plant`, `Forest.HasBorder.retain` — so do planting and vanishing.
-/

import XmlScribe.Proofs.Forest.Below
import XmlScribe.Proofs.Forest.Effect
import XmlScribe.Proofs.Forest.Planting

set_option autoImplicit false

namespace XmlScribe

namespace Forest

/-- No link crosses the border of the document `doc`. -/
structure HasBorder (F : Forest) (doc : NodeId) : Prop where
  /-- The nodes that are listed as children exist. -/
  exists_of_mem : ∀ {p c}, c ∈ F.children p → (F.type? c).isSome = true
  /-- The documents that nodes belong to exist. -/
  exists_of_owner : ∀ {id d}, F.owner? id = some d → (F.type? d).isSome = true
  /-- A document belongs to none. -/
  owner_of_document : ∀ {d}, F.type? d = some .document → F.owner? d = none
  /-- A child belongs to the document exactly if its parent is the document or belongs to it. -/
  owner_iff_of_mem : ∀ {p c}, c ∈ F.children p → (F.owner? c = some doc ↔ F.home? p = some doc)

theorem hasBorder_empty (doc : NodeId) : empty.HasBorder doc where
  exists_of_mem := by simp [children, get?, empty]
  exists_of_owner := by simp [owner?, get?, empty]
  owner_of_document := by simp [owner?, get?, empty]
  owner_iff_of_mem := by simp [children, get?, empty]

theorem isSome_type?_of_owner? {F : Forest} {id d : NodeId} (h : F.owner? id = some d) :
    (F.type? id).isSome = true := by
  obtain ⟨node, hn, -⟩ := Option.bind_eq_some_iff.1 h
  simp [type?, payload?, hn]

theorem isSome_type?_of_home? {F : Forest} {id d : NodeId} (h : F.home? id = some d) :
    (F.type? id).isSome = true := by
  rw [home?] at h
  split at h
  · rename_i ht
    rw [ht]
    rfl
  · exact isSome_type?_of_owner? h

/-! ### What vanishing leaves -/

theorem get?_retain (F : Forest) (held : List NodeId) (id : NodeId) :
    (F.retain held).get? id = (F.get? id).map fun node =>
      cutLinks (held.flatMap F.preorder)
        (if (held.flatMap F.preorder).elem id then node else bare node) := by
  simp [get?, retain, Array.getElem?_mapIdx]

theorem type_bare (node : Node) : (bare node).payload.type = node.payload.type := by
  rw [bare]
  split
  · rename_i hp
    rw [hp]
    rfl
  · rfl

theorem links_bare (node : Node) :
    (bare node).owner = node.owner ∧ (bare node).children = node.children := by
  rw [bare]
  split <;> exact ⟨rfl, rfl⟩

/-- Nodes that vanish stay of their kinds. -/
theorem type?_retain (F : Forest) (held : List NodeId) (id : NodeId) :
    (F.retain held).type? id = F.type? id := by
  rw [type?, payload?, get?_retain, type?, payload?]
  cases F.get? id with
  | none => rfl
  | some node =>
      simp only [Option.map_some, cutLinks]
      split
      · rfl
      · rw [type_bare]

theorem children_retain (F : Forest) (held : List NodeId) (id : NodeId) :
    (F.retain held).children id = F.children id := by
  rw [children, get?_retain, children]
  cases F.get? id with
  | none => rfl
  | some node =>
      simp only [Option.map_some, Option.getD_some, cutLinks]
      split
      · rfl
      · exact (links_bare node).2

/-- Nodes belong to the documents that are left. -/
theorem owner?_retain (F : Forest) (held : List NodeId) (id : NodeId) :
    (F.retain held).owner? id = (F.owner? id).filter (held.flatMap F.preorder).elem := by
  rw [owner?, get?_retain, owner?]
  cases F.get? id with
  | none => rfl
  | some node =>
      simp only [Option.map_some, Option.bind_some, cutLinks]
      split
      · rfl
      · rw [(links_bare node).1]

theorem mem_preorder_self {F : Forest} {id : NodeId} (h : id < F.size) (doc : NodeId) :
    doc ∈ F.preorder doc := by
  obtain ⟨n, hn⟩ := Nat.exists_eq_succ_of_ne_zero (Nat.ne_of_gt (Nat.zero_lt_of_lt h))
  rw [preorder, hn, preorderFrom]
  exact List.mem_cons_self

/-- What an insertion and a removal do to a node that they are not about. -/
theorem get?_relinked {F : Forest} {parent child id : NodeId} (hp : id ≠ parent)
    (hc : id ≠ child) (children : List NodeId) (link : Option NodeId) :
    ((F.setChildren parent children).setParent child link).get? id = F.get? id := by
  rw [setParent, get?_modify, if_neg (Ne.symm hc), setChildren, get?_modify, if_neg (Ne.symm hp)]

namespace HasBorder

variable {F G : Forest} {doc : NodeId} (hF : F.HasBorder doc)
include hF

theorem home?_of_owner? {id : NodeId} (h : F.owner? id = some doc) : F.home? id = some doc := by
  rw [home?]
  split
  · rename_i hd
    rw [hF.owner_of_document hd] at h
    cases h
  · exact h

/-- What stands below a document belongs to it. -/
theorem home?_of_below (hdoc : F.type? doc = some .document) {id : NodeId} (h : F.Below doc id) :
    F.home? id = some doc := by
  induction h with
  | refl => rw [home?, if_pos hdoc]
  | child _ hc ih => exact hF.home?_of_owner? ((hF.owner_iff_of_mem hc).2 ih)

/-! ### Steps -/

theorem sameLinks (h : F.SameLinks G) : G.HasBorder doc where
  exists_of_mem := by
    intro p c hc
    rw [h.children] at hc
    rw [h.type?]
    exact hF.exists_of_mem hc
  exists_of_owner := by
    intro id d ho
    rw [h.owner?] at ho
    rw [h.type?]
    exact hF.exists_of_owner ho
  owner_of_document := by
    intro d hd
    rw [h.type?] at hd
    rw [h.owner?]
    exact hF.owner_of_document hd
  owner_iff_of_mem := by
    intro p c hc
    rw [h.children] at hc
    rw [h.owner?, home?_congr (h.type? p) (h.owner? p)]
    exact hF.owner_iff_of_mem hc

/-- A node is added that has no children and belongs to a document, or is one. -/
theorem add {node : Node} (hget : ∀ id, G.get? id = if id = F.size then some node else F.get? id)
    (hchildren : node.children = [])
    (howner : (node.payload.type = .document ∧ node.owner = none) ∨
      (node.payload.type ≠ .document ∧ ∃ d, node.owner = some d ∧ F.type? d = some .document)) :
    G.HasBorder doc := by
  have hne : ∀ {id}, (F.type? id).isSome = true → id ≠ F.size := fun h =>
    Nat.ne_of_lt (lt_size_of_isSome_type? h)
  have htype : ∀ {id}, (F.type? id).isSome = true → G.type? id = F.type? id :=
    fun h => type?_added hget (hne h)
  have hlisted := children_added hget hchildren
  refine ⟨fun hc => ?_, fun {id d} ho => ?_, fun {d} hd => ?_, fun {p c} hc => ?_⟩
  · rw [hlisted] at hc
    have hc := hF.exists_of_mem hc
    rwa [htype hc]
  · have hd : (F.type? d).isSome = true := by
      by_cases hid : id = F.size
      · subst hid
        rw [owner?_added_size hget] at ho
        rcases howner with ⟨-, hnone⟩ | ⟨-, d', hd', ht⟩
        · rw [hnone] at ho
          cases ho
        · obtain rfl := Option.some.inj (hd'.symm.trans ho)
          rw [ht]
          rfl
      · exact hF.exists_of_owner (owner?_added hget hid ▸ ho)
    rwa [htype hd]
  · by_cases hid : d = F.size
    · subst hid
      rcases howner with ⟨-, hnone⟩ | ⟨ht, -⟩
      · rw [owner?_added_size hget, hnone]
      · rw [type?_added_size hget] at hd
        exact absurd (Option.some.inj hd) ht
    · rw [type?_added hget hid] at hd
      rw [owner?_added hget hid]
      exact hF.owner_of_document hd
  · -- a node that lists children is an old one, and so are they
    rw [hlisted] at hc
    obtain ⟨old, hp, -⟩ := mem_children_iff.1 hc
    have hp : p ≠ F.size := Nat.ne_of_lt (lt_size_of_get? hp)
    rw [owner?_added hget (hne (hF.exists_of_mem hc)),
      home?_congr (type?_added hget hp) (owner?_added hget hp)]
    exact hF.owner_iff_of_mem hc

/-- A node has other children, on its own side of the border. -/
theorem relist {parent : NodeId} {list : List NodeId} (ht : ∀ id, G.type? id = F.type? id)
    (ho : ∀ id, G.owner? id = F.owner? id)
    (hc : ∀ id, G.children id = if id = parent then list else F.children id)
    (hlist : ∀ c ∈ list, (F.type? c).isSome = true ∧
      (F.owner? c = some doc ↔ F.home? parent = some doc)) : G.HasBorder doc := by
  have hmem : ∀ {p c}, c ∈ G.children p → (F.type? c).isSome = true ∧
      (F.owner? c = some doc ↔ F.home? p = some doc) := by
    intro p c hm
    rw [hc] at hm
    split at hm
    · rename_i hp
      subst hp
      exact hlist c hm
    · exact ⟨hF.exists_of_mem hm, hF.owner_iff_of_mem hm⟩
  refine ⟨fun hm => ?_, fun {id d} h => ?_, fun {d} hd => ?_, fun {p c} hm => ?_⟩
  · rw [ht]
    exact (hmem hm).1
  · rw [ho] at h
    rw [ht]
    exact hF.exists_of_owner h
  · rw [ht] at hd
    rw [ho]
    exact hF.owner_of_document hd
  · rw [ho, home?_congr (ht p) (ho p)]
    exact (hmem hm).2

theorem removeChild {parent child : NodeId} (h : F.removeChild parent child = .ok G) :
    G.HasBorder doc := by
  obtain ⟨-, -, hm, -⟩ := removeChild_eq_ok_iff.1 h
  have hchild := lt_size_of_isSome_type? (hF.exists_of_mem hm)
  obtain ⟨hu, -⟩ := unlinks_removeChild hchild h
  refine hF.relist hu.type? hu.owner? hu.children fun c hc => ?_
  have hc := List.mem_of_mem_erase hc
  exact ⟨hF.exists_of_mem hc, hF.owner_iff_of_mem hc⟩

theorem detach {child : NodeId} (h : F.detach child = .ok G) : G.HasBorder doc := by
  rcases detach_cases h with ⟨-, rfl⟩ | ⟨parent, -, h⟩
  · exact hF
  · exact hF.removeChild h

theorem insertBefore {parent child : NodeId} {before : Option NodeId}
    (h : F.insertBefore parent child before = .ok G) : G.HasBorder doc := by
  rcases insertBefore_cases h with rfl | ⟨-, D, hD, hcheck, rfl⟩
  · exact hF
  · have hborder := hF.detach hD
    obtain ⟨-, hm, -, hs, -⟩ := checkInsertion_eq_ok_iff.1 hcheck
    obtain ⟨s, t, hp, hc, -⟩ := exists_type?_of_mayHold hm
    obtain ⟨hpay, hown, -, hch⟩ := relinked (lt_size_of_type? hp) (lt_size_of_type? hc)
      (place child before (D.children parent)) (some parent)
    refine hborder.relist (fun id => by rw [type?, hpay, ← type?]) hown hch fun c hcm => ?_
    rcases List.mem_cons.1 ((place_perm child before _).mem_iff.1 hcm) with rfl | hcm
    · exact ⟨by rw [hc]; rfl, by rw [owner_of_sharesDocument hs, home?]⟩
    · exact ⟨hborder.exists_of_mem hcm, hborder.owner_iff_of_mem hcm⟩

/-! ### Calls -/

theorem effect (h : F.Effect G) : G.HasBorder doc := by
  cases h with
  | same h => exact hF.sameLinks (sameLinks_of_get? h)
  | brings node h => exact hF.add h.get? h.children_eq h.owner
  | rewrites id _ h => exact hF.sameLinks h.sameLinks
  | tells d declaration h => exact h ▸ hF.sameLinks (F.rewrites_setDeclaration d declaration).sameLinks
  | removes parent child h => exact hF.removeChild h
  | inserts parent child before h => exact hF.insertBefore h

/-- A call keeps the border, whether it is refused or not. -/
theorem step (change : Change) : (F.step change).HasBorder doc := by
  rw [Forest.step]
  cases h : change.apply F with
  | error fault => exact hF
  | ok G =>
      rcases effect_of_apply h with ⟨d, readOnly, -, rfl⟩ | heffect
      · exact hF.sameLinks (F.rewrites_setReadOnly d readOnly).sameLinks
      · exact hF.effect heffect

/-! ### Planting and vanishing -/

/-- Planting keeps the border. -/
theorem plant (d : Document) : (F.plant d).1.HasBorder doc := by
  have hkept : KeptByPlanting (HasBorder · doc) (fun payload => payload.type ≠ .document) F.size := by
    refine ⟨fun n h => h.sameLinks ⟨fun _ => rfl, fun _ => rfl, fun _ => rfl, fun _ => rfl⟩, ?_, ?_⟩
    · intro F payload parent h hdoc hp
      exact h.add (get?_add F _) rfl (Or.inr ⟨hp, _, rfl, hdoc⟩)
    · intro F id list h hhome hlist
      have hid : id < F.size := lt_size_of_isSome_type? (isSome_type?_of_home? hhome)
      have htype : ∀ other, (F.setChildren id list).type? other = F.type? other := fun other =>
        congrArg (Option.map Payload.type) (payload?_setChildren F id list other)
      exact h.relist htype (F.owner?_setChildren id list) (children_setChildren hid list)
        fun c hc => ⟨isSome_type?_of_owner? (hlist c hc), by rw [hlist c hc, hhome]⟩
  refine hkept.plant d (Item.everywhere_of_forall (fun item serial => ?_) _) ?_
  · cases item <;> simp [Item.payloadFrom, Payload.type]
  · exact hF.add (get?_add F _) rfl (Or.inl ⟨rfl, rfl⟩)

/-- Vanishing keeps the border of a document if it is held once it is there. -/
theorem retain {held : List NodeId} (h : (F.type? doc).isSome = true → doc ∈ held) :
    (F.retain held).HasBorder doc := by
  have howner : ∀ {id d}, (F.retain held).owner? id = some d → F.owner? id = some d :=
    fun ho => by
      rw [owner?_retain] at ho
      exact (Option.filter_eq_some_iff.1 ho).1
  have hiff : ∀ id, (F.retain held).owner? id = some doc ↔ F.owner? id = some doc := fun id => by
    refine ⟨howner, fun ho => ?_⟩
    have hdoc := hF.exists_of_owner ho
    rw [owner?_retain, Option.filter_eq_some_iff]
    refine ⟨ho, List.elem_iff.2 (List.mem_flatMap.2 ⟨doc, h hdoc, ?_⟩)⟩
    exact mem_preorder_self (lt_size_of_isSome_type? hdoc) doc
  refine ⟨fun hc => ?_, fun ho => ?_, fun hd => ?_, fun {p c} hc => ?_⟩
  · rw [children_retain] at hc
    rw [type?_retain]
    exact hF.exists_of_mem hc
  · rw [type?_retain]
    exact hF.exists_of_owner (howner ho)
  · rw [type?_retain] at hd
    rw [owner?_retain, hF.owner_of_document hd]
    rfl
  · rw [children_retain] at hc
    rw [hiff, hF.owner_iff_of_mem hc, home?, home?, type?_retain]
    split
    · rfl
    · exact (hiff p).symm

end HasBorder

end Forest

end XmlScribe
