/-
**Lineages where links agree.**

In a forest whose links agree, looking up from a node and looking down from one find the same nodes.
An element anywhere in a document, not only at its top, therefore cuts the elements around a node
below it in two: those up to the element, all of them below it too, and those around the element,
none of them.

Main results:

* `Forest.LinksAgree.mem_preorder_of_below` — the walk through a node finds what is below it;
* `Forest.LinksAgree.elementLineage_eq_cons` — what is around an element, by what is around its parent;
* `Forest.IsWellLinked.elementLineage_child` — the elements around a child;
* `Forest.IsWellLinked.exists_elementLineage_eq` — the elements around an element below another;
* `Forest.IsWellLinked.mem_elementsFrom_iff`, `Forest.IsWellLinked.nodup_elementsFrom`,
  `Forest.IsWellLinked.parentsFirst_elementsFrom` — the walk through an element finds all elements
  below it, each once and after its parent.
-/

import XmlScribe.Proofs.Forest.Below
import XmlScribe.Proofs.Forest.WellLinked

set_option autoImplicit false

namespace XmlScribe

namespace Forest

theorem isElement_iff {F : Forest} {id : NodeId} :
    F.isElement id = true ↔ F.type? id = some .element := by
  rw [isElement, beq_iff_eq]

/-- More fuel does not help where some is left. -/
theorem lineageFrom_succ_of_length_le {F : Forest} {fuel : Nat} {id : NodeId}
    (h : (F.lineageFrom (fuel + 1) id).length ≤ fuel) :
    F.lineageFrom (fuel + 1) id = F.lineageFrom fuel id := by
  induction fuel generalizing id with
  | zero =>
      rw [lineageFrom] at h
      split at h <;> simp at h
  | succ fuel ih =>
      rw [lineageFrom] at h ⊢
      conv_rhs => rw [lineageFrom]
      cases hp : F.parent? id with
      | none => rfl
      | some p =>
          simp only [hp, List.length_cons] at h
          simp only [ih (Nat.le_of_succ_le_succ h)]

/-- A node that is no element has no elements around it. -/
theorem elementLineage_eq_nil {F : Forest} {id : NodeId} (h : F.isElement id = false) :
    F.elementLineage id = [] := by
  rw [elementLineage, lineage]
  cases F.size with
  | zero => rfl
  | succ n =>
      rw [lineageFrom]
      split <;> simp [h]

/-! ### Ways down -/

/-- Whatever stands on a way down has the end of the way below it. -/
theorem IsPath.below_of_mem_cons {F : Forest} {root d : NodeId} {path : List NodeId}
    (h : F.IsPath root (d :: path)) {x : NodeId} (hx : x ∈ d :: path) : F.Below x d := by
  induction path generalizing d with
  | nil =>
      obtain rfl := List.mem_singleton.1 hx
      exact .refl
  | cons p path ih =>
      cases h with
      | child hp hc =>
          rcases List.mem_cons.1 hx with rfl | hx
          · exact .refl
          · exact .child (ih hp hx) hc

theorem Below.lt_size {F : Forest} {root d : NodeId} (h : F.Below root d) (hd : d < F.size) :
    root < F.size := by
  induction h with
  | refl => exact hd
  | child _ hc ih => exact ih (lt_size_of_mem_children hc)

namespace LinksAgree

variable {F : Forest} {gone : NodeId → Prop} (hF : F.LinksAgree gone) {root : NodeId}
  (hroot : ¬ gone root)
include hF hroot

theorem not_gone_of_below {d : NodeId} (h : F.Below root d) : ¬ gone d := by
  induction h with
  | refl => exact hroot
  | child _ hc ih => exact hF.not_gone_of_mem ih hc

/-- What is below a node has the node above it. -/
theorem reflTransGen_of_below {d : NodeId} (h : F.Below root d) :
    Relation.ReflTransGen F.IsParent d root := by
  induction h with
  | refl => exact .refl
  | child hp hc ih => exact .head (hF.parent_of_mem (hF.not_gone_of_below hroot hp) hc) ih

/-- No node is met twice on a way down. -/
theorem nodup_of_isPath {path : List NodeId} (h : F.IsPath root path) : path.Nodup := by
  induction h with
  | root => exact List.nodup_singleton root
  | @child p c path hp hc ih =>
      refine List.nodup_cons.2 ⟨fun hm => ?_, ih⟩
      -- a child on the way to its parent would stand above itself
      have hpar := hF.parent_of_mem (hF.not_gone_of_below hroot (hp.below_of_mem (by simp))) hc
      have hup := hF.reflTransGen_of_below (hF.not_gone_of_below hroot (hp.below_of_mem hm))
        (hp.below_of_mem_cons hm)
      exact hF.not_isAbove_self c (.head' hpar hup)

/-- A way down is no longer than there are nodes. -/
theorem length_le_size {d : NodeId} {path : List NodeId} (hd : d < F.size)
    (h : F.IsPath root (d :: path)) : (d :: path).length ≤ F.size :=
  length_le_of_nodup (hF.nodup_of_isPath hroot h) fun _ hx => (h.below_of_mem_cons hx).lt_size hd

/-- The walk through a node finds what is below it. -/
theorem mem_preorder_of_below {d : NodeId} (hd : d < F.size) (h : F.Below root d) :
    d ∈ F.preorder root := by
  obtain ⟨path, hp⟩ := exists_isPath_of_below h
  obtain ⟨more, hm⟩ := Nat.exists_eq_add_of_le (hF.length_le_size hroot hd hp)
  rw [preorder, hm]
  clear hm
  induction more with
  | zero => exact mem_preorderFrom_of_isPath hp
  | succ more ih => exact mem_preorderFrom_succ ih

omit hroot in
/-- What is above a node is the node, its parent and what is above that. -/
theorem lineage_of_parent {p c : NodeId} (h : F.parent? c = some p) :
    F.lineage c = c :: F.lineage p := by
  have hmem := hF.mem_of_parent h
  have hlt := lt_size_of_parent? h
  obtain ⟨n, hn⟩ := Nat.exists_eq_succ_of_ne_zero (Nat.ne_of_gt (Nat.zero_lt_of_lt hlt))
  -- the node is not above its parent, so there is fuel left at the parent
  have hnot : c ∉ F.lineageFrom (n + 1) p := fun hm =>
    hF.not_isAbove_self c (.head' h (reflTransGen_of_mem_lineageFrom hm))
  have hnodup : (c :: F.lineageFrom (n + 1) p).Nodup :=
    List.nodup_cons.2 ⟨hnot, hF.nodup_lineageFrom (n + 1) p⟩
  have hlen := length_le_of_nodup hnodup fun x hx => by
    rcases List.mem_cons.1 hx with rfl | hx
    · exact hlt
    · exact hF.lt_size_of_mem_lineageFrom (lt_size_of_mem_children hmem) hx
  rw [List.length_cons, hn] at hlen
  have hfuel := lineageFrom_succ_of_length_le (Nat.le_of_succ_le_succ hlen)
  rw [lineage, lineage, hn, lineageFrom, h, hfuel]

omit hroot in
/-- The elements around an element are the element and, if its parent is an element, those around
its parent. -/
theorem elementLineage_eq_cons {e : NodeId} (he : F.isElement e = true) :
    F.elementLineage e = e :: ((F.parent? e).map F.elementLineage).getD [] := by
  cases hp : F.parent? e with
  | none =>
      obtain ⟨n, hn⟩ :=
        Nat.exists_eq_succ_of_ne_zero (Nat.ne_of_gt (Nat.zero_lt_of_lt (lt_size_of_isElement he)))
      rw [elementLineage, lineage, hn, lineageFrom, hp, List.takeWhile_cons_of_pos he]
      rfl
  | some p =>
      rw [elementLineage, hF.lineage_of_parent hp, List.takeWhile_cons_of_pos he]
      rfl

end LinksAgree

namespace IsWellLinked

variable {F : Forest} (hF : F.IsWellLinked)
include hF

theorem isTreeBelow (root : NodeId) : F.IsTreeBelow root where
  parent_of_mem _ hc := hF.mem_children_iff.1 hc
  mayHold_of_mem _ hc := hF.mayHold_of_mem hc
  owner_of_mem _ hc := hF.sharesDocument_of_mem hc

/-- A node is not below a node that is below it. -/
theorem not_mem_children_of_below {root p : NodeId} (h : F.Below root p) :
    root ∉ F.children p := fun hc =>
  hF.not_isAbove_self root (.head' (hF.mem_children_iff.1 hc)
    (hF.linksAgree.reflTransGen_of_below not_false h))

/-- Below an element only elements have children. -/
theorem isElement_of_below {e p c : NodeId} (he : F.isElement e = true) (hp : F.Below e p)
    (hc : c ∈ F.children p) : F.isElement p = true := by
  cases hp with
  | refl => exact he
  | @child q _ hq hqp =>
      obtain ⟨s, t, -, hpt, hst⟩ := exists_type?_of_mayHold (hF.mayHold_of_mem hqp)
      obtain ⟨s', t', hps, -, hst'⟩ := exists_type?_of_mayHold (hF.mayHold_of_mem hc)
      obtain rfl := Option.some.inj (hpt.symm.trans hps)
      rw [isElement_iff, hpt]
      -- a kind that stands somewhere and holds something
      cases s <;> cases t <;> cases t' <;> simp_all [NodeType.mayHold]

/-! ### Looking up -/

/-- What is above a child is the child, its parent and what is above that. -/
theorem lineage_child {p c : NodeId} (hc : c ∈ F.children p) :
    F.lineage c = c :: F.lineage p :=
  hF.linksAgree.lineage_of_parent (hF.mem_children_iff.1 hc)

/-- The elements around a child element are the child and those around its parent. -/
theorem elementLineage_child {p c : NodeId} (hc : c ∈ F.children p)
    (he : F.isElement c = true) : F.elementLineage c = c :: F.elementLineage p := by
  rw [elementLineage, hF.lineage_child hc, List.takeWhile_cons_of_pos he, elementLineage]

/-- The elements around an element below `e` are elements below `e`, and then `e` and those around
it. -/
theorem exists_elementLineage_eq {e d : NodeId} (he : F.isElement e = true) (hd : F.Below e d)
    (hde : F.isElement d = true) :
    ∃ path, F.elementLineage d = path ++ e :: F.around e ∧ e ∉ path ∧
      ∀ x ∈ path, F.Below e x ∧ F.isElement x = true := by
  induction hd with
  | refl => exact ⟨[], elementLineage_eq_cons_around he, by simp, by simp⟩
  | @child p c hp hc ih =>
      obtain ⟨path, hpath, hne, hall⟩ := ih (hF.isElement_of_below he hp hc)
      refine ⟨c :: path, by rw [hF.elementLineage_child hc hde, hpath]; rfl, ?_, ?_⟩
      · rintro hm
        rcases List.mem_cons.1 hm with rfl | hm
        · exact hF.not_mem_children_of_below hp hc
        · exact hne hm
      · intro x hx
        rcases List.mem_cons.1 hx with rfl | hx
        · exact ⟨.child hp hc, hde⟩
        · exact hall x hx

/-- No element around `e` is below `e`. -/
theorem not_below_of_mem_around {e x : NodeId} (he : F.isElement e = true)
    (hx : x ∈ F.around e) : ¬ F.Below e x := by
  intro hb
  have hlt := lt_size_of_isElement he
  obtain ⟨above, hl⟩ := exists_lineage_eq hlt
  have hmem : x ∈ above := by
    rw [around, elementLineage, hl, List.takeWhile_cons_of_pos he, List.tail_cons] at hx
    exact (List.takeWhile_prefix _).subset hx
  have hne : x ≠ e := by
    rintro rfl
    have hn := hF.linksAgree.nodup_lineageFrom F.size x
    rw [← lineage, hl] at hn
    exact (List.nodup_cons.1 hn).1 hmem
  have hup := (hF.linksAgree.mem_lineage_iff hlt).1 (hl ▸ List.mem_cons_of_mem e hmem)
  have hdown := hF.linksAgree.reflTransGen_of_below not_false hb
  -- up from `e` to `x`, and from there to `e` again
  rcases Relation.ReflTransGen.cases_head hup with rfl | ⟨p, hp, hpx⟩
  · exact hne rfl
  · exact hF.not_isAbove_self e (.head' hp (hpx.trans hdown))

/-! ### Looking down -/

/-- The walk through an element finds the elements below it. -/
theorem mem_elementsFrom_iff {e d : NodeId} :
    d ∈ F.elementsFrom e ↔ F.Below e d ∧ F.isElement d = true := by
  rw [elementsFrom, List.mem_filter]
  exact and_congr_left fun hd => ⟨below_of_mem_preorderFrom .refl,
    hF.linksAgree.mem_preorder_of_below not_false (lt_size_of_isElement hd)⟩

theorem reflTransGen_of_mem_preorderFrom {fuel : Nat} {id x : NodeId}
    (h : x ∈ F.preorderFrom fuel id) : Relation.ReflTransGen F.IsParent x id :=
  hF.linksAgree.reflTransGen_of_below not_false (below_of_mem_preorderFrom .refl h)

/-- No node is below two children of one node. -/
theorem eq_of_reflTransGen {p c c' x : NodeId} (hc : c ∈ F.children p) (hc' : c' ∈ F.children p)
    (h : Relation.ReflTransGen F.IsParent x c) (h' : Relation.ReflTransGen F.IsParent x c') :
    c = c' := by
  have hunique : Relator.RightUnique F.IsParent := fun _ _ _ h₁ h₂ =>
    Option.some.inj (h₁.symm.trans h₂)
  -- a child that is above another one is above the parent of both
  have hup : ∀ {a b}, a ∈ F.children p → b ∈ F.children p →
      Relation.ReflTransGen F.IsParent a b → a = b := by
    intro a b ha hb hab
    rcases Relation.ReflTransGen.cases_head hab with rfl | ⟨q, hq, hqb⟩
    · rfl
    · obtain rfl := hunique hq (hF.mem_children_iff.1 ha)
      exact absurd (.head' (hF.mem_children_iff.1 hb) hqb) (hF.not_isAbove_self b)
  rcases Relation.ReflTransGen.total_of_right_unique hunique h h' with hcc | hcc
  · exact hup hc hc' hcc
  · exact (hup hc' hc hcc).symm

/-- The walk comes to no node twice. -/
theorem nodup_preorderFrom (fuel : Nat) (id : NodeId) : (F.preorderFrom fuel id).Nodup := by
  induction fuel generalizing id with
  | zero => simp [preorderFrom]
  | succ fuel ih =>
      rw [preorderFrom, List.nodup_cons, List.nodup_flatMap]
      refine ⟨fun hm => ?_, fun c _ => ih c, ?_⟩
      · obtain ⟨c, hc, hm⟩ := List.mem_flatMap.1 hm
        exact hF.not_isAbove_self c
          (.head' (hF.mem_children_iff.1 hc) (hF.reflTransGen_of_mem_preorderFrom hm))
      · refine (hF.nodup_children id).imp_of_mem fun hc hc' hne => ?_
        intro x hx hx'
        exact hne (hF.eq_of_reflTransGen hc hc' (hF.reflTransGen_of_mem_preorderFrom hx)
          (hF.reflTransGen_of_mem_preorderFrom hx'))

theorem nodup_elementsFrom (e : NodeId) : (F.elementsFrom e).Nodup :=
  (hF.nodup_preorderFrom F.size e).filter _

/-- The walk through an element comes to every element after its parent. -/
theorem parentsFirst_elementsFrom {e : NodeId} (he : F.isElement e = true) :
    F.ParentsFirst e [] (F.elementsFrom e) :=
  parentsFirst_elementsFrom_of fun hb hc => hF.isElement_of_below he hb hc

end IsWellLinked

end Forest

end XmlScribe
