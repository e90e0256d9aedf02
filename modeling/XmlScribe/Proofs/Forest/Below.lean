/-
**The nodes below an element.**

The links of a forest that has been put together by its operations agree: a child knows its parent,
stands where its kind may stand and belongs to the document of its parent.  Below an element that no
element stands around, all ways down can then be told apart, so none is longer than there are
nodes, and looking up from a node or down from the element finds all that there is to find.

Main definitions:

* `Forest.Below` — a node can be reached from another one through children;
* `Forest.IsPath` — the nodes on a way down, the last one first;
* `Forest.IsTreeBelow` — the links below a node agree;
* `Forest.IsTop` — an element that no element stands around;
* `Forest.around` — the elements around an element;
* `Forest.ParentsFirst` — every node comes after its parent.

Main results:

* `Forest.elementLineage_of_isPath` — the elements around an element are those on the way to it;
* `Forest.mem_elementsFrom_iff` — the walk through an element finds the elements below it;
* `Forest.parentsFirst_elementsFrom` — and every one of them after its parent.
-/

import Mathlib.Data.List.Perm.Subperm
import XmlScribe.Forest.Edit
import XmlScribe.Namespace.Completion

set_option autoImplicit false

namespace XmlScribe

namespace Forest

/-! ### Ways down -/

/-- A node can be reached from `root` through children. -/
inductive Below (F : Forest) (root : NodeId) : NodeId → Prop where
  /-- The node itself. -/
  | refl : Below F root root
  /-- A child of a node that can be reached. -/
  | child {p c : NodeId} (hp : Below F root p) (hc : c ∈ F.children p) : Below F root c

/-- The nodes on a way down from `root`, the last one first. -/
inductive IsPath (F : Forest) (root : NodeId) : List NodeId → Prop where
  /-- No step has been made. -/
  | root : IsPath F root [root]
  /-- One more step has been made. -/
  | child {p c : NodeId} {path : List NodeId} (hp : IsPath F root (p :: path))
      (hc : c ∈ F.children p) : IsPath F root (c :: p :: path)

theorem exists_isPath_of_below {F : Forest} {root d : NodeId} (h : F.Below root d) :
    ∃ path, F.IsPath root (d :: path) := by
  induction h with
  | refl => exact ⟨[], .root⟩
  | child _ hc ih =>
      obtain ⟨path, hp⟩ := ih
      exact ⟨_, .child hp hc⟩

theorem IsPath.below_of_mem {F : Forest} {root : NodeId} {path : List NodeId} (h : F.IsPath root path)
    {x : NodeId} (hx : x ∈ path) : F.Below root x := by
  have key : ∀ l, F.IsPath root l → ∀ d m, l = d :: m → F.Below root d ∧
      ∀ x ∈ m, F.Below root x := by
    intro l hl
    induction hl with
    | root =>
        rintro d m ⟨⟩
        exact ⟨.refl, by simp⟩
    | child hp hc ih =>
        rintro d m ⟨⟩
        obtain ⟨hb, hm⟩ := ih _ _ rfl
        refine ⟨.child hb hc, fun x hx => ?_⟩
        rcases List.mem_cons.1 hx with rfl | hx
        · exact hb
        · exact hm x hx
  cases path with
  | nil => simp at hx
  | cons d m =>
      rcases List.mem_cons.1 hx with rfl | hx
      · exact (key _ h _ _ rfl).1
      · exact (key _ h _ _ rfl).2 x hx

/-- The way to a node on a way. -/
theorem IsPath.of_suffix {F : Forest} {root : NodeId} {path : List NodeId}
    (h : F.IsPath root path) {x : NodeId} (hx : x ∈ path) :
    ∃ rest, F.IsPath root (x :: rest) ∧ x :: rest <:+ path := by
  induction h with
  | root =>
      obtain rfl := List.mem_singleton.1 hx
      exact ⟨[], .root, List.suffix_rfl⟩
  | @child p c path hp hc ih =>
      rcases List.mem_cons.1 hx with rfl | hx
      · exact ⟨p :: path, .child hp hc, List.suffix_rfl⟩
      · obtain ⟨rest, hr, hs⟩ := ih hx
        exact ⟨rest, hr, hs.trans (List.suffix_cons c (p :: path))⟩

/-! ### Links that agree -/

theorem mayHold_eq_true_iff {F : Forest} {p c : NodeId} :
    F.mayHold p c = true ↔
      ∃ s t, F.type? p = some s ∧ F.type? c = some t ∧ s.mayHold t = true := by
  rw [mayHold]
  cases F.type? p <;> cases F.type? c <;> simp

/-- Only elements stand in elements and have children. -/
theorem eq_element_of_mayHold {s t : NodeType}
    (h : NodeType.element.mayHold s = true) (h' : s.mayHold t = true) : s = .element := by
  cases s <;> cases t <;> simp [NodeType.mayHold] at h h' ⊢

/-- The links of the nodes below `root` agree. -/
structure IsTreeBelow (F : Forest) (root : NodeId) : Prop where
  /-- A child knows its parent. -/
  parent_of_mem : ∀ {p c}, F.Below root p → c ∈ F.children p → F.parent? c = some p
  /-- A child is of a kind that may stand there. -/
  mayHold_of_mem : ∀ {p c}, F.Below root p → c ∈ F.children p → F.mayHold p c = true
  /-- A child belongs to the document of its parent. -/
  owner_of_mem : ∀ {p c}, F.Below root p → c ∈ F.children p → F.sharesDocument p c = true

/-- An element that no element stands around. -/
structure IsTop (F : Forest) (root : NodeId) : Prop where
  /-- It is an element. -/
  isElement : F.isElement root = true
  /-- What it stands in, if anything, is not. -/
  isElement_parent : ∀ p, F.parent? root = some p → F.isElement p = false

theorem lt_size_of_isElement {F : Forest} {id : NodeId} (h : F.isElement id = true) : id < F.size := by
  refine Nat.lt_of_not_le fun hle => ?_
  have hn : F.get? id = none := Array.getElem?_eq_none hle
  simp [isElement, type?, payload?, hn] at h

/-! ### What is around an element -/

/-- The elements around an element, from the inside out. -/
def around (F : Forest) (e : NodeId) : List NodeId :=
  (F.elementLineage e).tail

/-- What is above a node, and the node, begin with the node. -/
theorem exists_lineage_eq {F : Forest} {id : NodeId} (h : id < F.size) :
    ∃ above, F.lineage id = id :: above := by
  obtain ⟨n, hn⟩ := Nat.exists_eq_succ_of_ne_zero (Nat.ne_of_gt (Nat.zero_lt_of_lt h))
  rw [lineage, hn, lineageFrom]
  split <;> exact ⟨_, rfl⟩

/-- An element comes first, and then the elements around it. -/
theorem elementLineage_eq_cons_around {F : Forest} {e : NodeId} (he : F.isElement e = true) :
    F.elementLineage e = e :: F.around e := by
  obtain ⟨above, hl⟩ := exists_lineage_eq (lt_size_of_isElement he)
  rw [around, elementLineage, hl, List.takeWhile_cons_of_pos he, List.tail_cons]

section Below

variable {F : Forest} {root : NodeId} (hF : F.IsTreeBelow root) (hr : F.IsTop root)
include hF hr

theorem isElement_of_mem_children {p c : NodeId} (hp : F.Below root p)
    (hc : c ∈ F.children p) : F.isElement p = true := by
  induction hp generalizing c with
  | refl => exact hr.isElement
  | @child q p hq hpq ih =>
      have hm := hF.mayHold_of_mem (.child hq hpq) hc
      have hn := hF.mayHold_of_mem hq hpq
      have he := ih hpq
      rw [isElement, beq_iff_eq] at he ⊢
      obtain ⟨s, t, hs, ht, hst⟩ := mayHold_eq_true_iff.1 hn
      obtain ⟨t', u, ht', -, htu⟩ := mayHold_eq_true_iff.1 hm
      obtain rfl := Option.some.inj (ht.symm.trans ht')
      obtain rfl := Option.some.inj (he.symm.trans hs)
      rw [ht, eq_element_of_mayHold hst htu]

theorem ne_root_of_mem_children {p c : NodeId} (hp : F.Below root p)
    (hc : c ∈ F.children p) : c ≠ root := by
  rintro rfl
  have h₁ := hF.parent_of_mem hp hc
  have h₂ := isElement_of_mem_children hF hr hp hc
  rw [hr.isElement_parent p h₁] at h₂
  exact Bool.noConfusion h₂

/-- There is only one way down to a node. -/
theorem IsPath.unique {d : NodeId} {l m : List NodeId} (hl : F.IsPath root (d :: l))
    (hm : F.IsPath root (d :: m)) : l = m := by
  induction l generalizing d m with
  | nil =>
      cases hl
      cases hm with
      | root => rfl
      | child hp hc => exact absurd rfl (ne_root_of_mem_children hF hr (hp.below_of_mem (by simp)) hc)
  | cons p l ih =>
      cases hl with
      | child hp hc =>
          cases hm with
          | root => exact absurd rfl (ne_root_of_mem_children hF hr (hp.below_of_mem (by simp)) hc)
          | child hq hd =>
              have h₁ := hF.parent_of_mem (hp.below_of_mem (by simp)) hc
              have h₂ := hF.parent_of_mem (hq.below_of_mem (by simp)) hd
              obtain rfl := Option.some.inj (h₁.symm.trans h₂)
              rw [ih hp hq]

/-- No node is met twice on a way down. -/
theorem IsPath.nodup {path : List NodeId} (h : F.IsPath root path) : path.Nodup := by
  induction h with
  | root => simp
  | @child p c path hp hc ih =>
      refine List.nodup_cons.2 ⟨fun hm => ?_, ih⟩
      obtain ⟨rest, hrest, hs⟩ := hp.of_suffix hm
      have he := hrest.unique hF hr (.child hp hc)
      have hlen := hs.length_le
      rw [he] at hlen
      simp only [List.length_cons] at hlen
      omega

/-- Every way down to an element leads through elements only. -/
theorem IsPath.isElement_of_mem {d : NodeId} {path : List NodeId} (h : F.IsPath root (d :: path))
    (hd : F.isElement d = true) {x : NodeId} (hx : x ∈ d :: path) : F.isElement x = true := by
  induction path generalizing d with
  | nil =>
      obtain rfl := List.mem_singleton.1 hx
      exact hd
  | cons p path ih =>
      cases h with
      | child hp hc =>
          rcases List.mem_cons.1 hx with rfl | hx
          · exact hd
          · exact ih hp (isElement_of_mem_children hF hr (hp.below_of_mem (by simp)) hc) hx

/-- A way down to an element is no longer than there are nodes. -/
theorem IsPath.length_le_size {d : NodeId} {path : List NodeId} (h : F.IsPath root (d :: path))
    (hd : F.isElement d = true) : (d :: path).length ≤ F.size := by
  have hs : d :: path ⊆ List.range F.size := fun x hx =>
    List.mem_range.2 (lt_size_of_isElement (h.isElement_of_mem hF hr hd hx))
  have hl := (List.subperm_of_subset (h.nodup hF hr) hs).length_le
  rwa [List.length_range] at hl

/-! ### Looking up -/

omit hr in
/-- Looking up from a node finds the way down to it, and then what is above the top. -/
theorem lineageFrom_of_isPath {d : NodeId} {path : List NodeId} (h : F.IsPath root (d :: path))
    (fuel : Nat) :
    F.lineageFrom (path.length + 1 + fuel) d =
      d :: path ++ ((F.parent? root).map (F.lineageFrom fuel)).getD [] := by
  induction path generalizing d with
  | nil =>
      cases h
      rw [List.length_nil, Nat.zero_add, Nat.add_comm, lineageFrom]
      cases F.parent? root <;> rfl
  | cons p path ih =>
      cases h with
      | child hp hc =>
          have hl : (p :: path).length + 1 + fuel = path.length + 1 + fuel + 1 := by
            rw [List.length_cons]
            omega
          rw [hl, lineageFrom, hF.parent_of_mem (hp.below_of_mem (by simp)) hc]
          exact congrArg (d :: ·) (ih hp)

omit hF in
theorem takeWhile_above (fuel : Nat) :
    (((F.parent? root).map (F.lineageFrom fuel)).getD []).takeWhile F.isElement = [] := by
  cases hp : F.parent? root with
  | none => rfl
  | some p =>
      have he := hr.isElement_parent p hp
      cases fuel with
      | zero => rfl
      | succ fuel =>
          simp only [Option.map_some, Option.getD_some, lineageFrom]
          split <;> simp [he]

/-- The elements around an element are those on the way down to it. -/
theorem elementLineage_of_isPath {d : NodeId} {path : List NodeId}
    (h : F.IsPath root (d :: path)) (hd : F.isElement d = true) :
    F.elementLineage d = d :: path := by
  obtain ⟨fuel, hf⟩ := Nat.exists_eq_add_of_le (h.length_le_size hF hr hd)
  rw [List.length_cons] at hf
  rw [elementLineage, lineage, hf, lineageFrom_of_isPath hF h,
    List.takeWhile_append_of_pos fun x hx => h.isElement_of_mem hF hr hd hx,
    takeWhile_above hr, List.append_nil]

/-- No element stands around the top. -/
theorem elementLineage_root : F.elementLineage root = [root] :=
  elementLineage_of_isPath hF hr .root hr.isElement

/-- The elements around a child are the child and those around its parent. -/
theorem elementLineage_child {p c : NodeId} (hp : F.Below root p) (hc : c ∈ F.children p)
    (he : F.isElement c = true) : F.elementLineage c = c :: F.elementLineage p := by
  obtain ⟨path, hpath⟩ := exists_isPath_of_below hp
  rw [elementLineage_of_isPath hF hr (.child hpath hc) he,
    elementLineage_of_isPath hF hr hpath (isElement_of_mem_children hF hr hp hc)]

/-- The top comes last among the elements around an element below it, and only there. -/
theorem elementLineage_eq_append_root {d : NodeId} (hd : F.Below root d)
    (he : F.isElement d = true) :
    ∃ path, F.elementLineage d = path ++ [root] ∧ root ∉ path := by
  obtain ⟨path, hp⟩ := exists_isPath_of_below hd
  obtain ⟨rest, hrest⟩ : ∃ rest, d :: path = rest ++ [root] := by
    clear he hd
    induction path generalizing d with
    | nil =>
        cases hp
        exact ⟨[], rfl⟩
    | cons p path ih =>
        cases hp with
        | child hp hc =>
            obtain ⟨rest, hr⟩ := ih hp
            exact ⟨d :: rest, by rw [hr]; rfl⟩
  refine ⟨rest, by rw [elementLineage_of_isPath hF hr hp he, hrest], fun hm => ?_⟩
  have hn := hp.nodup hF hr
  rw [hrest, List.nodup_append] at hn
  exact hn.2.2 root hm root (by simp) rfl

/-! ### Looking down -/

omit hF hr in
theorem mem_preorderFrom_succ {fuel : Nat} {id x : NodeId} (h : x ∈ F.preorderFrom fuel id) :
    x ∈ F.preorderFrom (fuel + 1) id := by
  induction fuel generalizing id x with
  | zero => simp [preorderFrom] at h
  | succ fuel ih =>
      rw [preorderFrom, List.mem_cons, List.mem_flatMap] at h ⊢
      rcases h with rfl | ⟨c, hc, hx⟩
      · exact Or.inl rfl
      · exact Or.inr ⟨c, hc, ih hx⟩

omit hF hr in
theorem mem_preorderFrom_child {fuel : Nat} {id p c : NodeId} (h : p ∈ F.preorderFrom fuel id)
    (hc : c ∈ F.children p) : c ∈ F.preorderFrom (fuel + 1) id := by
  induction fuel generalizing id with
  | zero => simp [preorderFrom] at h
  | succ fuel ih =>
      rw [preorderFrom, List.mem_cons, List.mem_flatMap] at h
      rw [preorderFrom, List.mem_cons, List.mem_flatMap]
      rcases h with rfl | ⟨q, hq, hp⟩
      · exact Or.inr ⟨c, hc, by simp [preorderFrom]⟩
      · exact Or.inr ⟨q, hq, ih hp⟩

omit hF hr in
theorem mem_preorderFrom_of_isPath {d : NodeId} {path : List NodeId}
    (h : F.IsPath root (d :: path)) : d ∈ F.preorderFrom (path.length + 1) root := by
  induction path generalizing d with
  | nil =>
      cases h
      simp [preorderFrom]
  | cons p path ih =>
      cases h with
      | child hp hc => exact mem_preorderFrom_child (ih hp) hc

omit hF hr in
theorem below_of_mem_preorderFrom {fuel : Nat} {id x : NodeId} (hid : F.Below root id)
    (h : x ∈ F.preorderFrom fuel id) : F.Below root x := by
  induction fuel generalizing id with
  | zero => simp [preorderFrom] at h
  | succ fuel ih =>
      rw [preorderFrom, List.mem_cons, List.mem_flatMap] at h
      rcases h with rfl | ⟨c, hc, hx⟩
      · exact hid
      · exact ih (.child hid hc) hx

/-- The walk through an element finds the elements below it. -/
theorem mem_elementsFrom_iff {d : NodeId} :
    d ∈ F.elementsFrom root ↔ F.Below root d ∧ F.isElement d = true := by
  rw [elementsFrom, List.mem_filter, preorder]
  constructor
  · rintro ⟨h, he⟩
    exact ⟨below_of_mem_preorderFrom .refl h, he⟩
  · rintro ⟨h, he⟩
    obtain ⟨path, hp⟩ := exists_isPath_of_below h
    refine ⟨?_, he⟩
    obtain ⟨more, hm⟩ := Nat.exists_eq_add_of_le (hp.length_le_size hF hr he)
    rw [hm]
    clear hm
    induction more with
    | zero => exact mem_preorderFrom_of_isPath hp
    | succ more ih => exact mem_preorderFrom_succ ih

end Below

/-! ### Parents first -/

/-- Every node of the list is the top or comes after its parent, where those in `seen` have come
before. -/
def ParentsFirst (F : Forest) (root : NodeId) : (seen : List NodeId) → List NodeId → Prop
  | _, [] => True
  | seen, d :: l =>
      (d = root ∨ ∃ p ∈ seen, d ∈ F.children p) ∧ F.ParentsFirst root (d :: seen) l

section ParentsFirst

variable {F : Forest} {root : NodeId}

theorem ParentsFirst.mono {seen seen' l : List NodeId} (h : F.ParentsFirst root seen l)
    (hs : seen ⊆ seen') : F.ParentsFirst root seen' l := by
  induction l generalizing seen seen' with
  | nil => trivial
  | cons d l ih =>
      refine ⟨?_, ih h.2 (List.cons_subset_cons d hs)⟩
      rcases h.1 with hd | ⟨p, hp, hd⟩
      · exact Or.inl hd
      · exact Or.inr ⟨p, hs hp, hd⟩

theorem ParentsFirst.append {seen l m : List NodeId} (hl : F.ParentsFirst root seen l)
    (hm : F.ParentsFirst root seen m) : F.ParentsFirst root seen (l ++ m) := by
  induction l generalizing seen with
  | nil => exact hm
  | cons d l ih => exact ⟨hl.1, ih hl.2 (hm.mono (List.subset_cons_self d seen))⟩

/-- What comes later is seen after what has come before. -/
theorem ParentsFirst.of_append {seen l m : List NodeId} (h : F.ParentsFirst root seen (l ++ m)) :
    F.ParentsFirst root (l.reverse ++ seen) m := by
  induction l generalizing seen with
  | nil => exact h
  | cons d l ih =>
      rw [List.reverse_cons, List.append_assoc]
      exact ih h.2

theorem parentsFirst_flatMap {seen children : List NodeId} {f : NodeId → List NodeId}
    (h : ∀ c ∈ children, F.ParentsFirst root seen (f c)) :
    F.ParentsFirst root seen (children.flatMap f) := by
  induction children with
  | nil => trivial
  | cons c children ih =>
      rw [List.flatMap_cons]
      exact (h c (by simp)).append (ih fun d hd => h d (by simp [hd]))

/-- The walk comes to every element after its parent if only elements have children. -/
theorem parentsFirst_elementsFrom_of
    (hel : ∀ {id c}, F.Below root id → c ∈ F.children id → F.isElement id = true) :
    F.ParentsFirst root [] (F.elementsFrom root) := by
  have key : ∀ fuel id seen, F.Below root id → (id = root ∨ ∃ p ∈ seen, id ∈ F.children p) →
      F.ParentsFirst root seen ((F.preorderFrom fuel id).filter F.isElement) := by
    intro fuel
    induction fuel with
    | zero => exact fun _ _ _ _ => trivial
    | succ fuel ih =>
        intro id seen hb hid
        rw [preorderFrom, List.filter_cons, List.filter_flatMap]
        split
        · exact ⟨hid, parentsFirst_flatMap fun c hc =>
            ih c (id :: seen) (.child hb hc) (Or.inr ⟨id, by simp, hc⟩)⟩
        · rename_i he
          have hn : F.children id = [] := List.eq_nil_iff_forall_not_mem.2 fun c hc =>
            he (hel hb hc)
          simp [hn, ParentsFirst]
  exact key F.size root [] .refl (Or.inl rfl)

/-- The walk through an element comes to every element after its parent. -/
theorem parentsFirst_elementsFrom (hF : F.IsTreeBelow root) (hr : F.IsTop root) :
    F.ParentsFirst root [] (F.elementsFrom root) :=
  parentsFirst_elementsFrom_of fun hb hc => isElement_of_mem_children hF hr hb hc

theorem parentsFirst_of_children_eq {G : Forest} (hc : ∀ id, G.children id = F.children id)
    {seen l : List NodeId} (h : F.ParentsFirst root seen l) : G.ParentsFirst root seen l := by
  induction l generalizing seen with
  | nil => trivial
  | cons d l ih =>
      refine ⟨?_, ih h.2⟩
      simp only [hc]
      exact h.1

end ParentsFirst

end Forest

end XmlScribe
