/-
**Links that agree where nodes may vanish.**

A node is listed by the parent that it names, once, and by no other, and no node stands above itself.
When nodes vanish this holds no longer of all of them: a node that has vanished may still list
children that are left.  It holds of the nodes that have not vanished, and below these there are only
nodes that have not.  Each of the steps that operations are made of keeps it so.  An insertion makes
no circle, because what stands above a node is found within as many steps as there are nodes, and the
inserted node is not among that.

Main definitions:

* `Forest.IsAbove` — a node stands above another one;
* `Forest.LinksAgree` — the links of the nodes that have not vanished agree.

Main results:

* `Forest.LinksAgree.mem_lineage_iff` — the lineage of a node is the node and all above it;
* `Forest.LinksAgree.sameLinks`, `Forest.LinksAgree.brings`, `Forest.LinksAgree.unlinks`,
  `Forest.LinksAgree.links` — the steps keep the links agreeing.
-/

import Mathlib.Data.List.Perm.Subperm
import Mathlib.Logic.Relation
import XmlScribe.Proofs.Forest.Links

set_option autoImplicit false

namespace XmlScribe

namespace Forest

/-! ### Above -/

/-- The node `p` is the parent of `c`. -/
def IsParent (F : Forest) (c p : NodeId) : Prop :=
  F.parent? c = some p

/-- The node `x` stands above the node `id`, at any distance. -/
def IsAbove (F : Forest) (x id : NodeId) : Prop :=
  Relation.TransGen F.IsParent id x

/-- So many numbers can be told apart below a bound. -/
theorem length_le_of_nodup {n : Nat} {l : List NodeId} (hl : l.Nodup) (h : ∀ x ∈ l, x < n) :
    l.length ≤ n := by
  have hle := (List.subperm_of_subset hl fun x hx => List.mem_range.2 (h x hx)).length_le
  rwa [List.length_range] at hle

/-- One link more closes a circle only if its upper end is below its lower end already. -/
theorem transGen_or_of_link {r r' : NodeId → NodeId → Prop} {child parent : NodeId}
    (hr : ∀ x y, r' x y → r x y ∨ x = child ∧ y = parent) {x y : NodeId}
    (h : Relation.TransGen r' x y) : Relation.TransGen r x y ∨
      Relation.ReflTransGen r x child ∧ Relation.ReflTransGen r parent y := by
  induction h with
  | single h =>
      rcases hr _ _ h with h | ⟨rfl, rfl⟩
      · exact Or.inl (.single h)
      · exact Or.inr ⟨.refl, .refl⟩
  | tail _ h ih =>
      rcases hr _ _ h with h | ⟨rfl, rfl⟩
      · rcases ih with ih | ⟨hx, hy⟩
        · exact Or.inl (ih.tail h)
        · exact Or.inr ⟨hx, hy.tail h⟩
      · rcases ih with ih | ⟨hx, -⟩
        · exact Or.inr ⟨ih.to_reflTransGen, .refl⟩
        · exact Or.inr ⟨hx, .refl⟩

theorem isAbove_congr {F G : Forest} (h : ∀ id, G.parent? id = F.parent? id) {x id : NodeId} :
    G.IsAbove x id ↔ F.IsAbove x id := by
  have hr : G.IsParent = F.IsParent := by
    funext c p
    rw [IsParent, IsParent, h]
  rw [IsAbove, IsAbove, hr]

/-! ### The invariant -/

/-- The links of the nodes that have not vanished agree. -/
structure LinksAgree (F : Forest) (gone : NodeId → Prop) : Prop where
  /-- A child names its parent, unless that has vanished. -/
  parent_of_mem : ∀ {p c}, ¬ gone p → c ∈ F.children p → F.parent? c = some p
  /-- A parent lists its children. -/
  mem_of_parent : ∀ {p c}, F.parent? c = some p → c ∈ F.children p
  /-- It has not vanished. -/
  not_gone_of_parent : ∀ {p c}, F.parent? c = some p → ¬ gone p
  /-- It lists each of them once. -/
  nodup_children : ∀ {p}, ¬ gone p → (F.children p).Nodup
  /-- No node stands above itself. -/
  not_isAbove_self : ∀ id, ¬ F.IsAbove id id
  /-- Only nodes vanish. -/
  exists_of_gone : ∀ {id}, gone id → (F.type? id).isSome = true
  /-- Below a node that has not vanished no node has. -/
  not_gone_of_mem : ∀ {p c}, ¬ gone p → c ∈ F.children p → ¬ gone c

theorem linksAgree_empty : empty.LinksAgree fun _ => False where
  parent_of_mem := by simp [children, get?, empty]
  mem_of_parent := by simp [parent?, get?, empty]
  not_gone_of_parent := by simp
  nodup_children := by simp [children, get?, empty]
  not_isAbove_self := by
    intro id h
    obtain ⟨p, hp, -⟩ := Relation.TransGen.head'_iff.1 h
    simp [IsParent, parent?, get?, empty] at hp
  exists_of_gone := nofun
  not_gone_of_mem := by simp

namespace LinksAgree

variable {F G : Forest} {gone : NodeId → Prop} (hF : F.LinksAgree gone)
include hF

/-- A node that has not vanished lists exactly the nodes that name it. -/
theorem mem_children_iff {p c : NodeId} (hp : ¬ gone p) :
    c ∈ F.children p ↔ F.parent? c = some p :=
  ⟨hF.parent_of_mem hp, hF.mem_of_parent⟩

/-! ### Looking up -/

omit hF in
theorem reflTransGen_of_mem_lineageFrom {fuel : Nat} {id x : NodeId}
    (h : x ∈ F.lineageFrom fuel id) : Relation.ReflTransGen F.IsParent id x := by
  induction fuel generalizing id with
  | zero => simp [lineageFrom] at h
  | succ fuel ih =>
      rw [lineageFrom] at h
      cases hp : F.parent? id with
      | none =>
          rw [hp] at h
          rw [List.mem_singleton.1 h]
      | some p =>
          rw [hp] at h
          rcases List.mem_cons.1 h with rfl | h
          · exact .refl
          · exact .head hp (ih h)

theorem nodup_lineageFrom (fuel : Nat) (id : NodeId) : (F.lineageFrom fuel id).Nodup := by
  induction fuel generalizing id with
  | zero => simp [lineageFrom]
  | succ fuel ih =>
      rw [lineageFrom]
      cases hp : F.parent? id with
      | none => simp
      | some p =>
          refine List.nodup_cons.2 ⟨fun hm => ?_, ih p⟩
          -- what stands above the parent stands above the node
          exact hF.not_isAbove_self id (.head' hp (reflTransGen_of_mem_lineageFrom hm))

/-- Above a node stand only nodes. -/
theorem lt_size_of_reflTransGen {id x : NodeId} (hid : id < F.size)
    (h : Relation.ReflTransGen F.IsParent id x) : x < F.size := by
  rcases Relation.ReflTransGen.cases_tail h with rfl | ⟨y, -, hy⟩
  · exact hid
  · exact lt_size_of_mem_children (hF.mem_of_parent hy)

theorem lt_size_of_mem_lineageFrom {fuel : Nat} {id x : NodeId} (hid : id < F.size)
    (h : x ∈ F.lineageFrom fuel id) : x < F.size :=
  hF.lt_size_of_reflTransGen hid (reflTransGen_of_mem_lineageFrom h)

omit hF in
/-- Looking up finds what is above, or stops for want of fuel. -/
theorem mem_lineageFrom_or_length_eq {fuel : Nat} {id x : NodeId}
    (h : Relation.ReflTransGen F.IsParent id x) :
    x ∈ F.lineageFrom fuel id ∨ (F.lineageFrom fuel id).length = fuel := by
  induction fuel generalizing id with
  | zero => exact Or.inr rfl
  | succ fuel ih =>
      rw [lineageFrom]
      rcases Relation.ReflTransGen.cases_head h with rfl | ⟨p, hp, hx⟩
      · left
        split <;> simp
      · rw [show F.parent? id = some p from hp]
        rcases ih hx with hm | hl
        · exact Or.inl (List.mem_cons_of_mem _ hm)
        · exact Or.inr (by rw [List.length_cons, hl])

/-- The lineage of a node is the node and all that stands above it. -/
theorem mem_lineage_iff {id x : NodeId} (hid : id < F.size) :
    x ∈ F.lineage id ↔ Relation.ReflTransGen F.IsParent id x := by
  refine ⟨reflTransGen_of_mem_lineageFrom, fun h => ?_⟩
  rcases @mem_lineageFrom_or_length_eq F F.size id x h with hm | hl
  · exact hm
  · -- the lineage has as many nodes as there are, so it has them all
    have hsub : F.lineage id ⊆ List.range F.size := fun y hy =>
      List.mem_range.2 (hF.lt_size_of_mem_lineageFrom hid hy)
    have hperm := (List.subperm_of_subset (hF.nodup_lineageFrom F.size id) hsub).perm_of_length_le
      (by simp [hl])
    exact hperm.mem_iff.2 (List.mem_range.2 (hF.lt_size_of_reflTransGen hid h))

/-! ### Steps -/

/-- Only the links matter, and that the nodes that have vanished are there. -/
theorem congr (hpar : ∀ id, G.parent? id = F.parent? id)
    (hch : ∀ id, G.children id = F.children id)
    (hgone : ∀ id, gone id → (G.type? id).isSome = true) : G.LinksAgree gone where
  parent_of_mem := by
    intro p c hp hc
    rw [hch] at hc
    rw [hpar]
    exact hF.parent_of_mem hp hc
  mem_of_parent := by
    intro p c hc
    rw [hpar] at hc
    rw [hch]
    exact hF.mem_of_parent hc
  not_gone_of_parent := by
    intro p c hc
    rw [hpar] at hc
    exact hF.not_gone_of_parent hc
  nodup_children := by
    intro p hp
    rw [hch]
    exact hF.nodup_children hp
  not_isAbove_self id := by
    rw [isAbove_congr hpar]
    exact hF.not_isAbove_self id
  exists_of_gone hid := hgone _ hid
  not_gone_of_mem := by
    intro p c hp hc
    rw [hch] at hc
    exact hF.not_gone_of_mem hp hc

theorem sameLinks (h : F.SameLinks G) : G.LinksAgree gone :=
  hF.congr h.parent? h.children fun id hid => by
    rw [h.type?]
    exact hF.exists_of_gone hid

/-- A new node stands alone. -/
theorem brings {node : Node} (h : F.Brings G node) : G.LinksAgree gone :=
  hF.congr (parent?_added h.get? h.parent_eq) (children_added h.get? h.children_eq) fun id hid => by
    have hold := hF.exists_of_gone hid
    rwa [type?_added h.get? (Nat.ne_of_lt (lt_size_of_isSome_type? hold))]

/-- Where a node has been taken from its parent, the parent lists the others. -/
theorem mem_children_of_unlinks {parent child : NodeId} (hchild : F.parent? child = some parent)
    (h : F.Unlinks G parent child) {p c : NodeId} (hp : ¬ gone p) :
    c ∈ G.children p ↔ c ≠ child ∧ c ∈ F.children p := by
  rw [h.children]
  by_cases hpp : p = parent
  · rw [if_pos hpp, ← hpp, (hF.nodup_children hp).mem_erase_iff]
  · rw [if_neg hpp]
    refine ⟨fun hc => ⟨?_, hc⟩, And.right⟩
    rintro rfl
    exact hpp (Option.some.inj ((hF.parent_of_mem hp hc).symm.trans hchild))

/-- A node is taken from its parent. -/
theorem unlinks {parent child : NodeId} (hchild : F.parent? child = some parent)
    (h : F.Unlinks G parent child) : G.LinksAgree gone where
  parent_of_mem := by
    intro p c hp hc
    obtain ⟨hne, hc⟩ := (hF.mem_children_of_unlinks hchild h hp).1 hc
    exact h.parent?_eq_some_iff.2 ⟨hne, hF.parent_of_mem hp hc⟩
  mem_of_parent := by
    intro p c hc
    obtain ⟨hne, hc⟩ := h.parent?_eq_some_iff.1 hc
    exact (hF.mem_children_of_unlinks hchild h (hF.not_gone_of_parent hc)).2
      ⟨hne, hF.mem_of_parent hc⟩
  not_gone_of_parent hc := hF.not_gone_of_parent (h.parent?_eq_some_iff.1 hc).2
  nodup_children := by
    intro p hp
    rw [h.children]
    split
    · exact (hF.nodup_children (hF.not_gone_of_parent hchild)).erase child
    · exact hF.nodup_children hp
  not_isAbove_self id ha := by
    have hle : G.IsParent ≤ F.IsParent := fun _ _ hcp => (h.parent?_eq_some_iff.1 hcp).2
    exact hF.not_isAbove_self id (Relation.TransGen.mono hle id id ha)
  exists_of_gone := by
    intro id hid
    rw [h.type?]
    exact hF.exists_of_gone hid
  not_gone_of_mem hp hc := hF.not_gone_of_mem hp (h.mem_children hc)

/-- A node without a parent is put below another one, which it does not stand above. -/
theorem links {parent child : NodeId} {before : Option NodeId} (hparent : ¬ gone parent)
    (hchild : ¬ gone child) (hnone : F.parent? child = none)
    (habove : ¬ Relation.ReflTransGen F.IsParent parent child)
    (h : F.Links G parent child before) : G.LinksAgree gone where
  parent_of_mem := by
    intro p c hp hc
    exact (h.parent?_eq_some_iff hnone).2 ((h.mem_children_iff.1 hc).imp_right (hF.parent_of_mem hp))
  mem_of_parent := by
    intro p c hc
    exact h.mem_children_iff.2 (((h.parent?_eq_some_iff hnone).1 hc).imp_right hF.mem_of_parent)
  not_gone_of_parent := by
    intro p c hc
    rcases (h.parent?_eq_some_iff hnone).1 hc with ⟨rfl, -⟩ | hc
    · exact hparent
    · exact hF.not_gone_of_parent hc
  nodup_children := by
    intro p hp
    rw [h.children]
    split
    · have hnot : child ∉ F.children parent := fun hc => by
        cases hnone.symm.trans (hF.parent_of_mem hparent hc)
      exact (place_perm child before _).nodup_iff.2
        (List.nodup_cons.2 ⟨hnot, hF.nodup_children hparent⟩)
    · exact hF.nodup_children hp
  not_isAbove_self := by
    intro id ha
    have hlink : ∀ x y, G.IsParent x y → F.IsParent x y ∨ x = child ∧ y = parent := fun x y hxy =>
      ((h.parent?_eq_some_iff hnone).1 hxy).symm.imp_right And.symm
    rcases transGen_or_of_link hlink ha with ha | ⟨h₁, h₂⟩
    · exact hF.not_isAbove_self id ha
    · exact habove (h₂.trans h₁)
  exists_of_gone := by
    intro id hid
    rw [h.type?]
    exact hF.exists_of_gone hid
  not_gone_of_mem := by
    intro p c hp hc
    rcases h.mem_children_iff.1 hc with ⟨-, rfl⟩ | hc
    · exact hchild
    · exact hF.not_gone_of_mem hp hc

end LinksAgree

end Forest

end XmlScribe
