/-
**Links that agree.**

In a forest that is put together by its operations the two links of a node agree: a node is listed
by the parent that it names, once, and by no other.  No node stands above itself, every node stands
where its kind may stand, a document has one element and one document type at most, and a child
belongs to the document of its parent.  This is an invariant: each of the steps that operations are
made of keeps it.

Main definitions:

* `Forest.IsWellLinked` — the links agree.

Main results:

* `Forest.IsWellLinked.linksAgree` — the links agree where nothing has vanished;
* `Forest.IsWellLinked.brings`, `Forest.IsWellLinked.unlinks`, `Forest.IsWellLinked.links` — the
  steps keep the invariant;
* `Forest.IsWellLinked.detach_eq_ok` — a node that may be inserted can be taken from where it is;
* `Forest.IsWellLinked.exists_insertBefore_eq_ok_iff` — an insertion fails by its first check or
  not at all.
-/

import XmlScribe.Proofs.Forest.Agreement

set_option autoImplicit false

namespace XmlScribe

namespace Forest

/-! ### The invariant -/

/-- The links of the forest agree. -/
structure IsWellLinked (F : Forest) : Prop where
  /-- A node is listed as a child exactly where it says so. -/
  mem_children_iff : ∀ {p c}, c ∈ F.children p ↔ F.parent? c = some p
  /-- And it is listed once. -/
  nodup_children : ∀ p, (F.children p).Nodup
  /-- No node stands above itself. -/
  not_isAbove_self : ∀ id, ¬ F.IsAbove id id
  /-- A child is of a kind that may stand there. -/
  mayHold_of_mem : ∀ {p c}, c ∈ F.children p → F.mayHold p c = true
  /-- A document has one element and one document type at most. -/
  eq_of_isUniqueInDocument : ∀ {doc c c' t}, F.type? doc = some .document →
    c ∈ F.children doc → c' ∈ F.children doc → t.isUniqueInDocument = true →
      F.type? c = some t → F.type? c' = some t → c = c'
  /-- A child belongs to the document that its parent is or belongs to. -/
  owner_of_mem : ∀ {p c}, c ∈ F.children p →
    F.owner? c = if F.type? p = some .document then some p else F.owner? p
  /-- A document belongs to none. -/
  owner_of_document : ∀ {doc}, F.type? doc = some .document → F.owner? doc = none
  /-- Every other node belongs to a document. -/
  exists_owner : ∀ {id t}, F.type? id = some t → t ≠ .document →
    ∃ doc, F.owner? id = some doc ∧ F.type? doc = some .document

/-- The forest without nodes. -/
theorem isWellLinked_empty : empty.IsWellLinked where
  mem_children_iff := by simp [children, parent?, get?, empty]
  nodup_children := by simp [children, get?, empty]
  not_isAbove_self := linksAgree_empty.not_isAbove_self
  mayHold_of_mem := by simp [children, get?, empty]
  eq_of_isUniqueInDocument := by simp [children, get?, empty]
  owner_of_mem := by simp [children, get?, empty]
  owner_of_document := by simp [owner?, get?, empty]
  exists_owner := by simp [type?, payload?, get?, empty]

/-- A node that shares the document belongs to the document that the other one is or belongs to. -/
theorem owner_of_sharesDocument {F : Forest} {p c : NodeId} (h : F.sharesDocument p c = true) :
    F.owner? c = if F.type? p = some .document then some p else F.owner? p := by
  rw [sharesDocument] at h
  split at h
  · rename_i hd
    rw [if_pos hd]
    exact beq_iff_eq.1 h
  · rename_i hd
    rw [if_neg hd]
    simp only [Bool.and_eq_true, beq_iff_eq] at h
    exact h.2.symm

theorem exists_type?_of_mayHold {F : Forest} {p c : NodeId} (h : F.mayHold p c = true) :
    ∃ s t, F.type? p = some s ∧ F.type? c = some t ∧ s.mayHold t = true := by
  rw [mayHold] at h
  cases hp : F.type? p <;> cases hc : F.type? c <;> simp_all

namespace IsWellLinked

variable {F G : Forest} (hF : F.IsWellLinked)
include hF

/-- Where nothing has vanished the links of all nodes agree. -/
theorem linksAgree : F.LinksAgree fun _ => False where
  parent_of_mem _ := hF.mem_children_iff.1
  mem_of_parent := hF.mem_children_iff.2
  not_gone_of_parent _ := id
  nodup_children _ := hF.nodup_children _
  not_isAbove_self := hF.not_isAbove_self
  exists_of_gone := nofun
  not_gone_of_mem _ _ := id

theorem lt_size_of_mem {p c : NodeId} (h : c ∈ F.children p) : p < F.size ∧ c < F.size := by
  obtain ⟨_, _, hp, hc, -⟩ := exists_type?_of_mayHold (hF.mayHold_of_mem h)
  exact ⟨lt_size_of_type? hp, lt_size_of_type? hc⟩

theorem sharesDocument_of_mem {p c : NodeId} (h : c ∈ F.children p) :
    F.sharesDocument p c = true := by
  have ho := hF.owner_of_mem h
  obtain ⟨s, t, hp, -, -⟩ := exists_type?_of_mayHold (hF.mayHold_of_mem h)
  rw [sharesDocument]
  split at ho
  · rename_i hd
    rw [if_pos hd, ho]
    simp
  · rename_i hd
    obtain ⟨doc, hdoc, -⟩ := hF.exists_owner hp (fun he => hd (he ▸ hp))
    rw [if_neg hd, ho, hdoc]
    simp

/-! ### Steps -/

/-- Whom the nodes belong to does not depend on the links. -/
theorem owner_of_document_congr (htype : ∀ id, G.type? id = F.type? id)
    (howner : ∀ id, G.owner? id = F.owner? id) {doc : NodeId}
    (hdoc : G.type? doc = some .document) : G.owner? doc = none := by
  rw [htype] at hdoc
  rw [howner]
  exact hF.owner_of_document hdoc

theorem exists_owner_congr (htype : ∀ id, G.type? id = F.type? id)
    (howner : ∀ id, G.owner? id = F.owner? id) {id : NodeId} {t : NodeType}
    (ht : G.type? id = some t) (hne : t ≠ .document) :
    ∃ doc, G.owner? id = some doc ∧ G.type? doc = some .document := by
  rw [htype] at ht
  obtain ⟨doc, ho, hdoc⟩ := hF.exists_owner ht hne
  exact ⟨doc, by rw [howner, ho], by rw [htype, hdoc]⟩

theorem sameLinks (h : F.SameLinks G) : G.IsWellLinked where
  mem_children_iff := by
    intro p c
    rw [h.children, h.parent?]
    exact hF.mem_children_iff
  nodup_children p := by
    rw [h.children]
    exact hF.nodup_children p
  not_isAbove_self id := by
    rw [isAbove_congr h.parent?]
    exact hF.not_isAbove_self id
  mayHold_of_mem := by
    intro p c hc
    rw [h.children] at hc
    rw [mayHold_congr (h.type? p) (h.type? c)]
    exact hF.mayHold_of_mem hc
  eq_of_isUniqueInDocument := by
    intro doc c c' t hdoc hc hc' ht h₁ h₂
    rw [h.type?] at hdoc h₁ h₂
    rw [h.children] at hc hc'
    exact hF.eq_of_isUniqueInDocument hdoc hc hc' ht h₁ h₂
  owner_of_mem := by
    intro p c hc
    rw [h.children] at hc
    rw [h.owner?, h.owner?, h.type?]
    exact hF.owner_of_mem hc
  owner_of_document := hF.owner_of_document_congr h.type? h.owner?
  exists_owner := hF.exists_owner_congr h.type? h.owner?

/-- A new node stands alone. -/
theorem brings {node : Node} (h : F.Brings G node) : G.IsWellLinked := by
  have hlinks := hF.linksAgree.brings h
  have hch := children_added h.get? h.children_eq
  have htype : ∀ id < F.size, G.type? id = F.type? id :=
    fun id hid => type?_added h.get? (Nat.ne_of_lt hid)
  have hown : ∀ id < F.size, G.owner? id = F.owner? id :=
    fun id hid => owner?_added h.get? (Nat.ne_of_lt hid)
  have hold : ∀ id t, id ≠ F.size → G.type? id = some t → F.type? id = some t :=
    fun id t hid ht => type?_added h.get? hid ▸ ht
  exact {
    mem_children_iff := hlinks.mem_children_iff not_false
    nodup_children := fun _ => hlinks.nodup_children not_false
    not_isAbove_self := hlinks.not_isAbove_self
    mayHold_of_mem := by
      intro p c hc
      rw [hch] at hc
      obtain ⟨hp, hc'⟩ := hF.lt_size_of_mem hc
      rw [mayHold_congr (htype p hp) (htype c hc')]
      exact hF.mayHold_of_mem hc
    eq_of_isUniqueInDocument := by
      intro doc c c' t hdoc hc hc' ht h₁ h₂
      rw [hch] at hc hc'
      obtain ⟨hd, hlt⟩ := hF.lt_size_of_mem hc
      rw [htype doc hd] at hdoc
      rw [htype c hlt] at h₁
      rw [htype c' (hF.lt_size_of_mem hc').2] at h₂
      exact hF.eq_of_isUniqueInDocument hdoc hc hc' ht h₁ h₂
    owner_of_mem := by
      intro p c hc
      rw [hch] at hc
      obtain ⟨hp, hc'⟩ := hF.lt_size_of_mem hc
      rw [hown c hc', hown p hp, htype p hp]
      exact hF.owner_of_mem hc
    owner_of_document := by
      intro doc hdoc
      by_cases hid : doc = F.size
      · subst hid
        rw [type?_added_size h.get?, Option.some.injEq] at hdoc
        rw [owner?_added_size h.get?]
        exact h.owner.elim And.right fun hne => absurd hdoc hne.1
      · have hd := hold doc _ hid hdoc
        rw [hown doc (lt_size_of_type? hd)]
        exact hF.owner_of_document hd
    exists_owner := by
      intro id t ht hne
      by_cases hid : id = F.size
      · subst hid
        rw [type?_added_size h.get?, Option.some.injEq] at ht
        obtain ⟨hdoc, -⟩ | ⟨-, doc, ho, hdoc⟩ := h.owner
        · exact absurd (ht.symm.trans hdoc) hne
        · exact ⟨doc, (owner?_added_size h.get?).trans ho,
            (htype doc (lt_size_of_type? hdoc)).trans hdoc⟩
      · have ht' := hold id t hid ht
        obtain ⟨doc, ho, hdoc⟩ := hF.exists_owner ht' hne
        exact ⟨doc, (hown id (lt_size_of_type? ht')).trans ho,
          (htype doc (lt_size_of_type? hdoc)).trans hdoc⟩ }

/-- A removal takes links away on both sides. -/
theorem unlinks {parent child : NodeId} (hc : child ∈ F.children parent)
    (h : F.Unlinks G parent child) : G.IsWellLinked := by
  have hlinks := hF.linksAgree.unlinks (hF.mem_children_iff.1 hc) h
  exact {
    mem_children_iff := hlinks.mem_children_iff not_false
    nodup_children := fun _ => hlinks.nodup_children not_false
    not_isAbove_self := hlinks.not_isAbove_self
    mayHold_of_mem := fun hm => by
      rw [mayHold_congr (h.type? _) (h.type? _)]
      exact hF.mayHold_of_mem (h.mem_children hm)
    eq_of_isUniqueInDocument := by
      intro doc c c' t hdoc hm hm' ht h₁ h₂
      rw [h.type?] at hdoc h₁ h₂
      exact hF.eq_of_isUniqueInDocument hdoc (h.mem_children hm) (h.mem_children hm') ht h₁ h₂
    owner_of_mem := fun hm => by
      rw [h.owner?, h.owner?, h.type?]
      exact hF.owner_of_mem (h.mem_children hm)
    owner_of_document := hF.owner_of_document_congr h.type? h.owner?
    exists_owner := hF.exists_owner_congr h.type? h.owner? }

/-- A node without a parent is put below another one. -/
theorem links {parent child : NodeId} {before : Option NodeId} (hnone : F.parent? child = none)
    (hhold : F.mayHold parent child = true)
    (habove : ¬ Relation.ReflTransGen F.IsParent parent child)
    (hshare : F.sharesDocument parent child = true)
    (hunique : F.type? parent = some .document → ∀ c ∈ F.children parent, ∀ t,
      t.isUniqueInDocument = true → F.type? child = some t → F.type? c ≠ some t)
    (h : F.Links G parent child before) : G.IsWellLinked := by
  have hlinks := hF.linksAgree.links not_false not_false hnone habove h
  exact {
    mem_children_iff := hlinks.mem_children_iff not_false
    nodup_children := fun _ => hlinks.nodup_children not_false
    not_isAbove_self := hlinks.not_isAbove_self
    mayHold_of_mem := by
      intro p c hm
      rw [mayHold_congr (h.type? _) (h.type? _)]
      rcases h.mem_children_iff.1 hm with ⟨rfl, rfl⟩ | hm
      · exact hhold
      · exact hF.mayHold_of_mem hm
    eq_of_isUniqueInDocument := by
      intro doc c c' t hdoc hm hm' ht h₁ h₂
      rw [h.type?] at hdoc h₁ h₂
      rcases h.mem_children_iff.1 hm with ⟨rfl, rfl⟩ | hm <;>
        rcases h.mem_children_iff.1 hm' with ⟨hd, rfl⟩ | hm'
      · rfl
      · exact absurd h₂ (hunique hdoc c' hm' t ht h₁)
      · subst hd
        exact absurd h₁ (hunique hdoc c hm t ht h₂)
      · exact hF.eq_of_isUniqueInDocument hdoc hm hm' ht h₁ h₂
    owner_of_mem := by
      intro p c hm
      rw [h.owner?, h.owner?, h.type?]
      rcases h.mem_children_iff.1 hm with ⟨rfl, rfl⟩ | hm
      · exact owner_of_sharesDocument hshare
      · exact hF.owner_of_mem hm
    owner_of_document := hF.owner_of_document_congr h.type? h.owner?
    exists_owner := hF.exists_owner_congr h.type? h.owner? }

/-! ### Insertions -/

/-- A node refuses changes exactly if its document does. -/
theorem isReadOnly_of_owner {id doc : NodeId} {t : NodeType} (ht : F.type? id = some t)
    (hne : t ≠ .document) (ho : F.owner? id = some doc) : F.isReadOnly id = F.isReadOnly doc := by
  obtain ⟨node, hn, rfl⟩ := type?_eq_some_iff.1 ht
  obtain ⟨doc', ho', hdoc⟩ := hF.exists_owner ht hne
  obtain rfl := Option.some.inj (ho.symm.trans ho')
  have hp := payload?_of_get? hn
  have hnone := hF.owner_of_document hdoc
  cases hpay : node.payload <;> simp_all [isReadOnly, Payload.type]

/-- The nodes of one document refuse changes together. -/
theorem isReadOnly_of_sharesDocument {p c : NodeId} (hm : F.mayHold p c = true)
    (hs : F.sharesDocument p c = true) : F.isReadOnly c = F.isReadOnly p := by
  obtain ⟨s, t, hp, hc, hst⟩ := exists_type?_of_mayHold hm
  have ht : t ≠ .document := by
    rintro rfl
    cases s <;> simp [NodeType.mayHold] at hst
  obtain ⟨doc, ho, -⟩ := hF.exists_owner hc ht
  have howner := owner_of_sharesDocument hs
  rw [hF.isReadOnly_of_owner hc ht ho]
  split at howner
  · obtain rfl := Option.some.inj (ho.symm.trans howner)
    rfl
  · rename_i hd
    exact (hF.isReadOnly_of_owner hp (fun he => hd (he ▸ hp)) (howner.symm.trans ho)).symm

/-- A node that may be inserted can be taken from where it is. -/
theorem detach_eq_ok {parent child : NodeId} (hr : F.isReadOnly parent = false)
    (hm : F.mayHold parent child = true) (hs : F.sharesDocument parent child = true) :
    ∃ D, F.detach child = .ok D := by
  rw [detach]
  cases hp : F.parent? child with
  | none => exact ⟨F, rfl⟩
  | some q =>
      have hc := hF.mem_children_iff.2 hp
      obtain ⟨s, t, hq, -, hst⟩ := exists_type?_of_mayHold (hF.mayHold_of_mem hc)
      refine ⟨_, removeChild_eq_ok_iff.2 ⟨isContainer_of_type? ?_, ?_, hc, rfl⟩⟩
      · cases s <;> simp_all [NodeType.mayHold]
      · -- the old parent and the new one belong to the document of the child
        rw [← hF.isReadOnly_of_sharesDocument (hF.mayHold_of_mem hc) (hF.sharesDocument_of_mem hc),
          hF.isReadOnly_of_sharesDocument hm hs, hr]

/-- Taking a node from where it is leaves the links agreeing and the node without a parent, and it
changes no other parent, no payload and no owner. -/
theorem of_detach {child : NodeId} {D : Forest} (h : F.detach child = .ok D) :
    D.IsWellLinked ∧ D.parent? child = none ∧ (∀ id ≠ child, D.parent? id = F.parent? id) ∧
      (∀ id, D.payload? id = F.payload? id) ∧ ∀ id, D.owner? id = F.owner? id := by
  obtain ⟨hpay, hown, hpar, -, -⟩ := of_detach_eq_ok h
  refine ⟨?_, by rw [hpar, if_pos rfl], fun id hid => by rw [hpar, if_neg hid], hpay, hown⟩
  rcases detach_cases h with ⟨-, rfl⟩ | ⟨q, hq, h⟩
  · exact hF
  · have hc := hF.mem_children_iff.2 hq
    exact hF.unlinks hc (unlinks_removeChild (hF.lt_size_of_mem hc).2 h).1

/-- A document that has no other node of a kind that it may have only once has none at all once
the node has been taken from where it was. -/
theorem type?_ne_of_isDuplicate {parent child : NodeId} {D : Forest}
    (hdup : F.isDuplicate parent child = false) (hD : F.detach child = .ok D)
    (hdoc : F.type? parent = some .document) {c : NodeId} (hc : c ∈ D.children parent)
    {t : NodeType} (ht : t.isUniqueInDocument = true) (hchild : F.type? child = some t) :
    F.type? c ≠ some t := by
  obtain ⟨hwell, hnone, hpar, -, -⟩ := hF.of_detach hD
  intro htc
  have hpc := hwell.mem_children_iff.1 hc
  have hne : c ≠ child := by
    rintro rfl
    rw [hnone] at hpc
    cases hpc
  rw [hpar c hne, ← hF.mem_children_iff] at hpc
  simp only [isDuplicate, hdoc, hchild, ht, Bool.true_and] at hdup
  cases hfind : F.childOfType? parent t with
  | none => exact absurd (beq_iff_eq.2 htc) (List.find?_eq_none.1 hfind c hpc)
  | some x =>
      rw [hfind] at hdup
      obtain rfl : x = child := by simpa using hdup
      exact hne (hF.eq_of_isUniqueInDocument hdoc hpc (List.mem_of_find?_eq_some hfind) ht htc
        hchild)

/-- An insertion fails by its first check or not at all. -/
theorem exists_insertBefore_eq_ok_iff {parent child : NodeId} {before : Option NodeId}
    (hne : before ≠ some child) :
    (∃ G, F.insertBefore parent child before = .ok G) ↔
      F.checkInsertion parent child before = .ok () ∧ F.isDuplicate parent child = false := by
  simp only [insertBefore_eq_ok_iff hne]
  constructor
  · rintro ⟨G, -, hcheck, hdup, -⟩
    exact ⟨hcheck, hdup⟩
  · rintro ⟨hcheck, hdup⟩
    obtain ⟨hr, hm, -, hs, -⟩ := checkInsertion_eq_ok_iff.1 hcheck
    obtain ⟨D, hD⟩ := hF.detach_eq_ok hr hm hs
    obtain ⟨s, t, hp, -, hst⟩ := exists_type?_of_mayHold hm
    refine ⟨_, isContainer_of_type? ?_, hcheck, hdup, D, hD,
      checkInsertion_of_detach hne hcheck hD, rfl⟩
    cases s <;> simp_all [NodeType.mayHold]

/-- An insertion keeps the links agreeing, and changes no payload and no owner. -/
theorem insertBefore {parent child : NodeId} {before : Option NodeId}
    (h : F.insertBefore parent child before = .ok G) :
    G.IsWellLinked ∧ (∀ id, G.payload? id = F.payload? id) ∧ ∀ id, G.owner? id = F.owner? id := by
  rcases insertBefore_cases h with rfl | ⟨hdup, D, hD, hcheck, rfl⟩
  · exact ⟨hF, fun _ => rfl, fun _ => rfl⟩
  · obtain ⟨hwell, hnone, -, hpay, hown⟩ := hF.of_detach hD
    obtain ⟨-, hm, hl, hs, -⟩ := checkInsertion_eq_ok_iff.1 hcheck
    obtain ⟨s, t, hp, hc, -⟩ := exists_type?_of_mayHold hm
    have hsize := lt_size_of_type? hp
    obtain ⟨hpay', hown', hpar', hch'⟩ := relinked hsize (lt_size_of_type? hc)
      (place child before (D.children parent)) (some parent)
    refine ⟨hwell.links hnone hm (fun ha => hl ((hwell.linksAgree.mem_lineage_iff hsize).2 ha)) hs ?_
      ⟨fun id => by rw [type?, hpay', type?], hpar', hch', hown'⟩,
      fun id => (hpay' id).trans (hpay id), fun id => (hown' id).trans (hown id)⟩
    intro hdoc c hc t ht htc
    rw [type?, hpay, ← type?] at hdoc htc ⊢
    exact hF.type?_ne_of_isDuplicate hdup hD hdoc hc ht htc

/-- A removal keeps the links agreeing, and changes no payload and no owner. -/
theorem removeChild {parent child : NodeId} (h : F.removeChild parent child = .ok G) :
    G.IsWellLinked ∧ (∀ id, G.payload? id = F.payload? id) ∧ ∀ id, G.owner? id = F.owner? id := by
  obtain ⟨-, -, hc, -⟩ := removeChild_eq_ok_iff.1 h
  obtain ⟨hu, hpay⟩ := unlinks_removeChild (hF.lt_size_of_mem hc).2 h
  exact ⟨hF.unlinks hc hu, hpay, hu.owner?⟩

end IsWellLinked

end Forest

end XmlScribe
