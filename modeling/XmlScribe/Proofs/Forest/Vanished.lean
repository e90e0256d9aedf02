/-
**Links of what is left.**

When nodes vanish, the nodes that are left lose the links to them, and nobody can get hold of a node
that has vanished again.  So the links of what is left agree whatever calls are made, as long as no
call names a node that has vanished.

Main definitions:

* `Change.nodes` — the nodes that a call names.

Main results:

* `Forest.LinksAgree.removeChild`, `Forest.LinksAgree.insertBefore` — taking and putting nodes;
* `Forest.LinksAgree.step`, `Forest.LinksAgree.plant`, `Forest.LinksAgree.retain` — the links agree
  after a call, after planting, and after nodes have vanished.
-/

import XmlScribe.Proofs.Forest.Border
import XmlScribe.Proofs.Forest.Lineage
import XmlScribe.Proofs.Forest.Sown

set_option autoImplicit false

namespace XmlScribe

/-- The nodes that a call names. -/
def Change.nodes : Change → List NodeId
  | addDocument => []
  | createElement doc _ => [doc]
  | createElementNs doc _ _ => [doc]
  | createText doc _ => [doc]
  | createCData doc _ => [doc]
  | createComment doc _ => [doc]
  | createInstruction doc _ _ => [doc]
  | createDoctype doc _ _ _ => [doc]
  | insertBefore parent child before => parent :: child :: before.toList
  | appendChild parent child => [parent, child]
  | removeChild parent child => [parent, child]
  | setAttribute id _ _ => [id]
  | setAttributeNs id _ _ _ => [id]
  | removeAttribute id _ => [id]
  | setAttrValue _ _ => []
  | setData id _ => [id]
  | appendData id _ => [id]
  | setSubset id _ => [id]
  | addEntity id _ => [id]
  | setDeclaration doc _ => [doc]
  | setReadOnly doc _ => [doc]

namespace Forest

/-- Nodes keep the parents that are left. -/
theorem parent?_retain (F : Forest) (held : List NodeId) (id : NodeId) :
    (F.retain held).parent? id = (F.parent? id).filter (held.flatMap F.preorder).elem := by
  have hbare : ∀ node : Node, (bare node).parent = node.parent := by
    intro node
    rw [bare]
    split <;> rfl
  rw [parent?, get?_retain, parent?]
  cases F.get? id with
  | none => rfl
  | some node =>
      simp only [Option.map_some, Option.bind_some, cutLinks]
      split
      · rfl
      · rw [hbare]

namespace LinksAgree

variable {F G : Forest} {gone : NodeId → Prop} (hF : F.LinksAgree gone)
include hF

/-! ### Calls -/

theorem removeChild {parent child : NodeId} (hparent : ¬ gone parent)
    (h : F.removeChild parent child = .ok G) : G.LinksAgree gone := by
  obtain ⟨-, -, hmem, -⟩ := removeChild_eq_ok_iff.1 h
  have hchild := hF.parent_of_mem hparent hmem
  exact hF.unlinks hchild (unlinks_removeChild (lt_size_of_parent? hchild) h).1

theorem detach {child : NodeId} (h : F.detach child = .ok G) : G.LinksAgree gone := by
  rcases detach_cases h with ⟨-, rfl⟩ | ⟨parent, hpar, h⟩
  · exact hF
  · exact hF.unlinks hpar (unlinks_removeChild (lt_size_of_parent? hpar) h).1

theorem insertBefore {parent child : NodeId} {before : Option NodeId} (hparent : ¬ gone parent)
    (hchild : ¬ gone child) (h : F.insertBefore parent child before = .ok G) :
    G.LinksAgree gone := by
  rcases insertBefore_cases h with rfl | ⟨-, D, hD, hcheck, rfl⟩
  · exact hF
  · have hlinks := hF.detach hD
    have hnone : D.parent? child = none := by rw [(of_detach_eq_ok hD).2.2.1, if_pos rfl]
    obtain ⟨-, hm, hl, -⟩ := checkInsertion_eq_ok_iff.1 hcheck
    obtain ⟨_, _, hp, hc, -⟩ := exists_type?_of_mayHold hm
    have habove : ¬ Relation.ReflTransGen D.IsParent parent child := fun ha =>
      hl ((hlinks.mem_lineage_iff (lt_size_of_type? hp)).2 ha)
    obtain ⟨hpay, hown, hpar, hch⟩ := relinked (lt_size_of_type? hp) (lt_size_of_type? hc)
      (place child before (D.children parent)) (some parent)
    exact hlinks.links hparent hchild hnone habove ⟨fun id => by rw [type?, hpay, type?], hpar, hch, hown⟩

theorem alters (h : F.Alters G) : G.LinksAgree gone := by
  rcases h.brings_or_sameLinks with ⟨node, h⟩ | h
  · exact hF.brings h
  · exact hF.sameLinks h

/-- A call that names no node that has vanished keeps the links agreeing. -/
theorem step {change : Change} (hnodes : ∀ id ∈ change.nodes, ¬ gone id) :
    (F.step change).LinksAgree gone := by
  rw [Forest.step]
  cases h : change.apply F with
  | error fault => exact hF
  | ok G =>
      rcases cases_of_apply h with ⟨doc, readOnly, -, rfl⟩ | ⟨parent, child, rfl, h⟩ |
          ⟨parent, child, before, hchange, h⟩ | h
      · exact hF.sameLinks (F.rewrites_setReadOnly doc readOnly).sameLinks
      · exact hF.removeChild (hnodes parent (by simp [Change.nodes])) h
      · have hnamed : parent ∈ change.nodes ∧ child ∈ change.nodes := by
          rcases hchange with rfl | ⟨rfl, -⟩ <;> simp [Change.nodes]
        exact hF.insertBefore (hnodes parent hnamed.1) (hnodes child hnamed.2) h
      · exact hF.alters h

/-! ### Planting and vanishing -/

omit hF in
/-- A new node that has a parent is listed by it, and the parent is a new node too.  The one without
a parent is the document. -/
theorem mem_children_plant (doc : Document) {p c : NodeId} (hc : F.size ≤ c)
    (hpar : (F.plant doc).1.parent? c = some p) :
    F.size ≤ p ∧ p < c ∧ c ∈ (F.plant doc).1.children p := by
  have hsows := sows_plant F doc
  rcases hsows.mem_of_parent hc hpar with htop | hmem
  · rw [(hsows.of_mem_tops htop).2.2] at hpar
    cases hpar
  · exact hmem

/-- Above an old node stand the old ones that stood there. -/
theorem isAbove_of_isAbove_plant (doc : Document) {id x : NodeId} (hid : id < F.size)
    (ha : (F.plant doc).1.IsAbove x id) : F.IsAbove x id := by
  have hsows := sows_plant F doc
  have hstep : ∀ {c p}, c < F.size → (F.plant doc).1.IsParent c p →
      p < F.size ∧ F.IsParent c p := by
    intro c p hlt hcp
    rw [IsParent, hsows.old.parent?_eq hlt] at hcp
    exact ⟨lt_size_of_mem_children (hF.mem_of_parent hcp), hcp⟩
  suffices hsuff : x < F.size ∧ F.IsAbove x id from hsuff.2
  induction ha with
  | single h => exact ⟨(hstep hid h).1, .single (hstep hid h).2⟩
  | tail _ h ih => exact ⟨(hstep ih.1 h).1, ih.2.tail (hstep ih.1 h).2⟩

omit hF in
/-- Above a new node stand only nodes that are older than it. -/
theorem lt_of_isAbove_plant (doc : Document) {id x : NodeId} (hid : F.size ≤ id)
    (ha : (F.plant doc).1.IsAbove x id) : x < id := by
  suffices hsuff : F.size ≤ x ∧ x < id from hsuff.2
  induction ha with
  | single h =>
      obtain ⟨hge, hlt, -⟩ := mem_children_plant doc hid h
      exact ⟨hge, hlt⟩
  | tail _ h ih =>
      obtain ⟨hge, hlt, -⟩ := mem_children_plant doc ih.1 h
      exact ⟨hge, Nat.lt_trans hlt ih.2⟩

theorem plant (doc : Document) : (F.plant doc).1.LinksAgree gone := by
  have hsows := sows_plant F doc
  have hnew : ∀ {p}, F.size ≤ p → ¬ gone p := fun hp hgone =>
    Nat.not_lt.2 hp (lt_size_of_isSome_type? (hF.exists_of_gone hgone))
  have hold : ∀ {p}, (p : Nat) < F.size → (F.plant doc).1.children p = F.children p :=
    fun hp => hsows.old.children_eq hp
  exact {
    parent_of_mem := by
      intro p c hp hc
      rcases Nat.lt_or_ge p F.size with hlt | hge
      · rw [hold hlt] at hc
        have hpar := hF.parent_of_mem hp hc
        rwa [hsows.old.parent?_eq (lt_size_of_parent? hpar)]
      · exact (hsows.parent_of_mem hge hc).2
    mem_of_parent := by
      intro p c hc
      rcases Nat.lt_or_ge c F.size with hlt | hge
      · rw [hsows.old.parent?_eq hlt] at hc
        have hmem := hF.mem_of_parent hc
        rwa [hold (lt_size_of_mem_children hmem)]
      · exact (mem_children_plant doc hge hc).2.2
    not_gone_of_parent := by
      intro p c hc
      rcases Nat.lt_or_ge c F.size with hlt | hge
      · rw [hsows.old.parent?_eq hlt] at hc
        exact hF.not_gone_of_parent hc
      · exact hnew (mem_children_plant doc hge hc).1
    nodup_children := by
      intro p hp
      rcases Nat.lt_or_ge p F.size with hlt | hge
      · rw [hold hlt]
        exact hF.nodup_children hp
      · exact hsows.nodup_children hge
    not_isAbove_self := by
      intro id ha
      rcases Nat.lt_or_ge id F.size with hlt | hge
      · exact hF.not_isAbove_self id (hF.isAbove_of_isAbove_plant doc hlt ha)
      · exact Nat.lt_irrefl id (lt_of_isAbove_plant doc hge ha)
    exists_of_gone := by
      intro id hid
      obtain ⟨t, ht⟩ := Option.isSome_iff_exists.1 (hF.exists_of_gone hid)
      rw [hsows.old.type?_eq_some ht]
      rfl
    not_gone_of_mem := by
      intro p c hp hc
      rcases Nat.lt_or_ge p F.size with hlt | hge
      · rw [hold hlt] at hc
        exact hF.not_gone_of_mem hp hc
      · exact hnew (hsows.parent_of_mem hge hc).1 }

/-- What is not held vanishes, and stays so. -/
theorem retain {held : List NodeId} (hheld : ∀ id ∈ held, ¬ gone id) :
    (F.retain held).LinksAgree fun id =>
      gone id ∨ (F.type? id).isSome = true ∧ id ∉ held.flatMap F.preorder := by
  have hparent : ∀ {p c}, (F.retain held).parent? c = some p ↔
      F.parent? c = some p ∧ p ∈ held.flatMap F.preorder := by
    intro p c
    rw [parent?_retain, Option.filter_eq_some_iff, List.elem_iff]
  -- a node that lists another one is there, so it is left if it has not vanished
  have hleft : ∀ {p c}, ¬ (gone p ∨ (F.type? p).isSome = true ∧ p ∉ held.flatMap F.preorder) →
      c ∈ F.children p → ¬ gone p ∧ p ∈ held.flatMap F.preorder := by
    intro p c hp hc
    obtain ⟨node, hnode, -⟩ := Forest.mem_children_iff.1 hc
    have htype : (F.type? p).isSome = true := by simp [type?, payload?, hnode]
    exact ⟨fun h => hp (Or.inl h),
      Decidable.byContradiction fun hnot => hp (Or.inr ⟨htype, hnot⟩)⟩
  exact {
    parent_of_mem := by
      intro p c hp hc
      rw [children_retain] at hc
      obtain ⟨hgone, hmem⟩ := hleft hp hc
      exact hparent.2 ⟨hF.parent_of_mem hgone hc, hmem⟩
    mem_of_parent := by
      intro p c hc
      rw [children_retain]
      exact hF.mem_of_parent (hparent.1 hc).1
    not_gone_of_parent := by
      intro p c hc
      obtain ⟨hpar, hmem⟩ := hparent.1 hc
      rintro (hgone | ⟨-, hnot⟩)
      · exact hF.not_gone_of_parent hpar hgone
      · exact hnot hmem
    nodup_children := by
      intro p hp
      rw [children_retain]
      exact hF.nodup_children fun h => hp (Or.inl h)
    not_isAbove_self := by
      intro id ha
      have hle : (F.retain held).IsParent ≤ F.IsParent := fun _ _ h => (hparent.1 h).1
      exact hF.not_isAbove_self id (Relation.TransGen.mono hle id id ha)
    exists_of_gone := by
      intro id hid
      rw [type?_retain]
      rcases hid with hgone | ⟨htype, -⟩
      · exact hF.exists_of_gone hgone
      · exact htype
    not_gone_of_mem := by
      intro p c hp hc
      rw [children_retain] at hc
      obtain ⟨hgone, hmem⟩ := hleft hp hc
      obtain ⟨root, hroot, hbelow⟩ := List.mem_flatMap.1 hmem
      have hchild : c ∈ F.preorder root := hF.mem_preorder_of_below (hheld root hroot)
        (lt_size_of_parent? (hF.parent_of_mem hgone hc))
        (.child (below_of_mem_preorderFrom .refl hbelow) hc)
      rintro (hgone' | ⟨-, hnot⟩)
      · exact hF.not_gone_of_mem hgone hc hgone'
      · exact hnot (List.mem_flatMap.2 ⟨root, hroot, hchild⟩) }

end LinksAgree

end Forest

end XmlScribe
