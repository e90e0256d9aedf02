/-
**Elements at the same places of two documents.**

Two documents that are the same up to the cuts of texts have their elements at the same places: the
content of the one agrees with the content of the other part by part, and so on for every element in
it.  Going down the two documents side by side therefore pairs every element of the one with one
element of the other.

Main definitions:

* `Forest.Counterparts` — nodes at the same place of two documents;
* `Forest.Mirrors` — a relation that pairs elements which a writer cannot tell apart.

Main results:

* `Forest.Counterparts.eq_of_left` — a node has one counterpart at most;
* `Forest.mirrors_counterparts` — counterparts in documents that are the same up to the cuts mirror
  each other.
-/

import XmlScribe.Proofs.Forest.Items
import XmlScribe.Proofs.Layout.Merged

set_option autoImplicit false

namespace XmlScribe

namespace Forest

/-- The nodes are the two documents, or elements at the same place in the content of such nodes. -/
inductive Counterparts (F G : Forest) (doc doc' : NodeId) : NodeId → NodeId → Prop where
  /-- The documents. -/
  | document : Counterparts F G doc doc' doc doc'
  /-- Elements. -/
  | element {a b c d : NodeId} {i : Nat} (h : Counterparts F G doc doc' a b)
      (hc : (F.content a)[i]? = some (.node c)) (hd : (G.content b)[i]? = some (.node d))
      (hce : F.isElement c = true) (hde : G.isElement d = true) : Counterparts F G doc doc' c d

/-- As far as the relation pairs elements of the two forests, the one mirrors the other: name and
attributes are the same, the content agrees, and so do the elements around. -/
structure Mirrors (F G : Forest) (R : NodeId → NodeId → Prop) : Prop where
  /-- The links of the one forest agree. -/
  left : F.IsWellLinked
  /-- So do those of the other. -/
  right : G.IsWellLinked
  /-- Elements are paired. -/
  isElement : ∀ {a b}, R a b → F.isElement a = true
  /-- Name and attributes are the same. -/
  frame?_eq : ∀ {a b}, R a b → F.frame? a = G.frame? b
  /-- The content agrees. -/
  content : ∀ {a b}, R a b → List.Forall₂ (Content.Agrees F G R) (F.content a) (G.content b)
  /-- The elements around are paired. -/
  around : ∀ {a b}, R a b → List.Forall₂ R (F.elementLineage a) (G.elementLineage b)
  /-- No element is paired with two. -/
  eq_iff : ∀ {a b c d}, R a b → R c d → (a = c ↔ b = d)
  /-- Either both take changes or none. -/
  isReadOnly_eq : ∀ {a b}, R a b → F.isReadOnly a = G.isReadOnly b

/-! ### Counterparts -/

namespace Counterparts

variable {F G : Forest} {doc doc' : NodeId}

theorem symm {a b : NodeId} (h : Counterparts F G doc doc' a b) :
    Counterparts G F doc' doc b a := by
  induction h with
  | document => exact .document
  | element _ hc hd hce hde ih => exact .element ih hd hc hde hce

/-- A node has one counterpart at most. -/
theorem eq_of_left (hF : F.IsWellLinked) (hdoc : F.isElement doc = false) {a b b' : NodeId}
    (h : Counterparts F G doc doc' a b) (h' : Counterparts F G doc doc' a b') : b = b' := by
  induction h generalizing b' with
  | document =>
      cases h' with
      | document => rfl
      | element _ _ _ hce => simp [hdoc] at hce
  | @element p q c d i hpq hc hd hce hde ih =>
      cases h' with
      | document => simp [hdoc] at hce
      | @element p' q' _ _ j hpq' hc' hd' =>
          -- the two places are in the content of the same node, and there at the same position
          have hmem := mem_children_of_content (List.mem_of_getElem? hc)
          have hmem' := mem_children_of_content (List.mem_of_getElem? hc')
          obtain rfl : p = p' := Option.some.inj
            ((hF.mem_children_iff.1 hmem).symm.trans (hF.mem_children_iff.1 hmem'))
          obtain rfl := ih hpq'
          have hnodup : ((F.content p).filterMap Content.node?).Nodup := by
            rw [Forest.content, nodes_contentOf]
            exact (hF.nodup_children p).filter _
          obtain rfl := Content.eq_of_getElem? hnodup hc hc'
          cases Option.some.inj (hd.symm.trans hd')
          rfl

/-- The elements around counterparts are counterparts. -/
theorem around (hF : F.IsWellLinked) (hG : G.IsWellLinked) (hdoc : F.isElement doc = false)
    (hdoc' : G.isElement doc' = false) {a b : NodeId} (h : Counterparts F G doc doc' a b) :
    List.Forall₂ (fun a b => Counterparts F G doc doc' a b ∧ F.isElement a = true)
      (F.elementLineage a) (G.elementLineage b) := by
  induction h with
  | document =>
      rw [elementLineage_eq_nil hdoc, elementLineage_eq_nil hdoc']
      exact .nil
  | element h hc hd hce hde ih =>
      rw [hF.elementLineage_child (mem_children_of_content (List.mem_of_getElem? hc)) hce,
        hG.elementLineage_child (mem_children_of_content (List.mem_of_getElem? hd)) hde]
      exact .cons ⟨.element h hc hd hce hde, hce⟩ ih

end Counterparts

theorem Mirrors.elementName?_eq {F G : Forest} {R : NodeId → NodeId → Prop} (h : F.Mirrors G R)
    {a b : NodeId} (hr : R a b) : F.elementName? a = G.elementName? b := by
  have hname : ∀ (H : Forest) (id : NodeId), H.elementName? id = (H.frame? id).map Frame.name := by
    intro H id
    rw [elementName?, frame?]
    split <;> simp_all
  rw [hname, hname, h.frame?_eq hr]

/-- Around the elements in the content of paired elements is one element more. -/
theorem Mirrors.content_inside {F G : Forest} {R : NodeId → NodeId → Prop} (h : F.Mirrors G R)
    {a b : NodeId} (hr : R a b) :
    List.Forall₂ (Content.Agrees F G fun c d => R c d ∧
        F.elementLineage c = c :: F.elementLineage a ∧ G.elementLineage d = d :: G.elementLineage b)
      (F.content a) (G.content b) :=
  Content.forall₂_agrees_imp (h.content hr) fun _ _ _ hc hd hce hde hcd =>
    ⟨hcd,
      h.left.elementLineage_child (mem_children_of_content (List.mem_of_getElem? hc)) hce,
      h.right.elementLineage_child (mem_children_of_content (List.mem_of_getElem? hd)) hde⟩

/-! ### Documents that are the same up to the cuts -/

section Documents

variable {F G : Forest} {doc doc' : NodeId}

/-- What is planted takes changes exactly if its document does. -/
theorem IsWellLinked.isReadOnly_of_holdsAt (hF : F.IsWellLinked) {owner parent id : NodeId}
    {item : Item} (h : F.HoldsAt owner parent id item) : F.isReadOnly id = F.isReadOnly owner := by
  obtain ⟨node, hget, -, howner, -⟩ := get?_of_holdsAt h
  refine hF.isReadOnly_of_owner (type?_of_holdsAt h) (by cases item <;> simp [Builder.typeOf]) ?_
  rw [owner?, hget]
  exact howner

/-- Below documents whose items are the same up to the cuts, counterparts are alike, and so their
content agrees. -/
theorem Counterparts.areAlike (hdoc : F.isElement doc = false)
    (hcontent : List.Forall₂ (Content.Agrees F G (F.AreAlike G doc doc')) (F.content doc)
      (G.content doc')) {a b : NodeId} (h : Counterparts F G doc doc' a b) :
    (F.isElement a = true → F.AreAlike G doc doc' a b) ∧
      List.Forall₂ (Content.Agrees F G (F.AreAlike G doc doc')) (F.content a) (G.content b) := by
  -- induction on the way down: what is at the same position in the content of alike nodes is alike
  induction h with
  | document => exact ⟨fun he => absurd he (by simp [hdoc]), hcontent⟩
  | @element p q c d i _ hc hd hce _ ih =>
      obtain ⟨hclt, hc⟩ := List.getElem?_eq_some_iff.1 hc
      obtain ⟨hdlt, hd⟩ := List.getElem?_eq_some_iff.1 hd
      have hagrees := ih.2.get hclt hdlt
      rw [List.get_eq_getElem, List.get_eq_getElem, hc, hd] at hagrees
      cases hagrees with
      | element _ _ halike =>
          obtain ⟨_, -, -, hinner⟩ := halike.exists_frame hce
          exact ⟨fun _ => halike, hinner⟩
      | leaf hpayload _ hne => exact absurd hce (not_isElement_of_payload? hpayload hne)

/-- The elements in the content of counterparts are counterparts. -/
theorem Counterparts.agrees_content (hdoc : F.isElement doc = false)
    (hcontent : List.Forall₂ (Content.Agrees F G (F.AreAlike G doc doc')) (F.content doc)
      (G.content doc')) {a b : NodeId} (h : Counterparts F G doc doc' a b) :
    List.Forall₂
      (Content.Agrees F G fun a b => Counterparts F G doc doc' a b ∧ F.isElement a = true)
      (F.content a) (G.content b) :=
  Content.forall₂_agrees_imp (h.areAlike hdoc hcontent).2 fun _ _ _ hc hd hce hde _ =>
    ⟨.element h hc hd hce hde, hce⟩

/-- Counterparts in documents that are the same up to the cuts mirror each other. -/
theorem mirrors_counterparts (hF : F.IsWellLinked) (hG : G.IsWellLinked)
    (hdoc : F.type? doc = some .document) (hdoc' : G.type? doc' = some .document)
    (hlocked : F.isReadOnly doc = G.isReadOnly doc')
    (hcontent : List.Forall₂ (Content.Agrees F G (F.AreAlike G doc doc')) (F.content doc)
      (G.content doc')) :
    F.Mirrors G fun a b => Counterparts F G doc doc' a b ∧ F.isElement a = true := by
  have hne := isElement_eq_false_of_document hdoc
  have hne' := isElement_eq_false_of_document hdoc'
  refine ⟨hF, hG, And.right, ?frame, fun h => h.1.agrees_content hne hcontent,
    fun h => h.1.around hF hG hne hne', ?eq, ?readOnly⟩
  case frame =>
    rintro a b ⟨h, he⟩
    obtain ⟨f, hf, hf', -⟩ := ((h.areAlike hne hcontent).1 he).exists_frame he
    rw [hf, hf']
  case eq =>
    rintro a b c d ⟨h, -⟩ ⟨h', -⟩
    constructor
    · rintro rfl
      exact h.eq_of_left hF hne h'
    · rintro rfl
      exact h.symm.eq_of_left hG hne' h'.symm
  case readOnly =>
    rintro a b ⟨h, he⟩
    obtain ⟨_, _, _, _, ha, hb, -⟩ := (h.areAlike hne hcontent).1 he
    rw [hF.isReadOnly_of_holdsAt ha, hG.isReadOnly_of_holdsAt hb, hlocked]

/-! ### The nodes outside the document element -/

/-- A document holds no texts. -/
theorem IsWellLinked.filter_children (hF : F.IsWellLinked) (hdoc : F.type? doc = some .document) :
    (F.children doc).filter (F.type? · != some .text) = F.children doc := by
  refine List.filter_eq_self.2 fun c hc => ?_
  obtain ⟨s, t, hs, ht, hst⟩ := exists_type?_of_mayHold (hF.mayHold_of_mem hc)
  obtain rfl := Option.some.inj (hdoc.symm.trans hs)
  rw [ht]
  cases t <;> simp_all [NodeType.mayHold]

/-- A document holds no texts, so what agrees with its content are its children. -/
theorem agrees_children {R : NodeId → NodeId → Prop} (hF : F.IsWellLinked) (hG : G.IsWellLinked)
    (hdoc : F.type? doc = some .document) (hdoc' : G.type? doc' = some .document)
    (h : List.Forall₂ (Content.Agrees F G R) (F.content doc) (G.content doc')) :
    List.Forall₂ (fun a b => Content.Agrees F G R (.node a) (.node b)) (F.children doc)
      (G.children doc') := by
  have hnodes : List.Forall₂ (fun a b => Content.Agrees F G R (.node a) (.node b))
      ((F.content doc).filterMap Content.node?) ((G.content doc').filterMap Content.node?) := by
    refine List.rel_filterMap (fun x y hxy => ?_) h
    cases hxy with
    | text data => exact .none
    | element ha hb hr => exact .some (.element ha hb hr)
    | leaf ha hb hne => exact .some (.leaf ha hb hne)
  rwa [content, content, nodes_contentOf, nodes_contentOf, hF.filter_children hdoc,
    hG.filter_children hdoc'] at hnodes

/-- The elements in content that agrees are paired. -/
theorem agrees_elements {R : NodeId → NodeId → Prop} {a b : NodeId}
    (h : List.Forall₂ (Content.Agrees F G R) (F.content a) (G.content b)) :
    List.Forall₂ R ((F.children a).filter F.isElement) ((G.children b).filter G.isElement) := by
  have hfilter : ∀ (H : Forest) (id : NodeId), (H.children id).filter H.isElement =
      (H.content id).filterMap fun part => part.node?.filter H.isElement := fun H id => by
    rw [← List.filter_filterMap, content, nodes_contentOf, List.filter_filter]
    refine List.filter_congr fun c _ => ?_
    cases he : H.isElement c with
    | false => rfl
    | true => rw [isElement_iff.1 he]; rfl
  rw [hfilter, hfilter]
  refine List.rel_filterMap (fun x y hxy => ?_) h
  cases hxy with
  | text data => exact .none
  | element ha hb hr =>
      rw [Content.node?, Content.node?, Option.filter_some_pos ha, Option.filter_some_pos hb]
      exact .some hr
  | leaf ha hb hne =>
      rw [Content.node?, Content.node?,
        Option.filter_some_neg (Bool.eq_false_iff.2 (not_isElement_of_payload? ha hne)),
        Option.filter_some_neg (Bool.eq_false_iff.2 (not_isElement_of_payload? hb hne))]
      exact .none

section Children

variable {R : NodeId → NodeId → Prop}
  (h : List.Forall₂ (fun a b => Content.Agrees F G R (.node a) (.node b)) (F.children doc)
    (G.children doc'))
include h

theorem childOfType?_rel (t : NodeType) :
    Option.Rel (fun a b => Content.Agrees F G R (.node a) (.node b)) (F.childOfType? doc t)
      (G.childOfType? doc' t) := by
  rw [childOfType?, childOfType?, ← List.head?_filter, ← List.head?_filter]
  have hfilter : List.Forall₂ (fun a b => Content.Agrees F G R (.node a) (.node b))
      ((F.children doc).filter (F.type? · == some t))
      ((G.children doc').filter (G.type? · == some t)) :=
    List.rel_filter (fun a b hab => by simp only [hab.type?_eq]) h
  generalize (F.children doc).filter (F.type? · == some t) = ids at hfilter
  generalize (G.children doc').filter (G.type? · == some t) = ids' at hfilter
  cases hfilter with
  | nil => exact .none
  | cons hab _ => exact .some hab

/-- The document elements are paired. -/
theorem root?_rel : Option.Rel R (F.root? doc) (G.root? doc') := by
  have hrel := childOfType?_rel h .element
  rw [root?, root?]
  generalize hr : F.childOfType? doc .element = r at hrel
  generalize G.childOfType? doc' .element = r' at hrel
  cases hrel with
  | none => exact .none
  | some hab =>
      cases hab with
      | element _ _ hr => exact .some hr
      | leaf ha _ hne =>
          have ht := List.find?_some (childOfType?.eq_1 F doc .element ▸ hr)
          rw [type?, ha] at ht
          exact absurd (Option.some.inj (beq_iff_eq.1 ht)) hne

/-- The document types are the same. -/
theorem doctype?_eq : F.doctype? doc = G.doctype? doc' := by
  have hrel := childOfType?_rel h .doctype
  rw [doctype?, doctype?, doctypeNode?, doctypeNode?]
  generalize hr : F.childOfType? doc .doctype = r at hrel
  generalize G.childOfType? doc' .doctype = r' at hrel
  cases hrel with
  | none => rfl
  | some hab =>
      cases hab with
      | element ha _ _ =>
          have ht := List.find?_some (childOfType?.eq_1 F doc .doctype ▸ hr)
          rw [isElement_iff.1 ha] at ht
          cases ht
      | leaf ha hb _ => rw [Option.bind_some, Option.bind_some, ha, hb]

end Children

end Documents

end Forest

end XmlScribe
