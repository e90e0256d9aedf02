/-
**Trees that are read once they are written.**

A tree that has been put together from names and strings may lack declarations, and an element may
use a prefix for two namespaces.  Completion from the document element settles every element, so all
names are resolved when the tree is read, if the attributes of every element can be told apart and
are declarations where they are written as such.

Main definitions:

* `Item.IsUnbroken` — a comment or an instruction that nothing in it ends too early;
* `Item.HasTidyAttributes` — an element whose attributes can be told apart by their texts;
* `Forest.IsLegible` — a forest whose elements below a document have names that are resolved.

Main results:

* `Forest.isAccepted_of_holds` — in such a forest items are read once they are written;
* `Writer.isLegible_of_completesTo` — completion makes such a forest.
-/

import XmlScribe.Proofs.Forest.Built
import XmlScribe.Proofs.Forest.Items
import XmlScribe.Proofs.Namespace.Completing
import XmlScribe.Proofs.Namespace.Tidy
import XmlScribe.Proofs.Writer.Accepted
import XmlScribe.Proofs.Writer.Completed

set_option autoImplicit false

namespace XmlScribe

open Builder

namespace Item

/-- Nothing in a comment or a processing instruction ends it too early. -/
def IsUnbroken : Item → Prop
  | comment data => ¬ ['-', '-', '>'] <:+: data
  | instruction _ data => ¬ ['?', '>'] <:+: data.getD []
  | _ => True

instance : DecidablePred IsUnbroken
  | comment data => inferInstanceAs (Decidable (¬ ['-', '-', '>'] <:+: data))
  | instruction _ data => inferInstanceAs (Decidable (¬ ['?', '>'] <:+: data.getD []))
  | element _ _ _ | text _ | cdata _ | doctype _ => isTrue trivial

/-- The attributes of an element have different texts, none is written `xmlns:xmlns`, and one that is
written `xmlns` is a declaration. -/
def HasTidyAttributes : Item → Prop
  | element _ attributes _ => (attributes.map fun a => a.name.text).Nodup ∧
      ∀ a ∈ attributes, a.isXmlnsXmlns = false ∧
        (a.name.text = xmlnsPrefix → a.isDeclaration = true)
  | _ => True

instance : DecidablePred HasTidyAttributes
  | element _ attributes _ => inferInstanceAs (Decidable
      ((attributes.map fun a => a.name.text).Nodup ∧ ∀ a ∈ attributes,
        a.isXmlnsXmlns = false ∧ (a.name.text = xmlnsPrefix → a.isDeclaration = true)))
  | text _ | cdata _ | comment _ | instruction _ _ | doctype _ => isTrue trivial

/-- An element uses each prefix for one namespace. -/
def IsConsistent : Item → Prop
  | element name attributes _ => (⟨name, attributes⟩ : Frame).IsConsistent
  | _ => True

instance : DecidablePred IsConsistent
  | element name attributes _ =>
      inferInstanceAs (Decidable (⟨name, attributes⟩ : Frame).IsConsistent)
  | text _ | cdata _ | comment _ | instruction _ _ | doctype _ => isTrue trivial

end Item

namespace Forest

/-! ### What completion keeps -/

/-- A binding of an element comes from a name that the rules of namespaces have made. -/
theorem IsBuilt.exists_isBuilt_of_mem {F : Forest} (hF : F.IsBuilt) {d : NodeId} {b : Binding}
    (hb : b ∈ F.bindingsAt d) : ∃ q : QName, q.IsBuilt ∧ q.binding = b := by
  obtain ⟨f, hf, hbf⟩ := exists_of_mem_bindingsAt hb
  obtain ⟨name, cells, hp, rfl⟩ := exists_payload_of_frame? hf
  obtain ⟨hname, hcells⟩ := hF d _ hp
  rcases Frame.mem_bindings_iff.1 hbf with rfl | ⟨a, ha, -, rfl⟩
  · exact ⟨name, hname, rfl⟩
  · obtain ⟨cell, hcell, rfl⟩ := List.mem_map.1 ha
    exact ⟨cell.attr.name, (hcells cell hcell).name, rfl⟩

/-- A declaration of such a name keeps what the nodes carry. -/
theorem IsBuilt.withDeclaration {F : Forest} (hF : F.IsBuilt) (target : NodeId) {q : QName}
    (hq : q.IsBuilt) : (F.withDeclaration target q.binding).IsBuilt := by
  have hof := Frame.declarable_of_isProper (Or.inl hq.isMade)
  have hput := @IsBuilt.put F hF target (fun cell => cell.attr.hasExpandedName
    q.binding.declaredName.namespaceUri q.binding.declaredName.localName)
    ⟨F.nextSerial, ⟨q.binding.declaredName, q.binding.uriText⟩⟩
    ⟨QName.isBuilt_of_ofText hof (by decide), hq.not_mem⟩
  exact hput.of_payload? fun _ => rfl

/-- Completion keeps what the nodes carry. -/
theorem Completing.isBuilt {F₀ F : Forest} {e : NodeId} {target : Option NodeId}
    {seen : List NodeId} (h : Completing F₀ e target seen F) (hF : F₀.IsBuilt) : F.IsBuilt := by
  induction h with
  | start => exact hF
  | visit _ _ _ ih => exact ih
  | @add seen rest F x c _ _ hc _ ih =>
      obtain ⟨q, hq, rfl⟩ := ih.exists_isBuilt_of_mem hc
      exact ih.withDeclaration _ hq

/-! ### Items that are read -/

variable {α : Type} {tell : QName → α}

/-- The names of the elements below a document are resolved, where either not more is told of a name
than its text or the namespaces of the elements are the ones that are declared. -/
structure IsLegible (tell : QName → α) (F : Forest) (doc : NodeId) : Prop where
  /-- The links agree. -/
  links : F.IsWellLinked
  /-- The nodes carry what is made from names and strings. -/
  built : F.IsBuilt
  /-- It is a document. -/
  document : F.type? doc = some .document
  /-- The attributes of the elements can be told apart and are what their texts say. -/
  isTidy : ∀ {d f}, F.Below doc d → F.frame? d = some f → f.IsTidy
  /-- For every prefix that is used, one of its namespaces is declared. -/
  isSettled : ∀ {d f}, F.Below doc d → F.frame? d = some f → f.IsSettledIn (F.scope d)
  /-- The text is all that is told, or the namespace is declared. -/
  told : ∀ {d f}, F.Below doc d → F.frame? d = some f →
    (∀ q q' : QName, q'.text = q.text → tell q' = tell q) ∨
      (F.scope d).declares f.name.binding = true

mutual

theorem everywhereAt_of_holdsAt {F : Forest} {owner : NodeId} {Q : Item → Prop}
    (hQ : ∀ {parent id item}, F.HoldsAt owner parent id item → Q item) :
    ∀ {item : Item} {parent id : NodeId}, F.HoldsAt owner parent id item → item.EverywhereAt Q
  | .element _ _ _, _, _, h => by
      have hq := hQ h
      obtain ⟨_, _, -, -, hcontent⟩ := h
      exact ⟨hq, everywhere_of_holds hQ hcontent⟩
  | .text _, _, _, h => hQ h
  | .cdata _, _, _, h => hQ h
  | .comment _, _, _, h => hQ h
  | .instruction _ _, _, _, h => hQ h
  | .doctype _, _, _, h => hQ h

/-- What holds of every planted item holds of the items in it. -/
theorem everywhere_of_holds {F : Forest} {owner : NodeId} {Q : Item → Prop}
    (hQ : ∀ {parent id item}, F.HoldsAt owner parent id item → Q item) :
    ∀ {items : List Item} {parent : NodeId} {ids : List NodeId}, F.Holds owner parent ids items →
      Item.Everywhere Q items
  | [], _, _, _ => trivial
  | item :: items, _, ids, h => by
      cases ids with
      | nil => exact h.elim
      | cons id ids => exact ⟨everywhereAt_of_holdsAt hQ h.1, everywhere_of_holds hQ h.2⟩

end

/-- Planted items have no null character where it could not be written. -/
theorem IsBuilt.hasNoNull {F : Forest} (hF : F.IsBuilt) {owner parent : NodeId}
    {ids : List NodeId} {items : List Item} (h : F.Holds owner parent ids items) :
    Item.Everywhere Item.HasNoNull items := by
  refine everywhere_of_holds (fun {parent id item} hitem => ?_) h
  cases item with
  | element name attributes content =>
      obtain ⟨cells, children, rfl, hget, -⟩ := hitem
      have hbuilt : Payload.IsBuilt (.element name cells) := hF.of_get? hget
      intro a ha
      obtain ⟨cell, hcell, rfl⟩ := List.mem_map.1 ha
      exact (hbuilt.2 cell hcell).not_mem
  | text data => exact hF.of_get? hitem
  | cdata data => exact hF.of_get? hitem
  | _ => trivial

mutual

theorem isAcceptedAt_of_holdsAt {F : Forest} {doc : NodeId} (hF : F.IsLegible tell doc) :
    ∀ {item : Item} {parent id : NodeId}, F.HoldsAt doc parent id item →
      F.Below doc parent → id ∈ F.children parent → item.EverywhereAt Item.IsUnbroken →
        item.IsAcceptedAt tell (F.scope parent).declaration?
  | .element name attributes content, parent, id, h, hb, hid, hu => by
      have hf := frame?_of_holdsAt h
      have hd := Below.child hb hid
      have htidy := hF.isTidy hd hf
      have hsettled := hF.isSettled hd hf
      have helement : F.isElement id = true := isElement_of_frame? hf
      have hscope : F.scope id = ⟨name, attributes⟩ :: F.scope parent := by
        rw [scope, hF.links.elementLineage_child hid helement, List.filterMap_cons, hf]
        rfl
      have hmeaning : (F.scope id).declaration? =
          meaningIn (F.scope parent).declaration? attributes := by
        rw [hscope]
        exact htidy.declaration?_cons _
      obtain ⟨cells, children, hcells, hget, hcontent⟩ := h
      have hch : F.children id = children := by
        rw [Forest.children, hget]
        rfl
      have hnodup := htidy.names.nodup
      rw [List.map_map] at hnodup
      refine ⟨hmeaning ▸ htidy.isAccepted_name hsettled (hF.told hd hf),
        fun a ha => hmeaning ▸ htidy.isAccepted_of_mem hsettled ha, hnodup, ?_⟩
      rw [← hmeaning]
      exact isAccepted_of_holds hF hcontent hd (fun c hc => hch ▸ hc) hu.2
  | .text _, _, _, _, _, _, _ => trivial
  | .cdata _, _, _, _, _, _, _ => trivial
  | .comment _, _, _, _, _, _, hu => hu
  | .instruction target data, _, id, h, _, _, hu =>
      ⟨hF.built.of_get? h, hu⟩
  | .doctype _, _, _, _, _, _, _ => trivial

/-- Items of a document are read once they are written, if comments and instructions end where they
should. -/
theorem isAccepted_of_holds {F : Forest} {doc : NodeId} (hF : F.IsLegible tell doc) :
    ∀ {items : List Item} {parent : NodeId} {ids : List NodeId}, F.Holds doc parent ids items →
      F.Below doc parent → (∀ id ∈ ids, id ∈ F.children parent) →
        Item.Everywhere Item.IsUnbroken items →
          Item.IsAccepted tell (F.scope parent).declaration? items
  | [], _, _, _, _, _, _ => trivial
  | item :: items, _, ids, h, hb, hids, hu => by
      cases ids with
      | nil => exact h.elim
      | cons id ids =>
          exact ⟨isAcceptedAt_of_holdsAt hF h.1 hb (hids id (by simp)) hu.1,
            isAccepted_of_holds hF h.2 hb (fun c hc => hids c (by simp [hc])) hu.2⟩

end

/-! ### Completion -/

/-- What holds everywhere in the items of a document holds of the elements. -/
theorem of_everywhere {F : Forest} {doc : NodeId} (hF : F.IsWellLinked)
    (hdoc : F.type? doc = some .document) {Q : Item → Prop}
    (hq : Item.Everywhere Q (F.toDocument doc).content) {d : NodeId} {f : Frame}
    (hd : F.Below doc d) (hf : F.frame? d = some f) :
    ∃ content, Q (.element f.name f.attributes content) := by
  obtain ⟨e, -, hc, -, hed⟩ := hF.exists_root hdoc hd (isElement_of_frame? hf)
  obtain ⟨item, hm, hitem⟩ := exists_mem_of_holds (hF.holds_toDocument hdoc) hc
  obtain ⟨parent, item, h, hq⟩ :=
    exists_everywhereAt_of_below hitem (Item.everywhere_iff.1 hq item hm) hed
  cases item with
  | element name attributes content =>
      obtain rfl := Option.some.inj (hf.symm.trans (frame?_of_holdsAt h))
      exact ⟨content, hq.1⟩
  | _ =>
      rw [frame?, payload?_of_get? h] at hf
      cases hf

/-- The elements of a document that has been put together from names and strings are tidy, if their
attributes are. -/
theorem IsBuilt.isTidy {F : Forest} (hF : F.IsBuilt) {d : NodeId} {f : Frame}
    (hf : F.frame? d = some f) {content : List Item}
    (h : Item.HasTidyAttributes (.element f.name f.attributes content)) : f.IsTidy := by
  obtain ⟨name, cells, hp, rfl⟩ := exists_payload_of_frame? hf
  obtain ⟨hname, hcells⟩ := hF d _ hp
  obtain ⟨hnodup, hall⟩ := h
  refine ⟨hname.isMade, ⟨?_, ?_, ?_, ?_⟩⟩
  · intro q hq
    obtain ⟨a, ha, rfl⟩ := List.mem_map.1 hq
    obtain ⟨cell, hcell, rfl⟩ := List.mem_map.1 ha
    exact (hcells cell hcell).name.isMade
  · rw [List.map_map]
    exact hnodup
  · intro q hq
    obtain ⟨a, ha, rfl⟩ := List.mem_map.1 hq
    exact beq_eq_false_iff_ne.1 (hall a ha).1
  · intro q hq ht
    obtain ⟨a, ha, rfl⟩ := List.mem_map.1 hq
    exact beq_iff_eq.1 ((hall a ha).2 ht)

/-- Completion from the document element makes a forest in which all names are resolved. -/
theorem isLegible_of_ensureDeclared {F G : Forest} {doc e : NodeId} (hF : F.IsWellLinked)
    (hbuilt : F.IsBuilt) (hdoc : F.type? doc = some .document)
    (htidy : Item.Everywhere Item.HasTidyAttributes (F.toDocument doc).content)
    (htold : (∀ q q' : QName, q'.text = q.text → tell q' = tell q) ∨
      Item.Everywhere Item.IsConsistent (F.toDocument doc).content)
    (hroot : F.root? doc = some e) {target : Option NodeId} (ht : target = none ∨ target = some e)
    {n : Nat} (hrun : F.ensureDeclared e target true = (G, .ok n)) : G.IsLegible tell doc := by
  have hec : e ∈ F.children doc := List.mem_of_find?_eq_some hroot
  have hee : F.isElement e = true := List.find?_some hroot
  have hbelow : ∀ {d}, F.Below e d → F.Below doc d := fun hd => (Below.child .refl hec).trans hd
  have hframes : ∀ {d f}, F.Below e d → F.frame? d = some f → f.IsTidy ∧
      ((∀ q q' : QName, q'.text = q.text → tell q' = tell q) ∨ f.IsConsistent) := fun hd hf => by
    obtain ⟨_, htidy⟩ := of_everywhere hF hdoc htidy (hbelow hd) hf
    exact ⟨hbuilt.isTidy hf htidy, htold.imp_right fun hc =>
      (of_everywhere hF hdoc hc (hbelow hd) hf).elim fun _ h => h⟩
  have hpart : F.IsPart e := ⟨hF, hee, fun hd hf => (hframes hd hf).1.isDeclarable⟩
  have htop : F.around e = [] := by
    rw [around, hF.elementLineage_child hec hee,
      elementLineage_eq_nil (isElement_eq_false_of_document hdoc)]
    rfl
  have hstart : Completing F e target [] F := .start
  have hwalk := Completing.of_ensureElements hpart ht rfl hstart hrun
  have hkept := Completing.isKept hpart ht hwalk
  have hsame := hkept.same
  -- the elements below the document are those below the document element
  have hel : ∀ {d f}, G.Below doc d → G.frame? d = some f → F.Below e d ∧ F.isElement d = true := by
    intro d f hd hf
    have hde : F.isElement d = true := (hsame.isElement_eq d) ▸ isElement_of_frame? hf
    obtain ⟨e', hr, -, -, hed⟩ :=
      hF.exists_root hdoc ((below_iff_of_sameButDeclarations hsame).1 hd) hde
    obtain rfl := Option.some.inj (hroot.symm.trans hr)
    exact ⟨hed, hde⟩
  have hkeeps : ∀ {d f}, G.Below doc d → G.frame? d = some f → f.IsTidy ∧
      ((∀ q q' : QName, q'.text = q.text → tell q' = tell q) ∨ f.IsConsistent) := by
    intro d f hd hf
    refine Completing.frames hpart (fun {x f c} hx hc himp hq => ?_) hframes ht hwalk
      (hel hd hf).1 hf
    obtain ⟨q, hqb, rfl⟩ := hbuilt.exists_isBuilt_of_mem hc
    refine ⟨hq.1.withDeclaration hqb.isMade himp, hq.2.imp_right fun hcons => ?_⟩
    rw [Frame.IsConsistent, Frame.bindings_withDeclaration]
    exact hcons
  have hsettled : ∀ {d f}, G.Below doc d → G.frame? d = some f → G.IsSettled d := by
    intro d f hd hf
    exact Completing.isSettled hpart htop ht hwalk d
      (List.mem_reverse.2 (hF.mem_elementsFrom_iff.2 (hel hd hf)))
  have hbindings : ∀ {d f}, G.frame? d = some f → G.bindingsAt d = f.bindings := fun hf => by
    rw [bindingsAt, hf]
    rfl
  exact {
    links := hkept.part.links
    built := Completing.isBuilt hwalk hbuilt
    document := (hsame.type?_eq doc).trans hdoc
    isTidy := fun hd hf => (hkeeps hd hf).1
    isSettled := fun hd hf => by
      have h := hsettled hd hf
      rwa [IsSettled, hbindings hf] at h
    told := fun hd hf => (hkeeps hd hf).2.imp_right fun hcons =>
      (hsettled hd hf).isComplete (fun b hb a ha => by
        rw [hbindings hf] at hb ha
        exact hcons.eq_of_mem hb ha) _ (hbindings hf ▸ List.mem_cons_self) }

/-- Where the document has no element, there is nothing to be resolved. -/
theorem isLegible_of_root?_eq_none {F : Forest} {doc : NodeId} (hF : F.IsWellLinked)
    (hbuilt : F.IsBuilt) (hdoc : F.type? doc = some .document) (hroot : F.root? doc = none) :
    F.IsLegible tell doc := by
  have hnone : ∀ {d f}, F.Below doc d → F.frame? d = some f → False := fun hd hf => by
    obtain ⟨e, hr, -⟩ := hF.exists_root hdoc hd (isElement_of_frame? hf)
    rw [hroot] at hr
    cases hr
  exact ⟨hF, hbuilt, hdoc, fun hd hf => (hnone hd hf).elim, fun hd hf => (hnone hd hf).elim,
    fun hd hf => (hnone hd hf).elim⟩

end Forest

open Forest in
/-- **What is completed before a document is written has all names resolved**, if the attributes of
every element can be told apart. -/
theorem Writer.isLegible_of_completesTo {W : Writer} (hcomplete : W.settings.completeNamespaces = true)
    {F G : Forest} {doc : NodeId} (h : W.CompletesTo F doc G) (hF : F.IsWellLinked)
    (hbuilt : F.IsBuilt) (hdoc : F.type? doc = some .document)
    (htidy : Item.Everywhere Item.HasTidyAttributes (F.toDocument doc).content)
    {α : Type} {tell : QName → α} (htold : (∀ q q' : QName, q'.text = q.text → tell q' = tell q) ∨
      Item.Everywhere Item.IsConsistent (F.toDocument doc).content) : G.IsLegible tell doc := by
  rw [CompletesTo] at h
  cases hroot : F.root? doc with
  | none =>
      rw [hroot] at h
      exact h ▸ isLegible_of_root?_eq_none hF hbuilt hdoc hroot
  | some e =>
      simp only [hroot, hcomplete, if_true] at h
      obtain ⟨n, hrun⟩ := h
      refine isLegible_of_ensureDeclared hF hbuilt hdoc htidy htold hroot ?_ hrun
      split
      · exact Or.inr rfl
      · exact Or.inl rfl

end XmlScribe
