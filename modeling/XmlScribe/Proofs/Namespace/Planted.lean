/-
**A planted document lacks no declaration.**

In a document that has been read every name is what it is resolved to, so a declaration for it is in
scope.  Completion finds nothing to do there.

Main results:

* `Frame.declaration?_eq` — what an element declares, found in the forest and by reading;
* `Forest.isTreeBelow_of_holdsAt` — the links below a planted item agree;
* `Forest.isRead_of_below` — what is in scope of an element is what the prefixes meant;
* `Forest.ensureDeclared_of_holdsAt` — completion changes nothing.
-/

import XmlScribe.Proofs.Document.Sound
import XmlScribe.Proofs.Forest.Planted
import XmlScribe.Proofs.Markup.Attributes
import XmlScribe.Proofs.Namespace.Completeness

set_option autoImplicit false

namespace XmlScribe

open Builder

/-! ### Declarations of an element -/

/-- An attribute that has been resolved declares what its text says. -/
theorem Attribute.declaredPrefix?_of_resolves {m : Meaning} {a : Attribute} (h : a.Resolves m) :
    a.declaredPrefix? = prefixOfDeclarationName? a.name.text := by
  cases hd : isDeclarationName a.name.text with
  | true =>
      rw [Resolves, if_pos hd] at h
      have hu : a.isDeclaration = true := by
        rw [isDeclaration, QName.namespaceUri_of_ofText h]
        rfl
      rw [isDeclarationName] at hd
      rw [declaredPrefix?, if_pos hu, prefixOfDeclarationName?]
      rw [prefixOfDeclarationName?] at hd
      by_cases ht : a.name.text = xmlnsPrefix
      · rw [ht, QName.ofText_xmlns] at h
        rw [if_pos ht, ← Except.ok.inj h, if_neg (by simp)]
      · rw [if_neg ht, Option.isSome_map, Option.isSome_iff_exists] at hd
        obtain ⟨t, hafter⟩ := hd
        have hmade := QName.isMade_of_ofText h
        have hsplit : QName.splitAtColon? a.name.text = some (xmlnsPrefix, t) := by
          rw [QName.splitAtColon?_eq_some_iff, Text.after?_eq_some_iff.1 hafter]
          exact ⟨by simp, by decide, by decide⟩
        have hp : a.name.nsPrefix = some xmlnsPrefix := by
          rw [← QName.fst_splitAtColon? hmade, hsplit]
          rfl
        obtain ⟨hparts, -⟩ := hmade.parts hp
        rw [hsplit] at hparts
        rw [if_neg ht, if_pos hp, hafter, (Prod.mk.inj (Option.some.inj hparts)).2]
        rfl
  | false =>
      have hnone : prefixOfDeclarationName? a.name.text = none := by
        rwa [isDeclarationName, Option.isSome_eq_false_iff, Option.isNone_iff_eq_none] at hd
      rw [hnone, declaredPrefix?, if_neg]
      intro hu
      have huri : a.name.namespaceUri = some xmlnsUri := beq_iff_eq.1 hu
      have hx : a.name.text ≠ xmlnsXmlns := by
        intro hx
        rw [hx] at hd
        exact absurd hd (by decide)
      have hmade := h.isMade (by rw [huri]; rfl)
      rw [isDeclarationName_of_isMade hmade huri hx] at hd
      exact Bool.noConfusion hd

/-- What an element declares, found among its attributes and among what they declare. -/
theorem Frame.declaration?_eq {name : QName} {attributes : List Attribute}
    (h : ∀ a ∈ attributes,
      a.declaredPrefix? = Attribute.prefixOfDeclarationName? a.name.text)
    (hd : (attributes.map fun a => a.name.text).Nodup) (p : Option Text) :
    (⟨name, attributes⟩ : Frame).declaration? p =
      (bindingsOf (pairsOf attributes)).reverse.lookup p := by
  have hfirst : (attributes.find? fun a => a.declaredPrefix? == some p).map Attribute.value =
      (bindingsOf (pairsOf attributes)).lookup p := by
    clear hd
    induction attributes with
    | nil => rfl
    | cons a attributes ih =>
        have ih := ih fun b hb => h b (by simp [hb])
        have ha := h a (by simp)
        rw [List.find?_cons, pairsOf, List.map_cons, bindingsOf, List.filterMap_cons, ha]
        cases hp : Attribute.prefixOfDeclarationName? a.name.text with
        | none =>
            simp only [hp, Option.map_none]
            exact ih
        | some declared =>
            simp only [hp, Option.map_some, List.lookup_cons]
            by_cases he : p = declared
            · subst he
              simp
            · have h₁ : (some declared == some p) = false :=
                beq_eq_false_iff_ne.2 fun hc => he (Option.some.inj hc).symm
              have h₂ : (p == declared) = false := beq_eq_false_iff_ne.2 he
              simp only [h₁, h₂]
              exact ih
  have hnodup : ((bindingsOf (pairsOf attributes)).map Prod.fst).Nodup := by
    refine nodup_bindingsOf ?_
    rw [pairsOf, List.map_map]
    exact hd
  rw [declaration?, hfirst]
  exact lookup_eq_of_perm (List.reverse_perm _).symm hnodup p

namespace Forest

/-! ### Links -/

/-- Only elements have children, and these are the items of their content. -/
theorem holdsAt_of_mem_children {F : Forest} {owner parent id : NodeId} {item : Item}
    (h : F.HoldsAt owner parent id item) {c : NodeId} (hc : c ∈ F.children id) :
    ∃ name attributes content, item = .element name attributes content ∧
      ∃ child ∈ content, F.HoldsAt owner id c child := by
  cases item with
  | element name attributes content =>
      obtain ⟨cells, children, -, hget, hitems⟩ := h
      have hchildren : F.children id = children := by
        rw [Forest.children, hget]
        rfl
      exact ⟨name, attributes, content, rfl, exists_mem_of_holds hitems (hchildren ▸ hc)⟩
  | _ =>
      have hchildren : F.children id = [] := by
        rw [Forest.children, h]
        rfl
      rw [hchildren] at hc
      exact absurd hc List.not_mem_nil

/-- A node below a planted item is planted itself. -/
theorem exists_holdsAt_of_below {F : Forest} {owner parent root : NodeId} {item : Item}
    {m : Meaning} (h : F.HoldsAt owner parent root item) (hs : item.IsSoundAt m) {d : NodeId}
    (hd : F.Below root d) : ∃ parent item m, F.HoldsAt owner parent d item ∧ item.IsSoundAt m := by
  induction hd with
  | refl => exact ⟨parent, item, m, h, hs⟩
  | child _ hc ih =>
      obtain ⟨parent, item, m, h, hs⟩ := ih
      obtain ⟨name, attributes, content, rfl, child, hm, hchild⟩ := holdsAt_of_mem_children h hc
      exact ⟨_, child, _, hchild, Item.isSound_iff.1 hs.2.2.2 child hm⟩

/-- The links below a planted item agree. -/
theorem isTreeBelow_of_holdsAt {F : Forest} {owner parent root : NodeId} {item : Item}
    {m : Meaning} (h : F.HoldsAt owner parent root item) (hs : item.IsSoundAt m) :
    F.IsTreeBelow root := by
  have key : ∀ {p c}, F.Below root p → c ∈ F.children p → F.parent? c = some p ∧
      F.mayHold p c = true ∧ F.sharesDocument p c = true := by
    intro p c hp hc
    obtain ⟨parent, item, m, h, hs⟩ := exists_holdsAt_of_below h hs hp
    obtain ⟨node, hget, -, howner, -⟩ := get?_of_holdsAt h
    obtain ⟨name, attributes, content, rfl, child, hm, hchild⟩ := holdsAt_of_mem_children h hc
    obtain ⟨node', hget', hparent', howner', -⟩ := get?_of_holdsAt hchild
    have hsound := Item.isSound_iff.1 hs.2.2.2 child hm
    refine ⟨?_, ?_, ?_⟩
    · rw [parent?, hget']
      exact hparent'
    · refine mayHold_eq_true_iff.2
        ⟨.element, typeOf child, type?_of_holdsAt h, type?_of_holdsAt hchild, ?_⟩
      cases child with
      | doctype d => exact hsound.elim
      | _ => rfl
    · have hne : F.type? p ≠ some .document := by
        rw [type?_of_holdsAt h]
        simp [typeOf]
      rw [sharesDocument, if_neg hne, owner?, owner?, hget, hget']
      simp [howner, howner']
  exact ⟨fun hp hc => (key hp hc).1, fun hp hc => (key hp hc).2.1, fun hp hc => (key hp hc).2.2⟩

/-- A planted element that no element stands around is the top of its tree. -/
theorem isTop_of_holdsAt {F : Forest} {owner parent root : NodeId} {name : QName}
    {attributes : List Attribute} {content : List Item}
    (h : F.HoldsAt owner parent root (.element name attributes content))
    (hp : F.isElement parent = false) : F.IsTop root := by
  obtain ⟨node, hget, hparent, -, -⟩ := get?_of_holdsAt h
  refine ⟨?_, fun p hparent' => ?_⟩
  · rw [isElement, type?_of_holdsAt h]
    rfl
  · rw [parent?, hget] at hparent'
    rwa [← Option.some.inj (hparent.symm.trans hparent')]

/-! ### Declarations in scope -/

end Forest

theorem Scope.declaration?_cons (f : Frame) (s : Scope) (p : Option Text) :
    Scope.declaration? (f :: s) p = (f.declaration? p).or (s.declaration? p) := by
  rw [Scope.declaration?, List.findSome?_cons, Scope.declaration?]
  cases f.declaration? p <;> rfl

/-- A name that has been resolved is declared. -/
theorem QName.Resolves.declares {s : Scope} {q : QName} (h : q.Resolves s.declaration?) :
    s.declares q.binding = true := by
  obtain ⟨uri, hu, hq⟩ := h
  rw [Scope.declares]
  split
  · rfl
  · rename_i hi
    simp only [Binding.isImplicit, QName.binding, Bool.or_eq_true, beq_iff_eq, not_or] at hi
    unfold namespaceIn at hu
    rw [if_neg hi.1, if_neg hi.2] at hu
    simp only [QName.binding, Binding.uriText, QName.namespaceUri_of_ofText hq]
    cases hm : s.declaration? q.nsPrefix with
    | some declared =>
        simp only [hm, Except.ok.injEq] at hu
        subst hu
        cases declared <;> simp [QName.someNamespace, Option.filter]
    | none =>
        cases hp : q.nsPrefix with
        | none =>
            rw [hp] at hm hu
            simp only [hm, Except.ok.injEq] at hu
            subst hu
            rfl
        | some p =>
            rw [hp] at hm hu
            simp [hm] at hu

/-- The name of an attribute that relies on a binding is resolved as the names of elements are. -/
theorem Attribute.Resolves.name_resolves {m : Meaning} {a : Attribute} (h : a.Resolves m)
    (hb : a.binding?.isSome = true) : a.name.Resolves m := by
  obtain ⟨b, hb⟩ := Option.isSome_iff_exists.1 hb
  obtain ⟨⟨hd, hpfx⟩, -⟩ := Attribute.binding?_eq_some_iff.1 hb
  rw [Attribute.Resolves] at h
  split at h
  · rw [Attribute.isDeclaration, QName.namespaceUri_of_ofText h] at hd
    cases hd
  · split at h
    · rename_i p local' hsplit
      obtain ⟨uri, hu, hq⟩ := h
      have hp : a.name.nsPrefix = some p := by
        rw [← QName.fst_splitAtColon? (QName.isMade_of_ofText hq), hsplit]
        rfl
      exact ⟨uri, by rw [hp]; exact hu, hq⟩
    · rw [h.2] at hpfx
      cases hpfx

/-- What an attribute that has been resolved relies on is declared. -/
theorem Attribute.Resolves.declares {s : Scope} {a : Attribute} (h : a.Resolves s.declaration?)
    {b : Binding} (hb : a.binding? = some b) : s.declares b = true := by
  have hname := h.name_resolves (by rw [hb]; rfl)
  obtain ⟨-, rfl⟩ := Attribute.binding?_eq_some_iff.1 hb
  exact hname.declares

namespace Forest

/-- The node is a planted element, and what is declared in its scope is what the prefixes meant when
it was read. -/
def IsRead (F : Forest) (owner id : NodeId) : Prop :=
  ∃ parent name attributes content m,
    F.HoldsAt owner parent id (.element name attributes content) ∧
      Item.IsSoundAt m (.element name attributes content) ∧
      (F.scope id).declaration? = meaningIn m attributes

theorem frame?_of_holdsAt {F : Forest} {owner parent id : NodeId} {name : QName}
    {attributes : List Attribute} {content : List Item}
    (h : F.HoldsAt owner parent id (.element name attributes content)) :
    F.frame? id = some ⟨name, attributes⟩ := by
  obtain ⟨cells, children, hcells, hget, -⟩ := h
  rw [frame?, payload?, hget, ← hcells]
  rfl

/-- The elements below a planted one are read. -/
theorem isRead_of_below {F : Forest} {owner parent root : NodeId} {name : QName}
    {attributes : List Attribute} {content : List Item}
    (h : F.HoldsAt owner parent root (.element name attributes content))
    (hs : Item.IsSoundAt (fun _ => none) (.element name attributes content))
    (hF : F.IsTreeBelow root) (hr : F.IsTop root) {d : NodeId} (hd : F.Below root d)
    (he : F.isElement d = true) : F.IsRead owner d := by
  induction hd with
  | refl =>
      refine ⟨parent, name, attributes, content, _, h, hs, ?_⟩
      have hscope : F.scope root = [⟨name, attributes⟩] := by
        rw [scope, elementLineage_root hF hr]
        simp [frame?_of_holdsAt h]
      funext p
      rw [hscope, Scope.declaration?_cons, Frame.declaration?_eq
        (fun a ha => Attribute.declaredPrefix?_of_resolves (hs.2.1 a ha)) hs.2.2.1.nodup_text]
      rfl
  | @child p c hp hc ih =>
      obtain ⟨parent, name, attributes, content, m, hpar, hsound, hm⟩ :=
        ih (isElement_of_mem_children hF hr hp hc)
      obtain ⟨name', attributes', content', heq, child, hmem, hchild⟩ :=
        holdsAt_of_mem_children hpar hc
      obtain ⟨rfl, rfl, rfl⟩ := Item.element.inj heq
      have hsound' := Item.isSound_iff.1 hsound.2.2.2 child hmem
      rw [isElement, type?_of_holdsAt hchild] at he
      cases child with
      | element name' attributes' content' =>
          refine ⟨_, name', attributes', content', _, hchild, hsound', ?_⟩
          have hscope : F.scope c = ⟨name', attributes'⟩ :: F.scope p := by
            rw [scope, elementLineage_child hF hr hp hc, List.filterMap_cons,
              frame?_of_holdsAt hchild]
            · rfl
            · rw [isElement, type?_of_holdsAt hchild]
              exact he
          funext q
          rw [hscope, Scope.declaration?_cons, hm,
            Frame.declaration?_eq (fun a ha =>
              Attribute.declaredPrefix?_of_resolves (hsound'.2.1 a ha)) hsound'.2.2.1.nodup_text]
          rfl
      | _ => simp [typeOf] at he

/-- All names of an element that has been read are declared. -/
theorem IsRead.isComplete {F : Forest} {owner id : NodeId} (h : F.IsRead owner id) :
    F.IsComplete id := by
  obtain ⟨parent, name, attributes, content, m, hd, hs, hm⟩ := h
  intro b hb
  rw [bindingsAt, frame?_of_holdsAt hd] at hb
  rcases List.mem_cons.1 hb with rfl | hb
  · exact QName.Resolves.declares (hm ▸ hs.1)
  · obtain ⟨a, ha, hab⟩ := List.mem_filterMap.1 hb
    exact Attribute.Resolves.declares (hm ▸ hs.2.1 a ha) hab

/-- Completion of a planted element that no element stands around changes nothing. -/
theorem ensureDeclared_of_holdsAt {F : Forest} {owner parent root : NodeId} {name : QName}
    {attributes : List Attribute} {content : List Item}
    (h : F.HoldsAt owner parent root (.element name attributes content))
    (hs : Item.IsSoundAt (fun _ => none) (.element name attributes content))
    (hp : F.isElement parent = false) (target : Option NodeId) (deep : Bool) :
    F.ensureDeclared root target deep = (F, .ok 0) := by
  have hF := isTreeBelow_of_holdsAt h hs
  have hr := isTop_of_holdsAt h hp
  rw [ensureDeclared]
  have hel : ∀ d ∈ (if deep then F.elementsFrom root else [root]),
      F.Below root d ∧ F.isElement d = true := by
    intro d hd
    split at hd
    · exact (mem_elementsFrom_iff hF hr).1 hd
    · obtain rfl := List.mem_singleton.1 hd
      exact ⟨.refl, hr.isElement⟩
  exact ensureElements_of_isComplete target (fun d hd => (hel d hd).2) fun d hd =>
    (isRead_of_below h hs hF hr (hel d hd).1 (hel d hd).2).isComplete

end Forest

end XmlScribe
