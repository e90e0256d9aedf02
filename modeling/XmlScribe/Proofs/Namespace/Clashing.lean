/-
**Completion a second time.**

Completion may make a declaration and overwrite it again at the same element.  If the element uses
the prefix for two namespaces, it does, and a second completion finds one of them undeclared.  If
every element uses each prefix for one namespace, the first completion leaves all elements stable,
and a walk through stable elements changes no node.

Only one of the two namespaces can be declared where such an element stands.  Completion leaves the
element with a declaration of its own: either the prefix was declared there or further up, and then
what is missing is declared on the element, or it was not, and then what is declared further up is
missing again for the other namespace.  A second completion finds that other namespace undeclared
and overwrites the declaration.

Main definitions:

* `Forest.Clashes` — the element uses the prefix for two namespaces.

Main results:

* `Forest.ensureElements_of_isStable` — what a walk through stable elements does;
* `Forest.ensureDeclared_again` — what a second completion does;
* `Forest.declarationOn_ensureBindings_self` — which declaration is the last one;
* `Forest.declares_ensureBindings` — without a declaration of its own an element misses nothing in
  the end;
* `Forest.exists_declarationOn_visit`, `Forest.exists_ne_visit` — so one that clashes has a
  declaration of its own after a visit, and another one if it has one before;
* `Forest.exists_declarationOn_ensureElements`, `Forest.exists_ne_ensureElements` — so it does after
  a walk;
* `Forest.ensureDeclared_again_iff` — when a second completion leaves the nodes as they are.
-/

import XmlScribe.Proofs.Forest.Lineage
import XmlScribe.Proofs.Namespace.Added
import XmlScribe.Proofs.Namespace.Completeness
import XmlScribe.Proofs.Namespace.Tidy

set_option autoImplicit false

namespace XmlScribe

namespace Forest

variable {Q : Frame → Prop}

/-- A walk through stable elements succeeds and changes no node. -/
theorem ensureElements_of_isStable (hQ : Frame.IsKind Q) {F : Forest} {root : NodeId}
    (h : F.IsReadyFor Q root) (target : Option NodeId) {elements : List NodeId}
    (hel : ∀ d ∈ elements, F.Below root d ∧ F.isElement d = true)
    (hall : ∀ d ∈ elements, F.IsStable d) :
    ∃ G n, F.ensureElements target elements = (G, .ok n) ∧ F.SameNodes G := by
  induction elements generalizing F with
  | nil => exact ⟨F, 0, rfl, .refl F _⟩
  | cons d elements ih =>
      obtain ⟨hd, he⟩ := hel d (by simp)
      have hfixed : ∀ b ∈ (F.scope d).undeclared, b ∈ F.bindingsAt d ∧ F.IsFixed d b := by
        intro b hb
        have hmem := ((mem_undeclared he).1 hb).1
        exact ⟨hmem, hall d (by simp) b hmem⟩
      obtain ⟨G, m, hG, hsame⟩ := ensureBindings_of_isFixed hQ h target hd he hfixed
      obtain ⟨H, n, hH, hsame'⟩ := ih (hsame.isReadyFor h)
        (fun x hx => by
          obtain ⟨hb, hx⟩ := hel x (by simp [hx])
          exact ⟨(below_iff_of_sameButDeclarations hsame).2 hb, (hsame.isElement_eq x).trans hx⟩)
        (fun x hx => hsame.isStable_iff.2 (hall x (by simp [hx])))
      refine ⟨H, m + n, ?_, hsame.trans hsame'⟩
      rw [ensureElements, hG]
      simp only [hH]
      rfl

/-- **Completion a second time.**  Where every element uses each prefix for one namespace, completion
from an element that no element stands around succeeds, and once more; the second time it changes no
node, whatever the attributes declare. -/
theorem ensureDeclared_again {F : Forest} {root : NodeId} {target : Option NodeId}
    (hF : F.IsTreeBelow root) (hr : F.IsTop root)
    (hp : ∀ d f, F.Below root d → F.frame? d = some f → f.IsProper)
    (ho : (F.owner? root).isSome = true) (hw : F.isReadOnly root = false)
    (hc : ∀ d f, F.Below root d → F.frame? d = some f → f.IsConsistent)
    (ht : target = none ∨ target = some root) :
    ∃ G H m n, F.ensureDeclared root target true = (G, .ok m) ∧
      G.ensureDeclared root target true = (H, .ok n) ∧ G.SameNodes H := by
  have h : F.IsReadyFor Frame.IsCompletable root := ⟨hF, hr,
    fun {d f} hd hf => ⟨Frame.isNamed_of_isProper (hp d f hd hf), hc d f hd hf⟩,
    fun hd he => writable_of_below hF hr hw ho hd he⟩
  have hstart : F.IsVisited root [] := by simp [IsVisited]
  obtain ⟨G, m, hG, hready, hsame, hall⟩ := ensureElements_fixes
    Frame.isConsistentKind_isCompletable h ht hstart (by simp) (parentsFirst_elementsFrom hF hr)
    fun d hd => (mem_elementsFrom_iff hF hr).1 hd
  have hmem : ∀ d ∈ G.elementsFrom root, G.Below root d ∧ G.isElement d = true :=
    fun d hd => (mem_elementsFrom_iff hready.tree hready.top).1 hd
  obtain ⟨H, n, hH, hagain⟩ := ensureElements_of_isStable
    Frame.isConsistentKind_isCompletable.toIsKind hready target hmem
    fun d hd => hall d (hsame.elementsFrom_eq root ▸ hd)
  exact ⟨G, H, m, n, hG, hH, hagain⟩

end Forest

/-- The text that is last in a list of bindings for a prefix, if one is there. -/
def Binding.lastText (p : Text) (bindings : List Binding) (before : Text) : Text :=
  bindings.foldl (fun text b => if b.nsPrefix = some p then b.uriText else text) before

/-- It is another text if all texts for the prefix are other ones and there is one at all. -/
theorem Binding.lastText_ne {p : Text} {bindings : List Binding} {old before : Text}
    (hne : ∀ b ∈ bindings, b.nsPrefix = some p → b.uriText ≠ old)
    (hsome : before ≠ old ∨ ∃ b ∈ bindings, b.nsPrefix = some p) :
    lastText p bindings before ≠ old := by
  induction bindings generalizing before with
  | nil => exact hsome.resolve_right (by simp)
  | cons b bindings ih =>
      refine ih (fun c hc => hne c (by simp [hc])) ?_
      dsimp only
      by_cases hb : b.nsPrefix = some p
      · rw [if_pos hb]
        exact Or.inl (hne b (by simp) hb)
      · rw [if_neg hb]
        refine hsome.imp_right fun ⟨c, hc, hcp⟩ => ⟨c, ?_, hcp⟩
        exact (List.mem_cons.1 hc).resolve_left fun he => hb (he ▸ hcp)

/-- A name with a prefix lies in a namespace. -/
theorem QName.IsMade.exists_namespaceUri {q : QName} (h : q.IsMade) {p : Text}
    (hp : q.nsPrefix = some p) : ∃ u, q.namespaceUri = some u := by
  obtain ⟨-, -, -, hm⟩ := h.parts hp
  cases hu : q.namespaceUri with
  | none =>
      rw [hu] at hm
      cases hm
  | some u => exact ⟨u, rfl⟩

namespace Frame

/-- A prefix that an element uses stands in a name that the rules of namespaces have made. -/
theorem IsProper.exists_isMade {f : Frame} (hf : f.IsProper) {b : Binding} (hb : b ∈ f.bindings)
    {p : Text} (hp : b.nsPrefix = some p) : ∃ q : QName, q.IsMade ∧ b = q.binding := by
  obtain ⟨q, hq, rfl⟩ : ∃ q : QName, q.IsProper ∧ b = q.binding := by
    rcases mem_bindings_iff.1 hb with rfl | ⟨a, ha, -, rfl⟩
    · exact ⟨f.name, hf.1, rfl⟩
    · exact ⟨a.name, hf.2 a ha, rfl⟩
  rcases hq with hq | ⟨name, rfl⟩
  · exact ⟨q, hq, rfl⟩
  · cases hp

/-- An element uses a prefix for two namespaces if it does not use each prefix for one. -/
theorem IsProper.exists_clash {f : Frame} (hf : f.IsProper) (h : ¬ f.IsConsistent) :
    ∃ p, p ≠ xmlPrefix ∧ p ≠ xmlnsPrefix ∧ ∃ b ∈ f.bindings, ∃ b' ∈ f.bindings,
      b.nsPrefix = some p ∧ b'.nsPrefix = some p ∧ b.uriText ≠ b'.uriText := by
  simp only [IsConsistent, not_forall] at h
  obtain ⟨b, hb, b', hb', hp, hne⟩ := h
  cases hbp : b.nsPrefix with
  | none =>
      -- without a prefix there is the name of the element only
      have honly : ∀ c ∈ f.bindings, c.nsPrefix = none → c = f.name.binding := by
        intro c hc hcp
        rcases mem_bindings_iff.1 hc with hname | ⟨a, -, ⟨-, hs⟩, rfl⟩
        · exact hname
        · rw [show a.name.nsPrefix = none from hcp] at hs
          cases hs
      rw [honly b hb hbp, honly b' hb' (hp ▸ hbp)] at hne
      exact absurd rfl hne
  | some p =>
      have hbp' : b'.nsPrefix = some p := hp ▸ hbp
      obtain ⟨q, hq, rfl⟩ := hf.exists_isMade hb hbp
      obtain ⟨q', hq', rfl⟩ := hf.exists_isMade hb' hbp'
      refine ⟨p, ?_, ?_, _, hb, _, hb', hbp, hbp', fun hu => hne ?_⟩
      · rintro rfl
        exact hne ((hq.namespaceUri_of_nsPrefix hbp (Or.inl ⟨rfl, rfl⟩)).trans
          (hq'.namespaceUri_of_nsPrefix hbp' (Or.inl ⟨rfl, rfl⟩)).symm)
      · rintro rfl
        exact hne ((hq.namespaceUri_of_nsPrefix hbp (Or.inr ⟨rfl, rfl⟩)).trans
          (hq'.namespaceUri_of_nsPrefix hbp' (Or.inr ⟨rfl, rfl⟩)).symm)
      · obtain ⟨u, hqu⟩ := hq.exists_namespaceUri hbp
        obtain ⟨u', hqu'⟩ := hq'.exists_namespaceUri hbp'
        simp only [Binding.uriText, QName.binding, hqu, hqu', Option.getD_some] at hu ⊢
        rw [hu]

end Frame

namespace Forest

/-- The element uses the prefix for two namespaces. -/
def Clashes (F : Forest) (d : NodeId) (p : Text) : Prop :=
  ∃ b ∈ F.bindingsAt d, ∃ b' ∈ F.bindingsAt d,
    b.nsPrefix = some p ∧ b'.nsPrefix = some p ∧ b.uriText ≠ b'.uriText

variable {Q : Frame → Prop} {F G : Forest} {root d x : NodeId} {p u : Text}

/-- What an element declares itself is what counts there. -/
theorem declaration?_scope_of_declarationOn (he : F.isElement d = true) {q : Option Text}
    (h : F.declarationOn d q = some u) : (F.scope d).declaration? q = some u := by
  rw [declaration?_scope, elementLineage_eq_cons_around he, List.findSome?_cons, h]

theorem declares_iff_of_declaration? {s : Scope} {b : Binding} (hb : b.isImplicit = false)
    (h : s.declaration? b.nsPrefix = some u) : s.declares b = true ↔ u = b.uriText := by
  rw [Scope.declares, hb, h]
  simp

theorem declaration?_eq_of_declares {s : Scope} {b : Binding} (hb : b.isImplicit = false)
    (hp : b.nsPrefix = some p) (h : s.declares b = true) : s.declaration? (some p) = some b.uriText := by
  obtain ⟨u, hu⟩ := exists_declaration?_of_declares hb (by simp [hp]) h
  rw [← hp, hu, (declares_iff_of_declaration? hb hu).1 h]

/-! ### What a walk keeps -/

/-- Completion keeps what it relies on, whatever becomes of it. -/
structure Continues (F : Forest) (Q : Frame → Prop) (root : NodeId) (G : Forest) : Prop where
  /-- Completion can go on. -/
  ready : G.IsReadyFor Q root
  /-- Nothing but declarations has changed. -/
  same : F.SameButDeclarations G fun _ => True
  /-- The elements rely on what they relied on. -/
  bindings : ∀ id, G.bindingsAt id = F.bindingsAt id

theorem Continues.refl (h : F.IsReadyFor Q root) : F.Continues Q root F :=
  ⟨h, .refl F _, fun _ => rfl⟩

theorem Continues.withDeclaration (hQ : Frame.IsKind Q) (h : F.Continues Q root G)
    (target : NodeId) {b : Binding} (hb : b.isImplicit = false) :
    F.Continues Q root (G.withDeclaration target b) where
  ready := h.ready.withDeclaration hQ hb
  same := h.same.trans ((sameButDeclarations_withDeclaration G target b).mono fun _ _ => trivial)
  bindings id := (bindingsAt_withDeclaration G target b id).trans (h.bindings id)

theorem Continues.declare (hQ : Frame.IsKind Q) {G H : Forest} {target : NodeId} {b : Binding}
    (h : F.Continues Q root G) (hH : G.declare target b = .ok H) : F.Continues Q root H := by
  rcases declare_eq_ok_cases hH with rfl | ⟨himp, -, rfl⟩
  · exact h
  · exact h.withDeclaration hQ target himp

theorem continues_ensureBindings (hQ : Frame.IsKind Q) (h : F.IsReadyFor Q root)
    {target : Option NodeId} {bindings : List Binding} {n : Nat}
    (hrun : F.ensureBindings target x bindings = (G, .ok n)) : F.Continues Q root G := by
  have hkeeps := ensureBindings_invariant (Continues.declare hQ) target x bindings (.refl h)
  rwa [hrun] at hkeeps

theorem continues_ensureElements (hQ : Frame.IsKind Q) (h : F.IsReadyFor Q root)
    {target : Option NodeId} {elements : List NodeId} {n : Nat}
    (hrun : F.ensureElements target elements = (G, .ok n)) : F.Continues Q root G := by
  have hkeeps := ensureElements_invariant (Continues.declare hQ) target elements (.refl h)
  rwa [hrun] at hkeeps

section Continues

variable (hG : F.Continues Q root G)
include hG

theorem Continues.below (hd : F.Below root d) : G.Below root d :=
  (below_iff_of_sameButDeclarations hG.same).2 hd

theorem Continues.isElement (he : F.isElement d = true) : G.isElement d = true :=
  (hG.same.isElement_eq d).trans he

theorem Continues.clashes (hc : F.Clashes d p) : G.Clashes d p := by
  rw [Clashes, hG.bindings]
  exact hc

/-- The elements that are still to be visited can be visited. -/
theorem Continues.forall_mem {elements : List NodeId}
    (hel : ∀ x ∈ elements, F.Below root x ∧ F.isElement x = true) :
    ∀ x ∈ elements, G.Below root x ∧ G.isElement x = true :=
  fun x hx => (hel x hx).imp hG.below hG.isElement

end Continues

/-! ### One declaration -/

section Step

variable (hQ : Frame.IsKind Q) (h : F.IsReadyFor Q root) {target : Option NodeId}
  (ht : target = none ∨ target = some root) (hx : F.Below root x) (he : F.isElement x = true)
  {c : Binding}
include h ht hx he

/-- An element that declares the prefix itself gets the declaration that it lacks. -/
theorem placeOf_eq_self (hc : F.declarationOn x c.nsPrefix = some u) : F.placeOf target x c = x := by
  refine (placeOf_cases h ht hx he c).resolve_right fun ⟨_, _, hnone⟩ => ?_
  have hself := hnone x (by rw [elementLineage_eq_cons_around he]; simp)
  rw [hc] at hself
  cases hself

/-- Declarations are placed on elements of the tree. -/
theorem below_placeOf : F.Below root (F.placeOf target x c) ∧
    F.isElement (F.placeOf target x c) = true := by
  rcases placeOf_cases h ht hx he c with hpx | ⟨hpr, -⟩
  · rw [hpx]
    exact ⟨hx, he⟩
  · rw [hpr]
    exact ⟨.refl, h.top.isElement⟩

include hQ

/-- What a declaration that is placed for an element changes. -/
theorem declarationOn_placed (hc : c.isImplicit = false) (id : NodeId) (hp : p ≠ xmlnsPrefix) :
    (F.withDeclaration (F.placeOf target x c) c).declarationOn id (some p) =
      if F.placeOf target x c = id ∧ some p = c.nsPrefix then some c.uriText
      else F.declarationOn id (some p) := by
  obtain ⟨hb, hbe⟩ := below_placeOf h ht hx he (c := c)
  refine declarationOn_withDeclaration hQ h hb hbe hc id (by simpa using hp) ?_
  by_cases hn : some p = c.nsPrefix
  · exact Or.inl (by rw [← hn]; rfl)
  · exact Or.inr hn

/-- Another element keeps the declaration that it has. -/
theorem declarationOn_placed_of_ne (hc : c.isImplicit = false) (hp : p ≠ xmlnsPrefix)
    (hne : x ≠ d) (hd : F.declarationOn d (some p) = some u) :
    (F.withDeclaration (F.placeOf target x c) c).declarationOn d (some p) = some u := by
  rw [declarationOn_placed hQ h ht hx he hc d hp, if_neg, hd]
  rintro ⟨hplace, hcp⟩
  -- the top is chosen only if it does not declare the prefix
  rcases placeOf_cases h ht hx he c with hpx | ⟨hpr, -, hnone⟩
  · exact hne (hpx.symm.trans hplace)
  · obtain ⟨path, hpath, -⟩ := elementLineage_eq_append_root h.tree h.top hx he
    have hroot := hnone root (by simp [hpath])
    rw [← hpr, hplace, ← hcp, hd] at hroot
    cases hroot

end Step

/-! ### One element -/

section Element

variable (hQ : Frame.IsKind Q) {target : Option NodeId}
  (ht : target = none ∨ target = some root) (hp : p ≠ xmlnsPrefix) {bindings : List Binding} {n : Nat}
include hQ ht hp

/-- Visiting an element leaves the others the declarations that they have. -/
theorem declarationOn_ensureBindings_of_ne (h : F.IsReadyFor Q root) (hx : F.Below root x)
    (he : F.isElement x = true) (hne : x ≠ d) (hd : F.declarationOn d (some p) = some u)
    (hrun : F.ensureBindings target x bindings = (G, .ok n)) :
    G.declarationOn d (some p) = some u := by
  induction bindings generalizing F n with
  | nil =>
      obtain ⟨rfl, -⟩ := Prod.mk.inj hrun
      exact hd
  | cons c bindings ih =>
      rcases ensureBindings_cons_cases hrun with ⟨-, hrun⟩ | ⟨himp, -, m, hrun⟩
      · exact ih h hx he hd hrun
      · have hcont := (Continues.refl h).withDeclaration hQ (F.placeOf target x c) himp
        exact ih hcont.ready (hcont.below hx) (hcont.isElement he)
          (declarationOn_placed_of_ne hQ h ht hx he himp hp hne hd) hrun

/-- An element that declares a prefix declares in the end what is last in the list for it. -/
theorem declarationOn_ensureBindings_self (h : F.IsReadyFor Q root) (hd : F.Below root d)
    (he : F.isElement d = true) (hu : F.declarationOn d (some p) = some u)
    (himp : ∀ b ∈ bindings, b.nsPrefix = some p → b.isImplicit = false)
    (hrun : F.ensureBindings target d bindings = (G, .ok n)) :
    G.declarationOn d (some p) = some (Binding.lastText p bindings u) := by
  induction bindings generalizing F u n with
  | nil =>
      obtain ⟨rfl, -⟩ := Prod.mk.inj hrun
      exact hu
  | cons c bindings ih =>
      have himp' : ∀ b ∈ bindings, b.nsPrefix = some p → b.isImplicit = false :=
        fun b hb => himp b (by simp [hb])
      rw [Binding.lastText, List.foldl_cons]
      rcases ensureBindings_cons_cases hrun with ⟨hdecl, hrun⟩ | ⟨hci, -, m, hrun⟩
      · refine ih h hd he ?_ himp' hrun
        split
        · rename_i hc
          have hscope : (F.scope d).declaration? c.nsPrefix = some u :=
            declaration?_scope_of_declarationOn he (hc ▸ hu)
          rw [hu, (declares_iff_of_declaration? (himp c (by simp) hc) hscope).1 hdecl]
        · exact hu
      · have hcont := (Continues.refl h).withDeclaration hQ (F.placeOf target d c) hci
        refine ih hcont.ready (hcont.below hd) (hcont.isElement he) ?_ himp' hrun
        rw [declarationOn_placed hQ h ht hd he hci d hp]
        by_cases hc : c.nsPrefix = some p
        · rw [if_pos ⟨placeOf_eq_self h ht hd he (hc ▸ hu), hc.symm⟩, if_pos hc]
        · rw [if_neg fun hcon => hc hcon.2.symm, if_neg hc, hu]

/-- As long as an element does not declare a prefix itself, all that is declared for it stays
declared, and what is missing is declared. -/
theorem declares_ensureBindings (h : F.IsReadyFor Q root) (hd : F.Below root d)
    (he : F.isElement d = true)
    (himp : ∀ b ∈ bindings, b.nsPrefix = some p → b.isImplicit = false)
    (hrun : F.ensureBindings target d bindings = (G, .ok n))
    (hnone : G.declarationOn d (some p) = none) {b : Binding} (hb : b.nsPrefix = some p)
    (hbi : b.isImplicit = false) (hor : b ∈ bindings ∨ (F.scope d).declares b = true) :
    (G.scope d).declares b = true := by
  induction bindings generalizing F n with
  | nil =>
      obtain ⟨rfl, -⟩ := Prod.mk.inj hrun
      exact hor.resolve_left (by simp)
  | cons c bindings ih =>
      have himp' : ∀ b ∈ bindings, b.nsPrefix = some p → b.isImplicit = false :=
        fun b hb => himp b (by simp [hb])
      rcases ensureBindings_cons_cases hrun with ⟨hdecl, hrun⟩ | ⟨hci, hmiss, m, hrun⟩
      · refine ih h hd he himp' hrun ?_
        rcases hor with hm | hm
        · rcases List.mem_cons.1 hm with rfl | hm
          · exact Or.inr hdecl
          · exact Or.inl hm
        · exact Or.inr hm
      · have hcont := (Continues.refl h).withDeclaration hQ (F.placeOf target d c) hci
        refine ih hcont.ready (hcont.below hd) (hcont.isElement he) himp' hrun ?_
        by_cases hc : c.nsPrefix = some p
        · -- the declaration stands on the top, and nothing has been declared before
          rcases placeOf_cases h ht hd he c with hpd | ⟨hpr, hs, hlineage⟩
          · have hself := declarationOn_placed hQ h ht hd he hci d hp
            rw [if_pos ⟨hpd, hc.symm⟩] at hself
            have hlast := declarationOn_ensureBindings_self hQ ht hp hcont.ready (hcont.below hd)
              (hcont.isElement he) hself himp' hrun
            rw [hnone] at hlast
            cases hlast
          · have hnot : (F.scope d).declaration? c.nsPrefix = none := by
              rw [declaration?_scope, List.findSome?_eq_none_iff.2 hlineage]
            obtain ⟨path, hpath, -⟩ := elementLineage_eq_append_root h.tree h.top hd he
            rcases hor with hm | hm
            · rcases List.mem_cons.1 hm with rfl | hm
              · refine Or.inr (declares_of_declaration? ?_)
                rw [hpr, declaration?_scope_root hQ h hci hs (hlineage root (by simp [hpath])) hd he,
                  hnot, Option.none_or]
              · exact Or.inl hm
            · rw [hc, declaration?_eq_of_declares hbi hb hm] at hnot
              cases hnot
        · obtain ⟨hpb, hpe⟩ := below_placeOf h ht hd he (c := c)
          rcases hor with hm | hm
          · exact Or.inl ((List.mem_cons.1 hm).resolve_left fun hbc => hc (hbc ▸ hb))
          · refine Or.inr ?_
            rwa [declares_congr (declaration?_scope_of_ne hQ h hpb hpe hci d
              (Binding.ne_xmlnsPrefix hbi) (fun hbc => hc (hbc ▸ hb)))]

/-- An element that uses a prefix for two namespaces has a declaration of it when it has been
visited. -/
theorem exists_declarationOn_visit (h : F.IsReadyFor Q root) (hd : F.Below root d)
    (he : F.isElement d = true) (hxml : p ≠ xmlPrefix) (hc : F.Clashes d p)
    (hrun : F.ensureBindings target d (F.scope d).undeclared = (G, .ok n)) :
    ∃ u, G.declarationOn d (some p) = some u := by
  refine Option.ne_none_iff_exists'.1 fun hnone => ?_
  have himp : ∀ b : Binding, b.nsPrefix = some p → b.isImplicit = false := fun b hb => by
    simp [Binding.isImplicit, hb, hxml, hp]
  have hall : ∀ b ∈ F.bindingsAt d, b.nsPrefix = some p →
      (G.scope d).declaration? (some p) = some b.uriText := by
    intro b hb hbp
    refine declaration?_eq_of_declares (himp b hbp) hbp ?_
    refine declares_ensureBindings hQ ht hp h hd he (fun b _ => himp b) hrun hnone hbp (himp b hbp) ?_
    by_cases hdecl : (F.scope d).declares b = true
    · exact Or.inr hdecl
    · exact Or.inl ((mem_undeclared he).2 ⟨hb, Bool.eq_false_iff.2 hdecl⟩)
  obtain ⟨b, hb, b', hb', hbp, hbp', hne⟩ := hc
  exact hne (Option.some.inj ((hall b hb hbp).symm.trans (hall b' hb' hbp')))

/-- If it has one before, it has another one then. -/
theorem exists_ne_visit (h : F.IsReadyFor Q root) (hd : F.Below root d)
    (he : F.isElement d = true) (hxml : p ≠ xmlPrefix) (hc : F.Clashes d p)
    (hu : F.declarationOn d (some p) = some u)
    (hrun : F.ensureBindings target d (F.scope d).undeclared = (G, .ok n)) :
    ∃ v, G.declarationOn d (some p) = some v ∧ v ≠ u := by
  have himp : ∀ b : Binding, b.nsPrefix = some p → b.isImplicit = false := fun b hb => by
    simp [Binding.isImplicit, hb, hxml, hp]
  have hdecl : ∀ b : Binding, b.nsPrefix = some p →
      ((F.scope d).declares b = true ↔ u = b.uriText) := fun b hbp =>
    declares_iff_of_declaration? (himp b hbp) (declaration?_scope_of_declarationOn he (hbp ▸ hu))
  refine ⟨_, declarationOn_ensureBindings_self hQ ht hp h hd he hu (fun b _ => himp b) hrun,
    Binding.lastText_ne (fun b hb hbp heq => ?_) (Or.inr ?_)⟩
  · have hmiss := ((mem_undeclared he).1 hb).2
    rw [(hdecl b hbp).2 heq.symm] at hmiss
    cases hmiss
  · obtain ⟨b, hb, b', hb', hbp, hbp', hne⟩ := hc
    have hmissing : ∀ c ∈ F.bindingsAt d, c.nsPrefix = some p → u ≠ c.uriText →
        ∃ c ∈ (F.scope d).undeclared, c.nsPrefix = some p := fun c hc hcp hcu =>
      ⟨c, (mem_undeclared he).2 ⟨hc, Bool.eq_false_iff.2 fun hd => hcu ((hdecl c hcp).1 hd)⟩, hcp⟩
    by_cases hbu : u = b.uriText
    · exact hmissing b' hb' hbp' fun hbu' => hne (hbu.symm.trans hbu')
    · exact hmissing b hb hbp hbu

end Element

/-! ### All elements -/

section Elements

variable (hQ : Frame.IsKind Q) {target : Option NodeId}
  (ht : target = none ∨ target = some root) (hp : p ≠ xmlnsPrefix) {elements : List NodeId} {n : Nat}
include hQ ht hp

/-- A walk leaves an element that it does not visit the declarations that it has. -/
theorem declarationOn_ensureElements_of_not_mem (h : F.IsReadyFor Q root)
    (hel : ∀ x ∈ elements, F.Below root x ∧ F.isElement x = true) (hnot : d ∉ elements)
    (hu : F.declarationOn d (some p) = some u)
    (hrun : F.ensureElements target elements = (G, .ok n)) :
    G.declarationOn d (some p) = some u := by
  induction elements generalizing F n with
  | nil =>
      obtain ⟨rfl, -⟩ := Prod.mk.inj hrun
      exact hu
  | cons x elements ih =>
      obtain ⟨H, k, m, hH, hrun⟩ := ensureElements_cons_ok hrun
      obtain ⟨⟨hx, hxe⟩, hel⟩ := List.forall_mem_cons.1 hel
      have hcont := continues_ensureBindings hQ h hH
      have hne : x ≠ d := (List.ne_of_not_mem_cons hnot).symm
      exact ih hcont.ready (hcont.forall_mem hel) (List.not_mem_of_not_mem_cons hnot)
        (declarationOn_ensureBindings_of_ne hQ ht hp h hx hxe hne hu hH) hrun

variable (hxml : p ≠ xmlPrefix)
include hxml

/-- After a walk that visits it, an element that uses a prefix for two namespaces has a declaration
of it. -/
theorem exists_declarationOn_ensureElements (h : F.IsReadyFor Q root)
    (hel : ∀ x ∈ elements, F.Below root x ∧ F.isElement x = true) (hc : F.Clashes d p)
    (hor : (∃ u, F.declarationOn d (some p) = some u) ∨ d ∈ elements)
    (hrun : F.ensureElements target elements = (G, .ok n)) :
    ∃ u, G.declarationOn d (some p) = some u := by
  induction elements generalizing F n with
  | nil =>
      obtain ⟨rfl, -⟩ := Prod.mk.inj hrun
      exact hor.resolve_right (by simp)
  | cons x elements ih =>
      obtain ⟨H, k, m, hH, hrun⟩ := ensureElements_cons_ok hrun
      obtain ⟨⟨hx, hxe⟩, hel⟩ := List.forall_mem_cons.1 hel
      have hcont := continues_ensureBindings hQ h hH
      refine ih hcont.ready (hcont.forall_mem hel) (hcont.clashes hc) ?_ hrun
      by_cases hxd : x = d
      · subst hxd
        exact Or.inl (exists_declarationOn_visit hQ ht hp h hx hxe hxml hc hH)
      · rcases hor with ⟨u, hu⟩ | hm
        · exact Or.inl ⟨u, declarationOn_ensureBindings_of_ne hQ ht hp h hx hxe hxd hu hH⟩
        · exact Or.inr ((List.mem_cons.1 hm).resolve_left fun hdx => hxd hdx.symm)

/-- If it has one before a walk that visits it once, it has another one then. -/
theorem exists_ne_ensureElements (h : F.IsReadyFor Q root)
    (hel : ∀ x ∈ elements, F.Below root x ∧ F.isElement x = true) (hc : F.Clashes d p)
    (hnodup : elements.Nodup) (hm : d ∈ elements) (hu : F.declarationOn d (some p) = some u)
    (hrun : F.ensureElements target elements = (G, .ok n)) :
    ∃ v, G.declarationOn d (some p) = some v ∧ v ≠ u := by
  induction elements generalizing F n with
  | nil => cases hm
  | cons x elements ih =>
      obtain ⟨H, k, m, hH, hrun⟩ := ensureElements_cons_ok hrun
      obtain ⟨⟨hx, hxe⟩, hel⟩ := List.forall_mem_cons.1 hel
      obtain ⟨hnot, hnodup⟩ := List.nodup_cons.1 hnodup
      have hcont := continues_ensureBindings hQ h hH
      have hel' := hcont.forall_mem hel
      by_cases hxd : x = d
      · subst hxd
        obtain ⟨v, hv, hne⟩ := exists_ne_visit hQ ht hp h hx hxe hxml hc hu hH
        exact ⟨v, declarationOn_ensureElements_of_not_mem hQ ht hp hcont.ready hel' hnot hv hrun, hne⟩
      · exact ih hcont.ready hel' (hcont.clashes hc) hnodup
          ((List.mem_cons.1 hm).resolve_left fun hdx => hxd hdx.symm)
          (declarationOn_ensureBindings_of_ne hQ ht hp h hx hxe hxd hu hH) hrun

end Elements

/-! ### Completion a second time -/

/-- **When completion comes to rest.**  After a completion from an element that no element stands
around, a second one leaves all nodes as they are exactly if every element uses each prefix for one
namespace. -/
theorem ensureDeclared_again_iff (hF : F.IsWellLinked) (hr : F.IsTop root)
    (hp : ∀ d f, F.Below root d → F.frame? d = some f → f.IsProper)
    (ho : (F.owner? root).isSome = true) (hw : F.isReadOnly root = false) {target : Option NodeId}
    (ht : target = none ∨ target = some root) {n : Nat}
    (hG : F.ensureDeclared root target true = (G, .ok n)) :
    (∃ H m, G.ensureDeclared root target true = (H, .ok m) ∧ G.SameNodes H) ↔
      ∀ d f, F.Below root d → F.frame? d = some f → f.IsConsistent := by
  constructor
  · rintro ⟨H, m, hH, hsame⟩ d f hd hf
    refine Decidable.byContradiction fun hnot => ?_
    obtain ⟨p, hxml, hxmlns, hclash⟩ := (hp d f hd hf).exists_clash hnot
    have hQ := Frame.isKind_isNamed
    have h : F.IsReadyFor Frame.IsNamed root := ⟨hF.isTreeBelow root, hr,
      fun {d f} hd hf => Frame.isNamed_of_isProper (hp d f hd hf),
      fun hd he => writable_of_below (hF.isTreeBelow root) hr hw ho hd he⟩
    have hcont := continues_ensureElements hQ h hG
    have hclashes : F.Clashes d p := by
      rw [Clashes, bindingsAt, hf]
      exact hclash
    have hmem : d ∈ F.elementsFrom root := hF.mem_elementsFrom_iff.2 ⟨hd, isElement_of_frame? hf⟩
    have hel : ∀ x ∈ F.elementsFrom root, F.Below root x ∧ F.isElement x = true :=
      fun _ hx => hF.mem_elementsFrom_iff.1 hx
    obtain ⟨u, hu⟩ := exists_declarationOn_ensureElements hQ ht hxmlns hxml h hel hclashes
      (Or.inr hmem) hG
    have helements := hcont.same.elementsFrom_eq root
    obtain ⟨v, hv, hne⟩ := exists_ne_ensureElements hQ ht hxmlns hxml hcont.ready
      (helements ▸ hcont.forall_mem hel) (hcont.clashes hclashes)
      (helements ▸ hF.nodup_elementsFrom root) (helements ▸ hmem) hu hH
    rw [declarationOn, hsame.frame?_eq, ← declarationOn, hu] at hv
    exact hne (Option.some.inj hv).symm
  · intro hc
    obtain ⟨G', H, m, k, hG', hH, hsame⟩ := ensureDeclared_again (hF.isTreeBelow root) hr hp ho hw hc ht
    obtain ⟨rfl, -⟩ := Prod.mk.inj (hG.symm.trans hG')
    exact ⟨H, k, hH, hsame⟩

end Forest

end XmlScribe
