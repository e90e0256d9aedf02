/-
**Every prefix declared once, on the top.**

A tree in which no prefix is declared, and in which every prefix is used for one namespace, is
completed from its top.  Each element that lacks the declaration of a prefix finds either that the
top has it already, or that nothing keeps it from being placed there.  So the top gets one
declaration for each prefix in use, wherever and however often the prefix is used, and no other
element gets any.  The default namespace is declared in place, and there at most once.

Main definitions:

* `Binding.hasPrefix`, `Binding.declaration` — a prefix that has to be declared, and the attribute
  that declares it;
* `Forest.prefixBindings` — the prefixes in use below an element, with their namespaces;
* `Forest.prefixDeclarationsAt` — the declarations of prefixes on an element;
* `Forest.Hoists` — what completion has declared on the top, and where it has changed a default
  namespace.

Main results:

* `Forest.Hoists.declares_iff` — a prefix is declared exactly if the top declares it;
* `Forest.Hoists.declare`, `Forest.Hoists.ensureElements` — one declaration, and the whole walk;
* `Forest.ensureDeclared_hoisted` — what is declared afterwards, and what has been counted.
-/

import Mathlib.Data.List.Dedup
import XmlScribe.Proofs.Forest.Linked
import XmlScribe.Proofs.Layout.AttributeClasses
import XmlScribe.Proofs.Namespace.Part

set_option autoImplicit false

namespace XmlScribe

namespace Binding

/-- The binding is that of a prefix, and of one that has to be declared. -/
def hasPrefix (b : Binding) : Bool :=
  b.nsPrefix.isSome && !b.isImplicit

/-- The attribute that declares the prefix of the binding. -/
def declaration (b : Binding) : Attribute :=
  ⟨b.declaredName, b.uriText⟩

theorem hasPrefix_iff {b : Binding} :
    b.hasPrefix = true ↔ (∃ p, b.nsPrefix = some p) ∧ b.isImplicit = false := by
  simp [hasPrefix, Option.isSome_iff_exists]

theorem isPrefixDeclaration_declaration (b : Binding) :
    b.declaration.isPrefixDeclaration = b.nsPrefix.isSome := by
  obtain ⟨_ | p, u⟩ := b <;>
    simp [declaration, declaredName, Attribute.isPrefixDeclaration, Attribute.isDeclaration]

end Binding

theorem Attribute.isPrefixDeclaration_of_declaredPrefix? {a : Attribute} {p : Text}
    (h : a.declaredPrefix? = some (some p)) : a.isPrefixDeclaration = true := by
  rw [declaredPrefix?] at h
  split at h
  · split at h
    · simp_all [isPrefixDeclaration]
    · cases h
  · cases h

namespace Frame

/-- The declarations of prefixes on the element. -/
def prefixDeclarations (f : Frame) : List Attribute :=
  f.attributes.filter Attribute.isPrefixDeclaration

/-- Only the declarations of prefixes say what a prefix means. -/
theorem declaration?_some (f : Frame) (p : Text) :
    f.declaration? (some p) =
      (f.prefixDeclarations.find? (·.declaredPrefix? == some (some p))).map Attribute.value := by
  rw [declaration?, prefixDeclarations, List.find?_filter]
  congr 2
  funext a
  cases hd : a.declaredPrefix? == some (some p) with
  | false => simp
  | true => simp [Attribute.isPrefixDeclaration_of_declaredPrefix? (beq_iff_eq.1 hd)]

/-- A declaration of the default namespace leaves the declarations of prefixes alone. -/
theorem prefixDeclarations_withDeclaration_default {f : Frame} (hf : f.IsDeclarable) {b : Binding}
    (hb : b.nsPrefix = none) :
    (f.withDeclaration b).prefixDeclarations = f.prefixDeclarations := by
  obtain ⟨_, u⟩ := b
  obtain rfl := hb
  have hnew := Binding.isPrefixDeclaration_declaration ⟨none, u⟩
  simp only [prefixDeclarations, withDeclaration, Attribute.setExpanded]
  rcases Attribute.put_cases _ _ _ f.attributes with ⟨-, hput⟩ | ⟨before, a, after, hl, hsame, hput⟩
  · rw [hput, List.filter_append, List.filter_singleton]
    simp only [Binding.declaration] at hnew
    simp [hnew]
  · -- what is overwritten is the declaration of the default namespace
    have hname : a.name.nsPrefix ≠ some xmlnsPrefix := by
      simp only [Attribute.hasExpandedName, Binding.declaredName, Bool.and_eq_true,
        beq_iff_eq] at hsame
      rcases hf.declarations a (by simp [hl]) (by simp [Attribute.isDeclaration, hsame.1]) with
        hn | ⟨p, hn, hp⟩
      · simp [hn]
      · rw [hn] at hsame
        exact absurd hsame.2 hp
    rw [hput, hl]
    simp [Attribute.isPrefixDeclaration, hname]

/-- A declaration of a prefix that the element does not declare is added after the others. -/
theorem prefixDeclarations_withDeclaration {f : Frame} (hf : f.IsDeclarable) {b : Binding}
    (hb : b.hasPrefix = true) (hnone : f.declaration? b.nsPrefix = none) :
    (f.withDeclaration b).prefixDeclarations = f.prefixDeclarations ++ [b.declaration] := by
  obtain ⟨⟨p, hp⟩, himp⟩ := Binding.hasPrefix_iff.1 hb
  have hnew := Binding.isPrefixDeclaration_declaration b
  rw [hp, Option.isSome_some] at hnew
  simp only [prefixDeclarations, withDeclaration, Attribute.setExpanded]
  rcases Attribute.put_cases _ _ _ f.attributes with ⟨-, hput⟩ | ⟨before, a, after, hl, hsame, hput⟩
  · rw [hput, List.filter_append]
    exact congrArg (f.attributes.filter Attribute.isPrefixDeclaration ++ ·)
      (List.filter_cons_of_pos hnew)
  · have hmem : a ∈ f.attributes := by simp [hl]
    rw [Attribute.hasExpandedName_declaredName (hf.declarations a hmem) himp] at hsame
    rw [declaration?, Option.map_eq_none_iff, List.find?_eq_none] at hnone
    exact absurd hsame (hnone a hmem)

theorem isKind_isDeclarable : IsKind IsDeclarable where
  named h := ⟨fun a ha => (h.declarations a ha).isWellNamed, h.declarable⟩
  withDeclaration h hb := h.withDeclaration hb

/-- Only the name of an element relies on the default namespace. -/
theorem eq_binding_of_mem {f : Frame} {b : Binding} (hb : b ∈ f.bindings)
    (hn : b.nsPrefix = none) : b = f.name.binding := by
  rcases mem_bindings_iff.1 hb with rfl | ⟨a, -, ⟨-, hs⟩, rfl⟩
  · rfl
  · rw [show a.name.nsPrefix = none from hn] at hs
    cases hs

/-- Where no prefix is declared, declarations work. -/
theorem isDeclarable_of_isProper_of_none {f : Frame} (h : f.IsProper)
    (hnone : f.prefixDeclarations = []) : f.IsDeclarable where
  declarations a ha hd := by
    have hnot : ¬ a.isPrefixDeclaration = true := List.filter_eq_nil_iff.1 hnone a ha
    refine ((isNamed_of_isProper h).wellNamed a ha hd).imp_right fun ⟨p, hp⟩ => absurd ?_ hnot
    simp [Attribute.isPrefixDeclaration, Attribute.isDeclaration, hp]
  declarable := (isNamed_of_isProper h).declarable

end Frame

namespace Forest

/-- The prefixes that names below an element use and that have to be declared, with their
namespaces, each pair once. -/
def prefixBindings (F : Forest) (root : NodeId) : List Binding :=
  (((F.elementsFrom root).flatMap F.bindingsAt).filter Binding.hasPrefix).dedup

/-- The declarations of prefixes on a node. -/
def prefixDeclarationsAt (F : Forest) (id : NodeId) : List Attribute :=
  ((F.frame? id).map Frame.prefixDeclarations).getD []

/-- Every prefix is used for one namespace. -/
def UsesOneNamespace (F : Forest) (root : NodeId) : Prop :=
  ∀ b ∈ F.prefixBindings root, ∀ b' ∈ F.prefixBindings root, b.nsPrefix = b'.nsPrefix → b.uri = b'.uri

theorem mem_prefixBindings_iff {F : Forest} {root : NodeId} {b : Binding} :
    b ∈ F.prefixBindings root ↔
      (∃ d ∈ F.elementsFrom root, b ∈ F.bindingsAt d) ∧ b.hasPrefix = true := by
  rw [prefixBindings, List.mem_dedup, List.mem_filter, List.mem_flatMap]

theorem UsesOneNamespace.eq_of_mem {F : Forest} {root : NodeId} (h : F.UsesOneNamespace root)
    {b b' : Binding} (hb : b ∈ F.prefixBindings root) (hb' : b' ∈ F.prefixBindings root)
    (hp : b.nsPrefix = b'.nsPrefix) : b = b' := by
  have hu := h b hb b' hb' hp
  cases b
  cases b'
  simp_all

/-- Then no two of the bindings have the same prefix. -/
theorem UsesOneNamespace.nodup_nsPrefix {F : Forest} {root : NodeId} (h : F.UsesOneNamespace root) :
    ((F.prefixBindings root).map Binding.nsPrefix).Nodup :=
  (List.nodup_dedup _).map_on fun _ hb _ hb' hp => h.eq_of_mem hb hb' hp

theorem eq_of_mem_bindingsAt_of_default {F : Forest} {d : NodeId} {b c : Binding}
    (hb : b ∈ F.bindingsAt d) (hc : c ∈ F.bindingsAt d) (hbn : b.nsPrefix = none)
    (hcn : c.nsPrefix = none) : b = c := by
  obtain ⟨f, hf, hbf⟩ := exists_of_mem_bindingsAt hb
  obtain ⟨g, hg, hcg⟩ := exists_of_mem_bindingsAt hc
  obtain rfl := Option.some.inj (hf.symm.trans hg)
  rw [Frame.eq_binding_of_mem hbf hbn, Frame.eq_binding_of_mem hcg hcn]

/-- What a prefix means on a node is what the declarations of prefixes there say. -/
theorem declarationOn_some (F : Forest) (id : NodeId) (p : Text) :
    F.declarationOn id (some p) =
      ((F.prefixDeclarationsAt id).find? (·.declaredPrefix? == some (some p))).map
        Attribute.value := by
  rw [declarationOn, prefixDeclarationsAt]
  cases F.frame? id with
  | none => rfl
  | some f => exact f.declaration?_some p

/-! ### What has been declared so far -/

/-- What completion has made of a forest: it has declared the prefixes in `hoisted` on the top and
nowhere else, and the default namespace on the elements in `changed`. -/
structure Hoists (F G : Forest) (root : NodeId) (hoisted : List Binding) (changed : List NodeId) :
    Prop where
  /-- Completion can go on. -/
  ready : G.IsReadyFor Frame.IsDeclarable root
  /-- Nothing but declarations on the elements of the tree has changed. -/
  same : F.SameButDeclarations G fun id => F.Below root id ∧ F.isElement id = true
  /-- The elements rely on what they relied on. -/
  bindings : ∀ id, G.bindingsAt id = F.bindingsAt id
  /-- Each prefix has been declared once. -/
  nodup_hoisted : hoisted.Nodup
  /-- It is in use. -/
  used : hoisted ⊆ F.prefixBindings root
  /-- It is declared on the top. -/
  onTop : G.prefixDeclarationsAt root = hoisted.map Binding.declaration
  /-- No other element declares a prefix. -/
  elsewhere : ∀ {d}, F.Below root d → d ≠ root → G.prefixDeclarationsAt d = []
  /-- Each element that has changed is listed once. -/
  nodup_changed : changed.Nodup
  /-- Its default namespace is declared in another way than before. -/
  mem_changed_iff : ∀ {d}, d ∈ changed ↔ G.declarationOn d none ≠ F.declarationOn d none
  /-- It is declared as it is needed. -/
  settled : ∀ d ∈ changed, ∀ b ∈ F.bindingsAt d, b.nsPrefix = none →
    G.declarationOn d none = some b.uriText

namespace Hoists

variable {F G : Forest} {root : NodeId} {hoisted : List Binding} {changed : List NodeId}
  (h : F.Hoists G root hoisted changed)
include h

theorem below {d : NodeId} (hd : F.Below root d) : G.Below root d :=
  (below_iff_of_sameButDeclarations h.same).2 hd

theorem isElement {d : NodeId} (he : F.isElement d = true) : G.isElement d = true :=
  (h.same.isElement_eq d).trans he

theorem mem_elementsFrom {d : NodeId} (hd : F.Below root d) (he : F.isElement d = true) :
    d ∈ F.elementsFrom root := by
  rw [← h.same.elementsFrom_eq]
  exact (mem_elementsFrom_iff h.ready.tree h.ready.top).2 ⟨h.below hd, h.isElement he⟩

/-- What a prefix means on the top is what has been declared there. -/
theorem declarationOn_root (p : Text) :
    G.declarationOn root (some p) =
      (hoisted.find? (·.nsPrefix == some p)).map Binding.uriText := by
  rw [declarationOn_some, h.onTop, List.find?_map, Option.map_map]
  congr 1
  refine congrArg (List.find? · hoisted) (funext fun b => ?_)
  simp [Binding.declaration, Binding.declaredPrefix?_declaredName]

/-- No other element says anything about a prefix. -/
theorem declarationOn_of_ne {d : NodeId} (hd : F.Below root d) (hne : d ≠ root) (p : Text) :
    G.declarationOn d (some p) = none := by
  rw [declarationOn_some, h.elsewhere hd hne]
  rfl

/-- A prefix means everywhere what has been declared for it on the top. -/
theorem declaration?_scope {d : NodeId} (hd : F.Below root d) (he : F.isElement d = true)
    (p : Text) :
    (G.scope d).declaration? (some p) =
      (hoisted.find? (·.nsPrefix == some p)).map Binding.uriText := by
  obtain ⟨path, hpath⟩ := exists_isPath_of_below (h.below hd)
  obtain ⟨up, hup, hroot⟩ := elementLineage_eq_append_root h.ready.tree h.ready.top (h.below hd)
    (h.isElement he)
  have hlineage := elementLineage_of_isPath h.ready.tree h.ready.top hpath (h.isElement he)
  have hnone : up.findSome? (G.declarationOn · (some p)) = none := by
    refine List.findSome?_eq_none_iff.2 fun x hx => ?_
    have hxb : G.Below root x := hpath.below_of_mem (by rw [← hlineage, hup]; simp [hx])
    exact h.declarationOn_of_ne ((below_iff_of_sameButDeclarations h.same).1 hxb)
      (by rintro rfl; exact hroot hx) p
  rw [Forest.declaration?_scope, hup, List.findSome?_append, hnone, Option.none_or,
    List.findSome?_singleton, h.declarationOn_root]

variable (hone : F.UsesOneNamespace root)
include hone

/-- A prefix in use is declared exactly if it has been declared on the top. -/
theorem declares_iff {d : NodeId} (hd : F.Below root d) (he : F.isElement d = true) {b : Binding}
    (hb : b ∈ F.prefixBindings root) : (G.scope d).declares b = true ↔ b ∈ hoisted := by
  obtain ⟨⟨p, hp⟩, himp⟩ := Binding.hasPrefix_iff.1 (mem_prefixBindings_iff.1 hb).2
  rw [Scope.declares, himp, hp, h.declaration?_scope hd he]
  cases hfind : hoisted.find? (·.nsPrefix == some p) with
  | some c =>
      have hmem := List.mem_of_find?_eq_some hfind
      have hc : c.nsPrefix = some p := by simpa using List.find?_some hfind
      obtain rfl := hone.eq_of_mem (h.used hmem) hb (hc.trans hp.symm)
      simp [hmem]
  | none =>
      have hnot : b ∉ hoisted := fun hm => by simpa [hp] using List.find?_eq_none.1 hfind b hm
      simp [hnot]

/-- A prefix in use that the top does not declare can be declared there. -/
theorem placeOf_eq_root {d : NodeId} (hd : F.Below root d) (he : F.isElement d = true)
    {b : Binding} (hb : b ∈ F.prefixBindings root) (hmiss : b ∉ hoisted) :
    G.placeOf (some root) d b = root ∧ G.declarationOn root b.nsPrefix = none := by
  obtain ⟨⟨p, hp⟩, himp⟩ := Binding.hasPrefix_iff.1 (mem_prefixBindings_iff.1 hb).2
  have hfind : hoisted.find? (·.nsPrefix == some p) = none := by
    refine List.find?_eq_none.2 fun c hc hcp => hmiss ?_
    obtain rfl := hone.eq_of_mem (h.used hc) hb ((beq_iff_eq.1 hcp).trans hp.symm)
    exact hc
  have hnone : ∀ id ∈ G.elementLineage d, G.declarationOn id (some p) = none := by
    rw [← List.findSome?_eq_none_iff, ← Forest.declaration?_scope, h.declaration?_scope hd he, hfind]
    rfl
  have htakes : G.TakesFromAbove root d (some p) :=
    ⟨_, pathTo?_root h.ready (h.below hd) (h.isElement he), hnone⟩
  have hagree : ∀ a ∈ G.bindingsAt root, a.nsPrefix = some p → a.uriText = b.uriText := by
    intro a ha hap
    have hroot : root ∈ F.elementsFrom root :=
      h.mem_elementsFrom .refl (h.same.isElement_eq root ▸ h.ready.top.isElement)
    have himpa : a.hasPrefix = true :=
      Binding.hasPrefix_iff.2 ⟨⟨p, hap⟩, (isImplicit_congr (hap.trans hp.symm)).trans himp⟩
    rw [hone.eq_of_mem (mem_prefixBindings_iff.2 ⟨⟨root, hroot, h.bindings root ▸ ha⟩, himpa⟩) hb
      (hap.trans hp.symm)]
  have hcan : G.canHoist root d b = true :=
    canHoist_of_agree h.ready.top.isElement (fun f hf => (h.ready.frames .refl hf).declarations)
      hp himp htakes hagree
  refine ⟨?_, ?_⟩
  · rw [placeOf, hcan, hp]
    rfl
  · rw [hp, h.declarationOn_root, hfind]
    rfl

omit hone in
/-- A prefix is declared on the top. -/
theorem hoist {b : Binding} (hb : b ∈ F.prefixBindings root) (hmiss : b ∉ hoisted)
    (hnone : G.declarationOn root b.nsPrefix = none) :
    F.Hoists (G.withDeclaration root b) root (hoisted ++ [b]) changed := by
  have hnamed := (mem_prefixBindings_iff.1 hb).2
  obtain ⟨⟨p, hp⟩, himp⟩ := Binding.hasPrefix_iff.1 hnamed
  obtain ⟨f, hf⟩ := exists_frame_of_isElement h.ready.top.isElement
  have hroot : F.Below root root ∧ F.isElement root = true :=
    ⟨.refl, h.same.isElement_eq root ▸ h.ready.top.isElement⟩
  have hdefault : ∀ d, (G.withDeclaration root b).declarationOn d none = G.declarationOn d none :=
    fun d => by
      rw [declarationOn_withDeclaration_of hf (h.ready.frames .refl hf) himp, if_neg (by simp [hp])]
  exact {
    ready := h.ready.withDeclaration Frame.isKind_isDeclarable himp
    same := h.same.trans ((sameButDeclarations_withDeclaration G root b).mono
      fun _ hid => hid ▸ hroot)
    bindings := fun id => (bindingsAt_withDeclaration G root b id).trans (h.bindings id)
    nodup_hoisted := List.nodup_append.2 ⟨h.nodup_hoisted, List.nodup_singleton b,
      fun x hx y hy => by
        rw [List.mem_singleton.1 hy]
        rintro rfl
        exact hmiss hx⟩
    used := List.append_subset.2 ⟨h.used, List.cons_subset.2 ⟨hb, List.nil_subset _⟩⟩
    onTop := by
      have htop := h.onTop
      rw [prefixDeclarationsAt, hf, Option.map_some, Option.getD_some] at htop
      rw [declarationOn, hf, Option.bind_some] at hnone
      rw [prefixDeclarationsAt, frame?_withDeclaration, if_pos rfl, hf, Option.map_some,
        Option.map_some, Option.getD_some, Frame.prefixDeclarations_withDeclaration
          (h.ready.frames .refl hf) hnamed hnone, htop, List.map_append]
      rfl
    elsewhere := fun hd hne => by
      rw [prefixDeclarationsAt, frame?_withDeclaration, if_neg (Ne.symm hne)]
      exact h.elsewhere hd hne
    nodup_changed := h.nodup_changed
    mem_changed_iff := by
      intro d
      rw [hdefault]
      exact h.mem_changed_iff
    settled := fun d hd c hc hn => by
      rw [hdefault]
      exact h.settled d hd c hc hn }

omit hone in
/-- What is not declared at an element is not what the element declares. -/
theorem declarationOn_ne_of_declares {d : NodeId} (he : F.isElement d = true) {b : Binding}
    (hmiss : (G.scope d).declares b = false) : G.declarationOn d b.nsPrefix ≠ some b.uriText := by
  intro hself
  have hdecl : (G.scope d).declaration? b.nsPrefix = some b.uriText := by
    rw [Forest.declaration?_scope, elementLineage_eq_cons_around (h.isElement he),
      List.findSome?_cons, hself]
  rw [declares_of_declaration? hdecl] at hmiss
  cases hmiss

omit hone in
/-- A default namespace is declared in place. -/
theorem declareDefault {d : NodeId} (hd : F.Below root d) (he : F.isElement d = true) {b : Binding}
    (hb : b ∈ F.bindingsAt d) (hn : b.nsPrefix = none) (hmiss : (G.scope d).declares b = false) :
    F.Hoists (G.withDeclaration d b) root hoisted (d :: changed) := by
  have himp := isImplicit_eq_false_of_declares hmiss
  obtain ⟨f, hf⟩ := exists_frame_of_isElement (h.isElement he)
  have hfd := h.ready.frames (h.below hd) hf
  have hover := declarationOn_withDeclaration_of hf hfd himp
  have hplace : F.Below root d ∧ F.isElement d = true := ⟨hd, he⟩
  have hne : G.declarationOn d none ≠ some b.uriText := hn ▸ h.declarationOn_ne_of_declares he hmiss
  -- the element has not been changed before, because it would be declared as it is needed
  have hnew : d ∉ changed := fun hm => hne (h.settled d hm b hb hn)
  have hold : G.declarationOn d none = F.declarationOn d none :=
    not_not.1 fun hc => hnew (h.mem_changed_iff.2 hc)
  have hprefixes : ∀ id, (G.withDeclaration d b).prefixDeclarationsAt id =
      G.prefixDeclarationsAt id := fun id => by
    rw [prefixDeclarationsAt, frame?_withDeclaration, prefixDeclarationsAt]
    split
    · rename_i hid
      subst hid
      simp [hf, Frame.prefixDeclarations_withDeclaration_default hfd hn]
    · rfl
  exact {
    ready := h.ready.withDeclaration Frame.isKind_isDeclarable himp
    same := h.same.trans ((sameButDeclarations_withDeclaration G d b).mono
      fun _ hid => hid ▸ hplace)
    bindings := fun id => (bindingsAt_withDeclaration G d b id).trans (h.bindings id)
    nodup_hoisted := h.nodup_hoisted
    used := h.used
    onTop := (hprefixes root).trans h.onTop
    elsewhere := fun hx hxne => (hprefixes _).trans (h.elsewhere hx hxne)
    nodup_changed := List.nodup_cons.2 ⟨hnew, h.nodup_changed⟩
    mem_changed_iff := by
      intro x
      rw [hover, hn, List.mem_cons]
      by_cases hx : d = x
      · subst hx
        simp [← hold, hne.symm]
      · rw [if_neg fun hc => hx hc.1, ← h.mem_changed_iff]
        exact or_iff_right (Ne.symm hx)
    settled := by
      intro x hx c hc hcn
      rw [hover, hn]
      by_cases hxd : d = x
      · subst hxd
        rw [if_pos ⟨rfl, rfl⟩, eq_of_mem_bindingsAt_of_default hb hc hn hcn]
      · rw [if_neg fun hcon => hxd hcon.1]
        exact h.settled x ((List.mem_cons.1 hx).resolve_left (Ne.symm hxd)) c hc hcn }

/-- What is missing is declared. -/
theorem declare {d : NodeId} (hd : F.Below root d) (he : F.isElement d = true) {b : Binding}
    (hb : b ∈ F.bindingsAt d) (hmiss : (G.scope d).declares b = false) :
    ∃ H hoisted' changed', G.declare (G.placeOf (some root) d b) b = .ok H ∧
      F.Hoists H root hoisted' changed' ∧ hoisted ⊆ hoisted' ∧
      (b.hasPrefix = true → b ∈ hoisted') ∧
      hoisted'.length + changed'.length = hoisted.length + changed.length + 1 := by
  have himp := isImplicit_eq_false_of_declares hmiss
  obtain ⟨f, hf, hbf⟩ := exists_of_mem_bindingsAt (h.bindings d ▸ hb)
  have hname := (h.ready.frames (h.below hd) hf).declarable b hbf himp
  cases hn : b.nsPrefix with
  | none =>
      have hplace : G.placeOf (some root) d b = d := by simp [placeOf, hn]
      obtain ⟨hw, ho⟩ := h.ready.writable (h.below hd) (h.isElement he)
      refine ⟨_, hoisted, d :: changed, ?_, h.declareDefault hd he hb hn hmiss, List.Subset.refl _,
        fun hp => ?_, ?_⟩
      · rw [hplace]
        exact declare_eq_ok himp hname hw ho
      · simp [Binding.hasPrefix, hn] at hp
      · simp [Nat.add_assoc]
  | some p =>
      have hmem : b ∈ F.prefixBindings root := mem_prefixBindings_iff.2
        ⟨⟨d, h.mem_elementsFrom hd he, hb⟩, Binding.hasPrefix_iff.2 ⟨⟨p, hn⟩, himp⟩⟩
      have hnot : b ∉ hoisted := fun hm => by
        rw [(h.declares_iff hone hd he hmem).2 hm] at hmiss
        cases hmiss
      obtain ⟨hplace, hnone⟩ := h.placeOf_eq_root hone hd he hmem hnot
      obtain ⟨hw, ho⟩ := h.ready.writable .refl h.ready.top.isElement
      refine ⟨_, hoisted ++ [b], changed, ?_, h.hoist hmem hnot hnone, List.subset_append_left _ _,
        fun _ => by simp, ?_⟩
      · rw [hplace]
        exact declare_eq_ok himp hname hw ho
      · simp only [List.length_append, List.length_singleton]
        omega

/-! ### The whole walk -/

/-- What an element lacks is declared. -/
theorem ensureBindings {d : NodeId} (hd : F.Below root d) (he : F.isElement d = true)
    {bindings : List Binding} (hb : ∀ b ∈ bindings, b ∈ F.bindingsAt d) :
    ∃ H n hoisted' changed', G.ensureBindings (some root) d bindings = (H, .ok n) ∧
      F.Hoists H root hoisted' changed' ∧ hoisted ⊆ hoisted' ∧
      (∀ b ∈ bindings, b.hasPrefix = true → b ∈ hoisted') ∧
      hoisted'.length + changed'.length = hoisted.length + changed.length + n := by
  induction bindings generalizing G hoisted changed with
  | nil => exact ⟨G, 0, hoisted, changed, rfl, h, List.Subset.refl _, by simp, rfl⟩
  | cons b bindings ih =>
      have hbd := hb b (by simp)
      have hrest : ∀ c ∈ bindings, c ∈ F.bindingsAt d := fun c hc => hb c (by simp [hc])
      rw [Forest.ensureBindings]
      cases hdecl : (G.scope d).declares b with
      | true =>
          obtain ⟨H, n, hoisted', changed', hH, hh, hsub, hall, hcount⟩ := ih h hrest
          refine ⟨H, n, hoisted', changed', hH, hh, hsub, fun c hc hp => ?_, hcount⟩
          rcases List.mem_cons.1 hc with rfl | hc
          · exact hsub ((h.declares_iff hone hd he (mem_prefixBindings_iff.2
              ⟨⟨d, h.mem_elementsFrom hd he, hbd⟩, hp⟩)).1 hdecl)
          · exact hall c hc hp
      | false =>
          obtain ⟨E, hoisted₁, changed₁, hE, hh₁, hsub₁, hb₁, hcount₁⟩ :=
            h.declare hone hd he hbd hdecl
          obtain ⟨H, n, hoisted', changed', hH, hh, hsub, hall, hcount⟩ := ih hh₁ hrest
          refine ⟨H, n + 1, hoisted', changed', ?_, hh, List.Subset.trans hsub₁ hsub,
            fun c hc hp => ?_, by omega⟩
          · simp only [Bool.false_eq_true, if_false, hE, hH]
            rfl
          · rcases List.mem_cons.1 hc with rfl | hc
            · exact hsub (hb₁ hp)
            · exact hall c hc hp

/-- The walk through some elements leaves all prefixes that they use declared on the top. -/
theorem ensureElements {elements : List NodeId}
    (hel : ∀ d ∈ elements, F.Below root d ∧ F.isElement d = true) :
    ∃ H n hoisted' changed', G.ensureElements (some root) elements = (H, .ok n) ∧
      F.Hoists H root hoisted' changed' ∧ hoisted ⊆ hoisted' ∧
      (∀ d ∈ elements, ∀ b ∈ F.bindingsAt d, b.hasPrefix = true → b ∈ hoisted') ∧
      hoisted'.length + changed'.length = hoisted.length + changed.length + n := by
  induction elements generalizing G hoisted changed with
  | nil => exact ⟨G, 0, hoisted, changed, rfl, h, List.Subset.refl _, by simp, rfl⟩
  | cons d elements ih =>
      obtain ⟨hd, he⟩ := hel d (by simp)
      have hmiss : ∀ b, b ∈ (G.scope d).undeclared ↔
          b ∈ F.bindingsAt d ∧ (G.scope d).declares b = false := fun b => by
        rw [mem_undeclared (h.isElement he), h.bindings]
      obtain ⟨E, m, hoisted₁, changed₁, hE, hh₁, hsub₁, hall₁, hcount₁⟩ :=
        h.ensureBindings hone hd he fun b hb => ((hmiss b).1 hb).1
      obtain ⟨H, n, hoisted', changed', hH, hh, hsub, hall, hcount⟩ :=
        ih hh₁ fun x hx => hel x (by simp [hx])
      refine ⟨H, m + n, hoisted', changed', ?_, hh, List.Subset.trans hsub₁ hsub,
        fun x hx b hb hp => ?_, by omega⟩
      · rw [Forest.ensureElements, hE]
        simp only [hH]
        rfl
      · rcases List.mem_cons.1 hx with rfl | hx
        · cases hdecl : (G.scope x).declares b with
          | true =>
              exact hsub (hsub₁ ((h.declares_iff hone hd he (mem_prefixBindings_iff.2
                ⟨⟨x, h.mem_elementsFrom hd he, hb⟩, hp⟩)).1 hdecl))
          | false => exact hsub (hall₁ b ((hmiss b).2 ⟨hb, hdecl⟩) hp)
        · exact hall x hx b hb hp

end Hoists

/-- **Completion declares every prefix once, on the top.**  Let no element stand around a writable
element, let no element of its tree declare a prefix, and let every prefix be used for one
namespace.  Then completion succeeds.  The top has one declaration for each prefix in use, with its
namespace, and no other element has any.  What has been counted are these prefixes, and the elements
whose default namespace is declared in another way than before. -/
theorem ensureDeclared_hoisted {F : Forest} {root : NodeId} (hF : F.IsTreeBelow root)
    (hr : F.IsTop root) (hp : ∀ d f, F.Below root d → F.frame? d = some f → f.IsProper)
    (ho : (F.owner? root).isSome = true) (hw : F.isReadOnly root = false)
    (hnone : ∀ d, F.Below root d → F.prefixDeclarationsAt d = [])
    (hone : F.UsesOneNamespace root) :
    ∃ G n, ∃ changed : List NodeId, F.ensureDeclared root (some root) true = (G, .ok n) ∧
      ((F.prefixBindings root).map Binding.nsPrefix).Nodup ∧
      (G.prefixDeclarationsAt root).Perm ((F.prefixBindings root).map Binding.declaration) ∧
      (∀ d, G.Below root d → d ≠ root → G.prefixDeclarationsAt d = []) ∧
      changed.Nodup ∧
      (∀ d, d ∈ changed ↔ G.declarationOn d none ≠ F.declarationOn d none) ∧
      n = (F.prefixBindings root).length + changed.length := by
  have hframes : ∀ {d f}, F.Below root d → F.frame? d = some f → f.IsDeclarable := by
    intro d f hd hf
    have hd' := hnone d hd
    rw [prefixDeclarationsAt, hf] at hd'
    exact Frame.isDeclarable_of_isProper_of_none (hp d f hd hf) hd'
  have hstart : F.Hoists F root [] [] := {
    ready := ⟨hF, hr, hframes, fun hd he => writable_of_below hF hr hw ho hd he⟩
    same := .refl F _
    bindings := fun _ => rfl
    nodup_hoisted := List.nodup_nil
    used := List.nil_subset _
    onTop := hnone root .refl
    elsewhere := fun hd _ => hnone _ hd
    nodup_changed := List.nodup_nil
    mem_changed_iff := by simp
    settled := by simp }
  obtain ⟨G, n, hoisted, changed, hG, h, -, hall, hcount⟩ :=
    hstart.ensureElements hone fun d hd => (mem_elementsFrom_iff hF hr).1 hd
  have hperm : hoisted.Perm (F.prefixBindings root) := by
    refine (List.perm_ext_iff_of_nodup h.nodup_hoisted (List.nodup_dedup _)).2 fun b =>
      ⟨fun hb => h.used hb, fun hb => ?_⟩
    obtain ⟨⟨d, hd, hbd⟩, hbp⟩ := mem_prefixBindings_iff.1 hb
    exact hall d hd b hbd hbp
  refine ⟨G, n, changed, hG, hone.nodup_nsPrefix, ?_, fun d hd hne => ?_, h.nodup_changed,
    fun d => h.mem_changed_iff, ?_⟩
  · rw [h.onTop]
    exact hperm.map _
  · exact h.elsewhere ((below_iff_of_sameButDeclarations h.same).1 hd) hne
  · rw [← hperm.length_eq, hcount]
    simp

/-- An element `r` outside all namespaces, with a default namespace that it does not lie in; in it
`p:a` with the attribute `q:x`, and `b` in another default namespace, with `p:c` in it, which has the
attribute `q:y`. -/
def prefixesInside : Forest :=
  empty.run [.addDocument, .createElement 0 ['r'], .setAttributeNs 1 (some xmlnsUri) xmlnsPrefix ['d'],
    .createElementNs 0 (some ['u']) "p:a".toList,
    .setAttributeNs 2 (some ['v']) "q:x".toList ['1'], .appendChild 1 2,
    .createElementNs 0 (some ['e']) ['b'], .appendChild 1 3,
    .createElementNs 0 (some ['u']) "p:c".toList,
    .setAttributeNs 4 (some ['v']) "q:y".toList ['2'], .appendChild 3 4]

/-- Two prefixes are declared on `r`, and two default namespaces in place. -/
theorem ensureDeclared_hoisted_prefixesInside :
    ∃ G n, ∃ changed : List NodeId,
      prefixesInside.ensureDeclared 1 (some 1) true = (G, .ok n) ∧
      ((prefixesInside.prefixBindings 1).map Binding.nsPrefix).Nodup ∧
      (G.prefixDeclarationsAt 1).Perm ((prefixesInside.prefixBindings 1).map Binding.declaration) ∧
      (∀ d, G.Below 1 d → d ≠ 1 → G.prefixDeclarationsAt d = []) ∧
      changed.Nodup ∧
      (∀ d, d ∈ changed ↔ G.declarationOn d none ≠ prefixesInside.declarationOn d none) ∧
      n = (prefixesInside.prefixBindings 1).length + changed.length ∧
      n = 4 ∧ (prefixesInside.prefixBindings 1).length = 2 := by
  have hlinks : prefixesInside.IsWellLinked := isWellLinked_empty.run _
  have hnone : ∀ d ∈ List.range prefixesInside.size, prefixesInside.prefixDeclarationsAt d = [] := by
    decide +kernel
  obtain ⟨G, n, changed, hG, hdistinct, htop, hother, hnodup, hchanged, hcount⟩ :=
    ensureDeclared_hoisted (hlinks.isTreeBelow 1) ⟨by decide +kernel, fun p hp => by
        rw [show prefixesInside.parent? 1 = none by decide +kernel] at hp
        cases hp⟩
      (fun d f _ hf => isProper_run _ hf) (by decide +kernel) (by decide +kernel)
      (fun d _ => by
        rcases Nat.lt_or_ge d prefixesInside.size with hd | hd
        · exact hnone d (List.mem_range.2 hd)
        · rw [prefixDeclarationsAt, frame?, payload?, get?, Array.getElem?_eq_none hd]
          rfl)
      (by unfold UsesOneNamespace; decide +kernel)
  have hn : (prefixesInside.ensureDeclared 1 (some 1) true).2.toOption = some 4 := by decide +kernel
  rw [hG] at hn
  exact ⟨G, n, changed, hG, hdistinct, htop, hother, hnodup, hchanged, hcount, Option.some.inj hn,
    by decide +kernel⟩

end Forest

end XmlScribe
