/-
**The states that completion runs through.**

Completion of an element `e` anywhere in a document visits the elements below it one by one.  At each
of them it adds the declarations that are missing, on the element or on `e`, and goes on when none is
missing any more.

An element may use a prefix for two namespaces.  Then only one of them can be declared, and the
element is visited for good when one is: it is settled.

Where no element stands around `e`, nothing can be taken from above.  A name that has been visited is
then declared on its way up to `e`, and no declaration that is placed later comes between.  So what
has been visited stays settled, even where an element uses a prefix for two namespaces.

Main definitions:

* `Forest.IsSettled` — for every binding of an element one with the same prefix is declared;
* `Forest.Completing` — the states that completion runs through;
* `Forest.IsKept` — what completion leaves as it is.

Main results:

* `Forest.Completing.isKept` — what every state keeps;
* `Forest.Completing.declaration?_add` — what can change the meaning of a prefix that is visited;
* `Forest.Completing.of_ensureElements` — the walk of completion goes on to the end;
* `Forest.Completing.isSettled` — what has been visited is settled;
* `Forest.Completing.frames` — what every declaration that is needed keeps, every state has.
-/

import XmlScribe.Proofs.Namespace.Added

set_option autoImplicit false

namespace XmlScribe

namespace Forest

/-! ### The states of completion -/

/-- For every binding that the element relies on, one with the same prefix is declared. -/
def IsSettled (F : Forest) (d : NodeId) : Prop :=
  ∀ b ∈ F.bindingsAt d, ∃ a ∈ F.bindingsAt d, a.nsPrefix = b.nsPrefix ∧
    (F.scope d).declares a = true

/-- An element that uses each prefix for one namespace is complete when it is settled. -/
theorem IsSettled.isComplete {F : Forest} {d : NodeId} (h : F.IsSettled d)
    (hc : ∀ b ∈ F.bindingsAt d, ∀ a ∈ F.bindingsAt d, a.nsPrefix = b.nsPrefix → a = b) :
    F.IsComplete d := by
  intro b hb
  obtain ⟨a, ha, hp, hd⟩ := h b hb
  obtain rfl := hc b hb a ha hp
  exact hd

/-- The states that completion of `e` runs through: the elements that have been visited, the latest
first, and the forest. -/
inductive Completing (F₀ : Forest) (e : NodeId) (target : Option NodeId) :
    List NodeId → Forest → Prop where
  /-- Nothing has been visited. -/
  | start : Completing F₀ e target [] F₀
  /-- A declaration that the next element lacks has been added. -/
  | add {seen rest : List NodeId} {F : Forest} {x : NodeId} {c : Binding}
      (hF : Completing F₀ e target seen F)
      (hnext : F₀.elementsFrom e = seen.reverse ++ x :: rest) (hc : c ∈ F.bindingsAt x)
      (hmiss : (F.scope x).declares c = false) :
      Completing F₀ e target seen (F.withDeclaration (F.placeOf target x c) c)
  /-- The next element is settled and has been visited. -/
  | visit {seen rest : List NodeId} {F : Forest} {x : NodeId}
      (hF : Completing F₀ e target seen F)
      (hnext : F₀.elementsFrom e = seen.reverse ++ x :: rest) (hall : F.IsSettled x) :
      Completing F₀ e target (x :: seen) F

/-- What completion of a part has left of the forest. -/
structure IsKept (F₀ F : Forest) (e : NodeId) : Prop where
  /-- It is a part still. -/
  part : F.IsPart e
  /-- Nothing but declarations on elements of the part has changed. -/
  same : F₀.SameButDeclarations F fun id => F₀.Below e id ∧ F₀.isElement id = true
  /-- The elements rely on what they relied on. -/
  bindings : ∀ id, F.bindingsAt id = F₀.bindingsAt id
  /-- No declaration has been taken away. -/
  declarationOn : ∀ id p, F.declarationOn id p = none → F₀.declarationOn id p = none

namespace IsKept

variable {F₀ F : Forest} {e : NodeId} (h : F₀.IsKept F e)
include h

theorem below_iff {d : NodeId} : F.Below e d ↔ F₀.Below e d :=
  below_iff_of_sameButDeclarations h.same

theorem takes {d : NodeId} {p : Option Text} (ht : F.TakesFromAbove e d p) :
    F₀.TakesFromAbove e d p := by
  obtain ⟨path, hpath, hnone⟩ := ht
  refine ⟨path, ?_, fun id hid => h.declarationOn id p (hnone id hid)⟩
  rw [pathTo?, ← h.same.elementLineage_eq]
  exact hpath

/-- Above the part the prefixes mean what they meant. -/
theorem meaningAbove (he : F₀.IsPart e) (p : Option Text) :
    F.meaningAbove e p = F₀.meaningAbove e p := by
  rw [Forest.meaningAbove, Forest.meaningAbove, around, around, h.same.elementLineage_eq]
  refine findSome?_congr fun id hid => ?_
  have hget := h.same.get?_eq fun hb =>
    he.links.not_below_of_mem_around he.isElement hid hb.1
  simp only [Forest.declarationOn, frame?, payload?, hget]

/-- What a prefix that is taken from above means does not depend on the state. -/
theorem declares_iff (he : F₀.IsPart e) {d : NodeId} (hd : F₀.Below e d)
    (hde : F₀.isElement d = true) {b : Binding} {p : Text} (hp : b.nsPrefix = some p)
    (hb : b.isImplicit = false) (ht : F.TakesFromAbove e d (some p)) :
    (F.scope d).declares b = true ↔ (F₀.scope d).declares b = true := by
  rw [h.part.declares_iff_of_takes (h.below_iff.2 hd) ((h.same.isElement_eq d).trans hde) hp hb ht,
    he.declares_iff_of_takes hd hde hp hb (h.takes ht), h.meaningAbove he]

theorem withDeclaration {target : NodeId} (ht : F.Below e target)
    (hte : F.isElement target = true) {b : Binding} (hb : b.isImplicit = false) :
    F₀.IsKept (F.withDeclaration target b) e where
  part := h.part.withDeclaration hb
  same := h.same.trans ((sameButDeclarations_withDeclaration F target b).mono fun id hid => by
    subst hid
    exact ⟨h.below_iff.1 ht, (h.same.isElement_eq _) ▸ hte⟩)
  bindings id := (bindingsAt_withDeclaration F target b id).trans (h.bindings id)
  declarationOn id p hnone := by
    obtain ⟨f, hf⟩ := exists_frame_of_isElement hte
    rw [declarationOn_withDeclaration_of hf (h.part.frames ht hf) hb] at hnone
    split at hnone
    · cases hnone
    · exact h.declarationOn id p hnone

/-- What a declaration that is placed for an element changes on the elements. -/
theorem declarationOn_placeOf {target : Option NodeId} (ht : target = none ∨ target = some e)
    {x : NodeId} (hx : F.Below e x) (hxe : F.isElement x = true) {c : Binding}
    (himp : c.isImplicit = false) (id : NodeId) (p : Option Text) :
    (F.withDeclaration (F.placeOf target x c) c).declarationOn id p =
      if F.placeOf target x c = id ∧ p = c.nsPrefix then some c.uriText
      else F.declarationOn id p := by
  rcases placeOf_eq (F := F) ht x c with ⟨hp, -⟩ | ⟨hp, -⟩ <;> rw [hp]
  · obtain ⟨f, hf⟩ := exists_frame_of_isElement hxe
    exact declarationOn_withDeclaration_of hf (h.part.frames hx hf) himp id p
  · obtain ⟨f, hf⟩ := exists_frame_of_isElement h.part.isElement
    exact declarationOn_withDeclaration_of hf (h.part.frames .refl hf) himp id p

/-- A declaration that is placed for an element leaves the other prefixes as they are. -/
theorem declaration?_placeOf_of_ne {target : Option NodeId} (ht : target = none ∨ target = some e)
    {x : NodeId} (hx : F.Below e x) (hxe : F.isElement x = true) {c : Binding}
    (himp : c.isImplicit = false) (d : NodeId) {p : Option Text} (hp : p ≠ c.nsPrefix) :
    ((F.withDeclaration (F.placeOf target x c) c).scope d).declaration? p =
      (F.scope d).declaration? p := by
  rcases placeOf_eq (F := F) ht x c with ⟨hpx, -⟩ | ⟨hpe, -⟩
  · rw [hpx]
    exact h.part.declaration?_withDeclaration_eq hx hxe himp (Or.inl hp)
  · rw [hpe]
    exact h.part.declaration?_withDeclaration_eq .refl h.part.isElement himp (Or.inl hp)

end IsKept

namespace Completing

variable {F₀ : Forest} {e : NodeId} {target : Option NodeId} (he : F₀.IsPart e)
include he

theorem mem_of_next {seen rest : List NodeId} {x : NodeId}
    (hnext : F₀.elementsFrom e = seen.reverse ++ x :: rest) :
    F₀.Below e x ∧ F₀.isElement x = true ∧ x ∉ seen := by
  obtain ⟨hb, hx⟩ := he.links.mem_elementsFrom_iff.1
    (show x ∈ F₀.elementsFrom e by rw [hnext]; simp)
  refine ⟨hb, hx, fun hm => ?_⟩
  have hnodup := he.links.nodup_elementsFrom e
  rw [hnext, List.nodup_append] at hnodup
  exact hnodup.2.2 x (List.mem_reverse.2 hm) x (by simp) rfl

/-- What every state keeps. -/
theorem isKept (ht : target = none ∨ target = some e) {seen : List NodeId} {F : Forest}
    (h : Completing F₀ e target seen F) :
    F₀.IsKept F e := by
  induction h with
  | start => exact ⟨he, .refl F₀ _, fun _ => rfl, fun _ _ hn => hn⟩
  | visit _ _ _ ih => exact ih
  | @add seen rest F x c _ hnext hc hmiss ih =>
      obtain ⟨hb, hx, -⟩ := mem_of_next he hnext
      have himp := isImplicit_eq_false_of_declares hmiss
      rcases placeOf_eq (F := F) ht x c with ⟨hp, -⟩ | ⟨hp, -⟩ <;> rw [hp]
      · exact ih.withDeclaration (ih.below_iff.2 hb) ((ih.same.isElement_eq x).trans hx) himp
      · exact ih.withDeclaration .refl ih.part.isElement himp

/-- What has been visited has been visited with all elements around it up to `e`. -/
theorem mem_of_mem_elementLineage {seen rest : List NodeId}
    (hseen : F₀.elementsFrom e = seen.reverse ++ rest) {d : NodeId} (hd : d ∈ seen) {x : NodeId}
    (hx : x ∈ F₀.elementLineage d) (hxb : F₀.Below e x) : x ∈ seen := by
  induction seen generalizing rest d with
  | nil => simp at hd
  | cons y seen ih =>
      rw [List.reverse_cons, List.append_assoc] at hseen
      have hfirst := he.links.parentsFirst_elementsFrom he.isElement
      rw [hseen] at hfirst
      have hy := hfirst.of_append.1
      rw [List.reverse_reverse, List.append_nil] at hy
      rcases List.mem_cons.1 hd with rfl | hd
      · rcases hy with rfl | ⟨p, hp, hc⟩
        · rw [elementLineage_eq_cons_around he.isElement] at hx
          rcases List.mem_cons.1 hx with rfl | hx
          · simp
          · exact absurd hxb (he.links.not_below_of_mem_around he.isElement hx)
        · have hde := (mem_of_next he hseen).2.1
          rw [he.links.elementLineage_child hc hde] at hx
          rcases List.mem_cons.1 hx with rfl | hx
          · simp
          · exact List.mem_cons_of_mem _ (ih hseen hp hx)
      · exact List.mem_cons_of_mem _ (ih hseen hd hx)

/-- What has been visited keeps the meaning of its prefixes.  Only a declaration that is placed on
`e` can change it, where the prefix is taken from above. -/
theorem declaration?_add (ht : target = none ∨ target = some e) {seen rest : List NodeId}
    {F : Forest} (hF : Completing F₀ e target seen F) {x : NodeId}
    (hnext : F₀.elementsFrom e = seen.reverse ++ x :: rest) {c : Binding}
    (hmiss : (F.scope x).declares c = false) {d : NodeId} (hd : d ∈ seen) (p : Option Text) :
    ((F.withDeclaration (F.placeOf target x c) c).scope d).declaration? p =
        (F.scope d).declaration? p ∨
      (p = c.nsPrefix ∧ p.isSome = true ∧ target = some e ∧ F.canHoist e x c = true ∧
        F.TakesFromAbove e d p) := by
  have hk := isKept he ht hF
  have himp := isImplicit_eq_false_of_declares hmiss
  obtain ⟨hxb, hxe, hnew⟩ := mem_of_next he hnext
  have hxb' := hk.below_iff.2 hxb
  have hxe' := (hk.same.isElement_eq x).trans hxe
  by_cases hp : p = c.nsPrefix
  · rcases placeOf_eq (F := F) ht x c with ⟨hpx, -⟩ | ⟨hpe, htop, hsome, hcan⟩
    · -- the element itself is not around what has been visited
      rw [hpx]
      exact Or.inl (hk.part.declaration?_withDeclaration_eq hxb' hxe' himp
        (Or.inr fun hm => hnew (mem_of_mem_elementLineage he hnext hd
          (hk.same.elementLineage_eq d ▸ hm) hxb)))
    · by_cases htk : F.TakesFromAbove e d p
      · exact Or.inr ⟨hp, hp ▸ hsome, htop, hcan, htk⟩
      · obtain ⟨hdb, hde⟩ := he.links.mem_elementsFrom_iff.1
          (show d ∈ F₀.elementsFrom e by rw [hnext]; simp [hd])
        obtain ⟨htx, -⟩ := canHoist_eq_true_iff.1 hcan
        obtain ⟨_, -, -, -, htakes⟩ := hk.part.exists_path hxb' hxe'
        rw [hpe, hp]
        exact Or.inl ((hk.part.declaration?_withDeclaration_top himp ((htakes _).1 htx).2
          (hk.below_iff.2 hdb) ((hk.same.isElement_eq d).trans hde)).2 (hp ▸ htk))
  · exact Or.inl (hk.declaration?_placeOf_of_ne ht hxb' hxe' himp d hp)

/-! ### The walk -/

/-- A missing declaration serves the element that it is added for, and leaves it the declarations of
other prefixes. -/
theorem declares_placeOf (ht : target = none ∨ target = some e) {seen rest : List NodeId}
    {F : Forest} (h : Completing F₀ e target seen F) {x : NodeId}
    (hnext : F₀.elementsFrom e = seen.reverse ++ x :: rest) {c : Binding}
    (hmiss : (F.scope x).declares c = false) :
    ((F.withDeclaration (F.placeOf target x c) c).scope x).declares c = true ∧
      ∀ a : Binding, a.nsPrefix ≠ c.nsPrefix → (F.scope x).declares a = true →
        ((F.withDeclaration (F.placeOf target x c) c).scope x).declares a = true := by
  have hk := isKept he ht h
  have himp := isImplicit_eq_false_of_declares hmiss
  obtain ⟨hxb, hxe, -⟩ := mem_of_next he hnext
  have hxb' := hk.below_iff.2 hxb
  have hxe' := (hk.same.isElement_eq x).trans hxe
  refine ⟨declares_of_declaration? ?_, fun a hp hd => ?_⟩
  · rcases placeOf_eq (F := F) ht x c with ⟨hpx, -⟩ | ⟨hpe, -, -, hcan⟩
    · rw [hpx]
      exact hk.part.declaration?_withDeclaration_self hxb' hxe' himp
    · obtain ⟨htx, -⟩ := canHoist_eq_true_iff.1 hcan
      obtain ⟨_, -, -, -, htakes⟩ := hk.part.exists_path hxb' hxe'
      rw [hpe]
      exact (hk.part.declaration?_withDeclaration_top himp ((htakes _).1 htx).2 hxb' hxe').1 htx
  · rw [declares_congr (hk.declaration?_placeOf_of_ne ht hxb' hxe' himp x hp)]
    exact hd

/-- The bindings of the next element are declared, as far as they do not take the prefix from each
other. -/
theorem of_ensureBindings (ht : target = none ∨ target = some e) {seen rest : List NodeId}
    {x : NodeId} (hnext : F₀.elementsFrom e = seen.reverse ++ x :: rest)
    {bindings : List Binding} {F G : Forest} {n : Nat} (h : Completing F₀ e target seen F)
    (hb : ∀ b ∈ bindings, b ∈ F.bindingsAt x)
    (hrun : F.ensureBindings target x bindings = (G, .ok n)) :
    Completing F₀ e target seen G ∧
      ∀ a ∈ F.bindingsAt x, a ∈ bindings ∨ (F.scope x).declares a = true →
        ∃ b ∈ F.bindingsAt x, b.nsPrefix = a.nsPrefix ∧ (G.scope x).declares b = true := by
  induction bindings generalizing F n with
  | nil =>
      obtain ⟨rfl, -⟩ := Prod.mk.inj hrun
      exact ⟨h, fun a ha hor => ⟨a, ha, rfl, hor.resolve_left (by simp)⟩⟩
  | cons c bindings ih =>
      have hc := hb c (by simp)
      have htail : ∀ b ∈ bindings, b ∈ F.bindingsAt x := fun b hbm => hb b (by simp [hbm])
      rcases ensureBindings_cons_cases hrun with ⟨hdecl, hrun⟩ | ⟨-, hmiss, m, hrun⟩
      · obtain ⟨hG, hall⟩ := ih h htail hrun
        refine ⟨hG, fun a ha hor => hall a ha ?_⟩
        rcases hor with hm | hd
        · rcases List.mem_cons.1 hm with rfl | hm
          · exact Or.inr hdecl
          · exact Or.inl hm
        · exact Or.inr hd
      · obtain ⟨hG, hall⟩ := ih (.add h hnext hc hmiss)
          (fun b hbm => (bindingsAt_withDeclaration F _ c x).symm ▸ htail b hbm) hrun
        rw [bindingsAt_withDeclaration] at hall
        obtain ⟨hserves, hleaves⟩ := declares_placeOf he ht h hnext hmiss
        refine ⟨hG, fun a ha hor => ?_⟩
        by_cases hp : a.nsPrefix = c.nsPrefix
        · rw [hp]
          exact hall c hc (Or.inr hserves)
        · refine hall a ha ?_
          rcases hor with hm | hd
          · exact Or.inl ((List.mem_cons.1 hm).resolve_left fun hac => hp (hac ▸ rfl))
          · exact Or.inr (hleaves a hp hd)

/-- The walk goes on to the end of the part. -/
theorem of_ensureElements (ht : target = none ∨ target = some e) {seen elements : List NodeId}
    {F G : Forest} {n : Nat} (hnext : F₀.elementsFrom e = seen.reverse ++ elements)
    (h : Completing F₀ e target seen F)
    (hrun : F.ensureElements target elements = (G, .ok n)) :
    Completing F₀ e target (F₀.elementsFrom e).reverse G := by
  induction elements generalizing seen F n with
  | nil =>
      obtain ⟨rfl, -⟩ := Prod.mk.inj hrun
      rw [hnext, List.append_nil, List.reverse_reverse]
      exact h
  | cons x elements ih =>
      have hkeep := isKept he ht h
      have hx := (hkeep.same.isElement_eq x).trans (mem_of_next he hnext).2.1
      obtain ⟨H, m, k, hE, hrun⟩ := ensureElements_cons_ok hrun
      rw [undeclared_scope hx] at hE
      obtain ⟨hH, hall⟩ := of_ensureBindings he ht hnext h
        (fun b hb => (List.mem_filter.1 (List.mem_eraseDups.1 hb)).1) hE
      have hsettled : H.IsSettled x := by
        intro b hb
        rw [(isKept he ht hH).bindings x, ← hkeep.bindings x] at hb ⊢
        refine hall b hb ?_
        by_cases hd : (F.scope x).declares b = true
        · exact Or.inr hd
        · exact Or.inl (List.mem_eraseDups.2 (List.mem_filter.2 ⟨hb, by simpa using hd⟩))
      exact ih (by simpa using hnext) (.visit hH hnext hsettled) hrun

end Completing

/-! ### From the top -/

namespace Completing

variable {F₀ : Forest} {e : NodeId} {target : Option NodeId} (he : F₀.IsPart e)
include he

/-- What is declared where `e` has been visited stays declared. -/
theorem declares_add (htop : F₀.around e = []) (ht : target = none ∨ target = some e)
    {seen rest : List NodeId} {F : Forest} (hF : Completing F₀ e target seen F) {x : NodeId}
    (hnext : F₀.elementsFrom e = seen.reverse ++ x :: rest) {c : Binding}
    (hmiss : (F.scope x).declares c = false) {d : NodeId} (hd : d ∈ seen) {a : Binding}
    (ha : (F.scope d).declares a = true) :
    ((F.withDeclaration (F.placeOf target x c) c).scope d).declares a = true := by
  rcases declaration?_add he ht hF hnext hmiss hd a.nsPrefix with hsame | ⟨hp, hsome, -, -, htk⟩
  · rw [declares_congr hsame]
    exact ha
  · -- there is nothing to be taken
    have hk := isKept he ht hF
    obtain ⟨hdb, hde⟩ := he.links.mem_elementsFrom_iff.1
      (show d ∈ F₀.elementsFrom e by rw [hnext]; simp [hd])
    obtain ⟨p, hap⟩ := Option.isSome_iff_exists.1 hsome
    have himp := (isImplicit_congr hp).trans (isImplicit_eq_false_of_declares hmiss)
    have hm := (hk.part.declares_iff_of_takes (hk.below_iff.2 hdb)
      ((hk.same.isElement_eq d).trans hde) hap himp (hap ▸ htk)).1 ha
    rw [hk.meaningAbove he, meaningAbove, htop] at hm
    cases hm

/-- What has been visited is settled. -/
theorem isSettled (htop : F₀.around e = []) (ht : target = none ∨ target = some e)
    {seen : List NodeId} {F : Forest} (h : Completing F₀ e target seen F) :
    ∀ d ∈ seen, F.IsSettled d := by
  induction h with
  | start => simp
  | @visit seen rest F x hF hnext hall ih =>
      intro d hd
      rcases List.mem_cons.1 hd with rfl | hd
      · exact hall
      · exact ih d hd
  | @add seen rest F x c hF hnext hc hmiss ih =>
      intro d hd b hb
      rw [bindingsAt_withDeclaration] at hb ⊢
      obtain ⟨a, ha, hp, hdecl⟩ := ih d hd b hb
      exact ⟨a, ha, hp, declares_add he htop ht hF hnext hmiss hd hdecl⟩

/-- What a declaration keeps that an element needs holds of the elements in every state. -/
theorem frames {Q : Frame → Prop}
    (hQ : ∀ {x f c}, F₀.Below e x → c ∈ F₀.bindingsAt x → c.isImplicit = false →
      Q f → Q (f.withDeclaration c))
    (h₀ : ∀ {d f}, F₀.Below e d → F₀.frame? d = some f → Q f)
    (ht : target = none ∨ target = some e) {seen : List NodeId} {F : Forest}
    (h : Completing F₀ e target seen F) {d : NodeId} {f : Frame} (hd : F₀.Below e d)
    (hf : F.frame? d = some f) : Q f := by
  induction h generalizing f with
  | start => exact h₀ hd hf
  | visit _ _ _ ih => exact ih hf
  | @add seen rest F x c hF hnext hc hmiss ih =>
      rw [frame?_withDeclaration] at hf
      split at hf
      · obtain ⟨g, hg, rfl⟩ := Option.map_eq_some_iff.1 hf
        exact hQ (mem_of_next he hnext).1 ((isKept he ht hF).bindings x ▸ hc)
          (isImplicit_eq_false_of_declares hmiss) (ih hg)
      · exact ih hf

end Completing

end Forest

end XmlScribe
