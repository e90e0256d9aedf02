/-
**Declarations within a part of a document.**

Completion of an element `e` in the middle of a document places declarations on `e` and below it.  A
name below `e` may take the meaning of its prefix from a declaration above `e`; a declaration of the
prefix on `e` is then the nearest one for it.

Main definitions:

* `Forest.TakesFromAbove` — no element from `d` up to `e` declares the prefix;
* `Forest.meaningAbove` — what a prefix means above `e`;
* `Forest.IsPart` — what completion of a part of a document relies on.

Main results:

* `Forest.canHoist_eq_true_iff`, `Forest.placeOf_eq` — where a missing declaration is added;
* `Forest.IsPart.declares_iff_of_takes` — what is taken from above means one thing;
* `Forest.IsPart.declaration?_withDeclaration_eq`,
  `Forest.IsPart.declaration?_withDeclaration_self`,
  `Forest.IsPart.declaration?_withDeclaration_top` — what one declaration changes.
-/

import XmlScribe.Proofs.Forest.Lineage
import XmlScribe.Proofs.Namespace.Completeness

set_option autoImplicit false

namespace XmlScribe

namespace Forest

/-! ### What comes from above -/

/-- The element `d` takes the meaning of a prefix from above `e`: no element from it up to `e`
declares the prefix. -/
def TakesFromAbove (F : Forest) (e d : NodeId) (p : Option Text) : Prop :=
  ∃ path, F.pathTo? d e = some path ∧ ∀ id ∈ path, F.declarationOn id p = none

/-- What a prefix means above `e`, as far as elements declare it. -/
def meaningAbove (F : Forest) (e : NodeId) (p : Option Text) : Option Text :=
  (F.around e).findSome? (F.declarationOn · p)

/-- What completion of an element anywhere in a document relies on. -/
structure IsPart (F : Forest) (e : NodeId) : Prop where
  /-- The links agree. -/
  links : F.IsWellLinked
  /-- It is an element. -/
  isElement : F.isElement e = true
  /-- The elements below it are ready. -/
  frames : ∀ {d f}, F.Below e d → F.frame? d = some f → f.IsDeclarable

/-- A declaration that is made is the one that is asked for. -/
theorem eq_withDeclaration_of_declare {F G : Forest} {target : NodeId} {b : Binding}
    (hb : b.isImplicit = false)
    (hn : QName.ofText (some xmlnsUri) b.declarationName = .ok b.declaredName)
    (h : F.declare target b = .ok G) : G = F.withDeclaration target b := by
  rw [declare, hb, setAttributeNs, hn] at h
  simp only [Bool.false_eq_true, if_false, bind, Except.bind, putAttribute] at h
  split at h
  · cases h
  · split at h
    · cases h
    · exact (Except.ok.inj h).symm

theorem Frame.exists_conflicts {f : Frame} (hf : ∀ a ∈ f.attributes, a.IsProperDeclaration)
    {b : Binding} {p : Text} (hp : b.nsPrefix = some p) (hb : b.isImplicit = false)
    (h : (!conflicts b f.name && !f.attributes.any fun a => conflicts b a.name) = false) :
    ∃ a ∈ f.bindings, a.nsPrefix = some p ∧ a.uriText ≠ b.uriText := by
  have hsame : ∀ {q : QName}, conflicts b q = true →
      q.nsPrefix = some p ∧ q.binding.uriText ≠ b.uriText := by
    intro q hq
    simp only [conflicts, Bool.and_eq_true, beq_iff_eq, bne_iff_ne] at hq
    exact ⟨hq.1.trans hp, hq.2⟩
  cases hn : conflicts b f.name with
  | true => exact ⟨f.name.binding, by simp [Frame.bindings], hsame hn⟩
  | false =>
      simp only [hn, Bool.not_false, Bool.true_and, Bool.not_eq_false', List.any_eq_true] at h
      obtain ⟨a, ha, hc⟩ := h
      have hap := (hsame hc).1
      -- a declaration has a prefix that needs no declaration
      have hdecl : a.isDeclaration = false := by
        cases hd : a.isDeclaration with
        | false => rfl
        | true =>
            rcases hf a ha hd with hq | ⟨q, hq, -⟩
            · rw [hq] at hap
              cases hap
            · rw [hq] at hap
              rw [Binding.isImplicit, hp, ← hap] at hb
              simp at hb
      exact ⟨a.name.binding,
        Frame.mem_bindings_iff.2 (Or.inr ⟨a, ha, ⟨hdecl, by rw [hap]; rfl⟩, rfl⟩), hsame hc⟩

theorem subset_of_pathTo? {F : Forest} {d e : NodeId} {path : List NodeId}
    (h : F.pathTo? d e = some path) : path ⊆ F.elementLineage d := by
  rw [pathTo?] at h
  split at h
  · rename_i hm
    obtain rfl := Option.some.inj h
    intro x hx
    rcases List.mem_append.1 hx with hx | hx
    · exact (List.takeWhile_prefix _).subset hx
    · exact List.mem_singleton.1 hx ▸ List.elem_iff.1 hm
  · cases h

/-- When a declaration may be placed on `e` for an element below it. -/
theorem canHoist_eq_true_iff {F : Forest} {e d : NodeId} {b : Binding} :
    F.canHoist e d b = true ↔ F.TakesFromAbove e d b.nsPrefix ∧
      ∃ f, F.frame? e = some f ∧
        (!conflicts b f.name && !f.attributes.any fun a => conflicts b a.name) = true := by
  have hall : ∀ path : List NodeId,
      ((path.filterMap F.frame?).all fun f => (f.declaration? b.nsPrefix).isNone) = true ↔
        ∀ id ∈ path, F.declarationOn id b.nsPrefix = none := by
    intro path
    induction path with
    | nil => simp
    | cons id path ih =>
        rw [List.filterMap_cons, List.forall_mem_cons, ← ih, declarationOn]
        cases F.frame? id <;> simp
  rw [canHoist, TakesFromAbove]
  cases F.pathTo? d e with
  | none => simp
  | some path =>
      cases F.frame? e with
      | none => simp
      | some f =>
          simp only [Bool.and_assoc, Bool.and_eq_true, hall, Option.some.injEq, exists_eq_left']

/-- Nothing but a use of the prefix at `e` for another namespace keeps a declaration from being
placed there. -/
theorem canHoist_of_agree {F : Forest} {e d : NodeId} (he : F.isElement e = true)
    (hframe : ∀ f, F.frame? e = some f → ∀ a ∈ f.attributes, a.IsProperDeclaration) {b : Binding}
    {p : Text} (hp : b.nsPrefix = some p) (hb : b.isImplicit = false)
    (ht : F.TakesFromAbove e d (some p))
    (hagree : ∀ a ∈ F.bindingsAt e, a.nsPrefix = some p → a.uriText = b.uriText) :
    F.canHoist e d b = true := by
  obtain ⟨f, hf⟩ := exists_frame_of_isElement he
  refine canHoist_eq_true_iff.2 ⟨hp ▸ ht, f, hf, ?_⟩
  refine eq_true_of_ne_false fun hc => ?_
  obtain ⟨a, ha, hap, hne⟩ := Frame.exists_conflicts (hframe f hf) hp hb hc
  exact hne (hagree a (by simpa [bindingsAt, hf] using ha) hap)

/-- A missing declaration is added to the element that lacks it, or to `e`. -/
theorem placeOf_eq {F : Forest} {e : NodeId} {target : Option NodeId}
    (ht : target = none ∨ target = some e) (d : NodeId) (b : Binding) :
    (F.placeOf target d b = d ∧
        (target = some e → b.nsPrefix.isSome = true → F.canHoist e d b = false)) ∨
      (F.placeOf target d b = e ∧ target = some e ∧ b.nsPrefix.isSome = true ∧
        F.canHoist e d b = true) := by
  rcases ht with rfl | rfl
  · exact Or.inl ⟨rfl, fun hc => nomatch hc⟩
  · rw [placeOf]
    by_cases hc : (b.nsPrefix.isSome && F.canHoist e d b) = true
    · obtain ⟨h₁, h₂⟩ := Bool.and_eq_true_iff.1 hc
      exact Or.inr ⟨if_pos hc, rfl, h₁, h₂⟩
    · refine Or.inl ⟨if_neg hc, fun _ hs => ?_⟩
      rw [hs, Bool.true_and, Bool.not_eq_true] at hc
      exact hc

namespace IsPart

variable {F : Forest} {e : NodeId} (h : F.IsPart e)
include h

theorem withDeclaration {target : NodeId} {b : Binding} (hb : b.isImplicit = false) :
    (F.withDeclaration target b).IsPart e := by
  have hs := sameButDeclarations_withDeclaration F target b
  refine ⟨h.links.sameLinks ⟨hs.type?_eq, hs.parent?_eq, hs.children_eq, hs.owner?_eq⟩, ?_,
    fun {d f} hd hf => ?_⟩
  · rw [hs.isElement_eq]
    exact h.isElement
  · have hd := (below_iff_of_sameButDeclarations hs).1 hd
    rw [frame?_withDeclaration] at hf
    split at hf
    · obtain ⟨g, hg, rfl⟩ := Option.map_eq_some_iff.1 hf
      exact (h.frames hd hg).withDeclaration hb
    · exact h.frames hd hf

/-- The elements from `d` up to `e`, and what they take from above. -/
theorem exists_path {d : NodeId} (hd : F.Below e d) (he : F.isElement d = true) :
    ∃ path, F.elementLineage d = path ++ e :: F.around e ∧ e ∉ path ∧
      (∀ x ∈ path, F.Below e x ∧ F.isElement x = true) ∧
      ∀ p, F.TakesFromAbove e d p ↔
        (∀ id ∈ path, F.declarationOn id p = none) ∧ F.declarationOn e p = none := by
  obtain ⟨path, hpath, hne, hall⟩ := h.links.exists_elementLineage_eq h.isElement hd he
  refine ⟨path, hpath, hne, hall, fun p => ?_⟩
  have hto : F.pathTo? d e = some (path ++ [e]) := by
    have htake : (path ++ e :: F.around e).takeWhile (· != e) = path := by
      rw [List.takeWhile_append_of_pos]
      · simp
      · intro x hx
        rw [bne_iff_ne]
        rintro rfl
        exact hne hx
    simp [pathTo?, hpath, htake]
  simp [TakesFromAbove, hto, or_imp, forall_and]

/-- What an element takes from above is what the prefix means there. -/
theorem declaration?_of_takes {d : NodeId} (hd : F.Below e d) (he : F.isElement d = true)
    {p : Option Text} (ht : F.TakesFromAbove e d p) :
    (F.scope d).declaration? p = F.meaningAbove e p := by
  obtain ⟨path, hpath, -, -, htakes⟩ := h.exists_path hd he
  obtain ⟨hnone, hetop⟩ := (htakes p).1 ht
  rw [declaration?_scope, hpath, List.findSome?_append, List.findSome?_eq_none_iff.2 hnone,
    Option.none_or, List.findSome?_cons, hetop]
  rfl

/-- A prefix that an element takes from above is declared if it means there what is needed. -/
theorem declares_iff_of_takes {d : NodeId} (hd : F.Below e d) (he : F.isElement d = true)
    {b : Binding} {p : Text} (hp : b.nsPrefix = some p) (hb : b.isImplicit = false)
    (ht : F.TakesFromAbove e d (some p)) :
    (F.scope d).declares b = true ↔ F.meaningAbove e (some p) = some b.uriText := by
  rw [Scope.declares, hb, hp, h.declaration?_of_takes hd he ht]
  cases hm : F.meaningAbove e (some p) with
  | none => simp
  | some uri => simp

/-- Where the element is an element of the way to another one, it takes from above what that
takes. -/
theorem takes_of_mem_elementLineage {d x : NodeId} (hd : F.Below e d)
    (he : F.isElement d = true) {p : Option Text} (ht : F.TakesFromAbove e d p)
    (hx : x ∈ F.elementLineage d) (hxb : F.Below e x) : F.TakesFromAbove e x p := by
  -- induction on the way down to the element
  induction hd generalizing x with
  | refl =>
      rw [elementLineage_eq_cons_around h.isElement] at hx
      rcases List.mem_cons.1 hx with rfl | hx
      · exact ht
      · exact absurd hxb (h.links.not_below_of_mem_around h.isElement hx)
  | @child q c hq hc ih =>
      have hqe := h.links.isElement_of_below h.isElement hq hc
      rw [h.links.elementLineage_child hc he] at hx
      rcases List.mem_cons.1 hx with rfl | hx
      · exact ht
      · refine ih hqe ?_ hx hxb
        obtain ⟨path, hpath, -, -, htakes⟩ := h.exists_path (.child hq hc) he
        obtain ⟨path', hpath', -, -, htakes'⟩ := h.exists_path hq hqe
        obtain ⟨hnone, hetop⟩ := (htakes p).1 ht
        refine (htakes' p).2 ⟨fun id hid => hnone id ?_, hetop⟩
        rw [h.links.elementLineage_child hc he, hpath', ← List.cons_append] at hpath
        rw [← List.append_cancel_right hpath]
        exact List.mem_cons_of_mem _ hid

/-! ### One declaration -/

/-- What a declaration changes below `e`. -/
theorem declaration?_withDeclaration {target : NodeId} (ht : F.Below e target)
    (hte : F.isElement target = true) {b : Binding} (hb : b.isImplicit = false) (d : NodeId)
    (p : Option Text) :
    ((F.withDeclaration target b).scope d).declaration? p =
      (F.elementLineage d).findSome? fun id =>
        if target = id ∧ p = b.nsPrefix then some b.uriText else F.declarationOn id p := by
  obtain ⟨f, hf⟩ := exists_frame_of_isElement hte
  rw [declaration?_scope, (sameButDeclarations_withDeclaration F target b).elementLineage_eq]
  exact findSome?_congr fun id _ =>
    declarationOn_withDeclaration_of hf (h.frames ht hf) hb id p

/-- A declaration changes nothing where it does not reach, and nothing for other prefixes. -/
theorem declaration?_withDeclaration_eq {target : NodeId} (ht : F.Below e target)
    (hte : F.isElement target = true) {b : Binding} (hb : b.isImplicit = false) {d : NodeId}
    {p : Option Text} (hor : p ≠ b.nsPrefix ∨ target ∉ F.elementLineage d) :
    ((F.withDeclaration target b).scope d).declaration? p = (F.scope d).declaration? p := by
  rw [h.declaration?_withDeclaration ht hte hb, declaration?_scope]
  refine findSome?_congr fun id hid => if_neg ?_
  rintro ⟨rfl, hp⟩
  exact hor.elim (fun hne => hne hp) fun hnot => hnot hid

/-- On its own element a declaration is the nearest one. -/
theorem declaration?_withDeclaration_self {d : NodeId} (hd : F.Below e d)
    (he : F.isElement d = true) {b : Binding} (hb : b.isImplicit = false) :
    ((F.withDeclaration d b).scope d).declaration? b.nsPrefix = some b.uriText := by
  rw [h.declaration?_withDeclaration hd he hb, elementLineage_eq_cons_around he,
    List.findSome?_cons, if_pos ⟨rfl, rfl⟩]

/-- A declaration on `e` is found by what has taken the prefix from above, and by nothing else. -/
theorem declaration?_withDeclaration_top {b : Binding} (hb : b.isImplicit = false)
    (hn : F.declarationOn e b.nsPrefix = none) {d : NodeId} (hd : F.Below e d)
    (he : F.isElement d = true) :
    (F.TakesFromAbove e d b.nsPrefix →
      ((F.withDeclaration e b).scope d).declaration? b.nsPrefix = some b.uriText) ∧
    (¬ F.TakesFromAbove e d b.nsPrefix →
      ((F.withDeclaration e b).scope d).declaration? b.nsPrefix =
        (F.scope d).declaration? b.nsPrefix) := by
  obtain ⟨path, hpath, hne, -, htakes⟩ := h.exists_path hd he
  have hbelow : path.findSome? (fun id => if e = id ∧ b.nsPrefix = b.nsPrefix then some b.uriText
      else F.declarationOn id b.nsPrefix) = path.findSome? (F.declarationOn · b.nsPrefix) :=
    findSome?_congr fun id hid => if_neg <| by
      rintro ⟨rfl, -⟩
      exact hne hid
  rw [h.declaration?_withDeclaration .refl h.isElement hb, declaration?_scope, hpath,
    List.findSome?_append, List.findSome?_append, hbelow, List.findSome?_cons, if_pos ⟨rfl, rfl⟩]
  constructor
  · intro ht
    rw [List.findSome?_eq_none_iff.2 ((htakes _).1 ht).1]
    rfl
  · intro ht
    cases hs : path.findSome? (F.declarationOn · b.nsPrefix) with
    | none => exact absurd ((htakes _).2 ⟨List.findSome?_eq_none_iff.1 hs, hn⟩) ht
    | some uri => rfl

/-- Nothing but a use of the prefix at `e` keeps a declaration from being placed there. -/
theorem canHoist_of_takes {d : NodeId} {b : Binding} {p : Text} (hp : b.nsPrefix = some p)
    (hb : b.isImplicit = false) (ht : F.TakesFromAbove e d (some p))
    (hunused : ∀ a ∈ F.bindingsAt e, a.nsPrefix ≠ some p) : F.canHoist e d b = true :=
  canHoist_of_agree h.isElement (fun _ hf => (h.frames .refl hf).declarations) hp hb ht
    fun a ha hap => absurd hap (hunused a ha)

omit h in
/-- Where a declaration may be placed on `e`, the names at `e` with the prefix agree with it. -/
theorem uriText_eq_of_canHoist {d : NodeId} {b : Binding} (hc : F.canHoist e d b = true)
    {a : Binding} (ha : a ∈ F.bindingsAt e) (hp : a.nsPrefix = b.nsPrefix) :
    a.uriText = b.uriText := by
  obtain ⟨-, f, hf, hnone⟩ := canHoist_eq_true_iff.1 hc
  obtain ⟨f', hf', haf⟩ := exists_of_mem_bindingsAt ha
  obtain rfl := Option.some.inj (hf.symm.trans hf')
  simp only [Bool.and_eq_true, Bool.not_eq_true', List.any_eq_false] at hnone
  have hname : ∀ {q : QName}, ¬ conflicts b q = true → q.binding.nsPrefix = b.nsPrefix →
      q.binding.uriText = b.uriText := by
    intro q hq hqp
    have hu : q.namespaceUri.getD [] = b.uriText := by
      simpa [conflicts, show q.nsPrefix = b.nsPrefix from hqp] using hq
    exact hu
  rcases Frame.mem_bindings_iff.1 haf with rfl | ⟨attr, hattr, -, rfl⟩
  · exact hname (by simp [hnone.1]) hp
  · exact hname (hnone.2 attr hattr) hp

end IsPart

end Forest

end XmlScribe
