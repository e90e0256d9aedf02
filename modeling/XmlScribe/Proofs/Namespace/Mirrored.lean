/-
**Completion of elements that mirror each other.**

What completion does to an element depends on names and attributes, on the elements around, and on
whether changes are taken; it is the same for elements that mirror each other.  The same declarations
are missing and are placed on elements that are paired, so they mirror each other still; and if a
declaration is refused, it is refused for both for the same reason.

Main results:

* `Forest.Mirrors.declare` — a declaration on paired elements;
* `Forest.Mirrors.elementsFrom_rel` — the elements below paired elements are paired;
* `Forest.Mirrors.ensureDeclared` — completion of paired elements.
-/

import XmlScribe.Proofs.Forest.Counterparts

set_option autoImplicit false

namespace XmlScribe

namespace Forest

/-! ### A declaration -/

/-- What a declaration on an element comes to: its name is made, and the document takes changes. -/
theorem IsWellLinked.declare_eq {F : Forest} (hF : F.IsWellLinked) {target : NodeId}
    (ht : F.isElement target = true) (b : Binding) :
    F.declare target b =
      if b.isImplicit then .ok F
      else (QName.ofText (some xmlnsUri) b.declarationName).bind fun q =>
        if F.isReadOnly target then .error .readOnly
        else .ok (F.withAttribute target q b.uriText) := by
  obtain ⟨doc, howner, -⟩ := hF.exists_owner (isElement_iff.1 ht) (by simp)
  rw [declare, setAttributeNs]
  refine if_congr Iff.rfl rfl (congrArg _ (funext fun q => ?_))
  rw [putAttribute, howner]
  simp only [Option.isNone_some, Bool.and_false, Bool.false_eq_true, if_false]
  rfl

theorem SameButDeclarations.sameLinks {F G : Forest} {changed : NodeId → Prop}
    (h : F.SameButDeclarations G changed) : F.SameLinks G :=
  ⟨h.type?_eq, h.parent?_eq, h.children_eq, h.owner?_eq⟩

theorem contentOf_congr {F G : Forest}
    (h : ∀ id data, G.payload? id = some (.text data) ↔ F.payload? id = some (.text data))
    (ids : List NodeId) : G.contentOf ids = F.contentOf ids := by
  induction ids with
  | nil => rfl
  | cons id ids ih =>
      rw [contentOf, contentOf, ih]
      split
      · rename_i data hdata
        rw [(h id data).1 hdata]
      · rename_i hne
        split
        · rename_i data hdata
          exact absurd ((h id data).2 hdata) (hne data)
        · rfl

/-- Only elements carry something else. -/
theorem SameButDeclarations.payload?_eq_some_iff {F G : Forest} {changed : NodeId → Prop}
    (h : F.SameButDeclarations G changed) {id : NodeId} {payload : Payload}
    (hne : payload.type ≠ .element) : G.payload? id = some payload ↔ F.payload? id = some payload := by
  rcases h.payload?_cases id with he | ⟨name, cells, cells', hf, hg, -⟩
  · rw [he]
  · rw [hf, hg]
    constructor <;> intro hp <;> rw [← Option.some.inj hp] at hne <;> exact absurd rfl hne

theorem SameButDeclarations.content_eq {F G : Forest} {changed : NodeId → Prop}
    (h : F.SameButDeclarations G changed) (id : NodeId) : G.content id = F.content id := by
  rw [content, content, h.children_eq]
  exact contentOf_congr (fun _ _ => h.payload?_eq_some_iff (by simp [Payload.type])) _

end Forest

/-- Content that agrees agrees still where declarations have been added. -/
theorem Content.Agrees.of_same {F F' G G' : Forest} {R : NodeId → NodeId → Prop}
    {changed changed' : NodeId → Prop} (hF : F.SameButDeclarations F' changed)
    (hG : G.SameButDeclarations G' changed') {x y : Content} (h : Agrees F G R x y) :
    Agrees F' G' R x y := by
  cases h with
  | text data => exact .text data
  | element ha hb hr =>
      exact .element ((hF.isElement_eq _).trans ha) ((hG.isElement_eq _).trans hb) hr
  | leaf ha hb hne =>
      exact .leaf ((hF.payload?_eq_some_iff hne).2 ha) ((hG.payload?_eq_some_iff hne).2 hb) hne

namespace Forest.Mirrors

variable {F G : Forest} {R : NodeId → NodeId → Prop}

/-- Where declarations have been added, names and attributes have to be the same again. -/
theorem of_same (h : F.Mirrors G R) {F' G' : Forest} {changed changed' : NodeId → Prop}
    (hF : F.SameButDeclarations F' changed) (hG : G.SameButDeclarations G' changed')
    (hframe : ∀ {a b}, R a b → F'.frame? a = G'.frame? b) : F'.Mirrors G' R where
  left := h.left.sameLinks hF.sameLinks
  right := h.right.sameLinks hG.sameLinks
  isElement hr := (hF.isElement_eq _).trans (h.isElement hr)
  frame?_eq := hframe
  content hr := by
    rw [hF.content_eq, hG.content_eq]
    exact (h.content hr).imp fun _ _ hxy => hxy.of_same hF hG
  around hr := by
    rw [hF.elementLineage_eq, hG.elementLineage_eq]
    exact h.around hr
  eq_iff := h.eq_iff
  isReadOnly_eq hr := by
    rw [hF.isReadOnly_eq, hG.isReadOnly_eq]
    exact h.isReadOnly_eq hr

variable (h : F.Mirrors G R)
include h

theorem isElement_right {a b : NodeId} (hr : R a b) : G.isElement b = true := by
  obtain ⟨f, hf⟩ := exists_frame_of_isElement (h.isElement hr)
  exact isElement_of_frame? ((h.frame?_eq hr).symm.trans hf)

theorem withAttribute {a b : NodeId} (hr : R a b) {q : QName}
    (hq : q.namespaceUri = some xmlnsUri) (value : Text) :
    (F.withAttribute a q value).Mirrors (G.withAttribute b q value) R := by
  refine h.of_same (F.sameButDeclarations_withAttribute a hq value)
    (G.sameButDeclarations_withAttribute b hq value) fun {c d} hcd => ?_
  rw [frame?_withAttribute, frame?_withAttribute, h.frame?_eq hcd]
  exact if_congr (h.eq_iff hr hcd) rfl rfl

/-- A declaration on paired elements is made on both or refused for both. -/
theorem declare {a b : NodeId} (hr : R a b) (binding : Binding) :
    (∃ fault, F.declare a binding = .error fault ∧ G.declare b binding = .error fault) ∨
      ∃ F' G', F.declare a binding = .ok F' ∧ G.declare b binding = .ok G' ∧ F'.Mirrors G' R := by
  rw [h.left.declare_eq (h.isElement hr), h.right.declare_eq (h.isElement_right hr),
    ← h.isReadOnly_eq hr]
  cases binding.isImplicit with
  | true => exact Or.inr ⟨F, G, rfl, rfl, h⟩
  | false =>
      cases hq : QName.ofText (some xmlnsUri) binding.declarationName with
      | error fault => exact Or.inl ⟨fault, rfl, rfl⟩
      | ok q =>
          cases hl : F.isReadOnly a with
          | true => exact Or.inl ⟨.readOnly, rfl, rfl⟩
          | false =>
              exact Or.inr ⟨_, _, rfl, rfl,
                h.withAttribute hr (QName.namespaceUri_of_ofText hq) binding.uriText⟩

/-! ### Scopes and places -/

theorem filterMap_frame?_eq {l l' : List NodeId} (hl : List.Forall₂ R l l') :
    l.filterMap F.frame? = l'.filterMap G.frame? := by
  induction hl with
  | nil => rfl
  | cons hr _ ih => rw [List.filterMap_cons, List.filterMap_cons, h.frame?_eq hr, ih]

/-- Paired elements have the same scope. -/
theorem scope_eq {a b : NodeId} (hr : R a b) : F.scope a = G.scope b :=
  h.filterMap_frame?_eq (h.around hr)

theorem elem_eq {t t' : NodeId} (ht : R t t') {l l' : List NodeId} (hl : List.Forall₂ R l l') :
    l.elem t = l'.elem t' := by
  induction hl with
  | nil => rfl
  | cons hx _ ih =>
      rw [List.elem_cons, List.elem_cons, ih]
      exact congrArg (· || _) (Bool.eq_iff_iff.2 (by simpa using h.eq_iff ht hx))

theorem takeWhile_rel {t t' : NodeId} (ht : R t t') {l l' : List NodeId}
    (hl : List.Forall₂ R l l') :
    List.Forall₂ R (l.takeWhile (· != t)) (l'.takeWhile (· != t')) := by
  induction hl with
  | nil => exact .nil
  | @cons x y _ _ hx _ ih =>
      rw [List.takeWhile_cons, List.takeWhile_cons,
        show (x != t) = (y != t') from Bool.eq_iff_iff.2 (by simpa using (h.eq_iff hx ht).not)]
      split
      · exact .cons hx ih
      · exact .nil

/-- The ways up from paired elements to paired elements. -/
theorem pathTo?_rel {a b t t' : NodeId} (hr : R a b) (ht : R t t') :
    Option.Rel (List.Forall₂ R) (F.pathTo? a t) (G.pathTo? b t') := by
  have hl := h.around hr
  rw [pathTo?, pathTo?, h.elem_eq ht hl]
  split
  · exact .some (List.rel_append (h.takeWhile_rel ht hl) (.cons ht .nil))
  · exact .none

theorem canHoist_eq {a b t t' : NodeId} (hr : R a b) (ht : R t t') (binding : Binding) :
    F.canHoist t a binding = G.canHoist t' b binding := by
  have hpath := h.pathTo?_rel hr ht
  obtain ⟨f, hf⟩ := exists_frame_of_isElement (h.isElement ht)
  rw [canHoist, canHoist, ← h.frame?_eq ht, hf]
  generalize F.pathTo? a t = path at hpath
  generalize G.pathTo? b t' = path' at hpath
  cases hpath with
  | none => rfl
  | some hp => simp only [h.filterMap_frame?_eq hp]

/-- A declaration is placed on elements that are paired. -/
theorem placeOf {target target' : Option NodeId} (ht : Option.Rel R target target') {a b : NodeId}
    (hr : R a b) (binding : Binding) :
    R (F.placeOf target a binding) (G.placeOf target' b binding) := by
  cases ht with
  | none => exact hr
  | some ht =>
      rw [Forest.placeOf, Forest.placeOf, h.canHoist_eq hr ht]
      split
      · exact ht
      · exact hr

end Forest.Mirrors

namespace Forest.Mirrors

variable {F G : Forest} {R : NodeId → NodeId → Prop}

/-! ### Completion -/

/-- The declarations that a pair of elements lacks. -/
theorem ensureBindings (h : F.Mirrors G R) {target target' : Option NodeId}
    (ht : Option.Rel R target target') {a b : NodeId} (hr : R a b) (bindings : List Binding) :
    (F.ensureBindings target a bindings).1.Mirrors (G.ensureBindings target' b bindings).1 R ∧
      (F.ensureBindings target a bindings).2 = (G.ensureBindings target' b bindings).2 := by
  induction bindings generalizing F G with
  | nil => exact ⟨h, rfl⟩
  | cons c bindings ih =>
      rw [Forest.ensureBindings, Forest.ensureBindings, h.scope_eq hr]
      split
      · exact ih h
      · rcases h.declare (h.placeOf ht hr c) c with ⟨fault, hF, hG⟩ | ⟨F', G', hF, hG, h'⟩
        · rw [hF, hG]
          exact ⟨h, rfl⟩
        · rw [hF, hG]
          exact ⟨(ih h').1, congrArg (Except.map (· + 1)) (ih h').2⟩

/-- The declarations that pairs of elements lack. -/
theorem ensureElements (h : F.Mirrors G R) {target target' : Option NodeId}
    (ht : Option.Rel R target target') {elements elements' : List NodeId}
    (hl : List.Forall₂ R elements elements') :
    (F.ensureElements target elements).1.Mirrors (G.ensureElements target' elements').1 R ∧
      (F.ensureElements target elements).2 = (G.ensureElements target' elements').2 := by
  induction hl generalizing F G with
  | nil => exact ⟨h, rfl⟩
  | @cons a b elements elements' hr _ ih =>
      rw [Forest.ensureElements, Forest.ensureElements, h.scope_eq hr]
      -- after the declarations of the first pair the scopes of the others are still the same
      obtain ⟨h', he⟩ := h.ensureBindings ht hr (G.scope b).undeclared
      generalize F.ensureBindings target a (G.scope b).undeclared = r at h' he
      generalize G.ensureBindings target' b (G.scope b).undeclared = r' at h' he
      obtain ⟨F', count⟩ := r
      obtain ⟨G', count'⟩ := r'
      obtain rfl : count = count' := he
      cases count with
      | error fault => exact ⟨h', rfl⟩
      | ok n => exact ⟨(ih h').1, congrArg (Except.map (n + ·)) (ih h').2⟩

end Forest.Mirrors

/-! ### All elements -/

theorem flatMap_filter_of {α β : Type} {p : α → Bool} {f : α → List β} {l : List α}
    (h : ∀ x ∈ l, p x = false → f x = []) : (l.filter p).flatMap f = l.flatMap f := by
  induction l with
  | nil => rfl
  | cons x l ih =>
      have ih := ih fun y hy => h y (List.mem_cons_of_mem x hy)
      rw [List.filter_cons, List.flatMap_cons]
      cases hp : p x with
      | true => rw [if_pos rfl, List.flatMap_cons, ih]
      | false => rw [if_neg Bool.false_ne_true, ih, h x List.mem_cons_self hp, List.nil_append]

namespace Forest

namespace IsWellLinked

variable {F : Forest} (hF : F.IsWellLinked)
include hF

/-- No more elements are around an element than there are nodes. -/
theorem length_elementLineage_le {a : NodeId} (ha : F.isElement a = true) :
    (F.elementLineage a).length ≤ F.size :=
  length_le_of_nodup ((hF.linksAgree.nodup_lineageFrom F.size a).sublist
    (List.takeWhile_sublist _)) fun _ hx => hF.linksAgree.lt_size_of_mem_lineageFrom
      (lt_size_of_isElement ha) ((List.takeWhile_sublist _).subset hx)

/-- The elements on the ways down from an element are the element and those on the ways down from its
child elements. -/
theorem filter_preorderFrom {a : NodeId} (ha : F.isElement a = true) (fuel : Nat) :
    (F.preorderFrom (fuel + 1) a).filter F.isElement =
      a :: ((F.children a).filter F.isElement).flatMap fun c =>
        (F.preorderFrom fuel c).filter F.isElement := by
  rw [preorderFrom, List.filter_cons_of_pos ha, List.filter_flatMap, flatMap_filter_of]
  -- a child that is no element has no children, so there are no elements on the ways down from it
  intro c hc hce
  have hnone : F.children c = [] := List.eq_nil_iff_forall_not_mem.2 fun x hx => by
    have he := hF.isElement_of_below ha (.child .refl hc) hx
    rw [hce] at he
    cases he
  cases fuel with
  | zero => rfl
  | succ fuel =>
      rw [preorderFrom, hnone, List.filter_cons, hce]
      rfl

end IsWellLinked

namespace Mirrors

variable {F G : Forest} {R : NodeId → NodeId → Prop} (h : F.Mirrors G R)
include h

/-- There is as much fuel as there are ways down, on both sides. -/
theorem filter_preorderFrom_rel {a b : NodeId} (hr : R a b) {m n : Nat}
    (hm : F.size < m + (F.elementLineage a).length)
    (hn : G.size < n + (G.elementLineage b).length) :
    List.Forall₂ R ((F.preorderFrom m a).filter F.isElement)
      ((G.preorderFrom n b).filter G.isElement) := by
  -- induction on the fuel of the one side; with every step down there is one element more around
  induction m generalizing n a b with
  | zero =>
      have hle := h.left.length_elementLineage_le (h.isElement hr)
      omega
  | succ m ih =>
      obtain _ | n := n
      · have hle := h.right.length_elementLineage_le (h.isElement_right hr)
        omega
      · rw [h.left.filter_preorderFrom (h.isElement hr),
          h.right.filter_preorderFrom (h.isElement_right hr)]
        refine .cons hr (List.rel_flatMap (agrees_elements (h.content_inside hr)) ?_)
        rintro c d ⟨hcd, hc, hd⟩
        refine ih hcd ?_ ?_
        · rw [hc, List.length_cons]
          omega
        · rw [hd, List.length_cons]
          omega

/-- The elements below paired elements are paired. -/
theorem elementsFrom_rel {a b : NodeId} (hr : R a b) :
    List.Forall₂ R (F.elementsFrom a) (G.elementsFrom b) := by
  refine h.filter_preorderFrom_rel hr ?_ ?_
  · rw [elementLineage_eq_cons_around (h.isElement hr), List.length_cons]
    omega
  · rw [elementLineage_eq_cons_around (h.isElement_right hr), List.length_cons]
    omega

/-- Completion of paired elements comes to the same, and they mirror each other still. -/
theorem ensureDeclared {target target' : Option NodeId} (ht : Option.Rel R target target')
    {a b : NodeId} (hr : R a b) :
    (F.ensureDeclared a target true).1.Mirrors (G.ensureDeclared b target' true).1 R ∧
      (F.ensureDeclared a target true).2 = (G.ensureDeclared b target' true).2 :=
  h.ensureElements ht (h.elementsFrom_rel hr)

end Mirrors

end Forest

end XmlScribe
