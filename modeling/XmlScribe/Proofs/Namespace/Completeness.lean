/-
**Completion leaves nothing undeclared.**

The elements of a tree are completed from the outside in, so when an element is visited the elements
around it have been visited before, and none below it has.  A declaration on the visited element
therefore changes the meaning of no name that has been visited.  A declaration on the top is made
only if no element on the way there declares the prefix; a name visited before that has the prefix
then finds its declaration further down than the top, and keeps it.

Main definitions:

* `QName.IsProper`, `Frame.IsProper` — names as the operations of a forest make them;
* `Frame.IsConsistent` — an element uses each prefix for one namespace;
* `Forest.IsReady` — what completion relies on, and keeps.

Main results:

* `Forest.step_keeps` — what one declaration does to the elements visited so far;
* `Forest.ensureElements_keeps` — what the whole walk does;
* `Forest.ensureDeclared_complete` — afterwards nothing is undeclared, nothing but declarations has
  changed, and a second completion changes nothing.
-/

import XmlScribe.Proofs.Forest.Below
import XmlScribe.Proofs.Namespace.Declare

set_option autoImplicit false

namespace XmlScribe

theorem Binding.ne_xmlnsPrefix {b : Binding} (hb : b.isImplicit = false) :
    b.nsPrefix ≠ some xmlnsPrefix := by
  simp only [Binding.isImplicit, Bool.or_eq_false_iff, beq_eq_false_iff_ne, ne_eq] at hb
  exact hb.2

/-! ### What completion relies on -/

/-- The name has been made by the rules of namespaces, or lies outside all namespaces. -/
def QName.IsProper (q : QName) : Prop :=
  q.IsMade ∨ ∃ name, q = plain name

namespace Frame

/-- The names of the element and of its attributes are proper. -/
def IsProper (f : Frame) : Prop :=
  f.name.IsProper ∧ ∀ a ∈ f.attributes, a.name.IsProper

/-- The names of the element and of its attributes have each prefix for one namespace. -/
def IsConsistent (f : Frame) : Prop :=
  ∀ b ∈ f.bindings, ∀ b' ∈ f.bindings, b.nsPrefix = b'.nsPrefix → b.uri = b'.uri

instance (f : Frame) : Decidable f.IsConsistent :=
  inferInstanceAs (Decidable (∀ b ∈ f.bindings, ∀ b' ∈ f.bindings,
    b.nsPrefix = b'.nsPrefix → b.uri = b'.uri))

/-- Bindings of one element with the same prefix are the same. -/
theorem IsConsistent.eq_of_mem {f : Frame} (h : f.IsConsistent) {b b' : Binding}
    (hb : b ∈ f.bindings) (hb' : b' ∈ f.bindings) (hp : b'.nsPrefix = b.nsPrefix) : b' = b := by
  have hu := h b' hb' b hb hp
  cases b
  cases b'
  simp_all

/-- What makes declarations on an element work. -/
structure IsDeclarable (f : Frame) : Prop where
  /-- The declarations have the names of declarations. -/
  declarations : ∀ a ∈ f.attributes, a.IsProperDeclaration
  /-- Every prefix that is used can be declared. -/
  declarable : ∀ b ∈ f.bindings, b.isImplicit = false →
    QName.ofText (some xmlnsUri) b.declarationName = .ok b.declaredName

/-- What completion relies on at an element. -/
structure IsReady (f : Frame) : Prop extends f.IsDeclarable where
  /-- Each prefix is used for one namespace. -/
  consistent : f.IsConsistent

/-- What makes it possible to declare what an element needs. -/
structure IsNamed (f : Frame) : Prop where
  /-- The declarations have the names of declarations, if they declare the prefix `xmlns` or not. -/
  wellNamed : ∀ a ∈ f.attributes, a.IsWellNamed
  /-- Every prefix that is used can be declared. -/
  declarable : ∀ b ∈ f.bindings, b.isImplicit = false →
    QName.ofText (some xmlnsUri) b.declarationName = .ok b.declaredName

/-- What completion relies on at an element if it may leave the default namespace undeclared. -/
structure IsCompletable (f : Frame) : Prop extends f.IsNamed where
  /-- Each prefix is used for one namespace. -/
  consistent : f.IsConsistent

/-- Declarations can be made on elements of the kind, and leave them of the kind. -/
structure IsKind (Q : Frame → Prop) : Prop where
  /-- What the elements need can be declared. -/
  named : ∀ {f}, Q f → f.IsNamed
  /-- They stay of the kind. -/
  withDeclaration : ∀ {f} {b : Binding}, Q f → b.isImplicit = false → Q (f.withDeclaration b)

/-- Elements of the kind use each prefix for one namespace, too. -/
structure IsConsistentKind (Q : Frame → Prop) : Prop extends IsKind Q where
  /-- Each prefix is used for one namespace. -/
  consistent : ∀ {f}, Q f → f.IsConsistent

theorem declarable_of_isProper {q : QName} (h : q.IsProper) :
    QName.ofText (some xmlnsUri) q.binding.declarationName = .ok q.binding.declaredName := by
  cases hp : q.nsPrefix with
  | none =>
      simp only [QName.binding, Binding.declarationName, Binding.declaredName, hp]
      exact QName.ofText_xmlns
  | some p =>
      rcases h with h | ⟨name, rfl⟩
      · obtain ⟨h₁, h₂, h₃⟩ := h.prefix_chars hp
        simp only [QName.binding, Binding.declarationName, Binding.declaredName, hp]
        exact QName.ofText_declarationName h₁ h₂ h₃
      · simp [QName.plain] at hp

theorem declarable_of_mem_bindings {f : Frame} (h : f.IsProper) {b : Binding}
    (hb : b ∈ f.bindings) :
    QName.ofText (some xmlnsUri) b.declarationName = .ok b.declaredName := by
  rcases mem_bindings_iff.1 hb with rfl | ⟨a, ha, -, rfl⟩
  · exact declarable_of_isProper h.1
  · exact declarable_of_isProper (h.2 a ha)

theorem isDeclarable_of_isProper {f : Frame} (h : f.IsProper)
    (hx : ∀ a ∈ f.attributes, a.isXmlnsXmlns = false) : f.IsDeclarable where
  declarations a ha := by
    rcases h.2 a ha with hm | ⟨name, hn⟩
    · exact Attribute.isProperDeclaration_of_isMade hm (hx a ha)
    · intro hd
      simp [Attribute.isDeclaration, hn, QName.plain] at hd
  declarable _ hb _ := declarable_of_mem_bindings h hb

theorem isNamed_of_isProper {f : Frame} (h : f.IsProper) : f.IsNamed where
  wellNamed a ha := by
    rcases h.2 a ha with hm | ⟨name, hn⟩
    · exact Attribute.isWellNamed_of_isMade hm
    · intro hd
      simp [Attribute.isDeclaration, hn, QName.plain] at hd
  declarable _ hb _ := declarable_of_mem_bindings h hb

theorem IsDeclarable.withDeclaration {f : Frame} (h : f.IsDeclarable) {b : Binding}
    (hb : b.isImplicit = false) : (f.withDeclaration b).IsDeclarable where
  declarations := isProperDeclaration_withDeclaration hb h.declarations
  declarable := by
    rw [bindings_withDeclaration]
    exact h.declarable

theorem IsReady.withDeclaration {f : Frame} (h : f.IsReady) {b : Binding}
    (hb : b.isImplicit = false) : (f.withDeclaration b).IsReady where
  toIsDeclarable := h.toIsDeclarable.withDeclaration hb
  consistent := by
    rw [IsConsistent, bindings_withDeclaration]
    exact h.consistent

theorem isConsistentKind_isReady : IsConsistentKind IsReady where
  named h := ⟨fun a ha => (h.declarations a ha).isWellNamed, h.declarable⟩
  withDeclaration h hb := h.withDeclaration hb
  consistent h := h.consistent

theorem isKind_isNamed : IsKind IsNamed where
  named h := h
  withDeclaration h hb :=
    ⟨isWellNamed_withDeclaration hb h.wellNamed, by
      rw [bindings_withDeclaration]
      exact h.declarable⟩

theorem isConsistentKind_isCompletable : IsConsistentKind IsCompletable where
  named h := h.toIsNamed
  withDeclaration h hb := ⟨isKind_isNamed.withDeclaration h.toIsNamed hb, by
    rw [IsConsistent, bindings_withDeclaration]
    exact h.consistent⟩
  consistent h := h.consistent

end Frame

namespace Forest

/-- What completion below an element relies on where the elements are of a kind, and keeps. -/
structure IsReadyFor (F : Forest) (Q : Frame → Prop) (root : NodeId) : Prop where
  /-- The links agree. -/
  tree : F.IsTreeBelow root
  /-- No element stands around the top. -/
  top : F.IsTop root
  /-- The elements are of the kind. -/
  frames : ∀ {d f}, F.Below root d → F.frame? d = some f → Q f
  /-- The elements may be changed, and belong to a document. -/
  writable : ∀ {d}, F.Below root d → F.isElement d = true →
    F.isReadOnly d = false ∧ (F.owner? d).isSome = true

/-- What completion below an element relies on, and keeps. -/
abbrev IsReady (F : Forest) (root : NodeId) : Prop :=
  F.IsReadyFor Frame.IsReady root

theorem exists_payload_of_isElement {F : Forest} {id : NodeId} (h : F.isElement id = true) :
    ∃ name cells, F.payload? id = some (.element name cells) := by
  rw [isElement, beq_iff_eq, type?] at h
  obtain ⟨payload, hp, ht⟩ := Option.map_eq_some_iff.1 h
  cases payload with
  | element name cells => exact ⟨name, cells, hp⟩
  | _ => simp [Payload.type] at ht

theorem exists_frame_of_isElement {F : Forest} {id : NodeId} (h : F.isElement id = true) :
    ∃ f, F.frame? id = some f := by
  obtain ⟨name, cells, hp⟩ := exists_payload_of_isElement h
  exact ⟨_, by rw [frame?, hp]⟩

/-- What is known of an element is what its node carries. -/
theorem exists_payload_of_frame? {F : Forest} {d : NodeId} {f : Frame} (h : F.frame? d = some f) :
    ∃ name cells, F.payload? d = some (.element name cells) ∧
      f = ⟨name, cells.map AttrCell.attr⟩ := by
  rw [frame?] at h
  split at h
  · exact ⟨_, _, ‹_›, (Option.some.inj h).symm⟩
  · cases h

theorem isElement_of_frame? {F : Forest} {id : NodeId} {f : Frame} (h : F.frame? id = some f) :
    F.isElement id = true := by
  obtain ⟨name, cells, hp, -⟩ := exists_payload_of_frame? h
  rw [isElement, type?, hp]
  rfl

/-- All elements below an element that may be changed may be changed. -/
theorem writable_of_below {F : Forest} {root : NodeId} (hF : F.IsTreeBelow root)
    (hr : F.IsTop root) (hw : F.isReadOnly root = false) (ho : (F.owner? root).isSome = true)
    {d : NodeId} (hd : F.Below root d) (he : F.isElement d = true) :
    F.isReadOnly d = false ∧ (F.owner? d).isSome = true := by
  have hown : F.owner? d = F.owner? root := by
    induction hd with
    | refl => rfl
    | @child p c hp hc ih =>
        have hpe := isElement_of_mem_children hF hr hp hc
        have hs := hF.owner_of_mem hp hc
        have ht : F.type? p ≠ some .document := by
          rw [beq_iff_eq.1 hpe]
          simp
        rw [sharesDocument, if_neg ht, Bool.and_eq_true, beq_iff_eq] at hs
        rw [← ih hpe, hs.2]
  have hlock : F.isLocked d = false := by
    rw [isElement, beq_iff_eq, type?] at he
    obtain ⟨payload, hp, ht⟩ := Option.map_eq_some_iff.1 he
    rw [isLocked, hp]
    cases payload <;> simp_all [Payload.type]
  rw [isReadOnly_eq_isLocked, Bool.or_eq_false_iff] at hw
  rw [isReadOnly_eq_isLocked, hlock, hown]
  exact ⟨hw.2, ho⟩

theorem below_iff_of_sameButDeclarations {F G : Forest} {changed : NodeId → Prop}
    (h : F.SameButDeclarations G changed) {root d : NodeId} :
    G.Below root d ↔ F.Below root d := by
  constructor
  · intro hd
    induction hd with
    | refl => exact .refl
    | child _ hc ih => exact .child ih (h.children_eq _ ▸ hc)
  · intro hd
    induction hd with
    | refl => exact .refl
    | child _ hc ih => exact .child ih ((h.children_eq _).symm ▸ hc)

variable {Q : Frame → Prop}

/-- What completion relies on does not depend on what is declared. -/
theorem IsReadyFor.of_sameButDeclarations {F G : Forest} {changed : NodeId → Prop} {root : NodeId}
    (h : F.IsReadyFor Q root) (hs : F.SameButDeclarations G changed)
    (hframes : ∀ d f, F.Below root d → G.frame? d = some f → Q f) : G.IsReadyFor Q root := by
  have hbelow : ∀ {d}, G.Below root d ↔ F.Below root d := below_iff_of_sameButDeclarations hs
  refine ⟨⟨fun hp hc => ?_, fun hp hc => ?_, fun hp hc => ?_⟩, ⟨?_, fun p hp => ?_⟩,
    fun {d f} hd hf => hframes d f (hbelow.1 hd) hf, fun hd he => ?_⟩
  · rw [hs.parent?_eq]
    exact h.tree.parent_of_mem (hbelow.1 hp) (hs.children_eq _ ▸ hc)
  · rw [mayHold, hs.type?_eq, hs.type?_eq]
    exact h.tree.mayHold_of_mem (hbelow.1 hp) (hs.children_eq _ ▸ hc)
  · rw [sharesDocument, hs.type?_eq, hs.owner?_eq, hs.owner?_eq]
    exact h.tree.owner_of_mem (hbelow.1 hp) (hs.children_eq _ ▸ hc)
  · rw [hs.isElement_eq]
    exact h.top.isElement
  · rw [hs.isElement_eq]
    exact h.top.isElement_parent p (hs.parent?_eq root ▸ hp)
  · rw [hs.isReadOnly_eq, hs.owner?_eq]
    exact h.writable (hbelow.1 hd) (hs.isElement_eq _ ▸ he)

/-- Completion keeps what it relies on. -/
theorem IsReadyFor.withDeclaration (hQ : Frame.IsKind Q) {F : Forest} {root : NodeId}
    (h : F.IsReadyFor Q root) {target : NodeId} {b : Binding} (hb : b.isImplicit = false) :
    (F.withDeclaration target b).IsReadyFor Q root := by
  refine h.of_sameButDeclarations (sameButDeclarations_withDeclaration F target b)
    fun d f hd hf => ?_
  rw [frame?_withDeclaration] at hf
  split at hf
  · obtain ⟨e, he, rfl⟩ := Option.map_eq_some_iff.1 hf
    exact hQ.withDeclaration (h.frames hd he) hb
  · exact h.frames hd hf

/-! ### What the prefixes mean -/

/-- The namespace that a node itself declares for a prefix. -/
def declarationOn (F : Forest) (id : NodeId) (p : Option Text) : Option Text :=
  (F.frame? id).bind (·.declaration? p)

/-- The nearest declaration of a prefix, in terms of the nodes. -/
theorem declaration?_scope (F : Forest) (d : NodeId) (p : Option Text) :
    (F.scope d).declaration? p = (F.elementLineage d).findSome? (F.declarationOn · p) := by
  rw [scope, Scope.declaration?]
  induction F.elementLineage d with
  | nil => rfl
  | cons id ids ih =>
      rw [List.filterMap_cons, List.findSome?_cons, declarationOn]
      cases F.frame? id with
      | none => exact ih
      | some f =>
          rw [List.findSome?_cons, ih]
          rfl

theorem findSome?_congr {α β : Type} {f g : α → Option β} {l : List α}
    (h : ∀ a ∈ l, f a = g a) : l.findSome? f = l.findSome? g := by
  induction l with
  | nil => rfl
  | cons a l ih =>
      rw [List.findSome?_cons, List.findSome?_cons, h a (by simp), ih fun b hb => h b (by simp [hb])]

theorem declares_congr {s t : Scope} {b : Binding}
    (h : s.declaration? b.nsPrefix = t.declaration? b.nsPrefix) :
    s.declares b = t.declares b := by
  rw [Scope.declares, Scope.declares, h]

theorem declares_of_declaration? {s : Scope} {b : Binding}
    (h : s.declaration? b.nsPrefix = some b.uriText) : s.declares b = true := by
  rw [Scope.declares, h]
  simp

/-- A prefix is declared only if there is a declaration. -/
theorem exists_declaration?_of_declares {s : Scope} {b : Binding} (hb : b.isImplicit = false)
    (hp : b.nsPrefix.isSome = true) (h : s.declares b = true) :
    ∃ uri, s.declaration? b.nsPrefix = some uri := by
  rw [Scope.declares, hb] at h
  cases hd : s.declaration? b.nsPrefix with
  | some uri => exact ⟨uri, rfl⟩
  | none =>
      rw [hd] at h
      cases hn : b.nsPrefix <;> simp [hn] at h hp

/-- The bindings that the names of an element and of its attributes rely on. -/
def bindingsAt (F : Forest) (d : NodeId) : List Binding :=
  ((F.frame? d).map Frame.bindings).getD []

/-- All bindings that an element relies on are declared. -/
def IsComplete (F : Forest) (d : NodeId) : Prop :=
  ∀ b ∈ F.bindingsAt d, (F.scope d).declares b = true

/-- The value of the attribute of a node that a declaration of the default namespace overwrites. -/
def overwrittenAt? (F : Forest) (d : NodeId) : Option Text :=
  (F.frame? d).bind Frame.overwritten?

/-- The binding is declared at an element, or another declaration of it there would change
nothing. -/
def IsFixed (F : Forest) (d : NodeId) (b : Binding) : Prop :=
  (F.scope d).declares b = true ∨ b.nsPrefix = none ∧ F.overwrittenAt? d = some b.uriText

/-- All bindings that an element relies on are fixed. -/
def IsStable (F : Forest) (d : NodeId) : Prop :=
  ∀ b ∈ F.bindingsAt d, F.IsFixed d b

theorem exists_of_mem_bindingsAt {F : Forest} {d : NodeId} {b : Binding}
    (hb : b ∈ F.bindingsAt d) : ∃ f, F.frame? d = some f ∧ b ∈ f.bindings := by
  rw [bindingsAt] at hb
  cases hf : F.frame? d with
  | none => simp [hf] at hb
  | some f => exact ⟨f, rfl, by simpa [hf] using hb⟩

/-- Bindings of an element that uses a prefix for one namespace are the same if they have the same
prefix. -/
theorem eq_of_mem_bindingsAt {F : Forest} {d : NodeId}
    (h : ∀ f, F.frame? d = some f → f.IsConsistent) {b b' : Binding} (hb : b ∈ F.bindingsAt d)
    (hb' : b' ∈ F.bindingsAt d) (hp : b'.nsPrefix = b.nsPrefix) : b' = b := by
  obtain ⟨f, hf, hbf⟩ := exists_of_mem_bindingsAt hb
  obtain ⟨f', hf', hbf'⟩ := exists_of_mem_bindingsAt hb'
  obtain rfl := Option.some.inj (hf.symm.trans hf')
  exact (h f hf).eq_of_mem hbf hbf' hp

theorem bindingsAt_withDeclaration (F : Forest) (target : NodeId) (b : Binding) (d : NodeId) :
    (F.withDeclaration target b).bindingsAt d = F.bindingsAt d := by
  rw [bindingsAt, frame?_withDeclaration, bindingsAt]
  split
  · cases F.frame? d with
    | none => rfl
    | some f => exact Frame.bindings_withDeclaration f b
  · rfl

/-- A declaration changes what one element declares for one prefix. -/
theorem declarationOn_withDeclaration_of {F : Forest} {target : NodeId} {f : Frame}
    (hf : F.frame? target = some f) (hr : f.IsDeclarable) {b : Binding} (hb : b.isImplicit = false)
    (id : NodeId) (p : Option Text) :
    (F.withDeclaration target b).declarationOn id p =
      if target = id ∧ p = b.nsPrefix then some b.uriText else F.declarationOn id p := by
  rw [declarationOn, frame?_withDeclaration]
  by_cases hid : target = id
  · subst hid
    have hd := Frame.declaration?_withDeclaration hr.declarations hb p
    simp only [if_pos, true_and, hf, Option.map_some, Option.bind_some, hd, declarationOn]
  · rw [if_neg hid, if_neg (fun hc => hid hc.1), declarationOn]

/-- A declaration changes nothing on the other elements. -/
theorem declarationOn_withDeclaration_of_ne {F : Forest} {target : NodeId} (b : Binding)
    {id : NodeId} (hid : target ≠ id) (p : Option Text) :
    (F.withDeclaration target b).declarationOn id p = F.declarationOn id p := by
  rw [declarationOn, frame?_withDeclaration, if_neg hid, declarationOn]

theorem overwrittenAt?_withDeclaration (F : Forest) (target : NodeId) {b : Binding}
    (hb : b.isImplicit = false) (d : NodeId) :
    (F.withDeclaration target b).overwrittenAt? d =
      if target = d ∧ F.isElement d = true ∧ b.nsPrefix = none then some b.uriText
      else F.overwrittenAt? d := by
  rw [overwrittenAt?, frame?_withDeclaration, overwrittenAt?]
  by_cases hd : target = d
  · rw [if_pos hd]
    cases hf : F.frame? d with
    | none =>
        have he : F.isElement d = false := Bool.eq_false_iff.2 fun he => by
          obtain ⟨f, hf'⟩ := exists_frame_of_isElement he
          simp [hf] at hf'
        simp [he]
    | some f =>
        simp [hd, isElement_of_frame? hf, Frame.overwritten?_withDeclaration f hb]
  · rw [if_neg hd, if_neg fun hc => hd hc.1]

theorem isImplicit_eq_false_of_declares {s : Scope} {b : Binding} (h : s.declares b = false) :
    b.isImplicit = false := by
  cases hi : b.isImplicit with
  | false => rfl
  | true =>
      rw [Scope.declares_implicit s hi] at h
      cases h

theorem isImplicit_congr {b c : Binding} (h : b.nsPrefix = c.nsPrefix) :
    b.isImplicit = c.isImplicit := by
  rw [Binding.isImplicit, Binding.isImplicit, h]

section Step

variable (hQ : Frame.IsKind Q) {F : Forest} {root : NodeId} (h : F.IsReadyFor Q root)
include hQ h

/-- A declaration changes what one element declares for one prefix. -/
theorem declarationOn_withDeclaration {target : NodeId} (ht : F.Below root target)
    (he : F.isElement target = true) {b : Binding} (hb : b.isImplicit = false) (id : NodeId)
    {p : Option Text} (hx : p ≠ some xmlnsPrefix)
    (hp : b.nsPrefix.isSome = true ∨ p ≠ b.nsPrefix) :
    (F.withDeclaration target b).declarationOn id p =
      if target = id ∧ p = b.nsPrefix then some b.uriText else F.declarationOn id p := by
  by_cases hid : target = id
  · subst hid
    obtain ⟨f, hf⟩ := exists_frame_of_isElement he
    have hd := Frame.declaration?_withDeclaration_of_isWellNamed
      (hQ.named (h.frames ht hf)).wellNamed hb hx hp
    rw [declarationOn, frame?_withDeclaration]
    simp only [if_pos, true_and, hf, Option.map_some, Option.bind_some, hd, declarationOn]
  · rw [declarationOn_withDeclaration_of_ne b hid, if_neg fun hc => hid hc.1]

/-- The other prefixes mean what they meant. -/
theorem declaration?_scope_of_ne {target : NodeId} (ht : F.Below root target)
    (he : F.isElement target = true) {b : Binding} (hb : b.isImplicit = false) (d : NodeId)
    {p : Option Text} (hx : p ≠ some xmlnsPrefix) (hp : p ≠ b.nsPrefix) :
    ((F.withDeclaration target b).scope d).declaration? p = (F.scope d).declaration? p := by
  rw [declaration?_scope, declaration?_scope,
    (sameButDeclarations_withDeclaration F target b).elementLineage_eq]
  refine congrArg (List.findSome? · _) (funext fun id => ?_)
  rw [declarationOn_withDeclaration hQ h ht he hb id hx (Or.inr hp), if_neg fun hc => hp hc.2]

omit hQ h in
/-- Where the declaration does not reach, the prefixes mean what they meant. -/
theorem declaration?_scope_of_not_mem {target : NodeId} (b : Binding) {d : NodeId}
    (hd : target ∉ F.elementLineage d) (p : Option Text) :
    ((F.withDeclaration target b).scope d).declaration? p = (F.scope d).declaration? p := by
  rw [declaration?_scope, declaration?_scope,
    (sameButDeclarations_withDeclaration F target b).elementLineage_eq]
  exact findSome?_congr fun id hid =>
    declarationOn_withDeclaration_of_ne b (by rintro rfl; exact hd hid) p

/-- On its own element the declaration of a prefix is the nearest one. -/
theorem declaration?_scope_self {d : NodeId} (hd : F.Below root d) (he : F.isElement d = true)
    {b : Binding} (hb : b.isImplicit = false) (hs : b.nsPrefix.isSome = true) :
    ((F.withDeclaration d b).scope d).declaration? b.nsPrefix = some b.uriText := by
  obtain ⟨path, hp⟩ := exists_isPath_of_below hd
  rw [declaration?_scope, (sameButDeclarations_withDeclaration F d b).elementLineage_eq,
    elementLineage_of_isPath h.tree h.top hp he, List.findSome?_cons,
    declarationOn_withDeclaration hQ h hd he hb d (Binding.ne_xmlnsPrefix hb) (Or.inl hs),
    if_pos ⟨rfl, rfl⟩]

/-- A declaration of a prefix on the top is found after all others. -/
theorem declaration?_scope_root {b : Binding} (hb : b.isImplicit = false)
    (hs : b.nsPrefix.isSome = true) (hn : F.declarationOn root b.nsPrefix = none) {d : NodeId}
    (hd : F.Below root d) (he : F.isElement d = true) :
    ((F.withDeclaration root b).scope d).declaration? b.nsPrefix =
      ((F.scope d).declaration? b.nsPrefix).or (some b.uriText) := by
  obtain ⟨path, hp, hr⟩ := elementLineage_eq_append_root h.tree h.top hd he
  have hpath : path.findSome? ((F.withDeclaration root b).declarationOn · b.nsPrefix) =
      path.findSome? (F.declarationOn · b.nsPrefix) :=
    findSome?_congr fun id hid =>
      declarationOn_withDeclaration_of_ne b (by rintro rfl; exact hr hid) b.nsPrefix
  have hroot := declarationOn_withDeclaration hQ h .refl h.top.isElement hb root
    (Binding.ne_xmlnsPrefix hb) (Or.inl hs)
  rw [if_pos ⟨rfl, rfl⟩] at hroot
  rw [declaration?_scope, declaration?_scope,
    (sameButDeclarations_withDeclaration F root b).elementLineage_eq, hp, List.findSome?_append,
    List.findSome?_append, hpath]
  simp [hroot, hn]

/-! ### One step -/

omit hQ in
/-- The elements up to the top are all that there are around an element. -/
theorem pathTo?_root {d : NodeId} (hd : F.Below root d) (he : F.isElement d = true) :
    F.pathTo? d root = some (F.elementLineage d) := by
  obtain ⟨path, hp, hr⟩ := elementLineage_eq_append_root h.tree h.top hd he
  have htake : (path ++ [root]).takeWhile (· != root) = path := by
    rw [List.takeWhile_append_of_pos]
    · simp
    · intro x hx
      rw [bne_iff_ne]
      rintro rfl
      exact hr hx
  simp [pathTo?, hp, htake]

omit hQ in
/-- A declaration is placed on the element that lacks it, or on the top if no element on the way
there declares the prefix. -/
theorem placeOf_cases {target : Option NodeId} (ht : target = none ∨ target = some root)
    {d : NodeId} (hd : F.Below root d) (he : F.isElement d = true) (b : Binding) :
    F.placeOf target d b = d ∨
      (F.placeOf target d b = root ∧ b.nsPrefix.isSome = true ∧
        ∀ id ∈ F.elementLineage d, F.declarationOn id b.nsPrefix = none) := by
  rcases ht with rfl | rfl
  · exact Or.inl rfl
  · rw [placeOf]
    by_cases hc : (b.nsPrefix.isSome && F.canHoist root d b) = true
    · refine Or.inr ⟨if_pos hc, (Bool.and_eq_true_iff.1 hc).1, fun id hid => ?_⟩
      have hc := (Bool.and_eq_true_iff.1 hc).2
      rw [canHoist, pathTo?_root h hd he] at hc
      rw [declarationOn]
      cases hf : F.frame? id with
      | none => rfl
      | some f =>
          obtain ⟨g, hg⟩ := exists_frame_of_isElement h.top.isElement
          simp only [hg, Bool.and_eq_true, List.all_eq_true, List.mem_filterMap,
            Option.isNone_iff_eq_none] at hc
          exact hc.1.1 f ⟨id, hid, hf⟩
    · exact Or.inl (if_neg hc)

end Step

/-- What completion has made of a forest, where the elements in `seen` have been visited and `d` is
being visited. -/
structure Keeps (F G : Forest) (Q : Frame → Prop) (root : NodeId) (seen : List NodeId) (d : NodeId) :
    Prop where
  /-- Completion can go on. -/
  ready : G.IsReadyFor Q root
  /-- Nothing but declarations on the elements of the tree has changed. -/
  same : F.SameButDeclarations G fun id => F.Below root id ∧ F.isElement id = true
  /-- The elements rely on what they relied on. -/
  bindings : ∀ id, G.bindingsAt id = F.bindingsAt id
  /-- The elements that have been visited are stable. -/
  stable : ∀ x ∈ seen, G.IsStable x
  /-- What was fixed at the element is fixed. -/
  fixed : ∀ b ∈ F.bindingsAt d, F.IsFixed d b → G.IsFixed d b

/-- The elements that have been visited, with all elements around them. -/
def IsVisited (F : Forest) (root : NodeId) (seen : List NodeId) : Prop :=
  ∀ x ∈ seen, F.Below root x ∧ F.isElement x = true ∧ ∀ y ∈ F.elementLineage x, y ∈ seen

theorem Keeps.isVisited {F G : Forest} {root d : NodeId} {seen : List NodeId}
    (h : F.Keeps G Q root seen d) {visited : List NodeId} (hv : F.IsVisited root visited) :
    G.IsVisited root visited := by
  intro x hx
  obtain ⟨h₁, h₂, h₃⟩ := hv x hx
  refine ⟨(below_iff_of_sameButDeclarations h.same).2 h₁, (h.same.isElement_eq x).trans h₂, ?_⟩
  rw [h.same.elementLineage_eq]
  exact h₃

theorem Keeps.trans {F G H : Forest} {root d : NodeId} {seen : List NodeId}
    (h : F.Keeps G Q root seen d) (h' : G.Keeps H Q root seen d) : F.Keeps H Q root seen d where
  ready := h'.ready
  same := h.same.trans (h'.same.mono fun id hid =>
    ⟨(below_iff_of_sameButDeclarations h.same).1 hid.1, (h.same.isElement_eq id) ▸ hid.2⟩)
  bindings id := (h'.bindings id).trans (h.bindings id)
  stable := h'.stable
  fixed b hb hd := h'.fixed b (h.bindings d ▸ hb) (h.fixed b hb hd)

/-- A binding stays fixed at an element if the declarations that are found there keep it, and no
other default namespace is declared on the element. -/
theorem IsFixed.withDeclaration {F : Forest} {t x : NodeId} {b b' : Binding}
    (h : F.IsFixed x b') (hb : b.isImplicit = false)
    (hdeclares : (F.scope x).declares b' = true →
      ((F.withDeclaration t b).scope x).declares b' = true)
    (hdefault : t = x → b.nsPrefix.isSome = true) : (F.withDeclaration t b).IsFixed x b' := by
  refine h.imp hdeclares fun ⟨hn, ho⟩ => ⟨hn, ?_⟩
  rw [overwrittenAt?_withDeclaration F t hb, if_neg, ho]
  rintro ⟨he, -, hnone⟩
  simp [hnone] at hdefault
  exact hdefault he

section Place

variable (hQ : Frame.IsConsistentKind Q) {F : Forest} {root : NodeId} (h : F.IsReadyFor Q root)
  {b : Binding} (himp : b.isImplicit = false) {t : NodeId}
include hQ h himp

/-- What the other prefixes mean does not change. -/
theorem declares_withDeclaration_of_ne (ht : F.Below root t) (hte : F.isElement t = true)
    (x : NodeId) {b' : Binding} (hp : b'.nsPrefix ≠ b.nsPrefix)
    (hold : (F.scope x).declares b' = true) :
    ((F.withDeclaration t b).scope x).declares b' = true := by
  cases hi : b'.isImplicit with
  | true => exact Scope.declares_implicit _ hi
  | false =>
      rw [declares_congr (declaration?_scope_of_ne hQ.toIsKind h ht hte himp x
        (Binding.ne_xmlnsPrefix hi) hp)]
      exact hold

variable {d : NodeId} (hd : F.Below root d) (he : F.isElement d = true)
  (hplace : t = d ∨ (t = root ∧ b.nsPrefix.isSome = true ∧
    ∀ id ∈ F.elementLineage d, F.declarationOn id b.nsPrefix = none))
include hd he hplace

omit hQ himp in
/-- A declaration is placed on an element of the tree. -/
theorem below_of_place : F.Below root t ∧ F.isElement t = true := by
  rcases hplace with rfl | ⟨rfl, -, -⟩
  · exact ⟨hd, he⟩
  · exact ⟨.refl, h.top.isElement⟩

/-- The element that lacks the declaration finds it in its place. -/
theorem isFixed_of_place : (F.withDeclaration t b).IsFixed d b := by
  rcases hplace with rfl | ⟨rfl, hs, hnone⟩
  · cases hs : b.nsPrefix.isSome with
    | true =>
        exact Or.inl (declares_of_declaration? (declaration?_scope_self hQ.toIsKind h hd he himp hs))
    | false =>
        have hn : b.nsPrefix = none := by simpa using hs
        exact Or.inr ⟨hn, by rw [overwrittenAt?_withDeclaration F t himp, if_pos ⟨rfl, he, hn⟩]⟩
  · refine Or.inl (declares_of_declaration? ?_)
    rw [declaration?_scope_root hQ.toIsKind h himp hs (hnone _ ?_) hd he, declaration?_scope F d,
      List.findSome?_eq_none_iff.2 hnone, Option.none_or]
    obtain ⟨path, hp, -⟩ := elementLineage_eq_append_root h.tree h.top hd he
    simp [hp]

/-- Where the element that lacks the declaration is not around, its prefix means what it meant: what
declares it there stands below the top. -/
theorem declares_of_place {x : NodeId} (hx : F.Below root x) (hxe : F.isElement x = true)
    (hnot : d ∉ F.elementLineage x) {b' : Binding} (hp : b'.nsPrefix = b.nsPrefix)
    (hold : (F.scope x).declares b' = true) :
    ((F.withDeclaration t b).scope x).declares b' = true := by
  rcases hplace with rfl | ⟨rfl, hsome, hnone⟩
  · rw [declares_congr (declaration?_scope_of_not_mem b hnot b'.nsPrefix)]
    exact hold
  · have himp' := (isImplicit_congr hp).trans himp
    obtain ⟨uri, huri⟩ := exists_declaration?_of_declares himp' (hp ▸ hsome) hold
    have hroot : F.declarationOn t b.nsPrefix = none := by
      obtain ⟨path, hpath, -⟩ := elementLineage_eq_append_root h.tree h.top hd he
      exact hnone t (by simp [hpath])
    rw [declares_congr (t := F.scope x) ?_]
    · exact hold
    · rw [hp] at huri ⊢
      rw [declaration?_scope_root hQ.toIsKind h himp hsome hroot hx hxe, huri]
      rfl

/-- What has been visited stays stable. -/
theorem isStable_of_place {seen : List NodeId} (hv : F.IsVisited root seen) (hnew : d ∉ seen)
    {x : NodeId} (hx : x ∈ seen) (hstable : F.IsStable x) :
    (F.withDeclaration t b).IsStable x := by
  intro b' hb'
  rw [bindingsAt_withDeclaration] at hb'
  obtain ⟨hxb, hxe, hup⟩ := hv x hx
  obtain ⟨ht, hte⟩ := below_of_place h hd he hplace
  refine (hstable b' hb').withDeclaration himp (fun hold => ?_) ?_
  · by_cases hp : b'.nsPrefix = b.nsPrefix
    · exact declares_of_place hQ h himp hd he hplace hxb hxe (fun hm => hnew (hup _ hm)) hp hold
    · exact declares_withDeclaration_of_ne hQ h himp ht hte x hp hold
  · rintro rfl
    rcases hplace with rfl | ⟨-, hsome, -⟩
    · exact absurd hx hnew
    · exact hsome

end Place

/-- A missing declaration is added, and no name that has been visited loses its meaning. -/
theorem step_keeps (hQ : Frame.IsConsistentKind Q) {F : Forest} {root : NodeId}
    (h : F.IsReadyFor Q root) {target : Option NodeId} (ht : target = none ∨ target = some root)
    {seen : List NodeId} (hv : F.IsVisited root seen) (hdone : ∀ x ∈ seen, F.IsStable x)
    {d : NodeId} (hd : F.Below root d) (he : F.isElement d = true) (hnew : d ∉ seen) {b : Binding}
    (hb : b ∈ F.bindingsAt d) (hmiss : (F.scope d).declares b = false) :
    ∃ G, F.declare (F.placeOf target d b) b = .ok G ∧ F.Keeps G Q root seen d ∧
      G.IsFixed d b := by
  have himp := isImplicit_eq_false_of_declares hmiss
  obtain ⟨f, hf, hbf⟩ := exists_of_mem_bindingsAt hb
  have hready := hQ.named (h.frames hd hf)
  have hplace := placeOf_cases h ht hd he b
  generalize F.placeOf target d b = t at hplace ⊢
  have htb := below_of_place h hd he hplace
  obtain ⟨hw, ho⟩ := h.writable htb.1 htb.2
  have hfixed := isFixed_of_place hQ h himp hd he hplace
  refine ⟨_, declare_eq_ok himp (hready.declarable b hbf himp) hw ho, ?_, hfixed⟩
  refine ⟨h.withDeclaration hQ.toIsKind himp, ?_, bindingsAt_withDeclaration F t b, ?_, ?_⟩
  · exact (sameButDeclarations_withDeclaration F t b).mono fun id hid => hid ▸ htb
  · exact fun x hx => isStable_of_place hQ h himp hd he hplace hv hnew hx (hdone x hx)
  · -- the bindings of `d` that have this prefix are this one
    intro b' hb' hold
    by_cases hp : b'.nsPrefix = b.nsPrefix
    · rwa [eq_of_mem_bindingsAt (fun f hf => hQ.consistent (h.frames hd hf)) hb hb' hp]
    · refine hold.imp (declares_withDeclaration_of_ne hQ h himp htb.1 htb.2 d hp) fun hover =>
        ⟨hover.1, ?_⟩
      rw [overwrittenAt?_withDeclaration F t himp, if_neg, hover.2]
      exact fun hc => hp (hover.1.trans hc.2.2.symm)

/-! ### All steps -/

/-- The bindings of one element are fixed, and no name that has been visited loses its
meaning. -/
theorem ensureBindings_keeps (hQ : Frame.IsConsistentKind Q) {F : Forest} {root : NodeId}
    (h : F.IsReadyFor Q root) {target : Option NodeId} (ht : target = none ∨ target = some root)
    {seen : List NodeId} (hv : F.IsVisited root seen) (hdone : ∀ x ∈ seen, F.IsStable x)
    {d : NodeId} (hd : F.Below root d) (he : F.isElement d = true) (hnew : d ∉ seen)
    {bindings : List Binding} (hb : ∀ b ∈ bindings, b ∈ F.bindingsAt d) :
    ∃ G n, F.ensureBindings target d bindings = (G, .ok n) ∧ F.Keeps G Q root seen d ∧
      ∀ b ∈ bindings, G.IsFixed d b := by
  induction bindings generalizing F with
  | nil =>
      exact ⟨F, 0, rfl, ⟨h, .refl F _, fun _ => rfl, hdone, fun _ _ hd => hd⟩, by simp⟩
  | cons b bindings ih =>
      rw [ensureBindings]
      split
      · rename_i hdecl
        obtain ⟨G, n, hG, hk, hall⟩ := ih h hv hdone hd he fun c hc => hb c (by simp [hc])
        refine ⟨G, n, hG, hk, fun c hc => ?_⟩
        rcases List.mem_cons.1 hc with rfl | hc
        · exact hk.fixed c (hb c (by simp)) (Or.inl hdecl)
        · exact hall c hc
      · rename_i hmiss
        obtain ⟨G, hG, hk, hfix⟩ := step_keeps hQ h ht hv hdone hd he hnew (hb b (by simp))
          (Bool.eq_false_iff.2 hmiss)
        obtain ⟨H, n, hH, hk', hall⟩ := ih hk.ready (hk.isVisited hv) hk.stable
          ((below_iff_of_sameButDeclarations hk.same).2 hd) ((hk.same.isElement_eq d).trans he)
          fun c hc => by
            rw [hk.bindings d]
            exact hb c (by simp [hc])
        refine ⟨H, n + 1, ?_, hk.trans hk', fun c hc => ?_⟩
        · simp only [hG, hH]
          rfl
        · rcases List.mem_cons.1 hc with rfl | hc
          · exact hk'.fixed c (hk.bindings d ▸ hb c (by simp)) hfix
          · exact hall c hc

/-- What an element relies on although nothing declares it. -/
theorem undeclared_scope {F : Forest} {d : NodeId} (he : F.isElement d = true) :
    (F.scope d).undeclared =
      ((F.bindingsAt d).filter (!(F.scope d).declares ·)).eraseDups := by
  obtain ⟨f, hf⟩ := exists_frame_of_isElement he
  have hs : F.scope d = f :: (F.around d).filterMap F.frame? := by
    rw [scope, elementLineage_eq_cons_around he, List.filterMap_cons, hf]
  rw [hs, Scope.undeclared, bindingsAt, hf]
  rfl

theorem undeclared_scope_eq_nil_iff {F : Forest} {d : NodeId} (he : F.isElement d = true) :
    (F.scope d).undeclared = [] ↔ F.IsComplete d := by
  rw [undeclared_scope he, List.eq_nil_iff_forall_not_mem]
  simp [List.mem_eraseDups, IsComplete]

/-! ### Stable elements -/

/-- The second forest has the same nodes. -/
abbrev SameNodes (F G : Forest) : Prop :=
  F.SameButDeclarations G fun _ => False

section SameNodes

variable {F G : Forest} (h : F.SameNodes G)
include h

theorem SameNodes.frame?_eq (id : NodeId) : G.frame? id = F.frame? id := by
  rw [frame?, payload?, h.get?_eq not_false]
  rfl

theorem SameNodes.scope_eq (d : NodeId) : G.scope d = F.scope d := by
  rw [scope, h.elementLineage_eq, funext h.frame?_eq]
  rfl

theorem SameNodes.bindingsAt_eq (d : NodeId) : G.bindingsAt d = F.bindingsAt d := by
  rw [bindingsAt, h.frame?_eq, bindingsAt]

theorem SameNodes.isFixed_iff {d : NodeId} {b : Binding} :
    G.IsFixed d b ↔ F.IsFixed d b := by
  rw [IsFixed, IsFixed, h.scope_eq, overwrittenAt?, h.frame?_eq, overwrittenAt?]

theorem SameNodes.isStable_iff {d : NodeId} : G.IsStable d ↔ F.IsStable d := by
  simp only [IsStable, h.bindingsAt_eq, h.isFixed_iff]

theorem SameNodes.isReadyFor {root : NodeId} (hF : F.IsReadyFor Q root) : G.IsReadyFor Q root :=
  hF.of_sameButDeclarations h fun _ _ hd hf => hF.frames hd (h.frame?_eq _ ▸ hf)

end SameNodes

/-- What is overwritten with its own value does not change. -/
theorem sameNodes_withDeclaration {F : Forest} {target : NodeId} {b : Binding}
    (hb : b.nsPrefix = none) (h : F.overwrittenAt? target = some b.uriText) :
    F.SameNodes (F.withDeclaration target b) :=
  { sameButDeclarations_withDeclaration F target b with
    get?_eq := fun _ => get?_withDeclaration_of_overwritten hb h _ }

/-- Where all bindings are fixed, no node changes. -/
theorem ensureBindings_of_isFixed (hQ : Frame.IsKind Q) {F : Forest} {root : NodeId}
    (h : F.IsReadyFor Q root) (target : Option NodeId) {d : NodeId} (hd : F.Below root d)
    (he : F.isElement d = true) {bindings : List Binding}
    (hb : ∀ b ∈ bindings, b ∈ F.bindingsAt d ∧ F.IsFixed d b) :
    ∃ G n, F.ensureBindings target d bindings = (G, .ok n) ∧ F.SameNodes G := by
  induction bindings generalizing F with
  | nil => exact ⟨F, 0, rfl, .refl F _⟩
  | cons b bindings ih =>
      rw [ensureBindings]
      split
      · exact ih h hd he fun c hc => hb c (by simp [hc])
      · rename_i hmiss
        obtain ⟨hmem, hfix⟩ := hb b (by simp)
        obtain ⟨hn, ho⟩ := hfix.resolve_left hmiss
        obtain ⟨f, hf, hbf⟩ := exists_of_mem_bindingsAt hmem
        have himp : b.isImplicit = false := Bool.eq_false_iff.2 fun hi =>
          hmiss (Scope.declares_implicit _ hi)
        have hplace : F.placeOf target d b = d := by
          cases target <;> simp [placeOf, hn]
        obtain ⟨hw, howner⟩ := h.writable hd he
        have hsame := sameNodes_withDeclaration hn ho
        obtain ⟨G, n, hG, hGsame⟩ := ih (hsame.isReadyFor h)
          ((below_iff_of_sameButDeclarations hsame).2 hd) ((hsame.isElement_eq d).trans he)
          fun c hc => by
            rw [hsame.bindingsAt_eq, hsame.isFixed_iff]
            exact hb c (by simp [hc])
        refine ⟨G, n + 1, ?_, hsame.trans hGsame⟩
        simp only [hplace, declare_eq_ok himp
          ((hQ.named (h.frames hd hf)).declarable b hbf himp) hw howner, hG]
        rfl

theorem mem_undeclared {F : Forest} {d : NodeId} (he : F.isElement d = true) {b : Binding} :
    b ∈ (F.scope d).undeclared ↔ b ∈ F.bindingsAt d ∧ (F.scope d).declares b = false := by
  rw [undeclared_scope he, List.mem_eraseDups, List.mem_filter, Bool.not_eq_true']

/-- An element is completed after its parent. -/
theorem visit_keeps (hQ : Frame.IsConsistentKind Q) {F : Forest} {root : NodeId} (h : F.IsReadyFor Q root)
    {target : Option NodeId} (ht : target = none ∨ target = some root) {seen : List NodeId}
    (hv : F.IsVisited root seen) (hdone : ∀ x ∈ seen, F.IsStable x) {d : NodeId}
    (hd : F.Below root d) (he : F.isElement d = true) :
    ∃ G n, F.ensureBindings target d (F.scope d).undeclared = (G, .ok n) ∧
      F.Keeps G Q root seen d ∧ G.IsStable d := by
  by_cases hnew : d ∈ seen
  · obtain ⟨G, n, hG, hsame⟩ := ensureBindings_of_isFixed hQ.toIsKind h target hd he fun b hb =>
      ⟨((mem_undeclared he).1 hb).1, hdone d hnew b ((mem_undeclared he).1 hb).1⟩
    exact ⟨G, n, hG, ⟨hsame.isReadyFor h, hsame.mono fun _ hf => hf.elim, hsame.bindingsAt_eq,
      fun x hx => hsame.isStable_iff.2 (hdone x hx), fun _ _ hb => hsame.isFixed_iff.2 hb⟩,
      hsame.isStable_iff.2 (hdone d hnew)⟩
  · obtain ⟨G, n, hG, hk, hall⟩ := ensureBindings_keeps hQ h ht hv hdone hd he hnew fun b hb =>
      ((mem_undeclared he).1 hb).1
    refine ⟨G, n, hG, hk, fun b hb => ?_⟩
    rw [hk.bindings d] at hb
    by_cases hold : (F.scope d).declares b = true
    · exact hk.fixed b hb (Or.inl hold)
    · exact hall b ((mem_undeclared he).2 ⟨hb, Bool.eq_false_iff.2 hold⟩)

/-- A walk that comes to parents first leaves the elements on its way stable. -/
theorem ensureElements_fixes (hQ : Frame.IsConsistentKind Q) {F : Forest} {root : NodeId}
    (h : F.IsReadyFor Q root) {target : Option NodeId} (ht : target = none ∨ target = some root)
    {seen elements : List NodeId} (hv : F.IsVisited root seen) (hdone : ∀ x ∈ seen, F.IsStable x)
    (hfirst : F.ParentsFirst root seen elements)
    (hel : ∀ d ∈ elements, F.Below root d ∧ F.isElement d = true) :
    ∃ G n, F.ensureElements target elements = (G, .ok n) ∧ G.IsReadyFor Q root ∧
      (F.SameButDeclarations G fun id => F.Below root id ∧ F.isElement id = true) ∧
      ∀ d ∈ seen ++ elements, G.IsStable d := by
  induction elements generalizing F seen with
  | nil => exact ⟨F, 0, rfl, h, .refl F _, by simpa using hdone⟩
  | cons d elements ih =>
      obtain ⟨hd, he⟩ := hel d (by simp)
      obtain ⟨G, m, hG, hk, hstable⟩ := visit_keeps hQ h ht hv hdone hd he
      have hvd : F.IsVisited root (d :: seen) := by
        intro x hx
        rcases List.mem_cons.1 hx with rfl | hx
        · refine ⟨hd, he, fun y hy => ?_⟩
          rcases hfirst.1 with rfl | ⟨p, hp, hc⟩
          · rw [elementLineage_root h.tree h.top] at hy
            simp [List.mem_singleton.1 hy]
          · obtain ⟨hpb, -, hup⟩ := hv p hp
            rw [elementLineage_child h.tree h.top hpb hc he] at hy
            rcases List.mem_cons.1 hy with rfl | hy
            · simp
            · exact List.mem_cons_of_mem _ (hup y hy)
        · obtain ⟨h₁, h₂, h₃⟩ := hv x hx
          exact ⟨h₁, h₂, fun y hy => List.mem_cons_of_mem _ (h₃ y hy)⟩
      have hbelow : ∀ {x}, G.Below root x ↔ F.Below root x :=
        below_iff_of_sameButDeclarations hk.same
      obtain ⟨H, n, hH, hready, hsame, hall⟩ := ih hk.ready (hk.isVisited hvd)
        (fun x hx => by
          rcases List.mem_cons.1 hx with rfl | hx
          · exact hstable
          · exact hk.stable x hx)
        (parentsFirst_of_children_eq hk.same.children_eq hfirst.2)
        (fun x hx => by
          obtain ⟨h₁, h₂⟩ := hel x (by simp [hx])
          exact ⟨hbelow.2 h₁, (hk.same.isElement_eq x).trans h₂⟩)
      refine ⟨H, m + n, ?_, hready, ?_, fun x hx => hall x (by simpa [or_left_comm] using hx)⟩
      · rw [ensureElements, hG]
        simp only [hH]
        rfl
      · exact hk.same.trans (hsame.mono fun id hid =>
          ⟨hbelow.1 hid.1, (hk.same.isElement_eq id) ▸ hid.2⟩)

/-! ### Complete elements -/

/-- A stable element with proper declarations is complete. -/
theorem IsStable.isComplete {F : Forest} {root d : NodeId} (h : F.IsReady root)
    (hd : F.Below root d) (he : F.isElement d = true) (hs : F.IsStable d) : F.IsComplete d := by
  intro b hb
  refine (hs b hb).elim id fun ⟨hn, ho⟩ => declares_of_declaration? ?_
  obtain ⟨f, hf⟩ := exists_frame_of_isElement he
  obtain ⟨path, hp⟩ := exists_isPath_of_below hd
  rw [declaration?_scope, elementLineage_of_isPath h.tree h.top hp he, List.findSome?_cons,
    declarationOn, hf, hn]
  rw [overwrittenAt?, hf, Option.bind_some,
    Frame.overwritten?_eq_declaration? (h.frames hd hf).declarations] at ho
  rw [Option.bind_some, ho]

/-- A walk that comes to parents first leaves nothing undeclared on its way. -/
theorem ensureElements_keeps {F : Forest} {root : NodeId} (h : F.IsReady root)
    {target : Option NodeId} (ht : target = none ∨ target = some root)
    {seen elements : List NodeId} (hv : F.IsVisited root seen)
    (hdone : ∀ x ∈ seen, F.IsComplete x) (hfirst : F.ParentsFirst root seen elements)
    (hel : ∀ d ∈ elements, F.Below root d ∧ F.isElement d = true) :
    ∃ G n, F.ensureElements target elements = (G, .ok n) ∧ G.IsReady root ∧
      (F.SameButDeclarations G fun id => F.Below root id ∧ F.isElement id = true) ∧
      ∀ d ∈ seen ++ elements, G.IsComplete d := by
  obtain ⟨G, n, hG, hready, hsame, hall⟩ := ensureElements_fixes Frame.isConsistentKind_isReady h ht hv
    (fun x hx b hb => Or.inl (hdone x hx b hb)) hfirst hel
  refine ⟨G, n, hG, hready, hsame, fun d hd => ?_⟩
  have hbelow : F.Below root d ∧ F.isElement d = true := by
    rcases List.mem_append.1 hd with hs | hs
    · exact ⟨(hv d hs).1, (hv d hs).2.1⟩
    · exact hel d hs
  exact (hall d hd).isComplete hready ((below_iff_of_sameButDeclarations hsame).2 hbelow.1)
    ((hsame.isElement_eq d).trans hbelow.2)

/-- A walk through complete elements changes nothing. -/
theorem ensureElements_of_isComplete {F : Forest} (target : Option NodeId)
    {elements : List NodeId} (hel : ∀ d ∈ elements, F.isElement d = true)
    (hall : ∀ d ∈ elements, F.IsComplete d) :
    F.ensureElements target elements = (F, .ok 0) := by
  induction elements with
  | nil => rfl
  | cons d elements ih =>
      rw [ensureElements, (undeclared_scope_eq_nil_iff (hel d (by simp))).2 (hall d (by simp)),
        ensureBindings]
      simp only [ih (fun x hx => hel x (by simp [hx])) fun x hx => hall x (by simp [hx])]
      rfl

/-- Completion from an element that no element stands around, where declarations are added at the
top or in place: it succeeds; afterwards the names of all elements below are declared; nothing but
declarations on these elements has changed; and a second completion changes nothing. -/
theorem ensureDeclared_complete {F : Forest} {root : NodeId} {target : Option NodeId}
    (hF : F.IsTreeBelow root) (hr : F.IsTop root)
    (hp : ∀ d f, F.Below root d → F.frame? d = some f → f.IsProper)
    (ho : (F.owner? root).isSome = true) (hw : F.isReadOnly root = false)
    (hx : ∀ d f, F.Below root d → F.frame? d = some f →
      ∀ a ∈ f.attributes, a.isXmlnsXmlns = false)
    (hc : ∀ d f, F.Below root d → F.frame? d = some f → f.IsConsistent)
    (ht : target = none ∨ target = some root) :
    ∃ G n, F.ensureDeclared root target true = (G, .ok n) ∧
      (∀ d, G.Below root d → G.isElement d = true → (G.scope d).undeclared = []) ∧
      (F.SameButDeclarations G fun id => F.Below root id ∧ F.isElement id = true) ∧
      G.ensureDeclared root target true = (G, .ok 0) := by
  have h : F.IsReady root := ⟨hF, hr,
    fun {d f} hd hf => ⟨Frame.isDeclarable_of_isProper (hp d f hd hf) (hx d f hd hf), hc d f hd hf⟩,
    fun hd he => writable_of_below hF hr hw ho hd he⟩
  have hstart : F.IsVisited root [] := by simp [IsVisited]
  obtain ⟨G, n, hG, hready, hsame, hall⟩ := ensureElements_keeps h ht hstart (by simp)
    (parentsFirst_elementsFrom hF hr) fun d hd => (mem_elementsFrom_iff hF hr).1 hd
  have hel : ∀ d, G.Below root d → G.isElement d = true → G.IsComplete d := by
    intro d hd he
    refine hall d ?_
    rw [List.nil_append, mem_elementsFrom_iff hF hr]
    exact ⟨(below_iff_of_sameButDeclarations hsame).1 hd, (hsame.isElement_eq d) ▸ he⟩
  refine ⟨G, n, hG, fun d hd he => (undeclared_scope_eq_nil_iff he).2 (hel d hd he),
    hsame, ?_⟩
  have hmem : ∀ d ∈ G.elementsFrom root, G.Below root d ∧ G.isElement d = true :=
    fun d hd => (mem_elementsFrom_iff hready.tree hready.top).1 hd
  exact ensureElements_of_isComplete target (fun d hd => (hmem d hd).2) fun d hd =>
    hel d (hmem d hd).1 (hmem d hd).2

/-! ### Two elements that use one prefix for two namespaces -/

/-- A document with the elements `p:a` and, in it, `p:b`, whose prefix stands for another
namespace. -/
def twoMeanings : Forest where
  nodes := #[
    ⟨.document .none false, none, none, [1]⟩,
    ⟨.element ⟨some ['u'], some ['p'], ['a']⟩ [], some 0, some 0, [2]⟩,
    ⟨.element ⟨some ['v'], some ['p'], ['b']⟩
      [⟨0, ⟨⟨some xmlnsUri, some xmlnsPrefix, ['p']⟩, ['w']⟩⟩], some 1, some 0, []⟩]
  nextSerial := 1
  detached := []

theorem mem_of_below_twoMeanings {d : NodeId} (h : twoMeanings.Below 1 d) : d = 1 ∨ d = 2 := by
  induction h with
  | refl => exact Or.inl rfl
  | child _ hc ih =>
      rcases ih with rfl | rfl
      · exact Or.inr (List.mem_singleton.1 hc)
      · exact absurd hc (List.not_mem_nil)

theorem isTreeBelow_twoMeanings : twoMeanings.IsTreeBelow 1 := by
  refine ⟨fun hp hc => ?_, fun hp hc => ?_, fun hp hc => ?_⟩ <;>
    rcases mem_of_below_twoMeanings hp with rfl | rfl
  all_goals
    first
    | exact absurd hc (List.not_mem_nil)
    | (obtain rfl := List.mem_singleton.1 hc; rfl)

theorem ensureDeclared_complete_twoMeanings :
    ∃ G n, twoMeanings.ensureDeclared 1 (some 1) true = (G, .ok n) ∧
      (∀ d, G.Below 1 d → G.isElement d = true → (G.scope d).undeclared = []) ∧
      (twoMeanings.SameButDeclarations G fun id =>
        twoMeanings.Below 1 id ∧ twoMeanings.isElement id = true) ∧
      G.ensureDeclared 1 (some 1) true = (G, .ok 0) := by
  refine ensureDeclared_complete isTreeBelow_twoMeanings ⟨rfl, ?_⟩ ?_ rfl rfl ?_ ?_ (Or.inr rfl)
  · intro p hp
    obtain rfl := Option.some.inj hp
    rfl
  · intro d f hd hf
    rcases mem_of_below_twoMeanings hd with rfl | rfl
    · obtain rfl := Option.some.inj hf
      exact ⟨Or.inl rfl, by simp⟩
    · obtain rfl := Option.some.inj hf
      refine ⟨Or.inl rfl, fun a ha => ?_⟩
      obtain rfl := List.mem_singleton.1 ha
      exact Or.inl rfl
  · intro d f hd hf a ha
    rcases mem_of_below_twoMeanings hd with rfl | rfl
    · obtain rfl := Option.some.inj hf
      simp at ha
    · obtain rfl := Option.some.inj hf
      obtain rfl := List.mem_singleton.1 ha
      decide
  · intro d f hd hf
    rcases mem_of_below_twoMeanings hd with rfl | rfl <;>
      (obtain rfl := Option.some.inj hf; decide)

end Forest

end XmlScribe
