/-
**What completion adds.**

Completion makes one declaration after another, whatever its outcome is in the end.  So a property of
a forest that every declaration keeps holds of what completion has made of it.  In particular nothing
but declarations is different afterwards, and every attribute has a name that it had before or one
that is a name.

Main definitions:

* `Attribute.KeepNames` — attributes whose names are old ones, or names;
* `Forest.Redeclares` — a forest in which declarations have been added to another one.

Main results:

* `Forest.declare_eq_ok_cases` — what it takes to make a declaration;
* `Forest.ensureBindings_cons_cases`, `Forest.ensureElements_cons_ok` — how a walk goes on;
* `Forest.ensureElements_invariant` — what every declaration keeps, completion keeps;
* `Forest.redeclares_ensureDeclared` — what completion makes of a forest.
-/

import XmlScribe.Proofs.Markup.Attributes
import XmlScribe.Proofs.Namespace.Part

set_option autoImplicit false

namespace XmlScribe

/-- The name of a declaration, if it can be made, is that of the declaration of the prefix. -/
theorem Binding.eq_declaredName {b : Binding} {q : QName}
    (h : QName.ofText (some xmlnsUri) b.declarationName = .ok q) : q = b.declaredName := by
  obtain ⟨p, u⟩ := b
  cases p with
  | none => exact (Except.ok.inj (QName.ofText_xmlns.symm.trans h)).symm
  | some p =>
      have hsplit : QName.splitAtColon? (⟨some p, u⟩ : Binding).declarationName =
          some (xmlnsPrefix, p) :=
        QName.splitAtColon?_eq_some_iff.2 ⟨rfl, by decide, by decide⟩
      rw [QName.ofText, hsplit] at h
      dsimp only at h
      split at h
      · cases h
      · split at h
        · cases h
        · exact QName.eq_of_ofParts h

/-- Every one of the second attributes has the name of one of the first, or a name that is one. -/
def Attribute.KeepNames (attributes attributes' : List Attribute) : Prop :=
  ∀ a ∈ attributes', (∃ old ∈ attributes, old.name = a.name) ∨ Name.IsName a.name.text

namespace Forest

variable {F G : Forest}

/-! ### One declaration after another -/

/-- Where a declaration is needed and made, its name can be declared. -/
theorem eq_withDeclaration_of_ok {target : NodeId} {b : Binding} (hb : b.isImplicit = false)
    (h : F.declare target b = .ok G) :
    QName.ofText (some xmlnsUri) b.declarationName = .ok b.declaredName ∧
      G = F.withDeclaration target b := by
  cases hn : QName.ofText (some xmlnsUri) b.declarationName with
  | error fault =>
      rw [declare, hb, setAttributeNs, hn] at h
      cases h
  | ok q =>
      obtain rfl := Binding.eq_declaredName hn
      exact ⟨rfl, eq_withDeclaration_of_declare hb hn h⟩

/-- A declaration is not needed, or has a name that can be declared and is made. -/
theorem declare_eq_ok_cases {target : NodeId} {b : Binding} (h : F.declare target b = .ok G) :
    G = F ∨ b.isImplicit = false ∧
      QName.ofText (some xmlnsUri) b.declarationName = .ok b.declaredName ∧
        G = F.withDeclaration target b := by
  cases hb : b.isImplicit with
  | true =>
      rw [declare, if_pos hb] at h
      exact Or.inl (Except.ok.inj h).symm
  | false => exact Or.inr ⟨rfl, eq_withDeclaration_of_ok hb h⟩

/-! ### How a walk goes on -/

/-- The first binding is declared, or a declaration of it is placed. -/
theorem ensureBindings_cons_cases {x : NodeId} {target : Option NodeId} {c : Binding} {bindings : List Binding}
    {n : Nat} (hrun : F.ensureBindings target x (c :: bindings) = (G, .ok n)) :
    (F.scope x).declares c = true ∧ F.ensureBindings target x bindings = (G, .ok n) ∨
      c.isImplicit = false ∧ (F.scope x).declares c = false ∧
        ∃ m, (F.withDeclaration (F.placeOf target x c) c).ensureBindings target x bindings =
          (G, .ok m) := by
  rw [ensureBindings] at hrun
  split at hrun
  · exact Or.inl ⟨‹_›, hrun⟩
  · rename_i hmiss
    have hmiss := Bool.eq_false_iff.2 hmiss
    have himp := isImplicit_eq_false_of_declares hmiss
    split at hrun
    · cases hrun
    · rename_i F' hF'
      obtain ⟨-, rfl⟩ := eq_withDeclaration_of_ok himp hF'
      rcases hE : (F.withDeclaration (F.placeOf target x c) c).ensureBindings target x bindings
        with ⟨H, fault | m⟩
      · rw [hE] at hrun
        cases hrun
      · rw [hE] at hrun
        obtain ⟨rfl, -⟩ := Prod.mk.inj hrun
        exact Or.inr ⟨himp, hmiss, m, rfl⟩

/-- The bindings of the first element are declared, then those of the others. -/
theorem ensureElements_cons_ok {x : NodeId} {target : Option NodeId} {elements : List NodeId} {n : Nat}
    (hrun : F.ensureElements target (x :: elements) = (G, .ok n)) :
    ∃ H k m, F.ensureBindings target x (F.scope x).undeclared = (H, .ok k) ∧
      H.ensureElements target elements = (G, .ok m) := by
  rw [ensureElements] at hrun
  rcases hE : F.ensureBindings target x (F.scope x).undeclared with ⟨H, fault | k⟩
  · rw [hE] at hrun
    cases hrun
  · rw [hE] at hrun
    rcases hE' : H.ensureElements target elements with ⟨H', fault | m⟩
    · simp only [hE'] at hrun
      cases hrun
    · simp only [hE'] at hrun
      obtain ⟨rfl, -⟩ := Prod.mk.inj hrun
      exact ⟨H, k, m, rfl, hE'⟩

section Invariant

variable {I : Forest → Prop}
  (hI : ∀ {F G : Forest} {target : NodeId} {b : Binding}, I F → F.declare target b = .ok G → I G)
include hI

theorem ensureBindings_invariant (target : Option NodeId) (element : NodeId)
    (bindings : List Binding) (h : I F) : I (F.ensureBindings target element bindings).1 := by
  induction bindings generalizing F with
  | nil => exact h
  | cons b bindings ih =>
      rw [ensureBindings]
      split
      · exact ih h
      · split
        · exact h
        · rename_i G hG
          exact ih (hI h hG)

/-- What every declaration keeps, completion keeps. -/
theorem ensureElements_invariant (target : Option NodeId) (elements : List NodeId) (h : I F) :
    I (F.ensureElements target elements).1 := by
  induction elements generalizing F with
  | nil => exact h
  | cons element elements ih =>
      have hone := ensureBindings_invariant hI target element (F.scope element).undeclared h
      rw [ensureElements]
      split
      · rename_i G fault hG
        rwa [hG] at hone
      · rename_i G n hG
        rw [hG] at hone
        exact ih hone

end Invariant

/-! ### What has been added -/

/-- The second forest is the first one but for declarations, and no attribute in it has got a name
that is none. -/
structure Redeclares (F G : Forest) : Prop where
  /-- Nothing but declarations differs. -/
  same : F.SameButDeclarations G fun _ => True
  /-- The names are old, or names of declarations. -/
  names : ∀ {id f g}, F.frame? id = some f → G.frame? id = some g →
    Attribute.KeepNames f.attributes g.attributes

theorem Redeclares.refl (F : Forest) : F.Redeclares F :=
  ⟨.refl F _, fun hf hg a ha => Or.inl ⟨a, Option.some.inj (hg.symm.trans hf) ▸ ha, rfl⟩⟩

theorem Redeclares.declare {target : NodeId} {b : Binding} {H : Forest} (h : F.Redeclares G)
    (hG : G.declare target b = .ok H) : F.Redeclares H := by
  rcases declare_eq_ok_cases hG with rfl | ⟨-, hn, rfl⟩
  · exact h
  · refine ⟨h.same.trans ((sameButDeclarations_withDeclaration G target b).mono
      fun _ _ => trivial), fun {id f g} hf hg a ha => ?_⟩
    rw [frame?_withDeclaration] at hg
    split at hg
    · obtain ⟨g', hg', rfl⟩ := Option.map_eq_some_iff.1 hg
      rcases Attribute.mem_put ha with ⟨old, ho, hname⟩ | rfl
      · exact (h.names hf hg' old ho).imp (fun ⟨older, h₁, h₂⟩ => ⟨older, h₁, h₂.trans hname⟩)
          fun hold => hname ▸ hold
      · refine Or.inr ?_
        rw [QName.text_ofText hn]
        exact QName.isName_of_ofText hn
    · exact h.names hf hg a ha

/-- What completion makes of a forest is the forest with declarations. -/
theorem redeclares_ensureDeclared (F : Forest) (element : NodeId) (target : Option NodeId)
    (deep : Bool) : F.Redeclares (F.ensureDeclared element target deep).1 :=
  ensureElements_invariant (fun h hG => Redeclares.declare h hG) target _ (.refl F)

end Forest

end XmlScribe
