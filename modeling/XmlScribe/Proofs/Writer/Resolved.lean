/-
**Names that have a meaning when an element is written.**

Before an element is written, missing declarations are added to it or below it, and the elements
around it are not written.  A name that was resolved by a declaration around the element keeps its
meaning, unless its prefix is captured: an element that comes later lacks the prefix, and what it
needs is declared on the element that is written.

Main results:

* `Writer.undeclared_saveElement_eq_nil_iff` — the elements below the written one whose names are all
  resolved afterwards;
* `Writer.undeclared_saveElement_shadowed_ne_nil` — a name that was resolved before is not
  afterwards.
-/

import XmlScribe.Proofs.Forest.Linked
import XmlScribe.Proofs.Namespace.Captured
import XmlScribe.Proofs.Writer.Untouched

set_option autoImplicit false

namespace XmlScribe

/-- A root declares the prefix `p`, and has an element with two elements in it.  The first one takes
the prefix from the root; the second one needs it for another namespace. -/
def Forest.shadowed : Forest :=
  empty.run [.addDocument, .createElement 0 ['r'], .setAttribute 1 "xmlns:p".toList ['u'],
    .createElement 0 ['e'], .createElementNs 0 (some ['u']) "p:a".toList,
    .createElementNs 0 (some ['v']) "p:b".toList,
    .appendChild 0 1, .appendChild 1 2, .appendChild 2 3, .appendChild 2 4]

namespace Writer

open Forest

/-- Where the names of an element and of all elements below it are proper and each of these elements
uses a prefix for one namespace, writing the element leaves the names of an element below it
resolved, unless declarations are added at the top and one of the names is captured. -/
theorem undeclared_saveElement_eq_nil_iff {settings : Settings} {profile : Profile} {F : Forest}
    {e : NodeId} {sink : Sink} (hF : F.IsWellLinked) (he : F.isElement e = true)
    (hp : ∀ d f, F.Below e d → F.frame? d = some f → f.IsProper)
    (hx : ∀ d f, F.Below e d → F.frame? d = some f →
      ∀ a ∈ f.attributes, a.isXmlnsXmlns = false)
    (hc : ∀ d f, F.Below e d → F.frame? d = some f → f.IsConsistent)
    (hcomplete : settings.completeNamespaces = true)
    (hok : ((quiet settings profile).saveElement F e sink).fault = none) {d : NodeId}
    (hd : F.Below e d) (hde : F.isElement d = true) :
    (((quiet settings profile).saveElement F e sink).forest.scope d).undeclared = [] ↔
      (settings.declareAtTop = true → ∀ b, ¬ F.IsCaptured e d b) := by
  have hpart : F.IsPart e := ⟨hF, he, fun {d f} hd hf =>
    Frame.isDeclarable_of_isProper (hp d f hd hf) (hx d f hd hf)⟩
  obtain ⟨n, hrun⟩ := forest_saveElement hcomplete hok
  have htarget : (if settings.declareAtTop then some e else none) = none ∨
      (if settings.declareAtTop then some e else none) = some e := by
    split
    · exact Or.inr rfl
    · exact Or.inl rfl
  rw [ensureDeclared_undeclared_eq_nil_iff hpart hc htarget hrun hd hde]
  cases settings.declareAtTop <;> simp

/-! ### A captured name -/

set_option maxRecDepth 4000 in
theorem eq_of_below_shadowed {d : NodeId} (h : shadowed.Below 2 d) : d = 2 ∨ d = 3 ∨ d = 4 := by
  have h₂ : shadowed.children 2 = [3, 4] := by decide
  have h₃ : shadowed.children 3 = [] := by decide
  have h₄ : shadowed.children 4 = [] := by decide
  induction h with
  | refl => exact Or.inl rfl
  | child _ hc ih =>
      rcases ih with rfl | rfl | rfl
      · simpa [h₂] using Or.inr hc
      · simp [h₃] at hc
      · simp [h₄] at hc

set_option maxRecDepth 4000 in
theorem frame_of_below_shadowed {d : NodeId} {f : Frame} (h : shadowed.Below 2 d)
    (hf : shadowed.frame? d = some f) :
    f.IsProper ∧ (∀ a ∈ f.attributes, a.isXmlnsXmlns = false) ∧ f.IsConsistent := by
  have h₂ : shadowed.frame? 2 = some ⟨⟨none, none, ['e']⟩, []⟩ := by decide
  have h₃ : shadowed.frame? 3 = some ⟨⟨some ['u'], some ['p'], ['a']⟩, []⟩ := by decide
  have h₄ : shadowed.frame? 4 = some ⟨⟨some ['v'], some ['p'], ['b']⟩, []⟩ := by decide
  rcases eq_of_below_shadowed h with rfl | rfl | rfl
  · obtain rfl := Option.some.inj (h₂.symm.trans hf)
    exact ⟨⟨Or.inr ⟨['e'], rfl⟩, by simp⟩, by simp, by decide⟩
  · obtain rfl := Option.some.inj (h₃.symm.trans hf)
    exact ⟨⟨Or.inl rfl, by simp⟩, by simp, by decide⟩
  · obtain rfl := Option.some.inj (h₄.symm.trans hf)
    exact ⟨⟨Or.inl rfl, by simp⟩, by simp, by decide⟩

theorem undeclared_saveElement_shadowed_eq_nil_iff :
    (((quiet .standard .everyBlock).saveElement shadowed 2 .unlimited).forest.scope 3).undeclared =
        [] ↔
      (Settings.standard.declareAtTop = true → ∀ b, ¬ shadowed.IsCaptured 2 3 b) :=
  undeclared_saveElement_eq_nil_iff (isWellLinked_empty.run _) (by decide +kernel)
    (fun _ _ hd hf => (frame_of_below_shadowed hd hf).1)
    (fun _ _ hd hf => (frame_of_below_shadowed hd hf).2.1)
    (fun _ _ hd hf => (frame_of_below_shadowed hd hf).2.2) rfl (by decide +kernel)
    (.child .refl (by decide +kernel)) (by decide +kernel)

/-- The first element in the written one loses the meaning of its prefix. -/
theorem undeclared_saveElement_shadowed_ne_nil :
    shadowed.IsWellLinked ∧ shadowed.isElement 2 = true ∧
      (∀ d f, shadowed.Below 2 d → shadowed.frame? d = some f → f.IsProper ∧
        (∀ a ∈ f.attributes, a.isXmlnsXmlns = false) ∧ f.IsConsistent) ∧
      Settings.standard.completeNamespaces = true ∧
      ((quiet .standard .everyBlock).saveElement shadowed 2 .unlimited).fault = none ∧
      shadowed.Below 2 3 ∧ shadowed.isElement 3 = true ∧ (shadowed.scope 3).undeclared = [] ∧
      (((quiet .standard .everyBlock).saveElement shadowed 2 .unlimited).forest.scope
        3).undeclared = [⟨some ['p'], some ['u']⟩] :=
  ⟨isWellLinked_empty.run _, by decide +kernel, fun _ _ hd hf => frame_of_below_shadowed hd hf, rfl,
    by decide +kernel, .child .refl (by decide +kernel), by decide +kernel, by decide +kernel,
    by decide +kernel⟩

end Writer

end XmlScribe
