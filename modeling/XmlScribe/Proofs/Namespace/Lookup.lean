/-
**Two ways to look up a namespace.**

The namespace of a prefix can be asked for in two ways.  One asks every element on the way out first
by its own name, and only then by its declarations; the other asks declarations only.  The first one
trusts names that nothing may declare, so in general the answers differ.  They agree where every
element on the way has what its name relies on declared: the name that answers first then says what
is declared nearest to its element.  An empty declaration, which takes another one back, counts as
no namespace.

Main results:

* `Scope.lookupUri?_cons` — one more element keeps the agreement if it relies on nothing undeclared;
* `Forest.Arises.lookupUri?_scope` — both ways agree where the elements around an element are
  complete.
-/

import XmlScribe.Proofs.Forest.Lineage
import XmlScribe.Proofs.Namespace.Tidy
import XmlScribe.Proofs.Writer.Living

set_option autoImplicit false

namespace XmlScribe

namespace Scope

/-- The namespace that the nearest declaration of a prefix gives it, if that is not empty. -/
def declaredUri? (s : Scope) (p : Option Text) : Option Text :=
  (s.declaration? p).filter (!·.isEmpty)

/-- A namespace that is not empty is declared only by a declaration of it. -/
theorem declaration?_of_declares {s : Scope} {b : Binding} (himp : b.isImplicit = false)
    (huri : b.uriText ≠ []) (h : s.declares b = true) :
    s.declaration? b.nsPrefix = some b.uriText := by
  rw [declares, himp] at h
  cases hd : s.declaration? b.nsPrefix with
  | some uri => simpa [hd] using h
  | none => simp [hd, huri] at h

variable {p : Option Text} (hxml : p ≠ some xmlPrefix) (hxmlns : p ≠ some xmlnsPrefix)
include hxml hxmlns

/-- What an element with a name in a namespace answers by it is what is declared nearest to it. -/
theorem declaredUri?_of_name {f : Frame} {s : Scope} (h : undeclared (f :: s) = [])
    (hne : f.name.namespaceUri ≠ some []) (hsome : f.name.namespaceUri.isSome = true)
    (hp : f.name.nsPrefix = p) : declaredUri? (f :: s) p = f.name.namespaceUri := by
  obtain ⟨uri, huri⟩ := Option.isSome_iff_exists.1 hsome
  have htext : f.name.binding.uriText = uri := by rw [Binding.uriText, QName.binding, huri]; rfl
  have hnil : uri ≠ [] := fun he => hne (he ▸ huri)
  have himp : f.name.binding.isImplicit = false := by
    simp [Binding.isImplicit, QName.binding, hp, hxml, hxmlns]
  have hdecl : declares (f :: s) f.name.binding = true := by
    by_contra hmiss
    have hmem := mem_undeclared.2 ⟨List.mem_cons_self, Bool.eq_false_iff.2 hmiss⟩
    rw [h] at hmem
    exact List.not_mem_nil hmem
  have hnear := declaration?_of_declares himp (htext ▸ hnil) hdecl
  rw [htext, QName.binding, hp] at hnear
  rw [declaredUri?, hnear, huri]
  simp [Option.filter, hnil]

/-- One more element keeps the agreement if it relies on nothing undeclared. -/
theorem lookupUri?_cons {f : Frame} {s : Scope} (h : undeclared (f :: s) = [])
    (hne : f.name.namespaceUri ≠ some []) (ih : s.lookupUri? p = s.declaredUri? p) :
    lookupUri? (f :: s) p = declaredUri? (f :: s) p := by
  rw [lookupUri?, if_neg hxml, if_neg hxmlns] at ih ⊢
  rw [List.findSome?_cons, Frame.answer?]
  by_cases hname : f.name.namespaceUri.isSome = true ∧ f.name.nsPrefix = p
  · rw [if_pos (by simpa using hname), declaredUri?_of_name hxml hxmlns h hne hname.1 hname.2]
    rfl
  · rw [if_neg (by simpa using hname), declaredUri?, declaration?, List.findSome?_cons]
    cases hd : f.declaration? p with
    | some uri => cases uri <;> rfl
    | none => exact ih

end Scope

namespace Forest

/-- All names are proper, whatever has vanished. -/
theorem Arises.carries_isProper {F : Forest} {gone : NodeId → Prop} (h : F.Arises gone) :
    F.Carries Payload.IsProper := by
  induction h with
  | empty => exact carries_empty
  | call _ call _ ih => exact ih.isProper_apply call
  | vanish _ held _ ih => exact ih.isProper_retain held

/-- The scope of an element begins with the element, and goes on with that of its parent. -/
theorem LinksAgree.scope_eq_cons {F : Forest} {gone : NodeId → Prop} (hF : F.LinksAgree gone)
    {e : NodeId} {f : Frame} (hf : F.frame? e = some f) :
    F.scope e = f :: ((F.parent? e).map F.scope).getD [] := by
  rw [scope, hF.elementLineage_eq_cons (isElement_of_frame? hf), List.filterMap_cons, hf]
  cases F.parent? e <;> rfl

/-- **Both ways to look up a namespace agree where nothing is undeclared.**  Let an element, and all
elements around it, rely on nothing undeclared, in any forest that can arise.  Then the namespace of
any prefix but `xml` and `xmlns`, or the default namespace, is what the nearest declaration says;
there is none if there is no declaration, or if it is empty. -/
theorem Arises.lookupUri?_scope {F : Forest} {gone : NodeId → Prop} (hF : F.Arises gone)
    {e : NodeId} (hcomplete : ∀ a ∈ F.elementLineage e, (F.scope a).undeclared = [])
    {p : Option Text} (hxml : p ≠ some xmlPrefix) (hxmlns : p ≠ some xmlnsPrefix) :
    (F.scope e).lookupUri? p = ((F.scope e).declaration? p).filter (!·.isEmpty) := by
  change _ = (F.scope e).declaredUri? p
  have hnil : Scope.lookupUri? [] p = Scope.declaredUri? [] p := by
    simp [Scope.lookupUri?, Scope.declaredUri?, Scope.declaration?, hxml, hxmlns]
  -- the induction is on the way out
  generalize hl : F.elementLineage e = lineage at hcomplete
  induction lineage generalizing e with
  | nil => rwa [scope, hl]
  | cons d above ih =>
      have he : F.isElement e = true := by
        by_contra hne
        rw [elementLineage_eq_nil (Bool.eq_false_iff.2 hne)] at hl
        cases hl
      obtain ⟨f, hf⟩ := exists_frame_of_isElement he
      have hcons := hF.linksAgree.scope_eq_cons hf
      obtain ⟨rfl, habove⟩ := List.cons.inj ((hF.linksAgree.elementLineage_eq_cons he).symm.trans hl)
      have hhere := hcomplete e List.mem_cons_self
      rw [hcons] at hhere ⊢
      refine Scope.lookupUri?_cons hxml hxmlns hhere
        (isProper_of_frame? hF.carries_isProper hf).1.namespaceUri_ne ?_
      cases hp : F.parent? e with
      | none => exact hnil
      | some q =>
          rw [hp] at habove
          exact ih habove fun a ha => hcomplete a (List.mem_cons_of_mem e ha)

/-- An element `p:r` that declares its prefix and a default namespace; in it an element without a
namespace, which takes the default namespace back; and in that an element `p:q` that declares the
prefix for another namespace. -/
def declaredAnew : Forest :=
  empty.run [.addDocument, .createElementNs 0 (some ['u']) ['p', ':', 'r'],
    .setAttributeNs 1 (some xmlnsUri) "xmlns:p".toList ['u'],
    .setAttributeNs 1 (some xmlnsUri) xmlnsPrefix ['d'], .appendChild 0 1,
    .createElement 0 ['c'], .setAttributeNs 2 (some xmlnsUri) xmlnsPrefix [], .appendChild 1 2,
    .createElementNs 0 (some ['w']) ['p', ':', 'q'],
    .setAttributeNs 3 (some xmlnsUri) "xmlns:p".toList ['w'], .appendChild 2 3]

/-- The inner declaration of the prefix counts, and the default namespace has been taken back. -/
theorem lookupUri?_scope_declaredAnew :
    declaredAnew.elementLineage 3 = [3, 2, 1] ∧
      (declaredAnew.scope 3).lookupUri? (some ['p']) =
        ((declaredAnew.scope 3).declaration? (some ['p'])).filter (!·.isEmpty) ∧
      (declaredAnew.scope 3).declaration? (some ['p']) = some ['w'] ∧
      (declaredAnew.scope 3).lookupUri? none =
        ((declaredAnew.scope 3).declaration? none).filter (!·.isEmpty) ∧
      (declaredAnew.scope 3).declaration? none = some [] ∧
      (declaredAnew.scope 1).declaration? none = some ['d'] := by
  have harises : declaredAnew.Arises fun _ => False := Arises.empty.run _
  have hcomplete : ∀ a ∈ declaredAnew.elementLineage 3, (declaredAnew.scope a).undeclared = [] := by
    decide +kernel
  exact ⟨by decide +kernel,
    harises.lookupUri?_scope hcomplete (by decide) (by decide), by decide +kernel,
    harises.lookupUri?_scope hcomplete (by decide) (by decide), by decide +kernel,
    by decide +kernel⟩

end Forest

end XmlScribe
