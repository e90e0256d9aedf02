/-
**Taking qualified names apart.**

The text of a qualified name is cut at its first colon.  What has been cut can be put together
again, and a prefix that has been cut from a name is itself fit to be declared.

Main definitions:

* `QName.IsMade` — a name that the rules of namespaces give to its own namespace and text.

Main results:

* `QName.splitAtColon?_eq_some_iff` — where a name is cut;
* `QName.isMade_of_ofText` — every name that the rules give is made so;
* `QName.ofText_declarationName` — every prefix can be declared.
-/

import XmlScribe.Namespace.Scope
import XmlScribe.Proofs.Name.Valid
import XmlScribe.Proofs.Text.Occurrence

set_option autoImplicit false

namespace XmlScribe

namespace QName

/-! ### Where a name is cut -/

/-- A name is cut at its first colon, unless it begins with it. -/
theorem splitAtColon?_eq_some_iff {name pfx rest : Text} :
    splitAtColon? name = some (pfx, rest) ↔
      name = pfx ++ ':' :: rest ∧ pfx ≠ [] ∧ ':' ∉ pfx := by
  rw [splitAtColon?]
  constructor
  · intro h
    split at h
    · simp at h
    · rename_i hh
      obtain ⟨rfl, hp⟩ := Text.cutAt_singleton_eq_some_iff.1 h
      refine ⟨rfl, ?_, hp⟩
      rintro rfl
      exact hh rfl
  · rintro ⟨rfl, hne, hp⟩
    rw [if_neg, Text.cutAt_singleton_eq_some_iff]
    · exact ⟨rfl, hp⟩
    · cases pfx with
      | nil => exact absurd rfl hne
      | cons c pfx =>
          intro hc
          exact hp (by simp_all)

/-! ### Names that the rules give -/

theorem someNamespace_idem (uri : Option Text) :
    someNamespace (someNamespace uri) = someNamespace uri := by
  cases uri with
  | none => rfl
  | some u => cases u <;> rfl

theorem namespaceUri_of_ofText {uri : Option Text} {name : Text} {q : QName}
    (h : ofText uri name = .ok q) : q.namespaceUri = someNamespace uri := by
  unfold ofText at h
  split at h
  · simp at h
  · split at h
    · rw [eq_of_ofParts h]
    · split at h
      · simp at h
      · rw [eq_of_ofParts h]

theorem isName_of_ofText {uri : Option Text} {name : Text} {q : QName}
    (h : ofText uri name = .ok q) : Name.IsName name := by
  unfold ofText at h
  split at h
  · simp at h
  · rename_i hv
    exact Name.isValid_iff_isName.1 (by simpa using hv)

/-- The rules of namespaces give this name to its own namespace and text. -/
def IsMade (q : QName) : Prop :=
  ofText q.namespaceUri q.text = .ok q

/-- Only the namespace counts that is left of an empty one. -/
theorem ofText_someNamespace (uri : Option Text) (name : Text) :
    ofText (someNamespace uri) name = ofText uri name := by
  simp only [ofText, someNamespace_idem]

theorem isMade_of_ofText {uri : Option Text} {name : Text} {q : QName}
    (h : ofText uri name = .ok q) : q.IsMade := by
  rw [IsMade, namespaceUri_of_ofText h, ofText_someNamespace, text_ofText h, h]

theorem IsMade.isName {q : QName} (h : q.IsMade) : Name.IsName q.text :=
  isName_of_ofText h

/-! ### Prefixes -/

/-- What a prefix and the name after it are like. -/
theorem IsMade.parts {q : QName} {p : Text} (h : q.IsMade) (hp : q.nsPrefix = some p) :
    splitAtColon? q.text = some (p, q.localName) ∧ q.localName ≠ [] ∧ ':' ∉ q.localName ∧
      isMismatch q.namespaceUri (some p) q.text = false := by
  have hq : ofText q.namespaceUri q.text = .ok q := h
  unfold ofText at hq
  split at hq
  · simp at hq
  · split at hq
    · rw [eq_of_ofParts hq] at hp
      simp at hp
    · rename_i pfx rest hs
      split at hq
      · simp at hq
      · rename_i hr
        simp only [List.isEmpty_iff, List.elem_eq_mem, Bool.or_eq_true, decide_eq_true_eq,
          not_or] at hr
        have he := eq_of_ofParts hq
        rw [he] at hp
        cases hp
        have hl : q.localName = rest := by rw [he]
        have hn : someNamespace q.namespaceUri = q.namespaceUri :=
          (namespaceUri_of_ofText h).symm
        rw [hl]
        refine ⟨hs, hr.1, hr.2, ?_⟩
        rw [hn] at hq
        unfold ofParts at hq
        split at hq
        · simp at hq
        · rename_i hm
          simpa using hm

/-- A name without a prefix has no colon after its first character. -/
theorem IsMade.parts_none {q : QName} (h : q.IsMade) (hp : q.nsPrefix = none) :
    splitAtColon? q.text = none ∧ q.text = q.localName ∧
      isMismatch q.namespaceUri none q.text = false := by
  have hq : ofText q.namespaceUri q.text = .ok q := h
  unfold ofText at hq
  split at hq
  · simp at hq
  · split at hq
    · rename_i hs
      have hn : someNamespace q.namespaceUri = q.namespaceUri :=
        (namespaceUri_of_ofText h).symm
      refine ⟨hs, by simp [text, hp], ?_⟩
      rw [hn] at hq
      unfold ofParts at hq
      split at hq
      · simp at hq
      · rename_i hm
        simpa using hm
    · split at hq
      · simp at hq
      · rw [eq_of_ofParts hq] at hp
        simp at hp

/-- A name with a prefix lies in a namespace. -/
theorem IsMade.namespace_isSome {q : QName} {p : Text} (h : q.IsMade)
    (hp : q.nsPrefix = some p) : q.namespaceUri.isSome = true := by
  obtain ⟨-, -, -, hm⟩ := h.parts hp
  cases hu : q.namespaceUri with
  | none => simp [hu, isMismatch] at hm
  | some u => rfl

/-- A prefix is made of name characters, and has no colon. -/
theorem IsMade.prefix_chars {q : QName} {p : Text} (h : q.IsMade) (hp : q.nsPrefix = some p) :
    p ≠ [] ∧ ':' ∉ p ∧ ∀ c ∈ p, Name.isNameChar c = true := by
  obtain ⟨ht, hne, hc⟩ := splitAtColon?_eq_some_iff.1 (h.parts hp).1
  refine ⟨hne, hc, fun c hm => ?_⟩
  exact Name.isNameChar_of_mem h.isName (by rw [ht]; simp [hm])

/-- Every prefix but `xmlns` can be declared. -/
theorem ofText_declarationName {p : Text} (hne : p ≠ []) (hc : ':' ∉ p)
    (hn : ∀ c ∈ p, Name.isNameChar c = true) :
    ofText (some xmlnsUri) (xmlnsPrefix ++ ':' :: p) =
      .ok ⟨some xmlnsUri, some xmlnsPrefix, p⟩ := by
  have hv : Name.isValid (xmlnsPrefix ++ ':' :: p) = true := by
    rw [Name.isValid_iff_isName]
    refine Name.isName_append (Name.isName_iff.1 (by decide)) fun c hm => ?_
    rcases List.mem_cons.1 hm with rfl | hm
    · decide
    · exact hn c hm
  have hs : splitAtColon? (xmlnsPrefix ++ ':' :: p) = some (xmlnsPrefix, p) :=
    splitAtColon?_eq_some_iff.2 ⟨rfl, by decide, by decide⟩
  have he : (p.isEmpty || p.elem ':') = false := by simp [hne, hc]
  rw [ofText, hv, hs]
  simp only [Bool.not_true, Bool.false_eq_true, if_false, he]
  rfl

/-- The default namespace can be declared. -/
theorem ofText_xmlns :
    ofText (some xmlnsUri) xmlnsPrefix = .ok ⟨some xmlnsUri, none, xmlnsPrefix⟩ := rfl

end QName

end XmlScribe
