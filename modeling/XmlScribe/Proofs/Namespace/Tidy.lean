/-
**Elements whose start tags are read.**

The names of an element may be made one by one, with whatever namespaces.  Its start tag is read all
the same if no two attributes have the same text, no attribute looks like a declaration without
being one, and for every prefix that is used one of its namespaces is declared.

Main definitions:

* `QName.AreTidy`, `Frame.IsTidy` — names that can be told apart and are what their texts say;
* `Frame.IsSettledIn` — for every prefix that is used one of its namespaces is declared.

Main results:

* `Frame.IsTidy.withDeclaration` — a declaration that is needed keeps an element tidy;
* `Frame.IsTidy.declaration?_cons` — what is declared in scope of an element is found by reading;
* `Frame.IsTidy.isAccepted_name`, `Frame.IsTidy.isAccepted_of_mem` — all names are resolved.
-/

import XmlScribe.Proofs.Markup.Accepted
import XmlScribe.Proofs.Namespace.Planted

set_option autoImplicit false

namespace XmlScribe

open Builder

/-! ### One name -/

namespace QName

theorem IsMade.someNamespace {q : QName} (h : q.IsMade) :
    QName.someNamespace q.namespaceUri = q.namespaceUri :=
  (namespaceUri_of_ofText h).symm

/-- The namespace of a name is never the empty text. -/
theorem IsProper.namespaceUri_ne {q : QName} (h : q.IsProper) :
    q.namespaceUri ≠ some [] := by
  rcases h with hmade | ⟨name, rfl⟩
  · rw [← hmade.someNamespace]
    rcases q.namespaceUri with _ | _ | ⟨c, u⟩ <;> simp [QName.someNamespace]
  · exact (Option.some_ne_none _).symm

/-- A text with a prefix gets every namespace that fits the prefix. -/
theorem IsMade.ofText_of_nsPrefix {q r : QName} {p : Text} (hq : q.IsMade)
    (hqp : q.nsPrefix = some p) (hr : r.IsMade) (hrp : r.nsPrefix = some p) :
    ofText r.namespaceUri q.text = .ok ⟨r.namespaceUri, some p, q.localName⟩ := by
  obtain ⟨hsplit, hl, hc, -⟩ := hq.parts hqp
  obtain ⟨-, -, -, hm⟩ := hr.parts hrp
  have hmismatch : isMismatch r.namespaceUri (some p) q.text = false := by
    -- the text counts only where there is no prefix
    cases hu : r.namespaceUri with
    | none => rw [hu] at hm; cases hm
    | some u => rw [hu] at hm; exact hm
  have hparts : (q.localName.isEmpty || q.localName.elem ':') = false := by simp [hl, hc]
  rw [ofText, Name.isValid_iff_isName.2 hq.isName, hsplit]
  simp only [Bool.not_true, Bool.false_eq_true, if_false, hparts]
  rw [hr.someNamespace, ofParts, hmismatch]
  rfl

/-- The prefixes `xml` and `xmlns` stand for one namespace each. -/
theorem IsMade.namespaceUri_of_nsPrefix {q : QName} (h : q.IsMade) {p uri : Text}
    (hp : q.nsPrefix = some p)
    (hor : p = xmlPrefix ∧ uri = xmlUri ∨ p = xmlnsPrefix ∧ uri = xmlnsUri) :
    q.namespaceUri = some uri := by
  obtain ⟨-, -, -, hm⟩ := h.parts hp
  cases hu : q.namespaceUri with
  | none => rw [hu] at hm; cases hm
  | some u =>
      rw [hu] at hm
      rcases hor with ⟨rfl, rfl⟩ | ⟨rfl, rfl⟩ <;>
        simp only [isMismatch, beq_self_eq_true, Bool.true_and, Bool.or_eq_false_iff,
          bne_eq_false_iff_eq] at hm
      · rw [hm.1.1]
      · rw [hm.1.2]

/-- A made name whose binding is declared is what its text is resolved to. -/
theorem IsMade.resolves {s : Scope} {q : QName} (hq : q.IsMade)
    (h : s.declares q.binding = true) : q.Resolves s.declaration? := by
  refine ⟨q.namespaceUri, ?_, hq⟩
  have hsome := hq.someNamespace
  by_cases hx : q.nsPrefix = some xmlPrefix
  · rw [hx, hq.namespaceUri_of_nsPrefix hx (Or.inl ⟨rfl, rfl⟩)]
    rfl
  by_cases hn : q.nsPrefix = some xmlnsPrefix
  · rw [hn, hq.namespaceUri_of_nsPrefix hn (Or.inr ⟨rfl, rfl⟩)]
    rfl
  have himp : q.binding.isImplicit = false := by simp [Binding.isImplicit, binding, hx, hn]
  rw [Scope.declares, himp, if_neg (by decide)] at h
  unfold namespaceIn
  rw [if_neg hx, if_neg hn]
  cases hd : s.declaration? q.nsPrefix with
  | some uri =>
      rw [show s.declaration? q.binding.nsPrefix = some uri from hd] at h
      obtain rfl : uri = q.namespaceUri.getD [] := beq_iff_eq.1 h
      cases hu : q.namespaceUri with
      | none => rfl
      | some u =>
          rw [hu] at hsome
          exact congrArg Except.ok hsome
  | none =>
      rw [show s.declaration? q.binding.nsPrefix = none from hd] at h
      simp only [Bool.and_eq_true, Option.isNone_iff_eq_none, List.isEmpty_iff] at h
      cases hu : q.namespaceUri with
      | none => rw [show q.nsPrefix = none from h.1]
      | some u =>
          rw [Binding.uriText, binding, hu] at h
          rw [hu] at hsome
          obtain rfl : u = [] := h.2
          cases hsome

/-- A text with a prefix is resolved if a namespace is declared that fits the prefix. -/
theorem IsMade.exists_resolves {s : Scope} {q r : QName} {p : Text} (hq : q.IsMade)
    (hqp : q.nsPrefix = some p) (hr : r.IsMade) (hrp : r.nsPrefix = some p)
    (h : s.declares r.binding = true) :
    ∃ q' : QName, q'.Resolves s.declaration? ∧ q'.text = q.text ∧ q'.nsPrefix = some p := by
  obtain ⟨uri, hu, hof⟩ := hr.resolves h
  have hmade := hq.ofText_of_nsPrefix hqp hr hrp
  have ht := text_ofText hmade
  refine ⟨_, ⟨uri, hrp ▸ hu, ?_⟩, ht, rfl⟩
  rw [ht, ← ofText_someNamespace, ← namespaceUri_of_ofText hof]
  exact hmade

/-! ### Several names -/

/-- The names of attributes can be told apart by their texts, and are declarations if their texts
are. -/
structure AreTidy (names : List QName) : Prop where
  /-- The rules of namespaces have made them. -/
  isMade : ∀ q ∈ names, q.IsMade
  /-- They have different texts. -/
  nodup : (names.map text).Nodup
  /-- None would declare the prefix `xmlns`. -/
  ne_xmlnsXmlns : ∀ q ∈ names, q.text ≠ Attribute.xmlnsXmlns
  /-- What is written as a declaration of the default namespace is one. -/
  declares : ∀ q ∈ names, q.text = xmlnsPrefix → q.namespaceUri = some xmlnsUri

/-- The text of a tidy name is that of a declaration if the name is one. -/
theorem AreTidy.isDeclarationName_iff {names : List QName} (h : AreTidy names) {q : QName}
    (hq : q ∈ names) :
    Attribute.isDeclarationName q.text = true ↔ q.namespaceUri = some xmlnsUri := by
  refine ⟨fun hd => ?_, fun hu =>
    Attribute.isDeclarationName_of_isMade (h.isMade q hq) hu (h.ne_xmlnsXmlns q hq)⟩
  rw [Attribute.isDeclarationName, Attribute.prefixOfDeclarationName?] at hd
  split at hd
  · exact h.declares q hq ‹_›
  · rw [Option.isSome_map, Option.isSome_iff_exists] at hd
    obtain ⟨t, ht⟩ := hd
    have hsplit : splitAtColon? q.text = some (xmlnsPrefix, t) := by
      rw [splitAtColon?_eq_some_iff, Text.after?_eq_some_iff.1 ht]
      exact ⟨by simp, by decide, by decide⟩
    have hp : q.nsPrefix = some xmlnsPrefix := by
      rw [← fst_splitAtColon? (h.isMade q hq), hsplit]
      rfl
    exact (h.isMade q hq).namespaceUri_of_nsPrefix hp (Or.inr ⟨rfl, rfl⟩)

/-- A declaration that is not there yet can be added. -/
theorem AreTidy.append {names : List QName} (h : AreTidy names) {b : Binding}
    (himp : b.isImplicit = false)
    (hof : ofText (some xmlnsUri) b.declarationName = .ok b.declaredName)
    (hnew : ∀ q ∈ names, q ≠ b.declaredName) : AreTidy (names ++ [b.declaredName]) := by
  have hmade := isMade_of_ofText hof
  have ht := text_ofText hof
  have hu : b.declaredName.namespaceUri = some xmlnsUri := namespaceUri_of_ofText hof
  have hx : b.declaredName.text ≠ Attribute.xmlnsXmlns := by
    rw [ht]
    obtain ⟨_ | p, u⟩ := b
    · exact show xmlnsPrefix ≠ Attribute.xmlnsXmlns by decide
    · intro he
      have hp : p = xmlnsPrefix := by
        simpa [Binding.declarationName, Attribute.xmlnsXmlns] using he
      subst hp
      cases himp
  refine ⟨?_, ?_, ?_, ?_⟩
  · intro q hq
    rcases List.mem_append.1 hq with hq | hq
    · exact h.isMade q hq
    · exact List.mem_singleton.1 hq ▸ hmade
  · rw [List.map_append, List.nodup_append]
    refine ⟨h.nodup, by simp, ?_⟩
    rintro t hm t' ht' rfl
    obtain ⟨q, hq, rfl⟩ := List.mem_map.1 hm
    have hqt : q.text = b.declaredName.text := by simpa using ht'
    -- a name with the text of the declaration is the declaration
    have hqu := (h.isDeclarationName_iff hq).1
      (hqt ▸ Attribute.isDeclarationName_of_isMade hmade hu hx)
    have hqmade : ofText q.namespaceUri q.text = .ok q := h.isMade q hq
    rw [hqu, hqt, ht, hof] at hqmade
    exact hnew q hq (Except.ok.inj hqmade).symm
  · intro q hq
    rcases List.mem_append.1 hq with hq | hq
    · exact h.ne_xmlnsXmlns q hq
    · exact List.mem_singleton.1 hq ▸ hx
  · intro q hq
    rcases List.mem_append.1 hq with hq | hq
    · exact h.declares q hq
    · exact fun _ => List.mem_singleton.1 hq ▸ hu

end QName

/-! ### Elements -/

namespace Frame

/-- The names of an element are made by the rules of namespaces, and its attributes can be told
apart and are what their texts say. -/
structure IsTidy (f : Frame) : Prop where
  /-- The name of the element. -/
  name : f.name.IsMade
  /-- The names of the attributes. -/
  names : QName.AreTidy (f.attributes.map Attribute.name)

/-- For every prefix that is used one of its namespaces is declared. -/
def IsSettledIn (s : Scope) (f : Frame) : Prop :=
  ∀ b ∈ f.bindings, ∃ a ∈ f.bindings, a.nsPrefix = b.nsPrefix ∧ s.declares a = true

variable {f : Frame}

theorem IsTidy.isMade_of_mem (h : f.IsTidy) {a : Attribute} (ha : a ∈ f.attributes) :
    a.name.IsMade :=
  h.names.isMade _ (List.mem_map_of_mem ha)

/-- Declarations on a tidy element work. -/
theorem IsTidy.isDeclarable (h : f.IsTidy) : f.IsDeclarable :=
  isDeclarable_of_isProper ⟨Or.inl h.name, fun _ ha => Or.inl (h.isMade_of_mem ha)⟩
    fun _ ha => beq_eq_false_iff_ne.2 (h.names.ne_xmlnsXmlns _ (List.mem_map_of_mem ha))

/-- Every binding is that of a made name. -/
theorem IsTidy.exists_of_mem_bindings (h : f.IsTidy) {b : Binding} (hb : b ∈ f.bindings) :
    ∃ q : QName, q.IsMade ∧ q.binding = b ∧
      (q = f.name ∨ q.nsPrefix.isSome = true ∧ ∃ a ∈ f.attributes, a.name = q) := by
  rcases mem_bindings_iff.1 hb with rfl | ⟨a, ha, hn, rfl⟩
  · exact ⟨f.name, h.name, rfl, Or.inl rfl⟩
  · exact ⟨a.name, h.isMade_of_mem ha, rfl, Or.inr ⟨hn.2, a, ha, rfl⟩⟩

/-- A declaration that is needed keeps an element tidy. -/
theorem IsTidy.withDeclaration (h : f.IsTidy) {q : QName} (hq : q.IsMade)
    (himp : q.binding.isImplicit = false) : (f.withDeclaration q.binding).IsTidy := by
  refine ⟨h.name, ?_⟩
  have hof := declarable_of_isProper (Or.inl hq)
  show QName.AreTidy ((Attribute.setExpanded _ _ f.attributes).map Attribute.name)
  rw [Attribute.setExpanded]
  rcases Attribute.put_cases (Attribute.hasExpandedName q.binding.declaredName.namespaceUri
    q.binding.declaredName.localName) ({ · with value := q.binding.uriText })
      ⟨q.binding.declaredName, q.binding.uriText⟩ f.attributes with
    ⟨hnew, he⟩ | ⟨before, a, after, hf, -, he⟩
  · rw [he, List.map_append]
    refine h.names.append himp hof fun r hr hrd => ?_
    obtain ⟨a, ha, rfl⟩ := List.mem_map.1 hr
    have hsame := hnew a ha
    simp [Attribute.hasExpandedName, hrd] at hsame
  · have hnames := h.names
    rw [hf] at hnames
    rw [he]
    simpa using hnames

/-! ### Reading -/

/-- What the text of a tidy attribute declares. -/
theorem IsTidy.declaredPrefix?_eq (h : f.IsTidy) {a : Attribute} (ha : a ∈ f.attributes) :
    a.declaredPrefix? = Attribute.prefixOfDeclarationName? a.name.text := by
  have hiff := h.names.isDeclarationName_iff (List.mem_map_of_mem ha)
  by_cases hu : a.name.namespaceUri = some xmlnsUri
  · have hr : a.Resolves fun _ => none := by
      rw [Attribute.Resolves, if_pos (hiff.2 hu), ← hu]
      exact h.isMade_of_mem ha
    exact Attribute.declaredPrefix?_of_resolves hr
  · have hnone : Attribute.prefixOfDeclarationName? a.name.text = none := by
      simpa [Attribute.isDeclarationName] using fun hd => hu (hiff.1 hd)
    rw [hnone, Attribute.declaredPrefix?, Attribute.isDeclaration, if_neg (by simpa using hu)]

/-- What is declared in scope of a tidy element is what is declared around it and what its start tag
declares. -/
theorem IsTidy.declaration?_cons (h : f.IsTidy) (s : Scope) :
    Scope.declaration? (f :: s) = meaningIn s.declaration? f.attributes := by
  funext p
  have hnodup : (f.attributes.map fun a => a.name.text).Nodup := by
    have hn := h.names.nodup
    rwa [List.map_map] at hn
  rw [Scope.declaration?_cons]
  exact congrArg (Option.or · _) (@Frame.declaration?_eq f.name f.attributes
    (fun a ha => h.declaredPrefix?_eq ha) hnodup p)

variable {s : Scope} {α : Type} {tell : QName → α}

/-- The name of a settled element is resolved, if not more is told of it than its text, or if its own
namespace is declared. -/
theorem IsTidy.isAccepted_name (h : f.IsTidy) (hs : f.IsSettledIn s)
    (htell : (∀ q q' : QName, q'.text = q.text → tell q' = tell q) ∨
      s.declares f.name.binding = true) : f.name.IsAccepted tell s.declaration? := by
  by_cases hdecl : s.declares f.name.binding = true
  · exact ⟨f.name, h.name.resolves hdecl, rfl, rfl⟩
  · obtain ⟨a, ha, hp, hd⟩ := hs f.name.binding List.mem_cons_self
    obtain ⟨q, hq, rfl, rfl | ⟨hsome, -⟩⟩ := h.exists_of_mem_bindings ha
    · exact absurd hd hdecl
    · obtain ⟨p, hqp⟩ := Option.isSome_iff_exists.1 hsome
      obtain ⟨q', hr, ht, -⟩ := h.name.exists_resolves (hp.symm.trans hqp) hq hqp hd
      exact ⟨q', hr, ht, htell.resolve_right hdecl _ _ ht⟩

/-- The attributes of a settled element are resolved. -/
theorem IsTidy.isAccepted_of_mem (h : f.IsTidy) (hs : f.IsSettledIn s) {a : Attribute}
    (ha : a ∈ f.attributes) : a.IsAccepted s.declaration? := by
  have hmade := h.isMade_of_mem ha
  have hiff := h.names.isDeclarationName_iff (List.mem_map_of_mem ha)
  by_cases hu : a.name.namespaceUri = some xmlnsUri
  · refine ⟨a, ?_, rfl⟩
    rw [Attribute.Resolves, if_pos (hiff.2 hu), ← hu]
    exact hmade
  · have hno : ¬ Attribute.isDeclarationName a.name.text = true := fun hd => hu (hiff.1 hd)
    cases hp : a.name.nsPrefix with
    | none =>
        obtain ⟨hsplit, -, -⟩ := hmade.parts_none hp
        have ht : (QName.plain a.name.text).text = a.name.text := rfl
        refine ⟨⟨QName.plain a.name.text, a.value⟩, ?_, ht⟩
        rw [Attribute.Resolves, ht, if_neg hno, hsplit]
        exact ⟨hmade.isName, rfl⟩
    | some p =>
        obtain ⟨hsplit, -, -, -⟩ := hmade.parts hp
        have hb : a.name.binding ∈ f.bindings := mem_bindings_iff.2
          (Or.inr ⟨a, ha, ⟨by simp [Attribute.isDeclaration, hu], by rw [hp]; rfl⟩, rfl⟩)
        obtain ⟨b, hbm, hbp, hd⟩ := hs _ hb
        obtain ⟨r, hr, rfl, -⟩ := h.exists_of_mem_bindings hbm
        obtain ⟨q', ⟨uri, huri, hof⟩, ht, hqp⟩ :=
          hmade.exists_resolves hp hr (hbp.trans hp) hd
        refine ⟨⟨q', a.value⟩, ?_, ht⟩
        rw [hqp] at huri
        rw [Attribute.Resolves]
        simp only [ht, hno, hsplit, Bool.false_eq_true, if_false]
        exact ⟨uri, huri, ht ▸ hof⟩

end Frame

end XmlScribe
