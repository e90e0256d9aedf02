/-
**What a declaration changes.**

A declaration on an element changes what one prefix means there and below, up to the elements that
declare the prefix themselves.  It changes no name, no other attribute and no link.

Main definitions:

* `Binding.declaredName` — the name of the attribute that declares a prefix;
* `Attribute.IsProperDeclaration` — a declaration that has one of the names of declarations;
* `Frame.withDeclaration`, `Forest.withDeclaration` — an element, a forest with a declaration more;
* `Forest.SameButDeclarations` — two forests that differ in namespace declarations only.

Main results:

* `Frame.declaration?_withDeclaration` — what the prefixes mean afterwards;
* `Forest.declare_eq_ok` — when a declaration is made;
* `Forest.sameButDeclarations_withDeclaration` — it changes nothing but declarations.
-/

import XmlScribe.Namespace.Completion
import XmlScribe.Proofs.Name.Split

set_option autoImplicit false

namespace XmlScribe

/-! ### Names of declarations -/

/-- The name of the attribute that declares the prefix of the binding. -/
def Binding.declaredName (b : Binding) : QName :=
  match b.nsPrefix with
  | some p => ⟨some xmlnsUri, some xmlnsPrefix, p⟩
  | none => ⟨some xmlnsUri, none, xmlnsPrefix⟩

namespace Attribute

/-- The attribute that would declare the prefix `xmlns`. -/
def isXmlnsXmlns (a : Attribute) : Bool :=
  a.name.text == xmlnsPrefix ++ ':' :: xmlnsPrefix

/-- A declaration has one of the two names that declarations have, and does not declare the prefix
`xmlns`. -/
def IsProperDeclaration (a : Attribute) : Prop :=
  a.isDeclaration = true → a.name = ⟨some xmlnsUri, none, xmlnsPrefix⟩ ∨
    ∃ p, a.name = ⟨some xmlnsUri, some xmlnsPrefix, p⟩ ∧ p ≠ xmlnsPrefix

/-- A declaration has one of the two names that declarations have, if it declares the prefix `xmlns`
or not. -/
def IsWellNamed (a : Attribute) : Prop :=
  a.isDeclaration = true → a.name = ⟨some xmlnsUri, none, xmlnsPrefix⟩ ∨
    ∃ p, a.name = ⟨some xmlnsUri, some xmlnsPrefix, p⟩

theorem IsProperDeclaration.isWellNamed {a : Attribute} (h : a.IsProperDeclaration) :
    a.IsWellNamed :=
  fun hd => (h hd).imp_right fun ⟨p, hp, _⟩ => ⟨p, hp⟩

/-- A name that the rules of namespaces give to an attribute is one of those that declarations
have. -/
theorem isWellNamed_of_isMade {a : Attribute} (h : a.name.IsMade) : a.IsWellNamed := by
  intro hd
  obtain ⟨⟨uri, pfx, l⟩, value⟩ := a
  obtain rfl : uri = some xmlnsUri := by simpa [isDeclaration] using hd
  cases pfx with
  | none =>
      obtain ⟨-, ht, hm⟩ := h.parts_none rfl
      rw [ht] at hm
      simp only [QName.isMismatch, bne_self_eq_false, Bool.and_false, Bool.false_or,
        beq_self_eq_true, Bool.true_and, bne_eq_false_iff_eq] at hm
      exact Or.inl (by rw [hm])
  | some p =>
      obtain ⟨-, -, -, hm⟩ := h.parts rfl
      simp only [QName.isMismatch, bne_self_eq_false, Bool.and_false, Bool.or_false,
        beq_self_eq_true, Bool.true_and, Bool.or_eq_false_iff, bne_eq_false_iff_eq] at hm
      obtain ⟨-, rfl⟩ := hm
      exact Or.inr ⟨l, rfl⟩

/-- A name that the rules of namespaces give to an attribute makes a proper declaration. -/
theorem isProperDeclaration_of_isMade {a : Attribute} (h : a.name.IsMade)
    (hx : a.isXmlnsXmlns = false) : a.IsProperDeclaration := by
  refine fun hd => (isWellNamed_of_isMade h hd).imp_right fun ⟨p, hp⟩ => ⟨p, hp, ?_⟩
  rintro rfl
  rw [isXmlnsXmlns, hp] at hx
  simp [QName.text] at hx

/-- The declaration of a prefix is told by namespace and local name. -/
theorem hasExpandedName_declaredName_of_isSome {a : Attribute} (h : a.IsWellNamed) {b : Binding}
    (hb : b.isImplicit = false) (hs : b.nsPrefix.isSome = true) :
    a.hasExpandedName b.declaredName.namespaceUri b.declaredName.localName =
      (a.declaredPrefix? == some b.nsPrefix) := by
  obtain ⟨⟨uri, pfx, l⟩, value⟩ := a
  obtain ⟨q, u⟩ := b
  obtain ⟨q, rfl⟩ := Option.isSome_iff_exists.1 hs
  simp only [Binding.isImplicit, Bool.or_eq_false_iff, beq_eq_false_iff_ne, ne_eq] at hb
  by_cases hu : uri = some xmlnsUri
  · subst hu
    rcases h (by simp [isDeclaration]) with hn | ⟨p, hn⟩
    · cases hn
      have hq : xmlnsPrefix ≠ q := fun he => hb.2 (by rw [he])
      simp [hasExpandedName, declaredPrefix?, isDeclaration, Binding.declaredName, hq]
    · cases hn
      simp [hasExpandedName, declaredPrefix?, isDeclaration, Binding.declaredName]
  · have h₁ : (⟨⟨uri, pfx, l⟩, value⟩ : Attribute).isDeclaration = false := by
      simpa [isDeclaration] using hu
    simp [hasExpandedName, declaredPrefix?, h₁, Binding.declaredName, hu]

/-- A proper declaration of a prefix or of the default namespace is told by namespace and local
name. -/
theorem hasExpandedName_declaredName {a : Attribute} (h : a.IsProperDeclaration) {b : Binding}
    (hb : b.isImplicit = false) :
    a.hasExpandedName b.declaredName.namespaceUri b.declaredName.localName =
      (a.declaredPrefix? == some b.nsPrefix) := by
  obtain ⟨_ | q, u⟩ := b
  · obtain ⟨⟨uri, pfx, l⟩, value⟩ := a
    by_cases hu : uri = some xmlnsUri
    · subst hu
      rcases h (by simp [isDeclaration]) with hn | ⟨p, hn, hp⟩
      · cases hn
        simp [hasExpandedName, declaredPrefix?, isDeclaration, Binding.declaredName, xmlnsPrefix]
      · cases hn
        simp [hasExpandedName, declaredPrefix?, isDeclaration, Binding.declaredName, hp]
    · have h₁ : (⟨⟨uri, pfx, l⟩, value⟩ : Attribute).isDeclaration = false := by
        simpa [isDeclaration] using hu
      simp [hasExpandedName, declaredPrefix?, h₁, Binding.declaredName, hu]
  · exact hasExpandedName_declaredName_of_isSome h.isWellNamed hb rfl

/-! ### Changing one item of a list -/

/-- Changing one item, if there is one to change. -/
theorem put_cases {α : Type} (same : α → Bool) (change : α → α) (new : α) (l : List α) :
    (∀ a ∈ l, same a = false) ∧ put same change new l = l ++ [new] ∨
      ∃ before a after, l = before ++ a :: after ∧ same a = true ∧
        put same change new l = before ++ change a :: after := by
  induction l with
  | nil => exact Or.inl ⟨by simp, rfl⟩
  | cons a l ih =>
      cases h : same a with
      | true => exact Or.inr ⟨[], a, l, rfl, h, by rw [put, if_pos h]; rfl⟩
      | false =>
          have hput : put same change new (a :: l) = a :: put same change new l := by
            rw [put, h, if_neg (by decide)]
          rcases ih with ⟨hl, hp⟩ | ⟨before, b, after, rfl, hb, hp⟩
          · refine Or.inl ⟨?_, by rw [hput, hp]; rfl⟩
            intro b hb
            rcases List.mem_cons.1 hb with rfl | hb
            · exact h
            · exact hl b hb
          · exact Or.inr ⟨a :: before, b, after, rfl, hb, by rw [hput, hp]; rfl⟩

/-- What holds of all items and of the new one, and is kept by the change, holds afterwards. -/
theorem forall_mem_put {α : Type} {P : α → Prop} {same : α → Bool} {change : α → α} {new : α}
    {l : List α} (hl : ∀ a ∈ l, P a) (hchange : ∀ a, P a → P (change a)) (hnew : P new) :
    ∀ a ∈ put same change new l, P a := by
  rcases put_cases same change new l with ⟨-, he⟩ | ⟨before, b, after, rfl, -, he⟩ <;>
    (rw [he]; simp_all [or_imp, forall_and])

/-- Nothing changes if the item that is changed is what it becomes. -/
theorem put_eq_self {α : Type} {same : α → Bool} {change : α → α} {a : α} {l : List α}
    (h : l.find? same = some a) (hc : change a = a) (new : α) :
    put same change new l = l := by
  induction l with
  | nil => cases h
  | cons b l ih =>
      rw [put]
      split
      · rename_i hs
        obtain rfl := Option.some.inj ((List.find?_cons_of_pos hs).symm.trans h)
        rw [hc]
      · rename_i hs
        rw [ih ((List.find?_cons_of_neg hs).symm.trans h)]

end Attribute

theorem Binding.isProperDeclaration_declaredName {b : Binding} (hb : b.isImplicit = false)
    (value : Text) : (⟨b.declaredName, value⟩ : Attribute).IsProperDeclaration := by
  intro _
  obtain ⟨q, u⟩ := b
  cases q with
  | none => exact Or.inl rfl
  | some q =>
      refine Or.inr ⟨q, rfl, ?_⟩
      rintro rfl
      simp [isImplicit] at hb

theorem Binding.declaredPrefix?_declaredName (b : Binding) (value : Text) :
    (⟨b.declaredName, value⟩ : Attribute).declaredPrefix? = some b.nsPrefix := by
  obtain ⟨q, u⟩ := b
  cases q <;>
    simp [declaredName, Attribute.declaredPrefix?, Attribute.isDeclaration, xmlnsPrefix]

/-! ### On an element -/

/-- An attribute relies on a binding if it has a prefix and is no declaration. -/
theorem Attribute.binding?_eq_some_iff {a : Attribute} {b : Binding} :
    a.binding? = some b ↔
      (a.isDeclaration = false ∧ a.name.nsPrefix.isSome = true) ∧ a.name.binding = b := by
  rw [binding?]
  cases a.isDeclaration <;> cases a.name.nsPrefix <;> simp

namespace Frame

/-- A binding comes from the name of the element, or from the name of an attribute that has a prefix
and is no declaration. -/
theorem mem_bindings_iff {f : Frame} {b : Binding} :
    b ∈ f.bindings ↔ b = f.name.binding ∨ ∃ a ∈ f.attributes,
      (a.isDeclaration = false ∧ a.name.nsPrefix.isSome = true) ∧ a.name.binding = b := by
  simp only [bindings, List.mem_cons, List.mem_filterMap, Attribute.binding?_eq_some_iff]

/-- The element with a declaration of the binding, where one that is there is overwritten. -/
def withDeclaration (f : Frame) (b : Binding) : Frame :=
  { f with attributes := Attribute.setExpanded b.declaredName b.uriText f.attributes }

/-- What the prefixes mean after a declaration that is told by its name. -/
theorem declaration?_withDeclaration_of_eq {f : Frame} {b : Binding}
    (hf : ∀ a ∈ f.attributes, a.hasExpandedName b.declaredName.namespaceUri
      b.declaredName.localName = (a.declaredPrefix? == some b.nsPrefix)) (p : Option Text) :
    (f.withDeclaration b).declaration? p =
      if p = b.nsPrefix then some b.uriText else f.declaration? p := by
  obtain ⟨name, attributes⟩ := f
  have hnew := Binding.declaredPrefix?_declaredName b b.uriText
  simp only [declaration?, withDeclaration, Attribute.setExpanded]
  induction attributes with
  | nil =>
      by_cases hp : p = b.nsPrefix
      · simp [Attribute.put, hnew, hp]
      · simp [Attribute.put, hnew, Ne.symm hp, hp]
  | cons a attributes ih =>
      have ha := hf a (by simp)
      have ih := ih fun d hd => hf d (by simp [hd])
      by_cases hs : a.declaredPrefix? = some b.nsPrefix
      · have hv : ({ a with value := b.uriText } : Attribute).declaredPrefix? = some b.nsPrefix := hs
        by_cases hp : p = b.nsPrefix
        · subst hp
          simp [Attribute.put, ha, hs, hv]
        · simp [Attribute.put, ha, hs, hv, Ne.symm hp, hp]
      · simp only [Attribute.put, ha, beq_eq_false_iff_ne.2 hs, Bool.false_eq_true, if_false]
        by_cases hp : a.declaredPrefix? = some p
        · have hpb : p ≠ b.nsPrefix := by
            rintro rfl
            exact hs hp
          simp [hp, hpb]
        · simpa [hp] using ih

/-- What the prefixes mean after a declaration. -/
theorem declaration?_withDeclaration {f : Frame} {b : Binding}
    (hf : ∀ a ∈ f.attributes, a.IsProperDeclaration) (hb : b.isImplicit = false)
    (p : Option Text) :
    (f.withDeclaration b).declaration? p =
      if p = b.nsPrefix then some b.uriText else f.declaration? p :=
  declaration?_withDeclaration_of_eq
    (fun a ha => Attribute.hasExpandedName_declaredName (hf a ha) hb) p

/-- A declaration of the default namespace may overwrite one of the prefix `xmlns`; the other
prefixes mean what they meant. -/
theorem declaration?_withDeclaration_default {f : Frame} {b : Binding}
    (hf : ∀ a ∈ f.attributes, a.IsWellNamed) (hb : b.nsPrefix = none) {p : Option Text}
    (hp : p ≠ none) (hx : p ≠ some xmlnsPrefix) :
    (f.withDeclaration b).declaration? p = f.declaration? p := by
  obtain ⟨name, attributes⟩ := f
  obtain ⟨_, u⟩ := b
  obtain rfl := hb
  have hnew := Binding.declaredPrefix?_declaredName ⟨none, u⟩ (⟨none, u⟩ : Binding).uriText
  simp only [declaration?, withDeclaration, Attribute.setExpanded]
  induction attributes with
  | nil => simp [Attribute.put, hnew, Ne.symm hp]
  | cons a attributes ih =>
      have ih := ih fun d hd => hf d (by simp [hd])
      rw [Attribute.put]
      split
      · -- The attribute that is overwritten declares something else.
        rename_i hs
        obtain ⟨⟨uri, pfx, l⟩, value⟩ := a
        simp only [Attribute.hasExpandedName, Binding.declaredName, Bool.and_eq_true,
          beq_iff_eq] at hs
        obtain ⟨rfl, rfl⟩ := hs
        have hother : ∀ v, (⟨⟨some xmlnsUri, pfx, xmlnsPrefix⟩, v⟩ : Attribute).declaredPrefix? ≠
            some p := by
          intro v
          rw [Attribute.declaredPrefix?]
          split
          · split
            · exact fun he => hx (Option.some.inj he).symm
            · exact fun he => hp (Option.some.inj he).symm
          · exact fun he => by cases he
        rw [List.find?_cons_of_neg (by simpa using hother _),
          List.find?_cons_of_neg (by simpa using hother _)]
      · rw [List.find?_cons, List.find?_cons]
        split
        · rfl
        · exact ih

/-- What a prefix means after a declaration, if the rules of namespaces have made the names.  The
prefix `xmlns` cannot be told, and the default namespace neither after it has been declared. -/
theorem declaration?_withDeclaration_of_isWellNamed {f : Frame} {b : Binding}
    (hf : ∀ a ∈ f.attributes, a.IsWellNamed) (hb : b.isImplicit = false) {p : Option Text}
    (hx : p ≠ some xmlnsPrefix) (hp : b.nsPrefix.isSome = true ∨ p ≠ b.nsPrefix) :
    (f.withDeclaration b).declaration? p =
      if p = b.nsPrefix then some b.uriText else f.declaration? p := by
  cases hn : b.nsPrefix with
  | some q =>
      rw [← hn]
      exact declaration?_withDeclaration_of_eq (fun a ha =>
        Attribute.hasExpandedName_declaredName_of_isSome (hf a ha) hb (by simp [hn])) p
  | none =>
      have hne : p ≠ none := hp.elim (fun h => by simp [hn] at h) (hn ▸ ·)
      rw [if_neg hne, declaration?_withDeclaration_default hf hn hne hx]

/-! ### What a declaration of the default namespace overwrites -/

/-- The value of the attribute that a declaration of the default namespace overwrites. -/
def overwritten? (f : Frame) : Option Text :=
  (f.attributes.find? (·.hasExpandedName (some xmlnsUri) xmlnsPrefix)).map Attribute.value

/-- Afterwards the attribute has the namespace as its value. -/
theorem overwritten?_withDeclaration (f : Frame) {b : Binding} (hb : b.isImplicit = false) :
    (f.withDeclaration b).overwritten? =
      if b.nsPrefix = none then some b.uriText else f.overwritten? := by
  obtain ⟨name, attributes⟩ := f
  obtain ⟨q, u⟩ := b
  simp only [overwritten?, withDeclaration, Attribute.setExpanded]
  have hnew : ∀ value, (⟨(⟨q, u⟩ : Binding).declaredName, value⟩ : Attribute).hasExpandedName
      (some xmlnsUri) xmlnsPrefix = q.isNone := fun value => by
    cases q with
    | none => simp [Attribute.hasExpandedName, Binding.declaredName]
    | some q =>
        simp only [Binding.isImplicit, Bool.or_eq_false_iff, beq_eq_false_iff_ne] at hb
        have hq : q ≠ xmlnsPrefix := fun he => hb.2 (by rw [he])
        simp [Attribute.hasExpandedName, Binding.declaredName, hq]
  -- The attribute that is overwritten is the one that is looked for, or never it.
  have hsame : ∀ a : Attribute, a.hasExpandedName (⟨q, u⟩ : Binding).declaredName.namespaceUri
      (⟨q, u⟩ : Binding).declaredName.localName = true →
        a.hasExpandedName (some xmlnsUri) xmlnsPrefix = q.isNone := fun a ha => by
    rw [← hnew a.value]
    simp only [Attribute.hasExpandedName, Bool.and_eq_true, beq_iff_eq] at ha ⊢
    rw [ha.1, ha.2]
  induction attributes with
  | nil => cases q <;> simp [Attribute.put, hnew]
  | cons a attributes ih =>
      rw [Attribute.put]
      split
      · rename_i hs
        have ha := hsame a hs
        have hv : ∀ v, ({ a with value := v } : Attribute).hasExpandedName (some xmlnsUri)
            xmlnsPrefix = q.isNone := fun _ => ha
        cases q <;> simp [hv]
      · rename_i hs
        have ha : q = none → a.hasExpandedName (some xmlnsUri) xmlnsPrefix = false := by
          rintro rfl
          exact Bool.eq_false_iff.2 hs
        rw [List.find?_cons, List.find?_cons]
        cases hb : a.hasExpandedName (some xmlnsUri) xmlnsPrefix with
        | false => exact ih
        | true =>
            have hq : q ≠ none := fun he => by simp [ha he] at hb
            simp [hq]

/-- Where declarations are proper, the attribute is the declaration of the default namespace. -/
theorem overwritten?_eq_declaration? {f : Frame}
    (hf : ∀ a ∈ f.attributes, a.IsProperDeclaration) : f.overwritten? = f.declaration? none := by
  obtain ⟨name, attributes⟩ := f
  simp only [overwritten?, declaration?]
  induction attributes with
  | nil => rfl
  | cons a attributes ih =>
      have ha : a.hasExpandedName (some xmlnsUri) xmlnsPrefix = (a.declaredPrefix? == some none) :=
        @Attribute.hasExpandedName_declaredName a (hf a (by simp)) ⟨none, none⟩ rfl
      rw [List.find?_cons, List.find?_cons, ha]
      split
      · rfl
      · exact ih fun b hb => hf b (by simp [hb])

/-- The bindings that the names rely on are the same. -/
theorem bindings_withDeclaration (f : Frame) (b : Binding) :
    (f.withDeclaration b).bindings = f.bindings := by
  obtain ⟨name, attributes⟩ := f
  have hnew : (⟨b.declaredName, b.uriText⟩ : Attribute).binding? = none := by
    rw [Attribute.binding?, if_pos]
    obtain ⟨q, u⟩ := b
    cases q <;> simp [Attribute.isDeclaration, Binding.declaredName]
  simp only [bindings, withDeclaration, Attribute.setExpanded, List.cons.injEq, true_and]
  induction attributes with
  | nil => simp [Attribute.put, hnew]
  | cons a attributes ih =>
      rw [Attribute.put]
      split
      · rw [List.filterMap_cons, List.filterMap_cons]
        rfl
      · rw [List.filterMap_cons, List.filterMap_cons, ih]

theorem isProperDeclaration_withDeclaration {f : Frame} {b : Binding} (hb : b.isImplicit = false)
    (hf : ∀ a ∈ f.attributes, a.IsProperDeclaration) :
    ∀ a ∈ (f.withDeclaration b).attributes, a.IsProperDeclaration :=
  Attribute.forall_mem_put hf (fun _ ha => ha) (Binding.isProperDeclaration_declaredName hb _)

theorem isWellNamed_withDeclaration {f : Frame} {b : Binding} (hb : b.isImplicit = false)
    (hf : ∀ a ∈ f.attributes, a.IsWellNamed) :
    ∀ a ∈ (f.withDeclaration b).attributes, a.IsWellNamed :=
  Attribute.forall_mem_put hf (fun _ ha => ha)
    (Binding.isProperDeclaration_declaredName hb _).isWellNamed

end Frame

/-! ### In a forest -/

/-- The second node is the first one but for namespace declarations: none has been lost, and only
their values may have changed. -/
def Node.SameButDeclarations (m n : Node) : Prop :=
  n.parent = m.parent ∧ n.owner = m.owner ∧ n.children = m.children ∧
    (n.payload = m.payload ∨
      ∃ name cells cells', m.payload = .element name cells ∧ n.payload = .element name cells' ∧
        cells'.filter (!·.attr.isDeclaration) = cells.filter (!·.attr.isDeclaration) ∧
        (cells.map fun cell => cell.attr.name) <+: cells'.map fun cell => cell.attr.name)

theorem Node.SameButDeclarations.refl (n : Node) : n.SameButDeclarations n :=
  ⟨rfl, rfl, rfl, Or.inl rfl⟩

theorem Node.SameButDeclarations.trans {l m n : Node} (h : l.SameButDeclarations m)
    (h' : m.SameButDeclarations n) : l.SameButDeclarations n := by
  obtain ⟨h₁, h₂, h₃, h₄⟩ := h
  obtain ⟨h₁', h₂', h₃', h₄'⟩ := h'
  refine ⟨h₁'.trans h₁, h₂'.trans h₂, h₃'.trans h₃, ?_⟩
  rcases h₄ with h₄ | ⟨name, cells, cells', hl, hm, hc, hn⟩
  · rw [← h₄]
    exact h₄'
  · rcases h₄' with h₄' | ⟨name', dells, dells', hm', hn', hd, hp⟩
    · exact Or.inr ⟨name, cells, cells', hl, h₄'.trans hm, hc, hn⟩
    · rw [hm] at hm'
      cases hm'
      exact Or.inr ⟨name, cells, dells', hl, hn', hd.trans hc, hn.trans hp⟩

namespace Forest

/-- The second forest is the first one but for namespace declarations on nodes of a set. -/
structure SameButDeclarations (F G : Forest) (changed : NodeId → Prop) : Prop where
  /-- There are as many nodes. -/
  size_eq : G.size = F.size
  /-- No attribute has been taken away. -/
  detached_eq : G.detached = F.detached
  /-- The nodes outside the set are what they were. -/
  get?_eq : ∀ {id}, ¬ changed id → G.get? id = F.get? id
  /-- All nodes are what they were but for declarations. -/
  node : ∀ {id m n}, F.get? id = some m → G.get? id = some n → m.SameButDeclarations n

theorem SameButDeclarations.refl (F : Forest) (changed : NodeId → Prop) :
    F.SameButDeclarations F changed :=
  ⟨rfl, rfl, fun _ => rfl, fun {_ m _} hm hn =>
    Option.some.inj (hm.symm.trans hn) ▸ Node.SameButDeclarations.refl m⟩

theorem exists_node_of_size_eq {F G : Forest} (h : G.size = F.size) {id : NodeId} {m : Node}
    (hm : F.get? id = some m) : ∃ n, G.get? id = some n := by
  obtain ⟨hlt, -⟩ := Array.getElem?_eq_some_iff.1 hm
  exact ⟨_, Array.getElem?_eq_getElem (Nat.lt_of_lt_of_eq hlt h.symm)⟩

theorem SameButDeclarations.trans {F G H : Forest} {changed : NodeId → Prop}
    (h : F.SameButDeclarations G changed) (h' : G.SameButDeclarations H changed) :
    F.SameButDeclarations H changed where
  size_eq := h'.size_eq.trans h.size_eq
  detached_eq := h'.detached_eq.trans h.detached_eq
  get?_eq hn := (h'.get?_eq hn).trans (h.get?_eq hn)
  node hm hn := by
    obtain ⟨l, hl⟩ := exists_node_of_size_eq h.size_eq hm
    exact (h.node hm hl).trans (h'.node hl hn)

theorem SameButDeclarations.mono {F G : Forest} {changed changed' : NodeId → Prop}
    (h : F.SameButDeclarations G changed) (hc : ∀ id, changed id → changed' id) :
    F.SameButDeclarations G changed' :=
  ⟨h.size_eq, h.detached_eq, fun hn => h.get?_eq fun hi => hn (hc _ hi), h.node⟩

/-- The forest with an attribute of an element set, told by namespace and local name. -/
def withAttribute (F : Forest) (target : NodeId) (name : QName) (value : Text) : Forest :=
  let new : AttrCell := ⟨F.nextSerial, ⟨name, value⟩⟩
  let G := F.modifyCells target
    (Attribute.put (fun cell => cell.attr.hasExpandedName name.namespaceUri name.localName)
      (withValue value) new)
  { G with nextSerial := F.nextSerial + 1 }

/-- The forest with a declaration of the binding on an element. -/
def withDeclaration (F : Forest) (target : NodeId) (b : Binding) : Forest :=
  let name := b.declaredName
  let new : AttrCell := ⟨F.nextSerial, ⟨name, b.uriText⟩⟩
  let G := F.modifyCells target
    (Attribute.put (fun cell => cell.attr.hasExpandedName name.namespaceUri name.localName)
      (withValue b.uriText) new)
  { G with nextSerial := F.nextSerial + 1 }

/-- A declaration is made where the element may be changed and belongs to a document. -/
theorem declare_eq_ok {F : Forest} {target : NodeId} {b : Binding} (hb : b.isImplicit = false)
    (hn : QName.ofText (some xmlnsUri) b.declarationName = .ok b.declaredName)
    (hw : F.isReadOnly target = false) (ho : (F.owner? target).isSome = true) :
    F.declare target b = .ok (F.withDeclaration target b) := by
  rw [declare, hb, setAttributeNs, hn]
  simp only [Bool.false_eq_true, if_false, bind, Except.bind, putAttribute, hw]
  have ho' : (F.owner? target).isNone = false := by simpa using ho
  simp only [ho', Bool.and_false, Bool.false_eq_true, if_false]
  rfl

theorem map_put {α β : Type} (f : α → β) (same' : β → Bool) (change' : β → β)
    {same : α → Bool} {change : α → α} (hs : ∀ a, same' (f a) = same a)
    (hc : ∀ a, f (change a) = change' (f a)) (new : α) (l : List α) :
    (Attribute.put same change new l).map f = Attribute.put same' change' (f new) (l.map f) := by
  induction l with
  | nil => rfl
  | cons a l ih =>
      rw [Attribute.put, List.map_cons, Attribute.put, hs]
      split
      · rw [List.map_cons, hc]
      · rw [List.map_cons, ih]

/-- Only the element itself has other attributes. -/
theorem frame?_withAttribute (F : Forest) (target : NodeId) (name : QName) (value : Text)
    (id : NodeId) :
    (F.withAttribute target name value).frame? id =
      if target = id then (F.frame? id).map fun f =>
        { f with attributes := Attribute.setExpanded name value f.attributes }
      else F.frame? id := by
  have hget : (F.withAttribute target name value).get? id = (F.modifyCells target (Attribute.put
      (fun cell => cell.attr.hasExpandedName name.namespaceUri name.localName)
      (withValue value) ⟨F.nextSerial, ⟨name, value⟩⟩)).get? id := rfl
  rw [frame?, payload?, hget, modifyCells, get?_modify]
  by_cases ht : target = id
  · rw [if_pos ht, if_pos ht, frame?, payload?]
    cases F.get? id with
    | none => rfl
    | some node =>
        obtain ⟨payload, parent, owner, children⟩ := node
        cases payload with
        | element q cells =>
            simp only [Option.map_some, Attribute.setExpanded]
            rw [map_put AttrCell.attr (Attribute.hasExpandedName name.namespaceUri name.localName)
              ({ · with value := value }) (fun _ => rfl) (fun _ => rfl)]
        | _ => rfl
  · rw [if_neg ht, if_neg ht]
    rfl

/-- Only the element itself has a declaration more. -/
theorem frame?_withDeclaration (F : Forest) (target : NodeId) (b : Binding) (id : NodeId) :
    (F.withDeclaration target b).frame? id =
      if target = id then (F.frame? id).map (·.withDeclaration b) else F.frame? id :=
  F.frame?_withAttribute target b.declaredName b.uriText id

theorem sameButDeclarations_put {q : QName} (hu : q.namespaceUri = some xmlnsUri) (value : Text)
    (node : Node) (new : AttrCell) (hnew : new.attr.name = q) :
    node.SameButDeclarations
      (match node.payload with
        | .element name cells => { node with payload := .element name (Attribute.put
            (fun cell => cell.attr.hasExpandedName q.namespaceUri q.localName) (withValue value) new
            cells) }
        | _ => node) := by
  obtain ⟨payload, parent, owner, children⟩ := node
  cases payload with
  | element name cells =>
      refine ⟨rfl, rfl, rfl, Or.inr ⟨name, cells, _, rfl, rfl, ?_, ?_⟩⟩
      · induction cells with
        | nil => simp [Attribute.put, Attribute.isDeclaration, hnew, hu]
        | cons cell cells ih =>
            rw [Attribute.put]
            split
            · rename_i hs
              have hd : cell.attr.name.namespaceUri = some xmlnsUri := by
                simp only [Attribute.hasExpandedName, Bool.and_eq_true, beq_iff_eq] at hs
                rw [hs.1, hu]
              simp [Attribute.isDeclaration, withValue, hd]
            · rw [List.filter_cons, List.filter_cons, ih]
      · induction cells with
        | nil => exact List.nil_prefix
        | cons cell cells ih =>
            rw [Attribute.put]
            split
            · exact List.prefix_rfl
            · exact List.cons_prefix_cons.2 ⟨rfl, ih⟩
  | _ => exact Node.SameButDeclarations.refl _

/-- An attribute whose name is in the namespace of declarations changes nothing but declarations on
its element. -/
theorem sameButDeclarations_withAttribute (F : Forest) (target : NodeId) {q : QName}
    (hu : q.namespaceUri = some xmlnsUri) (value : Text) :
    F.SameButDeclarations (F.withAttribute target q value) (· = target) where
  size_eq := size_modify F target _
  detached_eq := rfl
  get?_eq hn := (get?_modify F target _ _).trans (if_neg (Ne.symm hn))
  node {id m n} hm hn := by
    have hg := (get?_modify F target id _).symm.trans hn
    split at hg
    · rw [hm] at hg
      obtain rfl := Option.some.inj hg
      exact sameButDeclarations_put hu value m _ rfl
    · rw [hm] at hg
      obtain rfl := Option.some.inj hg
      exact Node.SameButDeclarations.refl m

theorem namespaceUri_declaredName (b : Binding) : b.declaredName.namespaceUri = some xmlnsUri := by
  obtain ⟨q, u⟩ := b
  cases q <;> rfl

/-- A declaration changes nothing but declarations on its element. -/
theorem sameButDeclarations_withDeclaration (F : Forest) (target : NodeId) (b : Binding) :
    F.SameButDeclarations (F.withDeclaration target b) (· = target) :=
  F.sameButDeclarations_withAttribute target (namespaceUri_declaredName b) b.uriText

/-- A declaration of the default namespace changes no node if what it overwrites has the namespace
as its value already. -/
theorem get?_withDeclaration_of_overwritten {F : Forest} {target : NodeId} {b : Binding}
    (hb : b.nsPrefix = none)
    (h : (F.frame? target).bind Frame.overwritten? = some b.uriText) (id : NodeId) :
    (F.withDeclaration target b).get? id = F.get? id := by
  obtain ⟨_, u⟩ := b
  obtain rfl := hb
  refine (get?_modify F target id _).trans ?_
  split
  · rename_i hid
    subst hid
    cases hg : F.get? target with
    | none => rfl
    | some node =>
        obtain ⟨payload, parent, owner, children⟩ := node
        cases payload with
        | element name cells =>
            rw [frame?, payload?, hg] at h
            simp only [Option.map_some, Option.bind_some, Frame.overwritten?,
              List.find?_map, Option.map_map] at h
            obtain ⟨cell, hfind, hvalue⟩ := Option.map_eq_some_iff.1 h
            have hsame : withValue (⟨none, u⟩ : Binding).uriText cell = cell := by
              rw [← hvalue]
              rfl
            have hput := Attribute.put_eq_self hfind hsame
              ⟨F.nextSerial, ⟨(⟨none, u⟩ : Binding).declaredName, (⟨none, u⟩ : Binding).uriText⟩⟩
            simp only [Option.map_some]
            exact congrArg (fun cells : List AttrCell =>
              some (⟨.element name cells, parent, owner, children⟩ : Node)) hput
        | _ => rfl
  · rfl

/-! ### What declarations do not change -/

/-- The node is a document that may not be changed. -/
def isLocked (F : Forest) (id : NodeId) : Bool :=
  match F.payload? id with
  | some (.document _ readOnly) => readOnly
  | _ => false

theorem isReadOnly_eq_isLocked (F : Forest) (id : NodeId) :
    F.isReadOnly id = (F.isLocked id || (F.owner? id).any F.isLocked) :=
  rfl

section SameButDeclarations

variable {F G : Forest} {changed : NodeId → Prop} (h : F.SameButDeclarations G changed)
include h

theorem SameButDeclarations.get?_cases (id : NodeId) :
    (F.get? id = none ∧ G.get? id = none) ∨
      ∃ m n, F.get? id = some m ∧ G.get? id = some n ∧ m.SameButDeclarations n := by
  cases hm : F.get? id with
  | none =>
      refine Or.inl ⟨rfl, Array.getElem?_eq_none ?_⟩
      have hle := Array.getElem?_eq_none_iff.1 hm
      exact Nat.le_trans (Nat.le_of_eq h.size_eq) hle
  | some m =>
      obtain ⟨n, hn⟩ := exists_node_of_size_eq h.size_eq hm
      exact Or.inr ⟨m, n, rfl, hn, h.node hm hn⟩

theorem SameButDeclarations.parent?_eq (id : NodeId) : G.parent? id = F.parent? id := by
  rcases h.get?_cases id with ⟨hm, hn⟩ | ⟨m, n, hm, hn, hs⟩
  · simp [parent?, hm, hn]
  · simp [parent?, hm, hn, hs.1]

theorem SameButDeclarations.owner?_eq (id : NodeId) : G.owner? id = F.owner? id := by
  rcases h.get?_cases id with ⟨hm, hn⟩ | ⟨m, n, hm, hn, hs⟩
  · simp [owner?, hm, hn]
  · simp [owner?, hm, hn, hs.2.1]

theorem SameButDeclarations.children_eq (id : NodeId) : G.children id = F.children id := by
  rcases h.get?_cases id with ⟨hm, hn⟩ | ⟨m, n, hm, hn, hs⟩
  · simp [children, hm, hn]
  · simp [children, hm, hn, hs.2.2.1]

/-- Payloads are the same, or those of elements. -/
theorem SameButDeclarations.payload?_cases (id : NodeId) :
    G.payload? id = F.payload? id ∨ ∃ name cells cells',
      F.payload? id = some (.element name cells) ∧ G.payload? id = some (.element name cells') ∧
        cells'.filter (!·.attr.isDeclaration) = cells.filter (!·.attr.isDeclaration) := by
  rcases h.get?_cases id with ⟨hm, hn⟩ | ⟨m, n, hm, hn, -, -, -, hp⟩
  · exact Or.inl (by simp [payload?, hm, hn])
  · rcases hp with hp | ⟨name, cells, cells', h₁, h₂, h₃, -⟩
    · exact Or.inl (by simp [payload?, hm, hn, hp])
    · exact Or.inr ⟨name, cells, cells', by simp [payload?, hm, h₁], by simp [payload?, hn, h₂], h₃⟩

theorem SameButDeclarations.type?_eq (id : NodeId) : G.type? id = F.type? id := by
  rcases h.payload?_cases id with hp | ⟨name, cells, cells', h₁, h₂, -⟩
  · rw [type?, hp, type?]
  · rw [type?, h₂, type?, h₁]
    rfl

theorem SameButDeclarations.isElement_eq (id : NodeId) : G.isElement id = F.isElement id := by
  rw [isElement, isElement, h.type?_eq]

theorem SameButDeclarations.isReadOnly_eq (id : NodeId) : G.isReadOnly id = F.isReadOnly id := by
  have hl : ∀ doc, G.isLocked doc = F.isLocked doc := by
    intro doc
    rcases h.payload?_cases doc with hp | ⟨name, cells, cells', h₁, h₂, -⟩
    · rw [isLocked, hp, isLocked]
    · rw [isLocked, h₂, isLocked, h₁]
  rw [isReadOnly_eq_isLocked, isReadOnly_eq_isLocked, h.owner?_eq, hl id, funext hl]

theorem SameButDeclarations.lineageFrom_eq (fuel : Nat) (id : NodeId) :
    G.lineageFrom fuel id = F.lineageFrom fuel id := by
  induction fuel generalizing id with
  | zero => rfl
  | succ fuel ih => simp only [lineageFrom, h.parent?_eq, ih]

theorem SameButDeclarations.elementLineage_eq (id : NodeId) :
    G.elementLineage id = F.elementLineage id := by
  rw [elementLineage, elementLineage, lineage, lineage, h.size_eq, h.lineageFrom_eq]
  exact congrArg (List.takeWhile · _) (funext h.isElement_eq)

theorem SameButDeclarations.preorderFrom_eq (fuel : Nat) (id : NodeId) :
    G.preorderFrom fuel id = F.preorderFrom fuel id := by
  induction fuel generalizing id with
  | zero => rfl
  | succ fuel ih =>
      rw [preorderFrom, preorderFrom, h.children_eq]
      exact congrArg (fun f => id :: (F.children id).flatMap f) (funext ih)

theorem SameButDeclarations.elementsFrom_eq (id : NodeId) :
    G.elementsFrom id = F.elementsFrom id := by
  rw [elementsFrom, elementsFrom, preorder, preorder, h.size_eq, h.preorderFrom_eq]
  exact congrArg (List.filter · _) (funext h.isElement_eq)

end SameButDeclarations

end Forest

end XmlScribe
