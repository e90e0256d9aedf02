/-
**Attributes as they have been read.**

The attributes of a start tag are added one by one, and an attribute that is confused with one
before it takes its place.  Apart from the declaration of the prefix `xmlns`, no declaration is ever
confused with another attribute, so the attributes of the element declare what its start tag does.

Main definitions:

* `Builder.Collected` — what holds of the attributes that have been added.

Main results:

* `Builder.resolves_of_addAttributes` — the attributes are what their texts are resolved to;
* `Builder.collected_addAttributes` — it holds of all attributes of an element;
* `Tag.nodup_attributes` — no name stands twice in a start tag;
* `Tag.isInfix_of_mem_attributesFrom` — the values stand in the tag.
-/

import XmlScribe.Proofs.Markup.Resolve
import XmlScribe.Proofs.Namespace.Declare

set_option autoImplicit false

namespace XmlScribe

namespace Attribute

/-- Setting a value keeps the names that are there, and adds one attribute at most. -/
theorem mem_put {same : Attribute → Bool} {value : Text} {new a : Attribute} {l : List Attribute}
    (h : a ∈ put same ({ · with value := value }) new l) :
    (∃ old ∈ l, old.name = a.name) ∨ a = new := by
  rcases put_cases same ({ · with value := value }) new l with ⟨-, he⟩ | ⟨before, b, after, rfl, -, he⟩
  · rw [he, List.mem_append, List.mem_singleton] at h
    exact h.imp_left fun h => ⟨a, h, rfl⟩
  · rw [he, List.mem_append, List.mem_cons] at h
    rcases h with h | rfl | h
    · exact Or.inl ⟨a, by simp [h], rfl⟩
    · exact Or.inl ⟨b, by simp, rfl⟩
    · exact Or.inl ⟨a, by simp [h], rfl⟩

/-- The text of the declaration of the prefix `xmlns`. -/
def xmlnsXmlns : Text := xmlnsPrefix ++ ':' :: xmlnsPrefix

/-- A name in the namespace of declarations is the name of a declaration; if it is not the one that
is left out, it is known by its local name. -/
theorem declaration_cases {q : QName} (h : q.IsMade) (hu : q.namespaceUri = some xmlnsUri)
    (hx : q.text ≠ xmlnsXmlns) :
    q = ⟨some xmlnsUri, none, xmlnsPrefix⟩ ∨
      ∃ p, q = ⟨some xmlnsUri, some xmlnsPrefix, p⟩ ∧ p ≠ xmlnsPrefix := by
  have hproper : (⟨q, []⟩ : Attribute).IsProperDeclaration :=
    isProperDeclaration_of_isMade h (beq_eq_false_iff_ne.2 hx)
  exact hproper (by simp [isDeclaration, hu])

theorem isDeclarationName_of_isMade {q : QName} (h : q.IsMade)
    (hu : q.namespaceUri = some xmlnsUri) (hx : q.text ≠ xmlnsXmlns) :
    isDeclarationName q.text = true := by
  rcases declaration_cases h hu hx with rfl | ⟨p, rfl, -⟩
  · rfl
  · rfl

theorem eq_of_declarations {q r : QName} (hq : q.IsMade) (hr : r.IsMade)
    (hu : q.namespaceUri = some xmlnsUri) (hv : r.namespaceUri = some xmlnsUri)
    (hx : q.text ≠ xmlnsXmlns) (hy : r.text ≠ xmlnsXmlns) (hl : q.localName = r.localName) :
    q = r := by
  rcases declaration_cases hq hu hx with rfl | ⟨p, rfl, hp⟩ <;>
    rcases declaration_cases hr hv hy with rfl | ⟨p', rfl, hp'⟩
  · rfl
  · exact absurd hl.symm hp'
  · exact absurd hl hp
  · obtain rfl : p = p' := hl
    rfl

/-- An attribute with a namespace has a name that the rules of namespaces give. -/
theorem Resolves.isMade {m : Builder.Meaning} {a : Attribute} (h : a.Resolves m)
    (hs : a.name.namespaceUri.isSome = true) : a.name.IsMade := by
  rw [Resolves] at h
  split at h
  · exact QName.isMade_of_ofText h
  · split at h
    · obtain ⟨uri, -, h⟩ := h
      exact QName.isMade_of_ofText h
    · rw [h.2] at hs
      simp [QName.plain] at hs

/-- Setting an attribute adds no name but its own. -/
theorem mem_set {m : Builder.Meaning} {a b : Attribute} {l : List Attribute} (ha : a.Resolves m)
    (h : b ∈ a.set l) : (∃ old ∈ l, old.name = b.name) ∨ b.name = a.name := by
  rw [set] at h
  split at h
  · rw [setExpanded] at h
    exact (mem_put h).imp_right fun hb => by rw [hb]
  · rename_i hs
    rw [setPlain, ← ha.eq_plain hs] at h
    exact (mem_put h).imp_right fun hb => by rw [hb]

end Attribute

namespace Builder

/-- The attributes of an element are what their texts are resolved to. -/
theorem resolves_of_addAttributes {scopes : List Bindings} {pairs : List (Text × Text)}
    {attributes : List Attribute} (h : pairs.foldlM (addAttribute scopes) [] = .ok attributes) :
    ∀ a ∈ attributes, a.Resolves (boundTo? scopes) := by
  have hcongr : ∀ {a b : Attribute}, a.name = b.name → a.Resolves (boundTo? scopes) →
      b.Resolves (boundTo? scopes) := by
    intro a b hn ha
    rw [Attribute.Resolves, ← hn]
    exact ha
  refine Outcome.foldlM_invariant
    (I := fun _ attributes => ∀ a ∈ attributes, a.Resolves (boundTo? scopes)) ?_ (by simp) h
  intro _ pair before after _ hi hadd b hb
  obtain ⟨a, -, ha, rfl⟩ := exists_of_addAttribute hadd
  rcases Attribute.mem_set ha hb with ⟨old, ho, hname⟩ | hname
  · exact hcongr hname (hi old ho)
  · exact hcongr hname.symm ha

/-- What holds of the attributes that some names and values have become. -/
structure Collected (m : Meaning) (pairs : List (Text × Text)) (attributes : List Attribute) :
    Prop where
  /-- No two are confused. -/
  distinct : Attribute.Distinct attributes
  /-- They are what they are resolved to. -/
  resolves : ∀ a ∈ attributes, a.Resolves m
  /-- They have the names. -/
  mem_names : ∀ a ∈ attributes, a.name.text ∈ pairs.map Prod.fst
  /-- They declare what the names and values do. -/
  bindings : bindingsOf (pairsOf attributes) = bindingsOf pairs

theorem bindingsOf_append (pairs more : List (Text × Text)) :
    bindingsOf (pairs ++ more) = bindingsOf pairs ++ bindingsOf more :=
  List.filterMap_append

/-- A new attribute that is confused with none before it. -/
theorem Collected.append {m : Meaning} {pairs : List (Text × Text)} {attributes : List Attribute}
    (h : Collected m pairs attributes) {a : Attribute} (hr : a.Resolves m)
    (hnew : a.name.text ∉ pairs.map Prod.fst)
    (hd : a.name.namespaceUri.isSome = true →
      ∀ b ∈ attributes, b.hasExpandedName a.name.namespaceUri a.name.localName = false) :
    Collected m (pairs ++ [(a.name.text, a.value)]) (attributes ++ [a]) where
  distinct := by
    refine List.pairwise_append.2 ⟨h.distinct, List.pairwise_singleton _ _, fun b hb c hc => ?_⟩
    obtain rfl := List.mem_singleton.1 hc
    refine ⟨fun he => hnew (he ▸ h.mem_names b hb), fun ⟨hs, hu, hl⟩ => ?_⟩
    have hsome : c.name.namespaceUri.isSome = true := hu ▸ hs
    have hf := hd hsome b hb
    simp [Attribute.hasExpandedName, hu, hl] at hf
  resolves := by
    intro b hb
    rcases List.mem_append.1 hb with hb | hb
    · exact h.resolves b hb
    · rw [List.mem_singleton.1 hb]
      exact hr
  mem_names := by
    intro b hb
    rw [List.map_append, List.mem_append]
    rcases List.mem_append.1 hb with hb | hb
    · exact Or.inl (h.mem_names b hb)
    · exact Or.inr (by simp [List.mem_singleton.1 hb])
  bindings := by
    rw [pairsOf, List.map_append, ← pairsOf, bindingsOf_append, h.bindings, bindingsOf_append]
    rfl

/-- A new value for an attribute that is no declaration, from a name that is none. -/
theorem Collected.change {m : Meaning} {pairs : List (Text × Text)}
    {before after : List Attribute} {a : Attribute}
    (h : Collected m pairs (before ++ a :: after)) {name value : Text}
    (ha : Attribute.isDeclarationName a.name.text = false)
    (hn : Attribute.isDeclarationName name = false) :
    Collected m (pairs ++ [(name, value)]) (before ++ { a with value := value } :: after) where
  distinct := by
    have hd := h.distinct
    rw [Attribute.Distinct, List.pairwise_append, List.pairwise_cons] at hd ⊢
    refine ⟨hd.1, ⟨hd.2.1.1, hd.2.1.2⟩, fun b hb c hc => ?_⟩
    rcases List.mem_cons.1 hc with rfl | hc
    · exact hd.2.2 b hb a (by simp)
    · exact hd.2.2 b hb c (by simp [hc])
  resolves := by
    intro b hb
    rcases List.mem_append.1 hb with hb | hb
    · exact h.resolves b (by simp [hb])
    · rcases List.mem_cons.1 hb with rfl | hb
      · exact h.resolves a (by simp)
      · exact h.resolves b (by simp [hb])
  mem_names := by
    intro b hb
    rw [List.map_append, List.mem_append]
    rcases List.mem_append.1 hb with hb | hb
    · exact Or.inl (h.mem_names b (by simp [hb]))
    · rcases List.mem_cons.1 hb with rfl | hb
      · exact Or.inl (h.mem_names a (by simp))
      · exact Or.inl (h.mem_names b (by simp [hb]))
  bindings := by
    rw [Attribute.isDeclarationName, Option.isSome_eq_false_iff, Option.isNone_iff_eq_none] at ha hn
    have hold := h.bindings
    simp only [pairsOf, bindingsOf, List.map_append, List.map_cons, List.filterMap_append,
      List.filterMap_cons, ha, Option.map_none] at hold
    simp only [pairsOf, bindingsOf, List.map_append, List.map_cons, List.filterMap_append,
      List.filterMap_cons, ha, hn, Option.map_none, List.filterMap_nil, List.append_nil]
    exact hold

theorem collected_addAttribute {scopes : List Bindings} {pairs : List (Text × Text)}
    {attributes attributes' : List Attribute} {pair : Text × Text}
    (h : Collected (boundTo? scopes) pairs attributes) (hnew : pair.1 ∉ pairs.map Prod.fst)
    (hx : ∀ name ∈ pairs.map Prod.fst ++ [pair.1], name ≠ Attribute.xmlnsXmlns)
    (hadd : addAttribute scopes attributes pair = .ok attributes') :
    Collected (boundTo? scopes) (pairs ++ [pair]) attributes' := by
  obtain ⟨a, rfl, hr, rfl⟩ := exists_of_addAttribute hadd
  have hknown : ∀ b ∈ attributes, b.name.text ≠ Attribute.xmlnsXmlns := fun b hb =>
    hx _ (List.mem_append_left _ (h.mem_names b hb))
  have hname : a.name.text ≠ Attribute.xmlnsXmlns := hx _ (by simp)
  rw [Attribute.set]
  split
  · rename_i hs
    have hmade := hr.isMade hs
    rw [Attribute.setExpanded]
    rcases Attribute.put_cases (Attribute.hasExpandedName a.name.namespaceUri a.name.localName)
      ({ · with value := a.value }) ⟨a.name, a.value⟩ attributes with
      ⟨hfree, hput⟩ | ⟨before, b, after, rfl, hsame, hput⟩
    · rw [hput]
      exact h.append hr hnew fun _ => hfree
    · -- A declaration is never confused with an attribute before it.
      simp only [Attribute.hasExpandedName, Bool.and_eq_true, beq_iff_eq] at hsame
      have hrb := h.resolves b (by simp)
      have hbm := hrb.isMade (by rw [hsame.1]; exact hs)
      have hbtext := hknown b (by simp)
      have hdecl : a.name.namespaceUri ≠ some xmlnsUri := fun hu =>
        hnew (Attribute.eq_of_declarations hbm hmade (hsame.1.trans hu) hu hbtext hname hsame.2 ▸
          h.mem_names b (by simp))
      have hnone : ∀ c : Attribute, c.Resolves (boundTo? scopes) →
          c.name.namespaceUri = a.name.namespaceUri →
          Attribute.isDeclarationName c.name.text = false := by
        refine fun c hc hu => Bool.eq_false_iff.2 fun hd => hdecl ?_
        rw [Attribute.Resolves, if_pos hd] at hc
        exact hu.symm.trans (QName.namespaceUri_of_ofText hc)
      rw [hput]
      exact h.change (hnone b hrb hsame.1) (hnone a hr rfl)
  · rename_i hs
    have hfree : ∀ b ∈ attributes, b.hasText a.name.text = false := fun b hb =>
      beq_eq_false_iff_ne.2 fun he => hnew (he ▸ h.mem_names b hb)
    have heq : (⟨QName.plain a.name.text, a.value⟩ : Attribute) = a := by
      rw [← hr.eq_plain hs]
    rw [Attribute.setPlain, Attribute.put_eq_append _ _ hfree, heq]
    exact h.append hr hnew fun h => absurd h hs

/-- The attributes of an element are told apart, are what they are resolved to, and declare what
the start tag does. -/
theorem collected_addAttributes {scopes : List Bindings} {pairs : List (Text × Text)}
    {attributes : List Attribute} (hn : (pairs.map Prod.fst).Nodup)
    (hx : ∀ name ∈ pairs.map Prod.fst, name ≠ Attribute.xmlnsXmlns)
    (h : pairs.foldlM (addAttribute scopes) [] = .ok attributes) :
    Collected (boundTo? scopes) pairs attributes := by
  refine Outcome.foldlM_invariant (I := Collected (boundTo? scopes)) ?_ ?_ h
  · intro seen pair before after hp hi hadd
    have hsub : (seen ++ [pair]).map Prod.fst <+: pairs.map Prod.fst := hp.map _
    have hnodup := hn.sublist hsub.sublist
    rw [List.map_append, List.map_singleton, List.nodup_append] at hnodup
    refine collected_addAttribute hi (fun hm => hnodup.2.2 _ hm _ (by simp) rfl) ?_ hadd
    intro name hm
    refine hx name (hsub.subset ?_)
    rw [List.map_append]
    exact hm
  · exact ⟨List.Pairwise.nil, by simp, by simp, rfl⟩

end Builder

namespace Tag

/-! ### Names in a start tag -/

theorem earlier_of_takeAttribute {earlier : Text → Option Nat} {place : Nat} {c : Char} {s : Text}
    {r : RawAttribute × Nat × Text} (h : takeAttribute earlier place c s = .ok r) :
    earlier r.1.name = none := by
  rw [takeAttribute] at h
  simp only at h
  split at h
  · split at h
    · simp at h
    · rename_i hearlier
      obtain ⟨v, -, rfl⟩ := Outcome.map_eq_ok_iff.1 h
      exact hearlier
  · simp at h

/-- No name stands twice. -/
theorem nodup_attributesFrom {seen : List RawAttribute} {place : Nat} {s : Text}
    (h : (seen.map RawAttribute.name).Nodup) :
    ((seen ++ (attributesFrom true seen place s).1).map RawAttribute.name).Nodup := by
  fun_induction attributesFrom true seen place s with
  | case1 => simpa using h
  | case2 => simpa using h
  | case3 seen place s start c t _ earlier a after rest ht more fault hrest ih =>
      have hearlier := earlier_of_takeAttribute ht
      rw [hrest, List.append_assoc] at ih
      refine ih ?_
      rw [List.map_append, List.map_singleton, List.nodup_append]
      refine ⟨h, List.nodup_singleton _, fun name hm other ho he => ?_⟩
      obtain ⟨b, hb, rfl⟩ := List.mem_map.1 hm
      obtain rfl := List.mem_singleton.1 ho
      simp only [earlier, dif_pos, Option.map_eq_none_iff, List.find?_eq_none,
        decide_eq_true_eq] at hearlier
      exact hearlier b hb he

theorem nodup_attributes (content : Text) :
    ((Tag.attributes content).1.map RawAttribute.name).Nodup := by
  have h := @nodup_attributesFrom [] (Text.utf8Size (name content)) (afterName content)
    List.nodup_nil
  rwa [List.nil_append] at h

/-! ### Values in a tag -/

theorem suffix_of_skipBlanks {place : Nat} {s : Text} {r : Nat × Text}
    (h : skipBlanks place s = r) : r.2 <:+ s := by
  rw [← h]
  exact List.dropWhile_suffix _

theorem isInfix_of_takeValue {place : Nat} {s : Text} {r : Text × Nat × Text}
    (h : takeValue place s = .ok r) : r.1 <:+: s ∧ r.2.2 <:+ s := by
  cases s with
  | nil => simp [takeValue] at h
  | cons c s =>
      rw [takeValue] at h
      split at h
      · split at h
        · rename_i value rest hc
          cases h
          rw [Text.eq_of_cutAt hc]
          exact ⟨⟨[c], [c] ++ rest, by simp⟩, ⟨c :: value ++ [c], by simp⟩⟩
        · simp at h
      · simp at h

theorem isInfix_of_takeAttribute {earlier : Text → Option Nat} {place : Nat} {c : Char} {s : Text}
    {r : RawAttribute × Nat × Text} (h : takeAttribute earlier place c s = .ok r) :
    r.1.value <:+: s ∧ r.2.2 <:+ s := by
  rw [takeAttribute] at h
  simp only at h
  split at h
  · rename_i equals t ht
    split at h
    · simp at h
    · obtain ⟨v, hv, rfl⟩ := Outcome.map_eq_ok_iff.1 h
      obtain ⟨hvalue, hrest⟩ := isInfix_of_takeValue hv
      have htail : t <:+ s := (List.suffix_cons '=' t).trans
        ((suffix_of_skipBlanks ht).trans (List.dropWhile_suffix _))
      have hinner : (skipBlanks (equals + 1) t).2 <:+ s := (suffix_of_skipBlanks rfl).trans htail
      exact ⟨hvalue.trans hinner.isInfix, hrest.trans hinner⟩
  · simp at h

/-- The values of attributes stand in the tag. -/
theorem isInfix_of_mem_attributesFrom {distinct : Bool} {seen : List RawAttribute} {place : Nat}
    {s : Text} : ∀ a ∈ (attributesFrom distinct seen place s).1, a.value <:+: s := by
  fun_induction attributesFrom distinct seen place s with
  | case1 => simp
  | case2 => simp
  | case3 seen place s start c t hs earlier a after rest ht more fault hrest ih =>
      have htail : t <:+ s := (List.suffix_cons c t).trans (suffix_of_skipBlanks hs)
      obtain ⟨hvalue, hsuffix⟩ := isInfix_of_takeAttribute ht
      rw [hrest] at ih
      intro b hb
      rcases List.mem_cons.1 hb with rfl | hb
      · exact hvalue.trans htail.isInfix
      · exact (ih b hb).trans (hsuffix.trans htail).isInfix

end Tag

end XmlScribe
