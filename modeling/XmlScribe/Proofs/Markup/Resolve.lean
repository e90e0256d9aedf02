/-
**Names that resolve.**

Which namespace a name gets when it is read depends only on what the prefixes mean where it stands.
A name that has been resolved is resolved the same wherever the prefixes mean the same; and if no
two attributes of an element are confused, each of them is found again, in whatever order they are
read.

Main definitions:

* `Builder.Meaning` — what the prefixes mean;
* `Builder.meaningIn` — what they mean in an element;
* `QName.Resolves`, `Attribute.Resolves` — the name is what its text is resolved to;
* `Attribute.Distinct` — no two attributes are confused;
* `Attribute.set` — some attributes with one more from a start tag.

Main results:

* `Builder.exists_of_addAttribute` — an attribute of a start tag is resolved and set;
* `Builder.addAttributes_eq_ok` — all attributes are found again;
* `Builder.readAttributes_eq_ok_iff` — which attributes a start tag has;
* `Builder.openElement_eq_ok_iff` — what a start tag opens;
* `Builder.meaningIn_perm` — the order of the attributes does not matter.
-/

import Mathlib.Data.List.Nodup
import XmlScribe.Markup.Builder
import XmlScribe.Proofs.Name.Split
import XmlScribe.Proofs.Outcome

set_option autoImplicit false

namespace XmlScribe

namespace Builder

/-! ### What the prefixes mean -/

/-- What the prefixes, and names without one, mean; nothing for what is not declared. -/
abbrev Meaning := Option Text → Option Text

/-- What the prefixes mean with some more declarations. -/
def declaring (m : Meaning) (bindings : Bindings) : Meaning := fun p =>
  (bindings.reverse.lookup p).or (m p)

theorem boundTo?_cons (bindings : Bindings) (scopes : List Bindings) :
    boundTo? (bindings :: scopes) = declaring (boundTo? scopes) bindings := by
  funext p
  rw [boundTo?, List.findSome?_cons, declaring]
  cases bindings.reverse.lookup p <;> rfl

/-- What the prefixes mean inside some open elements. -/
def meaningOf (opened : List OpenElement) : Meaning :=
  boundTo? (opened.map OpenElement.bindings)

/-- The namespace of a prefix, or of names without a prefix. -/
def namespaceIn (m : Meaning) (pfx : Option Text) : Except ReadFault (Option Text) :=
  if pfx = some xmlPrefix then .ok (some xmlUri)
  else if pfx = some xmlnsPrefix then .ok (some xmlnsUri)
  else
    match m pfx, pfx with
    | some uri, _ => .ok (QName.someNamespace (some uri))
    | none, none => .ok none
    | none, some p => .error (.unboundPrefix p)

theorem namespaceOf_eq (scopes : List Bindings) (pfx : Option Text) :
    namespaceOf scopes pfx = namespaceIn (boundTo? scopes) pfx := rfl

/-- The texts and values of some attributes. -/
def pairsOf (attributes : List Attribute) : List (Text × Text) :=
  attributes.map fun a => (a.name.text, a.value)

/-- What the prefixes mean in an element with these attributes. -/
def meaningIn (m : Meaning) (attributes : List Attribute) : Meaning :=
  declaring m (bindingsOf (pairsOf attributes))

end Builder

open Builder

/-! ### Names -/

/-- The name is what its text is resolved to. -/
def QName.Resolves (m : Meaning) (q : QName) : Prop :=
  ∃ uri, namespaceIn m q.nsPrefix = .ok uri ∧ QName.ofText uri q.text = .ok q

theorem QName.fst_splitAtColon? {q : QName} (h : q.IsMade) :
    (splitAtColon? q.text).map Prod.fst = q.nsPrefix := by
  cases hp : q.nsPrefix with
  | none => rw [(h.parts_none hp).1]; rfl
  | some p => rw [(h.parts hp).1]; rfl

theorem QName.resolves_of_ofText {m : Meaning} {uri : Option Text} {text : Text} {q : QName}
    (hu : namespaceIn m ((splitAtColon? text).map Prod.fst) = .ok uri)
    (h : ofText uri text = .ok q) : q.Resolves m := by
  refine ⟨uri, ?_, ?_⟩
  · rw [← fst_splitAtColon? (isMade_of_ofText h), text_ofText h]
    exact hu
  · rw [text_ofText h]
    exact h

theorem QName.Resolves.isMade {m : Meaning} {q : QName} (h : q.Resolves m) : q.IsMade := by
  obtain ⟨uri, -, h⟩ := h
  exact isMade_of_ofText h

namespace Attribute

/-- The name of the attribute is what its text is resolved to. -/
def Resolves (m : Meaning) (a : Attribute) : Prop :=
  if isDeclarationName a.name.text then QName.ofText (some xmlnsUri) a.name.text = .ok a.name
  else
    match QName.splitAtColon? a.name.text with
    | some (p, _) => ∃ uri, namespaceIn m (some p) = .ok uri ∧
        QName.ofText uri a.name.text = .ok a.name
    | none => Name.IsName a.name.text ∧ a.name = QName.plain a.name.text

theorem Resolves.isName {m : Meaning} {a : Attribute} (h : a.Resolves m) :
    Name.IsName a.name.text := by
  rw [Resolves] at h
  split at h
  · exact QName.isName_of_ofText h
  · split at h
    · obtain ⟨uri, -, h⟩ := h
      exact QName.isName_of_ofText h
    · exact h.1

/-- Two attributes are not confused: they have different texts, and if they have a namespace, not
both the same one and the same local name. -/
def Differs (a b : Attribute) : Prop :=
  a.name.text ≠ b.name.text ∧
    ¬ (a.name.namespaceUri.isSome = true ∧ a.name.namespaceUri = b.name.namespaceUri ∧
      a.name.localName = b.name.localName)

theorem Differs.symm {a b : Attribute} (h : a.Differs b) : b.Differs a := by
  refine ⟨Ne.symm h.1, fun hb => h.2 ⟨?_, hb.2.1.symm, hb.2.2.symm⟩⟩
  rw [← hb.2.1]
  exact hb.1

/-- No two of the attributes are confused. -/
def Distinct (attributes : List Attribute) : Prop :=
  attributes.Pairwise Differs

theorem Distinct.perm {attributes attributes' : List Attribute} (h : Distinct attributes)
    (hp : attributes.Perm attributes') : Distinct attributes' :=
  (hp.pairwise_iff fun hab => Differs.symm hab).1 h

theorem Distinct.nodup_text {attributes : List Attribute} (h : Distinct attributes) :
    (attributes.map fun a => a.name.text).Nodup :=
  List.pairwise_map.2 (List.Pairwise.imp And.left h)

theorem put_eq_append {α : Type} {same : α → Bool} (change : α → α) (new : α) {l : List α}
    (h : ∀ a ∈ l, same a = false) : put same change new l = l ++ [new] := by
  induction l with
  | nil => rfl
  | cons a l ih =>
      rw [put, h a (by simp), if_neg (by decide), ih fun b hb => h b (by simp [hb])]
      rfl

theorem setExpanded_eq_append {attributes : List Attribute} {a : Attribute}
    (hs : a.name.namespaceUri.isSome = true) (h : ∀ b ∈ attributes, b.Differs a) :
    setExpanded a.name a.value attributes = attributes ++ [a] := by
  refine put_eq_append _ _ fun b hb => ?_
  refine Bool.eq_false_iff.2 fun he => ?_
  simp only [hasExpandedName, Bool.and_eq_true, beq_iff_eq] at he
  exact (h b hb).2 ⟨by rw [he.1]; exact hs, he.1, he.2⟩

theorem setPlain_eq_append {attributes : List Attribute} {a : Attribute}
    (hp : a.name = QName.plain a.name.text) (h : ∀ b ∈ attributes, b.Differs a) :
    setPlain a.name.text a.value attributes = attributes ++ [a] := by
  have hnew : (⟨QName.plain a.name.text, a.value⟩ : Attribute) = a := by rw [← hp]
  rw [setPlain, put_eq_append _ _ fun b hb => ?_, hnew]
  exact beq_eq_false_iff_ne.2 (h b hb).1

/-- The attributes with this one set; without a namespace it is told apart by its text. -/
def set (a : Attribute) (attributes : List Attribute) : List Attribute :=
  if a.name.namespaceUri.isSome then setExpanded a.name a.value attributes
  else setPlain a.name.text a.value attributes

/-- Without a namespace the name is one that lies outside all namespaces. -/
theorem Resolves.eq_plain {m : Meaning} {a : Attribute} (h : a.Resolves m)
    (hs : ¬ a.name.namespaceUri.isSome = true) : a.name = QName.plain a.name.text := by
  rw [Resolves] at h
  split at h
  · exact absurd (by rw [QName.namespaceUri_of_ofText h]; rfl) hs
  · split at h
    · rename_i p rest hsplit
      obtain ⟨uri, -, ho⟩ := h
      have hmade := QName.isMade_of_ofText ho
      refine absurd (@QName.IsMade.namespace_isSome _ p hmade ?_) hs
      rw [← QName.fst_splitAtColon? hmade, hsplit]
      rfl
    · exact h.2

theorem set_eq_append {m : Meaning} {attributes : List Attribute} {a : Attribute}
    (ha : a.Resolves m) (h : ∀ b ∈ attributes, b.Differs a) :
    a.set attributes = attributes ++ [a] := by
  rw [set]
  split
  · rename_i hs
    exact setExpanded_eq_append hs h
  · rename_i hs
    exact setPlain_eq_append (ha.eq_plain hs) h

end Attribute

namespace Builder

/-! ### Attributes -/

/-- An attribute of a start tag is set to what its text is resolved to. -/
theorem exists_of_addAttribute {scopes : List Bindings} {attributes attributes' : List Attribute}
    {pair : Text × Text} (h : addAttribute scopes attributes pair = .ok attributes') :
    ∃ a : Attribute, (a.name.text, a.value) = pair ∧ a.Resolves (boundTo? scopes) ∧
      a.set attributes = attributes' := by
  obtain ⟨name, value⟩ := pair
  rw [addAttribute] at h
  split at h
  · rename_i hdecl
    split at h
    · rename_i q hq
      have ht := QName.text_ofText hq
      refine ⟨⟨q, value⟩, by rw [ht], ?_, ?_⟩
      · rw [Attribute.Resolves, if_pos (by rw [ht]; exact hdecl), ht]
        exact hq
      · rw [Attribute.set, if_pos (by rw [QName.namespaceUri_of_ofText hq]; rfl)]
        exact Except.ok.inj h
    · cases h
  · rename_i hdecl
    split at h
    · rename_i p rest hsplit
      obtain ⟨uri, huri, h⟩ := Outcome.bind_eq_ok_iff.1 h
      split at h
      · rename_i q hq
        have ht := QName.text_ofText hq
        have hmade := QName.isMade_of_ofText hq
        have hp : q.nsPrefix = some p := by
          rw [← QName.fst_splitAtColon? hmade, ht, hsplit]
          rfl
        refine ⟨⟨q, value⟩, by rw [ht], ?_, ?_⟩
        · rw [Attribute.Resolves, if_neg (by rw [ht]; exact hdecl), ht, hsplit]
          exact ⟨uri, huri, hq⟩
        · rw [Attribute.set, if_pos (hmade.namespace_isSome hp)]
          exact Outcome.pure_eq_ok_iff.1 h
      · exact absurd h Outcome.throw_ne_ok
    · rename_i hsplit
      split at h
      · rename_i hcheck
        refine ⟨⟨QName.plain name, value⟩, rfl, ?_, Except.ok.inj h⟩
        have ht : (QName.plain name).text = name := rfl
        rw [Attribute.Resolves, ht, if_neg hdecl, hsplit]
        exact ⟨Name.check_eq_ok_iff.1 hcheck, rfl⟩
      · cases h

/-- An attribute is set if it is what its text is resolved to. -/
theorem addAttribute_of_resolves {scopes : List Bindings} {a : Attribute}
    (h : a.Resolves (boundTo? scopes)) (attributes : List Attribute) :
    addAttribute scopes attributes (a.name.text, a.value) = .ok (a.set attributes) := by
  rw [Attribute.Resolves] at h
  rw [addAttribute, Attribute.set]
  split at h
  · rename_i hdecl
    rw [if_pos hdecl, h, if_pos (by rw [QName.namespaceUri_of_ofText h]; rfl)]
  · rename_i hdecl
    rw [if_neg hdecl]
    cases hsplit : QName.splitAtColon? a.name.text with
    | some parts =>
      simp only [hsplit] at h ⊢
      obtain ⟨uri, hu, ho⟩ := h
      have hmade := QName.isMade_of_ofText ho
      have hp : a.name.nsPrefix = some parts.1 := by
        rw [← QName.fst_splitAtColon? hmade, hsplit]
        rfl
      rw [namespaceOf_eq, Outcome.bind_of_eq_ok hu, ho, if_pos (hmade.namespace_isSome hp)]
      rfl
    | none =>
      simp only [hsplit] at h ⊢
      rw [Name.check_eq_ok_iff.2 h.1, if_neg (by rw [h.2]; exact Bool.noConfusion)]

/-- An attribute is found again, if it is not confused with those before. -/
theorem addAttribute_eq_ok {scopes : List Bindings} {attributes : List Attribute} {a : Attribute}
    (h : a.Resolves (boundTo? scopes)) (hd : ∀ b ∈ attributes, b.Differs a) :
    addAttribute scopes attributes (a.name.text, a.value) = .ok (attributes ++ [a]) := by
  rw [addAttribute_of_resolves h, Attribute.set_eq_append h hd]

/-- All attributes are found again. -/
theorem addAttributes_eq_ok {scopes : List Bindings} {attributes : List Attribute}
    (h : ∀ a ∈ attributes, a.Resolves (boundTo? scopes)) {before : List Attribute}
    (hd : Attribute.Distinct (before ++ attributes)) :
    (pairsOf attributes).foldlM (addAttribute scopes) before = .ok (before ++ attributes) := by
  induction attributes generalizing before with
  | nil =>
      rw [List.append_nil]
      rfl
  | cons a attributes ih =>
      have hb : ∀ b ∈ before, b.Differs a := fun b hb =>
        (List.pairwise_append.1 hd).2.2 b hb a (by simp)
      rw [pairsOf, List.map_cons, List.foldlM_cons,
        Outcome.bind_of_eq_ok (addAttribute_eq_ok (h a (by simp)) hb)]
      have hnext : Attribute.Distinct (before ++ [a] ++ attributes) := by
        rw [List.append_assoc]
        exact hd
      rw [← pairsOf, ih (fun c hc => h c (by simp [hc])) hnext, List.append_assoc]
      rfl

/-! ### Start tags -/

/-- The name and the value are those of the attribute: white space in the value has become spaces, and
references have been replaced. -/
def ReadsAs (b : Builder) (raw : RawAttribute) (pair : Text × Text) : Prop :=
  raw.name = pair.1 ∧ b.expand (normalizeValue raw.value) = .ok pair.2

/-- The attributes of a start tag are read one by one, to its end. -/
theorem readAttributes_eq_ok_iff {b : Builder} {content : Text} {pairs : List (Text × Text)} :
    b.readAttributes content = .ok pairs ↔
      (Tag.attributes content).2 = none ∧
        List.Forall₂ b.ReadsAs (Tag.attributes content).1 pairs := by
  have hpair : ∀ (raw : RawAttribute) (pair : Text × Text),
      (do return (raw.name, ← b.expand (normalizeValue raw.value))) =
        (.ok pair : Except ReadFault _) ↔ b.ReadsAs raw pair := by
    intro raw pair
    rw [Outcome.bind_eq_ok_iff, ReadsAs]
    constructor
    · rintro ⟨value, hvalue, h⟩
      obtain rfl := Outcome.pure_eq_ok_iff.1 h
      exact ⟨rfl, hvalue⟩
    · rintro ⟨hname, hvalue⟩
      exact ⟨pair.2, hvalue, by rw [hname]; rfl⟩
  rw [readAttributes]
  simp only [Outcome.bind_eq_ok_iff, Outcome.mapM_eq_ok_iff, hpair]
  cases (Tag.attributes content).2 with
  | none =>
      constructor
      · rintro ⟨_, hread, h⟩
        obtain rfl := Outcome.pure_eq_ok_iff.1 h
        exact ⟨rfl, hread⟩
      · rintro ⟨-, hread⟩
        exact ⟨pairs, hread, rfl⟩
  | some fault =>
      refine iff_of_false ?_ (by simp)
      rintro ⟨_, -, h⟩
      exact Outcome.throw_ne_ok h

/-- They keep their names. -/
theorem map_fst_of_readsAs {b : Builder} {raw : List RawAttribute} {pairs : List (Text × Text)}
    (h : List.Forall₂ b.ReadsAs raw pairs) : pairs.map Prod.fst = raw.map RawAttribute.name := by
  induction h with
  | nil => rfl
  | cons ha _ ih => rw [List.map_cons, List.map_cons, ha.1, ih]

/-- A start tag opens the element that its name and its attributes are resolved to. -/
theorem openElement_eq_ok_iff {b : Builder} {content : Text} {e : OpenElement} :
    b.openElement content = .ok e ↔
      ∃ pairs uri, b.readAttributes content = .ok pairs ∧
        namespaceIn (declaring (meaningOf b.opened) (bindingsOf pairs))
          ((QName.splitAtColon? (Tag.name content)).map Prod.fst) = .ok uri ∧
        QName.ofText uri (Tag.name content) = .ok e.name ∧
        pairs.foldlM (addAttribute (bindingsOf pairs :: b.opened.map OpenElement.bindings)) [] =
          .ok e.attributes ∧
        b.checkPlace .element = .ok () ∧ e.bindings = bindingsOf pairs ∧ e.content = [] := by
  have hscopes : ∀ pairs, boundTo? (bindingsOf pairs :: b.opened.map OpenElement.bindings) =
      declaring (meaningOf b.opened) (bindingsOf pairs) := fun pairs => boundTo?_cons _ _
  constructor
  · intro h
    rw [openElement] at h
    obtain ⟨pairs, hpairs, h⟩ := Outcome.bind_eq_ok_iff.1 h
    obtain ⟨uri, huri, h⟩ := Outcome.bind_eq_ok_iff.1 h
    obtain ⟨name, hname, h⟩ := Outcome.bind_eq_ok_iff.1 h
    obtain ⟨attributes, hattributes, h⟩ := Outcome.bind_eq_ok_iff.1 h
    obtain ⟨_, hplace, h⟩ := Outcome.bind_eq_ok_iff.1 h
    obtain rfl := Except.ok.inj h
    rw [namespaceOf_eq, hscopes] at huri
    exact ⟨pairs, uri, hpairs, huri, Outcome.mapError_eq_ok_iff.1 hname, hattributes, hplace,
      rfl, rfl⟩
  · rintro ⟨pairs, uri, hpairs, huri, hname, hattributes, hplace, hbindings, hcontent⟩
    obtain ⟨name, attributes, bindings, content⟩ := e
    subst hbindings hcontent
    rw [← hscopes, ← namespaceOf_eq] at huri
    rw [openElement, Outcome.bind_of_eq_ok hpairs, Outcome.bind_of_eq_ok huri,
      Outcome.bind_of_eq_ok (Outcome.mapError_eq_ok_iff.2 hname),
      Outcome.bind_of_eq_ok hattributes, Outcome.bind_of_eq_ok hplace]
    rfl

/-! ### The order of the attributes -/

theorem lookup_eq_of_perm {α β : Type} [BEq α] [LawfulBEq α] {l m : List (α × β)}
    (h : l.Perm m) (hn : (l.map Prod.fst).Nodup) (a : α) : l.lookup a = m.lookup a := by
  induction h with
  | nil => rfl
  | cons entry h ih =>
      rw [List.map_cons, List.nodup_cons] at hn
      rw [List.lookup_cons, List.lookup_cons, ih hn.2]
  | swap x y l =>
      have hne : y.1 ≠ x.1 := by
        rw [List.map_cons, List.map_cons, List.nodup_cons] at hn
        exact fun he => hn.1 (by simp [he])
      rw [List.lookup_cons, List.lookup_cons, List.lookup_cons, List.lookup_cons]
      by_cases hx : a = x.1
      · have hy : (a == y.1) = false := beq_eq_false_iff_ne.2 (hx ▸ Ne.symm hne)
        have hx' : (a == x.1) = true := beq_iff_eq.2 hx
        simp only [hx', hy]
      · have hx' : (a == x.1) = false := beq_eq_false_iff_ne.2 hx
        simp [hx']
  | trans h₁ h₂ ih₁ ih₂ =>
      exact (ih₁ hn).trans (ih₂ ((h₁.map Prod.fst).nodup_iff.1 hn))

theorem prefixOfDeclarationName?_inj {name name' : Text} {p : Option Text}
    (h : Attribute.prefixOfDeclarationName? name = some p)
    (h' : Attribute.prefixOfDeclarationName? name' = some p) : name = name' := by
  rw [Attribute.prefixOfDeclarationName?] at h h'
  split at h
  · rename_i hn
    split at h'
    · rename_i hn'
      rw [hn, hn']
    · cases h
      simp at h'
  · split at h'
    · cases h'
      simp at h
    · obtain ⟨t, ht, rfl⟩ := Option.map_eq_some_iff.1 h
      obtain ⟨t', ht', he⟩ := Option.map_eq_some_iff.1 h'
      obtain rfl := Option.some.inj he
      rw [Text.after?_eq_some_iff.1 ht, Text.after?_eq_some_iff.1 ht']

/-- No prefix is declared twice, if no two attributes have the same text. -/
theorem nodup_bindingsOf {pairs : List (Text × Text)} (h : (pairs.map Prod.fst).Nodup) :
    ((bindingsOf pairs).map Prod.fst).Nodup := by
  induction pairs with
  | nil => simp [bindingsOf]
  | cons pair pairs ih =>
      rw [List.map_cons, List.nodup_cons] at h
      rw [bindingsOf, List.filterMap_cons]
      cases hp : Attribute.prefixOfDeclarationName? pair.1 with
      | none =>
          simp only [hp, Option.map_none]
          exact ih h.2
      | some declared =>
          simp only [hp, Option.map_some]
          rw [List.map_cons, List.nodup_cons]
          refine ⟨fun hm => ?_, ih h.2⟩
          obtain ⟨binding, hb, hfst⟩ := List.mem_map.1 hm
          obtain ⟨other, ho, hother⟩ := List.mem_filterMap.1 hb
          obtain ⟨declared', hd', rfl⟩ := Option.map_eq_some_iff.1 hother
          obtain rfl : declared' = declared := hfst
          exact h.1 (prefixOfDeclarationName?_inj hp hd' ▸ List.mem_map_of_mem ho)

/-- The order of the attributes does not matter for what the prefixes mean. -/
theorem meaningIn_perm {m : Meaning} {attributes attributes' : List Attribute}
    (h : attributes.Perm attributes')
    (hn : (attributes.map fun a => a.name.text).Nodup) :
    meaningIn m attributes = meaningIn m attributes' := by
  funext p
  have hperm : (bindingsOf (pairsOf attributes)).reverse.Perm
      (bindingsOf (pairsOf attributes')).reverse :=
    (List.reverse_perm _).trans (((h.map _).filterMap _).trans (List.reverse_perm _).symm)
  have hnodup : ((bindingsOf (pairsOf attributes)).reverse.map Prod.fst).Nodup := by
    rw [List.map_reverse, List.nodup_reverse]
    refine nodup_bindingsOf ?_
    rw [pairsOf, List.map_map]
    exact hn
  rw [meaningIn, declaring, meaningIn, declaring, lookup_eq_of_perm hperm hnodup]

end Builder

end XmlScribe
