/-
**What has been read is sound.**

The rules for documents hold of the elements that are open and of all that has been read, and every
event keeps them.

Main definitions:

* `Builder.IsSound` — the rules for all that has been read;
* `Event.DeclaresNoXmlns` — no start tag declares the prefix `xmlns`.

Main results:

* `Builder.isSound_step` — every event keeps the rules;
* `Document.isSound_parse` — a document that has been read obeys them.
-/

import XmlScribe.Proofs.Document.Sound
import XmlScribe.Proofs.Document.Steps
import XmlScribe.Proofs.Markup.Attributes
import XmlScribe.Proofs.Markup.Scanned
import XmlScribe.Proofs.Text.LineEnding

set_option autoImplicit false

namespace XmlScribe

open Builder

/-- The event is no start tag with an attribute `xmlns:xmlns`. -/
def Event.DeclaresNoXmlns : Event → Prop
  | .startTag content _ => ∀ a ∈ (Tag.attributes content).1, a.name ≠ Attribute.xmlnsXmlns
  | _ => True

instance : DecidablePred Event.DeclaresNoXmlns
  | .startTag content _ =>
      inferInstanceAs (Decidable (∀ a ∈ (Tag.attributes content).1, a.name ≠ Attribute.xmlnsXmlns))
  | .declaration _ | .doctype _ | .endTag _ | .text _ | .cdata _ | .comment _
  | .instruction _ _ => isTrue trivial

/-! ### Open elements -/

/-- The rules for an element whose end tag has not been read, where `m` is what the prefixes mean
around it. -/
structure OpenElement.IsSound (m : Meaning) (e : OpenElement) : Prop where
  /-- Its attributes declare what its start tag does. -/
  bindings : e.bindings = bindingsOf (pairsOf e.attributes)
  /-- Its name is what it is resolved to. -/
  name : e.name.Resolves (meaningIn m e.attributes)
  /-- And so are its attributes. -/
  attributes : ∀ a ∈ e.attributes, a.Resolves (meaningIn m e.attributes)
  /-- No two of them are confused. -/
  distinct : Attribute.Distinct e.attributes
  /-- Its items are sound. -/
  content : ∀ item ∈ e.content, item.IsSoundAt (meaningIn m e.attributes)

namespace Builder

theorem meaningOf_cons {e : OpenElement} {outer : List OpenElement}
    (h : e.bindings = bindingsOf (pairsOf e.attributes)) :
    meaningOf (e :: outer) = meaningIn (meaningOf outer) e.attributes := by
  rw [meaningOf, List.map_cons, boundTo?_cons, h]
  rfl

/-- The open elements are sound. -/
def AreOpen : List OpenElement → Prop
  | [] => True
  | e :: outer => e.IsSound (meaningOf outer) ∧ AreOpen outer

theorem isSoundAt_close {m : Meaning} {e : OpenElement} (h : e.IsSound m) :
    (close e).IsSoundAt m :=
  ⟨h.name, h.attributes, h.distinct,
    Item.isSound_iff.2 fun item hi => h.content item (List.mem_reverse.1 hi)⟩

/-- The rules for all that has been read. -/
structure IsSound (subsets : Subsets) (b : Builder) : Prop where
  /-- The XML declaration ends where it is meant to. -/
  declaration : b.declaration.IsSound
  /-- The open elements are sound. -/
  opened : AreOpen b.opened
  /-- The items outside are sound. -/
  content : ∀ item ∈ b.content, item.IsSoundOutside subsets
  /-- There is one element outside at most, whether it is open or not. -/
  element : b.content.countP Item.isElement + (if b.opened.isEmpty then 0 else 1) ≤ 1
  /-- There is one document type at most. -/
  doctype : b.content.countP Item.isDoctype ≤ 1

/-! ### Start tags -/

/-- A start tag opens a sound element. -/
theorem isSound_openElement {b : Builder} {content : Text} {e : OpenElement}
    (hx : ∀ a ∈ (Tag.attributes content).1, a.name ≠ Attribute.xmlnsXmlns)
    (h : b.openElement content = .ok e) :
    e.IsSound (meaningOf b.opened) ∧ b.checkPlace .element = .ok () := by
  obtain ⟨pairs, uri, hpairs, huri, hname, hattributes, hplace, hbindings, hcontent⟩ :=
    openElement_eq_ok_iff.1 h
  have hnames := map_fst_of_readsAs (readAttributes_eq_ok_iff.1 hpairs).2
  have hc := collected_addAttributes (hnames ▸ Tag.nodup_attributes content)
    (fun text ht => by
      rw [hnames] at ht
      obtain ⟨a, ha, rfl⟩ := List.mem_map.1 ht
      exact hx a ha) hattributes
  have hm : declaring (meaningOf b.opened) (bindingsOf pairs) =
      meaningIn (meaningOf b.opened) e.attributes := by
    rw [← hc.bindings]
    rfl
  rw [boundTo?_cons, ← meaningOf, hm] at hc
  rw [hm] at huri
  exact ⟨⟨hbindings.trans hc.bindings.symm, QName.resolves_of_ofText huri hname,
    hc.resolves, hc.distinct, by simp [hcontent]⟩, hplace⟩

/-! ### Items -/

theorem checkPlace_nothing {b : Builder} {type : NodeType} (ho : b.opened = [])
    (h : b.checkPlace type = .ok ()) : NodeType.document.mayHold type = true ∧
      (type.isUniqueInDocument = true → ∀ item ∈ b.content, typeOf item ≠ type) := by
  rw [checkPlace, ho] at h
  simp only at h
  split at h
  · simp at h
  · rename_i hhold
    split at h
    · simp at h
    · rename_i hunique
      refine ⟨by simpa using hhold, fun hu item hi => ?_⟩
      simp only [hu, Bool.true_and, List.any_eq_true, not_exists, not_and, beq_iff_eq] at hunique
      exact hunique item hi

theorem checkPlace_opened {b : Builder} {type : NodeType} {e : OpenElement}
    {outer : List OpenElement} (ho : b.opened = e :: outer) (h : b.checkPlace type = .ok ()) :
    NodeType.element.mayHold type = true := by
  rw [checkPlace, ho] at h
  simp only at h
  split at h
  · assumption
  · simp at h

/-- An item is added. -/
theorem IsSound.push {subsets : Subsets} {b : Builder} {item : Item} (h : b.IsSound subsets)
    (hin : b.opened ≠ [] → item.IsSoundAt (meaningOf b.opened))
    (hout : b.opened = [] → item.IsSoundOutside subsets ∧
      (item.isElement = true → b.content.countP Item.isElement = 0) ∧
      (item.isDoctype = true → b.content.countP Item.isDoctype = 0)) :
    (b.push item).IsSound subsets := by
  cases ho : b.opened with
  | nil =>
      obtain ⟨hitem, helement, hdoctype⟩ := hout ho
      have hpush : b.push item = { b with content := item :: b.content } := by rw [Builder.push, ho]
      rw [hpush]
      refine ⟨h.declaration, h.opened, ?_, ?_, ?_⟩
      · intro other hm
        rcases List.mem_cons.1 hm with rfl | hm
        · exact hitem
        · exact h.content other hm
      · have hold := h.element
        simp only [ho, List.isEmpty_nil, if_true, List.countP_cons] at hold ⊢
        split
        · rename_i he
          rw [helement he]
        · exact hold
      · have hold := h.doctype
        simp only [List.countP_cons]
        split
        · rename_i he
          rw [hdoctype he]
        · exact hold
  | cons e outer =>
      have hitem := hin (by rw [ho]; exact List.cons_ne_nil _ _)
      have hpush : b.push item =
          { b with opened := { e with content := item :: e.content } :: outer } := by
        rw [Builder.push, ho]
      have hopened := h.opened
      rw [ho] at hopened hitem
      rw [meaningOf_cons hopened.1.bindings] at hitem
      rw [hpush]
      refine ⟨h.declaration, ⟨⟨hopened.1.bindings, hopened.1.name, hopened.1.attributes,
        hopened.1.distinct, ?_⟩, hopened.2⟩, h.content, ?_, h.doctype⟩
      · intro other hm
        rcases List.mem_cons.1 hm with rfl | hm
        · exact hitem
        · exact hopened.1.content other hm
      · have hold := h.element
        rw [ho] at hold
        exact hold

/-- An item is added where it can stand. -/
theorem IsSound.append {subsets : Subsets} {b b' : Builder} {item : Item} (h : b.IsSound subsets)
    (ha : b.append item = .ok b') (hin : b.opened ≠ [] → item.IsSoundAt (meaningOf b.opened))
    (hout : b.opened = [] → item.IsSoundOutside subsets) : b'.IsSound subsets := by
  obtain ⟨hplace, rfl⟩ := append_eq_ok_iff.1 ha
  refine h.push hin fun ho => ⟨hout ho, fun he => ?_, fun hd => ?_⟩
  · refine List.countP_eq_zero.2 fun other hm he' => ?_
    refine (checkPlace_nothing ho hplace).2 ?_ other hm ?_
    · rw [typeOf_eq_element_iff.2 he]
      rfl
    · rw [typeOf_eq_element_iff.2 he, typeOf_eq_element_iff.2 he']
  · refine List.countP_eq_zero.2 fun other hm hd' => ?_
    refine (checkPlace_nothing ho hplace).2 ?_ other hm ?_
    · rw [typeOf_eq_doctype_iff.2 hd]
      rfl
    · rw [typeOf_eq_doctype_iff.2 hd, typeOf_eq_doctype_iff.2 hd']

/-- An element is opened. -/
theorem IsSound.enter {subsets : Subsets} {b : Builder} {e : OpenElement} (h : b.IsSound subsets)
    (he : e.IsSound (meaningOf b.opened)) (hplace : b.checkPlace .element = .ok ()) :
    ({ b with opened := e :: b.opened } : Builder).IsSound subsets := by
  refine ⟨h.declaration, ⟨he, h.opened⟩, h.content, ?_, h.doctype⟩
  have hold := h.element
  cases ho : b.opened with
  | nil =>
      have hzero : b.content.countP Item.isElement = 0 :=
        List.countP_eq_zero.2 fun other hm he' =>
          (checkPlace_nothing ho hplace).2 rfl other hm (typeOf_eq_element_iff.2 he')
      simp [hzero]
  | cons o outer =>
      rw [ho] at hold
      exact hold

/-- An element is closed. -/
theorem IsSound.leave {subsets : Subsets} {b : Builder} {e : OpenElement}
    {outer : List OpenElement} (h : b.IsSound subsets) (ho : b.opened = e :: outer) :
    (({ b with opened := outer } : Builder).push (close e)).IsSound subsets := by
  have hopened := h.opened
  rw [ho] at hopened
  have hcount : b.content.countP Item.isElement = 0 := by
    have hold := h.element
    rw [ho] at hold
    simpa using hold
  have hrest : ({ b with opened := outer } : Builder).IsSound subsets := by
    refine ⟨h.declaration, hopened.2, h.content, ?_, h.doctype⟩
    simp only [hcount]
    split <;> simp
  have hclose := isSoundAt_close hopened.1
  refine hrest.push (fun _ => hclose) fun (hnil : outer = []) => ⟨?_, fun _ => hcount, ?_⟩
  · subst hnil
    exact hclose
  · intro hd
    exact absurd hd (by simp [close, Item.isDoctype])

/-! ### Events -/

theorem isSound_readDeclaration {old declaration : Declaration} {content : Text}
    (hc : ¬ ['?', '>'] <:+: content ∧ '\r' ∉ content)
    (h : readDeclaration old content = .ok declaration) : declaration.IsSound := by
  rw [readDeclaration, Outcome.bind_eq_ok_iff] at h
  obtain ⟨version, hversion, h⟩ := h
  obtain ⟨encoding, -, h⟩ := Outcome.bind_eq_ok_iff.1 h
  obtain ⟨standalone, -, h⟩ := Outcome.bind_eq_ok_iff.1 h
  obtain rfl := Except.ok.inj h
  have hmem : version <:+: content := by
    rw [versionOf.eq_def] at hversion
    split at hversion
    · rename_i a more fault ha
      split at hversion
      · obtain rfl := Except.ok.inj hversion
        have hin : a ∈ (Tag.declarationAttributes content).1 := by
          rw [ha]
          exact List.mem_cons_self
        exact (Tag.isInfix_of_mem_attributesFrom a hin).trans (List.drop_suffix 3 content).isInfix
      · simp at hversion
    · simp at hversion
    · simp at hversion
  intro v hv
  obtain rfl := Option.some.inj hv
  exact ⟨fun hi => hc.1 (hi.trans hmem), fun hr => hc.2 (hmem.subset hr)⟩

theorem isReadable_instruction {target data : Text} (ht : Instruction.checkTarget target = .ok ())
    (hd : ¬ ['?', '>'] <:+: data) : Instruction.IsReadable target
      (if (Text.trimStart data).isEmpty then none else some (Text.trimStart data)) := by
  refine ⟨ht, ?_, ?_, ?_⟩
  · split
    · simp
    · rename_i hne
      simpa using hne
  · intro c s hs
    split at hs
    · simp at hs
    · have hhead := List.head?_dropWhile_not Text.isBlank data
      rw [show data.dropWhile Text.isBlank = c :: s from Option.some.inj hs] at hhead
      simpa using hhead
  · split
    · simp
    · exact fun hi => hd (hi.trans (List.dropWhile_suffix _).isInfix)

/-- Every event keeps the rules. -/
theorem isSound_step {subsets : Subsets} {b b' : Builder} {event : Event} (h : b.IsSound subsets)
    (hs : event.IsScanned) (hx : event.DeclaresNoXmlns) (hstep : b.StepsTo subsets event b') :
    b'.IsSound subsets := by
  cases hstep with
  | stays => exact h
  | declares hd =>
      exact ⟨isSound_readDeclaration hs hd, h.opened, h.content, h.element, h.doctype⟩
  | @types content d entities _ hd ha =>
      have hnext : ({ b with entities := b.entities ++ entities } : Builder).IsSound subsets :=
        ⟨h.declaration, h.opened, h.content, h.element, h.doctype⟩
      refine hnext.append ha (fun ho => ?_) (fun _ => ⟨content, entities, hd, hs⟩)
      obtain ⟨e, outer, ho⟩ := List.exists_cons_of_ne_nil ho
      obtain ⟨_, hplace, -⟩ := Outcome.map_eq_ok_iff.1 ha
      exact absurd (checkPlace_opened ho hplace) (by simp [typeOf, NodeType.mayHold])
  | opens he =>
      obtain ⟨hsound, hplace⟩ := isSound_openElement hx he
      exact h.enter hsound hplace
  | empties he =>
      obtain ⟨hsound, hplace⟩ := isSound_openElement hx he
      exact (h.enter hsound hplace).leave rfl
  | closes ho => exact h.leave ho
  | text _ hne ha =>
      refine h.append ha (fun _ => by simpa [Item.IsSoundAt] using hne) (fun ho => ?_)
      obtain ⟨_, hplace, -⟩ := Outcome.map_eq_ok_iff.1 ha
      exact absurd (checkPlace_nothing ho hplace).1 (by simp [typeOf, NodeType.mayHold])
  | cdata ha =>
      refine h.append ha (fun _ => hs) (fun ho => ?_)
      obtain ⟨_, hplace, -⟩ := Outcome.map_eq_ok_iff.1 ha
      exact absurd (checkPlace_nothing ho hplace).1 (by simp [typeOf, NodeType.mayHold])
  | comment ha => exact h.append ha (fun _ => hs) (fun _ => hs)
  | @instruction target data _ ht ha =>
      have hreadable := isReadable_instruction ht hs.1
      have hr : '\r' ∉ (if (Text.trimStart data).isEmpty then none
          else some (Text.trimStart data)).getD [] := by
        split
        · simp
        · exact fun hm => hs.2 ((List.dropWhile_sublist _).subset hm)
      exact h.append ha (fun _ => ⟨hreadable, hr⟩) (fun _ => ⟨hreadable, hr⟩)

end Builder

/-- A document that has been read obeys the rules, if it does not declare the prefix `xmlns`. -/
theorem Document.isSound_parse {subsets : Subsets} {s : Text} {doc : Document}
    (h : parse subsets s = .ok doc)
    (hx : ∀ event ∈ (Event.scan (Text.unifyLineEndings s)).1, event.DeclaresNoXmlns) :
    doc.IsSound subsets := by
  have hscanned := Event.isScanned_scan (Text.not_mem_unifyLineEndings s)
  have hstart : Builder.start.IsSound subsets :=
    ⟨fun _ hv => by simp [Builder.start, Declaration.none] at hv, trivial, by simp [Builder.start],
      by simp [Builder.start], by simp [Builder.start]⟩
  obtain ⟨b, hsound, ho, rfl⟩ := parse_invariant (I := (·.IsSound subsets)) hstart
    (fun hm hi hstep => isSound_step hi (hscanned _ hm) (hx _ hm) hstep) h
  have helement := hsound.element
  rw [ho] at helement
  refine ⟨hsound.declaration, fun item hi => hsound.content item (List.mem_reverse.1 hi), ?_, ?_⟩
  · rw [List.countP_reverse]
    simpa using helement
  · rw [List.countP_reverse]
    exact hsound.doctype

end XmlScribe
