/-
**Reading what is not what it was.**

An element may use a prefix for two namespaces.  Its text is read all the same, but its names are
resolved to others than they were.  To say that the markup is read as it was written, it is enough
that every name is resolved to something; what the attributes become does not matter.

Main definitions:

* `QName.IsAccepted`, `Attribute.IsAccepted` — the text of a name is resolved;
* `Fragment.IsAccepted` — the fragments are read.

Main results:

* `Builder.exists_openElement` — a start tag is read as some element;
* `Fragment.exists_foldlM_step` — reading the content of an element keeps its markup;
* `Fragment.exists_foldlM_outside` — and so does reading what stands outside all elements.
-/

import XmlScribe.Proofs.Document.Marks
import XmlScribe.Proofs.Markup.Outside

set_option autoImplicit false

namespace XmlScribe

open Builder Fragment

variable {α : Type} {tell : QName → α}

/-- The text of the name is resolved to a name of which the same is told. -/
def QName.IsAccepted (tell : QName → α) (m : Meaning) (q : QName) : Prop :=
  ∃ q' : QName, q'.Resolves m ∧ q'.text = q.text ∧ tell q' = tell q

theorem QName.IsAccepted.isName {m : Meaning} {q : QName} (h : q.IsAccepted tell m) :
    Name.IsName q.text := by
  obtain ⟨q', hq, ht, -⟩ := h
  exact ht ▸ hq.isMade.isName

/-- The text of the name of the attribute is resolved. -/
def Attribute.IsAccepted (m : Meaning) (a : Attribute) : Prop :=
  ∃ a' : Attribute, a'.Resolves m ∧ a'.name.text = a.name.text

namespace Builder

/-! ### Start tags -/

theorem exists_addAttribute {scopes : List Bindings} {a : Attribute}
    (h : a.IsAccepted (boundTo? scopes)) (attributes : List Attribute) :
    ∃ attributes', addAttribute scopes attributes (a.name.text, a.value) = .ok attributes' := by
  obtain ⟨a', h, ht⟩ := h
  have hr : (⟨a'.name, a.value⟩ : Attribute).Resolves (boundTo? scopes) := h
  exact ⟨_, ht ▸ addAttribute_of_resolves hr attributes⟩

theorem exists_addAttributes {scopes : List Bindings} {attributes : List Attribute}
    (h : ∀ a ∈ attributes, a.IsAccepted (boundTo? scopes)) (before : List Attribute) :
    ∃ after, (pairsOf attributes).foldlM (addAttribute scopes) before = .ok after := by
  induction attributes generalizing before with
  | nil => exact ⟨before, rfl⟩
  | cons a attributes ih =>
      obtain ⟨next, hnext⟩ := exists_addAttribute (h a (by simp)) before
      obtain ⟨after, hafter⟩ := ih (fun b hb => h b (by simp [hb])) next
      refine ⟨after, ?_⟩
      rw [pairsOf, List.map_cons, List.foldlM_cons, Outcome.bind_of_eq_ok hnext]
      exact hafter

/-- A start tag is read as an element of which the same is told, in which the prefixes mean what
the attributes declare. -/
theorem exists_openElement {b : Builder} {name : QName}
    {attributes : List (Attribute × WrittenAttribute)}
    (hname : name.IsAccepted tell (meaningIn b.meaning (attributes.map Prod.fst)))
    (haccepted : ∀ a ∈ attributes,
      a.1.IsAccepted (meaningIn b.meaning (attributes.map Prod.fst)))
    (hspelled : ∀ a ∈ attributes, IsSpelled b.replacements a.1 a.2)
    (hnodup : ((attributes.map Prod.fst).map fun a => a.name.text).Nodup)
    (hplace : b.checkPlace .element = .ok ()) :
    ∃ e, b.openElement (tagOf name attributes) = .ok e ∧ tell e.name = tell name ∧
      (b.enter e).meaning = meaningIn b.meaning (attributes.map Prod.fst) ∧ e.content = [] := by
  have hn := hname.isName
  obtain ⟨q, ⟨uri, hu, hof⟩, ht, htell⟩ := hname
  obtain ⟨after, hafter⟩ := @exists_addAttributes (bindingsOf (pairsOf (attributes.map Prod.fst)) ::
    b.opened.map OpenElement.bindings) (attributes.map Prod.fst) (fun a ha => by
      obtain ⟨c, hc, rfl⟩ := List.mem_map.1 ha
      rw [boundTo?_cons]
      exact haccepted c hc) []
  refine ⟨⟨q, after, bindingsOf (pairsOf (attributes.map Prod.fst)), []⟩,
    openElement_eq_ok_iff.2 ⟨pairsOf (attributes.map Prod.fst), uri,
      readAttributes_written hn hspelled hnodup, ?_, ?_, hafter, hplace, rfl, rfl⟩,
    htell, boundTo?_cons _ _, rfl⟩
  · rw [tagOf, Tag.name_written hn, ← ht, QName.fst_splitAtColon? (QName.isMade_of_ofText hof)]
    exact hu
  · rw [tagOf, Tag.name_written hn, ← ht]
    exact hof

end Builder

namespace Fragment

/-! ### Fragments that are read -/

mutual

/-- The fragment is read, and its names are resolved to names of which the same is told, where
`lookup` knows the declared entities and `m` what the prefixes mean. -/
def IsAcceptedAt (tell : QName → α) (lookup : Text → Option Text) (m : Meaning) : Fragment → Prop
  | element name attributes closed content =>
      let inner := meaningIn m (attributes.map Prod.fst)
      name.IsAccepted tell inner ∧ (∀ a ∈ attributes, a.1.IsAccepted inner) ∧
        (∀ a ∈ attributes, IsSpelled lookup a.1 a.2) ∧
        ((attributes.map Prod.fst).map fun a => a.name.text).Nodup ∧
        (closed = true → content = []) ∧ IsAccepted tell lookup inner content
  | chars raw data => ('<' ∉ raw ∧ '\r' ∉ raw) ∧ Reference.Spells lookup raw data
  | cdata data => ¬ [']', ']', '>'] <:+: data
  | comment data => ¬ ['-', '-', '>'] <:+: data
  | instruction target data =>
      Instruction.checkTarget target = .ok () ∧ ¬ ['?', '>'] <:+: data.getD []

/-- The fragments are read. -/
def IsAccepted (tell : QName → α) (lookup : Text → Option Text) (m : Meaning) :
    List Fragment → Prop
  | [] => True
  | f :: fragments => IsAcceptedAt tell lookup m f ∧ IsAccepted tell lookup m fragments

end

variable {lookup : Text → Option Text}

theorem isAccepted_iff {m : Meaning} {fragments : List Fragment} :
    IsAccepted tell lookup m fragments ↔ ∀ f ∈ fragments, IsAcceptedAt tell lookup m f := by
  induction fragments with
  | nil => simp [IsAccepted]
  | cons f fragments ih => simp [IsAccepted, ih]

mutual

theorem IsAcceptedAt.isLexical {m : Meaning} :
    ∀ {f : Fragment}, IsAcceptedAt tell lookup m f → EverywhereAt IsLexical f
  | element _ _ _ _, ⟨hname, _, hspelled, _, _, hcontent⟩ =>
      ⟨⟨hname.isName, fun a ha => (hspelled a ha).sound⟩, hcontent.isLexical⟩
  | chars _ _, h => h.1.1
  | cdata _, h => h
  | comment _, h => h
  | instruction _ _, h => h

/-- Fragments that are read are scanned as they are written. -/
theorem IsAccepted.isLexical {m : Meaning} :
    ∀ {fragments : List Fragment}, IsAccepted tell lookup m fragments →
      Everywhere IsLexical fragments
  | [], _ => trivial
  | _ :: _, h => ⟨h.1.isLexical, IsAccepted.isLexical h.2⟩

end

/-! ### Content -/

/-- The kind of the item that is read from a fragment. -/
def typeOf : Fragment → NodeType
  | element _ _ _ _ => .element
  | chars _ _ => .text
  | cdata _ => .cdata
  | comment _ => .comment
  | instruction _ _ => .instruction

theorem mayHold_typeOf (f : Fragment) : NodeType.element.mayHold f.typeOf = true := by
  cases f <;> rfl

/-- The item is of the kind of the fragment and has its markup. -/
structure IsReadAs (tell : QName → α) (f : Fragment) (item : Item) : Prop where
  /-- The kind. -/
  type : Builder.typeOf item = f.typeOf
  /-- The markup. -/
  marks : item.marksAt tell = f.marksAt tell

mutual

/-- Reading the events of anything but character data adds an item with its markup. -/
theorem exists_foldlM_stepAt {subsets : Subsets} :
    ∀ (f : Fragment) (b : Builder), IsAcceptedAt tell b.replacements b.meaning f →
      (∀ raw data, f ≠ chars raw data) → b.checkPlace f.typeOf = .ok () →
      ∃ item, f.IsReadAs tell item ∧ ∀ events : List Event,
        (Event.mergeFrom [] (eventsOf f ++ events)).foldlM (step subsets) b =
          (Event.mergeFrom [] events).foldlM (step subsets) (b.push item)
  | element name attributes closed content, b, h, _, hplace => by
      obtain ⟨hname, haccepted, hspelled, hnodup, hclosed, hcontent⟩ := h
      obtain ⟨e, hopen, htell, hmeaning, he⟩ :=
        exists_openElement hname haccepted hspelled hnodup hplace
      cases closed with
      | true =>
          obtain rfl := hclosed rfl
          refine ⟨close e, ⟨rfl, ?_⟩, fun events => ?_⟩
          · rw [close, he, Item.marksAt, marksAt, htell]
            rfl
          · show ((.startTag (tagOf name attributes) true : Event) ::
              Event.mergeFrom [] events).foldlM (step subsets) b = _
            rw [List.foldlM_cons, Outcome.bind_of_eq_ok (step_startTag hopen true)]
            rfl
      | false =>
          rw [← hmeaning] at hcontent
          obtain ⟨items, hmarks, hrun⟩ := exists_foldlM_step content
            (b.enter e) hcontent (List.cons_ne_nil _ _) [] .nil
          refine ⟨.element e.name e.attributes items, ⟨rfl, ?_⟩, fun events => ?_⟩
          · rw [Item.marksAt, marksAt, htell, hmarks]
          · have hevents : Event.mergeFrom [] (eventsOf (element name attributes false content) ++
                events) = .startTag (tagOf name attributes) false ::
                Event.mergeFrom [] (Fragment.events content ++ (.endTag name.text :: events)) := by
              simp [eventsOf, Event.mergeFrom, Event.flush]
            rw [hevents, List.foldlM_cons, Outcome.bind_of_eq_ok (step_startTag hopen false),
              if_neg (by decide), hrun, List.foldlM_cons,
              Outcome.bind_of_eq_ok (step_endTag b he _ _)]
  | chars raw data, b, h, hne, _ => absurd rfl (hne raw data)
  | cdata data, b, h, _, hplace => by
      refine ⟨.cdata data, ⟨rfl, rfl⟩, fun events => ?_⟩
      show ((.cdata data : Event) :: Event.mergeFrom [] events).foldlM (step subsets) b = _
      rw [List.foldlM_cons, step, append_eq_ok hplace]
      rfl
  | comment data, b, h, _, hplace => by
      refine ⟨.comment data, ⟨rfl, rfl⟩, fun events => ?_⟩
      show ((.comment data : Event) :: Event.mergeFrom [] events).foldlM (step subsets) b = _
      rw [List.foldlM_cons, step, append_eq_ok hplace]
      rfl
  | instruction target data, b, h, _, hplace => by
      let read := Text.trimStart (spaced data)
      have hstep : step subsets b (.instruction target (spaced data)) =
          .ok (b.push (.instruction target (if read.isEmpty then none else some read))) := by
        rw [step, Outcome.bind_of_eq_ok (Outcome.mapError_of_eq_ok h.1 _)]
        exact append_eq_ok hplace
      refine ⟨.instruction target (if read.isEmpty then none else some read), ⟨rfl, rfl⟩,
        fun events => ?_⟩
      show ((.instruction target (spaced data) : Event) ::
        Event.mergeFrom [] events).foldlM (step subsets) b = _
      rw [List.foldlM_cons, Outcome.bind_of_eq_ok hstep]

/-- Reading the events of the content of an element up to the end tag adds items with its markup. -/
theorem exists_foldlM_step {subsets : Subsets} :
    ∀ (fragments : List Fragment) (b : Builder),
      IsAccepted tell b.replacements b.meaning fragments → b.opened ≠ [] →
      ∀ {raw : Text} (waiting : Text), Reference.Spells b.replacements raw waiting →
      ∃ items, Item.marks tell items = marks tell fragments ∧ ∀ (name : Text) (events : List Event),
        (Event.mergeFrom raw (Fragment.events fragments ++ (.endTag name :: events))).foldlM
            (step subsets) b =
          (Event.endTag name :: Event.mergeFrom [] events).foldlM (step subsets) (b.pushAll items)
  | [], b, _, ho, raw, waiting, hs => by
      refine ⟨Fragment.flush waiting, Item.marks_flush tell waiting, fun name events => ?_⟩
      rw [Fragment.events, List.nil_append, Event.mergeFrom_cons (by simp), foldlM_flush ho hs]
  | f :: fragments, b, h, ho, raw, waiting, hs => by
      by_cases hchars : ∃ more data, f = chars more data
      · obtain ⟨more, data, rfl⟩ := hchars
        exact exists_foldlM_step fragments b h.2 ho _ (hs.append h.1.2)
      · have hne : ∀ raw data, f ≠ chars raw data := fun raw data he => hchars ⟨raw, data, he⟩
        let flushed := b.pushAll (flush waiting)
        have hflushed : flushed.opened ≠ [] := opened_pushAll ho _
        have hat : IsAcceptedAt tell flushed.replacements flushed.meaning f := by
          rw [replacements_pushAll, meaning_pushAll]
          exact h.1
        obtain ⟨item, hitem, hrun⟩ := exists_foldlM_stepAt f flushed hat hne
          (checkPlace_of_opened hflushed f.mayHold_typeOf)
        have hnext : flushed.push item = b.pushAll (flush waiting ++ [item]) :=
          (pushAll_append b _ [item]).symm
        have hrest : IsAccepted tell (flushed.push item).replacements (flushed.push item).meaning
            fragments := by
          rw [hnext, replacements_pushAll, meaning_pushAll]
          exact h.2
        obtain ⟨items, hmarks, hrest⟩ := exists_foldlM_step fragments
          (flushed.push item) hrest (hnext ▸ opened_pushAll ho _) [] .nil
        refine ⟨flush waiting ++ item :: items, ?_, fun name events => ?_⟩
        · rw [Item.marks_append, Item.marks_flush, List.nil_append, Item.marks, hitem.marks, hmarks,
            marks]
        · rw [Fragment.events, List.append_assoc, mergeFrom_eventsOf raw hne, foldlM_flush ho hs,
            hrun, hrest, hnext, ← pushAll_append, List.append_assoc, List.singleton_append]

end

/-! ### Outside all elements -/

/-- The fragment is an element. -/
def isElement : Fragment → Bool
  | element _ _ _ _ => true
  | _ => false

theorem typeOf_eq_element_iff {f : Fragment} : f.typeOf = .element ↔ f.isElement = true := by
  cases f <;> simp [typeOf, isElement]

theorem typeOf_eq_element_of_isUnique {f : Fragment}
    (h : f.typeOf.isUniqueInDocument = true) : f.typeOf = .element := by
  cases f <;> simp_all [typeOf, NodeType.isUniqueInDocument]

theorem IsOutside.mayHold {f : Fragment} (h : f.IsOutside) (hne : ∀ raw data, f ≠ chars raw data) :
    NodeType.document.mayHold f.typeOf = true := by
  cases f with
  | chars raw data => exact absurd rfl (hne raw data)
  | cdata data => exact h.elim
  | _ => rfl

theorem IsReadAs.isElement_eq {f : Fragment} {item : Item} (h : f.IsReadAs tell item) :
    item.isElement = f.isElement := by
  rw [Bool.eq_iff_iff, ← Builder.typeOf_eq_element_iff, ← typeOf_eq_element_iff, h.type]

/-- Reading what stands outside all elements adds items with its markup. -/
theorem exists_foldlM_outside {subsets : Subsets} {fragments : List Fragment} {b : Builder}
    (ho : b.opened = []) (h : IsAccepted tell b.replacements b.meaning fragments)
    (hout : ∀ f ∈ fragments, f.IsOutside)
    (hcount : fragments.countP isElement + b.content.countP Item.isElement ≤ 1) {raw : Text}
    (hraw : Text.isAllBlank raw = true) :
    ∃ items, Item.marks tell items = marks tell fragments ∧
      (Event.mergeFrom raw (events fragments)).foldlM (step subsets) b = .ok (b.pushAll items) := by
  induction fragments generalizing b raw with
  | nil =>
      have hrun := @foldlM_flush_blank subsets _ ho _ hraw []
      rw [List.append_nil] at hrun
      exact ⟨[], rfl, hrun⟩
  | cons f fragments ih =>
      have hrest := fun g hg => hout g (List.mem_cons_of_mem f hg)
      by_cases hchars : ∃ more data, f = chars more data
      · obtain ⟨more, data, rfl⟩ := hchars
        have hblank : Text.isAllBlank (raw ++ more) = true := by
          rw [Text.isAllBlank, List.all_append]
          exact Bool.and_eq_true_iff.2 ⟨hraw, (hout (chars more data) List.mem_cons_self).1⟩
        exact ih ho h.2 hrest hcount hblank
      · have hne : ∀ raw data, f ≠ chars raw data := fun raw data he => hchars ⟨raw, data, he⟩
        have hplace : b.checkPlace f.typeOf = .ok () := by
          refine checkPlace_of_outside ho ((hout f (by simp)).mayHold hne)
            fun hunique other hother htype => ?_
          have helement := typeOf_eq_element_of_isUnique hunique
          have hpos : 0 < b.content.countP Item.isElement := List.countP_pos_iff.2
            ⟨other, hother, Builder.typeOf_eq_element_iff.1 (htype.trans helement)⟩
          rw [List.countP_cons_of_pos (typeOf_eq_element_iff.1 helement)] at hcount
          omega
        obtain ⟨item, hitem, hrun⟩ := exists_foldlM_stepAt f b h.1 hne hplace
        have hpush : b.push item = { b with content := item :: b.content } := by
          rw [push, ho]
        obtain ⟨items, hmarks, hrest⟩ := @ih (b.push item) (by rw [hpush, ho])
          (by rw [hpush]; exact h.2) hrest (by
            rw [hpush, List.countP_cons, hitem.isElement_eq]
            rw [List.countP_cons] at hcount
            omega) [] rfl
        refine ⟨item :: items, ?_, ?_⟩
        · rw [Item.marks, hitem.marks, hmarks, marks]
        · rw [events, mergeFrom_eventsOf raw hne, foldlM_flush_blank ho hraw, hrun, hrest]
          rfl

end Fragment

end XmlScribe
