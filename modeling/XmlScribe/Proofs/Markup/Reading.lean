/-
**Reading what has been written.**

The events of readable fragments are taken one after the other; inside an element this adds the
items of the fragments to those of the innermost open element.  Character data is joined by then,
so a piece of it that stands before markup is added only together with that markup.

Main definitions:

* `Builder.pushAll` — the state with some more items.

Main results:

* `Builder.openElement_written` — a start tag is read as the element that it was written for;
* `Fragment.foldlM_stepAt` — reading the events of an element, comment, instruction or section;
* `Fragment.foldlM_step` — reading the events of the content of an element.
-/

import XmlScribe.Proofs.Markup.Fragment

set_option autoImplicit false

namespace XmlScribe

open Fragment

namespace Builder

/-! ### Adding items -/

/-- The state with some more items in the innermost open element, or outside all elements. -/
def pushAll (b : Builder) (items : List Item) : Builder :=
  items.foldl push b

theorem pushAll_append (b : Builder) (items more : List Item) :
    b.pushAll (items ++ more) = (b.pushAll items).pushAll more :=
  List.foldl_append

theorem pushAll_opened {b : Builder} {e : OpenElement} {outer : List OpenElement}
    (h : b.opened = e :: outer) (items : List Item) :
    b.pushAll items =
      { b with opened := { e with content := items.reverse ++ e.content } :: outer } := by
  induction items generalizing b e with
  | nil => rw [List.reverse_nil, List.nil_append, ← h]; rfl
  | cons item items ih =>
      have hp : b.push item =
          { b with opened := { e with content := item :: e.content } :: outer } := by
        rw [push, h]
      rw [pushAll, List.foldl_cons, ← pushAll, hp, ih rfl, List.reverse_cons, List.append_assoc]
      rfl

theorem pushAll_nothing {b : Builder} (h : b.opened = []) (items : List Item) :
    b.pushAll items = { b with content := items.reverse ++ b.content } := by
  induction items generalizing b with
  | nil => rfl
  | cons item items ih =>
      have hp : b.push item = { b with content := item :: b.content } := by rw [push, h]
      have hnext : (b.push item).opened = [] := by rw [hp, h]
      rw [pushAll, List.foldl_cons, ← pushAll, ih hnext, hp, List.reverse_cons, List.append_assoc]
      rfl

/-- What declared entities stand for. -/
def replacements (b : Builder) : Text → Option Text := fun name =>
  b.entities.lookup name

theorem replacements_pushAll (b : Builder) (items : List Item) :
    (b.pushAll items).replacements = b.replacements := by
  cases h : b.opened with
  | nil => rw [pushAll_nothing h]; rfl
  | cons e outer => rw [pushAll_opened h]; rfl

/-- What the prefixes mean where the next item stands. -/
def meaning (b : Builder) : Meaning :=
  meaningOf b.opened

theorem meaning_pushAll (b : Builder) (items : List Item) :
    (b.pushAll items).meaning = b.meaning := by
  cases h : b.opened with
  | nil => rw [pushAll_nothing h]; rfl
  | cons e outer => rw [pushAll_opened h, meaning, meaning, h]; rfl

theorem append_eq_ok {b : Builder} {item : Item} (h : b.checkPlace (typeOf item) = .ok ()) :
    b.append item = .ok (b.push item) :=
  append_eq_ok_iff.2 ⟨h, rfl⟩

theorem checkPlace_of_opened {b : Builder} (h : b.opened ≠ []) {type : NodeType}
    (ht : NodeType.element.mayHold type = true) : b.checkPlace type = .ok () := by
  rw [checkPlace]
  split
  · rw [if_pos ht]
  · exact absurd ‹_› h

theorem opened_pushAll {b : Builder} (h : b.opened ≠ []) (items : List Item) :
    (b.pushAll items).opened ≠ [] := by
  obtain ⟨e, outer, ho⟩ := List.exists_cons_of_ne_nil h
  rw [pushAll_opened ho]
  exact List.cons_ne_nil _ _

/-! ### Start tags -/

/-- An element with these attributes, of which only the start tag has been read. -/
def opening (name : QName) (attributes : List Attribute) : OpenElement :=
  ⟨name, attributes, bindingsOf (pairsOf attributes), []⟩

/-- The state in one more open element. -/
def enter (b : Builder) (e : OpenElement) : Builder :=
  { b with opened := e :: b.opened }

theorem meaning_enter (b : Builder) (name : QName) (attributes : List Attribute) :
    (b.enter (opening name attributes)).meaning = meaningIn b.meaning attributes :=
  boundTo?_cons _ _

theorem normalizeValue_eq_self {raw : Text} (h : ∀ c ∈ ['\t', '\n', '\r'], c ∉ raw) :
    normalizeValue raw = raw := by
  rw [normalizeValue]
  refine (List.map_congr_left fun c hc => ?_).trans (List.map_id raw)
  refine if_neg ?_
  rintro (rfl | rfl | rfl) <;> exact h _ (by simp) hc

/-- The values of attributes are read as they were meant. -/
theorem readsAs_written {b : Builder} {attributes : List (Attribute × WrittenAttribute)}
    (h : ∀ a ∈ attributes, IsSpelled b.replacements a.1 a.2) {raw : List RawAttribute}
    (hr : raw.map (fun a => (a.name, a.value)) =
      (attributes.map Prod.snd).map fun w => (w.name, w.raw)) :
    List.Forall₂ b.ReadsAs raw (pairsOf (attributes.map Prod.fst)) := by
  induction attributes generalizing raw with
  | nil =>
      obtain rfl := List.map_eq_nil_iff.1 hr
      exact .nil
  | cons a attributes ih =>
      cases raw with
      | nil => simp at hr
      | cons r raw =>
          simp only [List.map_cons, List.cons.injEq, Prod.mk.injEq] at hr
          obtain ⟨⟨hname, hvalue⟩, hrest⟩ := hr
          have ha := h a (by simp)
          have hexpand : b.expand (normalizeValue r.value) = .ok a.1.value := by
            rw [hvalue, normalizeValue_eq_self ha.not_mem, expand]
            exact Outcome.mapError_of_eq_ok (Reference.expand_of_spells ha.spells) _
          exact .cons ⟨hname.trans ha.name, hexpand⟩ (ih (fun c hc => h c (by simp [hc])) hrest)

/-- The attributes of a start tag are read as they were meant. -/
theorem readAttributes_written {b : Builder} {name : QName} (hn : Name.IsName name.text)
    {attributes : List (Attribute × WrittenAttribute)}
    (hspelled : ∀ a ∈ attributes, IsSpelled b.replacements a.1 a.2)
    (hnodup : ((attributes.map Prod.fst).map fun a => a.name.text).Nodup) :
    b.readAttributes (tagOf name attributes) = .ok (pairsOf (attributes.map Prod.fst)) := by
  have hnames : ((attributes.map Prod.snd).map WrittenAttribute.name).Nodup := by
    rw [map_name_written hspelled]
    exact hnodup
  obtain ⟨raw, hraw, hmap⟩ :=
    Tag.attributes_written hn (isSound_written fun a ha => (hspelled a ha).sound) hnames
  rw [readAttributes_eq_ok_iff, tagOf, hraw]
  exact ⟨rfl, readsAs_written hspelled hmap⟩

/-- A start tag is read as the element that it was written for. -/
theorem openElement_written {b : Builder} {name : QName}
    {attributes : List (Attribute × WrittenAttribute)}
    (hname : name.Resolves (meaningIn b.meaning (attributes.map Prod.fst)))
    (hresolves : ∀ a ∈ attributes, a.1.Resolves (meaningIn b.meaning (attributes.map Prod.fst)))
    (hspelled : ∀ a ∈ attributes, IsSpelled b.replacements a.1 a.2)
    (hdistinct : Attribute.Distinct (attributes.map Prod.fst))
    (hplace : b.checkPlace .element = .ok ()) :
    b.openElement (tagOf name attributes) = .ok (opening name (attributes.map Prod.fst)) := by
  have hmade := hname.isMade
  obtain ⟨uri, hu, hof⟩ := hname
  refine openElement_eq_ok_iff.2 ⟨pairsOf (attributes.map Prod.fst), uri,
    readAttributes_written hmade.isName hspelled hdistinct.nodup_text, ?_, ?_,
    addAttributes_eq_ok (fun a ha => ?_) hdistinct, hplace, rfl, rfl⟩
  · rw [tagOf, Tag.name_written hmade.isName, QName.fst_splitAtColon? hmade]
    exact hu
  · rw [tagOf, Tag.name_written hmade.isName]
    exact hof
  · obtain ⟨c, hc, rfl⟩ := List.mem_map.1 ha
    rw [boundTo?_cons]
    exact hresolves c hc

theorem step_startTag {subsets : Subsets} {b : Builder} {content : Text} {e : OpenElement}
    (h : b.openElement content = .ok e) (closed : Bool) :
    step subsets b (.startTag content closed) =
      .ok (if closed then b.push (close e) else b.enter e) := by
  rw [step, Outcome.bind_of_eq_ok h]
  cases closed <;> rfl

/-- An end tag adds the element with all items since its start tag. -/
theorem step_endTag {subsets : Subsets} (b : Builder) {e : OpenElement} (he : e.content = [])
    (items : List Item) (text : Text) :
    step subsets ((b.enter e).pushAll items) (.endTag text) =
      .ok (b.push (.element e.name e.attributes items)) := by
  have ho : (b.enter e).opened = e :: b.opened := rfl
  have hitems : (items.reverse ++ e.content).reverse = items := by
    rw [he, List.append_nil, List.reverse_reverse]
  rw [pushAll_opened ho, step]
  simp only
  rw [close, hitems]
  rfl

/-! ### Character data -/

theorem step_text {subsets : Subsets} {b : Builder} (ho : b.opened ≠ []) {raw data : Text}
    (hs : Reference.Spells b.replacements raw data) :
    step subsets b (.text raw) = .ok (b.pushAll (Fragment.flush data)) := by
  have hblank : (b.opened.isEmpty && Text.isAllBlank raw) = false := by
    rw [List.isEmpty_eq_false_iff.2 ho, Bool.false_and]
  have hexpand : b.expand raw = .ok data := by
    rw [expand]
    exact Outcome.mapError_of_eq_ok (Reference.expand_of_spells hs) _
  rw [step, hblank, if_neg (by decide), Outcome.bind_of_eq_ok hexpand, Fragment.flush]
  cases hd : data.isEmpty with
  | true => rfl
  | false =>
      rw [if_neg (by decide), if_neg (by decide),
        append_eq_ok (checkPlace_of_opened ho rfl)]
      rfl

/-- Character data that is waiting is added with what comes next. -/
theorem foldlM_flush {subsets : Subsets} {b : Builder} (ho : b.opened ≠ []) {raw data : Text}
    (hs : Reference.Spells b.replacements raw data) (events : List Event) :
    (Event.flush raw ++ events).foldlM (step subsets) b =
      events.foldlM (step subsets) (b.pushAll (Fragment.flush data)) := by
  cases raw with
  | nil =>
      cases hs
      rfl
  | cons c raw =>
      show (Event.text (c :: raw) :: events).foldlM (step subsets) b = _
      rw [List.foldlM_cons, Outcome.bind_of_eq_ok (step_text ho hs)]

end Builder

namespace Fragment

open Builder

/-! ### Content -/

/-- Everything but character data is added at once, after the character data before it. -/
theorem itemsAt_cases (f : Fragment) :
    (∃ item, (∀ raw data, f ≠ chars raw data) ∧ NodeType.element.mayHold (typeOf item) = true ∧
      ∀ waiting, itemsAt waiting f = (flush waiting ++ [item], [])) ∨
    ∃ raw data, f = chars raw data := by
  cases f with
  | chars raw data => exact Or.inr ⟨raw, data, rfl⟩
  | _ => exact Or.inl ⟨_, by simp, rfl, fun _ => rfl⟩

theorem mergeFrom_eventsOf (raw : Text) {f : Fragment} (h : ∀ raw data, f ≠ chars raw data)
    (events : List Event) :
    Event.mergeFrom raw (eventsOf f ++ events) =
      Event.flush raw ++ Event.mergeFrom [] (eventsOf f ++ events) := by
  have hcons : ∃ event tail, eventsOf f = event :: tail ∧ ∀ raw, event ≠ .text raw := by
    cases f with
    | element name attributes closed content =>
        cases closed with
        | true => exact ⟨_, _, rfl, by simp⟩
        | false => exact ⟨_, _, rfl, by simp⟩
    | chars raw data => exact absurd rfl (h raw data)
    | cdata data => exact ⟨_, _, rfl, by simp⟩
    | comment data => exact ⟨_, _, rfl, by simp⟩
    | instruction target data => exact ⟨_, _, rfl, by simp⟩
  obtain ⟨event, tail, he, hne⟩ := hcons
  rw [he, List.cons_append, Event.mergeFrom_cons hne, Event.mergeFrom_cons hne]
  rfl

theorem step_instruction {subsets : Subsets} {b : Builder} {target : Text} {data : Option Text}
    (h : Instruction.IsReadable target data) (hp : b.checkPlace .instruction = .ok ()) :
    step subsets b (.instruction target (spaced data)) =
      .ok (b.push (.instruction target data)) := by
  have hdata : (if (Text.trimStart (spaced data)).isEmpty then none
      else some (Text.trimStart (spaced data))) = data := by
    cases data with
    | none => rfl
    | some s =>
        cases s with
        | nil => exact absurd rfl h.ne_nil
        | cons c s =>
            have hspace : Text.isBlank ' ' = true := rfl
            simp [spaced, Text.trimStart, hspace, h.not_isBlank c s rfl]
  rw [step, Outcome.bind_of_eq_ok (Outcome.mapError_of_eq_ok h.target _)]
  simp only
  rw [hdata]
  exact append_eq_ok hp

mutual

/-- Reading the events of anything but character data adds its item. -/
theorem foldlM_stepAt {subsets : Subsets} :
    ∀ (f : Fragment) (b : Builder),
      IsReadableAt b.replacements b.meaning f →
      ∀ (item : Item), itemsAt [] f = ([item], []) → b.checkPlace (typeOf item) = .ok () →
      ∀ events : List Event,
        (Event.mergeFrom [] (eventsOf f ++ events)).foldlM (step subsets) b =
          (Event.mergeFrom [] events).foldlM (step subsets) (b.push item)
  | element name attributes closed content, b, h => by
      obtain ⟨hname, hresolves, hspelled, hdistinct, hclosed, hcontent⟩ := h
      intro item hitem hplace events
      have hitem' : item = .element name (attributes.map Prod.fst)
          ((itemsFrom [] content).1 ++ flush (itemsFrom [] content).2) := by
        simpa [itemsAt, flush] using (congrArg Prod.fst hitem).symm
      subst hitem'
      have hopen := openElement_written hname hresolves hspelled hdistinct hplace
      cases closed with
      | true =>
          obtain rfl := hclosed rfl
          show ((.startTag (tagOf name attributes) true : Event) ::
            Event.mergeFrom [] events).foldlM (step subsets) b = _
          rw [List.foldlM_cons, Outcome.bind_of_eq_ok (step_startTag hopen true)]
          rfl
      | false =>
          rw [← meaning_enter b name] at hcontent
          obtain ⟨raw, hraw, hrun⟩ := foldlM_step content
            (b.enter (opening name (attributes.map Prod.fst))) hcontent (List.cons_ne_nil _ _) []
            .nil (.endTag name.text :: events)
          have hevents : Event.mergeFrom [] (eventsOf (element name attributes false content) ++
              events) = .startTag (tagOf name attributes) false ::
              Event.mergeFrom [] (Fragment.events content ++ (.endTag name.text :: events)) := by
            simp [eventsOf, Event.mergeFrom, Event.flush]
          have hlast : ((b.enter (opening name (attributes.map Prod.fst))).pushAll
              (itemsFrom [] content).1).opened ≠ [] := by
            rw [pushAll_opened rfl]
            exact List.cons_ne_nil _ _
          rw [← replacements_pushAll _ (itemsFrom [] content).1] at hraw
          rw [hevents, List.foldlM_cons, Outcome.bind_of_eq_ok (step_startTag hopen false),
            if_neg (by decide), hrun, Event.mergeFrom_cons (by simp),
            foldlM_flush hlast hraw, ← pushAll_append,
            List.foldlM_cons, Outcome.bind_of_eq_ok (step_endTag b rfl _ _)]
          rfl
  | chars raw data, b, h => by
      intro item hitem
      exact absurd (congrArg Prod.fst hitem) (by simp [itemsAt])
  | cdata data, b, h => by
      intro item hitem hplace events
      obtain rfl : item = .cdata data := by
        simpa [itemsAt, flush] using (congrArg Prod.fst hitem).symm
      show ((.cdata data : Event) :: Event.mergeFrom [] events).foldlM (step subsets) b = _
      rw [List.foldlM_cons, step, append_eq_ok hplace]
      rfl
  | comment data, b, h => by
      intro item hitem hplace events
      obtain rfl : item = .comment data := by
        simpa [itemsAt, flush] using (congrArg Prod.fst hitem).symm
      show ((.comment data : Event) :: Event.mergeFrom [] events).foldlM (step subsets) b = _
      rw [List.foldlM_cons, step, append_eq_ok hplace]
      rfl
  | instruction target data, b, h => by
      intro item hitem hplace events
      obtain rfl : item = .instruction target data := by
        simpa [itemsAt, flush] using (congrArg Prod.fst hitem).symm
      show ((.instruction target (spaced data) : Event) ::
        Event.mergeFrom [] events).foldlM (step subsets) b = _
      rw [List.foldlM_cons, Outcome.bind_of_eq_ok (step_instruction h.1 hplace)]

/-- Reading the events of the content of an element adds the items that are complete, and leaves
the character data after them. -/
theorem foldlM_step {subsets : Subsets} :
    ∀ (fragments : List Fragment) (b : Builder),
      IsReadable b.replacements b.meaning fragments → b.opened ≠ [] →
      ∀ {raw : Text} (waiting : Text), Reference.Spells b.replacements raw waiting →
      ∀ events : List Event, ∃ raw',
        Reference.Spells b.replacements raw' (itemsFrom waiting fragments).2 ∧
        (Event.mergeFrom raw (Fragment.events fragments ++ events)).foldlM (step subsets) b =
          (Event.mergeFrom raw' events).foldlM (step subsets)
            (b.pushAll (itemsFrom waiting fragments).1)
  | [], b, _, _, raw, _, hs => fun events => ⟨raw, hs, rfl⟩
  | f :: fragments, b, h, ho, raw, waiting, hs => fun events => by
      rcases itemsAt_cases f with ⟨item, hne, htype, hitem⟩ | ⟨more, data, rfl⟩
      · let flushed := b.pushAll (flush waiting)
        let next := flushed.push item
        have hnext : next = b.pushAll (flush waiting ++ [item]) := (pushAll_append b _ [item]).symm
        have hat : IsReadableAt flushed.replacements flushed.meaning f := by
          rw [replacements_pushAll, meaning_pushAll]
          exact h.1
        have hrest : IsReadable next.replacements next.meaning fragments := by
          rw [hnext, replacements_pushAll, meaning_pushAll]
          exact h.2
        have hplace := checkPlace_of_opened (opened_pushAll ho (flush waiting)) htype
        obtain ⟨raw', hraw', hrun⟩ := foldlM_step fragments next hrest
          (hnext ▸ opened_pushAll ho _) [] .nil events
        rw [hnext, replacements_pushAll] at hraw'
        refine ⟨raw', ?_, ?_⟩
        · rw [itemsFrom, hitem]
          exact hraw'
        · rw [Fragment.events, List.append_assoc, mergeFrom_eventsOf raw hne, foldlM_flush ho hs,
            foldlM_stepAt f flushed hat item (hitem []) hplace, hrun, hnext, ← pushAll_append,
            itemsFrom, hitem]
      · obtain ⟨raw', hraw', hrun⟩ := foldlM_step fragments b h.2 ho _ (hs.append h.1.2) events
        exact ⟨raw', hraw', hrun⟩

end

end Fragment

end XmlScribe
