/-
**Reading what stands outside all elements.**

Outside all elements there are comments, processing instructions and one element, with white space
between them.  The white space is passed over, so reading adds the items of the other fragments and
nothing else.

Main definitions:

* `Fragment.IsOutside` — the fragment may stand outside all elements;
* `Fragment.itemsOutside` — the items of such fragments.

Main results:

* `Fragment.foldlM_outside` — reading the events of such fragments adds their items;
* `Fragment.isSoundOutside_itemsOutside` — the items obey the rules;
* `Fragment.outlinesFrom_itemsOutside` — the items have the outlines of the fragments.
-/

import XmlScribe.Proofs.Document.Outline
import XmlScribe.Proofs.Document.Sound
import XmlScribe.Proofs.Markup.Reading

set_option autoImplicit false

namespace XmlScribe

open Fragment

namespace Builder

/-- What may stand outside all elements, and is not there yet, is not refused there. -/
theorem checkPlace_of_outside {b : Builder} (ho : b.opened = []) {type : NodeType}
    (hm : NodeType.document.mayHold type = true)
    (hu : type.isUniqueInDocument = true → ∀ item ∈ b.content, typeOf item ≠ type) :
    b.checkPlace type = .ok () := by
  rw [checkPlace, ho]
  simp only [hm, Bool.not_true, Bool.false_eq_true, if_false]
  refine if_neg fun hany => ?_
  obtain ⟨hunique, hany⟩ := Bool.and_eq_true_iff.1 hany
  obtain ⟨item, hitem, htype⟩ := List.any_eq_true.1 hany
  exact hu hunique item hitem (beq_iff_eq.1 htype)

/-- White space outside all elements is passed over. -/
theorem foldlM_flush_blank {subsets : Subsets} {b : Builder} (ho : b.opened = []) {raw : Text}
    (hraw : Text.isAllBlank raw = true) (events : List Event) :
    (Event.flush raw ++ events).foldlM (step subsets) b = events.foldlM (step subsets) b := by
  have hstep : step subsets b (.text raw) = .ok b := by
    rw [step, ho, hraw]
    rfl
  rw [Event.flush]
  split
  · rfl
  · rw [List.singleton_append, List.foldlM_cons, Outcome.bind_of_eq_ok hstep]

end Builder

namespace Fragment

open Builder

/-- The fragment may stand outside all elements. -/
def IsOutside : Fragment → Prop
  | chars raw data => Text.isAllBlank raw = true ∧ Text.isAllBlank data = true
  | cdata _ => False
  | _ => True

/-- The items of fragments outside all elements. -/
def itemsOutside (fragments : List Fragment) : List Item :=
  fragments.flatMap fun f => (itemsAt [] f).1

/-- A fragment outside all elements is one item, or nothing but white space. -/
theorem IsOutside.cases {f : Fragment} (h : f.IsOutside) :
    (∃ item, (∀ raw data, f ≠ chars raw data) ∧ itemsAt [] f = ([item], []) ∧
      NodeType.document.mayHold (typeOf item) = true ∧
      ((typeOf item).isUniqueInDocument = true → typeOf item = .element)) ∨
    ∃ raw data, f = chars raw data ∧ Text.isAllBlank raw = true ∧ Text.isAllBlank data = true := by
  cases f with
  | chars raw data => exact Or.inr ⟨raw, data, rfl, h⟩
  | cdata data => exact h.elim
  | _ => exact Or.inl ⟨_, by simp, rfl, rfl, by simp [typeOf, NodeType.isUniqueInDocument]⟩

/-- Reading fragments outside all elements adds their items. -/
theorem foldlM_outside {subsets : Subsets} {fragments : List Fragment} {b : Builder}
    (ho : b.opened = []) (h : IsReadable b.replacements b.meaning fragments)
    (hout : ∀ f ∈ fragments, f.IsOutside)
    (hcount : (itemsOutside fragments ++ b.content).countP Item.isElement ≤ 1)
    {raw : Text} (hraw : Text.isAllBlank raw = true) :
    (Event.mergeFrom raw (events fragments)).foldlM (step subsets) b =
      .ok (b.pushAll (itemsOutside fragments)) := by
  induction fragments generalizing b raw with
  | nil =>
      have hrun := @foldlM_flush_blank subsets _ ho _ hraw []
      rw [List.append_nil] at hrun
      exact hrun
  | cons f fragments ih =>
      rcases (hout f (by simp)).cases with ⟨item, hne, hitem, hm, hu⟩ | ⟨more, data, rfl, hmore, -⟩
      · have hcons : itemsOutside (f :: fragments) = item :: itemsOutside fragments := by
          rw [itemsOutside, List.flatMap_cons, hitem]
          rfl
        rw [hcons] at hcount
        have hplace : b.checkPlace (typeOf item) = .ok () := by
          refine checkPlace_of_outside ho hm fun hunique other hother htype => ?_
          have helement := hu hunique
          rw [helement, typeOf_eq_element_iff] at htype
          rw [typeOf_eq_element_iff] at helement
          have hpos : 0 < b.content.countP Item.isElement :=
            List.countP_pos_iff.2 ⟨other, hother, htype⟩
          rw [List.cons_append, List.countP_cons_of_pos helement, List.countP_append] at hcount
          omega
        have hpush : b.push item = { b with content := item :: b.content } := by
          rw [push, ho]
        have hnext : (itemsOutside fragments ++ (b.push item).content).countP Item.isElement ≤
            1 := by
          rw [hpush]
          simpa [List.countP_append, List.countP_cons, Nat.add_assoc] using hcount
        have ho' : (b.push item).opened = [] := by rw [hpush, ho]
        have hrest : IsReadable (b.push item).replacements (b.push item).meaning fragments := by
          rw [hpush]
          exact h.2
        rw [events, mergeFrom_eventsOf raw hne, foldlM_flush_blank ho hraw,
          foldlM_stepAt f b h.1 item hitem hplace,
          ih ho' hrest (fun g hg => hout g (by simp [hg])) hnext rfl, hcons]
        rfl
      · have hblank : Text.isAllBlank (raw ++ more) = true := by
          rw [Text.isAllBlank, List.all_append]
          exact Bool.and_eq_true_iff.2 ⟨hraw, hmore⟩
        exact ih ho h.2 (fun g hg => hout g (by simp [hg])) hcount hblank

/-! ### Rules -/

theorem isSound_append {m : Meaning} {items more : List Item} (h : Item.IsSound m items)
    (h' : Item.IsSound m more) : Item.IsSound m (items ++ more) := by
  refine Item.isSound_iff.2 fun item hi => ?_
  rcases List.mem_append.1 hi with hi | hi
  · exact Item.isSound_iff.1 h item hi
  · exact Item.isSound_iff.1 h' item hi

theorem isSound_flush {m : Meaning} (data : Text) : Item.IsSound m (flush data) := by
  cases data with
  | nil => trivial
  | cons c data => exact ⟨List.cons_ne_nil c data, trivial⟩

mutual

/-- The items that a fragment completes obey the rules. -/
theorem isSound_itemsAt {lookup : Text → Option Text} :
    ∀ (f : Fragment) (m : Meaning) (waiting : Text), IsReadableAt lookup m f →
      Item.IsSound m (itemsAt waiting f).1
  | element name attributes closed content, m, waiting, h => by
      obtain ⟨hname, hattributes, -, hdistinct, -, hcontent⟩ := h
      refine isSound_append (isSound_flush waiting) ⟨⟨hname, fun a ha => ?_, hdistinct,
        isSound_append (isSound_itemsFrom content _ [] hcontent) (isSound_flush _)⟩, trivial⟩
      obtain ⟨b, hb, rfl⟩ := List.mem_map.1 ha
      exact hattributes b hb
  | chars raw data, _, _, _ => trivial
  | cdata data, _, waiting, h => isSound_append (isSound_flush waiting) ⟨h, trivial⟩
  | comment data, _, waiting, h => isSound_append (isSound_flush waiting) ⟨h, trivial⟩
  | instruction target data, _, waiting, h => isSound_append (isSound_flush waiting) ⟨h, trivial⟩

/-- The items that some fragments complete obey the rules. -/
theorem isSound_itemsFrom {lookup : Text → Option Text} :
    ∀ (fragments : List Fragment) (m : Meaning) (waiting : Text),
      IsReadable lookup m fragments → Item.IsSound m (itemsFrom waiting fragments).1
  | [], _, _, _ => trivial
  | f :: fragments, m, waiting, h =>
      isSound_append (isSound_itemsAt f m waiting h.1) (isSound_itemsFrom fragments m _ h.2)

end

/-- The items outside all elements obey the rules, and none is a document type. -/
theorem isSoundOutside_itemsOutside {lookup : Text → Option Text} {fragments : List Fragment}
    (h : IsReadable lookup (fun _ => none) fragments) (hout : ∀ f ∈ fragments, f.IsOutside)
    (subsets : Subsets) : ∀ item ∈ itemsOutside fragments,
      item.IsSoundOutside subsets ∧ item.isDoctype = false := by
  intro item hi
  obtain ⟨f, hf, hi⟩ := List.mem_flatMap.1 hi
  have hsound := Item.isSound_iff.1
    (isSound_itemsAt f _ [] (isReadable_iff.1 h f hf)) item hi
  have houtside := hout f hf
  cases f with
  | element name attributes closed content =>
      obtain rfl := List.mem_singleton.1 hi
      exact ⟨hsound, rfl⟩
  | chars raw data => simp [itemsAt] at hi
  | cdata data => exact houtside.elim
  | comment data =>
      obtain rfl := List.mem_singleton.1 hi
      exact ⟨hsound, rfl⟩
  | instruction target data =>
      obtain rfl := List.mem_singleton.1 hi
      exact ⟨hsound, rfl⟩

/-! ### Outlines -/

/-- The items outside all elements have the outlines of the fragments. -/
theorem outlinesFrom_itemsOutside (kept : ElementKey → Bool) {fragments : List Fragment}
    (h : ∀ f ∈ fragments, f.IsOutside) :
    Item.outlinesFrom kept false [] (itemsOutside fragments) =
      outlinesFrom kept false [] fragments := by
  induction fragments with
  | nil => rfl
  | cons f fragments ih =>
      have ih := ih fun g hg => h g (by simp [hg])
      have hf : ∃ outlines, outlinesAt kept false [] f = (outlines, []) ∧
          Item.outlinesFrom kept false [] (itemsAt [] f).1 = (outlines, []) := by
        have hitems := outlinesAt_items kept f false [] []
        have hf : f.IsOutside := h f (by simp)
        cases f with
        | chars raw data =>
            refine ⟨[], ?_, rfl⟩
            rw [outlinesAt, Outline.counted_of_isAllBlank hf.2]
            rfl
        | cdata data => exact hf.elim
        | element name attributes closed content =>
            exact ⟨_, rfl, by simpa [itemsAt, flush, outlinesAt] using hitems⟩
        | comment data => exact ⟨_, rfl, rfl⟩
        | instruction target data => exact ⟨_, rfl, rfl⟩
      obtain ⟨outlines, hfragment, hitem⟩ := hf
      rw [itemsOutside, List.flatMap_cons, ← itemsOutside, Item.outlinesFrom_append, hitem, ih,
        outlinesFrom, hfragment]

end Fragment

end XmlScribe
