/-
**What is written outside all elements.**

The fragments of a document after its prolog are read as they are meant; the items that are read
from them have the outlines of the document, and are of the same kinds.

Main results:

* `Writer.isReadable_bodyFragments` — the fragments are read as they are meant;
* `Writer.outlinesFrom_bodyFragments` — they have the outlines of the items;
* `Writer.countP_bodyFragments` — there are as many elements among the items that are read.
-/

import XmlScribe.Proofs.Document.Joined
import XmlScribe.Proofs.Markup.Outside
import XmlScribe.Proofs.Writer.Faithful

set_option autoImplicit false

namespace XmlScribe

open Builder Fragment

namespace Item

theorem IsSoundOutside.ne_text {subsets : Subsets} {item : Item} (h : item.IsSoundOutside subsets)
    (data : Text) : item ≠ text data := by
  rintro rfl
  exact h

/-- Joining keeps the rules for items outside all elements. -/
theorem isSoundOutside_joined {subsets : Subsets} {items : List Item}
    (h : ∀ item ∈ items, item.IsSoundOutside subsets) :
    ∀ item ∈ joined items, item.IsSoundOutside subsets := by
  induction items with
  | nil => simp [joined]
  | cons item items ih =>
      have hitem := h item (by simp)
      have hrest := ih fun other ho => h other (by simp [ho])
      rw [joined_cons_of_ne_text hitem.ne_text]
      intro other ho
      rcases List.mem_cons.1 ho with rfl | ho
      · cases item with
        | element name attributes content => exact isSoundAt_joinedAt _ hitem
        | _ => exact hitem
      · exact hrest other ho

/-- Joining keeps the number of elements. -/
theorem countP_joined (items : List Item) :
    (joined items).countP isElement = items.countP isElement := by
  induction items with
  | nil => rfl
  | cons item items ih =>
      have hitem : item.joinedAt.isElement = item.isElement := by cases item <;> rfl
      rw [joined, List.countP_cons, ← ih, ← hitem]
      rcases join_cases item.joinedAt (joined items) with he | ⟨data, next, rest, ht, hr, he⟩
      · rw [he, List.countP_cons]
      · rw [he, ht, hr]
        simp [isElement]

end Item

namespace Writer

variable {W : Writer} {escaper : Escaper} {lookup : Text → Option Text} {subsets : Subsets}

/-! ### Reading -/

theorem isOutside_lineEnd (hsep : W.settings.separator = ['\n']) : W.lineEnd.IsOutside := by
  rw [lineEnd, hsep]
  exact ⟨rfl, rfl⟩

/-- The fragments of an item outside all elements are read as they are meant. -/
theorem isReadable_outsideAt (ht : escaper.table.IsReadable lookup)
    (hsep : W.settings.separator = ['\n']) (hb : W.settings.formatted = true → W.IsBlankLayout)
    {item : Item} (hs : item.IsSoundOutside subsets) (hn : item.EverywhereAt Item.HasNoNull)
    (afterRoot : Bool) :
    ∀ f ∈ W.outsideAt escaper afterRoot item,
      IsReadableAt lookup (fun _ => none) f ∧ f.IsOutside := by
  have hline : IsReadableAt lookup (fun _ => none) W.lineEnd := isReadableAt_lineEnd hsep
  have hleaf : ∀ f, IsReadableAt lookup (fun _ => none) f → f.IsOutside →
      ∀ g ∈ (if afterRoot then [W.lineEnd, f] else [f, W.lineEnd]),
        IsReadableAt lookup (fun _ => none) g ∧ g.IsOutside := by
    intro f hf ho g hg
    have hg : g = f ∨ g = W.lineEnd := by
      split at hg <;> simp only [List.mem_cons, List.not_mem_nil, or_false] at hg
      · exact hg.symm
      · exact hg
    rcases hg with rfl | rfl
    · exact ⟨hf, ho⟩
    · exact ⟨hline, isOutside_lineEnd hsep⟩
  cases item with
  | element name attributes content =>
      have hreadable := isReadable_fragmentsAt ht hsep (.element name attributes content) 0
        W.settings.formatted (fun _ => none) hb hs hn
      intro f hf
      refine ⟨isReadable_iff.1 hreadable f hf, ?_⟩
      rw [outsideAt, fragmentsAt_element] at hf
      rw [List.mem_singleton.1 hf]
      trivial
  | comment data => exact hleaf (.comment data) hs trivial
  | instruction target data => exact hleaf (.instruction target data) hs trivial
  | doctype d => simp [outsideAt]
  | text data => exact hs.elim
  | cdata data => exact hs.elim

/-- The fragments of a document after its prolog are read as they are meant. -/
theorem isReadable_bodyFragments (ht : escaper.table.IsReadable lookup)
    (hsep : W.settings.separator = ['\n']) (hb : W.settings.formatted = true → W.IsBlankLayout)
    {items : List Item} (hs : ∀ item ∈ items, item.IsSoundOutside subsets)
    (hn : Item.Everywhere Item.HasNoNull items) :
    IsReadable lookup (fun _ => none) (W.bodyFragments escaper items) ∧
      ∀ f ∈ W.bodyFragments escaper items, f.IsOutside := by
  have houtside : ∀ afterRoot, ∀ f ∈ W.outside escaper afterRoot items,
      IsReadableAt lookup (fun _ => none) f ∧ f.IsOutside := by
    induction items with
    | nil => simp [outside]
    | cons item items ih =>
        intro afterRoot f hf
        rcases List.mem_append.1 hf with hf | hf
        · exact isReadable_outsideAt ht hsep hb (hs item (by simp)) hn.1 afterRoot f hf
        · exact ih (fun other ho => hs other (by simp [ho])) hn.2 _ f hf
  have hall : ∀ f ∈ W.bodyFragments escaper items,
      IsReadableAt lookup (fun _ => none) f ∧ f.IsOutside := by
    intro f hf
    rcases List.mem_append.1 hf with hf | hf
    · exact houtside false f hf
    · split at hf
      · rw [List.mem_singleton.1 hf]
        exact ⟨isReadableAt_lineEnd hsep, isOutside_lineEnd hsep⟩
      · simp at hf
  exact ⟨isReadable_iff.2 fun f hf => (hall f hf).1, fun f hf => (hall f hf).2⟩

/-- The first fragment after the prolog is markup. -/
theorem head?_bodyFragments {items : List Item} (raw data : Text) :
    (W.bodyFragments escaper items).head? ≠ some (.chars raw data) := by
  have houtside : ∀ items : List Item, (W.outside escaper false items).head? ≠
      some (.chars raw data) ∧ (items.any Item.isElement = true →
        W.outside escaper false items ≠ []) := by
    intro items
    induction items with
    | nil => simp [outside]
    | cons item items ih =>
        cases item with
        | element name attributes content => simp [outside, outsideAt, fragmentsAt_element]
        | comment data => simp [outside, outsideAt]
        | instruction target data => simp [outside, outsideAt]
        | _ => simpa [outside, outsideAt, Item.isElement] using ih
  obtain ⟨hhead, hne⟩ := houtside items
  rw [bodyFragments]
  cases ho : W.outside escaper false items with
  | nil =>
      have hany : items.any Item.isElement = false := Bool.eq_false_iff.2 fun ha => hne ha ho
      simp [hany]
  | cons f fragments =>
      rw [ho] at hhead
      exact hhead

/-! ### Items that are read -/

theorem itemsOutside_append (fragments more : List Fragment) :
    itemsOutside (fragments ++ more) = itemsOutside fragments ++ itemsOutside more :=
  List.flatMap_append

/-- Something beside the document element is read as one item, wherever its line ends. -/
theorem itemsOutside_beside {f : Fragment} {item : Item} (h : (itemsAt [] f).1 = [item])
    (afterRoot : Bool) :
    itemsOutside (if afterRoot then [W.lineEnd, f] else [f, W.lineEnd]) = [item] := by
  cases afterRoot <;> simp [itemsOutside, h, lineEnd, blanks, itemsAt]

theorem itemsOutside_comment (afterRoot : Bool) (data : Text) :
    itemsOutside (W.outsideAt escaper afterRoot (.comment data)) = [.comment data] :=
  itemsOutside_beside rfl afterRoot

theorem itemsOutside_instruction (afterRoot : Bool) (target : Text) (data : Option Text) :
    itemsOutside (W.outsideAt escaper afterRoot (.instruction target data)) =
      [.instruction target data] :=
  itemsOutside_beside rfl afterRoot

theorem countP_outsideAt (afterRoot : Bool) (item : Item) :
    (itemsOutside (W.outsideAt escaper afterRoot item)).countP Item.isElement =
      if item.isElement then 1 else 0 := by
  cases item with
  | element name attributes content =>
      rw [outsideAt, fragmentsAt_element]
      rfl
  | comment data =>
      rw [itemsOutside_comment]
      rfl
  | instruction target data =>
      rw [itemsOutside_instruction]
      rfl
  | _ => rfl

/-- As many elements are read as are written. -/
theorem countP_bodyFragments (items : List Item) :
    (itemsOutside (W.bodyFragments escaper items)).countP Item.isElement =
      items.countP Item.isElement := by
  have houtside : ∀ afterRoot,
      (itemsOutside (W.outside escaper afterRoot items)).countP Item.isElement =
        items.countP Item.isElement := by
    induction items with
    | nil => exact fun _ => rfl
    | cons item items ih =>
        intro afterRoot
        rw [outside, itemsOutside_append, List.countP_append, countP_outsideAt, ih,
          List.countP_cons, Nat.add_comm]
  rw [bodyFragments, itemsOutside_append, List.countP_append, houtside]
  split <;> rfl

/-- What is written outside all elements has the outlines of the items; if the document is laid out
on lines, up to white space that does not count. -/
theorem outlinesFrom_bodyFragments {kept : ElementKey → Bool}
    (hsep : W.settings.separator = ['\n'])
    (hf : W.settings.formatted = true → W.IsBlankLayout ∧ kept = W.profile.isPreserved)
    {items : List Item} (hs : ∀ item ∈ items, item.IsSoundOutside subsets)
    (hn : Item.Everywhere Item.HasNoReturn items) :
    Fragment.outlinesFrom kept false [] (W.bodyFragments escaper items) =
      Item.outlinesFrom kept false [] items := by
  have hbeside : ∀ (afterRoot : Bool) (waiting : Text) (f : Fragment),
      Fragment.outlinesFrom kept false waiting
          (if afterRoot then [W.lineEnd, f] else [f, W.lineEnd]) =
        Fragment.outlinesFrom kept false waiting [f] := by
    intro afterRoot waiting f
    cases afterRoot with
    | true => exact outlinesFrom_blanks (isAllBlank_separator hsep) waiting [f]
    | false => exact outlinesFrom_append_lineEnd hsep waiting [f]
  have houtside : ∀ (afterRoot : Bool) (waiting : Text),
      Fragment.outlinesFrom kept false waiting (W.outside escaper afterRoot items) =
        Item.outlinesFrom kept false waiting items := by
    induction items with
    | nil => exact fun _ _ => rfl
    | cons item items ih =>
        intro afterRoot waiting
        have hitem : Fragment.outlinesFrom kept false waiting
            (W.outsideAt escaper afterRoot item) = Item.outlinesAt kept false waiting item := by
          have hsound := hs item (by simp)
          cases item with
          | element name attributes content =>
              exact outlinesFrom_fragmentsAt hsep _ 0 _ false waiting
                (fun hformat => ⟨(hf hformat).1, (hf hformat).2, rfl⟩) hn.1
          | comment data =>
              rw [outsideAt, hbeside]
              simp [Fragment.outlinesFrom, Fragment.outlinesAt, Item.outlinesAt]
          | instruction target data =>
              rw [outsideAt, hbeside]
              simp [Fragment.outlinesFrom, Fragment.outlinesAt, Item.outlinesAt]
          | doctype d => rfl
          | text data => exact hsound.elim
          | cdata data => exact hsound.elim
        rw [outside, Fragment.outlinesFrom_append, hitem,
          ih (fun other ho => hs other (by simp [ho])) hn.2]
        rfl
  rw [bodyFragments]
  split
  · rw [outlinesFrom_append_lineEnd hsep, houtside]
  · rw [List.append_nil, houtside]

end Writer

end XmlScribe
