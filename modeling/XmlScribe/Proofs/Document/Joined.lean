/-
**Adjacent texts as one.**

An XML declaration inside an element leaves nothing behind, so the texts before and after it stand
side by side.  They are written as one text.

In content whose adjacent texts are joined there is at most one text between two other items.  So
such content consists of items that are no texts, with a gap before each of them and one at the end,
and what is in a gap is a text or nothing.  Content that has been read is of this kind: character
data waits until something else comes.

Main definitions:

* `Item.joined` — the items with adjacent texts joined;
* `Item.Gapped` — items with gaps between them.

Main results:

* `Item.isSound_joined`, `Item.everywhere_joined` — joining keeps the rules and other properties;
* `Item.outlinesFrom_joined` — and the outlines;
* `Item.gapped_joined` — joined content is of this kind;
* `Fragment.joined_items` — what is read has no adjacent texts.
-/

import XmlScribe.Proofs.Document.Outline
import XmlScribe.Proofs.Document.Sound

set_option autoImplicit false

namespace XmlScribe

open Builder

namespace Item

/-- The items with one more before them, where a text is joined with one that comes first. -/
def join : Item → List Item → List Item
  | text data, text next :: items => text (data ++ next) :: items
  | item, items => item :: items

mutual

/-- The item with adjacent texts in it joined. -/
def joinedAt : Item → Item
  | element name attributes content => element name attributes (joined content)
  | text data => text data
  | cdata data => cdata data
  | comment data => comment data
  | instruction target data => instruction target data
  | doctype d => doctype d

/-- The items with adjacent texts joined. -/
def joined : List Item → List Item
  | [] => []
  | item :: items => join (joinedAt item) (joined items)

end

theorem join_cases (item : Item) (items : List Item) :
    join item items = item :: items ∨ ∃ data next rest, item = text data ∧
      items = text next :: rest ∧ join item items = text (data ++ next) :: rest := by
  rw [join.eq_def]
  split
  · exact Or.inr ⟨_, _, _, rfl, rfl, rfl⟩
  · exact Or.inl rfl

theorem joined_cons_of_ne_text {item : Item} (h : ∀ data, item ≠ text data) (items : List Item) :
    joined (item :: items) = item.joinedAt :: joined items := by
  cases item with
  | text data => exact absurd rfl (h data)
  | _ => simp [joined, joinedAt, join]

theorem join_ne_nil (item : Item) (items : List Item) : join item items ≠ [] := by
  rcases join_cases item items with h | ⟨data, next, rest, -, -, h⟩ <;> simp [h]

theorem joined_eq_nil_iff {items : List Item} : joined items = [] ↔ items = [] := by
  cases items with
  | nil => simp [joined]
  | cons item items => simp [joined, join_ne_nil]

/-! ### Properties -/

theorem everywhere_join {P : Item → Prop}
    (htext : ∀ s t, P (text (s ++ t)) ↔ P (text s) ∧ P (text t)) {item : Item}
    {items : List Item} : Everywhere P (join item items) ↔ Everywhere P (item :: items) := by
  rcases join_cases item items with he | ⟨data, next, rest, rfl, rfl, he⟩
  · rw [he]
  · rw [he]
    simp only [Everywhere, EverywhereAt, htext, and_assoc]

mutual

theorem everywhereAt_joinedAt {P : Item → Prop}
    (htext : ∀ s t, P (text (s ++ t)) ↔ P (text s) ∧ P (text t))
    (helement : ∀ name attributes content, P (element name attributes (joined content)) ↔
      P (element name attributes content)) :
    ∀ item : Item, EverywhereAt P (joinedAt item) ↔ EverywhereAt P item
  | element _ _ content =>
      and_congr (helement _ _ content) (everywhere_joined htext helement content)
  | text _ => Iff.rfl
  | cdata _ => Iff.rfl
  | comment _ => Iff.rfl
  | instruction _ _ => Iff.rfl
  | doctype _ => Iff.rfl

/-- Joining keeps properties that do not depend on where texts end. -/
theorem everywhere_joined {P : Item → Prop}
    (htext : ∀ s t, P (text (s ++ t)) ↔ P (text s) ∧ P (text t))
    (helement : ∀ name attributes content, P (element name attributes (joined content)) ↔
      P (element name attributes content)) :
    ∀ items : List Item, Everywhere P (joined items) ↔ Everywhere P items
  | [] => Iff.rfl
  | item :: items => (everywhere_join htext).trans (and_congr
      (everywhereAt_joinedAt htext helement item) (everywhere_joined htext helement items))

end

theorem hasNoNull_joined (items : List Item) :
    Everywhere HasNoNull (joined items) ↔ Everywhere HasNoNull items :=
  everywhere_joined (by simp [HasNoNull]) (fun _ _ _ => Iff.rfl) items

theorem hasNoReturn_joinedAt {item : Item} :
    item.joinedAt.EverywhereAt HasNoReturn ↔ item.EverywhereAt HasNoReturn :=
  everywhereAt_joinedAt (by simp [HasNoReturn]) (fun _ _ _ => Iff.rfl) item

theorem hasNoReturn_joined (items : List Item) :
    Everywhere HasNoReturn (joined items) ↔ Everywhere HasNoReturn items :=
  everywhere_joined (by simp [HasNoReturn]) (fun _ _ _ => Iff.rfl) items

mutual

theorem isSoundAt_joinedAt {m : Meaning} :
    ∀ item : Item, item.IsSoundAt m → item.joinedAt.IsSoundAt m
  | element _ _ content, h => ⟨h.1, h.2.1, h.2.2.1, isSound_joined content h.2.2.2⟩
  | text _, h => h
  | cdata _, h => h
  | comment _, h => h
  | instruction _ _, h => h
  | doctype _, h => h

/-- Joining keeps the rules. -/
theorem isSound_joined {m : Meaning} :
    ∀ items : List Item, IsSound m items → IsSound m (joined items)
  | [], h => h
  | item :: items, h => by
      have hitem := isSoundAt_joinedAt item h.1
      have hitems := isSound_joined items h.2
      rw [joined]
      rcases join_cases item.joinedAt (joined items) with he | ⟨data, next, rest, hd, hr, he⟩
      · rw [he]
        exact ⟨hitem, hitems⟩
      · rw [hd] at hitem
        rw [hr] at hitems
        rw [he]
        exact ⟨by simpa [IsSoundAt] using fun h _ => hitem h, hitems.2⟩

end

/-! ### Outlines -/

theorem outlinesFrom_join (kept : ElementKey → Bool) (exact : Bool) (waiting : Text) (item : Item)
    (items : List Item) : outlinesFrom kept exact waiting (join item items) =
      outlinesFrom kept exact waiting (item :: items) := by
  rcases join_cases item items with he | ⟨data, next, rest, rfl, rfl, he⟩
  · rw [he]
  · rw [he]
    simp [outlinesFrom, outlinesAt]

mutual

theorem outlinesAt_joinedAt (kept : ElementKey → Bool) :
    ∀ (item : Item) (exact : Bool) (waiting : Text),
      outlinesAt kept exact waiting item.joinedAt = outlinesAt kept exact waiting item
  | element name attributes content, exact, waiting => by
      rw [joinedAt, outlinesAt, outlinesFrom_joined kept content]
      rfl
  | text _, _, _ => rfl
  | cdata _, _, _ => rfl
  | comment _, _, _ => rfl
  | instruction _ _, _, _ => rfl
  | doctype _, _, _ => rfl

/-- Joining keeps the outlines. -/
theorem outlinesFrom_joined (kept : ElementKey → Bool) :
    ∀ (items : List Item) (exact : Bool) (waiting : Text),
      outlinesFrom kept exact waiting (joined items) = outlinesFrom kept exact waiting items
  | [], _, _ => rfl
  | item :: items, exact, waiting => by
      rw [joined, outlinesFrom_join, outlinesFrom, outlinesAt_joinedAt kept item,
        outlinesFrom]
      simp only [outlinesFrom_joined kept items]

end

end Item

open Fragment (flush)

namespace Item

/-- Items that are no texts, with gaps before them and at the end. -/
inductive Gapped : List Item → Prop
  /-- The last gap. -/
  | last (gap : Text) : Gapped (flush gap)
  /-- A gap, and an item after it. -/
  | cons (gap : Text) {item : Item} {items : List Item} (hitem : ∀ data, item ≠ .text data) :
      Gapped items → Gapped (flush gap ++ item :: items)

/-! ### Joining in gaps -/

/-- A text is joined with what is in the gap after it. -/
theorem join_text_flush {data : Text} (hd : data ≠ []) (gap : Text) {items : List Item}
    (h : ∀ next, items.head? ≠ some (.text next)) :
    join (.text data) (flush gap ++ items) = flush (data ++ gap) ++ items := by
  have hflush : flush data = [.text data] := if_neg (by simpa using hd)
  cases gap with
  | nil =>
      rw [List.append_nil, hflush]
      cases items with
      | nil => rfl
      | cons item items =>
          rcases join_cases (.text data) (item :: items) with he | ⟨_, next, _, -, he, -⟩
          · exact he
          · cases he
            exact absurd rfl (h next)
  | cons c gap => simp [flush, join]

theorem joined_flush (gap : Text) : joined (flush gap) = flush gap := by
  cases gap <;> rfl

/-- A gap is left alone before an item that is no text. -/
theorem joined_flush_cons (gap : Text) {item : Item} (h : ∀ data, item ≠ .text data)
    (items : List Item) :
    joined (flush gap ++ item :: items) = flush gap ++ item.joinedAt :: joined items := by
  have hjoined : ∀ data, item.joinedAt ≠ .text data := by
    cases item with
    | text data => exact absurd rfl (h data)
    | _ => simp [joinedAt]
  cases gap with
  | nil => exact joined_cons_of_ne_text h items
  | cons c gap =>
      have hjoin := join_text_flush (List.cons_ne_nil c gap) []
        (show ∀ next, (item.joinedAt :: joined items).head? ≠ some (.text next) by
          simpa using hjoined)
      rw [List.append_nil] at hjoin
      change join (.text (c :: gap)) (joined (item :: items)) = _
      rw [joined_cons_of_ne_text h]
      exact hjoin

theorem Gapped.join_text {data : Text} (hd : data ≠ []) {items : List Item} (h : Gapped items) :
    Gapped (join (.text data) items) := by
  cases h with
  | last gap =>
      have hjoin := @join_text_flush data hd gap [] (by simp)
      rw [List.append_nil, List.append_nil] at hjoin
      rw [hjoin]
      exact .last (data ++ gap)
  | cons gap hitem hitems =>
      rw [join_text_flush hd gap (by simpa using hitem)]
      exact .cons (data ++ gap) hitem hitems

theorem Gapped.cons_of_ne_text {item : Item} (hitem : ∀ data, item ≠ .text data)
    {items : List Item} (h : Gapped items) : Gapped (item :: items) :=
  .cons [] hitem h

/-- Content without empty texts has gaps between its items once adjacent texts are joined. -/
theorem gapped_joined {m : Builder.Meaning} {items : List Item} (h : IsSound m items) :
    Gapped (joined items) := by
  induction items with
  | nil => exact .last []
  | cons item items ih =>
      have hitems := ih h.2
      cases item with
      | text data => exact hitems.join_text h.1
      | _ =>
          rw [joined_cons_of_ne_text (by simp)]
          exact hitems.cons_of_ne_text (by simp [joinedAt])

end Item

/-! ### Reading -/

namespace Fragment

open Item (joined)

mutual

/-- What is read of a fragment has no adjacent texts. -/
theorem joined_itemsAt_append :
    ∀ (f : Fragment) (waiting : Text) (items : List Item),
      joined ((itemsAt waiting f).1 ++ items) = (itemsAt waiting f).1 ++ joined items
  | .element name attributes closed content, waiting, items => by
      have hcontent : joined ((itemsFrom [] content).1 ++ flush (itemsFrom [] content).2) =
          (itemsFrom [] content).1 ++ flush (itemsFrom [] content).2 := by
        rw [joined_itemsFrom_append, Item.joined_flush]
      simp only [itemsAt, List.append_assoc, List.singleton_append]
      rw [Item.joined_flush_cons _ (by simp), Item.joinedAt, hcontent]
  | .chars _ _, _, _ => rfl
  | .cdata _, waiting, items => by
      simp only [itemsAt, List.append_assoc, List.singleton_append]
      exact Item.joined_flush_cons waiting (by simp) items
  | .comment _, waiting, items => by
      simp only [itemsAt, List.append_assoc, List.singleton_append]
      exact Item.joined_flush_cons waiting (by simp) items
  | .instruction _ _, waiting, items => by
      simp only [itemsAt, List.append_assoc, List.singleton_append]
      exact Item.joined_flush_cons waiting (by simp) items

/-- What is read of some fragments has no adjacent texts. -/
theorem joined_itemsFrom_append :
    ∀ (fragments : List Fragment) (waiting : Text) (items : List Item),
      joined ((itemsFrom waiting fragments).1 ++ items) =
        (itemsFrom waiting fragments).1 ++ joined items
  | [], _, _ => rfl
  | f :: fragments, waiting, items => by
      simp only [itemsFrom, List.append_assoc]
      rw [joined_itemsAt_append f, joined_itemsFrom_append fragments]

end

/-- What is read of content has no adjacent texts. -/
theorem joined_items (fragments : List Fragment) : joined (items fragments) = items fragments := by
  rw [items, joined_itemsFrom_append, Item.joined_flush]

end Fragment

end XmlScribe
