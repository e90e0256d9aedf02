/-
**What a document says.**

Two documents say the same if they differ only in how character data is divided into text and CDATA
sections, in the order of attributes and in white space that does not count.  The outline of a
document is what is left when these are forgotten: adjacent character data is one piece, attributes
are an unordered collection, and white space is dropped except in elements where it counts.

Main definitions:

* `Outline` — an element, character data, a comment or a processing instruction;
* `Item.outlines` — the outlines of some items;
* `Document.outlines` — the outlines of what a document contains;
* `Fragment.outlinesFrom` — the outlines of items, taken from the fragments that they are read from.

Main results:

* `Fragment.outlinesFrom_items` — it does not matter from which of the two they are taken.
-/

import Mathlib.Data.Multiset.Defs
import XmlScribe.Proofs.Markup.Fragment
import XmlScribe.Writer.Markup

set_option autoImplicit false

namespace XmlScribe

/-- What a part of a document says. -/
inductive Outline where
  /-- An element. -/
  | element (name : QName) (attributes : Multiset Attribute) (content : List Outline)
  /-- Character data between two other parts. -/
  | data (s : Text)
  /-- A comment. -/
  | comment (data : Text)
  /-- A processing instruction. -/
  | instruction (target : Text) (data : Option Text)

namespace Outline

/-- The characters that count: all of them, or those that are not white space. -/
def counted (exact : Bool) (data : Text) : Text :=
  if exact then data else data.filter (!Text.isBlank ·)

@[simp] theorem counted_append (exact : Bool) (s t : Text) :
    counted exact (s ++ t) = counted exact s ++ counted exact t := by
  cases exact with
  | true => rfl
  | false => exact List.filter_append ..

@[simp] theorem counted_nil (exact : Bool) : counted exact [] = [] := by
  cases exact <;> rfl

theorem counted_of_isAllBlank {s : Text} (h : Text.isAllBlank s = true) :
    counted false s = [] := by
  rw [Text.isAllBlank, List.all_eq_true] at h
  exact List.filter_eq_nil_iff.2 fun c hc => by simp [h c hc]

/-- Character data that is waiting, as an outline. -/
def flush (data : Text) : List Outline :=
  if data.isEmpty then [] else [.data data]

end Outline

open Outline (counted)

namespace Item

/-! ### Outlines of items -/

mutual

/-- The outlines that are complete after an item, where `waiting` is the character data before it,
and the character data that waits after it.  White space counts if `exact` is set and in elements
that `kept` holds of. -/
def outlinesAt (kept : ElementKey → Bool) (exact : Bool) (waiting : Text) :
    Item → List Outline × Text
  | element name attributes content =>
      let (inner, last) := outlinesFrom kept (exact || kept (Writer.keyOf name)) [] content
      (Outline.flush waiting ++ [.element name attributes (inner ++ Outline.flush last)], [])
  | text data => ([], waiting ++ counted exact data)
  | cdata data => ([], waiting ++ counted exact data)
  | comment data => (Outline.flush waiting ++ [.comment data], [])
  | instruction target data => (Outline.flush waiting ++ [.instruction target data], [])
  | doctype _ => ([], waiting)

/-- The outlines that are complete after some items, and the character data that waits. -/
def outlinesFrom (kept : ElementKey → Bool) (exact : Bool) (waiting : Text) :
    List Item → List Outline × Text
  | [] => ([], waiting)
  | item :: items =>
      let (outlines, waiting) := outlinesAt kept exact waiting item
      let (more, waiting) := outlinesFrom kept exact waiting items
      (outlines ++ more, waiting)

end

/-- The outlines of some items. -/
def outlines (kept : ElementKey → Bool) (exact : Bool) (items : List Item) : List Outline :=
  (outlinesFrom kept exact [] items).1 ++ Outline.flush (outlinesFrom kept exact [] items).2

theorem outlinesFrom_append (kept : ElementKey → Bool) (exact : Bool) (waiting : Text)
    (items more : List Item) :
    outlinesFrom kept exact waiting (items ++ more) =
      ((outlinesFrom kept exact waiting items).1 ++
        (outlinesFrom kept exact (outlinesFrom kept exact waiting items).2 more).1,
        (outlinesFrom kept exact (outlinesFrom kept exact waiting items).2 more).2) := by
  induction items generalizing waiting with
  | nil => rfl
  | cons item items ih => simp [outlinesFrom, ih]

theorem outlinesFrom_flush (kept : ElementKey → Bool) (exact : Bool) (waiting data : Text) :
    outlinesFrom kept exact waiting (Fragment.flush data) =
      ([], waiting ++ counted exact data) := by
  cases data with
  | nil => rw [Outline.counted_nil, List.append_nil]; rfl
  | cons c data => rfl

end Item

/-- The outlines of what a document contains, besides its document type. -/
def Document.outlines (kept : ElementKey → Bool) (doc : Document) : List Outline :=
  Item.outlines kept false doc.content

namespace Fragment

/-! ### Outlines of fragments -/

mutual

/-- The outlines that are complete after a fragment, and the character data that waits. -/
def outlinesAt (kept : ElementKey → Bool) (exact : Bool) (waiting : Text) :
    Fragment → List Outline × Text
  | element name attributes _ content =>
      let (inner, last) := outlinesFrom kept (exact || kept (Writer.keyOf name)) [] content
      (Outline.flush waiting ++
        [.element name (attributes.map Prod.fst) (inner ++ Outline.flush last)], [])
  | chars _ data => ([], waiting ++ counted exact data)
  | cdata data => ([], waiting ++ counted exact data)
  | comment data => (Outline.flush waiting ++ [.comment data], [])
  | instruction target data => (Outline.flush waiting ++ [.instruction target data], [])

/-- The outlines that are complete after some fragments, and the character data that waits. -/
def outlinesFrom (kept : ElementKey → Bool) (exact : Bool) (waiting : Text) :
    List Fragment → List Outline × Text
  | [] => ([], waiting)
  | f :: fragments =>
      let (outlines, waiting) := outlinesAt kept exact waiting f
      let (more, waiting) := outlinesFrom kept exact waiting fragments
      (outlines ++ more, waiting)

end

theorem outlinesFrom_append (kept : ElementKey → Bool) (exact : Bool) (waiting : Text)
    (fragments more : List Fragment) :
    outlinesFrom kept exact waiting (fragments ++ more) =
      ((outlinesFrom kept exact waiting fragments).1 ++
        (outlinesFrom kept exact (outlinesFrom kept exact waiting fragments).2 more).1,
        (outlinesFrom kept exact (outlinesFrom kept exact waiting fragments).2 more).2) := by
  induction fragments generalizing waiting with
  | nil => rfl
  | cons f fragments ih => simp [outlinesFrom, ih]

theorem outlinesFrom_flush_append (kept : ElementKey → Bool) (exact : Bool) (waiting pending : Text)
    (item : Item) :
    Item.outlinesFrom kept exact waiting (flush pending ++ [item]) =
      Item.outlinesAt kept exact (waiting ++ counted exact pending) item := by
  rw [Item.outlinesFrom_append, Item.outlinesFrom_flush]
  simp [Item.outlinesFrom]

mutual

/-- The outlines of a fragment are those of the items that are read from it, where `pending` is
character data that has been read but is no item yet. -/
theorem outlinesAt_items (kept : ElementKey → Bool) :
    ∀ (f : Fragment) (exact : Bool) (waiting pending : Text),
      Item.outlinesFrom kept exact waiting
        ((itemsAt pending f).1 ++ flush (itemsAt pending f).2) =
      outlinesAt kept exact (waiting ++ counted exact pending) f
  | element name attributes closed content, exact, waiting, pending => by
      have hc := outlinesFrom_items kept content (exact || kept (Writer.keyOf name)) [] []
      rw [Outline.counted_nil, List.append_nil] at hc
      show Item.outlinesFrom kept exact waiting (flush pending ++
        [.element name (attributes.map Prod.fst)
          ((itemsFrom [] content).1 ++ flush (itemsFrom [] content).2)] ++ []) = _
      rw [List.append_nil, outlinesFrom_flush_append, Item.outlinesAt, hc, outlinesAt]
  | chars raw data, exact, waiting, pending => by
      show Item.outlinesFrom kept exact waiting (flush (pending ++ data)) = _
      rw [Item.outlinesFrom_flush, Outline.counted_append, outlinesAt, List.append_assoc]
  | cdata data, exact, waiting, pending => by
      show Item.outlinesFrom kept exact waiting (flush pending ++ [.cdata data] ++ []) = _
      rw [List.append_nil, outlinesFrom_flush_append]
      rfl
  | comment data, exact, waiting, pending => by
      show Item.outlinesFrom kept exact waiting (flush pending ++ [.comment data] ++ []) = _
      rw [List.append_nil, outlinesFrom_flush_append]
      rfl
  | instruction target data, exact, waiting, pending => by
      show Item.outlinesFrom kept exact waiting
        (flush pending ++ [.instruction target data] ++ []) = _
      rw [List.append_nil, outlinesFrom_flush_append]
      rfl

/-- The outlines of some fragments are those of the items that are read from them. -/
theorem outlinesFrom_items (kept : ElementKey → Bool) :
    ∀ (fragments : List Fragment) (exact : Bool) (waiting pending : Text),
      Item.outlinesFrom kept exact waiting
        ((itemsFrom pending fragments).1 ++ flush (itemsFrom pending fragments).2) =
      outlinesFrom kept exact (waiting ++ counted exact pending) fragments
  | [], exact, waiting, pending => Item.outlinesFrom_flush kept exact waiting pending
  | f :: fragments, exact, waiting, pending => by
      have hf := outlinesAt_items kept f exact waiting pending
      have hrest := outlinesFrom_items kept fragments exact
      rw [Item.outlinesFrom_append, Item.outlinesFrom_flush] at hf
      rw [itemsFrom, List.append_assoc, Item.outlinesFrom_append, hrest, outlinesFrom, ← hf]
      simp

end

end Fragment

end XmlScribe
