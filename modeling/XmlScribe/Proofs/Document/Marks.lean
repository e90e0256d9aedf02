/-
**The markup of a document.**

What is left of a document when its character data and attributes are forgotten: its elements, with
what is in them, its comments and its processing instructions.  It is here that data which is taken
for markup would be seen.

Main definitions:

* `Mark` — an element, a comment or a processing instruction;
* `Item.marks`, `Fragment.marks` — the markup of items, and of fragments;
* `Document.marks` — the markup of a document.

Main results:

* `Item.marks_joined`, `Item.marks_redeclared` — neither joined texts nor declarations change it.
-/

import XmlScribe.Proofs.Document.Joined
import XmlScribe.Proofs.Forest.Redeclared

set_option autoImplicit false

namespace XmlScribe

/-- A piece of markup, where an element is told by something of its name. -/
inductive Mark (α : Type) where
  /-- An element. -/
  | element (name : α) (content : List (Mark α))
  /-- A comment. -/
  | comment
  /-- A processing instruction. -/
  | instruction (target : Text)

variable {α : Type} (tell : QName → α)

namespace Item

mutual

/-- The markup of an item, where `tell` is what is told of the names of elements. -/
def marksAt (tell : QName → α) : Item → List (Mark α)
  | element name _ content => [.element (tell name) (marks tell content)]
  | comment _ => [.comment]
  | instruction target _ => [.instruction target]
  | _ => []

/-- The markup of some items. -/
def marks (tell : QName → α) : List Item → List (Mark α)
  | [] => []
  | item :: items => marksAt tell item ++ marks tell items

end

theorem marks_append (items more : List Item) :
    marks tell (items ++ more) = marks tell items ++ marks tell more := by
  induction items with
  | nil => rfl
  | cons item items ih => rw [List.cons_append, marks, marks, ih, List.append_assoc]

/-- Character data is no markup. -/
theorem marks_flush (data : Text) : marks tell (Fragment.flush data) = [] := by
  rw [Fragment.flush]
  split <;> rfl

theorem marks_join (item : Item) (items : List Item) :
    marks tell (join item items) = item.marksAt tell ++ marks tell items := by
  rcases join_cases item items with he | ⟨data, next, rest, rfl, rfl, he⟩
  · rw [he, marks]
  · rw [he]
    rfl

mutual

theorem marksAt_joinedAt : ∀ item : Item, item.joinedAt.marksAt tell = item.marksAt tell
  | element _ _ content => by rw [joinedAt, marksAt, marksAt, marks_joined content]
  | text _ => rfl
  | cdata _ => rfl
  | comment _ => rfl
  | instruction _ _ => rfl
  | doctype _ => rfl

/-- Joining texts keeps the markup. -/
theorem marks_joined : ∀ items : List Item, marks tell (joined items) = marks tell items
  | [] => rfl
  | item :: items => by
      rw [joined, marks_join, marksAt_joinedAt item, marks_joined items, marks]

end

variable {R : List Attribute → List Attribute → Prop}

mutual

theorem marksAt_redeclaredAt :
    ∀ {item item' : Item}, RedeclaredAt R item item' → item'.marksAt tell = item.marksAt tell
  | element _ _ _, _, ⟨_, _, rfl, _, hcontent⟩ => by
      rw [marksAt, marksAt, marks_redeclared hcontent]
  | text _, _, rfl => rfl
  | cdata _, _, rfl => rfl
  | comment _, _, rfl => rfl
  | instruction _ _, _, rfl => rfl
  | doctype _, _, rfl => rfl

/-- Other attributes keep the markup. -/
theorem marks_redeclared :
    ∀ {items items' : List Item}, Redeclared R items items' → marks tell items' = marks tell items
  | [], _, rfl => rfl
  | _ :: _, _, ⟨_, _, rfl, hitem, hitems⟩ => by
      rw [marks, marks, marksAt_redeclaredAt hitem, marks_redeclared hitems]

end

end Item

/-- The markup of a document. -/
def Document.marks (tell : QName → α) (doc : Document) : List (Mark α) :=
  Item.marks tell doc.content

namespace Fragment

mutual

/-- The markup of a fragment. -/
def marksAt (tell : QName → α) : Fragment → List (Mark α)
  | element name _ _ content => [.element (tell name) (marks tell content)]
  | comment _ => [.comment]
  | instruction target _ => [.instruction target]
  | _ => []

/-- The markup of some fragments. -/
def marks (tell : QName → α) : List Fragment → List (Mark α)
  | [] => []
  | f :: fragments => marksAt tell f ++ marks tell fragments

end

theorem marks_append (fragments more : List Fragment) :
    marks tell (fragments ++ more) = marks tell fragments ++ marks tell more := by
  induction fragments with
  | nil => rfl
  | cons f fragments ih => rw [List.cons_append, marks, marks, ih, List.append_assoc]

end Fragment

end XmlScribe
