/-
**Items in a forest with more declarations.**

When declarations are added to a forest, every item that is planted in it becomes another one: the
attributes of elements are different, and nothing else is.

Main definitions:

* `Item.RedeclaredAt` — an item that differs from another one in attributes only.

Main results:

* `Item.EverywhereAt.redeclaredAt` — what does not depend on the attributes stays true;
* `Forest.exists_holds_of_same` — the items of a forest, found in one with more declarations.
-/

import XmlScribe.Proofs.Document.Sound
import XmlScribe.Proofs.Forest.Planted
import XmlScribe.Proofs.Namespace.Declare

set_option autoImplicit false

namespace XmlScribe

namespace Item

variable {R : List Attribute → List Attribute → Prop}

mutual

/-- The second item is the first one but for the attributes of elements, which `R` relates. -/
def RedeclaredAt (R : List Attribute → List Attribute → Prop) : Item → Item → Prop
  | element name attributes content, again => ∃ attributes' content',
      again = element name attributes' content' ∧ R attributes attributes' ∧
        Redeclared R content content'
  | text data, again => again = text data
  | cdata data, again => again = cdata data
  | comment data, again => again = comment data
  | instruction target data, again => again = instruction target data
  | doctype d, again => again = doctype d

/-- The second items are the first ones but for the attributes of elements. -/
def Redeclared (R : List Attribute → List Attribute → Prop) : List Item → List Item → Prop
  | [], again => again = []
  | item :: items, again => ∃ item' items', again = item' :: items' ∧ RedeclaredAt R item item' ∧
      Redeclared R items items'

end

theorem typeOf_redeclaredAt {item item' : Item} (h : RedeclaredAt R item item') :
    Builder.typeOf item' = Builder.typeOf item := by
  cases item with
  | element name attributes content =>
      obtain ⟨attributes', content', rfl, -⟩ := h
      rfl
  | _ => exact congrArg _ h

theorem Redeclared.exists_of_mem {items items' : List Item} (h : Redeclared R items items')
    {item' : Item} (hm : item' ∈ items') : ∃ item ∈ items, RedeclaredAt R item item' := by
  induction items generalizing items' with
  | nil =>
      rw [show items' = [] from h] at hm
      exact absurd hm List.not_mem_nil
  | cons item items ih =>
      obtain ⟨first, rest, rfl, hfirst, hrest⟩ := h
      rcases List.mem_cons.1 hm with rfl | hm
      · exact ⟨item, by simp, hfirst⟩
      · obtain ⟨other, ho, hr⟩ := ih hrest hm
        exact ⟨other, by simp [ho], hr⟩

mutual

theorem countAt_redeclaredAt :
    ∀ {item item' : Item}, RedeclaredAt R item item' → item'.countAt = item.countAt
  | element _ _ _, _, ⟨_, _, rfl, _, hcontent⟩ => by
      rw [countAt, countAt, count_redeclared hcontent]
  | text _, _, rfl => rfl
  | cdata _, _, rfl => rfl
  | comment _, _, rfl => rfl
  | instruction _ _, _, rfl => rfl
  | doctype _, _, rfl => rfl

/-- There are as many nodes. -/
theorem count_redeclared :
    ∀ {items items' : List Item}, Redeclared R items items' → count items' = count items
  | [], _, rfl => rfl
  | _ :: _, _, ⟨_, _, rfl, hitem, hitems⟩ => by
      rw [count, count, countAt_redeclaredAt hitem, count_redeclared hitems]

end

mutual

theorem EverywhereAt.redeclaredAt {Q : Item → Prop}
    (hQ : ∀ {name attributes attributes' content content'}, R attributes attributes' →
      Q (element name attributes content) → Q (element name attributes' content')) :
    ∀ {item item' : Item}, RedeclaredAt R item item' → item.EverywhereAt Q → item'.EverywhereAt Q
  | element _ _ _, _, ⟨_, _, rfl, hr, hcontent⟩, hq =>
      ⟨hQ hr hq.1, Everywhere.redeclared hQ hcontent hq.2⟩
  | text _, _, rfl, hq => hq
  | cdata _, _, rfl, hq => hq
  | comment _, _, rfl, hq => hq
  | instruction _ _, _, rfl, hq => hq
  | doctype _, _, rfl, hq => hq

/-- A property that new attributes keep stays true. -/
theorem Everywhere.redeclared {Q : Item → Prop}
    (hQ : ∀ {name attributes attributes' content content'}, R attributes attributes' →
      Q (element name attributes content) → Q (element name attributes' content')) :
    ∀ {items items' : List Item}, Redeclared R items items' →
      Everywhere Q items → Everywhere Q items'
  | [], _, rfl, _ => trivial
  | _ :: _, _, ⟨_, _, rfl, hitem, hitems⟩, hq =>
      ⟨EverywhereAt.redeclaredAt hQ hitem hq.1, Everywhere.redeclared hQ hitems hq.2⟩

end

end Item

namespace Forest

variable {F G : Forest} {changed : NodeId → Prop} {R : List Attribute → List Attribute → Prop}

/-! ### A document with more declarations -/

section SameButDeclarations

variable (h : F.SameButDeclarations G changed)
include h

theorem SameButDeclarations.childOfType?_eq (id : NodeId) (type : NodeType) :
    G.childOfType? id type = F.childOfType? id type := by
  rw [childOfType?, childOfType?, h.children_eq, funext h.type?_eq]

theorem SameButDeclarations.root?_eq (doc : NodeId) : G.root? doc = F.root? doc :=
  h.childOfType?_eq doc .element

theorem SameButDeclarations.doctype?_eq (doc : NodeId) : G.doctype? doc = F.doctype? doc := by
  rw [doctype?, doctype?, doctypeNode?, doctypeNode?, h.childOfType?_eq]
  cases F.childOfType? doc .doctype with
  | none => rfl
  | some id =>
      rw [Option.bind_some, Option.bind_some]
      rcases h.payload?_cases id with hp | ⟨name, cells, cells', h₁, h₂, -⟩
      · rw [hp]
      · rw [h₁, h₂]

theorem SameButDeclarations.declaration_eq (doc : NodeId) :
    G.declaration doc = F.declaration doc := by
  rw [declaration, declaration]
  rcases h.payload?_cases doc with hp | ⟨name, cells, cells', h₁, h₂, -⟩
  · rw [hp]
  · rw [h₁, h₂]

end SameButDeclarations

/-! ### Items -/

theorem get?_of_same_of_leaf (h : F.SameButDeclarations G changed) {id : NodeId} {node : Node}
    (hget : F.get? id = some node) (hleaf : node.payload.type ≠ .element) :
    G.get? id = some node := by
  rcases h.get?_cases id with ⟨hm, -⟩ | ⟨m, n, hm, hn, hparent, howner, hchildren, hp⟩
  · rw [hm] at hget
    cases hget
  · obtain rfl := Option.some.inj (hm.symm.trans hget)
    rcases hp with hp | ⟨name, cells, cells', hname, -⟩
    · obtain ⟨payload, parent, owner, children⟩ := m
      obtain ⟨payload', parent', owner', children'⟩ := n
      rw [hn]
      simp_all
    · rw [hname] at hleaf
      exact absurd rfl hleaf

mutual

theorem exists_holdsAt_of_same (h : F.SameButDeclarations G changed)
    (hR : ∀ {id f g}, F.frame? id = some f → G.frame? id = some g →
      R f.attributes g.attributes) :
    ∀ {item : Item} {owner parent id : NodeId}, F.HoldsAt owner parent id item →
      ∃ item', G.HoldsAt owner parent id item' ∧ item.RedeclaredAt R item'
  | .element name attributes content, owner, parent, id, hitem => by
      obtain ⟨cells, children, rfl, hget, hcontent⟩ := hitem
      obtain ⟨content', hcontent', hre⟩ := exists_holds_of_same h hR hcontent
      rcases h.get?_cases id with ⟨hm, -⟩ | ⟨m, n, hm, hn, hparent, howner, hchildren, hp⟩
      · rw [hm] at hget
        cases hget
      · obtain rfl := Option.some.inj (hm.symm.trans hget)
        obtain ⟨payload', parent', owner', children'⟩ := n
        obtain ⟨cells', hcells⟩ : ∃ cells', payload' = .element name cells' := by
          rcases hp with hp | ⟨name', cells, cells', hname, hname', -⟩
          · exact ⟨cells, hp⟩
          · cases hname
            exact ⟨cells', hname'⟩
        dsimp only at hparent howner hchildren
        subst hcells hparent howner hchildren
        refine ⟨.element name (cells'.map AttrCell.attr) content',
          ⟨cells', _, rfl, hn, hcontent'⟩, _, _, rfl, ?_, hre⟩
        refine @hR id ⟨name, cells.map AttrCell.attr⟩ ⟨name, cells'.map AttrCell.attr⟩ ?_ ?_
        · simp [frame?, payload?, hm]
        · simp [frame?, payload?, hn]
  | .text data, _, _, _, hitem => ⟨.text data, get?_of_same_of_leaf h hitem nofun, rfl⟩
  | .cdata data, _, _, _, hitem => ⟨.cdata data, get?_of_same_of_leaf h hitem nofun, rfl⟩
  | .comment data, _, _, _, hitem => ⟨.comment data, get?_of_same_of_leaf h hitem nofun, rfl⟩
  | .instruction target data, _, _, _, hitem =>
      ⟨.instruction target data, get?_of_same_of_leaf h hitem nofun, rfl⟩
  | .doctype d, _, _, _, hitem => ⟨.doctype d, get?_of_same_of_leaf h hitem nofun, rfl⟩

/-- The items of a forest stand in one with more declarations too, with other attributes. -/
theorem exists_holds_of_same (h : F.SameButDeclarations G changed)
    (hR : ∀ {id f g}, F.frame? id = some f → G.frame? id = some g →
      R f.attributes g.attributes) :
    ∀ {items : List Item} {owner parent : NodeId} {ids : List NodeId},
      F.Holds owner parent ids items →
        ∃ items', G.Holds owner parent ids items' ∧ Item.Redeclared R items items'
  | [], _, _, ids, hitems => by
      obtain rfl := eq_nil_of_holds_nil hitems
      exact ⟨[], trivial, rfl⟩
  | item :: items, owner, parent, ids, hitems => by
      cases ids with
      | nil => exact hitems.elim
      | cons id ids =>
          obtain ⟨item', hitem', hre⟩ := exists_holdsAt_of_same h hR hitems.1
          obtain ⟨items', hitems', hres⟩ := exists_holds_of_same h hR hitems.2
          exact ⟨item' :: items', ⟨hitem', hitems'⟩, item', items', rfl, hre, hres⟩

end

mutual

theorem HoldsAt.congr (h : ∀ id, G.get? id = F.get? id) :
    ∀ {item : Item} {owner parent id : NodeId}, F.HoldsAt owner parent id item →
      G.HoldsAt owner parent id item
  | .element _ _ _, _, _, _, ⟨cells, children, hcells, hget, hcontent⟩ =>
      ⟨cells, children, hcells, (h _).trans hget, Holds.congr h hcontent⟩
  | .text _, _, _, _, hitem => (h _).trans hitem
  | .cdata _, _, _, _, hitem => (h _).trans hitem
  | .comment _, _, _, _, hitem => (h _).trans hitem
  | .instruction _ _, _, _, _, hitem => (h _).trans hitem
  | .doctype _, _, _, _, hitem => (h _).trans hitem

/-- The items of a forest stand in every one with the same nodes. -/
theorem Holds.congr (h : ∀ id, G.get? id = F.get? id) :
    ∀ {items : List Item} {owner parent : NodeId} {ids : List NodeId},
      F.Holds owner parent ids items → G.Holds owner parent ids items
  | [], _, _, ids, hitems => by
      obtain rfl := eq_nil_of_holds_nil hitems
      trivial
  | item :: items, _, _, ids, hitems => by
      cases ids with
      | nil => exact hitems.elim
      | cons id ids => exact ⟨HoldsAt.congr h hitems.1, Holds.congr h hitems.2⟩

end

end Forest

end XmlScribe
