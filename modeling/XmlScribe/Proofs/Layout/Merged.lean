/-
**Content in which texts have been merged.**

The content of an element shows the items below it with adjacent texts joined: where texts are cut
cannot be seen in it.  So two elements whose items are the same up to the cuts have content that
agrees part by part, although there may be more nodes below one of them.

Main definitions:

* `Forest.Shows` — a part of the content is an item;
* `Forest.AreAlike` — two nodes whose items are the same up to the cuts;
* `Content.Agrees` — two parts are the same text, nodes without children that carry the same, or two
  elements of which a relation holds.

Main results:

* `Forest.shows_contentOf` — content shows the joined items;
* `Forest.agrees_contentOf` — joined items that are the same are shown by content that agrees;
* `Forest.AreAlike.exists_frame` — what alike elements have in common.
-/

import XmlScribe.Layout.Content
import XmlScribe.Namespace.Completion
import XmlScribe.Proofs.Document.Joined
import XmlScribe.Proofs.Forest.Planted

set_option autoImplicit false

namespace XmlScribe

namespace Item

/-- What a node without children carries that is not character data, as an item has it. -/
def leaf? : Item → Option Payload
  | element _ _ _ => none
  | text _ => none
  | cdata data => some (.cdata data)
  | comment data => some (.comment data)
  | instruction target data => some (.instruction target data)
  | doctype d => some (.doctype d)

theorem joinedAt_ne_text {item : Item} (h : ∀ data, item ≠ .text data) (data : Text) :
    item.joinedAt ≠ .text data := by
  cases item with
  | text data => exact absurd rfl (h data)
  | _ => simp [joinedAt]

theorem leaf?_joinedAt (item : Item) : item.joinedAt.leaf? = item.leaf? := by
  cases item <;> rfl

theorem ne_element_of_leaf? {item : Item} {payload : Payload} (h : item.leaf? = some payload) :
    payload.type ≠ .element := by
  cases item <;> cases h <;> simp [Payload.type]

theorem typeOf_of_leaf?_eq_none {item : Item} (h : item.leaf? = none)
    (hne : ∀ data, item ≠ .text data) : Builder.typeOf item = .element := by
  cases item with
  | element name attributes content => rfl
  | text data => exact absurd rfl (hne data)
  | _ => cases h

end Item

namespace Forest

variable {F G : Forest} {owner owner' parent parent' : NodeId}

theorem payload?_of_leaf? {id : NodeId} {item : Item} (h : F.HoldsAt owner parent id item)
    {payload : Payload} (hleaf : item.leaf? = some payload) : F.payload? id = some payload := by
  cases item with
  | element name attributes content => cases hleaf
  | text data => cases hleaf
  | _ =>
      cases hleaf
      exact payload?_of_get? h

/-- What carries something else is no element. -/
theorem not_isElement_of_payload? {id : NodeId} {payload : Payload}
    (h : F.payload? id = some payload) (hne : payload.type ≠ .element) : ¬ F.isElement id = true := by
  rw [isElement, type?, h]
  simpa using hne

/-! ### The nodes in content -/

end Forest

/-- The node, if the part is no text. -/
def Content.node? : Content → Option NodeId
  | text _ => none
  | node id => some id

theorem Content.nodes_consText (data : Text) (content : List Content) :
    (consText data content).filterMap node? = content.filterMap node? := by
  rw [consText.eq_def]
  split <;> rfl

/-- A node is at one place at most. -/
theorem Content.eq_of_getElem? {content : List Content} (h : (content.filterMap node?).Nodup)
    {i j : Nat} {id : NodeId} (hi : content[i]? = some (.node id))
    (hj : content[j]? = some (.node id)) : i = j := by
  obtain ⟨hilt, hi⟩ := List.getElem?_eq_some_iff.1 hi
  obtain ⟨hjlt, hj⟩ := List.getElem?_eq_some_iff.1 hj
  rw [List.Nodup, List.pairwise_filterMap, List.pairwise_iff_getElem] at h
  rcases Nat.lt_trichotomy i j with hlt | rfl | hlt
  · exact absurd rfl (h i j hilt hjlt hlt id (by rw [hi]; rfl) id (by rw [hj]; rfl))
  · rfl
  · exact absurd rfl (h j i hjlt hilt hlt id (by rw [hj]; rfl) id (by rw [hi]; rfl))

namespace Forest

variable {F G : Forest} {owner owner' parent parent' : NodeId}

theorem nodes_contentOf (F : Forest) (ids : List NodeId) :
    (F.contentOf ids).filterMap Content.node? = ids.filter (F.type? · != some .text) := by
  induction ids with
  | nil => rfl
  | cons id ids ih =>
      rw [contentOf, List.filter_cons]
      split
      · rename_i data hpayload
        rw [Content.nodes_consText, ih, if_neg (by simp [type?, hpayload, Payload.type])]
      · rename_i hne
        rw [List.filterMap_cons_some (show Content.node? (.node id) = some id from rfl), ih, if_pos]
        rw [type?]
        cases hp : F.payload? id with
        | none => rfl
        | some payload =>
            cases payload with
            | text data => exact absurd hp (hne data)
            | _ => rfl

theorem mem_children_of_content {a c : NodeId} (h : .node c ∈ F.content a) : c ∈ F.children a := by
  have hm : c ∈ (F.content a).filterMap Content.node? := List.mem_filterMap.2 ⟨_, h, rfl⟩
  rw [content, nodes_contentOf] at hm
  exact (List.mem_filter.1 hm).1

/-! ### What content shows -/

/-- A part of the content is an item: a text, or one of `items` with the texts in it joined. -/
inductive Shows (F : Forest) (owner parent : NodeId) (items : List Item) :
    Content → Item → Prop where
  /-- A text. -/
  | text (data : Text) : Shows F owner parent items (.text data) (.text data)
  /-- Another node. -/
  | node {id : NodeId} {item : Item} (hm : item ∈ items) (h : F.HoldsAt owner parent id item)
      (hne : ∀ data, item ≠ .text data) : Shows F owner parent items (.node id) item.joinedAt

theorem Shows.cons {items : List Item} {part : Content} {shown : Item}
    (h : F.Shows owner parent items part shown) (item : Item) :
    F.Shows owner parent (item :: items) part shown := by
  cases h with
  | text data => exact .text data
  | node hm h hne => exact .node (List.mem_cons_of_mem item hm) h hne

theorem forall₂_consText {items shown : List Item} {content : List Content} (data : Text)
    (h : List.Forall₂ (F.Shows owner parent items) content shown) :
    List.Forall₂ (F.Shows owner parent items) (Content.consText data content)
      (Item.join (.text data) shown) := by
  cases h with
  | nil => exact .cons (.text data) .nil
  | @cons _ _ _ shown hpart hparts =>
      cases hpart with
      | text next => exact .cons (.text (data ++ next)) hparts
      | @node id item hm hholds hne =>
          have hjoin : Item.join (.text data) (item.joinedAt :: shown) =
              .text data :: item.joinedAt :: shown := by
            rcases Item.join_cases (.text data) (item.joinedAt :: shown) with he |
              ⟨_, next, _, -, he, -⟩
            · exact he
            · exact absurd (List.cons.inj he).1 (Item.joinedAt_ne_text hne next)
          rw [hjoin]
          exact .cons (.text data) (.cons (.node hm hholds hne) hparts)

/-- Content shows the joined items. -/
theorem shows_contentOf {ids : List NodeId} {items : List Item} (h : F.Holds owner parent ids items) :
    List.Forall₂ (F.Shows owner parent items) (F.contentOf ids) (Item.joined items) := by
  induction ids generalizing items with
  | nil =>
      cases items with
      | nil => exact .nil
      | cons item items => exact h.elim
  | cons id ids ih =>
      cases items with
      | nil => exact h.elim
      | cons item items =>
          obtain ⟨hitem, hitems⟩ := h
          have hrest := (ih hitems).imp fun _ _ hs => hs.cons item
          -- a text is joined with what the rest shows first; anything else is shown by itself
          by_cases hne : ∀ data, item ≠ .text data
          · have hcontent : F.contentOf (id :: ids) = .node id :: F.contentOf ids := by
              obtain ⟨⟨payload, _, _, _⟩, hget, -, -, htype⟩ := get?_of_holdsAt hitem
              rw [contentOf, payload?_of_get? hget]
              cases item <;> cases payload <;> simp_all [Payload.type, Builder.typeOf]
            rw [hcontent, Item.joined_cons_of_ne_text hne]
            exact .cons (.node List.mem_cons_self hitem hne) hrest
          · obtain ⟨data, rfl⟩ := not_forall_not.1 hne
            have hcontent : F.contentOf (id :: ids) = Content.consText data (F.contentOf ids) := by
              rw [contentOf, payload?_of_get? hitem]
            rw [hcontent]
            exact forall₂_consText data hrest

/-- The items of the two nodes are the same up to the cuts of texts. -/
def AreAlike (F G : Forest) (owner owner' a b : NodeId) : Prop :=
  ∃ parent parent' item item', F.HoldsAt owner parent a item ∧ G.HoldsAt owner' parent' b item' ∧
    item.joinedAt = item'.joinedAt

end Forest

/-! ### Content that agrees -/

/-- The two parts are the same text, nodes without children that carry the same, or two elements of
which the relation holds. -/
inductive Content.Agrees (F G : Forest) (R : NodeId → NodeId → Prop) : Content → Content → Prop where
  /-- A text. -/
  | text (data : Text) : Agrees F G R (.text data) (.text data)
  /-- Elements. -/
  | element {a b : NodeId} (ha : F.isElement a = true) (hb : G.isElement b = true) (h : R a b) :
      Agrees F G R (.node a) (.node b)
  /-- Other nodes. -/
  | leaf {a b : NodeId} {payload : Payload} (ha : F.payload? a = some payload)
      (hb : G.payload? b = some payload) (hne : payload.type ≠ .element) :
      Agrees F G R (.node a) (.node b)

theorem Content.Agrees.imp {F G : Forest} {R S : NodeId → NodeId → Prop} {x y : Content}
    (h : Agrees F G R x y) (hrs : ∀ a b, R a b → S a b) : Agrees F G S x y := by
  cases h with
  | text data => exact .text data
  | element ha hb hr => exact .element ha hb (hrs _ _ hr)
  | leaf ha hb hne => exact .leaf ha hb hne

/-- Of elements that stand at the same place, another relation may hold as well. -/
theorem Content.forall₂_agrees_imp {F G : Forest} {R S : NodeId → NodeId → Prop}
    {content content' : List Content} (h : List.Forall₂ (Agrees F G R) content content')
    (hrs : ∀ (i : Nat) {a b}, content[i]? = some (node a) → content'[i]? = some (node b) →
      F.isElement a = true → G.isElement b = true → R a b → S a b) :
    List.Forall₂ (Agrees F G S) content content' := by
  induction h with
  | nil => exact .nil
  | cons hxy _ ih =>
      refine .cons ?_ (ih fun i _ _ ha hb => hrs (i + 1) ha hb)
      cases hxy with
      | text data => exact .text data
      | element ha hb hr => exact .element ha hb (hrs 0 rfl rfl ha hb hr)
      | leaf ha hb hne => exact .leaf ha hb hne

/-- Nodes that agree are of one kind. -/
theorem Content.Agrees.type?_eq {F G : Forest} {R : NodeId → NodeId → Prop} {a b : NodeId}
    (h : Agrees F G R (.node a) (.node b)) : F.type? a = G.type? b := by
  cases h with
  | element ha hb _ => rw [beq_iff_eq.1 ha, beq_iff_eq.1 hb]
  | leaf ha hb _ => rw [Forest.type?, Forest.type?, ha, hb]

namespace Forest

variable {F G : Forest} {owner owner' parent parent' : NodeId} {items items' : List Item}

theorem isElement_of_holdsAt {id : NodeId} {item : Item} (h : F.HoldsAt owner parent id item)
    (ht : Builder.typeOf item = .element) : F.isElement id = true := by
  rw [isElement, type?_of_holdsAt h, ht]
  rfl

/-- Parts that show the same agree. -/
theorem Shows.agrees {x y : Content} {shown shown' : Item}
    (h : F.Shows owner parent items x shown) (h' : G.Shows owner' parent' items' y shown')
    (he : shown = shown') : Content.Agrees F G (F.AreAlike G owner owner') x y := by
  cases h with
  | text data =>
      cases h' with
      | text data' =>
          obtain rfl := Item.text.inj he
          exact .text data
      | node _ _ hne' => exact absurd he.symm (Item.joinedAt_ne_text hne' data)
  | @node a item _ ha hne =>
      cases h' with
      | text data' => exact absurd he (Item.joinedAt_ne_text hne data')
      | @node b item' _ hb hne' =>
          have hleaf : item.leaf? = item'.leaf? := by
            rw [← Item.leaf?_joinedAt, he, Item.leaf?_joinedAt]
          cases hl : item.leaf? with
          | some payload =>
              exact .leaf (payload?_of_leaf? ha hl) (payload?_of_leaf? hb (hleaf.symm.trans hl))
                (Item.ne_element_of_leaf? hl)
          | none =>
              exact .element (isElement_of_holdsAt ha (Item.typeOf_of_leaf?_eq_none hl hne))
                (isElement_of_holdsAt hb
                  (Item.typeOf_of_leaf?_eq_none (hleaf.symm.trans hl) hne'))
                ⟨parent, parent', item, item', ha, hb, he⟩

/-- Joined items that are the same are shown by content that agrees. -/
theorem agrees_contentOf {ids ids' : List NodeId} (h : F.Holds owner parent ids items)
    (h' : G.Holds owner' parent' ids' items') (he : Item.joined items = Item.joined items') :
    List.Forall₂ (Content.Agrees F G (F.AreAlike G owner owner')) (F.contentOf ids)
      (G.contentOf ids') := by
  have hs := shows_contentOf h
  have hs' := shows_contentOf h'
  rw [← he] at hs'
  clear he h h'
  generalize F.contentOf ids = content at hs
  generalize G.contentOf ids' = content' at hs'
  generalize Item.joined items = shown at hs hs'
  induction hs generalizing content' with
  | nil =>
      cases hs'
      exact .nil
  | cons hpart _ ih =>
      cases hs' with
      | cons hpart' hparts' => exact .cons (hpart.agrees hpart' rfl) (ih _ hparts')

/-- What alike elements have in common. -/
theorem AreAlike.exists_frame {a b : NodeId} (h : F.AreAlike G owner owner' a b)
    (ha : F.isElement a = true) :
    ∃ f, F.frame? a = some f ∧ G.frame? b = some f ∧
      List.Forall₂ (Content.Agrees F G (F.AreAlike G owner owner')) (F.content a) (G.content b) := by
  obtain ⟨_, _, item, item', hitem, hitem', he⟩ := h
  rw [isElement, type?_of_holdsAt hitem] at ha
  cases item with
  | element name attributes inner =>
      cases item' with
      | element name' attributes' inner' =>
          obtain ⟨rfl, rfl, hinner⟩ := Item.element.inj he
          obtain ⟨cells, children, rfl, hget, hholds⟩ := hitem
          obtain ⟨cells', children', hcells, hget', hholds'⟩ := hitem'
          refine ⟨⟨name, cells.map AttrCell.attr⟩, ?_, ?_, ?_⟩
          · simp [frame?, payload?, hget]
          · simp [frame?, payload?, hget', hcells]
          · have hagrees := agrees_contentOf hholds hholds' hinner
            rwa [show children = F.children a by simp [Forest.children, hget],
              show children' = G.children b by simp [Forest.children, hget']] at hagrees
      | _ => simp [Item.joinedAt] at he
  | _ => simp [Builder.typeOf] at ha

end Forest

end XmlScribe
