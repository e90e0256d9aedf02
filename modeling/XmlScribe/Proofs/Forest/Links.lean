/-
**What the operations do to the links.**

A node is linked twice: it names its parent, and its parent lists it.  An operation leaves the links
alone, brings a node that has none, takes a node from the node above it, or puts a node without a
parent below another.  Every operation on nodes is a chain of such steps, and here each of them is
described by what reading finds afterwards.

Main definitions:

* `Forest.SameLinks` — nothing has happened to the links;
* `Forest.Brings` — there is one more node, which stands alone;
* `Forest.Unlinks`, `Forest.Links` — a node has lost its parent, or got one.

Main results:

* `Forest.sameLinks_modify` — another payload of the same kind leaves the links alone;
* `Forest.removeChild_eq_ok_iff`, `Forest.unlinks_removeChild` — when a removal succeeds, and
  what it does;
* `Forest.checkInsertion_eq_ok_iff` — the conditions of an insertion;
* `Forest.insertBefore_eq_ok_iff`, `Forest.insertBefore_cases` — an insertion is a check, a removal,
  a check and a link;
* `Forest.detach_cases`, `Forest.of_detach_eq_ok` — what it is to take a node from where it stands;
* `Forest.checkInsertion_of_detach` — the second check of an insertion does not fail;
* `Forest.payload?_removeChild`, `Forest.payload?_insertBefore` — nodes carry what they did.
-/

import Mathlib.Data.List.Nodup
import XmlScribe.Forest.Edit
import XmlScribe.Proofs.Outcome

set_option autoImplicit false

namespace XmlScribe

namespace Forest

/-! ### Reading links -/

theorem type?_eq_some_iff {F : Forest} {id : NodeId} {t : NodeType} :
    F.type? id = some t ↔ ∃ node, F.get? id = some node ∧ node.payload.type = t := by
  simp [type?, payload?]

theorem payload?_of_get? {F : Forest} {id : NodeId} {node : Node} (h : F.get? id = some node) :
    F.payload? id = some node.payload := by
  rw [payload?, h]
  rfl

theorem mem_children_iff {F : Forest} {p c : NodeId} :
    c ∈ F.children p ↔ ∃ node, F.get? p = some node ∧ c ∈ node.children := by
  cases h : F.get? p <;> simp [children, h]

theorem lt_size_of_get? {F : Forest} {id : NodeId} {node : Node} (h : F.get? id = some node) :
    id < F.size := by
  refine Nat.lt_of_not_le fun hle => ?_
  rw [get?, Array.getElem?_eq_none hle] at h
  cases h

theorem lt_size_of_type? {F : Forest} {id : NodeId} {t : NodeType} (h : F.type? id = some t) :
    id < F.size := by
  obtain ⟨node, hn, -⟩ := type?_eq_some_iff.1 h
  exact lt_size_of_get? hn

theorem lt_size_of_isSome_type? {F : Forest} {id : NodeId} (h : (F.type? id).isSome = true) :
    id < F.size := by
  obtain ⟨t, ht⟩ := Option.isSome_iff_exists.1 h
  exact lt_size_of_type? ht

theorem lt_size_of_parent? {F : Forest} {c p : NodeId} (h : F.parent? c = some p) : c < F.size := by
  obtain ⟨node, hn, -⟩ := Option.bind_eq_some_iff.1 h
  exact lt_size_of_get? hn

theorem lt_size_of_mem_children {F : Forest} {p c : NodeId} (h : c ∈ F.children p) : p < F.size := by
  obtain ⟨node, hn, -⟩ := mem_children_iff.1 h
  exact lt_size_of_get? hn

theorem get?_size (F : Forest) : F.get? F.size = none :=
  Array.getElem?_eq_none (Nat.le_refl _)

/-! ### Steps -/

/-- The links, the kinds and the documents of all nodes are the same. -/
structure SameLinks (F G : Forest) : Prop where
  /-- The nodes are of the same kinds. -/
  type? : ∀ id, G.type? id = F.type? id
  /-- They name the same parents. -/
  parent? : ∀ id, G.parent? id = F.parent? id
  /-- They list the same children. -/
  children : ∀ id, G.children id = F.children id
  /-- They belong to the same documents. -/
  owner? : ∀ id, G.owner? id = F.owner? id

theorem sameLinks_of_get? {F G : Forest} (h : ∀ id, G.get? id = F.get? id) : F.SameLinks G :=
  ⟨fun id => by rw [type?, payload?, h, ← payload?, ← type?],
    fun id => by rw [parent?, h, ← parent?], fun id => by rw [children, h, ← children],
    fun id => by rw [owner?, h, ← owner?]⟩

/-- There is one more node, without parent and children, of a document or a document itself. -/
structure Brings (F G : Forest) (node : Node) : Prop where
  /-- The forest has this node more. -/
  get? : ∀ id, G.get? id = if id = F.size then some node else F.get? id
  /-- The node has no parent. -/
  parent_eq : node.parent = none
  /-- It has no children. -/
  children_eq : node.children = []
  /-- It is a document or belongs to one. -/
  owner : (node.payload.type = .document ∧ node.owner = none) ∨
    (node.payload.type ≠ .document ∧
      ∃ doc, node.owner = some doc ∧ F.type? doc = some .document)

section Added

variable {F G : Forest} {node : Node}
  (h : ∀ id, G.get? id = if id = F.size then some node else F.get? id)
include h

theorem type?_added {id : NodeId} (hid : id ≠ F.size) : G.type? id = F.type? id := by
  rw [type?, payload?, h, if_neg hid, ← payload?, ← type?]

theorem owner?_added {id : NodeId} (hid : id ≠ F.size) : G.owner? id = F.owner? id := by
  rw [owner?, h, if_neg hid, ← owner?]

theorem type?_added_size : G.type? F.size = some node.payload.type := by
  rw [type?, payload?, h, if_pos rfl, Option.map_some, Option.map_some]

theorem owner?_added_size : G.owner? F.size = node.owner := by
  rw [owner?, h, if_pos rfl, Option.bind_some]

theorem parent?_added (hp : node.parent = none) (id : NodeId) : G.parent? id = F.parent? id := by
  by_cases hid : id = F.size <;> simp [parent?, h, hid, hp, get?_size]

theorem children_added (hc : node.children = []) (id : NodeId) : G.children id = F.children id := by
  by_cases hid : id = F.size <;> simp [children, h, hid, hc, get?_size]

end Added

/-- The node `child` is no child of `parent` any more. -/
structure Unlinks (F G : Forest) (parent child : NodeId) : Prop where
  /-- The nodes are of the same kinds. -/
  type? : ∀ id, G.type? id = F.type? id
  /-- Only `child` has lost its parent. -/
  parent? : ∀ id, G.parent? id = if id = child then none else F.parent? id
  /-- Only `parent` has lost a child. -/
  children : ∀ id, G.children id =
    if id = parent then (F.children parent).erase child else F.children id
  /-- The nodes belong to the same documents. -/
  owner? : ∀ id, G.owner? id = F.owner? id

/-- The node `child` has become a child of `parent`, at `before` or at the end. -/
structure Links (F G : Forest) (parent child : NodeId) (before : Option NodeId) : Prop where
  /-- The nodes are of the same kinds. -/
  type? : ∀ id, G.type? id = F.type? id
  /-- Only `child` has another parent. -/
  parent? : ∀ id, G.parent? id = if id = child then some parent else F.parent? id
  /-- Only `parent` has other children. -/
  children : ∀ id, G.children id =
    if id = parent then place child before (F.children parent) else F.children id
  /-- The nodes belong to the same documents. -/
  owner? : ∀ id, G.owner? id = F.owner? id

/-- The others name the parents that they named. -/
theorem Unlinks.parent?_eq_some_iff {F G : Forest} {parent child : NodeId}
    (h : F.Unlinks G parent child) {p c : NodeId} :
    G.parent? c = some p ↔ c ≠ child ∧ F.parent? c = some p := by
  rw [h.parent?]
  split <;> simp_all

theorem Unlinks.mem_children {F G : Forest} {parent child : NodeId}
    (h : F.Unlinks G parent child) {p c : NodeId} (hc : c ∈ G.children p) : c ∈ F.children p := by
  rw [h.children] at hc
  split at hc
  · rename_i hp
    exact hp ▸ List.mem_of_mem_erase hc
  · exact hc

/-- There is one more link up from a node that had none. -/
theorem Links.parent?_eq_some_iff {F G : Forest} {parent child : NodeId} {before : Option NodeId}
    (h : F.Links G parent child before) (hnone : F.parent? child = none) {p c : NodeId} :
    G.parent? c = some p ↔ (p = parent ∧ c = child) ∨ F.parent? c = some p := by
  rw [h.parent?]
  by_cases hc : c = child
  · subst hc
    simp [hnone, eq_comm]
  · simp [hc]

/-! ### Changes of a payload -/

/-- Another payload of the same kind leaves the links alone. -/
theorem sameLinks_modify (F : Forest) (id : NodeId) (f : Node → Node)
    (ht : ∀ node, (f node).payload.type = node.payload.type)
    (hl : ∀ node, (f node).parent = node.parent ∧ (f node).children = node.children ∧
      (f node).owner = node.owner) : F.SameLinks (F.modify id f) := by
  have hp := fun node => (hl node).1
  have hc := fun node => (hl node).2.1
  have ho := fun node => (hl node).2.2
  constructor <;> intro other <;> by_cases h : id = other <;> cases hg : F.get? other <;>
    simp [Forest.type?, payload?, Forest.parent?, Forest.children, Forest.owner?, get?_modify, h,
      hg, ht, hp, hc, ho]

/-! ### Removal -/

theorem isReadOnly_congr {F G : Forest} (hp : ∀ id, G.payload? id = F.payload? id)
    (ho : ∀ id, G.owner? id = F.owner? id) (id : NodeId) : G.isReadOnly id = F.isReadOnly id := by
  simp only [isReadOnly, hp, ho]

theorem payload?_setParent (F : Forest) (child : NodeId) (parent : Option NodeId) (id : NodeId) :
    (F.setParent child parent).payload? id = F.payload? id := by
  by_cases h : child = id <;> cases hg : F.get? id <;>
    simp [payload?, setParent, get?_modify, h, hg]

theorem payload?_setChildren (F : Forest) (parent : NodeId) (children : List NodeId)
    (id : NodeId) : (F.setChildren parent children).payload? id = F.payload? id := by
  by_cases h : parent = id <;> cases hg : F.get? id <;>
    simp [payload?, setChildren, get?_modify, h, hg]

theorem owner?_setParent (F : Forest) (child : NodeId) (parent : Option NodeId) (id : NodeId) :
    (F.setParent child parent).owner? id = F.owner? id := by
  by_cases h : child = id <;> cases hg : F.get? id <;>
    simp [owner?, setParent, get?_modify, h, hg]

theorem owner?_setChildren (F : Forest) (parent : NodeId) (children : List NodeId)
    (id : NodeId) : (F.setChildren parent children).owner? id = F.owner? id := by
  by_cases h : parent = id <;> cases hg : F.get? id <;>
    simp [owner?, setChildren, get?_modify, h, hg]

theorem parent?_setParent {F : Forest} {child : NodeId} (h : child < F.size)
    (parent : Option NodeId) (id : NodeId) :
    (F.setParent child parent).parent? id = if id = child then parent else F.parent? id := by
  have hg : F.get? child = some F.nodes[child] := Array.getElem?_eq_getElem h
  by_cases hid : child = id
  · subst hid
    simp [Forest.parent?, setParent, get?_modify, hg]
  · simp [Forest.parent?, setParent, get?_modify, hid, Ne.symm hid]

theorem parent?_setChildren (F : Forest) (parent : NodeId) (children : List NodeId)
    (id : NodeId) : (F.setChildren parent children).parent? id = F.parent? id := by
  by_cases h : parent = id <;> cases hg : F.get? id <;>
    simp [Forest.parent?, setChildren, get?_modify, h, hg]

theorem children_setParent (F : Forest) (child : NodeId) (parent : Option NodeId) (id : NodeId) :
    (F.setParent child parent).children id = F.children id := by
  by_cases h : child = id <;> cases hg : F.get? id <;>
    simp [Forest.children, setParent, get?_modify, h, hg]

theorem children_setChildren {F : Forest} {parent : NodeId} (h : parent < F.size)
    (children : List NodeId) (id : NodeId) :
    (F.setChildren parent children).children id =
      if id = parent then children else F.children id := by
  have hg : F.get? parent = some F.nodes[parent] := Array.getElem?_eq_getElem h
  by_cases hid : parent = id
  · subst hid
    simp [Forest.children, setChildren, get?_modify, hg]
  · simp [Forest.children, setChildren, get?_modify, hid, Ne.symm hid]

theorem size_setChildren (F : Forest) (parent : NodeId) (children : List NodeId) :
    (F.setChildren parent children).size = F.size :=
  size_modify F parent _

theorem isContainer_of_type? {F : Forest} {p : NodeId}
    (h : F.type? p = some .element ∨ F.type? p = some .document) : F.isContainer p = true := by
  rcases h with h | h <;> simp [isContainer, h]

theorem type?_of_isContainer {F : Forest} {p : NodeId} (h : F.isContainer p = true) :
    F.type? p = some .element ∨ F.type? p = some .document := by
  rw [isContainer] at h
  split at h <;> simp_all

/-- What an insertion and a removal do to the links. -/
theorem relinked {F : Forest} {parent child : NodeId} (hp : parent < F.size)
    (hc : child < F.size) (children : List NodeId) (link : Option NodeId) :
    let G := (F.setChildren parent children).setParent child link
    (∀ id, G.payload? id = F.payload? id) ∧ (∀ id, G.owner? id = F.owner? id) ∧
      (∀ id, G.parent? id = if id = child then link else F.parent? id) ∧
      ∀ id, G.children id = if id = parent then children else F.children id := by
  refine ⟨fun id => ?_, fun id => ?_, fun id => ?_, fun id => ?_⟩
  · rw [payload?_setParent, payload?_setChildren]
  · rw [owner?_setParent, owner?_setChildren]
  · rw [parent?_setParent (by rw [size_setChildren]; exact hc), parent?_setChildren]
  · rw [children_setParent, children_setChildren hp]

theorem removeChild_eq_ok_iff {F G : Forest} {parent child : NodeId} :
    F.removeChild parent child = .ok G ↔
      F.isContainer parent = true ∧ F.isReadOnly parent = false ∧ child ∈ F.children parent ∧
        G = (F.setChildren parent ((F.children parent).erase child)).setParent child none := by
  rw [removeChild]
  cases F.isContainer parent with
  | false => simp
  | true =>
      cases F.isReadOnly parent with
      | true => simp
      | false =>
          by_cases hm : child ∈ F.children parent
          · simp [hm, eq_comm]
          · simp [hm]

/-- A removal takes the child from the parent and changes nothing else. -/
theorem unlinks_removeChild {F G : Forest} {parent child : NodeId} (hc : child < F.size)
    (h : F.removeChild parent child = .ok G) :
    F.Unlinks G parent child ∧ ∀ id, G.payload? id = F.payload? id := by
  obtain ⟨hcon, -, -, rfl⟩ := removeChild_eq_ok_iff.1 h
  have hp : parent < F.size := (type?_of_isContainer hcon).elim lt_size_of_type? lt_size_of_type?
  obtain ⟨hpay, hown, hpar, hch⟩ := relinked hp hc ((F.children parent).erase child) none
  exact ⟨⟨fun id => by rw [Forest.type?, hpay, Forest.type?], hpar, hch, hown⟩, hpay⟩

/-! ### Insertion -/

/-- The child is put between the others, which stay in their order. -/
theorem place_perm (child : NodeId) (before : Option NodeId) (list : List NodeId) :
    (place child before list).Perm (child :: list) := by
  cases before with
  | none => exact List.perm_append_singleton child list
  | some b =>
      have h := @List.perm_middle _ child (list.takeWhile (· != b)) (list.dropWhile (· != b))
      rwa [List.takeWhile_append_dropWhile] at h

/-- There is one more link down. -/
theorem Links.mem_children_iff {F G : Forest} {parent child : NodeId} {before : Option NodeId}
    (h : F.Links G parent child before) {p c : NodeId} :
    c ∈ G.children p ↔ (p = parent ∧ c = child) ∨ c ∈ F.children p := by
  rw [h.children]
  by_cases hp : p = parent
  · subst hp
    simp [(place_perm child before (F.children p)).mem_iff]
  · simp [hp]

/-- The conditions of an insertion. -/
theorem checkInsertion_eq_ok_iff {F : Forest} {parent child : NodeId} {before : Option NodeId} :
    F.checkInsertion parent child before = .ok () ↔
      F.isReadOnly parent = false ∧ F.mayHold parent child = true ∧
        child ∉ F.lineage parent ∧ F.sharesDocument parent child = true ∧
        ∀ b, before = some b → b ∈ F.children parent := by
  have hall : before.all (F.children parent).elem = true ↔
      ∀ b, before = some b → b ∈ F.children parent := by
    cases before <;> simp
  rw [← hall, checkInsertion]
  split
  · simp_all
  · split
    · simp_all
    · split
      · simp_all
      · split
        · simp_all
        · split <;> simp_all

/-- An insertion before another node is a check, a removal, the check again and a link. -/
theorem insertBefore_eq_ok_iff {F G : Forest} {parent child : NodeId} {before : Option NodeId}
    (hne : before ≠ some child) :
    F.insertBefore parent child before = .ok G ↔
      F.isContainer parent = true ∧ F.checkInsertion parent child before = .ok () ∧
        F.isDuplicate parent child = false ∧ ∃ D, F.detach child = .ok D ∧
          D.checkInsertion parent child before = .ok () ∧
          G = (D.setChildren parent (place child before (D.children parent))).setParent child
            parent := by
  rw [insertBefore]
  split
  · simp_all
  · rename_i hc
    rw [Outcome.bind_eq_ok_iff]
    cases hd : F.isDuplicate parent child with
    | true =>
        simp only [if_true, Bool.true_eq_false, false_and, and_false, iff_false]
        rintro ⟨-, -, h⟩
        exact Outcome.throw_ne_ok h
    | false =>
        simp only [Bool.not_eq_true', Bool.not_eq_false] at hc
        simp only [hc, Bool.false_eq_true, if_false, true_and]
        constructor
        · rintro ⟨⟨⟩, h₁, h⟩
          obtain ⟨D, hD, h⟩ := Outcome.bind_eq_ok_iff.1 h
          obtain ⟨⟨⟩, h₂, h⟩ := Outcome.bind_eq_ok_iff.1 h
          exact ⟨h₁, D, hD, h₂, (Outcome.pure_eq_ok_iff.1 h).symm⟩
        · rintro ⟨h₁, D, hD, h₂, rfl⟩
          refine ⟨(), h₁, ?_⟩
          rw [Outcome.bind_of_eq_ok hD, Outcome.bind_of_eq_ok h₂]
          rfl

/-- An insertion that succeeds leaves everything as it is, or takes the node from its place and puts
it below the other one. -/
theorem insertBefore_cases {F G : Forest} {parent child : NodeId} {before : Option NodeId}
    (h : F.insertBefore parent child before = .ok G) :
    G = F ∨ F.isDuplicate parent child = false ∧ ∃ D, F.detach child = .ok D ∧
      D.checkInsertion parent child before = .ok () ∧
      G = (D.setChildren parent (place child before (D.children parent))).setParent child
        parent := by
  by_cases hne : before = some child
  · -- a node that is put before itself stays where it is
    rw [insertBefore, if_pos hne] at h
    split at h
    · cases h
    · exact Or.inl (by simpa using h.symm)
  · obtain ⟨-, -, hdup, hplaced⟩ := (insertBefore_eq_ok_iff hne).1 h
    exact Or.inr ⟨hdup, hplaced⟩

/-! ### The second check -/

theorem mayHold_congr {F G : Forest} {p c : NodeId} (hp : G.type? p = F.type? p)
    (hc : G.type? c = F.type? c) : G.mayHold p c = F.mayHold p c := by
  rw [mayHold, mayHold, hp, hc]

/-- A node without a parent stays as it is, another one is taken from its parent. -/
theorem detach_cases {F D : Forest} {child : NodeId} (h : F.detach child = .ok D) :
    (F.parent? child = none ∧ D = F) ∨
      ∃ parent, F.parent? child = some parent ∧ F.removeChild parent child = .ok D := by
  rw [detach] at h
  split at h
  · rename_i parent hpar
    exact Or.inr ⟨parent, hpar, h⟩
  · rename_i hpar
    exact Or.inl ⟨hpar, (Except.ok.inj h).symm⟩

/-- Taking a node from where it stands makes it a node without a parent, and its parent loses it.
Nothing else changes. -/
theorem of_detach_eq_ok {F D : Forest} {child : NodeId} (h : F.detach child = .ok D) :
    (∀ id, D.payload? id = F.payload? id) ∧ (∀ id, D.owner? id = F.owner? id) ∧
      (∀ id, D.parent? id = if id = child then none else F.parent? id) ∧
      (∀ id, D.children id =
        if F.parent? child = some id then (F.children id).erase child else F.children id) ∧
      D.size = F.size := by
  rcases detach_cases h with ⟨hpar, rfl⟩ | ⟨q, hpar, h⟩
  · refine ⟨fun _ => rfl, fun _ => rfl, fun id => ?_, fun id => by rw [hpar, if_neg (by simp)], rfl⟩
    split
    · rename_i hid
      rw [hid, hpar]
    · rfl
  · obtain ⟨hunlinks, hpay⟩ := unlinks_removeChild (lt_size_of_parent? hpar) h
    obtain ⟨-, -, -, rfl⟩ := removeChild_eq_ok_iff.1 h
    refine ⟨hpay, hunlinks.owner?, hunlinks.parent?, fun id => ?_, ?_⟩
    · rw [hunlinks.children, hpar]
      by_cases hid : id = q
      · rw [if_pos hid, if_pos (congrArg some hid.symm), hid]
      · rw [if_neg hid, if_neg fun he => hid (Option.some.inj he).symm]
    · rw [setParent, size_modify, size_setChildren]

/-- The way up from a node is the same, if only a node that is not on it has another parent. -/
theorem lineageFrom_eq_of_not_mem {F G : Forest} {child : NodeId}
    (hpar : ∀ id, id ≠ child → G.parent? id = F.parent? id) {fuel : Nat} {id : NodeId}
    (h : child ∉ F.lineageFrom fuel id) : G.lineageFrom fuel id = F.lineageFrom fuel id := by
  induction fuel generalizing id with
  | zero => rfl
  | succ fuel ih =>
      rw [lineageFrom] at h
      rw [lineageFrom, lineageFrom]
      cases hp : F.parent? id with
      | none =>
          rw [hp] at h
          rw [hpar id fun he => h (by rw [he]; exact List.mem_singleton_self _), hp]
      | some p =>
          rw [hp] at h
          simp only [List.mem_cons, not_or] at h
          obtain ⟨hne, hrest⟩ := h
          rw [hpar id (Ne.symm hne), hp]
          exact congrArg (id :: ·) (ih hrest)

/-- What may be inserted may still be inserted once it has been taken from where it stood.  The check
depends on nothing that the removal changes: a node that does not stand above the parent is not on
the way up from it, and the node to stand before is another child. -/
theorem checkInsertion_of_detach {F D : Forest} {parent child : NodeId}
    {before : Option NodeId} (hne : before ≠ some child)
    (h : F.checkInsertion parent child before = .ok ()) (hD : F.detach child = .ok D) :
    D.checkInsertion parent child before = .ok () := by
  obtain ⟨hpay, hown, hpar, hch, hsize⟩ := of_detach_eq_ok hD
  obtain ⟨hr, hm, hl, hs, hb⟩ := checkInsertion_eq_ok_iff.1 h
  have htype : ∀ id, D.type? id = F.type? id := fun id => by rw [type?, hpay, type?]
  have hlineage : D.lineage parent = F.lineage parent := by
    rw [lineage, hsize]
    exact lineageFrom_eq_of_not_mem (fun id hid => by rw [hpar, if_neg hid]) hl
  refine checkInsertion_eq_ok_iff.2 ⟨?readOnly, ?mayHold, ?lineage, ?document, ?before⟩
  case readOnly => rw [isReadOnly_congr hpay hown, hr]
  case mayHold => rw [mayHold_congr (htype parent) (htype child), hm]
  case lineage => rwa [hlineage]
  case document => rwa [sharesDocument, htype, hown, hown]
  case before =>
    intro b hbe
    have hbc : b ≠ child := by
      rintro rfl
      exact hne hbe
    rw [hch]
    split
    · exact (List.mem_erase_of_ne hbc).2 (hb b hbe)
    · exact hb b hbe

/-! ### What nodes carry -/

/-- A removal changes nothing that nodes carry. -/
theorem payload?_removeChild {F G : Forest} {parent child : NodeId}
    (h : F.removeChild parent child = .ok G) (id : NodeId) : G.payload? id = F.payload? id := by
  obtain ⟨-, -, -, rfl⟩ := removeChild_eq_ok_iff.1 h
  rw [payload?_setParent, payload?_setChildren]

/-- Nor does an insertion. -/
theorem payload?_insertBefore {F G : Forest} {parent child : NodeId} {before : Option NodeId}
    (h : F.insertBefore parent child before = .ok G) (id : NodeId) :
    G.payload? id = F.payload? id := by
  rcases insertBefore_cases h with rfl | ⟨-, D, hD, -, rfl⟩
  · rfl
  · rw [payload?_setParent, payload?_setChildren]
    exact (of_detach_eq_ok hD).1 id

end Forest

end XmlScribe
