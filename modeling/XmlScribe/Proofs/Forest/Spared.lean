/-
**What a locked document is spared.**

A document that is locked refuses changes, and so does every node that belongs to it.  A call may
come from elsewhere: it may want to take a node of the document away, to put one from outside into
it, or to change an attribute that somebody has kept.  As no link crosses the border of the
document, whatever a call changes then belongs to no node of the document.

Main definitions:

* `Forest.Spares` — what belongs to a document is the same in another forest.

Main results:

* `Forest.HasBorder.spares_effect` — nothing that a call can do changes what belongs to a locked
  document;
* `Forest.HasBorder.spares_step` — nor does locking or unlocking, as long as it is not unlocked
  itself;
* `Forest.Spares.below_iff`, `Forest.Spares.toItemFrom_eq` — the tree below the document is the
  same.
-/

import XmlScribe.Forest.Query
import XmlScribe.Proofs.Forest.Border

set_option autoImplicit false

namespace XmlScribe

namespace Forest

/-- The document is locked, and what belongs to it is what it was. -/
structure Spares (F G : Forest) (doc : NodeId) : Prop where
  /-- The nodes of the document are the same. -/
  get?_eq : ∀ {id}, F.owner? id = some doc → G.get? id = F.get? id
  /-- The document has the same children. -/
  children_eq : G.children doc = F.children doc
  /-- It is locked. -/
  isLocked : G.isLocked doc = true

theorem Spares.refl {F : Forest} {doc : NodeId} (h : F.isLocked doc = true) : F.Spares F doc :=
  ⟨fun _ => rfl, rfl, h⟩

theorem Spares.trans {F G H : Forest} {doc : NodeId} (h : F.Spares G doc) (h' : G.Spares H doc) :
    F.Spares H doc := by
  refine ⟨fun {id} ho => ?_, h'.children_eq.trans h.children_eq, h'.isLocked⟩
  have hget := h.get?_eq ho
  have hG : G.owner? id = some doc := by rw [owner?, hget, ← owner?, ho]
  exact (h'.get?_eq hG).trans hget

/-! ### Locks -/

section Locks

variable {F G : Forest} {doc : NodeId}

theorem isLocked_iff :
    F.isLocked doc = true ↔ ∃ declaration, F.payload? doc = some (.document declaration true) := by
  rw [isLocked]
  split
  · rename_i declaration readOnly hp
    simp [hp]
  · rename_i hp
    constructor
    · intro h
      cases h
    · rintro ⟨declaration, hd⟩
      exact (hp declaration true hd).elim

theorem isLocked_of_payload? (h : G.payload? doc = F.payload? doc) (hlock : F.isLocked doc = true) :
    G.isLocked doc = true := by
  rw [isLocked_iff, h]
  exact isLocked_iff.1 hlock

theorem isLocked_of_get? (h : G.get? doc = F.get? doc) (hlock : F.isLocked doc = true) :
    G.isLocked doc = true :=
  isLocked_of_payload? (congrArg (Option.map Node.payload) h) hlock

theorem type?_of_isLocked (h : F.isLocked doc = true) : F.type? doc = some .document := by
  obtain ⟨declaration, hp⟩ := isLocked_iff.1 h
  rw [type?, hp]
  rfl

/-- A node that takes changes is neither a locked document nor belongs to one. -/
theorem ne_of_isReadOnly {id : NodeId} (hlock : F.isLocked doc = true)
    (h : F.isReadOnly id = false) : id ≠ doc ∧ F.owner? id ≠ some doc := by
  rw [isReadOnly_eq_isLocked, Bool.or_eq_false_iff] at h
  constructor
  · rintro rfl
    exact absurd hlock (by rw [h.1]; exact Bool.false_ne_true)
  · intro ho
    rw [ho, Option.any_some, hlock] at h
    exact absurd h.2 (by decide)

/-- Nor is such a document its home. -/
theorem home?_ne_of_isReadOnly {id : NodeId} (hlock : F.isLocked doc = true)
    (h : F.isReadOnly id = false) : F.home? id ≠ some doc := by
  obtain ⟨hne, ho⟩ := ne_of_isReadOnly hlock h
  rw [home?]
  split
  · exact fun he => hne (Option.some.inj he)
  · exact ho

/-- New nodes leave the others as they are. -/
theorem spares_of_get? (hlock : F.isLocked doc = true) (h : ∀ i < F.size, G.get? i = F.get? i) :
    F.Spares G doc := by
  have hdoc : G.get? doc = F.get? doc := h doc (lt_size_of_type? (type?_of_isLocked hlock))
  refine ⟨fun {id} ho => h id ?_, by rw [children, hdoc, ← children], isLocked_of_get? hdoc hlock⟩
  exact lt_size_of_isSome_type? (isSome_type?_of_owner? ho)

/-- The children of a node that takes changes are others, and so is the parent of a node that does
not belong to the document. -/
theorem spares_relinked {parent child : NodeId} (hlock : F.isLocked doc = true)
    (hp : F.isReadOnly parent = false) (hc : F.owner? child ≠ some doc) (hps : parent < F.size)
    (hcs : child < F.size) (list : List NodeId) (link : Option NodeId) :
    F.Spares ((F.setChildren parent list).setParent child link) doc := by
  obtain ⟨hne, ho⟩ := ne_of_isReadOnly hlock hp
  obtain ⟨hpay, -, -, hch⟩ := relinked hps hcs list link
  refine ⟨fun {id} hid => get?_relinked ?_ ?_ list link, ?_, ?_⟩
  · rintro rfl
    exact ho hid
  · rintro rfl
    exact hc hid
  · rw [hch, if_neg (Ne.symm hne)]
  · exact isLocked_of_payload? (hpay doc) hlock

/-- What is meant for documents does nothing to other nodes. -/
theorem get?_modify_of_type?_ne {d : NodeId} {f : Node → Node}
    (hf : ∀ node, node.payload.type ≠ .document → f node = node)
    (h : F.type? d ≠ some .document) (id : NodeId) : (F.modify d f).get? id = F.get? id := by
  rw [get?_modify]
  split
  · rename_i he
    subst he
    cases hn : F.get? d with
    | none => rfl
    | some node =>
        have ht : node.payload.type ≠ .document := fun ht => h (type?_eq_some_iff.2 ⟨node, hn, ht⟩)
        rw [Option.map_some, hf node ht]
  · rfl

/-- A document that is changed stays locked if the change leaves its lock. -/
theorem isLocked_modify {d : NodeId} {f : Node → Node} (hlock : F.isLocked doc = true)
    (hf : d = doc → ∀ node declaration, node.payload = .document declaration true →
      ∃ other, (f node).payload = .document other true) : (F.modify d f).isLocked doc = true := by
  obtain ⟨declaration, hp⟩ := isLocked_iff.1 hlock
  obtain ⟨node, hn, hnode⟩ := Option.map_eq_some_iff.1 hp
  rw [isLocked_iff, payload?, get?_modify, hn]
  split
  · rename_i hd
    obtain ⟨other, ho⟩ := hf hd node declaration hnode
    exact ⟨other, by rw [Option.map_some, Option.map_some, ho]⟩
  · exact ⟨declaration, by rw [Option.map_some, hnode]⟩

end Locks

namespace HasBorder

/-- What belongs to a document refuses changes exactly if the document is locked. -/
theorem isReadOnly_eq {F : Forest} {doc id : NodeId} (hF : F.HasBorder doc)
    (h : F.owner? id = some doc) : F.isReadOnly id = F.isLocked doc := by
  rw [isReadOnly_eq_isLocked, h, Option.any_some]
  cases hid : F.isLocked id with
  | false => rfl
  | true =>
      rw [hF.owner_of_document (type?_of_isLocked hid)] at h
      cases h

variable {F G : Forest} {doc : NodeId} (hF : F.HasBorder doc) (hlock : F.isLocked doc = true)
include hF hlock

theorem spares_removeChild {parent child : NodeId} (h : F.removeChild parent child = .ok G) :
    F.Spares G doc := by
  obtain ⟨hcon, hw, hm, rfl⟩ := removeChild_eq_ok_iff.1 h
  have hc : F.owner? child ≠ some doc := fun ho =>
    home?_ne_of_isReadOnly hlock hw ((hF.owner_iff_of_mem hm).1 ho)
  exact spares_relinked hlock hw hc
    ((type?_of_isContainer hcon).elim lt_size_of_type? lt_size_of_type?)
    (lt_size_of_isSome_type? (hF.exists_of_mem hm)) _ _

theorem spares_detach {child : NodeId} (h : F.detach child = .ok G) : F.Spares G doc := by
  rcases detach_cases h with ⟨-, rfl⟩ | ⟨parent, -, h⟩
  · exact .refl hlock
  · exact hF.spares_removeChild hlock h

theorem spares_insertBefore {parent child : NodeId} {before : Option NodeId}
    (h : F.insertBefore parent child before = .ok G) : F.Spares G doc := by
  rcases insertBefore_cases h with rfl | ⟨-, D, hD, hcheck, rfl⟩
  · exact .refl hlock
  · have hspares := hF.spares_detach hlock hD
    have hborder := hF.detach hD
    obtain ⟨hw, hm, -, hs, -⟩ := checkInsertion_eq_ok_iff.1 hcheck
    obtain ⟨s, t, hp, hc, -⟩ := exists_type?_of_mayHold hm
    refine hspares.trans (spares_relinked hspares.isLocked hw (fun ho => ?_)
      (lt_size_of_type? hp) (lt_size_of_type? hc) _ _)
    -- A node that may be put below the parent belongs to the home of the parent.
    refine home?_ne_of_isReadOnly hspares.isLocked hw ?_
    rw [home?, ← owner_of_sharesDocument hs, ho]

omit hlock in
/-- What is meant for documents does nothing to what belongs to them. -/
theorem spares_modify {d : NodeId} {f : Node → Node}
    (hf : ∀ node, node.payload.type ≠ .document → f node = node)
    (h : F.Rewrites (F.modify d f) d) (hG : (F.modify d f).isLocked doc = true) :
    F.Spares (F.modify d f) doc := by
  refine ⟨fun {id} ho => ?_, h.sameLinks.children doc, hG⟩
  by_cases hid : id = d
  · subst hid
    refine get?_modify_of_type?_ne hf (fun ht => ?_) id
    rw [hF.owner_of_document ht] at ho
    cases ho
  · exact h.get?_of_ne id hid

/-- Nothing that a call can do changes what belongs to a locked document. -/
theorem spares_effect (h : F.Effect G) : F.Spares G doc := by
  cases h with
  | same h =>
      exact ⟨fun _ => h _, by rw [children, h, ← children], isLocked_of_get? (h doc) hlock⟩
  | brings node h =>
      exact spares_of_get? hlock fun i hi => by rw [h.get?, if_neg (Nat.ne_of_lt hi)]
  | rewrites id hw h =>
      obtain ⟨hne, ho⟩ := ne_of_isReadOnly hlock hw
      refine ⟨fun {other} hother => h.get?_of_ne other ?_, h.sameLinks.children doc,
        isLocked_of_get? (h.get?_of_ne doc (Ne.symm hne)) hlock⟩
      rintro rfl
      exact ho hother
  | tells d declaration h =>
      subst h
      refine hF.spares_modify (fun node ht => ?_) (F.rewrites_setDeclaration d declaration) ?_
      · split
        · rename_i hp
          exact absurd (by rw [hp]; rfl) ht
        · rfl
      · refine isLocked_modify hlock fun _ node old hp => ⟨declaration, ?_⟩
        rw [hp]
  | removes parent child h => exact hF.spares_removeChild hlock h
  | inserts parent child before h => exact hF.spares_insertBefore hlock h

/-- No call changes what belongs to a locked document, unless it unlocks the document. -/
theorem spares_step {change : Change} (h : change ≠ .setReadOnly doc false) :
    F.Spares (F.step change) doc := by
  rw [Forest.step]
  cases happly : change.apply F with
  | error fault => exact .refl hlock
  | ok G =>
      rcases effect_of_apply happly with ⟨d, readOnly, rfl, rfl⟩ | heffect
      · refine hF.spares_modify (fun node ht => ?_) (F.rewrites_setReadOnly d readOnly)
          (isLocked_modify hlock fun hd node old hp => ⟨old, ?_⟩)
        · split
          · rename_i hp
            exact absurd (by rw [hp]; rfl) ht
          · rfl
        · subst hd
          cases readOnly with
          | true => rw [hp]
          | false => exact absurd rfl h
      · exact hF.spares_effect hlock heffect

end HasBorder

/-! ### The tree below the document -/

section Tree

variable {F G : Forest} {doc : NodeId} (hF : F.HasBorder doc) (hlock : F.isLocked doc = true)
  (h : F.Spares G doc)
include hF hlock h

/-- What stands below the document is the same, and the nodes there are the same. -/
theorem Spares.get?_of_below {id : NodeId} (hid : F.Below doc id) :
    G.children id = F.children id ∧ (id ≠ doc → G.get? id = F.get? id) := by
  have hhome := hF.home?_of_below (type?_of_isLocked hlock) hid
  rw [home?] at hhome
  split at hhome
  · obtain rfl := Option.some.inj hhome
    exact ⟨h.children_eq, fun hne => absurd rfl hne⟩
  · have hget := h.get?_eq hhome
    exact ⟨by rw [children, hget, ← children], fun _ => hget⟩

theorem Spares.below_iff {id : NodeId} : G.Below doc id ↔ F.Below doc id := by
  constructor
  · intro hid
    induction hid with
    | refl => exact .refl
    | child _ hc ih => exact ih.child ((h.get?_of_below hF hlock ih).1 ▸ hc)
  · intro hid
    induction hid with
    | refl => exact .refl
    | child hp hc ih => exact ih.child ((h.get?_of_below hF hlock hp).1.symm ▸ hc)

omit hlock in
/-- The items that nodes below the document form are the same, down to any level. -/
theorem Spares.toItemFrom_eq (fuel : Nat) {id : NodeId} (hid : F.owner? id = some doc) :
    G.toItemFrom fuel id = F.toItemFrom fuel id := by
  induction fuel generalizing id with
  | zero => rfl
  | succ fuel ih =>
      rw [toItemFrom, toItemFrom, h.get?_eq hid]
      cases hn : F.get? id with
      | none => rfl
      | some node =>
          have hchildren : node.children.filterMap (G.toItemFrom fuel) =
              node.children.filterMap (F.toItemFrom fuel) := by
            refine List.filterMap_congr fun c hc => ih ?_
            exact (hF.owner_iff_of_mem (mem_children_iff.2 ⟨node, hn, hc⟩)).2 (hF.home?_of_owner? hid)
          cases hp : node.payload with
          | element name cells => simp only [hchildren, hp]
          | _ => simp only [hp]

end Tree

end Forest

end XmlScribe
