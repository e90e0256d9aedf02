/-
**Completion that is refused.**

Completion goes from element to element and adds declarations as it goes, so it could be refused
halfway.  It is not: the elements below one that belongs to a document belong to it too, names that
calls have made can all be declared, and what is left to refuse a declaration is the lock of the
document, which refuses the first as it refuses the last.

Main definitions:

* `Forest.IsPlace` — the nodes that declarations may be added to;
* `Forest.IsOpen` — an element that takes declarations.

Main results:

* `Forest.ensureElements_of_isReadOnly` — where all places refuse changes nothing is changed;
* `Forest.exists_ensureElements` — where all are open completion is not refused;
* `Forest.HasBorder.eq_of_ensureDeclared` — completion that is refused has changed nothing.
-/

import XmlScribe.Proofs.Forest.Proper
import XmlScribe.Proofs.Forest.Spared
import XmlScribe.Proofs.Namespace.Added

set_option autoImplicit false

namespace XmlScribe

namespace Forest

variable {F G : Forest} {target : Option NodeId}

/-- Declarations for these elements may be added to the node. -/
def IsPlace (target : Option NodeId) (elements : List NodeId) (id : NodeId) : Prop :=
  id ∈ elements ∨ target = some id

theorem isPlace_placeOf (F : Forest) (target : Option NodeId) (element : NodeId) (b : Binding) :
    IsPlace target [element] (F.placeOf target element b) := by
  unfold placeOf
  split
  · split
    · exact Or.inr rfl
    · exact Or.inl (List.mem_singleton_self element)
  · exact Or.inl (List.mem_singleton_self element)

theorem IsPlace.of_head {element : NodeId} (elements : List NodeId) {id : NodeId}
    (h : IsPlace target [element] id) : IsPlace target (element :: elements) id :=
  h.imp_left fun hid => by rw [List.mem_singleton.1 hid]; exact List.mem_cons_self

theorem IsPlace.of_tail (element : NodeId) {elements : List NodeId} {id : NodeId}
    (h : IsPlace target elements id) : IsPlace target (element :: elements) id :=
  h.imp_left (List.mem_cons_of_mem element)

/-! ### Places that refuse changes -/

/-- Where changes are refused a declaration changes nothing, even if it is not needed. -/
theorem eq_of_declare_of_isReadOnly {id : NodeId} {b : Binding} (h : F.isReadOnly id = true)
    (hG : F.declare id b = .ok G) : G = F := by
  rw [declare] at hG
  split at hG
  · exact (Except.ok.inj hG).symm
  · obtain ⟨q, -, hput⟩ := Outcome.bind_eq_ok_iff.1 hG
    rw [putAttribute, if_pos h] at hput
    cases hput

theorem ensureBindings_of_isReadOnly {element : NodeId}
    (h : ∀ id, IsPlace target [element] id → F.isReadOnly id = true) (bindings : List Binding) :
    (F.ensureBindings target element bindings).1 = F := by
  induction bindings with
  | nil => rfl
  | cons b bindings ih =>
      rw [ensureBindings]
      split
      · exact ih
      · split
        · rfl
        · rename_i G hG
          obtain rfl := eq_of_declare_of_isReadOnly (h _ (isPlace_placeOf F target element b)) hG
          exact ih

/-- Where all places refuse changes, nothing is changed. -/
theorem ensureElements_of_isReadOnly {elements : List NodeId}
    (h : ∀ id, IsPlace target elements id → F.isReadOnly id = true) :
    (F.ensureElements target elements).1 = F := by
  induction elements with
  | nil => rfl
  | cons element elements ih =>
      have hone := ensureBindings_of_isReadOnly (fun id hid => h id (hid.of_head elements))
        (F.scope element).undeclared
      rw [ensureElements]
      split
      · rename_i G fault hG
        rwa [hG] at hone
      · rename_i G n hG
        rw [hG] at hone
        obtain rfl : G = F := hone
        exact ih fun id hid => h id (hid.of_tail element)

/-! ### Places that are open -/

/-- An element that takes declarations. -/
structure IsOpen (F : Forest) (id : NodeId) : Prop where
  /-- It is an element. -/
  isElement : F.isElement id = true
  /-- It takes changes. -/
  isReadOnly : F.isReadOnly id = false
  /-- It belongs to a document. -/
  owner : (F.owner? id).isSome = true

theorem Redeclares.isOpen (h : F.Redeclares G) {id : NodeId} (hid : F.IsOpen id) : G.IsOpen id :=
  ⟨(h.same.isElement_eq id).trans hid.isElement, (h.same.isReadOnly_eq id).trans hid.isReadOnly,
    by rw [h.same.owner?_eq, hid.owner]⟩

theorem exists_ensureBindings {element : NodeId}
    (h : ∀ id, IsPlace target [element] id → F.IsOpen id) {bindings : List Binding}
    (hb : ∀ b ∈ bindings, QName.ofText (some xmlnsUri) b.declarationName = .ok b.declaredName) :
    ∃ G n, F.ensureBindings target element bindings = (G, .ok n) := by
  induction bindings generalizing F with
  | nil => exact ⟨F, 0, rfl⟩
  | cons b bindings ih =>
      have htail := fun c hc => hb c (List.mem_cons_of_mem b hc)
      rw [ensureBindings]
      split
      · exact ih h htail
      · rename_i hdeclares
        have himp : b.isImplicit = false := by
          by_contra hc
          exact hdeclares (Scope.declares_implicit _ (by simpa using hc))
        have hplace := h _ (isPlace_placeOf F target element b)
        have hdeclare := declare_eq_ok himp (hb b List.mem_cons_self) hplace.isReadOnly hplace.owner
        obtain ⟨H, n, hH⟩ := ih
          (fun id hid => ((Redeclares.refl F).declare hdeclare).isOpen (h id hid)) htail
        rw [hdeclare]
        exact ⟨H, n + 1, by simp only [hH]; rfl⟩

/-- Where all places are open, completion is not refused. -/
theorem exists_ensureElements {elements : List NodeId} (hF : F.Carries Payload.IsProper)
    (h : ∀ id, IsPlace target elements id → F.IsOpen id) :
    ∃ G n, F.ensureElements target elements = (G, .ok n) := by
  induction elements generalizing F with
  | nil => exact ⟨F, 0, rfl⟩
  | cons element elements ih =>
      have helement := (h element (Or.inl List.mem_cons_self)).isElement
      have hbindings : ∀ b ∈ (F.scope element).undeclared,
          QName.ofText (some xmlnsUri) b.declarationName = .ok b.declaredName := by
        intro b hb
        obtain ⟨f, hf⟩ := exists_frame_of_isElement helement
        have hmem := ((mem_undeclared helement).1 hb).1
        rw [bindingsAt, hf] at hmem
        exact Frame.declarable_of_mem_bindings (isProper_of_frame? hF hf) hmem
      obtain ⟨G, m, hG⟩ := exists_ensureBindings (fun id hid => h id (hid.of_head elements)) hbindings
      -- the declarations for the first element leave the places of the others open
      obtain ⟨hre, hproper⟩ : F.Redeclares G ∧ G.Carries Payload.IsProper := by
        have hkept := ensureBindings_invariant
          (I := fun H => F.Redeclares H ∧ H.Carries Payload.IsProper)
          (fun hI hH => ⟨hI.1.declare hH, Carries.declare Payload.isKept_isProper hI.2 hH⟩) target element
          (F.scope element).undeclared ⟨.refl F, hF⟩
        rwa [hG] at hkept
      obtain ⟨H, n, hH⟩ := ih hproper fun id hid => hre.isOpen (h id (hid.of_tail element))
      exact ⟨H, m + n, by simp only [ensureElements, hG, hH]; rfl⟩

/-! ### Completion -/

theorem HasBorder.owner?_of_below {doc id d : NodeId} (hF : F.HasBorder doc)
    (hid : F.owner? id = some doc) (h : F.Below id d) : F.owner? d = some doc := by
  induction h with
  | refl => exact hid
  | child _ hc ih => exact (hF.owner_iff_of_mem hc).2 (hF.home?_of_owner? ih)

section Completion

variable {doc element : NodeId} (hF : F.HasBorder doc) (helement : F.owner? element = some doc)
include hF helement

/-- Completion that is refused has changed nothing. -/
theorem HasBorder.eq_of_ensureDeclared (hproper : F.Carries Payload.IsProper)
    (he : F.isElement element = true) (ht : target = none ∨ target = some element)
    {fault : TreeFault} (h : F.ensureDeclared element target true = (G, .error fault)) : G = F := by
  have hplace : ∀ id, IsPlace target (F.elementsFrom element) id →
      F.owner? id = some doc ∧ F.isElement id = true := by
    rintro id (hid | hid)
    · obtain ⟨hid, hide⟩ := List.mem_filter.1 hid
      exact ⟨hF.owner?_of_below helement (below_of_mem_preorderFrom .refl hid), hide⟩
    · obtain rfl : id = element := by simpa [hid] using ht
      exact ⟨helement, he⟩
  have hlocked : ∀ id, IsPlace target (F.elementsFrom element) id →
      F.isReadOnly id = F.isLocked doc := fun id hid => hF.isReadOnly_eq (hplace id hid).1
  rw [ensureDeclared, if_pos rfl] at h
  -- all places have the lock of the document, so all of them refuse, or none does
  cases hlock : F.isLocked doc with
  | true =>
      have hkept := ensureElements_of_isReadOnly fun id hid => (hlocked id hid).trans hlock
      rwa [h] at hkept
  | false =>
      obtain ⟨H, n, hH⟩ := exists_ensureElements hproper fun id hid =>
        ⟨(hplace id hid).2, (hlocked id hid).trans hlock, by rw [(hplace id hid).1]; rfl⟩
      rw [hH] at h
      cases h

end Completion

end Forest

end XmlScribe
