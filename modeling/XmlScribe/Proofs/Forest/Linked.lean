/-
**The links after any calls.**

Whatever a call does to the nodes, the links agree afterwards if they did before.  So they agree
whatever calls are made, in whatever order and on whatever nodes.

Main results:

* `Forest.IsWellLinked.of_effect` — the things that a call can do keep the links agreeing;
* `Forest.IsWellLinked.step`, `Forest.IsWellLinked.run` — so does a call, and so do any calls;
* `Forest.links_run` — the links after any calls that begin with nothing.
-/

import Mathlib.Data.List.Count
import XmlScribe.Proofs.Forest.Effect

set_option autoImplicit false

namespace XmlScribe

namespace Forest

namespace IsWellLinked

variable {F G : Forest} (hF : F.IsWellLinked)
include hF

/-! ### Calls -/

/-- The things that a call can do keep the links agreeing. -/
theorem of_effect (h : F.Effect G) : G.IsWellLinked := by
  cases h with
  | same h => exact hF.sameLinks (sameLinks_of_get? h)
  | brings node h => exact hF.brings h
  | rewrites id _ h => exact hF.sameLinks h.sameLinks
  | tells doc declaration h =>
      exact h ▸ hF.sameLinks (F.rewrites_setDeclaration doc declaration).sameLinks
  | removes parent child h => exact (hF.removeChild h).1
  | inserts parent child before h => exact (hF.insertBefore h).1

/-- A call that is not refused keeps the links agreeing. -/
theorem apply {change : Change} (h : change.apply F = .ok G) : G.IsWellLinked := by
  rcases effect_of_apply h with ⟨doc, readOnly, -, rfl⟩ | he
  · exact hF.sameLinks (F.rewrites_setReadOnly doc readOnly).sameLinks
  · exact hF.of_effect he

/-- A call keeps the links agreeing, whether it is refused or not. -/
theorem step (change : Change) : (F.step change).IsWellLinked := by
  rw [Forest.step]
  cases h : change.apply F with
  | ok G => exact hF.apply h
  | error fault => exact hF

/-- Any calls keep the links agreeing. -/
theorem run (changes : List Change) : (F.run changes).IsWellLinked := by
  induction changes generalizing F with
  | nil => exact hF
  | cons change changes ih => exact ih (hF.step change)

/-! ### The links, counted -/

/-- A node occurs once among the children of its parent and nowhere else. -/
theorem count_children (p c : NodeId) :
    (F.children p).count c = if F.parent? c = some p then 1 else 0 := by
  split
  · rename_i h
    exact List.count_eq_one_of_mem (hF.nodup_children p) (hF.mem_children_iff.2 h)
  · rename_i h
    exact List.count_eq_zero.2 fun hm => h (hF.mem_children_iff.1 hm)

/-- A document has no two children of a kind that it may have only once. -/
theorem countP_children_le_one {doc : NodeId} (hdoc : F.type? doc = some .document)
    {t : NodeType} (ht : t.isUniqueInDocument = true) :
    (F.children doc).countP (F.type? · == some t) ≤ 1 := by
  rw [List.countP_eq_length_filter]
  refine Nat.le_of_not_lt fun hlt => ?_
  have hnodup := (hF.nodup_children doc).filter (F.type? · == some t)
  cases hl : (F.children doc).filter (F.type? · == some t) with
  | nil => simp [hl] at hlt
  | cons c rest =>
      cases rest with
      | nil => simp [hl] at hlt
      | cons c' rest =>
          -- two children of the kind would be one
          have hmem : ∀ x, x = c ∨ x = c' → x ∈ F.children doc ∧ F.type? x = some t := by
            intro x hx
            have hin : x ∈ (F.children doc).filter (F.type? · == some t) := by
              rw [hl]
              rcases hx with rfl | rfl <;> simp
            simpa using hin
          have he := hF.eq_of_isUniqueInDocument hdoc (hmem c (Or.inl rfl)).1
            (hmem c' (Or.inr rfl)).1 ht (hmem c (Or.inl rfl)).2 (hmem c' (Or.inr rfl)).2
          rw [hl, he] at hnodup
          simp at hnodup

end IsWellLinked

/-- **The links after any calls.**  A node occurs once among the children of its parent and nowhere
else, no node stands above itself, every child is of a kind that may stand there, a document has one
element and one document type at most, and every child belongs to the document that its parent is
or belongs to. -/
theorem links_run (changes : List Change) :
    let F := empty.run changes
    (∀ p c, (F.children p).count c = if F.parent? c = some p then 1 else 0) ∧
      (∀ id, ¬ F.IsAbove id id) ∧
      (∀ p c, F.parent? c = some p → F.mayHold p c = true) ∧
      (∀ doc, F.type? doc = some .document →
        (F.children doc).countP (F.type? · == some .element) ≤ 1 ∧
          (F.children doc).countP (F.type? · == some .doctype) ≤ 1) ∧
      ∀ p c, F.parent? c = some p →
        F.owner? c = if F.type? p = some .document then some p else F.owner? p := by
  have hF := isWellLinked_empty.run changes
  refine ⟨hF.count_children, hF.not_isAbove_self, fun p c h => ?_, fun doc hdoc => ⟨?_, ?_⟩,
    fun p c h => ?_⟩
  · exact hF.mayHold_of_mem (hF.mem_children_iff.2 h)
  · exact hF.countP_children_le_one hdoc rfl
  · exact hF.countP_children_le_one hdoc rfl
  · exact hF.owner_of_mem (hF.mem_children_iff.2 h)

end Forest

end XmlScribe
