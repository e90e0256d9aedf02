/-
**Insertions in every forest that can arise.**

A program makes calls of all kinds, and what it does not hold any more vanishes: a node stays only
as long as it, or a node above it, is held.  Nobody can name a node that has vanished.  In every
forest that can arise in this way the links of what is left agree, and so an insertion does exactly
what it is meant to do, or nothing.

Main definitions:

* `Forest.Arises` — the forests that can arise, and the nodes that have vanished.

Main results:

* `Forest.Arises.linksAgree` — the links of what is left agree;
* `Forest.Arises.not_gone_of_link` — they lead to nothing that has vanished;
* `Forest.Arises.insertBefore_atomic` — an insertion is exact, and atomic.
-/

import XmlScribe.Proofs.Forest.InPlace
import XmlScribe.Proofs.Writer.Calls

set_option autoImplicit false

namespace XmlScribe

namespace Forest

/-- The forests that can arise by calls and by vanishing, where `gone` are the nodes that have
vanished.  What a call changes names no node that has vanished. -/
inductive Arises : Forest → (gone : NodeId → Prop) → Prop where
  /-- There is nothing at the beginning. -/
  | empty : Arises empty fun _ => False
  /-- A call is made. -/
  | call {F : Forest} {gone : NodeId → Prop} (hF : Arises F gone) (call : Call)
      (h : ∀ change ∈ call.changes, ∀ id ∈ change.nodes, ¬ gone id) : Arises (call.apply F) gone
  /-- What is neither held nor below a node that is held vanishes. -/
  | vanish {F : Forest} {gone : NodeId → Prop} (hF : Arises F gone) (held : List NodeId)
      (h : ∀ id ∈ held, ¬ gone id) : Arises (F.retain held) fun id =>
        gone id ∨ (F.type? id).isSome = true ∧ id ∉ held.flatMap F.preorder

/-- As long as nothing has vanished, any changes can be made. -/
theorem Arises.run {F : Forest} (hF : F.Arises fun _ => False) (changes : List Change) :
    (F.run changes).Arises fun _ => False := by
  induction changes generalizing F with
  | nil => exact hF
  | cons change changes ih => exact ih (hF.call (.change change) fun _ _ _ _ => id)

/-- Whatever has been called and whatever has vanished, the links of what is left agree. -/
theorem Arises.linksAgree {F : Forest} {gone : NodeId → Prop} (h : F.Arises gone) :
    F.LinksAgree gone := by
  induction h with
  | empty => exact linksAgree_empty
  | @call F gone _ call hcall ih =>
      exact call.apply_keeps (I := (·.LinksAgree gone)) (fun hF hG => hF.alters (alters_of_declare hG))
        (fun hF _ => hF.plant _) (fun change hc hF => hF.step (hcall change hc)) ih
  | vanish _ _ hheld ih => exact ih.retain hheld

/-- Nobody comes from a node that is left to one that has vanished, neither down nor up. -/
theorem Arises.not_gone_of_link {F : Forest} {gone : NodeId → Prop} (hF : F.Arises gone)
    {id other : NodeId} (hid : ¬ gone id)
    (hlink : other ∈ F.children id ∨ F.parent? id = some other) : ¬ gone other := by
  rcases hlink with hmem | hpar
  · exact hF.linksAgree.not_gone_of_mem hid hmem
  · exact hF.linksAgree.not_gone_of_parent hpar

/-- **An insertion is exact and atomic.**  Let a forest arise by any calls and by any vanishing, and
let a node that has not vanished be asked to take a child.  Step by step on a forest that is kept,
the insertion comes to what it is on values.  If it fails, the forest is as it was.  If it succeeds,
and the node is not to stand before itself, the node has come to its place and everything else is
as it was; if it is to stand before itself, nothing has changed.  The check that is made after the
node has been taken from where it stood never fails. -/
theorem Arises.insertBefore_atomic {F : Forest} {gone : NodeId → Prop} (hF : F.Arises gone)
    {parent : NodeId} (hparent : ¬ gone parent) (child : NodeId) (before : Option NodeId) :
    let result := (Edit.insertBefore parent child before).run.run F
    result = Edit.outcome F (F.insertBefore parent child before) ∧
      (∀ fault, result.1 = .error fault → result.2 = F) ∧
      (result.1 = .ok () → before ≠ some child → F.Moves result.2 parent child before) ∧
      (before = some child → result.2 = F) ∧
      ∀ D, before ≠ some child → F.checkInsertion parent child before = .ok () →
        F.detach child = .ok D → D.checkInsertion parent child before = .ok () := by
  intro result
  have hresult : result = Edit.outcome F (F.insertBefore parent child before) :=
    Edit.run_insertBefore parent child before F
  refine ⟨hresult, ?fails, ?succeeds, ?itself, fun D hne hcheck hD =>
    checkInsertion_of_detach hne hcheck hD⟩
  case fails =>
    intro fault hfault
    rw [hresult] at hfault ⊢
    exact Edit.outcome_of_error hfault
  case succeeds =>
    intro hok hne
    rw [hresult] at hok ⊢
    exact hF.linksAgree.moves_of_insertBefore hparent hne (Edit.eq_ok_of_outcome hok)
  case itself =>
    intro hself
    rw [hresult, Forest.insertBefore, if_pos hself]
    split
    · rfl
    · rfl

/-- A document with an element that holds an element with a comment in it, and a text behind that.
Another element has been made, and is not put anywhere. -/
def treeAndStray : Forest :=
  empty.run [.addDocument, .createElement 0 ['r'], .appendChild 0 1, .createElement 0 ['a'],
    .createText 0 ['t'], .createComment 0 ['c'], .appendChild 1 2, .appendChild 1 3,
    .appendChild 2 4, .createElement 0 ['x']]

/-- Only the document is held, so the other element vanishes.  Then the comment moves from where it
stands to the place in front of the text. -/
theorem insertBefore_atomic_moved :
    let F := treeAndStray.retain [0]
    let gone := fun id =>
      (treeAndStray.type? id).isSome = true ∧ id ∉ [0].flatMap treeAndStray.preorder
    let result := (Edit.insertBefore 1 4 (some 3)).run.run F
    F.Arises gone ∧ gone 5 ∧ ¬ gone 1 ∧ result.1 = .ok () ∧ F.Moves result.2 1 4 (some 3) ∧
      result.2.children 1 = [2, 4, 3] ∧ result.2.children 2 = [] := by
  intro F gone result
  have hgrown : treeAndStray.Arises fun _ => False := Arises.empty.run _
  have hF : F.Arises gone := by
    simpa only [false_or] using hgrown.vanish [0] fun _ _ => id
  have hleft : ¬ gone 1 := by decide +kernel
  obtain ⟨-, -, hmoves, -⟩ := hF.insertBefore_atomic hleft 4 (some 3)
  have hok : result.1 = .ok () := by decide +kernel
  exact ⟨hF, by decide +kernel, hleft, hok, hmoves hok (by decide), by decide +kernel,
    by decide +kernel⟩

end Forest

end XmlScribe
