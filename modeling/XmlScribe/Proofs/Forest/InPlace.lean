/-
**Insertions in place.**

An insertion is a chain of steps on one forest: a check, another one, the removal of the node from
where it stands, the check again, and two links.  If a step fails, the steps before it have been made
all the same.  Here the steps are made one by one on a forest that is kept; it turns out that none
can fail after the first one that changes anything.

Main definitions:

* `Edit` — steps on a forest that is kept when one of them fails;
* `Edit.insertBefore` — an insertion, step by step;
* `Forest.Moves` — a node has been put somewhere, and everything else is as it was.

Main results:

* `Edit.run_insertBefore` — an insertion in place succeeds like the one on values, and keeps the
  forest as it was if it fails;
* `Forest.LinksAgree.moves_of_insertBefore` — what an insertion does.
-/

import Mathlib.Data.List.TakeWhile
import XmlScribe.Proofs.Forest.Vanished

set_option autoImplicit false

namespace XmlScribe

namespace Forest

/-! ### What an insertion does -/

/-- A list with one more member, in front of `before` or at the end. -/
theorem exists_place_eq {child : NodeId} {before : Option NodeId} {list : List NodeId}
    (h : ∀ b, before = some b → b ∈ list) :
    ∃ l r, list = l ++ r ∧ place child before list = l ++ child :: r ∧
      (before = none → r = []) ∧ ∀ b, before = some b → r.head? = some b := by
  cases before with
  | none => exact ⟨list, [], (List.append_nil list).symm, rfl, fun _ => rfl, nofun⟩
  | some b =>
      refine ⟨list.takeWhile (· != b), list.dropWhile (· != b),
        List.takeWhile_append_dropWhile.symm, rfl, nofun, ?_⟩
      rintro _ ⟨⟩
      have hnonempty : list.dropWhile (· != b) ≠ [] := by
        intro hnil
        have hall := List.dropWhile_eq_nil_iff.1 hnil b (h b rfl)
        simp at hall
      obtain ⟨c, rest, hc⟩ := List.exists_cons_of_ne_nil hnonempty
      have hstop := List.head?_dropWhile_not (· != b) list
      rw [hc] at hstop ⊢
      have hcb : c = b := by simpa using hstop
      rw [hcb]
      rfl

/-- The node `child` has come below `parent`, in front of `before` or at the end, and everything else
is as it was. -/
structure Moves (F G : Forest) (parent child : NodeId) (before : Option NodeId) : Prop where
  /-- The children of the parent are the others and the new one, which stands immediately in front of
  the one that is named, or at the end. -/
  placed : ∃ l r, (F.children parent).filter (· != child) = l ++ r ∧
    G.children parent = l ++ child :: r ∧ (before = none → r = []) ∧
      ∀ b, before = some b → r.head? = some b
  /-- The parent from before, if it is another one, has lost exactly this child. -/
  taken : ∀ q, F.parent? child = some q → q ≠ parent → ∃ l r, F.children q = l ++ child :: r ∧
    child ∉ l ++ r ∧ G.children q = l ++ r
  /-- The node has this parent. -/
  parent_child : G.parent? child = some parent
  /-- The other nodes have theirs. -/
  parent_of_ne : ∀ c, c ≠ child → G.parent? c = F.parent? c
  /-- The other nodes have the same children. -/
  children_of_ne : ∀ p, p ≠ parent → F.parent? child ≠ some p → G.children p = F.children p
  /-- The other children stand in the same order everywhere. -/
  order : ∀ p, (G.children p).filter (· != child) = (F.children p).filter (· != child)
  /-- The nodes carry what they carried. -/
  payload? : ∀ id, G.payload? id = F.payload? id
  /-- They belong to the same documents. -/
  owner? : ∀ id, G.owner? id = F.owner? id

/-- What an insertion does, unless a node is to stand before itself. -/
theorem LinksAgree.moves_of_insertBefore {F G : Forest} {gone : NodeId → Prop}
    (hF : F.LinksAgree gone) {parent child : NodeId} {before : Option NodeId}
    (hparent : ¬ gone parent) (hne : before ≠ some child)
    (h : F.insertBefore parent child before = .ok G) : F.Moves G parent child before := by
  obtain ⟨-, -, -, D, hD, hcheck, rfl⟩ := (insertBefore_eq_ok_iff hne).1 h
  obtain ⟨hpay, hown, hpar, hch, -⟩ := of_detach_eq_ok hD
  obtain ⟨-, hm, -, -, hb⟩ := checkInsertion_eq_ok_iff.1 hcheck
  obtain ⟨_, _, hp, hc, -⟩ := exists_type?_of_mayHold hm
  obtain ⟨hpay', hown', hpar', hch'⟩ := relinked (lt_size_of_type? hp) (lt_size_of_type? hc)
    (place child before (D.children parent)) (some parent)
  -- the parent lists the node only if it is its parent already
  have hothers : D.children parent = (F.children parent).filter (· != child) := by
    rw [hch]
    split
    · exact (hF.nodup_children hparent).erase_eq_filter child
    · rename_i hnot
      refine (List.filter_eq_self.2 fun c hmem => ?_).symm
      have hcc : c ≠ child := by
        rintro rfl
        exact hnot (hF.parent_of_mem hparent hmem)
      simpa using hcc
  obtain ⟨l, r, hlr, hplace, hnone, hsome⟩ := exists_place_eq hb
  have htaken : ∀ q, F.parent? child = some q → ∃ l r, F.children q = l ++ child :: r ∧
      child ∉ l ++ r ∧ (F.children q).erase child = l ++ r := by
    intro q hq
    obtain ⟨l, r, hl, hmem, herase⟩ := List.exists_erase_eq (hF.mem_of_parent hq)
    have hnodup := hF.nodup_children (hF.not_gone_of_parent hq)
    exact ⟨l, r, hmem, herase ▸ hnodup.not_mem_erase, herase⟩
  exact {
    placed := ⟨l, r, hothers ▸ hlr, by rw [hch', if_pos rfl, hplace], hnone, hsome⟩
    taken := by
      intro q hq hqp
      obtain ⟨l, r, hmem, hnot, herase⟩ := htaken q hq
      exact ⟨l, r, hmem, hnot, by rw [hch', if_neg hqp, hch, if_pos hq, herase]⟩
    parent_child := by rw [hpar', if_pos rfl]
    parent_of_ne := fun c hcc => by rw [hpar', if_neg hcc, hpar, if_neg hcc]
    children_of_ne := fun p hpp hq => by rw [hch', if_neg hpp, hch, if_neg hq]
    order := by
      intro p
      rw [hch']
      split
      · rename_i hpp
        rw [hplace, List.filter_append, List.filter_cons_of_neg (by simp), ← List.filter_append,
          ← hlr, hothers, List.filter_filter, hpp]
        simp
      · rw [hch]
        split
        · rename_i hq
          obtain ⟨l, r, hmem, -, herase⟩ := htaken p hq
          rw [herase, hmem, List.filter_append, List.filter_append,
            List.filter_cons_of_neg (by simp)]
        · rfl
    payload? := fun id => by rw [hpay', hpay]
    owner? := fun id => by rw [hown', hown] }

end Forest

/-- Steps on a forest.  The forest is kept when one of them fails. -/
abbrev Edit (α : Type) := ExceptT TreeFault (StateM Forest) α

namespace Edit

open Forest (place)

/-- Goes on if there is nothing against it. -/
def require (check : Forest → Except TreeFault Unit) : Edit Unit := do
  match check (← get) with
  | .ok () => pure ()
  | .error fault => throw fault

/-- Takes `child` from the children of `parent`. -/
def removeChild (parent child : NodeId) : Edit Unit := do
  require fun F =>
    if !F.isContainer parent then .error .notFound
    else if F.isReadOnly parent then .error .readOnly
    else if !(F.children parent).elem child then .error .notFound
    else .ok ()
  modify fun F => F.setChildren parent ((F.children parent).erase child)
  modify fun F => F.setParent child none

/-- Takes a node from where it stands. -/
def detach (child : NodeId) : Edit Unit := do
  match (← get).parent? child with
  | some parent => removeChild parent child
  | none => pure ()

/-- Puts `child` below `parent`, before the child `before` or at the end. -/
def insertBefore (parent child : NodeId) (before : Option NodeId) : Edit Unit := do
  require fun F => if F.isContainer parent then .ok () else .error .hierarchy
  if before = some child then pure ()
  else do
    require (·.checkInsertion parent child before)
    require fun F => if F.isDuplicate parent child then .error .hierarchy else .ok ()
    detach child
    -- the same check again, on the forest as it is now
    require (·.checkInsertion parent child before)
    modify fun F => F.setChildren parent (place child before (F.children parent))
    modify fun F => F.setParent child parent

/-! ### Running -/

variable {β : Type}

theorem run_require (check : Forest → Except TreeFault Unit) (F : Forest) :
    (require check).run.run F = (check F, F) := by
  rw [require, Outcome.run_bind]
  show (match check F with
    | .ok () => pure ()
    | .error fault => throw fault : Edit Unit).run.run F = _
  rcases check F with fault | ⟨⟩ <;> rfl

theorem run_require_bind_of_ok {check : Forest → Except TreeFault Unit} {F : Forest}
    (h : check F = .ok ()) (next : Unit → Edit β) :
    (require check >>= next).run.run F = (next ()).run.run F := by
  rw [Outcome.run_bind, run_require, h]

theorem run_require_bind_of_error {check : Forest → Except TreeFault Unit} {F : Forest}
    {fault : TreeFault} (h : check F = .error fault) (next : Unit → Edit β) :
    (require check >>= next).run.run F = (.error fault, F) := by
  rw [Outcome.run_bind, run_require, h]

/-- The outcome of steps that either come to the forest `G` or are refused before anything has
changed. -/
def outcome (F : Forest) : Except TreeFault Forest → Except TreeFault Unit × Forest
  | .ok G => (.ok (), G)
  | .error fault => (.error fault, F)

theorem outcome_of_error {F : Forest} {x : Except TreeFault Forest} {fault : TreeFault}
    (h : (outcome F x).1 = .error fault) : (outcome F x).2 = F := by
  cases x with
  | error fault => rfl
  | ok G => cases h

theorem eq_ok_of_outcome {F : Forest} {x : Except TreeFault Forest} (h : (outcome F x).1 = .ok ()) :
    x = .ok (outcome F x).2 := by
  cases x with
  | error fault => cases h
  | ok G => rfl

theorem run_removeChild (parent child : NodeId) (F : Forest) :
    (removeChild parent child).run.run F = outcome F (F.removeChild parent child) := by
  rw [removeChild, Outcome.run_bind, run_require, Forest.removeChild]
  cases F.isContainer parent with
  | false => rfl
  | true =>
      cases F.isReadOnly parent with
      | true => rfl
      | false =>
          cases (F.children parent).elem child with
          | false => rfl
          | true => rfl

theorem run_detach (child : NodeId) (F : Forest) :
    (detach child).run.run F = outcome F (F.detach child) := by
  rw [detach, Outcome.run_bind, Forest.detach]
  show (match F.parent? child with
    | some parent => removeChild parent child
    | none => pure () : Edit Unit).run.run F = _
  cases F.parent? child with
  | none => rfl
  | some parent => exact run_removeChild parent child F

/-- An insertion in place comes to the same as the one on values, and if it is refused nothing has
changed. -/
theorem run_insertBefore (parent child : NodeId) (before : Option NodeId) (F : Forest) :
    (insertBefore parent child before).run.run F =
      outcome F (F.insertBefore parent child before) := by
  rw [insertBefore, Forest.insertBefore]
  cases hcontainer : F.isContainer parent with
  | false => exact run_require_bind_of_error (by rw [hcontainer]; rfl) _
  | true =>
      rw [run_require_bind_of_ok (by rw [hcontainer]; rfl)]
      by_cases hself : before = some child
      · rw [if_pos hself, if_pos hself]
        rfl
      · rw [if_neg hself, if_neg hself]
        cases hcheck : F.checkInsertion parent child before with
        | error fault => exact run_require_bind_of_error hcheck _
        | ok =>
            rw [run_require_bind_of_ok hcheck]
            cases hdup : F.isDuplicate parent child with
            | true => exact run_require_bind_of_error (by rw [hdup]; rfl) _
            | false =>
                rw [run_require_bind_of_ok (by rw [hdup]; rfl), Outcome.run_bind, run_detach]
                cases hD : F.detach child with
                | error fault => rfl
                | ok D =>
                    -- the only step that could fail after a change is the second check
                    have hsecond := Forest.checkInsertion_of_detach hself hcheck hD
                    show (require (·.checkInsertion parent child before) >>= _).run.run D = _
                    rw [run_require_bind_of_ok hsecond]
                    show _ = outcome F (D.checkInsertion parent child before >>= fun _ => pure
                      ((D.setChildren parent (place child before (D.children parent))).setParent
                        child parent))
                    rw [hsecond]
                    rfl

end Edit

end XmlScribe
