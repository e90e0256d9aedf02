/-
**Collapsing white space.**

Collapsing runs of white space takes away and adds nothing but white space.  What has been collapsed
needs no change, whether the character that fills in for a run is white space itself or not, so it
stays as it is when it is collapsed once more.  White space that has been put at an edge in the
meantime disappears again, if runs at that edge are removed.

Main results:

* `Text.mem_of_mem_collapseRuns` — nothing but spaces is new;
* `Text.filter_collapseRuns` — the other characters are left, in order;
* `Text.collapseRuns_eq_collapse` — the shortcut of `Text.collapseRuns` makes no difference;
* `Text.needsCollapse_collapse` — what has been collapsed needs no change;
* `Text.needsCollapse_eq_false_iff` — a text needs no change exactly if it is left as it is;
* `Text.collapse_between` — white space at trimmed edges does not count.
-/

import XmlScribe.Text.Runs

set_option autoImplicit false

namespace XmlScribe

namespace Text

theorem mem_of_mem_collapseFrom {isRun : Char → Bool} {fill c : Char} {trim : Trim}
    {written inRun : Bool} {s : Text} (h : c ∈ collapseFrom isRun fill trim written inRun s) :
    c ∈ s ∨ c = fill := by
  induction s generalizing written inRun with
  | nil =>
      rw [collapseFrom] at h
      split at h
      · exact Or.inr (List.mem_singleton.1 h)
      · simp at h
  | cons d s ih =>
      rw [collapseFrom] at h
      split at h
      · exact (ih h).imp_left (List.mem_cons_of_mem d)
      · split at h
        · rcases List.mem_cons.1 h with h | h
          · exact Or.inr h
          · rcases List.mem_cons.1 h with rfl | h
            · exact Or.inl List.mem_cons_self
            · exact (ih h).imp_left (List.mem_cons_of_mem d)
        · rcases List.mem_cons.1 h with rfl | h
          · exact Or.inl List.mem_cons_self
          · exact (ih h).imp_left (List.mem_cons_of_mem d)

/-- Nothing but `fill` is new. -/
theorem mem_of_mem_collapseRuns {isRun : Char → Bool} {fill c : Char} {trim : Trim} {s : Text}
    (h : c ∈ collapseRuns isRun fill trim s) : c ∈ s ∨ c = fill := by
  rw [collapseRuns] at h
  split at h
  · exact mem_of_mem_collapseFrom h
  · exact Or.inl h

theorem filter_collapseFrom {isRun : Char → Bool} {fill : Char} (hf : isRun fill = true)
    (trim : Trim) (written inRun : Bool) (s : Text) :
    (collapseFrom isRun fill trim written inRun s).filter (!isRun ·) = s.filter (!isRun ·) := by
  induction s generalizing written inRun with
  | nil =>
      rw [collapseFrom]
      split <;> simp [hf]
  | cons c s ih =>
      rw [collapseFrom]
      split
      · rename_i hc
        rw [ih, List.filter_cons_of_neg (by simp [hc])]
      · rename_i hc
        split
        · rw [List.filter_cons_of_neg (by simp [hf])]
          simp only [List.filter_cons, ih]
        · simp only [List.filter_cons, ih]

/-- The characters outside runs are left, in order. -/
theorem filter_collapseRuns {isRun : Char → Bool} {fill : Char} (hf : isRun fill = true)
    (trim : Trim) (s : Text) :
    (collapseRuns isRun fill trim s).filter (!isRun ·) = s.filter (!isRun ·) := by
  rw [collapseRuns]
  split
  · exact filter_collapseFrom hf trim false false s
  · rfl

variable {isRun : Char → Bool} {fill : Char} {trim : Trim} {s : Text}

/-! ### Characters of one kind -/

/-- Over a run, the loop does nothing but notice it. -/
theorem collapseFrom_run {piece : Text} (hne : piece ≠ []) (hp : ∀ c ∈ piece, isRun c = true)
    (written inRun : Bool) (s : Text) :
    collapseFrom isRun fill trim written inRun (piece ++ s) =
      collapseFrom isRun fill trim written true s := by
  induction piece generalizing inRun with
  | nil => exact absurd rfl hne
  | cons c piece ih =>
      simp only [List.mem_cons, forall_eq_or_imp] at hp
      rw [List.cons_append, collapseFrom, if_pos hp.1]
      cases piece with
      | nil => rfl
      | cons d piece => exact ih (by simp) hp.2 true

/-- Characters that are no run characters are copied. -/
theorem collapseFrom_append_of_forall_not {piece : Text} (hp : ∀ c ∈ piece, isRun c = false)
    (written : Bool) (s : Text) :
    collapseFrom isRun fill trim written false (piece ++ s) =
      piece ++ collapseFrom isRun fill trim (written || !piece.isEmpty) false s := by
  induction piece generalizing written with
  | nil => simp
  | cons c piece ih =>
      simp only [List.mem_cons, forall_eq_or_imp] at hp
      rw [List.cons_append, collapseFrom, if_neg (by simp [hp.1]), if_neg (by simp), ih hp.2]
      simp

/-! ### Texts that need no change -/

/-- A text whose last character is no run character, with more characters in front. -/
theorem any_getLast?_of_append {t : Text} (h : (t ++ s).getLast?.any isRun = false) :
    s.getLast?.any isRun = false := by
  cases s with
  | nil => rfl
  | cons c s =>
      rw [List.getLast?_append, List.getLast?_eq_some_getLast (List.cons_ne_nil c s)] at h
      rw [List.getLast?_eq_some_getLast (List.cons_ne_nil c s)]
      exact h

/-- A text without long runs is left alone; a run that is open before it is filled. -/
theorem collapseFrom_eq_self (hf : isRun fill = true) {written inRun : Bool}
    (hs : hasLongRun isRun fill inRun s = false)
    (hopen : inRun = true → ¬ (trim.atStart = true ∧ written = false))
    (hstart : inRun = false → trim.atStart = true → written = false → s.head?.any isRun = false)
    (hend : trim.atEnd = true →
      ((if inRun then [fill] else []) ++ s).getLast?.any isRun = false) :
    collapseFrom isRun fill trim written inRun s = (if inRun then [fill] else []) ++ s := by
  induction s generalizing written inRun with
  | nil =>
      cases inRun with
      | false => simp [collapseFrom]
      | true =>
          have hkept : trim.atEnd = false := Bool.eq_false_iff.2 fun h => by
            simpa [hf] using hend h
          have hfilled := hopen rfl
          simp only [collapseFrom, hkept]
          simpa using hfilled
  | cons c s ih =>
      rw [hasLongRun, Bool.or_eq_false_iff] at hs
      cases hc : isRun c with
      | true =>
          -- The run of a single `fill` is open from here on.
          have hshort : inRun = false ∧ c = fill := by simpa [hc] using hs.1
          obtain ⟨rfl, rfl⟩ := hshort
          rw [hc] at hs
          rw [collapseFrom, if_pos hc, ih hs.2]
          · rfl
          · rintro - ⟨hs, hw⟩
            simpa [hc] using hstart rfl hs hw
          · simp
          · exact hend
      | false =>
          rw [hc] at hs
          have hrest : collapseFrom isRun fill trim true false s = s :=
            ih hs.2 (by simp) (by simp) fun he =>
              @any_getLast?_of_append _ _ ((if inRun then [fill] else []) ++ [c])
                (by simpa using hend he)
          rw [collapseFrom, hc, hrest]
          cases inRun with
          | false => simp
          | true =>
              have hfilled : (trim.atStart && !written) = false := by simpa using hopen rfl
              simp [hfilled]

/-- If `fill` is no run character itself, a text without long runs has no run character at all. -/
theorem isRun_eq_false_of_hasLongRun (hf : isRun fill = false) {inRun : Bool}
    (hs : hasLongRun isRun fill inRun s = false) : ∀ c ∈ s, isRun c = false := by
  induction s generalizing inRun with
  | nil => simp
  | cons c s ih =>
      rw [hasLongRun, Bool.or_eq_false_iff] at hs
      intro d hd
      rcases List.mem_cons.1 hd with rfl | hd
      · cases hrun : isRun d with
        | false => rfl
        | true =>
            obtain ⟨-, rfl⟩ : inRun = false ∧ d = fill := by simpa [hrun] using hs.1
            rw [hf] at hrun
            cases hrun
      · exact ih hs.2 d hd

/-- A text that needs no change is not changed. -/
theorem collapse_eq_self (h : needsCollapse isRun fill trim s = false) :
    collapse isRun fill trim s = s := by
  simp only [needsCollapse, Bool.or_eq_false_iff] at h
  obtain ⟨⟨hstart, hend⟩, hs⟩ := h
  cases hf : isRun fill with
  | true =>
      refine collapseFrom_eq_self hf hs (by simp) (fun _ ht _ => ?_) fun ht => ?_
      · rwa [ht, Bool.true_and] at hstart
      · rwa [ht, Bool.true_and] at hend
  | false =>
      have hnone := isRun_eq_false_of_hasLongRun hf hs
      rw [collapse, ← List.append_nil s, collapseFrom_append_of_forall_not hnone]
      simp [collapseFrom]

/-- The shortcut makes no difference. -/
theorem collapseRuns_eq_collapse (isRun : Char → Bool) (fill : Char) (trim : Trim) (s : Text) :
    collapseRuns isRun fill trim s = collapse isRun fill trim s := by
  rw [collapseRuns]
  split
  · rfl
  · rename_i hn
    exact (collapse_eq_self (Bool.eq_false_iff.2 hn)).symm

/-! ### What has been collapsed -/

/-- No long run is left.  The `fill` that is written is followed by a character outside runs. -/
theorem hasLongRun_collapseFrom (written inRun : Bool) :
    hasLongRun isRun fill false (collapseFrom isRun fill trim written inRun s) = false := by
  induction s generalizing written inRun with
  | nil =>
      rw [collapseFrom]
      split <;> simp [hasLongRun]
  | cons c s ih =>
      rw [collapseFrom]
      split
      · exact ih written true
      · rename_i hc
        have hrest := ih true false
        split <;> simp [hasLongRun, hc, hrest]

/-- Where the start is trimmed, no run character is left there. -/
theorem any_head?_collapseFrom (h : trim.atStart = true) (inRun : Bool) :
    (collapseFrom isRun fill trim false inRun s).head?.any isRun = false := by
  induction s generalizing inRun with
  | nil => simp [collapseFrom, h]
  | cons c s ih =>
      rw [collapseFrom]
      split
      · exact ih true
      · rename_i hc
        simpa [h] using hc

/-- Where the end is trimmed, no run character is left there. -/
theorem any_getLast?_collapseFrom (h : trim.atEnd = true) (written inRun : Bool) :
    (collapseFrom isRun fill trim written inRun s).getLast?.any isRun = false := by
  induction s generalizing written inRun with
  | nil => simp [collapseFrom, h]
  | cons c s ih =>
      rw [collapseFrom]
      split
      · exact ih written true
      · rename_i hc
        have hrest : (c :: collapseFrom isRun fill trim true false s).getLast?.any isRun = false := by
          cases hr : collapseFrom isRun fill trim true false s with
          | nil => simpa using hc
          | cons d rest => rw [List.getLast?_cons_cons, ← hr, ih true false]
        split
        · rwa [List.getLast?_cons_cons]
        · exact hrest

/-- What has been collapsed needs no change. -/
theorem needsCollapse_collapse (isRun : Char → Bool) (fill : Char) (trim : Trim) (s : Text) :
    needsCollapse isRun fill trim (collapse isRun fill trim s) = false := by
  rw [needsCollapse, collapse, hasLongRun_collapseFrom]
  cases hstart : trim.atStart <;> cases hend : trim.atEnd <;>
    simp [any_head?_collapseFrom, any_getLast?_collapseFrom, hstart, hend]

/-- A text needs no change exactly if collapsing leaves it as it is. -/
theorem needsCollapse_eq_false_iff :
    needsCollapse isRun fill trim s = false ↔ collapse isRun fill trim s = s := by
  refine ⟨collapse_eq_self, fun h => ?_⟩
  rw [← h]
  exact needsCollapse_collapse isRun fill trim s

/-- What has been collapsed is collapsed. -/
theorem collapse_collapse (isRun : Char → Bool) (fill : Char) (trim : Trim) (s : Text) :
    collapse isRun fill trim (collapse isRun fill trim s) = collapse isRun fill trim s :=
  collapse_eq_self (needsCollapse_collapse isRun fill trim s)

/-- The only run character that is left is `fill`. -/
theorem eq_of_mem_collapseFrom {written inRun : Bool} {c : Char} (hc : isRun c = true)
    (h : c ∈ collapseFrom isRun fill trim written inRun s) : c = fill := by
  induction s generalizing written inRun with
  | nil =>
      rw [collapseFrom] at h
      split at h
      · exact List.mem_singleton.1 h
      · cases h
  | cons d s ih =>
      have hne : ¬ isRun d = true → c ≠ d := fun hd he => hd (he ▸ hc)
      rw [collapseFrom] at h
      split at h
      · exact ih h
      · rename_i hd
        split at h
        · simp only [List.mem_cons, hne hd, false_or] at h
          exact h.elim id ih
        · simp only [List.mem_cons, hne hd, false_or] at h
          exact ih h

/-! ### Edges -/

/-- Before anything is written, it does not matter at a trimmed edge whether a run is open. -/
theorem collapseFrom_false_true (h : trim.atStart = true) :
    collapseFrom isRun fill trim false true s = collapseFrom isRun fill trim false false s := by
  cases s with
  | nil => simp [collapseFrom, h]
  | cons c s => simp [collapseFrom, h]

theorem collapseFrom_append_left (h : trim.atStart = true) {before : Text}
    (hb : before.all isRun = true) :
    collapseFrom isRun fill trim false false (before ++ s) =
      collapseFrom isRun fill trim false false s := by
  cases before with
  | nil => rfl
  | cons c before =>
      rw [collapseFrom_run (by simp) (List.all_eq_true.1 hb), collapseFrom_false_true h]

theorem collapseFrom_all (h : trim.atEnd = true) {after : Text} (ha : after.all isRun = true)
    (written inRun : Bool) : collapseFrom isRun fill trim written inRun after = [] := by
  cases after with
  | nil => simp [collapseFrom, h]
  | cons c after =>
      rw [← List.append_nil (c :: after), collapseFrom_run (by simp) (List.all_eq_true.1 ha)]
      simp [collapseFrom, h]

theorem collapseFrom_append_right (h : trim.atEnd = true) {after : Text}
    (ha : after.all isRun = true) (written inRun : Bool) :
    collapseFrom isRun fill trim written inRun (s ++ after) =
      collapseFrom isRun fill trim written inRun s := by
  induction s generalizing written inRun with
  | nil => rw [List.nil_append, collapseFrom_all h ha, collapseFrom_all h rfl]
  | cons c s ih => simp only [List.cons_append, collapseFrom, ih]

/-- White space at trimmed edges does not count. -/
theorem collapse_between {before after : Text} (hb : before.all isRun = true)
    (hstart : before ≠ [] → trim.atStart = true) (ha : after.all isRun = true)
    (hend : after ≠ [] → trim.atEnd = true) :
    collapse isRun fill trim (before ++ s ++ after) = collapse isRun fill trim s := by
  have hafter : collapse isRun fill trim (before ++ s ++ after) =
      collapse isRun fill trim (before ++ s) := by
    cases after with
    | nil => rw [List.append_nil]
    | cons c after => exact collapseFrom_append_right (hend (by simp)) ha false false
  rw [hafter]
  cases before with
  | nil => rfl
  | cons c before => exact collapseFrom_append_left (hstart (by simp)) hb

/-- Between trimmed edges nothing is left of white space, and of nothing else. -/
theorem collapse_eq_nil_iff (hf : isRun fill = true) (h : trim.atEnd = true) :
    collapse isRun fill trim s = [] ↔ s.all isRun = true := by
  refine ⟨fun hc => ?_, fun hs => collapseFrom_all h hs false false⟩
  have hnone : s.filter (!isRun ·) = [] := by
    rw [← filter_collapseFrom hf trim false false, ← collapse, hc, List.filter_nil]
  rw [List.filter_eq_nil_iff] at hnone
  exact List.all_eq_true.2 fun c hm => by simpa using hnone c hm

end Text

end XmlScribe
