/-
**Where a mark occurs in a text.**

A text is cut at the first occurrence of a mark.  What stands before the cut has no occurrence of
the mark, and a text that has none can be put before any occurrence without being cut itself.

Main results:

* `Text.not_isInfix_of_cutAt` — the text before a cut has no occurrence of the mark;
* `Text.cutAt_append` — a cut is the same whatever follows;
* `Text.cutAt_of_not_isInfix` — a text without the mark and then the mark are cut between them,
  if the last character of the mark stands only at its end;
* `Text.cutAt_eq_some_iff` — the cut at such a mark;
* `Text.cutAt_singleton_eq_some_iff` — the cut at a single character;
* `Text.dropWhile_eq_cons_iff` — what follows a gap.
-/

import Mathlib.Data.List.Infix
import XmlScribe.Text.Basic

set_option autoImplicit false

namespace XmlScribe

namespace Text

/-! ### Beginnings -/

theorem after?_eq_none_iff {lead s : Text} : after? lead s = none ↔ ¬ lead <+: s := by
  rw [← Option.not_isSome_iff_eq_none, not_iff_not, Option.isSome_iff_exists]
  constructor
  · rintro ⟨rest, h⟩
    exact ⟨rest, (after?_eq_some_iff.1 h).symm⟩
  · rintro ⟨rest, h⟩
    exact ⟨rest, after?_eq_some_iff.2 h.symm⟩

theorem after?_append (lead s : Text) : after? lead (lead ++ s) = some s :=
  after?_eq_some_iff.2 rfl

/-! ### Cuts -/

/-- The text before a cut has no occurrence of the mark. -/
theorem not_isInfix_of_cutAt {mark s before rest : Text} (hm : mark ≠ [])
    (h : cutAt mark s = some (before, rest)) : ¬ mark <:+: before := by
  induction s generalizing before with
  | nil =>
      simp only [cutAt, Option.map_eq_some_iff, Prod.mk.injEq] at h
      obtain ⟨r, -, rfl, rfl⟩ := h
      simpa using hm
  | cons c s ih =>
      cases ha : after? mark (c :: s) with
      | some r =>
          simp only [cutAt, ha, Option.some.injEq, Prod.mk.injEq] at h
          rw [← h.1]
          simpa using hm
      | none =>
          simp only [cutAt, ha, Option.map_eq_some_iff, Prod.mk.injEq, Prod.exists] at h
          obtain ⟨b, r, hb, rfl, rfl⟩ := h
          rw [List.infix_cons_iff, not_or]
          refine ⟨fun hp => ?_, ih hb⟩
          rw [after?_eq_none_iff, eq_of_cutAt hb] at ha
          exact ha (by simpa [List.append_assoc] using hp.trans (List.prefix_append _ (mark ++ r)))

/-- A cut is the same whatever follows. -/
theorem cutAt_append {mark s before rest : Text} (t : Text)
    (h : cutAt mark s = some (before, rest)) : cutAt mark (s ++ t) = some (before, rest ++ t) := by
  induction s generalizing before with
  | nil =>
      simp only [cutAt, Option.map_eq_some_iff, Prod.mk.injEq] at h
      obtain ⟨r, hr, rfl, rfl⟩ := h
      have hs := after?_eq_some_iff.1 hr
      obtain ⟨rfl, rfl⟩ := List.append_eq_nil_iff.1 hs.symm
      cases t with
      | nil => rfl
      | cons d t => simp [cutAt, after?]
  | cons c s ih =>
      cases ha : after? mark (c :: s) with
      | some r =>
          simp only [cutAt, ha, Option.some.injEq, Prod.mk.injEq] at h
          obtain ⟨rfl, rfl⟩ := h
          have hr : after? mark (c :: (s ++ t)) = some (r ++ t) := by
            rw [after?_eq_some_iff, ← List.cons_append, after?_eq_some_iff.1 ha,
              List.append_assoc]
          simp [cutAt, hr]
      | none =>
          simp only [cutAt, ha, Option.map_eq_some_iff, Prod.mk.injEq, Prod.exists] at h
          obtain ⟨b, r, hb, rfl, rfl⟩ := h
          have hn : after? mark (c :: (s ++ t)) = none := by
            rw [after?_eq_none_iff] at ha ⊢
            intro hp
            refine ha (List.prefix_of_prefix_length_le hp ⟨t, rfl⟩ ?_)
            rw [eq_of_cutAt hb]
            simp only [List.length_cons, List.length_append]
            omega
          simp [cutAt, hn, ih hb]

/-- A text without the mark, and then the mark, are cut between the two, if the last character of
the mark stands only at its end. -/
theorem cutAt_of_not_isInfix {mark before : Text} {last : Char} (rest : Text)
    (hlast : last ∉ mark) (h : ¬ (mark ++ [last]) <:+: before) :
    cutAt (mark ++ [last]) (before ++ (mark ++ [last]) ++ rest) = some (before, rest) := by
  have hrest : cutAt (mark ++ [last]) (before ++ (mark ++ [last])) = some (before, []) := by
    induction before with
    | nil =>
        cases mark with
        | nil => simp [cutAt, after?]
        | cons c mark =>
            have ha := after?_append (c :: mark ++ [last]) []
            rw [List.append_nil] at ha
            simp only [List.nil_append, List.cons_append, cutAt] at ha ⊢
            rw [ha]
    | cons c before ih =>
        rw [List.infix_cons_iff, not_or] at h
        have hn : after? (mark ++ [last]) (c :: (before ++ (mark ++ [last]))) = none := by
          rw [after?_eq_none_iff]
          intro hp
          -- The mark would have to end inside itself, or else stand in `before`.
          rcases Nat.lt_or_ge before.length mark.length with hl | hl
          · obtain ⟨tail, ht⟩ := hp
            have hget := congrArg (·[mark.length]?) ht
            have h₁ : (mark ++ [last] ++ tail)[mark.length]? = some last := by simp
            have h₂ : (c :: (before ++ (mark ++ [last])))[mark.length]? =
                mark[mark.length - 1 - before.length]? := by
              obtain ⟨m, hm⟩ : ∃ m, mark.length = m + 1 := ⟨mark.length - 1, by omega⟩
              rw [hm, List.getElem?_cons_succ, List.getElem?_append_right (by omega),
                List.getElem?_append_left (by omega)]
              simp
            simp only [h₁, h₂] at hget
            exact hlast (List.mem_of_getElem? hget.symm)
          · refine h.1 (List.prefix_of_prefix_length_le hp ?_ (by simp; omega))
            exact ⟨mark ++ [last], rfl⟩
        simp [cutAt, hn, ih h.2]
  simpa using cutAt_append rest hrest

/-- The cut at a mark whose last character stands only at its end. -/
theorem cutAt_eq_some_iff {mark s before rest : Text} {last : Char} (hlast : last ∉ mark) :
    cutAt (mark ++ [last]) s = some (before, rest) ↔
      s = before ++ (mark ++ [last]) ++ rest ∧ ¬ (mark ++ [last]) <:+: before := by
  constructor
  · intro h
    exact ⟨eq_of_cutAt h, not_isInfix_of_cutAt (by simp) h⟩
  · rintro ⟨rfl, h⟩
    exact cutAt_of_not_isInfix rest hlast h

/-- A mark does not begin in a text that its first character is not in. -/
theorem not_isInfix_append_of_not_mem {a : Char} {mark s t : Text} (hs : a ∉ s)
    (ht : ¬ (a :: mark) <:+: t) : ¬ (a :: mark) <:+: s ++ t := by
  induction s with
  | nil => exact ht
  | cons c s ih =>
      simp only [List.mem_cons, not_or] at hs
      rw [List.cons_append, List.infix_cons_iff, not_or]
      exact ⟨fun hp => hs.1 (List.cons_prefix_cons.1 hp).1, ih hs.2⟩

/-- A mark does not end in a text that lacks its last character. -/
theorem not_isInfix_append_of_last_not_mem {mark s t : Text} {last : Char}
    (hs : ¬ (mark ++ [last]) <:+: s) (ht : last ∉ t) : ¬ (mark ++ [last]) <:+: s ++ t := by
  have hr := @not_isInfix_append_of_not_mem last mark.reverse t.reverse s.reverse (by simpa using ht)
  rw [← List.reverse_infix, List.reverse_append, List.reverse_append]
  rw [← List.reverse_infix, List.reverse_append] at hs
  exact hr hs

/-- A mark of two characters does not arise where two texts meet, unless the second begins with its
second character. -/
theorem not_isInfix_append {a b : Char} {s t : Text} (hs : ¬ [a, b] <:+: s) (ht : ¬ [a, b] <:+: t)
    (h : t.head? ≠ some b) : ¬ [a, b] <:+: s ++ t := by
  induction s with
  | nil => exact ht
  | cons c s ih =>
      rw [List.infix_cons_iff, not_or] at hs
      rw [List.cons_append, List.infix_cons_iff, not_or]
      refine ⟨fun hp => ?_, ih hs.2⟩
      rw [List.cons_prefix_cons] at hp
      cases s with
      | nil =>
          cases t with
          | nil => simp at hp
          | cons d t => exact h (by simpa [eq_comm] using hp.2)
      | cons d s => exact hs.1 (by simpa using hp)

/-- The cut at a single character. -/
theorem cutAt_singleton_eq_some_iff {c : Char} {s before rest : Text} :
    cutAt [c] s = some (before, rest) ↔ s = before ++ c :: rest ∧ c ∉ before := by
  have h := @cutAt_eq_some_iff [] s before rest c (by simp)
  rwa [List.nil_append, List.singleton_infix_iff, List.append_assoc, List.singleton_append] at h

/-! ### Gaps -/

/-- What follows a gap begins with the first character that cannot be in it. -/
theorem dropWhile_eq_cons_iff {p : Char → Bool} {s rest : Text} {c : Char} :
    s.dropWhile p = c :: rest ↔
      ∃ gap, s = gap ++ c :: rest ∧ (∀ b ∈ gap, p b = true) ∧ p c = false := by
  constructor
  · intro h
    refine ⟨s.takeWhile p, ?_, List.all_eq_true.1 List.all_takeWhile, ?_⟩
    · rw [← h, List.takeWhile_append_dropWhile]
    · have hhead := List.head?_dropWhile_not p s
      rwa [h] at hhead
  · rintro ⟨gap, rfl, hgap, hc⟩
    rw [List.dropWhile_append_of_pos hgap, List.dropWhile_cons_of_neg (by simp [hc])]

end Text

end XmlScribe
