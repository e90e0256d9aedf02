/-
**Line endings that become line feeds, or another separator.**

Reading replaces line endings in two passes, writing in one.  For line feeds as the separator the
two agree, nothing is left of the carriage returns, and a text without carriage returns is left
alone.  A separator that is a line ending itself can be replaced by another one afterwards, as if it
had never been written.

Main definitions:

* `Text.lineEndings` — the ways in which a line can end.

Main results:

* `Text.lineInduction` — induction on a text, with a pair at the end of a line as one case;
* `Text.unifyLineEndings_eq` — the two passes do what the one does;
* `Text.not_mem_endLinesWith` — no carriage return is left;
* `Text.withLineEndings_eq` — the shortcut changes nothing;
* `Text.endLinesWith_append` — texts can be treated apart unless a line ending is torn;
* `Text.endLinesWith_lineEnding` — a line ending becomes one separator;
* `Text.withLineEndings_withLineEndings` — only the last separator counts;
* `Text.isInfix_of_isInfix_endLinesWith` — no mark appears that was not there.
-/

import Mathlib.Data.List.Infix
import XmlScribe.Text.LineEnding

set_option autoImplicit false

namespace XmlScribe

namespace Text

@[simp] theorem endLinesWith_nil {sep : Text} : endLinesWith sep [] = [] :=
  rfl

@[simp] theorem endLinesWith_pair {sep s : Text} :
    endLinesWith sep ('\r' :: '\n' :: s) = sep ++ endLinesWith sep s :=
  rfl

@[simp] theorem endLinesWith_feed {sep s : Text} :
    endLinesWith sep ('\n' :: s) = sep ++ endLinesWith sep s :=
  rfl

theorem endLinesWith_return {sep s : Text} (h : s.head? ≠ some '\n') :
    endLinesWith sep ('\r' :: s) = sep ++ endLinesWith sep s := by
  rw [endLinesWith]
  rintro t rfl
  exact h rfl

theorem endLinesWith_cons {sep s : Text} {c : Char} (hr : c ≠ '\r') (hn : c ≠ '\n') :
    endLinesWith sep (c :: s) = c :: endLinesWith sep s := by
  rw [endLinesWith]
  · rintro _ rfl
    exact absurd rfl hr
  · exact hr
  · exact hn

/-- Induction on a text that takes a pair at the end of a line as one. -/
theorem lineInduction {motive : Text → Prop} (nil : motive [])
    (pair : ∀ s, motive s → motive ('\r' :: '\n' :: s))
    (lone : ∀ s, s.head? ≠ some '\n' → motive s → motive ('\r' :: s))
    (feed : ∀ s, motive s → motive ('\n' :: s))
    (char : ∀ c s, c ≠ '\r' → c ≠ '\n' → motive s → motive (c :: s)) (s : Text) : motive s := by
  induction s using endLinesWith.induct with
  | case1 => exact nil
  | case2 s ih => exact pair s ih
  | case3 s hs ih =>
      refine lone s ?_ ih
      intro hhead
      obtain ⟨t, rfl⟩ := List.head?_eq_some_iff.1 hhead
      exact hs t rfl
  | case4 s ih => exact feed s ih
  | case5 c s _ hr hn ih => exact char c s hr hn ih

/-- Texts can be treated apart, unless the second one begins with a line feed. -/
theorem endLinesWith_append {sep s t : Text} (h : t.head? ≠ some '\n') :
    endLinesWith sep (s ++ t) = endLinesWith sep s ++ endLinesWith sep t := by
  induction s using lineInduction with
  | nil => rfl
  | pair s ih => simp [ih]
  | lone s hs ih =>
      have hst : (s ++ t).head? ≠ some '\n' := by
        cases s with
        | nil => exact h
        | cons c s => exact hs
      rw [List.cons_append, endLinesWith_return hst, endLinesWith_return hs, ih,
        List.append_assoc]
  | feed s ih => simp [ih]
  | char c s hr hn ih =>
      rw [List.cons_append, endLinesWith_cons hr hn, endLinesWith_cons hr hn, ih,
        List.cons_append]

/-- The ways in which a line can end. -/
def lineEndings : List Text := [['\n'], ['\r', '\n'], ['\r']]

/-- A line ending becomes one separator, unless it is torn. -/
theorem endLinesWith_lineEnding {sep ending t : Text} (he : ending ∈ lineEndings)
    (ht : t.head? ≠ some '\n') : endLinesWith sep (ending ++ t) = sep ++ endLinesWith sep t := by
  simp only [lineEndings, List.mem_cons, List.not_mem_nil, or_false] at he
  rcases he with rfl | rfl | rfl
  · rfl
  · rfl
  · exact endLinesWith_return ht

theorem endLinesWith_eq_nil_iff {s : Text} : endLinesWith ['\n'] s = [] ↔ s = [] := by
  induction s using lineInduction with
  | nil => simp
  | pair s => simp
  | lone s hs => simp [endLinesWith_return hs]
  | feed s => simp
  | char c s hr hn => simp [endLinesWith_cons hr hn]

/-- Nothing is left of the line endings but what the separator has of them. -/
theorem not_mem_endLinesWith_of_not_mem {sep : Text} {c : Char} (hc : c = '\r' ∨ c = '\n')
    (hsep : c ∉ sep) (s : Text) : c ∉ endLinesWith sep s := by
  induction s using lineInduction with
  | nil => simp
  | pair s ih => simp [hsep, ih]
  | lone s hs ih => simp [endLinesWith_return hs, hsep, ih]
  | feed s ih => simp [hsep, ih]
  | char d s hr hn ih =>
      rw [endLinesWith_cons hr hn]
      simp only [List.mem_cons, not_or]
      refine ⟨?_, ih⟩
      rintro rfl
      exact hc.elim hr hn

/-- No carriage return is left. -/
theorem not_mem_endLinesWith (s : Text) : '\r' ∉ endLinesWith ['\n'] s :=
  not_mem_endLinesWith_of_not_mem (Or.inl rfl) (by decide) s

/-- Nothing but line feeds is new. -/
theorem mem_of_mem_endLinesWith {s : Text} {c : Char} (h : c ∈ endLinesWith ['\n'] s) :
    c ∈ s ∨ c = '\n' := by
  induction s using lineInduction with
  | nil => simp at h
  | pair s ih =>
      simp only [endLinesWith_pair, List.singleton_append, List.mem_cons] at h ⊢
      rcases h with h | h
      · exact Or.inr h
      · exact (ih h).imp_left fun h => Or.inr (Or.inr h)
  | lone s hs ih =>
      simp only [endLinesWith_return hs, List.singleton_append, List.mem_cons] at h ⊢
      rcases h with h | h
      · exact Or.inr h
      · exact (ih h).imp_left Or.inr
  | feed s ih =>
      simp only [endLinesWith_feed, List.singleton_append, List.mem_cons] at h ⊢
      rcases h with h | h
      · exact Or.inr h
      · exact (ih h).imp_left Or.inr
  | char d s hr hn ih =>
      rw [endLinesWith_cons hr hn] at h
      simp only [List.mem_cons] at h ⊢
      rcases h with h | h
      · exact Or.inl (Or.inl h)
      · exact (ih h).imp_left Or.inr

/-- A text without carriage returns is left alone, whatever follows. -/
theorem endLinesWith_append_of_not_mem {s : Text} (h : '\r' ∉ s) (t : Text) :
    endLinesWith ['\n'] (s ++ t) = s ++ endLinesWith ['\n'] t := by
  induction s with
  | nil => rfl
  | cons c s ih =>
      simp only [List.mem_cons, not_or] at h
      by_cases hn : c = '\n'
      · subst hn
        rw [List.cons_append, endLinesWith_feed, ih h.2]
        rfl
      · rw [List.cons_append, endLinesWith_cons (Ne.symm h.1) hn, ih h.2]
        rfl

theorem endLinesWith_eq_self {s : Text} (h : '\r' ∉ s) : endLinesWith ['\n'] s = s := by
  have happend := endLinesWith_append_of_not_mem h []
  rwa [List.append_nil, endLinesWith_nil, List.append_nil] at happend

/-- A text without line endings is left alone by every separator. -/
theorem endLinesWith_of_not_mem {sep s : Text} (hr : '\r' ∉ s) (hn : '\n' ∉ s) :
    endLinesWith sep s = s := by
  induction s with
  | nil => rfl
  | cons c s ih =>
      simp only [List.mem_cons, not_or] at hr hn
      rw [endLinesWith_cons (Ne.symm hr.1) (Ne.symm hn.1), ih hr.2 hn.2]

/-- The shortcut changes nothing. -/
theorem withLineEndings_eq {sep : Text} (s : Text) :
    withLineEndings sep s = endLinesWith sep s := by
  rw [withLineEndings]
  split
  · rename_i h
    simp only [List.elem_eq_mem, Bool.and_eq_true, Bool.or_eq_true, Bool.not_eq_true',
      decide_eq_false_iff_not, beq_iff_eq] at h
    rcases h with ⟨hr, rfl | hn⟩
    · exact (endLinesWith_eq_self hr).symm
    · exact (endLinesWith_of_not_mem hr hn).symm
  · rfl

/-- Pairs first and then single returns come to the same as one pass. -/
theorem map_joinReturns (s : Text) :
    (joinReturns s).map (fun c => if c = '\r' then '\n' else c) = endLinesWith ['\n'] s := by
  induction s using lineInduction with
  | nil => rfl
  | pair s ih => simp [joinReturns, ih]
  | lone s hs ih =>
      rw [endLinesWith_return hs, joinReturns, List.map_cons, ih]
      · rfl
      · rintro t - rfl
        exact hs rfl
  | feed s ih => simp [joinReturns, ih]
  | char c s hr hn ih =>
      rw [endLinesWith_cons hr hn, joinReturns, List.map_cons, ih, if_neg hr]
      exact fun _ h => absurd h hr

/-- Reading treats line endings as writing with line feeds does. -/
theorem unifyLineEndings_eq (s : Text) : unifyLineEndings s = endLinesWith ['\n'] s := by
  rw [unifyLineEndings]
  split
  · exact map_joinReturns s
  · rename_i h
    exact (endLinesWith_eq_self (by simpa using h)).symm

theorem not_mem_unifyLineEndings (s : Text) : '\r' ∉ unifyLineEndings s := by
  rw [unifyLineEndings_eq]
  exact not_mem_endLinesWith s

/-- A text without carriage returns has the line endings that reading gives it. -/
theorem unifyLineEndings_eq_self {s : Text} (h : '\r' ∉ s) : unifyLineEndings s = s := by
  rw [unifyLineEndings_eq, endLinesWith_eq_self h]

/-! ### One separator after another -/

/-- A separator that is a line ending itself is not torn by what is written after it: no line feed
follows a carriage return that stands for a line ending. -/
theorem endLinesWith_separator {first : Text} (h : first ∈ lineEndings) (sep s : Text) :
    endLinesWith sep (first ++ endLinesWith first s) =
      sep ++ endLinesWith sep (endLinesWith first s) := by
  simp only [lineEndings, List.mem_cons, List.not_mem_nil, or_false] at h
  rcases h with rfl | rfl | rfl
  · rfl
  · rfl
  · refine endLinesWith_return fun hhead => ?_
    exact not_mem_endLinesWith_of_not_mem (Or.inr rfl) (by decide) s (List.mem_of_head? hhead)

/-- Only the last separator counts. -/
theorem endLinesWith_endLinesWith {first : Text} (h : first ∈ lineEndings) (sep s : Text) :
    endLinesWith sep (endLinesWith first s) = endLinesWith sep s := by
  induction s using lineInduction with
  | nil => rfl
  | pair s ih => rw [endLinesWith_pair, endLinesWith_pair, endLinesWith_separator h, ih]
  | lone s hs ih =>
      rw [endLinesWith_return hs, endLinesWith_return hs, endLinesWith_separator h, ih]
  | feed s ih => rw [endLinesWith_feed, endLinesWith_feed, endLinesWith_separator h, ih]
  | char c s hr hn ih =>
      rw [endLinesWith_cons hr hn, endLinesWith_cons hr hn, endLinesWith_cons hr hn, ih]

/-- **Separators replace each other, and line feeds are what reading asks for.**  The lines of a text
are ended with a separator that is a line ending, and then with another separator.  This comes to the
same as ending them with the second one at once, whether a text that needs no change is left alone or
not.  To end them with line feeds is to treat them as reading does, pairs first and then the carriage
returns that are left. -/
theorem withLineEndings_withLineEndings {first : Text} (h : first ∈ lineEndings) (sep s : Text) :
    withLineEndings sep (withLineEndings first s) = withLineEndings sep s ∧
      withLineEndings first s = endLinesWith first s ∧
      withLineEndings ['\n'] s = unifyLineEndings s := by
  refine ⟨?_, withLineEndings_eq s, ?_⟩
  · simp only [withLineEndings_eq, endLinesWith_endLinesWith h]
  · rw [withLineEndings_eq, unifyLineEndings_eq]

/-- A carriage return before a pair, a line feed before one, and one at the end of the text. -/
theorem withLineEndings_withLineEndings_mixed :
    ['\r'] ∈ lineEndings ∧
      withLineEndings ['\r', '\n'] (withLineEndings ['\r'] "a\r\r\nb\n\rc\r".toList) =
        withLineEndings ['\r', '\n'] "a\r\r\nb\n\rc\r".toList ∧
      withLineEndings ['\r'] "a\r\r\nb\n\rc\r".toList = "a\r\rb\r\rc\r".toList ∧
      withLineEndings ['\n'] "a\r\r\nb\n\rc\r".toList =
        unifyLineEndings "a\r\r\nb\n\rc\r".toList ∧
      unifyLineEndings "a\r\r\nb\n\rc\r".toList = "a\n\nb\n\nc\n".toList := by
  have hmem : ['\r'] ∈ lineEndings := by decide
  obtain ⟨htwice, -, hread⟩ := withLineEndings_withLineEndings hmem ['\r', '\n']
    "a\r\r\nb\n\rc\r".toList
  exact ⟨hmem, htwice, by decide, hread, by decide⟩

/-! ### Marks -/

theorem eq_nil_of_isPrefix_cons {mark rest : Text} {c : Char} (hm : c ∉ mark)
    (h : mark <+: c :: rest) : mark = [] := by
  cases mark with
  | nil => rfl
  | cons d mark => exact absurd (List.cons_prefix_cons.1 h).1.symm fun he => hm (by simp [he])

/-- A mark without line feeds that begins the text has begun it before. -/
theorem isPrefix_of_isPrefix_endLinesWith {mark s : Text} (hm : '\n' ∉ mark)
    (h : mark <+: endLinesWith ['\n'] s) : mark <+: s := by
  induction s using lineInduction generalizing mark with
  | nil => exact h
  | pair s => rw [eq_nil_of_isPrefix_cons hm h]; exact List.nil_prefix
  | lone s hs =>
      rw [endLinesWith_return hs] at h
      rw [eq_nil_of_isPrefix_cons hm h]
      exact List.nil_prefix
  | feed s => rw [eq_nil_of_isPrefix_cons hm h]; exact List.nil_prefix
  | char c s hr hn ih =>
      rw [endLinesWith_cons hr hn] at h
      cases mark with
      | nil => exact List.nil_prefix
      | cons d mark =>
          obtain ⟨rfl, hp⟩ := List.cons_prefix_cons.1 h
          exact List.cons_prefix_cons.2 ⟨rfl, ih (fun hmem => hm (by simp [hmem])) hp⟩

/-- A mark without line feeds that occurs has occurred before. -/
theorem isInfix_of_isInfix_endLinesWith {mark s : Text} (hm : '\n' ∉ mark)
    (h : mark <:+: endLinesWith ['\n'] s) : mark <:+: s := by
  have hstart : ∀ {t : Text}, mark <+: endLinesWith ['\n'] t → mark <:+: t := fun hp =>
    (isPrefix_of_isPrefix_endLinesWith hm hp).isInfix
  induction s using lineInduction with
  | nil => exact h
  | pair s ih =>
      rcases List.infix_cons_iff.1 h with h | h
      · exact hstart (t := '\r' :: '\n' :: s) h
      · exact (ih h).trans ⟨['\r', '\n'], [], by simp⟩
  | lone s hs ih =>
      have h' := h
      rw [endLinesWith_return hs] at h'
      rcases List.infix_cons_iff.1 h' with hp | h'
      · exact hstart (by rwa [endLinesWith_return hs])
      · exact (ih h').trans (List.suffix_cons _ _).isInfix
  | feed s ih =>
      rcases List.infix_cons_iff.1 h with h | h
      · exact hstart (t := '\n' :: s) h
      · exact (ih h).trans (List.suffix_cons _ _).isInfix
  | char c s hr hn ih =>
      have h' := h
      rw [endLinesWith_cons hr hn] at h'
      rcases List.infix_cons_iff.1 h' with hp | h'
      · exact hstart (by rwa [endLinesWith_cons hr hn])
      · exact (ih h').trans (List.suffix_cons _ _).isInfix

end Text

end XmlScribe
