/-
**Texts that part.**

A text parts from another if they go on with different characters after a common lead.  Whatever
follows then, they stay different.  So two texts that consist of pieces are equal only if the pieces
are, provided that pieces part if they are not equal.

Main definitions:

* `Text.PartsFrom` — after a common lead two texts go on with different characters;
* `Text.AgreesIff` — two texts are equal if something holds, and part if it does not.

Main results:

* `Text.AgreesIff.append` — the texts of several pieces;
* `Text.AgreesIff.eq_iff` — the texts are equal exactly if it holds.
-/

import XmlScribe.Text.Basic

set_option autoImplicit false

namespace XmlScribe

namespace Text

/-- After a common lead the texts go on with different characters. -/
def PartsFrom (s t : Text) : Prop :=
  ∃ lead c d s' t', c ≠ d ∧ s = lead ++ c :: s' ∧ t = lead ++ d :: t'

theorem PartsFrom.ne {s t : Text} (h : PartsFrom s t) : s ≠ t := by
  obtain ⟨lead, c, d, s', t', hne, rfl, rfl⟩ := h
  intro he
  exact hne (List.cons.inj (List.append_cancel_left he)).1

theorem PartsFrom.append_left {s t : Text} (h : PartsFrom s t) (u : Text) :
    PartsFrom (u ++ s) (u ++ t) := by
  obtain ⟨lead, c, d, s', t', hne, rfl, rfl⟩ := h
  exact ⟨u ++ lead, c, d, s', t', hne, by rw [List.append_assoc], by rw [List.append_assoc]⟩

theorem PartsFrom.append_right {s t : Text} (h : PartsFrom s t) (u v : Text) :
    PartsFrom (s ++ u) (t ++ v) := by
  obtain ⟨lead, c, d, s', t', hne, rfl, rfl⟩ := h
  exact ⟨lead, c, d, s' ++ u, t' ++ v, hne, by simp, by simp⟩

/-- The texts are equal if `P` holds, and part if it does not. -/
structure AgreesIff (P : Prop) (s t : Text) : Prop where
  /-- The texts are equal. -/
  eq : P → s = t
  /-- The texts part. -/
  parts : ¬ P → PartsFrom s t

namespace AgreesIff

variable {P Q : Prop} {s t s' t' : Text}

theorem rfl (s : Text) : AgreesIff True s s :=
  ⟨fun _ => Eq.refl s, fun h => absurd trivial h⟩

theorem congr (h : AgreesIff P s t) (hp : P ↔ Q) : AgreesIff Q s t :=
  ⟨fun hq => h.eq (hp.2 hq), fun hq => h.parts fun p => hq (hp.1 p)⟩

/-- Two pieces, one after the other. -/
theorem append (h : AgreesIff P s t) (h' : AgreesIff Q s' t') :
    AgreesIff (P ∧ Q) (s ++ s') (t ++ t') := by
  refine ⟨fun ⟨p, q⟩ => by rw [h.eq p, h'.eq q], fun hn => ?_⟩
  by_cases p : P
  · have hq : ¬ Q := fun q => hn ⟨p, q⟩
    rw [h.eq p]
    exact (h'.parts hq).append_left t
  · exact (h.parts p).append_right s' t'

theorem append_left (h : AgreesIff P s t) (u : Text) : AgreesIff P (u ++ s) (u ++ t) :=
  ((rfl u).append h).congr (and_iff_right trivial)

theorem append_right (h : AgreesIff P s t) (u : Text) : AgreesIff P (s ++ u) (t ++ u) :=
  (h.append (rfl u)).congr (and_iff_left trivial)

/-- The texts are equal exactly if `P` holds. -/
theorem eq_iff (h : AgreesIff P s t) : s = t ↔ P :=
  ⟨fun he => Classical.byContradiction fun hn => (h.parts hn).ne he, h.eq⟩

end AgreesIff

end Text

end XmlScribe
