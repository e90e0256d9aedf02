/-
**Angle brackets in a document type declaration.**

A document type declaration ends at the first `>` that closes no `<` in it.  Where that is depends
only on the angle brackets, and reading the parts of the declaration keeps these in order.

Main definitions:

* `Event.nest` — the number of open brackets after a text;
* `Event.angles` — the angle brackets of a text.

Main results:

* `Event.cutNested_of_nest`, `Event.nest_of_cutNested` — where a declaration ends;
* `Event.nest_angles` — only the angle brackets count;
* `Doctype.angles_parse` — the parts of a declaration have all of its angle brackets.
-/

import XmlScribe.Markup.Builder

set_option autoImplicit false

namespace XmlScribe

namespace Event

/-! ### Open brackets -/

/-- The number of open brackets after a text, if every `>` in it closes one. -/
def nest : (depth : Nat) → Text → Option Nat
  | depth, [] => some depth
  | depth, c :: s =>
      if c = '>' ∧ depth = 0 then none
      else nest (if c = '<' then depth + 1 else if c = '>' then depth - 1 else depth) s

/-- A declaration ends at the first `>` that closes nothing. -/
theorem cutNested_of_nest {depth : Nat} {s : Text} (h : nest depth s = some 0) (rest : Text) :
    cutNested depth (s ++ '>' :: rest) = some (s, rest) := by
  induction s generalizing depth with
  | nil =>
      obtain rfl : depth = 0 := by simpa [nest] using h
      rfl
  | cons c s ih =>
      rw [nest] at h
      rw [List.cons_append, cutNested]
      split at h
      · simp at h
      · rename_i hc
        rw [if_neg hc]
        simp only [ih h]
        rfl

theorem nest_of_cutNested {depth : Nat} {s before rest : Text}
    (h : cutNested depth s = some (before, rest)) : nest depth before = some 0 := by
  induction s generalizing depth before with
  | nil => simp [cutNested] at h
  | cons c s ih =>
      rw [cutNested] at h
      split at h
      · rename_i hc
        cases h
        rw [hc.2]
        rfl
      · rename_i hc
        simp only [Option.map_eq_some_iff, Prod.mk.injEq, Prod.exists] at h
        obtain ⟨b, r, hb, rfl, rfl⟩ := h
        rw [nest, if_neg hc]
        exact ih hb

/-- The angle brackets of a text. -/
def angles (s : Text) : Text :=
  s.filter fun c => c = '<' ∨ c = '>'

@[simp] theorem angles_nil : angles [] = [] := rfl

@[simp] theorem angles_append (s t : Text) : angles (s ++ t) = angles s ++ angles t :=
  List.filter_append ..

@[simp] theorem angles_cons (c : Char) (s : Text) :
    angles (c :: s) = if c = '<' ∨ c = '>' then c :: angles s else angles s := by
  simp [angles, List.filter_cons]

/-- Only the angle brackets count. -/
theorem nest_angles (depth : Nat) (s : Text) : nest depth (angles s) = nest depth s := by
  induction s generalizing depth with
  | nil => rfl
  | cons c s ih =>
      rw [angles_cons]
      split
      · rw [nest, nest, ih]
      · rename_i hc
        rw [not_or] at hc
        rw [ih, nest, if_neg fun h => hc.2 h.1, if_neg hc.1, if_neg hc.2]

theorem nest_congr {s t : Text} (h : angles s = angles t) (depth : Nat) :
    nest depth s = nest depth t := by
  rw [← nest_angles, h, nest_angles]

theorem angles_eq_nil {s : Text} (h : ∀ c ∈ s, c ≠ '<' ∧ c ≠ '>') : angles s = [] := by
  rw [angles, List.filter_eq_nil_iff]
  intro c hc
  simpa using h c hc

/-- Blanks at the start have no angle brackets. -/
@[simp] theorem angles_trimStart (s : Text) : angles (Text.trimStart s) = angles s := by
  have h : s.takeWhile Text.isBlank ++ Text.trimStart s = s := List.takeWhile_append_dropWhile
  have hb : angles (s.takeWhile Text.isBlank) = [] := by
    refine angles_eq_nil fun c hc => ?_
    have hblank := List.all_eq_true.1 List.all_takeWhile c hc
    constructor
    · rintro rfl
      simp [Text.isBlank] at hblank
    · rintro rfl
      simp [Text.isBlank] at hblank
  rw [← h, angles_append, hb, List.nil_append]
  simp only [h]

theorem angles_after? {lead s rest : Text} (hlead : angles lead = [])
    (h : Text.after? lead s = some rest) : angles s = angles rest := by
  rw [Text.after?_eq_some_iff.1 h, angles_append, hlead, List.nil_append]

end Event

/-! ### The parts of a declaration -/

namespace Doctype

open Event

theorem angles_takeName {s : Text} {r : Text × Text} (h : takeName s = .ok r) :
    angles s = angles r.1 ++ angles r.2 := by
  rw [eq_of_takeName h, angles_append]

theorem angles_takeLiteral {s : Text} {r : Text × Text} (h : takeLiteral s = .ok r) :
    angles s = angles r.1 ++ angles r.2 := by
  obtain ⟨c, t, rfl, hq, hc⟩ := takeLiteral_cases h
  have hn : ¬ (c = '<' ∨ c = '>') := by rcases hq with rfl | rfl <;> decide
  rw [Text.eq_of_cutAt hc]
  simp [hn]

/-- The angle brackets of the identifiers. -/
def ExternalId.angles (id : ExternalId) : Text :=
  Event.angles (id.publicId.getD []) ++ Event.angles id.systemId

theorem angles_takeExternalId {s : Text} {r : Option ExternalId × Text}
    (h : takeExternalId s = .ok r) :
    angles s = (r.1.map ExternalId.angles).getD [] ++ angles r.2 := by
  rcases takeExternalId_cases h with ⟨t, sys, ht, ha, hr⟩ | ⟨t, pub, u, sys, ht, ha, hb, hr⟩ | rfl
  · have h₁ := angles_takeLiteral ha
    rw [angles_trimStart] at h₁
    rw [angles_after? rfl ht, h₁, hr]
    simp [ExternalId.angles]
  · have h₁ := angles_takeLiteral ha
    have h₂ := angles_takeLiteral hb
    rw [angles_trimStart] at h₁ h₂
    rw [angles_after? rfl ht, h₁, hr]
    show angles pub ++ angles u = _
    rw [h₂]
    simp [ExternalId.angles, List.append_assoc]
  · rfl

theorem angles_takeSubset {s : Text} {r : Option Text × Text} (h : takeSubset s = .ok r) :
    angles s = angles (r.1.getD []) ++ angles r.2 := by
  rcases takeSubset_cases h with ⟨subset, rfl, hr⟩ | rfl
  · rw [hr]
    simp
  · rfl

/-- The parts of a declaration have all of its angle brackets, in order. -/
theorem angles_parse {content : Text} {header : Header} (h : parse content = .ok header) :
    angles content = angles header.name ++ (header.externalId.map ExternalId.angles).getD [] ++
      angles (header.subset.getD []) := by
  obtain ⟨s, t, u, ha, hb, hc, hu⟩ := parse_cases h
  have h₁ := angles_takeName ha
  have h₂ := angles_takeExternalId hb
  have h₃ := angles_takeSubset hc
  simp only [angles_trimStart] at h₁ h₂ h₃
  have h₄ : angles u = [] := by rw [← angles_trimStart, hu, angles_nil]
  rw [h₁, h₂, h₃, h₄]
  simp [List.append_assoc]

end Doctype

end XmlScribe
