/-
**What a name consists of.**

The test in use tries ASCII first, which accepts nothing that the production does not.  A name is
then a text of name characters that begins with a start character, and no character that markup is
made of is among them.

Main results:

* `Name.isValid_iff_isName` — the test in use is the production;
* `Name.isNameChar_of_mem` — a name has name characters only;
* `Name.isName_append` — a name can be prolonged by name characters.
-/

import XmlScribe.Name.Basic

set_option autoImplicit false

namespace XmlScribe

namespace Name

/-! ### The test -/

theorem isStartChar_of_isAlpha {c : Char} (h : c.isAlpha = true) : isStartChar c = true := by
  delta Char.isAlpha Char.isUpper Char.isLower at h
  simp only [Bool.or_eq_true, Bool.and_eq_true, decide_eq_true_eq, ge_iff_le,
    UInt32.le_iff_toNat_le] at h
  simp only [isStartChar, CharSet.contains, startChars, List.any_cons, Bool.or_eq_true,
    Bool.and_eq_true, decide_eq_true_eq, Char.toNat]
  have h₁ : 'A'.val.toNat = 65 := rfl
  have h₂ : 'Z'.val.toNat = 90 := rfl
  have h₃ : 'a'.val.toNat = 97 := rfl
  have h₄ : 'z'.val.toNat = 122 := rfl
  omega

theorem isNameChar_of_isStartChar {c : Char} (h : isStartChar c = true) : isNameChar c = true := by
  simp [isNameChar, h]

theorem isNameChar_of_isDigit {c : Char} (h : c.isDigit = true) : isNameChar c = true := by
  simp only [Char.isDigit, Bool.and_eq_true, decide_eq_true_eq, ge_iff_le,
    UInt32.le_iff_toNat_le] at h
  simp only [isNameChar, CharSet.contains, innerChars, List.any_cons, Bool.or_eq_true,
    Bool.and_eq_true, decide_eq_true_eq, Char.toNat]
  have h₁ : '0'.val.toNat = 48 := rfl
  have h₂ : '9'.val.toNat = 57 := rfl
  omega

/-- A name all of whose characters are ASCII is a name. -/
theorem isName_of_isPlainName {s : Text} (h : isPlainName s = true) : isName s = true := by
  cases s with
  | nil => simp [isPlainName] at h
  | cons c s =>
      simp only [isPlainName, Bool.and_eq_true, Bool.or_eq_true, beq_iff_eq,
        List.all_eq_true] at h
      simp only [isName, Bool.and_eq_true, List.all_eq_true]
      refine ⟨?_, fun d hd => ?_⟩
      · rcases h.1 with (hc | rfl) | rfl
        · exact isStartChar_of_isAlpha hc
        · decide
        · decide
      · rcases h.2 d hd with (((hd | rfl) | rfl) | rfl) | rfl
        · rcases Bool.or_eq_true_iff.1 hd with hd | hd
          · exact isNameChar_of_isStartChar (isStartChar_of_isAlpha hd)
          · exact isNameChar_of_isDigit hd
        · decide
        · decide
        · decide
        · decide

/-- The test in use is the production. -/
theorem isValid_iff_isName {s : Text} : isValid s = true ↔ IsName s := by
  rw [← isName_iff, isValid, Bool.or_eq_true]
  constructor
  · rintro (h | h)
    · exact isName_of_isPlainName h
    · exact h
  · exact Or.inr

theorem check_eq_ok_iff {s : Text} : check s = .ok () ↔ IsName s := by
  rw [← isValid_iff_isName, check]
  split <;> simp_all

/-! ### The characters of a name -/

theorem IsName.ne_nil {s : Text} (h : IsName s) : s ≠ [] := by
  obtain ⟨c, rest, rfl, -⟩ := h
  exact List.cons_ne_nil c rest

theorem isNameChar_of_mem {s : Text} (h : IsName s) {c : Char} (hc : c ∈ s) :
    isNameChar c = true := by
  obtain ⟨d, rest, rfl, hd, hr⟩ := h
  rcases List.mem_cons.1 hc with rfl | hc
  · exact isNameChar_of_isStartChar hd
  · exact hr c hc

/-- A character that no name has is not in a name. -/
theorem not_mem_of_isName {s : Text} (h : IsName s) {c : Char} (hc : isNameChar c = false) :
    c ∉ s := by
  intro hm
  rw [isNameChar_of_mem h hm] at hc
  exact Bool.noConfusion hc

/-- A name can be prolonged by name characters. -/
theorem isName_append {s t : Text} (h : IsName s) (ht : ∀ c ∈ t, isNameChar c = true) :
    IsName (s ++ t) := by
  obtain ⟨c, rest, rfl, hc, hr⟩ := h
  refine ⟨c, rest ++ t, rfl, hc, fun d hd => ?_⟩
  rcases List.mem_append.1 hd with hd | hd
  · exact hr d hd
  · exact ht d hd

/-- Blanks are no name characters. -/
theorem isBlank_of_isNameChar {c : Char} (h : isNameChar c = true) : Text.isBlank c = false := by
  refine Bool.eq_false_iff.2 fun hb => ?_
  simp only [Text.isBlank, Bool.or_eq_true, beq_iff_eq] at hb
  rcases hb with ((rfl | rfl) | rfl) | rfl <;> exact absurd h (by decide)

end Name

end XmlScribe
