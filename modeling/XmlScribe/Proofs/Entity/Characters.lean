/-
**The characters of escaped text.**

Escaping leaves a character as it is only if the character set has it, or if it is one of a few that
every character set has.  All others become references, which consist of such characters too, except
for the names of declared entities.

Main results:

* `Escaper.of_mem_encode` — where the characters of an escaped text come from;
* `CData.of_mem_pieces` — where those of a CDATA section come from.
-/

import XmlScribe.Proofs.Charset.Fallback
import XmlScribe.Proofs.Entity.Escaping
import XmlScribe.Proofs.Writer.CData

set_option autoImplicit false

namespace XmlScribe

/-- Digits are basic characters. -/
theorem Numeral.isBasic_of_digit? {c : Char} (h : digit? 16 c ≠ none) : IsBasic c := by
  have hrange : 0x30 ≤ c.toNat ∧ c.toNat < 0x80 := by
    rw [digit?] at h
    simp only [Char.le_def, UInt32.le_iff_toNat_le] at h
    split at h
    · rename_i hd
      exact ⟨hd.1, Nat.lt_of_le_of_lt hd.2 (by decide)⟩
    · split at h
      · rename_i hd
        exact ⟨Nat.le_trans (by decide) hd.1, Nat.lt_of_le_of_lt hd.2 (by decide)⟩
      · split at h
        · rename_i hd
          exact ⟨Nat.le_trans (by decide) hd.1, Nat.lt_of_le_of_lt hd.2 (by decide)⟩
        · exact absurd rfl h
  refine ⟨hrange.2, ?_⟩
  simp only [Codec.isShift, Bool.or_eq_false_iff, beq_eq_false_iff_ne]
  omega

namespace Escaper

variable {e : Escaper}

theorem isBasic_hexReference {c d : Char} (h : d ∈ hexReference c) : IsBasic d := by
  have hends : ∀ d ∈ ['&', '#', 'x', ';'], IsBasic d := by decide
  rcases List.mem_append.1 h with h | h
  · rcases List.mem_append.1 h with h | h
    · exact hends d (List.mem_append_left [';'] h)
    · exact Numeral.isBasic_of_digit? (Numeral.digit?_of_mem_hexadecimal h)
  · exact hends d (List.mem_append_right ['&', '#', 'x'] h)

theorem of_mem_entityReference {name : Text} {d : Char} (h : d ∈ entityReference name) :
    d ∈ name ∨ IsBasic d := by
  have hends : IsBasic '&' ∧ IsBasic ';' := by decide
  rcases List.mem_append.1 h with h | h
  · rcases List.mem_cons.1 h with rfl | h
    · exact Or.inr hends.1
    · exact Or.inl h
  · exact Or.inr (List.mem_singleton.1 h ▸ hends.2)

theorem isBasic_predefinedName {c : Char} {name : Text}
    (h : Entity.predefinedName? c = some name) : ∀ d ∈ name, IsBasic d := by
  have hall : ∀ entry ∈ Entity.predefined, ∀ d ∈ entry.1, IsBasic d := by decide
  obtain ⟨entry, hentry, rfl⟩ := Option.map_eq_some_iff.1 h
  exact hall entry (List.mem_of_find?_eq_some hentry)

theorem isBasic_charReference {c d : Char} (h : d ∈ e.charReference c) : IsBasic d := by
  rw [charReference] at h
  split at h
  · rename_i name hn
    split at h
    · exact isBasic_hexReference h
    · exact (of_mem_entityReference h).elim (isBasic_predefinedName hn d) id
  · exact isBasic_hexReference h

/-- What need not be escaped can be encoded, or is one of a few basic characters. -/
theorem canEncode_of_isRequired {quote : Option Char} {c : Char}
    (h : e.isRequired quote c = false) : e.canEncode c = true ∨ IsBasic c := by
  rw [isRequired] at h
  split at h
  · cases h
  · split at h
    · rename_i hc
      exact Or.inr (by rw [beq_iff_eq.1 hc]; decide)
    · split at h
      · rename_i hc
        simp only [Bool.or_eq_true, beq_iff_eq] at hc
        rcases hc with (rfl | rfl) | rfl <;> exact Or.inr (by decide)
      · split at h
        · cases h
        · exact Or.inl (by simpa using h)

/-- The characters of an escaped text are those of entity names, or can be encoded, or are basic. -/
theorem of_mem_encode {quote : Option Char} {s : Text} {d : Char} (h : d ∈ e.encode quote s) :
    (∃ c name, e.table.lookup? c = some name ∧ d ∈ name) ∨ e.canEncode d = true ∨ IsBasic d := by
  obtain ⟨c, -, h⟩ := List.mem_flatMap.1 h
  rw [encodeChar] at h
  split at h
  · -- the only characters that nothing has looked at
    rename_i name hn
    exact (of_mem_entityReference h).imp (fun hd => ⟨c, name, hn, hd⟩) Or.inr
  · split at h
    · exact Or.inr (Or.inr (isBasic_charReference h))
    · rename_i hr
      simp only [Bool.or_eq_true, not_or, Bool.not_eq_true] at hr
      obtain rfl := List.mem_singleton.1 h
      exact Or.inr (canEncode_of_isRequired hr.1)

end Escaper

namespace CData

variable {canEncode : Char → Bool}

theorem of_mem_intersperse {between part : Text} {parts : List Text}
    (h : part ∈ parts.intersperse between) : part ∈ parts ∨ part = between := by
  induction parts with
  | nil => exact Or.inl h
  | cons first parts ih =>
      cases parts with
      | nil => exact Or.inl h
      | cons second parts =>
          rw [List.intersperse_cons_cons] at h
          rcases List.mem_cons.1 h with rfl | h
          · exact Or.inl List.mem_cons_self
          · rcases List.mem_cons.1 h with rfl | h
            · exact Or.inr rfl
            · exact (ih h).imp_left (List.mem_cons_of_mem first)

theorem of_mem_sectionPieces {run piece : Text} (h : piece ∈ sectionPieces run) :
    ∀ c ∈ piece, c ∈ run ∨ IsBasic c := by
  have hopening : ∀ c ∈ opening, IsBasic c := by decide
  have hclosing : ∀ c ∈ closing, IsBasic c := by decide
  have hjoint : ∀ c ∈ joint, IsBasic c := by decide
  rw [sectionPieces] at h
  split at h
  · cases h
  · intro c hc
    rcases List.mem_cons.1 h with rfl | h
    · exact Or.inr (hopening c hc)
    · rcases List.mem_append.1 h with h | h
      · rcases of_mem_intersperse h with h | rfl
        · exact Or.inl ((of_mem_splitAtEnd h).2 hc)
        · exact Or.inr (hjoint c hc)
      · exact Or.inr (hclosing c (List.mem_singleton.1 h ▸ hc))

/-- The characters of the pieces of data can be encoded, or are basic. -/
theorem of_mem_pieces {data piece : Text} (h : piece ∈ pieces canEncode data) :
    ∀ c ∈ piece, canEncode c = true ∨ IsBasic c := by
  have hrun : ∀ {run : Text}, (∀ c ∈ run, canEncode c = true) → piece ∈ sectionPieces run →
      ∀ c ∈ piece, canEncode c = true ∨ IsBasic c := fun hrun hpiece c hc =>
    (of_mem_sectionPieces hpiece c hc).imp_left (hrun c)
  have hempty : ∀ c ∈ opening ++ closing, IsBasic c := by decide
  rw [pieces] at h
  split at h
  · exact fun c hc => Or.inr (hempty c (List.mem_singleton.1 h ▸ hc))
  · rcases List.mem_append.1 h with h | h
    · exact hrun (fun c => canEncode_of_mem_fst_runs) h
    · obtain ⟨other, hother, h⟩ := List.mem_flatMap.1 h
      rcases List.mem_cons.1 h with rfl | h
      · exact fun c hc => Or.inr (Escaper.isBasic_hexReference hc)
      · exact hrun (of_mem_snd_runs hother).2.2.2 h

end CData

end XmlScribe
