/-
**Texts and how they are spelled.**

A raw text spells the data that it stands for once its references have been replaced.  Spellings can
be joined, so what several pieces of a raw text stand for is joined too, and expansion finds exactly
the data.

Main definitions:

* `Reference.Spells` — a raw text stands for some data.

Main results:

* `Reference.Spells.append` — spellings can be joined;
* `Reference.expand_of_spells` — expansion finds the data that is spelled;
* `Reference.spells_hexReference` — a hexadecimal reference spells its character.
-/

import XmlScribe.Entity.Escape
import XmlScribe.Entity.Reference

set_option autoImplicit false

namespace XmlScribe

/-! ### Hexadecimal digits -/

theorem Text.hexadecimal_eq (n : Nat) :
    hexadecimal n = if n < 16 then [(Nat.digitChar n).toUpper]
      else hexadecimal (n / 16) ++ [(Nat.digitChar (n % 16)).toUpper] := by
  rw [hexadecimal, Nat.toDigits_eq_if (by decide)]
  split
  · rfl
  · rw [List.map_append]
    rfl

namespace Numeral

theorem digit?_toUpper_digitChar :
    ∀ m < 16, digit? 16 (Nat.digitChar m).toUpper = some m := by decide

/-- The digits of a number are read as the number, whatever follows. -/
theorem readFrom_hexadecimal (n : Nat) (h : n < limit) (rest : Text) :
    readFrom 16 0 (Text.hexadecimal n ++ rest) = readFrom 16 n rest := by
  induction n using Nat.strongRecOn generalizing rest with
  | ind n ih =>
      rw [Text.hexadecimal_eq]
      split
      · rename_i hn
        simp only [List.cons_append, List.nil_append, readFrom, digit?_toUpper_digitChar n hn,
          Nat.zero_mul, Nat.zero_add, h, if_true]
      · rename_i hn
        have hm : n % 16 < 16 := Nat.mod_lt n (by decide)
        have hd : n / 16 * 16 + n % 16 = n := Nat.div_add_mod' n 16
        rw [List.append_assoc, ih (n / 16) (by omega) (by omega)]
        simp only [List.cons_append, List.nil_append, readFrom, digit?_toUpper_digitChar _ hm, hd,
          h, if_true]

/-- The digits of a number are digits. -/
theorem digit?_of_mem_hexadecimal {n : Nat} {c : Char} (hc : c ∈ Text.hexadecimal n) :
    digit? 16 c ≠ none := by
  induction n using Nat.strongRecOn with
  | ind n ih =>
      rw [Text.hexadecimal_eq] at hc
      split at hc
      · rename_i hn
        rw [List.mem_singleton.1 hc, digit?_toUpper_digitChar n hn]
        simp
      · rcases List.mem_append.1 hc with hc | hc
        · exact ih (n / 16) (by omega) hc
        · rw [List.mem_singleton.1 hc, digit?_toUpper_digitChar _ (Nat.mod_lt n (by decide))]
          simp

end Numeral

theorem Text.hexadecimal_ne_nil (n : Nat) : hexadecimal n ≠ [] := by
  rw [hexadecimal_eq]
  split <;> simp

namespace Reference

theorem readNumber_hexadecimal {n : Nat} (h : n < Numeral.limit) :
    readNumber 16 (Text.hexadecimal n) = .ok n := by
  have hhead : ¬ ((Text.hexadecimal n).head? = some '+' ∨
      (Text.hexadecimal n).head? = some '-') := by
    rintro (hc | hc)
    · exact Numeral.digit?_of_mem_hexadecimal (List.mem_of_mem_head? hc) (by decide)
    · exact Numeral.digit?_of_mem_hexadecimal (List.mem_of_mem_head? hc) (by decide)
  have hread := Numeral.readFrom_hexadecimal n h []
  rw [List.append_nil] at hread
  rw [readNumber, if_neg hhead, Numeral.read]
  simp only [List.isEmpty_iff, Text.hexadecimal_ne_nil, if_false, hread]
  rfl

theorem toNat_lt_limit (c : Char) : c.toNat < Numeral.limit := by
  have h := c.val.toNat_lt
  exact h

theorem charOfCode?_toNat (c : Char) : Text.charOfCode? c.toNat = some c := by
  have h : c.toNat.isValidChar := c.valid
  rw [Text.charOfCode?, if_pos h, Char.ofNat_toNat]

/-- The hexadecimal digits of a character denote it, unless it is the null character. -/
theorem charOf_hexadecimal {c : Char} (hc : c ≠ '\x00') :
    charOf ('x' :: Text.hexadecimal c.toNat) = .ok c := by
  have hn : c.toNat ≠ 0 := fun h => hc (by rw [← Char.ofNat_toNat c, h])
  obtain ⟨m, hm⟩ := Nat.exists_eq_succ_of_ne_zero hn
  have h := charOfCode?_toNat c
  simp only [charOf, readNumber_hexadecimal (toNat_lt_limit c)]
  rw [hm] at h ⊢
  simp only [h]

/-! ### Spellings -/

/-- The raw text stands for the data, where `lookup` knows the declared entities. -/
inductive Spells (lookup : Text → Option Text) : (raw data : Text) → Prop where
  /-- Nothing stands for nothing. -/
  | nil : Spells lookup [] []
  /-- A character that begins no reference stands for itself. -/
  | char {c : Char} {raw data : Text} (hc : c ≠ '&') (h : Spells lookup raw data) :
      Spells lookup (c :: raw) (c :: data)
  /-- A reference stands for what it denotes. -/
  | reference {name value raw data : Text} (hs : ';' ∉ name) (ha : '&' ∉ name)
      (hv : ∀ start, resolve lookup start name = .ok value) (h : Spells lookup raw data) :
      Spells lookup ('&' :: name ++ ';' :: raw) (value ++ data)

variable {lookup : Text → Option Text}

/-- Spellings can be joined. -/
theorem Spells.append {raw data raw' data' : Text} (h : Spells lookup raw data)
    (h' : Spells lookup raw' data') : Spells lookup (raw ++ raw') (data ++ data') := by
  induction h with
  | nil => exact h'
  | char hc _ ih => exact ih.char hc
  | reference hs ha hv _ ih =>
      have := ih.reference hs ha hv
      simpa [List.append_assoc] using this

/-- A text without references stands for itself. -/
theorem spells_self {s : Text} (h : '&' ∉ s) : Spells lookup s s := by
  induction s with
  | nil => exact .nil
  | cons c s ih =>
      simp only [List.mem_cons, not_or] at h
      exact (ih h.2).char (Ne.symm h.1)

theorem spells_reference {name value : Text} (hs : ';' ∉ name) (ha : '&' ∉ name)
    (hv : ∀ start, resolve lookup start name = .ok value) :
    Spells lookup (Escaper.entityReference name) value := by
  have h : Spells lookup ('&' :: name ++ [';']) (value ++ []) := Spells.nil.reference hs ha hv
  rwa [List.append_nil] at h

/-- A hexadecimal reference spells its character, unless it is the null character. -/
theorem spells_hexReference {c : Char} (hc : c ≠ '\x00') :
    Spells lookup (Escaper.hexReference c) [c] := by
  have hdigit : ∀ d, Numeral.digit? 16 d = none → d ≠ '#' → d ≠ 'x' →
      d ∉ '#' :: 'x' :: Text.hexadecimal c.toNat := by
    intro d hd h₁ h₂ hm
    rcases List.mem_cons.1 hm with rfl | hm
    · exact h₁ rfl
    · rcases List.mem_cons.1 hm with rfl | hm
      · exact h₂ rfl
      · exact Numeral.digit?_of_mem_hexadecimal hm hd
  refine spells_reference (hdigit ';' (by decide) (by decide) (by decide))
    (hdigit '&' (by decide) (by decide) (by decide)) fun start => ?_
  show resolve lookup start ('#' :: 'x' :: Text.hexadecimal c.toNat) = .ok [c]
  rw [resolve, charOf_hexadecimal hc]
  rfl

/-! ### Expansion -/

theorem expandFrom_name {name : Text} (hs : ';' ∉ name) (ha : '&' ∉ name)
    (total place start : Nat) (before rest : Text) :
    expandFrom lookup total place (some (start, before)) (name ++ ';' :: rest) =
      expandFrom lookup total (place + Text.utf8Size name)
        (some (start, name.reverse ++ before)) (';' :: rest) := by
  induction name generalizing place before with
  | nil => rfl
  | cons c name ih =>
      simp only [List.mem_cons, not_or] at hs ha
      rw [List.cons_append, expandFrom, if_neg (Ne.symm hs.1), if_neg (Ne.symm ha.1),
        ih hs.2 ha.2, List.reverse_cons, List.append_assoc, Text.utf8Size, Nat.add_assoc]
      rfl

/-- A reference is looked up under its name. -/
theorem expandFrom_reference {name : Text} (hs : ';' ∉ name) (ha : '&' ∉ name)
    (total place : Nat) (rest : Text) :
    expandFrom lookup total place none ('&' :: name ++ ';' :: rest) =
      match resolve lookup (place + 1) name with
      | .error fault => .error fault
      | .ok value =>
          (expandFrom lookup total (place + 1 + Text.utf8Size name + 1) none rest).map
            (value ++ ·) := by
  have hname : expandFrom lookup total place none ('&' :: name ++ ';' :: rest) =
      expandFrom lookup total (place + 1 + Text.utf8Size name) (some (place, name.reverse))
        (';' :: rest) := by
    rw [List.cons_append, expandFrom, if_pos rfl, expandFrom_name hs ha, List.append_nil]
  rw [hname]
  split
  · rename_i fault hfault
    rw [expandFrom, if_pos rfl, List.reverse_reverse, hfault]
  · rename_i value hvalue
    rw [expandFrom, if_pos rfl, List.reverse_reverse, hvalue]

/-- Expansion finds the data that is spelled, wherever it is and whatever follows. -/
theorem expandFrom_append_of_spells {raw data : Text} (h : Spells lookup raw data)
    (total place : Nat) (rest : Text) :
    expandFrom lookup total place none (raw ++ rest) =
      (expandFrom lookup total (place + Text.utf8Size raw) none rest).map (data ++ ·) := by
  induction h generalizing place with
  | nil => cases h : expandFrom lookup total place none rest <;> simp [Text.utf8Size, Except.map, h]
  | char hc _ ih =>
      rw [List.cons_append, expandFrom, if_neg hc, ih, Text.utf8Size, Nat.add_assoc]
      cases expandFrom lookup total _ none rest <;> rfl
  | @reference name value raw data hs ha hv _ ih =>
      have hplace : place + Text.utf8Size ('&' :: name ++ ';' :: raw) =
          place + 1 + Text.utf8Size name + 1 + Text.utf8Size raw := by
        have hmarks : Char.utf8Size '&' = 1 ∧ Char.utf8Size ';' = 1 := by decide
        rw [List.cons_append, Text.utf8Size, Text.utf8Size_append, Text.utf8Size, hmarks.1, hmarks.2]
        omega
      have hassoc : '&' :: name ++ ';' :: raw ++ rest = '&' :: name ++ ';' :: (raw ++ rest) := by
        simp
      rw [hassoc, expandFrom_reference hs ha, hv, hplace]
      dsimp only
      rw [ih]
      cases expandFrom lookup total _ none rest <;> simp [Except.map]

/-- Expansion finds the data that is spelled, wherever it is. -/
theorem expandFrom_of_spells {raw data : Text} (h : Spells lookup raw data) (total place : Nat) :
    expandFrom lookup total place none raw = .ok data := by
  have hrest := expandFrom_append_of_spells h total place []
  rw [List.append_nil] at hrest
  rw [hrest, expandFrom]
  simp [Except.map]

/-- Expansion finds the data that is spelled. -/
theorem expand_of_spells {raw data : Text} (h : Spells lookup raw data) :
    expand lookup raw = .ok data :=
  expandFrom_of_spells h _ _

end Reference

end XmlScribe
