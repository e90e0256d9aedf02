/-
**What numerals denote.**

Digits denote a number in the positional system of their radix, however many they are and whatever
zeros are in front.  A numeral is read exactly if it consists of digits, one at least, and the number
is below the limit.  The limit is watched digit by digit, which comes to the same: a further digit
never makes a number smaller.

Main definitions:

* `Numeral.Denotes` — digits denote a number;
* `Numeral.DenotesSigned` — the same with one plus sign in front, or none;
* `Numeral.Prolongs` — digits denote a number together with those that have been read before.

Main results:

* `Numeral.read_eq_ok_iff`, `Numeral.readSigned_eq_ok_iff` — which numerals are read;
* `Numeral.DenotesSigned.denotes_iff` — the sign is the only difference.
-/

import Mathlib.Data.Nat.Digits.Defs
import Mathlib.Tactic.Ring
import XmlScribe.Text.Numeral

set_option autoImplicit false

namespace XmlScribe

namespace Numeral

variable {radix n : Nat} {s : Text}

/-- The digits denote the number. -/
def Denotes (radix : Nat) (s : Text) (n : Nat) : Prop :=
  s ≠ [] ∧ ∃ values : List Nat, s.map (digit? radix) = values.map some ∧
    n = Nat.ofDigits radix values.reverse

/-- The digits denote the number; one plus sign may stand in front of them. -/
def DenotesSigned (radix : Nat) (s : Text) (n : Nat) : Prop :=
  ∃ digits, (s = digits ∨ s = '+' :: digits) ∧ Denotes radix digits n

theorem Denotes.signed (h : Denotes radix s n) : DenotesSigned radix s n :=
  ⟨s, .inl rfl, h⟩

theorem Denotes.isSome_digit? (h : Denotes radix s n) {c : Char} (hc : c ∈ s) :
    (digit? radix c).isSome = true := by
  obtain ⟨-, values, hvalues, -⟩ := h
  have hm : digit? radix c ∈ values.map some := hvalues ▸ List.mem_map_of_mem hc
  obtain ⟨d, -, hd⟩ := List.mem_map.1 hm
  rw [← hd]
  rfl

/-- A character that is no digit is not among digits. -/
theorem Denotes.not_mem (h : Denotes radix s n) {c : Char} (hc : digit? radix c = none) :
    c ∉ s := fun hm => by
  have hsome := h.isSome_digit? hm
  rw [hc] at hsome
  cases hsome

/-- The sign is the only difference. -/
theorem DenotesSigned.denotes_iff (h : DenotesSigned radix s n) :
    Denotes radix s n ↔ '+' ∉ s := by
  refine ⟨fun hs => hs.not_mem rfl, fun hs => ?_⟩
  obtain ⟨digits, rfl | rfl, hd⟩ := h
  · exact hd
  · exact absurd List.mem_cons_self hs

/-! ### Reading -/

/-- The digits denote the number when they stand after others that denote `value`. -/
def Prolongs (radix value : Nat) (s : Text) (n : Nat) : Prop :=
  ∃ values : List Nat, s.map (digit? radix) = values.map some ∧
    n = value * radix ^ values.length + Nat.ofDigits radix values.reverse

theorem denotes_iff : Denotes radix s n ↔ s ≠ [] ∧ Prolongs radix 0 s n := by
  simp only [Denotes, Prolongs, Nat.zero_mul, Nat.zero_add]

theorem prolongs_nil {value : Nat} : Prolongs radix value [] n ↔ value = n := by
  constructor
  · rintro ⟨values, hv, hn⟩
    obtain rfl := List.map_eq_nil_iff.1 hv.symm
    simpa using hn.symm
  · rintro rfl
    exact ⟨[], rfl, by simp⟩

/-- What has been read before moves up one place for every digit to come. -/
theorem mul_pow_add_ofDigits_cons (radix value d : Nat) (values : List Nat) :
    value * radix ^ (d :: values).length + Nat.ofDigits radix (d :: values).reverse =
      (value * radix + d) * radix ^ values.length + Nat.ofDigits radix values.reverse := by
  rw [List.reverse_cons, Nat.ofDigits_append, Nat.ofDigits_singleton, List.length_reverse,
    List.length_cons]
  ring

theorem prolongs_cons {value : Nat} {c : Char} :
    Prolongs radix value (c :: s) n ↔
      ∃ d, digit? radix c = some d ∧ Prolongs radix (value * radix + d) s n := by
  constructor
  · rintro ⟨values, hv, hn⟩
    cases values with
    | nil => cases hv
    | cons d values =>
        obtain ⟨hd, hrest⟩ := List.cons.inj hv
        exact ⟨d, hd, values, hrest, by rw [hn, mul_pow_add_ofDigits_cons]⟩
  · rintro ⟨d, hd, values, hv, hn⟩
    exact ⟨d :: values, by rw [List.map_cons, hd, hv, List.map_cons],
      by rw [hn, mul_pow_add_ofDigits_cons]⟩

/-- A further digit never makes a number smaller. -/
theorem Prolongs.le {value : Nat} (hradix : 0 < radix) (h : Prolongs radix value s n) :
    value ≤ n := by
  obtain ⟨values, -, rfl⟩ := h
  have hpow : 1 ≤ radix ^ values.length := Nat.pow_pos hradix
  exact (Nat.le_mul_of_pos_right value hpow).trans (Nat.le_add_right _ _)

/-- The limit is watched digit by digit. -/
theorem readFrom_eq_ok_iff {value : Nat} (hradix : 0 < radix) (hvalue : value < limit) :
    readFrom radix value s = .ok n ↔ Prolongs radix value s n ∧ n < limit := by
  induction s generalizing value with
  | nil =>
      rw [readFrom, Except.ok.injEq, prolongs_nil]
      exact ⟨fun h => ⟨h, h ▸ hvalue⟩, And.left⟩
  | cons c s ih =>
      rw [prolongs_cons, readFrom]
      cases hd : digit? radix c with
      | none => simp
      | some d =>
          simp only [Option.some.injEq, exists_eq_left']
          split
          · rename_i hnext
            exact ih hnext
          · rename_i hnext
            -- The digits so far denote too large a number, and those to come only add to it.
            refine iff_of_false nofun fun ⟨hn, hlimit⟩ => hnext ?_
            exact (hn.le hradix).trans_lt hlimit

/-- A numeral is read exactly if it denotes a number below the limit. -/
theorem read_eq_ok_iff (hradix : 0 < radix) :
    read radix s = .ok n ↔ Denotes radix s n ∧ n < limit := by
  cases s with
  | nil => exact iff_of_false nofun fun h => h.1.1 rfl
  | cons c s =>
      rw [read, if_neg (by simp), readFrom_eq_ok_iff hradix (by decide), denotes_iff]
      simp

/-- The same with a plus sign in front, or none. -/
theorem readSigned_eq_ok_iff (hradix : 0 < radix) :
    readSigned radix s = .ok n ↔ DenotesSigned radix s n ∧ n < limit := by
  rw [readSigned.eq_def]
  split
  · refine iff_of_false nofun ?_
    rintro ⟨⟨digits, rfl | hs, hd⟩, -⟩
    · exact hd.not_mem rfl (List.mem_singleton_self '+')
    · exact hd.1 (List.cons.inj hs).2.symm
  · rename_i t ht
    have ht : t ≠ [] := fun h => ht (by rw [h])
    have hread : readFrom radix 0 t = read radix t := by
      rw [read, if_neg (by simpa using ht)]
    rw [hread, read_eq_ok_iff hradix]
    refine and_congr_left fun _ => ⟨fun h => ⟨t, .inr rfl, h⟩, ?_⟩
    rintro ⟨digits, rfl | hs, hd⟩
    · exact absurd List.mem_cons_self (hd.not_mem rfl)
    · rwa [(List.cons.inj hs).2]
  · rename_i hsign
    rw [read_eq_ok_iff hradix]
    refine and_congr_left fun _ => ⟨Denotes.signed, ?_⟩
    rintro ⟨digits, rfl | rfl, hd⟩
    · exact hd
    · exact absurd rfl (hsign digits)

end Numeral

end XmlScribe
