/-
**Character references in the values of entities.**

A character reference holds decimal digits, or `x` and hexadecimal digits; it denotes the character
with that number.  In content it is replaced exactly if it denotes a character other than the null
character.  In the value of an entity it is replaced when the entity is declared, and there a plus sign
may stand in front of the digits, and the null character may be denoted; in every other case both agree.

Main definitions:

* `Reference.Denotes` — a character reference denotes a character;
* `Doctype.Expands` — a value with some character references replaced.

Main results:

* `Reference.charOf_eq_ok_iff` — which character references are replaced in content;
* `Doctype.charOfDigits_eq_ok_iff`, `Doctype.expandCharRefs_eq_ok_iff` — which are replaced in the
  value of an entity;
* `Doctype.expandCharRefs_reference_iff` — where the two agree.
-/

import XmlScribe.Doctype.Entities
import XmlScribe.Proofs.Entity.Referring
import XmlScribe.Proofs.Text.Numeral

set_option autoImplicit false

namespace XmlScribe

/-- The character with a number, if it is the number of a character. -/
theorem Text.charOfCode?_eq_some_iff {n : Nat} {c : Char} : charOfCode? n = some c ↔ n = c.toNat := by
  constructor
  · intro h
    rw [charOfCode?] at h
    split at h
    · rename_i hn
      rw [← Option.some.inj h, Char.ofNat, dif_pos hn]
      rfl
    · cases h
  · rintro rfl
    exact Reference.charOfCode?_toNat c

namespace Reference

/-- The text between `&#` and the semicolon denotes the character, where `denotes` tells which numbers
digits denote. -/
def Denotes (denotes : (radix : Nat) → Text → Nat → Prop) (digits : Text) (c : Char) : Prop :=
  denotes 10 digits c.toNat ∨ ∃ hex, digits = 'x' :: hex ∧ denotes 16 hex c.toNat

/-- The character reference. -/
def numeric (digits : Text) : Text :=
  Escaper.entityReference ('#' :: digits)

variable {digits : Text} {c : Char}

/-- Without a plus sign both readings of digits are the same. -/
theorem denotes_iff_of_signed (h : Denotes Numeral.DenotesSigned digits c) :
    Denotes Numeral.Denotes digits c ↔ '+' ∉ digits := by
  constructor
  · rintro (hd | ⟨hex, rfl, hd⟩)
    · exact hd.not_mem rfl
    · simpa using hd.not_mem (c := '+') rfl
  · intro hs
    rcases h with hd | ⟨hex, rfl, hd⟩
    · exact .inl (hd.denotes_iff.2 hs)
    · exact .inr ⟨hex, rfl, hd.denotes_iff.2 fun hm => hs (List.mem_cons_of_mem _ hm)⟩

theorem Denotes.signed (h : Denotes Numeral.Denotes digits c) :
    Denotes Numeral.DenotesSigned digits c :=
  h.imp Numeral.Denotes.signed fun ⟨hex, he, hd⟩ => ⟨hex, he, hd.signed⟩

theorem denotes_hexadecimal_iff {denotes : (radix : Nat) → Text → Nat → Prop} {hex : Text}
    (hx : ¬ denotes 10 ('x' :: hex) c.toNat) :
    Denotes denotes ('x' :: hex) c ↔ denotes 16 hex c.toNat := by
  refine ⟨fun h => ?_, fun h => .inr ⟨hex, rfl, h⟩⟩
  obtain ⟨_, he, hd⟩ := h.resolve_left hx
  rwa [(List.cons.inj he).2]

theorem denotes_decimal_iff {denotes : (radix : Nat) → Text → Nat → Prop}
    (hx : ∀ hex, digits ≠ 'x' :: hex) : Denotes denotes digits c ↔ denotes 10 digits c.toNat :=
  ⟨fun h => h.resolve_right fun ⟨hex, he, _⟩ => hx hex he, .inl⟩

/-! ### Content -/

theorem readNumber_eq_ok_iff {radix n : Nat} (hradix : 0 < radix) :
    readNumber radix digits = .ok n ↔ Numeral.Denotes radix digits n ∧ n < Numeral.limit := by
  rw [readNumber]
  split
  · rename_i hsign
    refine iff_of_false (by simp) fun h => ?_
    rcases hsign with hsign | hsign
    · exact h.1.not_mem rfl (List.mem_of_mem_head? hsign)
    · exact h.1.not_mem rfl (List.mem_of_mem_head? hsign)
  · rw [Outcome.mapError_eq_ok_iff, Numeral.read_eq_ok_iff hradix]

/-- The character with a number that has been read. -/
def charOfNumber : Except CharRefFault Nat → Except CharRefFault Char
  | .error fault => .error fault
  | .ok 0 => .error .null
  | .ok n =>
      match Text.charOfCode? n with
      | some c => .ok c
      | none => .error (.notACharacter n)

theorem charOf_hexadecimal_eq (hex : Text) :
    charOf ('x' :: hex) = charOfNumber (readNumber 16 hex) := rfl

theorem charOf_decimal_eq (hx : ∀ hex, digits ≠ 'x' :: hex) :
    charOf digits = charOfNumber (readNumber 10 digits) := by
  rw [charOf]
  · rfl
  · exact hx

theorem charOfNumber_eq_ok_iff {number : Except CharRefFault Nat} :
    charOfNumber number = .ok c ↔ number = .ok c.toNat ∧ c ≠ '\x00' := by
  have hzero : c ≠ '\x00' ↔ c.toNat ≠ 0 := by
    rw [ne_eq, ne_eq, ← Char.toNat_inj]
    rfl
  rw [hzero, charOfNumber.eq_def]
  split
  · exact iff_of_false nofun fun h => nomatch h.1
  · exact iff_of_false nofun fun h => h.2 (Except.ok.inj h.1).symm
  · rename_i n hn
    have hchar : Text.charOfCode? n = some c ↔ n = c.toNat := Text.charOfCode?_eq_some_iff
    split
    · rename_i found hfound
      rw [hfound, Option.some.injEq] at hchar
      rw [Except.ok.injEq, Except.ok.injEq, hchar]
      exact ⟨fun h => ⟨h, h ▸ hn⟩, And.left⟩
    · rename_i hnone
      rw [hnone] at hchar
      exact iff_of_false nofun fun h => nomatch hchar.2 (Except.ok.inj h.1)

/-- In content a character reference denotes any character but the null character. -/
theorem charOf_eq_ok_iff :
    charOf digits = .ok c ↔ Denotes Numeral.Denotes digits c ∧ c ≠ '\x00' := by
  by_cases hx : ∃ hex, digits = 'x' :: hex
  · obtain ⟨hex, rfl⟩ := hx
    rw [charOf_hexadecimal_eq, charOfNumber_eq_ok_iff, readNumber_eq_ok_iff (by decide),
      and_iff_left (toNat_lt_limit c),
      denotes_hexadecimal_iff fun h => h.not_mem rfl List.mem_cons_self]
  · have hx : ∀ hex, digits ≠ 'x' :: hex := fun hex he => hx ⟨hex, he⟩
    rw [charOf_decimal_eq hx, charOfNumber_eq_ok_iff, readNumber_eq_ok_iff (by decide),
      and_iff_left (toNat_lt_limit c), denotes_decimal_iff hx]

/-- The text between `&#` and the semicolon is that of a character reference of XML. -/
def StandsFor (digits : Text) (c : Char) : Prop :=
  Denotes Numeral.Denotes digits c ∧ c ≠ '\x00'

/-- A character that is no digit and no `x` is not in a character reference. -/
theorem Denotes.not_mem (h : Denotes Numeral.Denotes digits c) {d : Char}
    (hd : Numeral.digit? 10 d = none ∧ Numeral.digit? 16 d = none ∧ d ≠ 'x') : d ∉ digits := by
  rcases h with h | ⟨hex, rfl, h⟩
  · exact h.not_mem hd.1
  · simpa [hd.2.2] using h.not_mem hd.2.1

/-- A character reference by itself, in content. -/
theorem expand_numeric_eq_ok_iff (lookup : Text → Option Text) (hs : ';' ∉ digits) :
    expand lookup (numeric digits) = .ok [c] ↔ StandsFor digits c := by
  have haround := @expand_around_eq_ok_iff lookup ('#' :: digits) [c] (by simpa using hs) [] []
  rw [List.nil_append, List.append_nil] at haround
  rw [numeric, haround, StandsFor, ← charOf_eq_ok_iff]
  constructor
  · rintro ⟨first, value, last, hfirst, -, hvalue, hlast, hdata⟩
    obtain rfl := Except.ok.inj hfirst
    obtain rfl := Except.ok.inj hlast
    obtain ⟨d, hd, rfl⟩ := Outcome.map_eq_ok_iff.1 (Outcome.mapError_eq_ok_iff.1 (hvalue 0))
    rw [List.nil_append, List.append_nil] at hdata
    rwa [List.singleton_inj.1 hdata]
  · intro hc
    have hamp : '&' ∉ digits := (charOf_eq_ok_iff.1 hc).1.not_mem (by decide)
    refine ⟨[], [c], [], rfl, by simpa using hamp, fun start => ?_, rfl, rfl⟩
    rw [resolve, hc]
    rfl

end Reference

namespace Doctype

open Reference

variable {digits value data : Text} {c : Char}

/-! ### Values -/

/-- The character that a reference in the value of an entity denotes. -/
def charOfDigits? (digits : Text) : Option Char :=
  (match digits with
    | 'x' :: hex => Numeral.readSigned 16 hex
    | decimal => Numeral.readSigned 10 decimal).toOption.bind Text.charOfCode?

theorem charOfDigits_eq (digits : Text) :
    charOfDigits digits =
      match charOfDigits? digits with
      | some c => .ok c
      | none => .error (.invalidReference digits) := rfl

theorem readSigned_bind_eq_some_iff {radix : Nat} (hradix : 0 < radix) :
    (Numeral.readSigned radix digits).toOption.bind Text.charOfCode? = some c ↔
      Numeral.DenotesSigned radix digits c.toNat := by
  have hread := Numeral.readSigned_eq_ok_iff (s := digits) (n := c.toNat) hradix
  rw [and_iff_left (toNat_lt_limit c)] at hread
  rw [← hread]
  cases Numeral.readSigned radix digits with
  | error fault => simp [Except.toOption]
  | ok n => simp [Except.toOption, Text.charOfCode?_eq_some_iff]

/-- In the value of an entity a plus sign may stand in front of the digits. -/
theorem charOfDigits?_eq_some_iff :
    charOfDigits? digits = some c ↔ Denotes Numeral.DenotesSigned digits c := by
  by_cases hx : ∃ hex, digits = 'x' :: hex
  · obtain ⟨hex, rfl⟩ := hx
    have hdecimal : ¬ Numeral.DenotesSigned 10 ('x' :: hex) c.toNat := by
      rintro ⟨other, rfl | hother, h⟩
      · exact h.not_mem rfl List.mem_cons_self
      · cases hother
    rw [denotes_hexadecimal_iff hdecimal, ← readSigned_bind_eq_some_iff (by decide)]
    rfl
  · have hx : ∀ hex, digits ≠ 'x' :: hex := fun hex he => hx ⟨hex, he⟩
    rw [denotes_decimal_iff hx, ← readSigned_bind_eq_some_iff (by decide), charOfDigits?]
    exact hx

/-- A reference is replaced by what it denotes, or is the fault. -/
theorem charOfDigits_eq_ok_iff :
    charOfDigits digits = .ok c ↔ Denotes Numeral.DenotesSigned digits c := by
  rw [charOfDigits_eq, ← charOfDigits?_eq_some_iff]
  split
  · rename_i found hfound
    simp [hfound]
  · rename_i hnone
    simp [hnone]

theorem charOfDigits_of_not_denotes (h : ∀ c, ¬ Denotes Numeral.DenotesSigned digits c) :
    charOfDigits digits = .error (.invalidReference digits) := by
  rw [charOfDigits_eq]
  split
  · rename_i found hfound
    exact absurd (charOfDigits?_eq_some_iff.1 hfound) (h found)
  · rfl

/-- The value with those character references replaced that stand for something. -/
inductive Expands (standsFor : Text → Char → Prop) : (value data : Text) → Prop where
  /-- Nothing is left as it is. -/
  | nil : Expands standsFor [] []
  /-- A character that begins no reference is left as it is. -/
  | char {c : Char} {value data : Text} (hc : c = '&' → value.head? ≠ some '#')
      (h : Expands standsFor value data) : Expands standsFor (c :: value) (c :: data)
  /-- A reference is replaced. -/
  | reference {digits : Text} {c : Char} {value data : Text} (hs : ';' ∉ digits)
      (hc : standsFor digits c) (h : Expands standsFor value data) :
      Expands standsFor (numeric digits ++ value) (c :: data)

theorem Expands.mono {standsFor standsFor' : Text → Char → Prop}
    (hmono : ∀ digits c, standsFor digits c → standsFor' digits c)
    (h : Expands standsFor value data) : Expands standsFor' value data := by
  induction h with
  | nil => exact .nil
  | char hc _ ih => exact ih.char hc
  | reference hs hc _ ih => exact ih.reference hs (hmono _ _ hc)

theorem expandCharRefsFrom_char (hc : c = '&' → value.head? ≠ some '#') :
    expandCharRefsFrom none (c :: value) = (expandCharRefsFrom none value).map (c :: ·) := by
  rw [expandCharRefsFrom]
  rintro rest rfl rfl
  exact hc rfl rfl

theorem expandCharRefsFrom_digits (hs : ';' ∉ digits) (before rest : Text) :
    expandCharRefsFrom (some before) (digits ++ ';' :: rest) =
      (charOfDigits (before.reverse ++ digits)).bind fun c =>
        (expandCharRefsFrom none rest).map (c :: ·) := by
  induction digits generalizing before with
  | nil =>
      rw [List.nil_append, expandCharRefsFrom, if_pos rfl, List.append_nil]
      cases charOfDigits before.reverse <;> rfl
  | cons d digits ih =>
      simp only [List.mem_cons, not_or] at hs
      rw [List.cons_append, expandCharRefsFrom, if_neg (Ne.symm hs.1), ih hs.2, List.reverse_cons,
        List.append_assoc, List.singleton_append]

/-- A reference comes first. -/
theorem expandCharRefsFrom_numeric (hs : ';' ∉ digits) (rest : Text) :
    expandCharRefsFrom none (numeric digits ++ rest) =
      (charOfDigits digits).bind fun c => (expandCharRefsFrom none rest).map (c :: ·) := by
  have hassoc : numeric digits ++ rest = '&' :: '#' :: (digits ++ ';' :: rest) := by
    simp [numeric, Escaper.entityReference]
  rw [hassoc, expandCharRefsFrom, expandCharRefsFrom_digits hs]
  rfl

theorem expandCharRefsFrom_of_not_mem (hs : ';' ∉ value) (before : Text) :
    expandCharRefsFrom (some before) value = .error .unterminatedReference := by
  induction value generalizing before with
  | nil => rfl
  | cons c value ih =>
      simp only [List.mem_cons, not_or] at hs
      rw [expandCharRefsFrom, if_neg (Ne.symm hs.1), ih hs.2]

/-- How a value begins: with a character that is left as it is, with a reference, or with one that
does not end. -/
theorem cases_of_value (c : Char) (value : Text) :
    (c = '&' → value.head? ≠ some '#') ∨
      (∃ digits rest, ';' ∉ digits ∧ c :: value = numeric digits ++ rest) ∨
      ∃ rest, ';' ∉ rest ∧ c :: value = '&' :: '#' :: rest := by
  by_cases hc : c = '&' ∧ value.head? = some '#'
  · obtain ⟨rfl, hvalue⟩ := hc
    obtain ⟨value, rfl⟩ := List.head?_eq_some_iff.1 hvalue
    by_cases hs : ';' ∈ value
    · obtain ⟨digits, rest, rfl, hdigits⟩ := List.eq_append_cons_of_mem hs
      exact .inr (.inl ⟨digits, rest, hdigits, by simp [numeric, Escaper.entityReference]⟩)
    · exact .inr (.inr ⟨value, hs, rfl⟩)
  · exact .inl fun h hvalue => hc ⟨h, hvalue⟩

/-- Which values are accepted, and what they come to. -/
theorem expandCharRefs_eq_ok_iff :
    expandCharRefs value = .ok data ↔ Expands (Denotes Numeral.DenotesSigned) value data := by
  rw [expandCharRefs]
  constructor
  · intro h
    -- A reference is taken off as a whole, so the induction is on the length of the value.
    induction hlength : value.length using Nat.strongRecOn generalizing value data with
    | ind length ih =>
        cases value with
        | nil =>
            obtain rfl := Except.ok.inj h
            exact .nil
        | cons c value =>
            rcases cases_of_value c value with hc | ⟨digits, rest, hs, he⟩ | ⟨rest, hs, he⟩
            · rw [expandCharRefsFrom_char hc] at h
              obtain ⟨data, hdata, rfl⟩ := Outcome.map_eq_ok_iff.1 h
              exact (ih value.length (by simp [← hlength]) hdata rfl).char hc
            · rw [he, expandCharRefsFrom_numeric hs] at h
              obtain ⟨d, hd, h⟩ := Outcome.bind_eq_ok_iff.1 h
              obtain ⟨data, hdata, rfl⟩ := Outcome.map_eq_ok_iff.1 h
              rw [he] at hlength ⊢
              have hshort : rest.length < length := by
                rw [← hlength]
                simp [numeric, Escaper.entityReference]
                omega
              exact (ih rest.length hshort hdata rfl).reference hs (charOfDigits_eq_ok_iff.1 hd)
            · rw [he, expandCharRefsFrom, expandCharRefsFrom_of_not_mem hs] at h
              cases h
  · intro h
    induction h with
    | nil => rfl
    | char hc _ ih =>
        rw [expandCharRefsFrom_char hc, ih]
        rfl
    | reference hs hc _ ih =>
        rw [expandCharRefsFrom_numeric hs, charOfDigits_eq_ok_iff.2 hc, ih]
        rfl

/-- A reference by itself, in the value of an entity. -/
theorem expandCharRefs_numeric (hs : ';' ∉ digits) :
    expandCharRefs (numeric digits) = (charOfDigits digits).map fun c => [c] := by
  have h := expandCharRefsFrom_numeric hs []
  rw [List.append_nil] at h
  rw [expandCharRefs, h]
  cases charOfDigits digits <;> rfl

/-- Whatever stands for something in content stands for the same in the value of an entity. -/
theorem charOfDigits_of_standsFor (h : StandsFor digits c) : charOfDigits digits = .ok c :=
  charOfDigits_eq_ok_iff.2 h.1.signed

/-- A character reference is replaced in the value of an entity as in content, and refused where
content refuses it, unless it is accepted with a plus sign or denotes the null character. -/
theorem charOfDigits_agrees_iff :
    ((∀ c, charOfDigits digits = .ok c ↔ StandsFor digits c) ∧
      ((∀ c, ¬ StandsFor digits c) → charOfDigits digits = .error (.invalidReference digits))) ↔
    ∀ c, Denotes Numeral.DenotesSigned digits c → '+' ∉ digits ∧ c ≠ '\x00' := by
  constructor
  · rintro ⟨h, -⟩ c hc
    have hstands := (h c).1 (charOfDigits_eq_ok_iff.2 hc)
    exact ⟨(denotes_iff_of_signed hc).1 hstands.1, hstands.2⟩
  · intro h
    have hiff : ∀ c, Denotes Numeral.DenotesSigned digits c ↔ StandsFor digits c := fun c =>
      ⟨fun hc => ⟨(denotes_iff_of_signed hc).2 (h c hc).1, (h c hc).2⟩, fun hc => hc.1.signed⟩
    exact ⟨fun c => charOfDigits_eq_ok_iff.trans (hiff c),
      fun hnone => charOfDigits_of_not_denotes fun c hc => hnone c ((hiff c).1 hc)⟩

theorem expandCharRefs_numeric_eq_ok_iff (hs : ';' ∉ digits) :
    expandCharRefs (numeric digits) = .ok [c] ↔ charOfDigits digits = .ok c := by
  rw [expandCharRefs_numeric hs, Outcome.map_eq_ok_iff]
  simp

theorem expandCharRefs_numeric_eq_error_iff (hs : ';' ∉ digits) {fault : DoctypeFault} :
    expandCharRefs (numeric digits) = .error fault ↔ charOfDigits digits = .error fault := by
  rw [expandCharRefs_numeric hs]
  cases charOfDigits digits <;> simp [Except.map]

/-- Which character references are replaced in content; where the value of an entity agrees with that;
and what comes of a value that holds such references only. -/
theorem expandCharRefs_reference_iff (hs : ';' ∉ digits) :
    (∀ lookup c, Reference.expand lookup (numeric digits) = .ok [c] ↔ StandsFor digits c) ∧
      (((∀ c, expandCharRefs (numeric digits) = .ok [c] ↔ StandsFor digits c) ∧
          ((∀ c, ¬ StandsFor digits c) →
            expandCharRefs (numeric digits) = .error (.invalidReference digits))) ↔
        ∀ c, Denotes Numeral.DenotesSigned digits c → '+' ∉ digits ∧ c ≠ '\x00') ∧
      ∀ value data, Expands StandsFor value data → expandCharRefs value = .ok data := by
  refine ⟨fun lookup c => expand_numeric_eq_ok_iff lookup hs, ?_, fun value data h => ?_⟩
  · simp only [expandCharRefs_numeric_eq_ok_iff hs, expandCharRefs_numeric_eq_error_iff hs]
    exact charOfDigits_agrees_iff
  · exact expandCharRefs_eq_ok_iff.2 (h.mono fun _ _ hc => hc.1.signed)

theorem standsFor_acute : StandsFor "xE9".toList 'é' :=
  ⟨.inr ⟨"E9".toList, rfl, by decide, [14, 9], by decide, by decide⟩, by decide⟩

theorem expandCharRefs_reference_acute :
    expandCharRefs (numeric "xE9".toList) = .ok ['é'] ∧
      expandCharRefs ("caf".toList ++ (numeric "xE9".toList ++ "&amp;".toList)) =
        .ok "café&amp;".toList := by
  have hsigned : ∀ c, Denotes Numeral.DenotesSigned "xE9".toList c →
      '+' ∉ "xE9".toList ∧ c ≠ '\x00' := by
    intro c hc
    have hchar : charOfDigits? "xE9".toList = some 'é' := by decide
    obtain rfl := Option.some.inj (hchar.symm.trans (charOfDigits?_eq_some_iff.2 hc))
    decide
  have hrest : Expands StandsFor "&amp;".toList "&amp;".toList :=
    .char (by decide) (.char (by decide) (.char (by decide) (.char (by decide)
      (.char (by decide) .nil))))
  have hvalue : Expands StandsFor ("caf".toList ++ (numeric "xE9".toList ++ "&amp;".toList))
      "café&amp;".toList :=
    .char (by decide) (.char (by decide) (.char (by decide)
      (hrest.reference (by decide) standsFor_acute)))
  obtain ⟨-, hagree, hexpands⟩ := @expandCharRefs_reference_iff "xE9".toList (by decide)
  exact ⟨((hagree.2 hsigned).1 'é').2 standsFor_acute, hexpands _ _ hvalue⟩

/-- A plus sign is taken, and the null character comes into the value; in content neither does. -/
theorem expandCharRefs_plus :
    expandCharRefs (numeric "+65".toList) = .ok ['A'] ∧ (∀ c, ¬ StandsFor "+65".toList c) ∧
      Reference.expand (fun _ => none) (numeric "+65".toList) = .error (.character .sign) ∧
      expandCharRefs (numeric "0".toList) = .ok ['\x00'] ∧ (∀ c, ¬ StandsFor "0".toList c) ∧
      Reference.expand (fun _ => none) (numeric "0".toList) = .error (.character .null) := by
  have hplus : ∀ c, ¬ StandsFor "+65".toList c := fun c h =>
    h.1.not_mem (d := '+') (by decide) (by decide)
  have hnull : ∀ c, ¬ StandsFor "0".toList c := fun c h => by
    have hc := charOfDigits_of_standsFor h
    have hzero : charOfDigits "0".toList = .ok '\x00' := by decide
    exact h.2 (Except.ok.inj (hc.symm.trans hzero))
  exact ⟨by decide, hplus, by decide, by decide, hnull, by decide⟩

end Doctype

end XmlScribe
