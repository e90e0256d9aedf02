/-
**Escaping is undone by expansion.**

An escaped text spells the text, if the entities that the escaper uses stand for their characters
where the text is read.  Of the characters that delimit markup only those are left that need no
escape: in content neither angle bracket, in a value neither its quotation mark nor any white space
but spaces.

Main definitions:

* `EntityTable.IsReadable` — the entities of a table stand for their characters;
* `Escaper.delimiters` — the characters that delimit markup.

Main results:

* `Escaper.spells_encode` — an escaped text spells the text;
* `Escaper.mem_of_mem_encode` — a delimiter in an escaped text is one that needs no escape.
-/

import Mathlib.Data.Bool.AllAny
import XmlScribe.Proofs.Entity.Spelling
import XmlScribe.Proofs.Name.Valid

set_option autoImplicit false

namespace XmlScribe

/-- The entities of the table stand for their characters, where `lookup` knows the declared
entities. -/
def EntityTable.IsReadable (table : EntityTable) (lookup : Text → Option Text) : Prop :=
  ∀ c name, table.lookup? c = some name →
    Name.IsName name ∧ ∀ start, Reference.resolve lookup start name = .ok [c]

namespace Escaper

/-! ### References -/

theorem isName_predefinedName {c : Char} {name : Text}
    (h : Entity.predefinedName? c = some name) : Name.IsName name := by
  obtain ⟨entry, he, rfl⟩ := Option.map_eq_some_iff.1 h
  have hm := List.mem_of_find?_eq_some he
  have hall : ∀ entry ∈ Entity.predefined, Name.isName entry.1 = true := by decide
  exact Name.isName_iff.1 (hall entry hm)

/-- A predefined entity stands for its character, whatever is declared. -/
theorem resolve_predefinedName {c : Char} {name : Text} (lookup : Text → Option Text)
    (h : Entity.predefinedName? c = some name) (start : Nat) :
    Reference.resolve lookup start name = .ok [c] := by
  obtain ⟨entry, he, rfl⟩ := Option.map_eq_some_iff.1 h
  have hc : entry.2 = c := by simpa using List.find?_some he
  have hm := List.mem_of_find?_eq_some he
  subst hc
  simp only [Entity.predefined, List.mem_cons, List.not_mem_nil, or_false] at hm
  rcases hm with rfl | rfl | rfl | rfl | rfl <;> rfl

theorem spells_entityReference {lookup : Text → Option Text} {name : Text} {c : Char}
    (hn : Name.IsName name) (hv : ∀ start, Reference.resolve lookup start name = .ok [c]) :
    Reference.Spells lookup (entityReference name) [c] :=
  Reference.spells_reference (Name.not_mem_of_isName hn (by decide))
    (Name.not_mem_of_isName hn (by decide)) hv

variable {e : Escaper} {lookup : Text → Option Text}

/-- A reference outside the table spells its character. -/
theorem spells_charReference (e : Escaper) {c : Char} (hc : c ≠ '\x00') :
    Reference.Spells lookup (e.charReference c) [c] := by
  rw [charReference]
  split
  · rename_i name hn
    split
    · exact Reference.spells_hexReference hc
    · exact spells_entityReference (isName_predefinedName hn) (resolve_predefinedName lookup hn)
  · exact Reference.spells_hexReference hc

theorem isRequired_ampersand (e : Escaper) (quote : Option Char) :
    e.isRequired quote '&' = true := by
  simp [isRequired]

/-- What a character is written as spells it. -/
theorem spells_encodeChar (ht : e.table.IsReadable lookup) (quote : Option Char) {c : Char}
    (hc : c ≠ '\x00') : Reference.Spells lookup (e.encodeChar quote c) [c] := by
  rw [encodeChar]
  split
  · rename_i name hn
    obtain ⟨hname, hv⟩ := ht c name hn
    exact spells_entityReference hname hv
  · split
    · exact spells_charReference e hc
    · rename_i h
      refine Reference.Spells.nil.char ?_
      rintro rfl
      exact h (by rw [isRequired_ampersand, Bool.true_or])

/-- An escaped text spells the text. -/
theorem spells_encode (ht : e.table.IsReadable lookup) (quote : Option Char) {s : Text}
    (hs : '\x00' ∉ s) : Reference.Spells lookup (e.encode quote s) s := by
  induction s with
  | nil => exact .nil
  | cons c s ih =>
      simp only [List.mem_cons, not_or] at hs
      rw [encode, List.flatMap_cons]
      exact (spells_encodeChar ht quote (Ne.symm hs.1)).append (ih hs.2)

theorem encode_append (e : Escaper) (quote : Option Char) (s t : Text) :
    e.encode quote (s ++ t) = e.encode quote s ++ e.encode quote t :=
  List.flatMap_append

theorem encode_eq_nil_iff (e : Escaper) (quote : Option Char) (s : Text) :
    e.encode quote s = [] ↔ s = [] := by
  have hne : ∀ c, e.encodeChar quote c ≠ [] := by
    intro c
    rw [encodeChar]
    split
    · exact List.cons_ne_nil _ _
    · split
      · rw [charReference]
        split
        · split <;> exact List.cons_ne_nil _ _
        · exact List.cons_ne_nil _ _
      · exact List.cons_ne_nil _ _
  cases s with
  | nil => simp [encode]
  | cons c s => simp [encode, hne c]

/-! ### Delimiters -/

/-- The characters that delimit markup or values. -/
def delimiters : Text := ['<', '>', '"', '\'', '\t', '\n', '\r']

theorem not_mem_entityReference {name : Text} (hn : Name.IsName name) {d : Char}
    (hd : d ∈ delimiters) : d ∉ entityReference name := by
  have hnot : ∀ d ∈ delimiters, Name.isNameChar d = false ∧ d ≠ '&' ∧ d ≠ ';' :=
    List.all_iff_forall_prop.1 (by decide)
  obtain ⟨h₁, h₂, h₃⟩ := hnot d hd
  intro hm
  rcases List.mem_append.1 (show d ∈ ('&' :: name) ++ [';'] from hm) with hm | hm
  · rcases List.mem_cons.1 hm with h | hm
    · exact h₂ h
    · exact Name.not_mem_of_isName hn h₁ hm
  · exact h₃ (List.mem_singleton.1 hm)

theorem not_mem_hexReference (c : Char) {d : Char} (hd : d ∈ delimiters) :
    d ∉ hexReference c := by
  have hnot : ∀ d ∈ delimiters, Numeral.digit? 16 d = none ∧ d ∉ ['&', '#', 'x'] ∧ d ≠ ';' :=
    List.all_iff_forall_prop.1 (by decide)
  obtain ⟨h₁, h₂, h₃⟩ := hnot d hd
  intro hm
  rcases List.mem_append.1 hm with hm | hm
  · rcases List.mem_append.1 hm with hm | hm
    · exact h₂ hm
    · exact Numeral.digit?_of_mem_hexadecimal hm h₁
  · exact h₃ (List.mem_singleton.1 hm)

/-- A delimiter in an escaped character is the character itself, and needs no escape. -/
theorem eq_of_mem_encodeChar (ht : e.table.IsReadable lookup) {quote : Option Char} {c d : Char}
    (hd : d ∈ delimiters) (h : d ∈ e.encodeChar quote c) :
    d = c ∧ e.isRequired quote c = false := by
  rw [encodeChar] at h
  split at h
  · rename_i name hn
    exact absurd h (not_mem_entityReference (ht c name hn).1 hd)
  · split at h
    · rw [charReference] at h
      split at h
      · rename_i name hn
        split at h
        · exact absurd h (not_mem_hexReference c hd)
        · exact absurd h (not_mem_entityReference (isName_predefinedName hn) hd)
      · exact absurd h (not_mem_hexReference c hd)
    · rename_i hr
      simp only [Bool.or_eq_true, not_or, Bool.not_eq_true] at hr
      exact ⟨List.mem_singleton.1 h, hr.1⟩

/-- A delimiter in an escaped text is one of the text, and needs no escape. -/
theorem mem_of_mem_encode (ht : e.table.IsReadable lookup) {quote : Option Char} {s : Text}
    {d : Char} (hd : d ∈ delimiters) (h : d ∈ e.encode quote s) :
    d ∈ s ∧ e.isRequired quote d = false := by
  obtain ⟨c, hc, hm⟩ := List.mem_flatMap.1 h
  obtain ⟨rfl, hr⟩ := eq_of_mem_encodeChar ht hd hm
  exact ⟨hc, hr⟩

/-- No angle bracket is left in content. -/
theorem not_mem_encode_none (ht : e.table.IsReadable lookup) (s : Text) :
    '<' ∉ e.encode none s ∧ '>' ∉ e.encode none s := by
  constructor
  · intro h
    have := (mem_of_mem_encode ht (by decide) h).2
    simp [isRequired] at this
  · intro h
    have := (mem_of_mem_encode ht (by decide) h).2
    simp [isRequired] at this

/-- Neither the quotation mark nor white space but spaces is left in a value. -/
theorem not_mem_encode_some (ht : e.table.IsReadable lookup) {quote : Char}
    (hq : quote = '"' ∨ quote = '\'') (s : Text) :
    quote ∉ e.encode (some quote) s ∧ '<' ∉ e.encode (some quote) s ∧
      ∀ d ∈ ['\t', '\n', '\r'], d ∉ e.encode (some quote) s := by
  refine ⟨fun h => ?_, fun h => ?_, fun d hd h => ?_⟩
  · have hm : quote ∈ delimiters := by rcases hq with rfl | rfl <;> decide
    have := (mem_of_mem_encode ht hm h).2
    rcases hq with rfl | rfl <;> simp [isRequired] at this
  · have := (mem_of_mem_encode ht (by decide) h).2
    simp [isRequired] at this
  · have hsub : ∀ d ∈ ['\t', '\n', '\r'], d ∈ delimiters :=
      List.all_iff_forall_prop.1 (by decide)
    have hm := hsub d hd
    have := (mem_of_mem_encode ht hm h).2
    simp only [List.mem_cons, List.not_mem_nil, or_false] at hd
    rcases hd with rfl | rfl | rfl <;> simp [isRequired] at this

end Escaper

/-- The quotation mark around a value is one of two. -/
theorem Entity.chooseQuote_cases (value : Text) :
    chooseQuote value = '"' ∨ chooseQuote value = '\'' := by
  rw [chooseQuote]
  split
  · exact Or.inr rfl
  · exact Or.inl rfl

end XmlScribe
