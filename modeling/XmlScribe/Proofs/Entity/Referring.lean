/-
**The references in a text.**

A reference begins with an ampersand and ends with the next semicolon.  Escaping writes an ampersand
only at the start of a reference that it completes, so what a written text refers to can be told from
the pieces that it has been put together from.

Expansion accepts a text exactly if it is a spelling, so what it finds can be said without the places
that it keeps for its faults.  A spelling can be parted in front of any ampersand, because a reference
holds no other; what stands before a reference and after it is spelled by itself.

Main definitions:

* `Reference.Occurs` — a text refers to an entity;
* `Reference.AreKnown` — all references in a text are complete and known.

Main results:

* `Reference.AreKnown.of_occurs` — an entity that is referred to is known;
* `Escaper.areKnown_encode` — escaping refers to entities of the table and predefined ones only;
* `Reference.expand_eq_ok_iff` — which texts are expanded, and to what;
* `Reference.expand_around_eq_ok_iff` — a reference with anything before and after it;
* `Reference.expand_of_unresolved` — the fault of a reference that stands for nothing.
-/

import XmlScribe.Proofs.Entity.Escaping
import XmlScribe.Proofs.Outcome
import XmlScribe.Proofs.Text.Occurrence

set_option autoImplicit false

namespace XmlScribe

namespace Reference

/-- The text refers to the entity. -/
def Occurs (name raw : Text) : Prop :=
  '&' ∉ name ∧ ';' ∉ name ∧ name.head? ≠ some '#' ∧ Escaper.entityReference name <:+: raw

/-- Every ampersand in the text begins a reference to a character or to a known entity. -/
def AreKnown (known : Text → Prop) (raw : Text) : Prop :=
  ∀ before after, raw = before ++ '&' :: after →
    ∃ name rest, after = name ++ ';' :: rest ∧ ';' ∉ name ∧ (known name ∨ name.head? = some '#')

variable {known : Text → Prop} {raw : Text}

/-- What comes before the first semicolon is determined. -/
theorem eq_of_append_semicolon {s t u v : Text} (h : s ++ ';' :: u = t ++ ';' :: v)
    (hs : ';' ∉ s) (ht : ';' ∉ t) : s = t := by
  have h₁ : Text.cutAt [';'] (s ++ ';' :: u) = some (s, u) :=
    Text.cutAt_singleton_eq_some_iff.2 ⟨rfl, hs⟩
  have h₂ : Text.cutAt [';'] (t ++ ';' :: v) = some (t, v) :=
    Text.cutAt_singleton_eq_some_iff.2 ⟨rfl, ht⟩
  rw [h, h₂] at h₁
  exact (Prod.mk.inj (Option.some.inj h₁)).1.symm

/-- An entity that is referred to is known. -/
theorem AreKnown.of_occurs (h : AreKnown known raw) {name : Text} (ho : Occurs name raw) :
    known name := by
  obtain ⟨-, hsemicolon, hhash, before, after, rfl⟩ := ho
  obtain ⟨other, rest, he, hother, hk⟩ := h before (name ++ ';' :: after)
    (by simp [Escaper.entityReference])
  obtain rfl := eq_of_append_semicolon he hsemicolon hother
  exact hk.resolve_right hhash

theorem areKnown_of_not_mem (h : '&' ∉ raw) : AreKnown known raw := by
  rintro before after rfl
  exact absurd (by simp) h

/-- Two pieces, one after the other. -/
theorem AreKnown.append {raw' : Text} (h : AreKnown known raw) (h' : AreKnown known raw') :
    AreKnown known (raw ++ raw') := by
  intro before after he
  rcases List.append_eq_append_iff.1 he with ⟨t, rfl, ht⟩ | ⟨t, rfl, ht⟩
  · exact h' t after ht
  · cases t with
    | nil => exact h' [] after (by simpa using ht.symm)
    | cons c t =>
        obtain ⟨rfl, rfl⟩ := List.cons.inj ht
        obtain ⟨name, rest, rfl, hs, hk⟩ := h before t rfl
        exact ⟨name, rest ++ raw', by simp, hs, hk⟩

theorem AreKnown.flatMap {α : Type} {f : α → Text} {l : List α}
    (h : ∀ a ∈ l, AreKnown known (f a)) : AreKnown known (l.flatMap f) := by
  induction l with
  | nil => exact areKnown_of_not_mem (by simp)
  | cons a l ih =>
      rw [List.flatMap_cons]
      exact (h a (by simp)).append (ih fun b hb => h b (by simp [hb]))

/-- A reference by itself. -/
theorem areKnown_reference {name : Text} (ha : '&' ∉ name) (hs : ';' ∉ name)
    (hk : known name ∨ name.head? = some '#') : AreKnown known ('&' :: name ++ [';']) := by
  intro before after he
  cases before with
  | nil =>
      obtain rfl := (List.cons.inj he).2
      exact ⟨name, [], by simp, hs, hk⟩
  | cons c before =>
      have hrest : name ++ [';'] = before ++ '&' :: after := (List.cons.inj he).2
      have hm : '&' ∈ name ++ [';'] := by simp [hrest]
      simp [ha] at hm

end Reference

namespace Escaper

variable {known : Text → Prop} {e : Escaper}

theorem areKnown_entityReference {name : Text} (hn : Name.IsName name) (hk : known name) :
    Reference.AreKnown known (entityReference name) :=
  Reference.areKnown_reference (Name.not_mem_of_isName hn (by decide))
    (Name.not_mem_of_isName hn (by decide)) (Or.inl hk)

theorem areKnown_hexReference (c : Char) : Reference.AreKnown known (hexReference c) := by
  have hnot : ∀ d, Numeral.digit? 16 d = none → d ∉ Text.hexadecimal c.toNat := fun d hd hm =>
    Numeral.digit?_of_mem_hexadecimal hm hd
  exact Reference.areKnown_reference (by simpa using hnot '&' (by decide))
    (by simpa using hnot ';' (by decide)) (Or.inr rfl)

/-- Escaping refers to entities of the table and predefined ones only. -/
theorem areKnown_encode {lookup : Text → Option Text} (ht : e.table.IsReadable lookup)
    (hknown : ∀ c name, e.table.lookup? c = some name → known name)
    (hpredefined : ∀ c name, Entity.predefinedName? c = some name → known name)
    (quote : Option Char) (s : Text) : Reference.AreKnown known (e.encode quote s) := by
  refine Reference.AreKnown.flatMap fun c _ => ?_
  rw [encodeChar]
  split
  · rename_i name hn
    exact areKnown_entityReference (ht c name hn).1 (hknown c name hn)
  · split
    · rw [charReference]
      split
      · rename_i name hn
        split
        · exact areKnown_hexReference c
        · exact areKnown_entityReference (isName_predefinedName hn) (hpredefined c name hn)
      · exact areKnown_hexReference c
    · rename_i hr
      refine Reference.areKnown_of_not_mem fun hm => hr ?_
      rw [← List.mem_singleton.1 hm, isRequired_ampersand]
      rfl

end Escaper

namespace Reference

variable {lookup : Text → Option Text} {name raw data : Text}

/-- The place of a reference matters to its faults only. -/
theorem resolve_eq_ok_of_eq_ok {start : Nat} {value : Text}
    (h : resolve lookup start name = .ok value) (start' : Nat) :
    resolve lookup start' name = .ok value := by
  rw [resolve.eq_def] at h ⊢
  split at h
  · exact h
  · split at h
    · exact h
    · cases h

/-- What expansion accepts is a spelling; a reference that has been begun is one with what has been
read of its name. -/
theorem spells_of_expandFrom {total place : Nat} (h : expandFrom lookup total place none raw = .ok data) :
    Spells lookup raw data := by
  -- The two states of expansion call each other, so both are followed in one induction on the text.
  have hopened : ∀ (raw data : Text) (place : Nat),
      (expandFrom lookup total place none raw = .ok data → Spells lookup raw data) ∧
      ∀ start before, expandFrom lookup total place (some (start, before)) raw = .ok data →
        ';' ∉ before → '&' ∉ before → Spells lookup ('&' :: before.reverse ++ raw) data := by
    intro raw
    induction raw with
    | nil =>
        refine fun data place => ⟨fun h => ?_, fun start before h => nomatch h⟩
        obtain rfl := Except.ok.inj h
        exact .nil
    | cons c raw ih =>
        refine fun data place => ⟨fun h => ?_, fun start before h hs ha => ?_⟩
        · rw [expandFrom] at h
          split at h
          · rename_i hc
            subst hc
            exact (ih data _).2 _ _ h List.not_mem_nil List.not_mem_nil
          · rename_i hc
            obtain ⟨rest, hrest, rfl⟩ := Outcome.map_eq_ok_iff.1 h
            exact ((ih rest _).1 hrest).char hc
        · rw [expandFrom] at h
          split at h
          · rename_i hc
            subst hc
            split at h
            · cases h
            · rename_i value hvalue
              obtain ⟨rest, hrest, rfl⟩ := Outcome.map_eq_ok_iff.1 h
              exact ((ih rest _).1 hrest).reference (by simpa using hs) (by simpa using ha)
                (resolve_eq_ok_of_eq_ok hvalue)
          · rename_i hc
            split at h
            · cases h
            · rename_i hc'
              have hnext := (ih data _).2 _ _ h (by simp [hs, Ne.symm hc]) (by simp [ha, Ne.symm hc'])
              simpa [List.append_assoc] using hnext
  exact (hopened raw data place).1 h

/-- Expansion finds what is spelled, and nothing else. -/
theorem expand_eq_ok_iff : expand lookup raw = .ok data ↔ Spells lookup raw data :=
  ⟨spells_of_expandFrom, expand_of_spells⟩

/-! ### Parting -/

/-- A spelling that begins with a reference. -/
theorem spells_reference_append_iff (hs : ';' ∉ name) :
    Spells lookup (Escaper.entityReference name ++ raw) data ↔
      ∃ value rest, '&' ∉ name ∧ (∀ start, resolve lookup start name = .ok value) ∧
        Spells lookup raw rest ∧ data = value ++ rest := by
  have hassoc : Escaper.entityReference name ++ raw = '&' :: name ++ ';' :: raw := by
    simp [Escaper.entityReference]
  rw [hassoc]
  constructor
  · intro h
    generalize htext : '&' :: name ++ ';' :: raw = text at h
    cases h with
    | nil => cases htext
    | char hc _ => exact absurd (List.cons.inj htext).1.symm hc
    | reference hs' ha hv h =>
        have hrest := (List.cons.inj htext).2
        obtain rfl := eq_of_append_semicolon hrest hs hs'
        obtain ⟨-, rfl⟩ := List.cons.inj (List.append_cancel_left hrest)
        exact ⟨_, _, ha, hv, h, rfl⟩
  · rintro ⟨value, rest, ha, hv, h, rfl⟩
    exact h.reference hs ha hv

/-- A spelling can be parted in front of an ampersand. -/
theorem spells_append_ampersand_iff {before : Text} :
    Spells lookup (before ++ '&' :: raw) data ↔
      ∃ first rest, Spells lookup before first ∧ Spells lookup ('&' :: raw) rest ∧
        data = first ++ rest := by
  constructor
  · intro h
    generalize htext : before ++ '&' :: raw = text at h
    induction h generalizing before with
    | nil => cases before <;> cases htext
    | @char c _ _ hc h ih =>
        cases before with
        | nil => exact absurd (List.cons.inj htext).1.symm hc
        | cons d before =>
            obtain ⟨rfl, hrest⟩ := List.cons.inj htext
            obtain ⟨first, rest, hfirst, hr, rfl⟩ := ih hrest
            exact ⟨d :: first, rest, hfirst.char hc, hr, rfl⟩
    | @reference other value _ data hs ha hv h ih =>
        cases before with
        | nil =>
            refine ⟨[], value ++ data, .nil, ?_, rfl⟩
            rw [show '&' :: raw = _ from htext]
            exact h.reference hs ha hv
        | cons d before =>
            -- the ampersand is not in the name, so the reference ends before it
            obtain ⟨rfl, hrest⟩ := List.cons.inj htext
            rcases List.append_eq_append_iff.1 hrest with ⟨t, hother, ht⟩ | ⟨t, rfl, ht⟩
            · cases t with
              | nil => exact absurd (List.cons.inj ht).1 (by decide)
              | cons c t =>
                  obtain ⟨rfl, -⟩ := List.cons.inj ht
                  exact absurd (hother ▸ by simp) ha
            · cases t with
              | nil => exact absurd (List.cons.inj ht).1 (by decide)
              | cons c t =>
                  obtain ⟨rfl, hafter⟩ := List.cons.inj ht
                  obtain ⟨first, rest, hfirst, hr, rfl⟩ := ih hafter.symm
                  exact ⟨value ++ first, rest, hfirst.reference hs ha hv, hr,
                    (List.append_assoc ..).symm⟩
  · rintro ⟨first, rest, hfirst, hrest, rfl⟩
    exact hfirst.append hrest

/-- A reference with anything before and after it. -/
theorem expand_around_eq_ok_iff (hs : ';' ∉ name) {before after : Text} :
    expand lookup (before ++ Escaper.entityReference name ++ after) = .ok data ↔
      ∃ first value last, expand lookup before = .ok first ∧ '&' ∉ name ∧
        (∀ start, resolve lookup start name = .ok value) ∧ expand lookup after = .ok last ∧
        data = first ++ value ++ last := by
  rw [expand_eq_ok_iff, List.append_assoc,
    show Escaper.entityReference name ++ after = '&' :: (name ++ [';'] ++ after) from rfl,
    spells_append_ampersand_iff,
    show '&' :: (name ++ [';'] ++ after) = Escaper.entityReference name ++ after from rfl]
  simp only [expand_eq_ok_iff]
  constructor
  · rintro ⟨first, rest, hfirst, hrest, rfl⟩
    obtain ⟨value, last, ha, hv, hlast, rfl⟩ := (spells_reference_append_iff hs).1 hrest
    exact ⟨first, value, last, hfirst, ha, hv, hlast, (List.append_assoc ..).symm⟩
  · rintro ⟨first, value, last, hfirst, ha, hv, hlast, rfl⟩
    exact ⟨first, value ++ last, hfirst,
      (spells_reference_append_iff hs).2 ⟨value, last, ha, hv, hlast, rfl⟩, List.append_assoc ..⟩

/-- The first reference that stands for nothing is the fault. -/
theorem expand_of_unresolved (hs : ';' ∉ name) (ha : '&' ∉ name) {before after first : Text}
    (hbefore : expand lookup before = .ok first) {fault : ReferenceFault}
    (hfault : resolve lookup (Text.utf8Size before + 1) name = .error fault) :
    expand lookup (before ++ Escaper.entityReference name ++ after) = .error fault := by
  have hassoc : before ++ Escaper.entityReference name ++ after =
      before ++ ('&' :: name ++ ';' :: after) := by
    simp [Escaper.entityReference]
  rw [expand, hassoc, expandFrom_append_of_spells (expand_eq_ok_iff.1 hbefore),
    expandFrom_reference hs ha, Nat.zero_add, hfault]
  rfl

end Reference

end XmlScribe
