/-
**Start tags as they are written.**

A start tag is written as the name of the element, and for each attribute a space, its name, an
equals sign and its raw value between quotation marks.  If the raw values do not have their
quotation marks, the tag ends where it is meant to, and its attributes are read as they were meant.

Main definitions:

* `WrittenAttribute` — a name, a quotation mark and a raw value;
* `WrittenAttribute.IsSound` — the value does not have the mark;
* `Tag.written` — the content of a start tag.

Main results:

* `Tag.name_written` — the name is read as it was meant;
* `Tag.attributes_written` — and so are the attributes;
* `Event.cutTag_written` — the tag ends where it is meant to.
-/

import XmlScribe.Markup.Event
import XmlScribe.Proofs.Name.Valid
import XmlScribe.Proofs.Text.Occurrence

set_option autoImplicit false

namespace XmlScribe

/-- An attribute as it is written. -/
structure WrittenAttribute where
  /-- The name. -/
  name : Text
  /-- The quotation mark. -/
  quote : Char
  /-- The text between the quotation marks. -/
  raw : Text
deriving DecidableEq, Repr

namespace WrittenAttribute

/-- The text of the attribute, with the space before it. -/
def text (a : WrittenAttribute) : Text :=
  ' ' :: a.name ++ '=' :: a.quote :: a.raw ++ [a.quote]

/-- The attribute ends at the second of two quotation marks. -/
structure IsSound (a : WrittenAttribute) : Prop where
  /-- The name is a name. -/
  isName : Name.IsName a.name
  /-- The quotation mark is one of two. -/
  quote : a.quote = '"' ∨ a.quote = '\''
  /-- The value does not have the mark. -/
  not_mem : a.quote ∉ a.raw

end WrittenAttribute

namespace Tag

/-- The content of a start tag. -/
def written (name : Text) (attributes : List WrittenAttribute) : Text :=
  name ++ attributes.flatMap WrittenAttribute.text

/-! ### Names -/

theorem continuesKey_of_isNameChar {c : Char} (h : Name.isNameChar c = true) :
    continuesKey c = true := by
  simp only [continuesKey, Name.isBlank_of_isNameChar h, Bool.or_false, Bool.not_eq_true',
    beq_eq_false_iff_ne]
  rintro rfl
  exact absurd h (by decide)

/-- The text after the name of a tag begins with a blank, if there is any. -/
theorem head_attributes (attributes : List WrittenAttribute) :
    attributes.flatMap WrittenAttribute.text = [] ∨
      ∃ t, attributes.flatMap WrittenAttribute.text = ' ' :: t := by
  cases attributes with
  | nil => exact Or.inl rfl
  | cons a attributes => exact Or.inr ⟨_, rfl⟩

theorem not_isBlank_of_mem {name : Text} (h : Name.IsName name) {c : Char} (hc : c ∈ name) :
    (!Text.isBlank c) = true := by
  rw [Name.isBlank_of_isNameChar (Name.isNameChar_of_mem h hc)]
  rfl

/-- The name is read as it was meant. -/
theorem name_append {name rest : Text} (h : Name.IsName name)
    (hr : rest = [] ∨ ∃ t, rest = ' ' :: t) :
    Tag.name (name ++ rest) = name ∧ afterName (name ++ rest) = rest := by
  rw [Tag.name, afterName, List.takeWhile_append_of_pos fun _ => not_isBlank_of_mem h,
    List.dropWhile_append_of_pos fun _ => not_isBlank_of_mem h]
  rcases hr with rfl | ⟨t, rfl⟩ <;> simp [Text.isBlank]

theorem name_written {name : Text} (h : Name.IsName name) (attributes : List WrittenAttribute) :
    Tag.name (written name attributes) = name :=
  (name_append h (head_attributes attributes)).1

/-! ### Attributes -/

theorem skipBlanks_of_not_isBlank {c : Char} (h : Text.isBlank c = false) (place : Nat)
    (s : Text) : skipBlanks place (c :: s) = (place, c :: s) := by
  simp [skipBlanks, Text.trimStart, h]

theorem takeValue_written {a : WrittenAttribute} (h : a.IsSound) (place : Nat) (rest : Text) :
    takeValue place (a.quote :: a.raw ++ a.quote :: rest) =
      .ok (a.raw, place + 2 + Text.utf8Size a.raw, rest) := by
  have hcut : Text.cutAt [a.quote] (a.raw ++ a.quote :: rest) = some (a.raw, rest) :=
    Text.cutAt_singleton_eq_some_iff.2 ⟨rfl, h.not_mem⟩
  rw [List.cons_append, takeValue, if_pos h.quote, hcut]

/-- An attribute is read as it was meant, if its name has not stood before. -/
theorem takeAttribute_written {a : WrittenAttribute} (h : a.IsSound) {c : Char} {s : Text}
    (hname : a.name = c :: s) {earlier : Text → Option Nat} (he : earlier a.name = none)
    (place : Nat) (rest : Text) :
    ∃ after, takeAttribute earlier place c (s ++ '=' :: a.quote :: a.raw ++ a.quote :: rest) =
      .ok (⟨a.name, a.raw, place⟩, after, rest) := by
  have hs : ∀ d ∈ s, continuesKey d = true := fun d hd =>
    continuesKey_of_isNameChar (Name.isNameChar_of_mem h.isName (by rw [hname]; simp [hd]))
  have heq : s ++ '=' :: a.quote :: a.raw ++ a.quote :: rest =
      s ++ '=' :: (a.quote :: a.raw ++ a.quote :: rest) := by simp
  have hq : Text.isBlank a.quote = false := by rcases h.quote with hq | hq <;> rw [hq] <;> rfl
  have hkey : continuesKey '=' = false := rfl
  rw [heq, takeAttribute, List.takeWhile_append_of_pos hs, List.dropWhile_append_of_pos hs]
  simp only [List.takeWhile_cons, List.dropWhile_cons, hkey, Bool.false_eq_true, if_false,
    List.append_nil, ← hname, skipBlanks_of_not_isBlank (show Text.isBlank '=' = false from rfl),
    he]
  rw [List.cons_append, skipBlanks_of_not_isBlank hq, ← List.cons_append, takeValue_written h]
  exact ⟨_, rfl⟩

/-- The place where a name has stood before, if no name may stand twice. -/
def earlierPlace (distinct : Bool) (seen : List RawAttribute) (key : Text) : Option Nat :=
  if distinct then (seen.find? fun a => a.name = key).map RawAttribute.place else none

/-- One attribute is read, and then the others. -/
theorem attributesFrom_cons {distinct : Bool} {seen : List RawAttribute} {place start after : Nat}
    {s t rest : Text} {c : Char} {a : RawAttribute} (hs : skipBlanks place s = (start, c :: t))
    (ht : takeAttribute (earlierPlace distinct seen) start c t = .ok (a, after, rest)) :
    attributesFrom distinct seen place s =
      (a :: (attributesFrom distinct (seen ++ [a]) after rest).1,
        (attributesFrom distinct (seen ++ [a]) after rest).2) := by
  fun_cases attributesFrom distinct seen place s with
  | case1 first hs' =>
      rw [hs] at hs'
      simp at hs'
  | case2 start' c' t' hs' earlier fault hfault =>
      obtain ⟨rfl, hct⟩ := Prod.mk.inj (hs.symm.trans hs')
      obtain ⟨rfl, rfl⟩ := List.cons.inj hct
      exact absurd (ht.symm.trans hfault) (by simp)
  | case3 start' c' t' hs' earlier a' after' rest' ha' more fault hmore =>
      obtain ⟨rfl, hct⟩ := Prod.mk.inj (hs.symm.trans hs')
      obtain ⟨rfl, rfl⟩ := List.cons.inj hct
      cases ht.symm.trans ha'
      rw [hmore]

/-- The attributes are read as they were meant, if no name stands twice. -/
theorem attributesFrom_written (distinct : Bool) {attributes : List WrittenAttribute}
    (h : ∀ a ∈ attributes, a.IsSound) {seen : List RawAttribute}
    (hn : (seen.map RawAttribute.name ++ attributes.map WrittenAttribute.name).Nodup)
    (place : Nat) :
    ∃ raw, attributesFrom distinct seen place (attributes.flatMap WrittenAttribute.text) =
        (raw, none) ∧
      raw.map (fun a => (a.name, a.value)) = attributes.map fun a => (a.name, a.raw) := by
  induction attributes generalizing seen place with
  | nil =>
      refine ⟨[], ?_, rfl⟩
      rw [attributesFrom]
      rfl
  | cons a attributes ih =>
      have ha := h a (by simp)
      obtain ⟨c, s, hname, hc, -⟩ := ha.isName
      have hblank := Name.isBlank_of_isNameChar (Name.isNameChar_of_isStartChar hc)
      have htext : (a :: attributes).flatMap WrittenAttribute.text = ' ' :: c ::
          (s ++ '=' :: a.quote :: a.raw ++ a.quote ::
            attributes.flatMap WrittenAttribute.text) := by
        simp [WrittenAttribute.text, hname]
      have hskip : ∀ t, skipBlanks place (' ' :: c :: t) = (place + 1, c :: t) := by
        intro t
        have hspace : Text.isBlank ' ' = true := rfl
        simp [skipBlanks, Text.trimStart, hblank, hspace]
      have hseen : a.name ∉ seen.map RawAttribute.name := by
        intro hm
        rw [List.nodup_append] at hn
        exact hn.2.2 _ hm a.name (by simp) rfl
      have hearlier : earlierPlace distinct seen a.name = none := by
        rw [earlierPlace]
        split
        · rw [Option.map_eq_none_iff, List.find?_eq_none]
          intro b hb
          have hne : b.name ≠ a.name := fun heq => hseen (heq ▸ List.mem_map_of_mem hb)
          simpa using hne
        · rfl
      have hnext : ((seen ++ [(⟨a.name, a.raw, place + 1⟩ : RawAttribute)]).map
          RawAttribute.name ++ attributes.map WrittenAttribute.name).Nodup := by
        simpa using hn
      obtain ⟨after, htake⟩ := takeAttribute_written ha hname hearlier (place + 1)
        (attributes.flatMap WrittenAttribute.text)
      obtain ⟨raw, hraw, hmap⟩ := ih (fun b hb => h b (by simp [hb])) hnext after
      refine ⟨⟨a.name, a.raw, place + 1⟩ :: raw, ?_, ?_⟩
      · rw [htext, attributesFrom_cons (hskip _) htake, hraw]
      · rw [List.map_cons, List.map_cons, hmap]

/-- The attributes of a start tag are read as they were meant. -/
theorem attributes_written {name : Text} (hname : Name.IsName name)
    {attributes : List WrittenAttribute} (h : ∀ a ∈ attributes, a.IsSound)
    (hn : (attributes.map WrittenAttribute.name).Nodup) :
    ∃ raw, Tag.attributes (written name attributes) = (raw, none) ∧
      raw.map (fun a => (a.name, a.value)) = attributes.map fun a => (a.name, a.raw) := by
  rw [Tag.attributes, written, (name_append hname (head_attributes attributes)).2]
  exact attributesFrom_written true h (by simpa using hn) _

end Tag

/-! ### Where a tag ends -/

namespace Event

/-- Text without `>` and quotation marks is passed over. -/
theorem cutTag_append {s : Text} (h : ∀ c ∈ s, c ≠ '>' ∧ c ≠ '"' ∧ c ≠ '\'') (t : Text) :
    cutTag none (s ++ t) = (cutTag none t).map fun (before, rest) => (s ++ before, rest) := by
  induction s with
  | nil => simp
  | cons c s ih =>
      obtain ⟨h₁, h₂, h₃⟩ := h c (by simp)
      have hq : ¬ (c = '"' ∨ c = '\'') := by simp [h₂, h₃]
      rw [List.cons_append, cutTag, if_neg h₁, if_neg hq, ih fun d hd => h d (by simp [hd]),
        Option.map_map]
      rfl

/-- Text between quotation marks is passed over. -/
theorem cutTag_quoted {quote : Char} {s : Text} (h : quote ∉ s) (t : Text) :
    cutTag (some quote) (s ++ quote :: t) =
      (cutTag none t).map fun (before, rest) => (s ++ quote :: before, rest) := by
  induction s with
  | nil => simp [cutTag]
  | cons c s ih =>
      simp only [List.mem_cons, not_or] at h
      rw [List.cons_append, cutTag, if_neg (Ne.symm h.1), ih h.2, Option.map_map]
      rfl

theorem cutTag_attribute {a : WrittenAttribute} (h : a.IsSound) (t : Text) :
    cutTag none (a.text ++ t) =
      (cutTag none t).map fun (before, rest) => (a.text ++ before, rest) := by
  have htext : a.text ++ t = (' ' :: a.name ++ ['=']) ++ (a.quote :: (a.raw ++ a.quote :: t)) := by
    simp [WrittenAttribute.text]
  have hlead : ∀ c ∈ ' ' :: a.name ++ ['='], c ≠ '>' ∧ c ≠ '"' ∧ c ≠ '\'' := by
    intro c hc
    simp only [List.cons_append, List.mem_cons, List.mem_append, List.not_mem_nil,
      or_false] at hc
    rcases hc with rfl | hc | rfl
    · decide
    · refine ⟨?_, ?_, ?_⟩ <;> rintro rfl <;>
        exact Name.not_mem_of_isName h.isName (by decide) hc
    · decide
  have hgt : a.quote ≠ '>' := by rcases h.quote with hq | hq <;> rw [hq] <;> decide
  rw [htext, cutTag_append hlead, cutTag, if_neg hgt, if_pos h.quote, cutTag_quoted h.not_mem,
    Option.map_map, Option.map_map]
  refine congrArg (Option.map · _) (funext fun r => ?_)
  simp [WrittenAttribute.text]

/-- The tag ends where it is meant to, after a slash or not. -/
theorem cutTag_written {name : Text} (hname : Name.IsName name)
    {attributes : List WrittenAttribute} (h : ∀ a ∈ attributes, a.IsSound) {slash : Text}
    (hs : slash = [] ∨ slash = ['/']) (rest : Text) :
    cutTag none (Tag.written name attributes ++ slash ++ '>' :: rest) =
      some (Tag.written name attributes ++ slash, rest) := by
  have hattributes : ∀ t, cutTag none (attributes.flatMap WrittenAttribute.text ++ t) =
      (cutTag none t).map fun (before, rest) =>
        (attributes.flatMap WrittenAttribute.text ++ before, rest) := by
    intro t
    induction attributes with
    | nil => simp
    | cons a attributes ih =>
        rw [List.flatMap_cons, List.append_assoc, cutTag_attribute (h a (by simp)),
          ih fun b hb => h b (by simp [hb]), Option.map_map]
        refine congrArg (Option.map · _) (funext fun r => ?_)
        simp
  have hn : ∀ c ∈ name, c ≠ '>' ∧ c ≠ '"' ∧ c ≠ '\'' := by
    intro c hc
    refine ⟨?_, ?_, ?_⟩ <;> rintro rfl <;> exact Name.not_mem_of_isName hname (by decide) hc
  have hslash : cutTag none (slash ++ '>' :: rest) = some (slash, rest) := by
    rcases hs with rfl | rfl <;> rfl
  rw [Tag.written, List.append_assoc, List.append_assoc, cutTag_append hn, hattributes, hslash]
  simp

end Event

end XmlScribe
