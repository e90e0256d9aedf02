/-
**An XML declaration as it is written.**

An XML declaration is written with the version, the label of the encoding and, if there is one, the
standalone flag, each between double quotation marks.  It is read as it was meant if no value has
such a mark and none ends the declaration early.

Main definitions:

* `Declaration.written` — the content of the declaration.

Main results:

* `Declaration.readsBack_written` — the declaration ends where it is meant to;
* `Declaration.readDeclaration_written` — and is read as it was meant.
-/

import XmlScribe.Proofs.Markup.Scan
import XmlScribe.Writer.Markup

set_option autoImplicit false

namespace XmlScribe

namespace Declaration

/-! ### What is written -/

/-- The name of the attribute with the version. -/
def versionKey : Text := ['v', 'e', 'r', 's', 'i', 'o', 'n']

/-- The name of the attribute with the label of the encoding. -/
def encodingKey : Text := ['e', 'n', 'c', 'o', 'd', 'i', 'n', 'g']

/-- The name of the attribute with the standalone flag. -/
def standaloneKey : Text := ['s', 't', 'a', 'n', 'd', 'a', 'l', 'o', 'n', 'e']

/-- The attributes of an XML declaration. -/
def writtenAttributes (version label : Text) (standalone : Option Bool) : List WrittenAttribute :=
  ⟨versionKey, '"', version⟩ :: ⟨encodingKey, '"', label⟩ ::
    (standalone.map fun flag => ⟨standaloneKey, '"', Writer.yesOrNo flag⟩).toList

/-- The content of an XML declaration. -/
def written (version label : Text) (standalone : Option Bool) : Text :=
  Tag.written ['x', 'm', 'l'] (writtenAttributes version label standalone)

/-- The text of an XML declaration before the label. -/
def lead (version : Text) : Text :=
  '<' :: '?' :: 'x' :: 'm' :: 'l' :: ' ' :: versionKey ++ '=' :: '"' :: version ++
    '"' :: ' ' :: encodingKey ++ ['=', '"']

/-- The text of an XML declaration after the label. -/
def tail (standalone : Option Bool) : Text :=
  '"' :: (standalone.map fun flag =>
    (⟨standaloneKey, '"', Writer.yesOrNo flag⟩ : WrittenAttribute)).toList.flatMap
      WrittenAttribute.text ++ ['?', '>']

theorem source_written (version label : Text) (standalone : Option Bool) :
    (Event.declaration (written version label standalone)).source =
      lead version ++ (label ++ tail standalone) := by
  simp [Event.source, written, writtenAttributes, Tag.written, WrittenAttribute.text, lead, tail]

theorem not_mem_lead {version : Text} (h : '\r' ∉ version) : '\r' ∉ lead version := by
  simp [lead, versionKey, encodingKey, h]

theorem not_mem_tail (standalone : Option Bool) : '\r' ∉ tail standalone := by
  cases standalone with
  | none => decide
  | some flag => cases flag <;> decide

/-- The values can be told apart, and none ends the declaration. -/
structure IsWritable (version label : Text) : Prop where
  /-- The version does not end the declaration. -/
  not_isInfix : ¬ ['?', '>'] <:+: version
  /-- The version has no quotation mark. -/
  quote_not_mem : '"' ∉ version
  /-- Neither has the label a quotation mark nor a question mark. -/
  not_mem_label : '"' ∉ label ∧ '?' ∉ label

/-! ### Reading it again -/

theorem not_mem_yesOrNo (flag : Bool) : '"' ∉ Writer.yesOrNo flag ∧ '?' ∉ Writer.yesOrNo flag := by
  cases flag <;> decide

theorem isSound_writtenAttributes {version label : Text} (h : IsWritable version label)
    (standalone : Option Bool) : ∀ a ∈ writtenAttributes version label standalone, a.IsSound := by
  have hversion : Name.IsName versionKey := Name.isName_iff.1 (by decide)
  have hencoding : Name.IsName encodingKey := Name.isName_iff.1 (by decide)
  have hstandalone : Name.IsName standaloneKey := Name.isName_iff.1 (by decide)
  simp only [writtenAttributes, List.mem_cons, Option.mem_toList, Option.map_eq_some_iff]
  rintro a (rfl | rfl | ⟨flag, -, rfl⟩)
  · exact ⟨hversion, Or.inl rfl, h.quote_not_mem⟩
  · exact ⟨hencoding, Or.inl rfl, h.not_mem_label.1⟩
  · exact ⟨hstandalone, Or.inl rfl, (not_mem_yesOrNo flag).1⟩

theorem map_name_writtenAttributes (version label : Text) (standalone : Option Bool) :
    (writtenAttributes version label standalone).map WrittenAttribute.name =
      versionKey :: encodingKey :: (standalone.map fun _ => standaloneKey).toList := by
  cases standalone <;> rfl

theorem nodup_writtenAttributes (version label : Text) (standalone : Option Bool) :
    ((writtenAttributes version label standalone).map WrittenAttribute.name).Nodup := by
  rw [map_name_writtenAttributes]
  cases standalone with
  | none => decide
  | some flag => exact (by decide : [versionKey, encodingKey, standaloneKey].Nodup)

/-- No attribute but the version can end the declaration. -/
theorem not_isInfix_written {version label : Text} (hv : ¬ ['?', '>'] <:+: version)
    (hl : '?' ∉ label) (standalone : Option Bool) :
    ¬ ['?', '>'] <:+: written version label standalone := by
  have hlast : '?' ∉ ('"' :: ' ' :: encodingKey ++ '=' :: '"' :: label ++ ['"'] ++
      ((standalone.map fun flag =>
        (⟨standaloneKey, '"', Writer.yesOrNo flag⟩ : WrittenAttribute)).toList.flatMap
          WrittenAttribute.text)) := by
    cases standalone with
    | none => simp [encodingKey, hl]
    | some flag =>
        simp [encodingKey, standaloneKey, WrittenAttribute.text, hl, (not_mem_yesOrNo flag).2]
  have hversion := Text.not_isInfix_append hv
    (fun hi => hlast (hi.subset List.mem_cons_self)) (by simp)
  have hlead : '?' ∉ 'x' :: 'm' :: 'l' :: ' ' :: versionKey ++ ['=', '"'] := by decide
  simpa [written, Tag.written, writtenAttributes, WrittenAttribute.text] using
    Text.not_isInfix_append_of_not_mem hlead hversion

/-- The declaration ends where it is meant to. -/
theorem readsBack_written {version label : Text} (hv : ¬ ['?', '>'] <:+: version)
    (hl : '?' ∉ label) (standalone : Option Bool) :
    (Event.declaration (written version label standalone)).ReadsBack :=
  Event.readsBack_declaration (Tag.name_written (Name.isName_iff.1 (by decide)) _)
    (not_isInfix_written hv hl standalone)

/-- The value of an attribute is looked up under its name. -/
theorem attributeValue?_eq (raw : List RawAttribute) (name : Text) :
    Builder.attributeValue? (raw, .none) name =
      .ok ((raw.map fun a => (a.name, a.value)).lookup name) := by
  have hfind : (raw.find? (·.name = name)).map RawAttribute.value =
      (raw.map fun a => (a.name, a.value)).lookup name := by
    induction raw with
    | nil => rfl
    | cons a raw ih =>
        rw [List.find?_cons, List.map_cons, List.lookup_cons]
        by_cases hn : a.name = name
        · simp [hn]
        · have hne : (name == a.name) = false := beq_eq_false_iff_ne.2 (Ne.symm hn)
          simp [hn, hne, ih]
  rw [← hfind, Builder.attributeValue?]
  cases raw.find? (·.name = name) <;> rfl

/-- The declaration is read as it was meant. -/
theorem readDeclaration_written {version label : Text} (h : IsWritable version label)
    (standalone : Option Bool) (old : Declaration) :
    Builder.readDeclaration old (written version label standalone) =
      .ok ⟨some version, some label, standalone.or old.standalone⟩ := by
  obtain ⟨raw, hraw, hmap⟩ := @Tag.attributesFrom_written false _
    (isSound_writtenAttributes h standalone) [] (nodup_writtenAttributes version label standalone) 3
  have hattributes : Tag.declarationAttributes (written version label standalone) =
      (raw, .none) := hraw
  have hversion : Builder.versionOf (raw, .none) = .ok version := by
    cases raw with
    | nil => simp [writtenAttributes] at hmap
    | cons a raw =>
        obtain ⟨hname, hvalue⟩ := Prod.mk.inj (List.cons.inj hmap).1
        rw [Builder.versionOf, if_pos (show a.name = "version".toList from hname),
          show a.value = version from hvalue]
  rw [Builder.readDeclaration]
  simp only [hattributes]
  rw [Outcome.bind_of_eq_ok hversion, Outcome.bind_of_eq_ok (attributeValue?_eq raw _),
    Outcome.bind_of_eq_ok (attributeValue?_eq raw _), hmap]
  cases standalone with
  | none => rfl
  | some flag => cases flag <;> rfl

end Declaration

end XmlScribe
