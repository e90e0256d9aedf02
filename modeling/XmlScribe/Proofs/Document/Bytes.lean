/-
**Bytes of a text in UTF-8.**

The character set of bytes is looked for before there is a text: in whatever begins with `<?xml` and
ends with `?>`, the first "encoding" is taken for the attribute, be it in a value, in another name or in
the data of a processing instruction.  The reader of a text finds the attribute among the attributes of
the XML declaration.  A text without a mark of byte order whose declaration allows for UTF-8 is thus read
from its bytes as it is read itself, unless another label than the declared one is found in it.  Such a
label is a fault if it is unknown, and otherwise the bytes are read in its character set.

Main definitions:

* `Document.Announces` — the label that is found in the bytes of a text;
* `Document.declaredLabel?` — the label that the XML declaration of a text gives;
* `Document.IsHarmless` — a label that makes no difference.

Main results:

* `Document.declaredEncoding?_encode_utf8` — a label is found exactly if it is announced;
* `Document.announces_of_isSpelled_iff` — in an XML declaration that is spelled by the rules this is the
  label that is declared;
* `Document.read_encode_utf8_of_not_isPrefix`, `Document.read_encode_utf8_of_isSpelled` — texts that
  are read from their bytes as they are;
* `Document.read_encode_utf8_eq_iff` — which texts are, exactly.
-/

import XmlScribe.Proofs.Document.Bytewise
import XmlScribe.Proofs.Document.Encoded
import XmlScribe.Proofs.Document.Faults
import XmlScribe.Proofs.Outcome

set_option autoImplicit false

namespace XmlScribe

namespace Document

/-! ### The label that is found in bytes -/

/-- An equals sign and the label between quotation marks, with white space before either. -/
def Assigns (value label : Text) : Prop :=
  ∃ gap gap' quote rest, value = gap ++ '=' :: (gap' ++ quote :: (label ++ quote :: rest)) ∧
    (∀ c ∈ gap ++ gap', Charset.whiteSpace.contains c = true) ∧
      (quote = '"' ∨ quote = '\'') ∧ quote ∉ label

/-- The first "encoding" between `<?xml` at the start of the text and the next `?>` has the label
assigned to it. -/
def Announces (t label : Text) : Prop :=
  ∃ before value rest,
    t = "<?xml".toList ++ (before ++ "encoding".toList ++ value ++ "?>".toList ++ rest) ∧
      ¬ "?>".toList <:+: before ++ "encoding".toList ++ value ∧
        ¬ "encoding".toList <:+: before ∧ Assigns value label

/-- The label after an equals sign. -/
def assigned? (value : Text) : Option Text := do
  let value ← Text.after? ['='] (value.dropWhile Charset.whiteSpace.contains)
  match value.dropWhile Charset.whiteSpace.contains with
  | [] => none
  | quote :: value =>
      if quote = '"' ∨ quote = '\'' then (Text.cutAt [quote] value).map Prod.fst else none

theorem assigned?_eq_some_iff {value label : Text} :
    assigned? value = some label ↔ Assigns value label := by
  constructor
  · intro h
    obtain ⟨signed, hsigned, h⟩ := Option.bind_eq_some_iff.1 h
    obtain ⟨gap, hgap, hblank, -⟩ := Text.dropWhile_eq_cons_iff.1 (Text.after?_eq_some_iff.1 hsigned)
    split at h
    · cases h
    · rename_i quote quoted hquoted
      obtain ⟨gap', hgap', hblank', -⟩ := Text.dropWhile_eq_cons_iff.1 hquoted
      split at h
      · rename_i hquote
        obtain ⟨⟨found, rest⟩, hcut, rfl⟩ := Option.map_eq_some_iff.1 h
        obtain ⟨rfl, hlabel⟩ := Text.cutAt_singleton_eq_some_iff.1 hcut
        refine ⟨gap, gap', quote, rest, ?_, ?_, hquote, hlabel⟩
        · rw [hgap, hgap']
          rfl
        · exact fun c hc => (List.mem_append.1 hc).elim (hblank c) (hblank' c)
      · cases h
  · rintro ⟨gap, gap', quote, rest, rfl, hblank, hquote, hlabel⟩
    rw [List.forall_mem_append] at hblank
    have hsign : (gap ++ '=' :: (gap' ++ quote :: (label ++ quote :: rest))).dropWhile
        Charset.whiteSpace.contains = '=' :: (gap' ++ quote :: (label ++ quote :: rest)) :=
      Text.dropWhile_eq_cons_iff.2 ⟨gap, rfl, hblank.1, by decide⟩
    have hopen : (gap' ++ quote :: (label ++ quote :: rest)).dropWhile
        Charset.whiteSpace.contains = quote :: (label ++ quote :: rest) :=
      Text.dropWhile_eq_cons_iff.2 ⟨gap', rfl, hblank.2, not_whiteSpace_of_quote hquote⟩
    have hclose : Text.cutAt [quote] (label ++ quote :: rest) = some (label, rest) :=
      Text.cutAt_singleton_eq_some_iff.2 ⟨rfl, hlabel⟩
    have hafter := Text.after?_append ['='] (gap' ++ quote :: (label ++ quote :: rest))
    rw [List.singleton_append] at hafter
    rw [assigned?, hsign, hafter]
    simp only [Option.bind_eq_bind, Option.bind_some, hopen, if_pos hquote, hclose, Option.map_some]

/-- The bytes are searched as the text would be. -/
theorem declaredEncoding?_bytewise (t : Text) :
    declaredEncoding? (Charset.utf8.encode t) =
      (Text.after? "<?xml".toList t).bind fun rest =>
        (Text.cutAt "?>".toList rest).bind fun parts =>
          (Text.cutAt "encoding".toList parts.1).bind fun sides => assigned? sides.2 := by
  have hlead : Text.after? "<?xml".toList (ofBytes (Charset.utf8.encode t)) =
      (Text.after? "<?xml".toList t).map bytewise := after?_bytewise (by simp) t
  rw [declaredEncoding?, hlead]
  cases Text.after? "<?xml".toList t with
  | none => rfl
  | some rest =>
      have hend : Text.cutAt "?>".toList (bytewise rest) =
          (Text.cutAt "?>".toList rest).map (Prod.map bytewise bytewise) :=
        @cutAt_bytewise '?' ['>'] (by simp) rest
      simp only [Option.map_some, Option.bind_eq_bind, Option.bind_some, hend]
      cases Text.cutAt "?>".toList rest with
      | none => rfl
      | some parts =>
          simp only [Option.map_some, Option.bind_some, Prod.map, decode?_bytewise]
          rfl

/-- In the bytes of a text a label is found exactly if the text announces it. -/
theorem declaredEncoding?_encode_utf8 {t label : Text} :
    declaredEncoding? (Charset.utf8.encode t) = some label ↔ Announces t label := by
  have hend {s before rest : Text} := @Text.cutAt_eq_some_iff ['?'] s before rest '>' (by decide)
  have hkey {s before rest : Text} :=
    @Text.cutAt_eq_some_iff "encodin".toList s before rest 'g' (by decide)
  rw [declaredEncoding?_bytewise]
  constructor
  · intro h
    obtain ⟨s, hs, h⟩ := Option.bind_eq_some_iff.1 h
    obtain ⟨⟨content, rest⟩, hcontent, h⟩ := Option.bind_eq_some_iff.1 h
    obtain ⟨⟨before, value⟩, hvalue, hassigned⟩ := Option.bind_eq_some_iff.1 h
    obtain ⟨rfl, hclosed⟩ := hend.1 hcontent
    obtain ⟨rfl, hfirst⟩ := hkey.1 hvalue
    obtain rfl := Text.after?_eq_some_iff.1 hs
    exact ⟨before, value, rest, rfl, hclosed, hfirst, assigned?_eq_some_iff.1 hassigned⟩
  · rintro ⟨before, value, rest, rfl, hclosed, hfirst, h⟩
    refine Option.bind_eq_some_iff.2 ⟨_, Text.after?_append _ _, ?_⟩
    refine Option.bind_eq_some_iff.2 ⟨_, hend.2 ⟨rfl, hclosed⟩, ?_⟩
    exact Option.bind_eq_some_iff.2 ⟨_, hkey.2 ⟨rfl, hfirst⟩, assigned?_eq_some_iff.2 h⟩

/-- Nothing is announced but after `<?xml`. -/
theorem Announces.isPrefix {t label : Text} (h : Announces t label) : "<?xml".toList <+: t := by
  obtain ⟨before, value, rest, rfl, -⟩ := h
  exact List.prefix_append _ _

/-- An XML declaration that is spelled by the rules is in ASCII. -/
theorem lt_of_mem_text {d : EncodingDeclaration} {label : Text} (h : d.IsSpelled label)
    (hlabel : label.all EncodingDeclaration.mayStand = true) : ∀ c ∈ d.text, c.toNat < 0x80 := by
  have hcontent := EncodingDeclaration.lt_of_mayStand (h.all_content hlabel)
  change ∀ c ∈ "<?xml".toList ++ (d.content ++ "?>".toList), c.toNat < 0x80
  rw [List.forall_mem_append, List.forall_mem_append]
  exact ⟨by simp, hcontent, by simp⟩

/-- It announces the label that it declares. -/
theorem announces_of_isSpelled_iff {d : EncodingDeclaration} {label : Text} (h : d.IsSpelled label)
    (hlabel : label.all EncodingDeclaration.mayStand = true) (rest found : Text) :
    Announces (d.text ++ rest) found ↔ found = label := by
  rw [← declaredEncoding?_encode_utf8, declaredEncoding?_eq_some h hlabel
    (bytewise_append_of_ascii (lt_of_mem_text h hlabel) rest), Option.some.injEq, eq_comm]

/-! ### The label that is declared -/

/-- The label of the encoding in the XML declaration at the start of a text, if the reader of the text
finds one. -/
def declaredLabel? (t : Text) : Option Text :=
  match (Event.scan (Text.unifyLineEndings t)).1 with
  | .declaration content :: _ =>
      (Builder.attributeValue? (Tag.declarationAttributes content)
        Declaration.encodingKey).toOption.join
  | _ => none

/-! ### Reading -/

/-- The label in the bytes of a text makes no difference to how the text is read. -/
def IsHarmless (subsets : Subsets) (t label : Text) : Prop :=
  ∃ charset s, Charset.forReading? label = some charset ∧
    charset.decode? (Charset.utf8.encode t) = some s ∧ parse subsets s = parse subsets t

theorem isHarmless_utf8 {label : Text} (h : Charset.forReading? label = some Charset.utf8)
    (subsets : Subsets) (t : Text) : IsHarmless subsets t label :=
  ⟨Charset.utf8, t, h, Charset.decode?_encode_utf8 t, rfl⟩

section

variable {subsets : Subsets} {t label : Text} (hmark : t.head? ≠ some '\uFEFF')

include hmark

/-- Without a label the bytes are read in UTF-8. -/
theorem read_of_undeclared (h : declaredEncoding? (Charset.utf8.encode t) = none) :
    read subsets (Charset.utf8.encode t) = parse subsets t :=
  Outcome.bind_of_eq_ok (decode_of_undeclared (announcedCharset?_encode_utf8 hmark) h
    (Charset.decode?_encode_utf8 t)) _

/-- With a label the bytes are read like the text exactly if the label makes no difference. -/
theorem read_of_declared_eq_iff (h : declaredEncoding? (Charset.utf8.encode t) = some label) :
    read subsets (Charset.utf8.encode t) = parse subsets t ↔ IsHarmless subsets t label := by
  have hnone := announcedCharset?_encode_utf8 hmark
  -- A label or bytes that stand for nothing are a fault that no text has.
  have hfault : ∀ {fault : ReadFault}, decode (Charset.utf8.encode t) = .error fault →
      ¬ fault.IsOfText → read subsets (Charset.utf8.encode t) ≠ parse subsets t := by
    intro fault hdecode hfault heq
    refine hfault (isOfText_of_parse (heq.symm.trans ?_))
    rw [read, hdecode]
    rfl
  cases hcharset : Charset.forReading? label with
  | none =>
      have hfound : charsetOf (Charset.utf8.encode t) = .error (.unknownEncoding label) := by
        simp only [charsetOf, hnone, h, hcharset]
      have hdecode : decode (Charset.utf8.encode t) = .error (.unknownEncoding label) := by
        rw [decode, hfound]
        rfl
      refine iff_of_false (hfault hdecode id) ?_
      rintro ⟨charset, s, hother, -⟩
      rw [hcharset] at hother
      cases hother
  | some charset =>
      cases hs : charset.decode? (Charset.utf8.encode t) with
      | none =>
          have hfound : charsetOf (Charset.utf8.encode t) =
              .ok (charset, Charset.utf8.encode t) := by
            simp only [charsetOf, hnone, h, hcharset]
          have hdecode : decode (Charset.utf8.encode t) = .error (.undecodable charset.name) := by
            rw [decode, Outcome.bind_of_eq_ok hfound]
            simp only [hs]
            rfl
          refine iff_of_false (hfault hdecode id) ?_
          rintro ⟨other, s, hother, hsome, -⟩
          cases hcharset.symm.trans hother
          rw [hs] at hsome
          cases hsome
      | some s =>
          have hread : read subsets (Charset.utf8.encode t) = parse subsets s :=
            Outcome.bind_of_eq_ok (decode_of_declared hnone h hcharset hs) _
          rw [hread]
          constructor
          · exact fun heq => ⟨charset, s, hcharset, hs, heq⟩
          · rintro ⟨other, s', hother, hsome, heq⟩
            cases hcharset.symm.trans hother
            cases hs.symm.trans hsome
            exact heq

/-- A text that does not begin like an XML declaration is read from its bytes as it is. -/
theorem read_encode_utf8_of_not_isPrefix (h : ¬ "<?xml".toList <+: t) :
    read subsets (Charset.utf8.encode t) = parse subsets t := by
  refine read_of_undeclared hmark (Option.eq_none_iff_forall_ne_some.2 fun label hlabel => ?_)
  exact h (declaredEncoding?_encode_utf8.1 hlabel).isPrefix

end

/-- So is a text whose XML declaration is spelled by the rules and declares UTF-8. -/
theorem read_encode_utf8_of_isSpelled {subsets : Subsets} {d : EncodingDeclaration} {label : Text}
    (h : d.IsSpelled label) (hlabel : label.all EncodingDeclaration.mayStand = true)
    (hcharset : Charset.forReading? label = some Charset.utf8) (rest : Text) :
    read subsets (Charset.utf8.encode (d.text ++ rest)) = parse subsets (d.text ++ rest) := by
  have hfound := (announces_of_isSpelled_iff h hlabel rest label).2 rfl
  refine (read_of_declared_eq_iff ?_ (declaredEncoding?_encode_utf8.2 hfound)).2
    (isHarmless_utf8 hcharset subsets _)
  rw [EncodingDeclaration.text, List.cons_append, List.cons_append, List.head?_cons]
  decide

/-- A text that has no mark of byte order and declares UTF-8, or nothing, is read from its bytes as it
is, exactly if a label that is found in it is the declared one or makes no difference. -/
theorem read_encode_utf8_eq_iff {subsets : Subsets} {t : Text} (hmark : t.head? ≠ some '\uFEFF')
    (hdeclared : ∀ label, declaredLabel? t = some label →
      Charset.forReading? label = some Charset.utf8) :
    read subsets (Charset.utf8.encode t) = parse subsets t ↔
      ∀ label, Announces t label → declaredLabel? t = some label ∨ IsHarmless subsets t label := by
  cases hlabel : declaredEncoding? (Charset.utf8.encode t) with
  | none =>
      refine iff_of_true (read_of_undeclared hmark hlabel) ?_
      intro label h
      rw [← declaredEncoding?_encode_utf8, hlabel] at h
      cases h
  | some label =>
      have hfound : ∀ other, Announces t other ↔ label = other := by
        intro other
        rw [← declaredEncoding?_encode_utf8, hlabel, Option.some.injEq]
      simp only [read_of_declared_eq_iff hmark hlabel, hfound, forall_eq']
      constructor
      · exact .inr
      · rintro (h | h)
        · exact isHarmless_utf8 (hdeclared label h) subsets t
        · exact h

/-- An element with a single character in it, in a text that declares UTF-8. -/
def utf8Text (c : Char) : Text :=
  (plainDeclaration Charset.utf8.name.toList).text ++ ['<', 'a', '>', c, '<', '/', 'a', '>']

theorem read_encode_utf8Text :
    (utf8Text 'é').head? ≠ some '\uFEFF' ∧
      declaredLabel? (utf8Text 'é') = some Charset.utf8.name.toList ∧
      read .none (Charset.utf8.encode (utf8Text 'é')) = parse .none (utf8Text 'é') := by
  have hmark : (utf8Text 'é').head? ≠ some '\uFEFF' := by decide
  have hdeclared : declaredLabel? (utf8Text 'é') = some Charset.utf8.name.toList := by
    with_unfolding_all rfl
  have hfound : ∀ label, Announces (utf8Text 'é') label ↔ label = Charset.utf8.name.toList :=
    announces_of_isSpelled_iff (isSpelled_plainDeclaration (by decide)) (by decide) _
  refine ⟨hmark, hdeclared, (read_encode_utf8_eq_iff hmark fun label h => ?_).2 fun label h => .inl ?_⟩
  · cases hdeclared.symm.trans h
    with_unfolding_all rfl
  · rw [(hfound label).1 h]
    exact hdeclared

/-- An element with a single character in it, after a processing instruction for a style sheet in
ISO-8859-1. -/
def styledText (c : Char) : Text :=
  "<?xml-stylesheet encoding=\"ISO-8859-1\"?><a>".toList ++ [c, '<', '/', 'a', '>']

/-- The document of a text with a style sheet. -/
def styledDocument (data : Text) : Document :=
  ⟨.none, [.instruction "xml-stylesheet".toList (some "encoding=\"ISO-8859-1\"".toList),
    .element ⟨none, none, ['a']⟩ [] [.text data]]⟩

/-- The encoding of the style sheet is taken for the encoding of the text. -/
theorem read_encode_styledText :
    (styledText 'é').head? ≠ some '\uFEFF' ∧ declaredLabel? (styledText 'é') = none ∧
      parse .none (styledText 'é') = .ok (styledDocument ['é']) ∧
      read .none (Charset.utf8.encode (styledText 'é')) = .ok (styledDocument ['Ã', '©']) :=
  ⟨by decide, by with_unfolding_all rfl, by with_unfolding_all rfl, by with_unfolding_all rfl⟩

end Document

end XmlScribe
