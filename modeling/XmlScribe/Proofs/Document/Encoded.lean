/-
**Documents that are read in the encoding that they declare.**

A text is written in one of the writer's own character sets, after the mark of byte order, and its XML
declaration has the name of the character set.  A reader then finds the character set by the mark or
by the declaration.  In UTF-8, UTF-16 and ASCII the text is read as it was; in ISO-8859-1 it is so
exactly if it has no character that windows-1252 has not in its place.

Main definitions:

* `PseudoAttribute`, `EncodingDeclaration` — an XML declaration with an encoding, as it is spelled.

Main results:

* `Document.declaredEncoding?_eq_some` — the label in the declaration is found;
* `Document.decode_encode_eq_ok_iff` — which texts are read back.
-/

import XmlScribe.Document.Read
import XmlScribe.Proofs.Charset.Reading
import XmlScribe.Proofs.Markup.Declaration

set_option autoImplicit false

namespace XmlScribe

/-! ### The XML declaration -/

/-- A name with a quoted value in an XML declaration, as it is spelled. -/
structure PseudoAttribute where
  /-- The blanks before the name. -/
  space : Text
  /-- The name. -/
  name : Text
  /-- The blanks before the equals sign. -/
  beforeEquals : Text
  /-- The blanks after the equals sign. -/
  afterEquals : Text
  /-- The quotation mark on either side of the value. -/
  quote : Char
  /-- The value. -/
  value : Text

namespace PseudoAttribute

/-- The spelling. -/
def text (a : PseudoAttribute) : Text :=
  a.space ++ a.name ++ a.beforeEquals ++ '=' :: a.afterEquals ++ a.quote :: a.value ++ [a.quote]

/-- The pseudo-attribute `name` is spelled by the rules. -/
structure IsSpelled (a : PseudoAttribute) (name : Text) : Prop where
  /-- There is space before the name. -/
  space_ne_nil : a.space ≠ []
  /-- All space is blank. -/
  isBlank : ∀ c ∈ a.space ++ a.beforeEquals ++ a.afterEquals, Text.isBlank c = true
  /-- The name. -/
  name_eq : a.name = name
  /-- Quotation marks are double or single. -/
  quote_eq : a.quote = '"' ∨ a.quote = '\''
  /-- The value does not end early. -/
  quote_not_mem : a.quote ∉ a.value

/-- What the characters of a spelling have in common, if those of name and value have it. -/
theorem IsSpelled.forall_mem_text {a : PseudoAttribute} {name : Text} (h : a.IsSpelled name)
    {p : Char → Bool} (hp : "= \t\n\r\"'".toList.all p = true) (hname : name.all p = true)
    (hvalue : a.value.all p = true) : a.text.all p = true := by
  have hmarks : ∀ c ∈ "= \t\n\r\"'".toList, p c = true := List.all_eq_true.1 hp
  have hblank : ∀ c ∈ a.space ++ a.beforeEquals ++ a.afterEquals, p c = true := by
    intro c hc
    have hc := h.isBlank c hc
    simp only [Text.isBlank, Bool.or_eq_true, beq_iff_eq] at hc
    rcases hc with ((rfl | rfl) | rfl) | rfl <;> exact hmarks _ (by decide)
  have hquote : p a.quote = true := by
    rcases h.quote_eq with hq | hq <;> rw [hq] <;> exact hmarks _ (by decide)
  simp only [List.mem_append, or_imp, forall_and] at hblank
  simp only [List.all_eq_true] at hname hvalue
  simp only [text, List.all_eq_true, List.mem_append, List.mem_cons, List.not_mem_nil, or_false,
    or_imp, forall_and, forall_eq, h.name_eq]
  exact ⟨⟨⟨⟨⟨hblank.1.1, hname⟩, hblank.1.2⟩, hmarks _ (by decide), hblank.2⟩, hquote, hvalue⟩, hquote⟩

end PseudoAttribute

/-- An XML declaration with an encoding, as it is spelled. -/
structure EncodingDeclaration where
  /-- The version of XML. -/
  version : PseudoAttribute
  /-- The encoding. -/
  encoding : PseudoAttribute
  /-- The standalone flag. -/
  standalone : Option PseudoAttribute
  /-- The blanks at the end. -/
  space : Text

namespace EncodingDeclaration

/-- What comes after the encoding. -/
def tail (d : EncodingDeclaration) : Text :=
  d.standalone.toList.flatMap PseudoAttribute.text ++ d.space

/-- What stands between the name and the end of the declaration. -/
def content (d : EncodingDeclaration) : Text :=
  d.version.text ++ d.encoding.text ++ d.tail

/-- The spelling. -/
def text (d : EncodingDeclaration) : Text :=
  '<' :: '?' :: 'x' :: 'm' :: 'l' :: d.content ++ ['?', '>']

/-- The declaration of the encoding `label` is spelled by the rules. -/
structure IsSpelled (d : EncodingDeclaration) (label : Text) : Prop where
  /-- The version is spelled by the rules. -/
  version : d.version.IsSpelled Declaration.versionKey
  /-- The version is 1 with a minor version. -/
  version_eq : ∃ minor, minor ≠ [] ∧ minor.all Char.isDigit = true ∧
    d.version.value = '1' :: '.' :: minor
  /-- The encoding is spelled by the rules. -/
  encoding : d.encoding.IsSpelled Declaration.encodingKey
  /-- The label. -/
  label_eq : d.encoding.value = label
  /-- The standalone flag is spelled by the rules. -/
  standalone : ∀ a ∈ d.standalone, a.IsSpelled Declaration.standaloneKey
  /-- The flag is set or not. -/
  standalone_eq : ∀ a ∈ d.standalone, a.value = "yes".toList ∨ a.value = "no".toList
  /-- There are only blanks before the end. -/
  isBlank : ∀ c ∈ d.space, Text.isBlank c = true

variable {d : EncodingDeclaration} {label : Text}

theorem IsSpelled.all_version (h : d.IsSpelled label) {p : Char → Bool}
    (hp : "1.".toList.all p = true) (hdigit : ∀ c : Char, c.isDigit = true → p c = true) :
    d.version.value.all p = true := by
  obtain ⟨minor, -, hminor, hversion⟩ := h.version_eq
  rw [hversion, List.all_cons, List.all_cons]
  simp only [List.all_eq_true] at hp hminor ⊢
  simp only [Bool.and_eq_true, List.all_eq_true]
  exact ⟨hp _ (by decide), hp _ (by decide), fun c hc => hdigit c (hminor c hc)⟩

/-- The characters that may stand in a declaration: those of ASCII without the question mark. -/
def mayStand (c : Char) : Bool :=
  c.toNat < 0x80 && c != '?'

theorem toNat_of_isDigit {c : Char} (h : c.isDigit = true) : 0x30 ≤ c.toNat ∧ c.toNat ≤ 0x39 := by
  simp only [Char.isDigit, Bool.and_eq_true, decide_eq_true_eq, ge_iff_le,
    UInt32.le_iff_toNat_le] at h
  exact h

theorem lt_of_mayStand {s : Text} (h : s.all mayStand = true) : ∀ c ∈ s, c.toNat < 0x80 := by
  intro c hc
  have hstand := List.all_eq_true.1 h c hc
  simp only [mayStand, Bool.and_eq_true, decide_eq_true_eq] at hstand
  exact hstand.1

theorem mayStand_of_isDigit {c : Char} (h : c.isDigit = true) : mayStand c = true := by
  have hrange := toNat_of_isDigit h
  have hne : c ≠ '?' := by
    rintro rfl
    exact absurd hrange (by decide)
  simp [mayStand, hne]
  omega

theorem mayStand_of_isBlank {c : Char} (h : Text.isBlank c = true) : mayStand c = true := by
  simp only [Text.isBlank, Bool.or_eq_true, beq_iff_eq] at h
  rcases h with ((rfl | rfl) | rfl) | rfl <;> decide

theorem IsSpelled.all_content (h : d.IsSpelled label) (hlabel : label.all mayStand = true) :
    d.content.all mayStand = true := by
  have hversion := h.version.forall_mem_text (p := mayStand) (by decide) (by decide)
    (h.all_version (by decide) fun _ => mayStand_of_isDigit)
  have hencoding := h.encoding.forall_mem_text (p := mayStand) (by decide) (by decide)
    (h.label_eq ▸ hlabel)
  have hstandalone : ∀ a ∈ d.standalone, a.text.all mayStand = true := fun a ha =>
    (h.standalone a ha).forall_mem_text (by decide) (by decide)
      (by rcases h.standalone_eq a ha with hv | hv <;> rw [hv] <;> decide)
  have htail : d.tail.all mayStand = true := by
    rw [tail, List.all_append, List.all_flatMap, Bool.and_eq_true]
    exact ⟨List.all_eq_true.2 fun a ha => hstandalone a (Option.mem_toList.1 ha),
      List.all_eq_true.2 fun c hc => mayStand_of_isBlank (h.isBlank c hc)⟩
  rw [content, List.all_append, List.all_append, hversion, hencoding, htail]
  rfl

/-- The word "encoding" stands in a declaration for the first time where it is the name. -/
theorem IsSpelled.cutAt_content (h : d.IsSpelled label) :
    Text.cutAt "encoding".toList d.content = some (d.version.text ++ d.encoding.space,
      d.encoding.beforeEquals ++ '=' :: (d.encoding.afterEquals ++
        d.encoding.quote :: (label ++ d.encoding.quote :: d.tail))) := by
  have hversion : d.version.text.all (· != 'g') = true :=
    h.version.forall_mem_text (by decide) (by decide)
      (h.all_version (by decide) fun c hc => by
        rw [bne_iff_ne]
        rintro rfl
        exact absurd (toNat_of_isDigit hc) (by decide))
  have hspace : 'g' ∉ d.encoding.space := fun hg =>
    absurd (h.encoding.isBlank 'g' (by simp [hg])) (by decide)
  have hbefore : 'g' ∉ d.version.text ++ d.encoding.space := by
    rw [List.mem_append, not_or]
    exact ⟨fun hg => absurd (List.all_eq_true.1 hversion _ hg) (by decide), hspace⟩
  have hcut := @Text.cutAt_of_not_isInfix "encodin".toList (d.version.text ++ d.encoding.space) 'g'
    (d.encoding.beforeEquals ++ '=' :: (d.encoding.afterEquals ++
      d.encoding.quote :: (label ++ d.encoding.quote :: d.tail)))
    (by decide) (fun hi => hbefore (hi.subset (by decide)))
  have hcontent : d.content = d.version.text ++ d.encoding.space ++ ("encodin".toList ++ ['g']) ++
      (d.encoding.beforeEquals ++ '=' :: (d.encoding.afterEquals ++
        d.encoding.quote :: (label ++ d.encoding.quote :: d.tail))) := by
    have hkey : "encodin".toList ++ ['g'] = d.encoding.name := h.encoding.name_eq.symm
    rw [hkey, ← h.label_eq]
    simp only [content, PseudoAttribute.text, List.append_assoc, List.cons_append, List.nil_append]
  rw [hcontent]
  exact hcut

end EncodingDeclaration

namespace Document

open EncodingDeclaration

theorem dropWhile_whiteSpace {s : Text} (hs : ∀ c ∈ s, Text.isBlank c = true) {c : Char}
    (hc : Charset.whiteSpace.contains c = false) (rest : Text) :
    (s ++ c :: rest).dropWhile Charset.whiteSpace.contains = c :: rest := by
  have hblank : ∀ b ∈ s, Charset.whiteSpace.contains b = true := by
    intro b hb
    have hb := hs b hb
    simp only [Text.isBlank, Bool.or_eq_true, beq_iff_eq] at hb
    rcases hb with ((rfl | rfl) | rfl) | rfl <;> decide
  rw [List.dropWhile_append_of_pos hblank, List.dropWhile_cons_of_neg (by simp [hc])]

theorem not_whiteSpace_of_quote {quote : Char} (h : quote = '"' ∨ quote = '\'') :
    Charset.whiteSpace.contains quote = false := by
  rcases h with rfl | rfl <;> decide

/-- The bytes of an ASCII text are valid UTF-8. -/
theorem decode?_utf8_of_mayStand {s : Text} (h : s.all mayStand = true) :
    Codec.utf8.decode? (s.map fun c => UInt8.ofNat c.toNat) = some s := by
  have hdecode := Charset.decode?_encode_utf8 s
  rwa [Charset.encode_utf8_of_ascii (lt_of_mayStand h)] at hdecode

/-- The label in a declaration at the start of a text is found. -/
theorem declaredEncoding?_eq_some {d : EncodingDeclaration} {label rest : Text} {bytes : Bytes}
    (h : d.IsSpelled label) (hlabel : label.all mayStand = true)
    (hbytes : ofBytes bytes = d.text ++ rest) : declaredEncoding? bytes = some label := by
  have hcontent := h.all_content hlabel
  have hmark : '?' ∉ d.content := fun hc =>
    absurd (List.all_eq_true.1 hcontent _ hc) (by decide)
  have hafter : Text.after? "<?xml".toList (ofBytes bytes) =
      some (d.content ++ (['?'] ++ ['>']) ++ rest) := by
    rw [hbytes, Text.after?_eq_some_iff]
    simp only [EncodingDeclaration.text, List.append_assoc, List.cons_append]
    rfl
  have hend := @Text.cutAt_of_not_isInfix ['?'] d.content '>' rest (by decide)
    (fun hi => hmark (hi.subset (by decide)))
  have hgaps := h.encoding.isBlank
  simp only [List.mem_append, or_imp, forall_and] at hgaps
  have hvalue : Text.cutAt [d.encoding.quote] (label ++ d.encoding.quote :: d.tail) =
      some (label, d.tail) :=
    Text.cutAt_singleton_eq_some_iff.2 ⟨rfl, h.label_eq ▸ h.encoding.quote_not_mem⟩
  have hequals := Text.after?_append ['=']
    (d.encoding.afterEquals ++ d.encoding.quote :: (label ++ d.encoding.quote :: d.tail))
  rw [List.singleton_append] at hequals
  rw [declaredEncoding?, hafter]
  simp only [Option.bind_eq_bind, Option.bind_some]
  rw [show "?>".toList = ['?'] ++ ['>'] from rfl, hend]
  simp only [Option.bind_some]
  rw [decode?_utf8_of_mayStand hcontent]
  simp only [Option.bind_some]
  rw [h.cutAt_content]
  simp only [Option.bind_some]
  rw [dropWhile_whiteSpace hgaps.1.2 (by decide), hequals]
  simp only [Option.bind_some]
  rw [dropWhile_whiteSpace hgaps.2 (not_whiteSpace_of_quote h.encoding.quote_eq)]
  simp only [if_pos h.encoding.quote_eq, hvalue, Option.map_some]

/-! ### Reading what has been written -/

/-- Bytes are read in the character set that is found for them. -/
theorem decode_of_charsetOf {charset : Charset} {bytes rest : Bytes} {s : Text}
    (h : charsetOf bytes = .ok (charset, rest)) (hs : charset.decode? rest = some s) :
    decode bytes = .ok s := by
  rw [decode, Outcome.bind_of_eq_ok h]
  simp only [hs]
  rfl

/-- After a mark, bytes are read in the character set of the mark. -/
theorem decode_of_announced {charset : Charset} {bytes rest : Bytes} {s : Text}
    (h : announcedCharset? bytes = some (charset, rest)) (hs : charset.decode? rest = some s) :
    decode bytes = .ok s :=
  decode_of_charsetOf (by rw [charsetOf, h]) hs

/-- Without a mark they are read in the character set that is declared. -/
theorem decode_of_declared {charset : Charset} {bytes : Bytes} {label s : Text}
    (hmark : announcedCharset? bytes = none) (hlabel : declaredEncoding? bytes = some label)
    (hcharset : Charset.forReading? label = some charset) (hs : charset.decode? bytes = some s) :
    decode bytes = .ok s :=
  decode_of_charsetOf (by simp only [charsetOf, hmark, hlabel, hcharset]) hs

/-- Where nothing is declared they are read in UTF-8. -/
theorem decode_of_undeclared {bytes : Bytes} {s : Text} (hmark : announcedCharset? bytes = none)
    (hlabel : declaredEncoding? bytes = none) (hs : Charset.utf8.decode? bytes = some s) :
    decode bytes = .ok s :=
  decode_of_charsetOf (by simp only [charsetOf, hmark, hlabel]) hs

theorem ofBytes_asciiBytes {s : Text} (h : ∀ c ∈ s, c.toNat < 0x100) :
    ofBytes (Codec.asciiBytes s) = s := by
  rw [ofBytes, Codec.asciiBytes, List.map_map]
  conv_rhs => rw [← List.map_id s]
  refine List.map_congr_left fun c hc => ?_
  rw [Function.comp_apply, Charset.toNat_ofNat_toNat (h c hc), Char.ofNat_toNat]
  rfl

/-- Characters that are written as their code points, after a declaration whose label is taken for
windows-1252. -/
theorem decode_asciiBytes {d : EncodingDeclaration} {label rest : Text} (h : d.IsSpelled label)
    (hlabel : label.all mayStand = true)
    (hcharset : Charset.forReading? label = some Charset.windows1252)
    (ht : ∀ c ∈ d.text ++ rest, c.toNat < 0x100) :
    decode (Codec.asciiBytes (d.text ++ rest)) =
      .ok ((d.text ++ rest).map Charset.rereadChar) := by
  refine decode_of_declared ?_
    (declaredEncoding?_eq_some h hlabel (ofBytes_asciiBytes ht)) hcharset
    (Charset.decode?_windows1252 ht)
  rfl

/-- A text with an XML declaration is written in the character set that it declares.  It is read as
it was, unless it is in ISO-8859-1 and has a character that is not in its place in windows-1252. -/
theorem decode_encode_eq_ok_iff {charset : Charset} (hc : charset ∈ Charset.own)
    {d : EncodingDeclaration} (hd : d.IsSpelled charset.name.toList) {rest : Text}
    (ht : ∀ c ∈ d.text ++ rest, charset.canEncode c = true) :
    decode (charset.byteOrderMark ++ charset.encode (d.text ++ rest)) = .ok (d.text ++ rest) ↔
      (charset = .latin1 → ∀ c ∈ d.text ++ rest, Charset.misread.contains c = false) := by
  have hother : ∀ {other : Charset}, other.name ≠ Charset.latin1.name → other = .latin1 →
      ∀ c ∈ d.text ++ rest, Charset.misread.contains c = false :=
    fun hname heq => absurd (congrArg Charset.name heq) hname
  rcases Charset.mem_own.1 hc with rfl | rfl | rfl | rfl | rfl
  · exact iff_of_true (decode_of_announced rfl (Charset.decode?_encode_utf8 _)) (hother (by decide))
  · exact iff_of_true (decode_of_announced rfl (Utf16.decode?_encode .little _))
      (hother (by decide))
  · exact iff_of_true (decode_of_announced rfl (Utf16.decode?_encode .big _)) (hother (by decide))
  · have hascii : ∀ c ∈ d.text ++ rest, c.toNat < 0x80 := fun c hc =>
      Charset.lt_of_canEncode_direct (ht c hc)
    have hsmall : ∀ c ∈ d.text ++ rest, c.toNat < 0x100 := fun c hc =>
      (hascii c hc).trans (by decide)
    refine iff_of_true ?_ (hother (by decide))
    have hdecode := decode_asciiBytes hd (by decide) (by with_unfolding_all rfl) hsmall
    rwa [(Charset.map_rereadChar_eq_iff hsmall).2 fun c hc =>
        Charset.misread_of_ascii (hascii c hc),
      ← @Charset.encode_direct "US-ASCII" 0x80 _ hascii] at hdecode
  · have hsmall : ∀ c ∈ d.text ++ rest, c.toNat < 0x100 := fun c hc =>
      Charset.lt_of_canEncode_direct (ht c hc)
    have hdecode := decode_asciiBytes hd (by decide) (by with_unfolding_all rfl) hsmall
    rw [← @Charset.encode_direct "ISO-8859-1" 0x100 _ hsmall] at hdecode
    change decode (Charset.latin1.encode (d.text ++ rest)) = _ at hdecode
    change decode (Charset.latin1.encode (d.text ++ rest)) = _ ↔ _
    rw [hdecode, Except.ok.injEq, Charset.map_rereadChar_eq_iff hsmall]
    exact ⟨fun h _ => h, fun h => h rfl⟩

/-- A declaration with single spaces and double quotation marks. -/
def plainDeclaration (label : Text) : EncodingDeclaration where
  version := ⟨[' '], Declaration.versionKey, [], [], '"', ['1', '.', '0']⟩
  encoding := ⟨[' '], Declaration.encodingKey, [], [], '"', label⟩
  standalone := none
  space := []

theorem isSpelled_plainDeclaration {label : Text} (h : '"' ∉ label) :
    (plainDeclaration label).IsSpelled label where
  version := ⟨by simp [plainDeclaration], by simp [plainDeclaration, Text.isBlank], rfl, .inl rfl,
    by simp [plainDeclaration]⟩
  version_eq := ⟨['0'], by decide, by decide, rfl⟩
  encoding := ⟨by simp [plainDeclaration], by simp [plainDeclaration, Text.isBlank], rfl, .inl rfl, h⟩
  label_eq := rfl
  standalone := by simp [plainDeclaration]
  standalone_eq := by simp [plainDeclaration]
  isBlank := by simp [plainDeclaration]

/-- An element with a single character in it, in ISO-8859-1. -/
def latin1Text (c : Char) : Text :=
  (plainDeclaration Charset.latin1.name.toList).text ++ ['<', 'a', '>', c, '<', '/', 'a', '>']

theorem decode_encode_acute :
    decode (Charset.latin1.byteOrderMark ++ Charset.latin1.encode (latin1Text 'é')) =
      .ok (latin1Text 'é') := by
  have hencode : ∀ c ∈ latin1Text 'é', Charset.latin1.canEncode c = true :=
    List.all_eq_true.1 (by decide +kernel)
  have hplace : (latin1Text 'é').all (fun c => !Charset.misread.contains c) = true := by
    decide +kernel
  simp only [List.all_eq_true, Bool.not_eq_true'] at hplace
  exact (decode_encode_eq_ok_iff (Charset.mem_own.2 (.inr (.inr (.inr (.inr rfl)))))
    (isSpelled_plainDeclaration (by decide)) hencode).2 fun _ => hplace

/-- A control character of ISO-8859-1 is read as the euro sign. -/
theorem decode_encode_control :
    Charset.latin1 ∈ Charset.own ∧
      (plainDeclaration Charset.latin1.name.toList).IsSpelled Charset.latin1.name.toList ∧
      (∀ c ∈ latin1Text '\u0080', Charset.latin1.canEncode c = true) ∧
      decode (Charset.latin1.byteOrderMark ++ Charset.latin1.encode (latin1Text '\u0080')) =
        .ok (latin1Text '€') ∧
      latin1Text '€' ≠ latin1Text '\u0080' :=
  ⟨Charset.mem_own.2 (.inr (.inr (.inr (.inr rfl)))), isSpelled_plainDeclaration (by decide),
    List.all_eq_true.1 (by decide +kernel), by with_unfolding_all rfl, by decide +kernel⟩

end Document

end XmlScribe
