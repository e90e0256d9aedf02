/-
**Names that are tested, cut and put together again.**

The test for names looks at the bytes of a text first, because most names are in ASCII, and only then
at its characters.  The bytes of a character outside ASCII are none of those that it looks for, so the
first look accepts nothing that the second one would refuse.

A qualified name is cut once, when an element is made for it.  Its prefix is later put behind `xmlns:`
to declare it, and that name is tested and cut anew.  It is always a name with the two parts that it was
put together from, so that a declaration can only be refused for where it is to stand: in a document
that is locked, or on an element that no document is left for.

Main definitions:

* `Name.isPlainBytewise` — the first look, at bytes;
* `QName.IsCutFrom` — a name with the parts that a text is cut into;
* `Forest.Refuses` — the reasons to refuse a declaration.

Main results:

* `Name.isPlainBytewise_eq` — looking at bytes comes to the same as looking at characters;
* `QName.IsMade.isCutFrom` — names have the parts that their text is cut into;
* `Forest.declare_eq_error_iff` — why a declaration is refused;
* `Forest.exists_name_createElementNs` — what the name of a new element is like.
-/

import XmlScribe.Forest.Adopt
import XmlScribe.Proofs.Document.Bytewise
import XmlScribe.Proofs.Namespace.Completeness
import XmlScribe.Proofs.Outcome

set_option autoImplicit false

namespace XmlScribe

namespace Name

/-! ### Bytes -/

/-- The bytes of the ASCII characters that a name can hold. -/
def isPlainByte (b : UInt8) : Bool :=
  (0x30 ≤ b && b ≤ 0x39) || (0x41 ≤ b && b ≤ 0x5A) || (0x61 ≤ b && b ≤ 0x7A)
    || b == 0x5F || b == 0x2D || b == 0x2E || b == 0x3A

/-- A name that begins with an ASCII character and whose other bytes are those of ASCII
characters. -/
def isPlainBytewise : Text → Bool
  | [] => false
  | c :: rest =>
      (c.isAlpha || c == '_' || c == ':') && (Charset.utf8.encode rest).all isPlainByte

/-- The ASCII characters that a name can hold. -/
def isPlainChar (c : Char) : Bool :=
  c.isAlphanum || c == '_' || c == '-' || c == '.' || c == ':'

/-- A character outside ASCII is none of them. -/
theorem isPlainChar_eq_false {c : Char} (h : 0x80 ≤ c.toNat) : isPlainChar c = false := by
  refine Bool.eq_false_iff.2 fun hp => ?_
  rw [isPlainChar] at hp
  delta Char.isAlphanum Char.isAlpha Char.isUpper Char.isLower Char.isDigit at hp
  simp only [Bool.or_eq_true, Bool.and_eq_true, decide_eq_true_eq, beq_iff_eq, ge_iff_le,
    UInt32.le_iff_toNat_le] at hp
  change ((((((65 ≤ c.toNat ∧ c.toNat ≤ 90) ∨ (97 ≤ c.toNat ∧ c.toNat ≤ 122)) ∨
    (48 ≤ c.toNat ∧ c.toNat ≤ 57)) ∨ c = '_') ∨ c = '-') ∨ c = '.') ∨ c = ':' at hp
  rcases hp with (((hp | rfl) | rfl) | rfl) | rfl
  · omega
  all_goals exact absurd h (by decide)

/-- All bytes of a character are looked for exactly if the character is. -/
theorem all_isPlainByte_utf8EncodeChar (c : Char) :
    (String.utf8EncodeChar c).all isPlainByte = isPlainChar c := by
  rcases Nat.lt_or_ge c.toNat 0x80 with h | h
  · have hascii : ∀ n < 0x80, isPlainByte (UInt8.ofNat n) = isPlainChar (Char.ofNat n) := by
      decide
    rw [Charset.utf8EncodeChar_of_ascii h, List.all_cons, hascii _ h, Char.ofNat_toNat]
    simp
  · -- the first byte alone shows that the character is outside ASCII
    rw [isPlainChar_eq_false h]
    obtain ⟨b, bytes, hb⟩ := List.exists_cons_of_ne_nil (String.utf8EncodeChar_ne_nil (c := c))
    have hhigh : 0x80 ≤ b.toNat :=
      (Charset.toNat_of_mem_utf8EncodeChar (by rw [hb]; exact List.mem_cons_self)).1 h
    have hnone : isPlainByte b = false := by
      simp only [isPlainByte, Bool.or_eq_false_iff, Bool.and_eq_false_iff, decide_eq_false_iff_not,
        beq_eq_false_iff_ne, UInt8.le_iff_toNat_le, ne_eq, ← UInt8.toNat_inj]
      simp
      omega
    rw [hb, List.all_cons, hnone, Bool.false_and]

/-- Looking at bytes comes to the same as looking at characters. -/
theorem isPlainBytewise_eq (s : Text) : isPlainBytewise s = isPlainName s := by
  cases s with
  | nil => rfl
  | cons c rest =>
      have hrest : (Charset.utf8.encode rest).all isPlainByte = rest.all isPlainChar := by
        induction rest with
        | nil => rfl
        | cons d rest ih =>
            rw [Charset.encode_utf8_cons, List.all_append, all_isPlainByte_utf8EncodeChar, ih,
              List.all_cons]
      rw [isPlainBytewise, hrest]
      rfl

end Name

/-! ### Parts -/

namespace QName

/-- The name has the parts that the text is cut into. -/
structure IsCutFrom (q : QName) (text : Text) : Prop where
  /-- The text is cut into the prefix and the local name, or cannot be cut. -/
  cut : splitAtColon? text = q.nsPrefix.map fun p => (p, q.localName)
  /-- Without a prefix the local name is all of the text. -/
  whole : q.nsPrefix = none → text = q.localName
  /-- A prefix stands before a colon and the local name after it; neither is empty or has another
  colon. -/
  parts : ∀ p, q.nsPrefix = some p →
    text = p ++ ':' :: q.localName ∧ (p ≠ [] ∧ ':' ∉ p) ∧ q.localName ≠ [] ∧ ':' ∉ q.localName

/-- Names have the parts that their text is cut into. -/
theorem IsMade.isCutFrom {q : QName} (h : q.IsMade) : q.IsCutFrom q.text := by
  cases hp : q.nsPrefix with
  | none =>
      obtain ⟨hcut, htext, -⟩ := h.parts_none hp
      exact ⟨by rw [hcut, hp]; rfl, fun _ => htext, fun p hs => by rw [hp] at hs; cases hs⟩
  | some p =>
      obtain ⟨hcut, hne, hcolon, -⟩ := h.parts hp
      obtain ⟨htext, hprefix⟩ := splitAtColon?_eq_some_iff.1 hcut
      refine ⟨by rw [hcut, hp]; rfl, fun hn => ?_, fun r hr => ?_⟩
      · rw [hp] at hn
        cases hn
      · obtain rfl : p = r := Option.some.inj (hp.symm.trans hr)
        exact ⟨htext, hprefix, hne, hcolon⟩

end QName

namespace Forest

variable {F G : Forest}

/-! ### Declarations that are refused -/

/-- An attribute is refused by a document that is locked, and where no document is left unless there
is an attribute to change. -/
theorem putAttribute_eq_error_iff {id : NodeId} {same : Attribute → Bool} {name : QName}
    {value : Text} {fault : TreeFault} :
    F.putAttribute id same name value = .error fault ↔
      F.isReadOnly id = true ∧ .readOnly = fault ∨
        F.isReadOnly id = false ∧ (F.owner? id = none ∧
          ∀ cell ∈ F.cells id, same cell.attr = false) ∧ .wrongDocument = fault := by
  rw [putAttribute]
  cases hlocked : F.isReadOnly id with
  | true => simp
  | false =>
      cases hknown : (F.cells id).any fun cell => same cell.attr with
      | true =>
          obtain ⟨cell, hmem, hsame⟩ := List.any_eq_true.1 hknown
          simpa using fun _ hnone => absurd (hnone cell hmem) (by simp [hsame])
      | false =>
          have hnone : ∀ cell ∈ F.cells id, same cell.attr = false := by simpa using hknown
          cases F.owner? id with
          | none => simpa using fun _ => hnone
          | some doc => simp

/-- The reasons to refuse the declaration of a binding. -/
inductive Refuses (F : Forest) (target : NodeId) (b : Binding) : TreeFault → Prop
  /-- The document is locked. -/
  | locked (h : F.isReadOnly target = true) : F.Refuses target b .readOnly
  /-- There is no document that a new attribute could belong to, and no attribute to change. -/
  | orphaned (h : F.isReadOnly target = false) (howner : F.owner? target = none)
      (hnew : F.attrNamedNs? target (some xmlnsUri) b.declaredName.localName = none) :
      F.Refuses target b .wrongDocument

/-- A declaration whose name can be made is refused for where it is to stand only. -/
theorem declare_eq_error_iff {target : NodeId} {b : Binding} {fault : TreeFault}
    (hn : QName.ofText (some xmlnsUri) b.declarationName = .ok b.declaredName) :
    F.declare target b = .error fault ↔ b.isImplicit = false ∧ F.Refuses target b fault := by
  have huri : b.declaredName.namespaceUri = some xmlnsUri := by
    rw [QName.namespaceUri_of_ofText hn]
    rfl
  have hnew : F.attrNamedNs? target (some xmlnsUri) b.declaredName.localName = none ↔
      ∀ cell ∈ F.cells target, cell.attr.hasExpandedName b.declaredName.namespaceUri
        b.declaredName.localName = false := by
    rw [attrNamedNs?, List.find?_eq_none, huri,
      show QName.someNamespace (some xmlnsUri) = some xmlnsUri from rfl]
    simp only [Bool.not_eq_true]
  rw [declare]
  cases b.isImplicit with
  | true => simp
  | false =>
      have hput : F.setAttributeNs target (some xmlnsUri) b.declarationName b.uriText =
          F.putAttribute target (Attribute.hasExpandedName b.declaredName.namespaceUri
            b.declaredName.localName) b.declaredName b.uriText := Outcome.bind_of_eq_ok hn _
      rw [if_neg (by simp), hput, putAttribute_eq_error_iff, ← hnew]
      simp only [true_and]
      constructor
      · rintro (⟨h, rfl⟩ | ⟨h, ⟨howner, hnone⟩, rfl⟩)
        · exact .locked h
        · exact .orphaned h howner hnone
      · rintro (h | ⟨h, howner, hnone⟩)
        · exact Or.inl ⟨h, rfl⟩
        · exact Or.inr ⟨h, ⟨howner, hnone⟩, rfl⟩

/-! ### New elements -/

/-- A new element has the name that the rules of namespaces have made. -/
theorem payload?_createElementNs {doc id : NodeId} {uri : Option Text} {text : Text}
    (h : F.createElementNs doc uri text = .ok (G, id)) :
    ∃ q, QName.ofText uri text = .ok q ∧ G.payload? id = some (.element q []) := by
  obtain ⟨q, hq, hcreated⟩ := Outcome.map_eq_ok_iff.1 h
  cases hcreated
  have hnew := get?_add F ⟨.element q [], none, some doc, []⟩ F.size
  rw [if_pos rfl] at hnew
  exact ⟨q, hq, congrArg (Option.map Node.payload) hnew⟩

/-- **Names that are accepted can be taken apart and declared.**  The test for names is the production
of names, and looking at bytes first accepts nothing that is none.  A new element has a name with the
parts into which its text is cut: no parts, or two that are not empty and have no colon.  The name of a
declaration of its prefix is accepted, with the parts it is put together from, and is cut into them
again.  Whatever namespace the prefix is declared for, and wherever, a declaration that is needed is
refused just where the document is locked, or is gone and there is no attribute to change. -/
theorem exists_name_createElementNs :
    (∀ text, Name.check text = .ok () ↔ Name.IsName text) ∧
      (∀ text, Name.isPlainBytewise text = true → Name.IsName text) ∧
      ∀ {F G : Forest} {doc id : NodeId} {uri : Option Text} {text : Text},
        F.createElementNs doc uri text = .ok (G, id) →
          ∃ q : QName, G.payload? id = some (.element q []) ∧ q.IsCutFrom text ∧
            (∀ p, q.nsPrefix = some p →
              QName.ofText (some xmlnsUri) (xmlnsPrefix ++ ':' :: p) =
                  .ok ⟨some xmlnsUri, some xmlnsPrefix, p⟩ ∧
                QName.splitAtColon? (xmlnsPrefix ++ ':' :: p) = some (xmlnsPrefix, p)) ∧
            ∀ (H : Forest) (target : NodeId) (ns : Option Text) (fault : TreeFault),
              H.declare target ⟨q.nsPrefix, ns⟩ = .error fault ↔
                (⟨q.nsPrefix, ns⟩ : Binding).isImplicit = false ∧
                  H.Refuses target ⟨q.nsPrefix, ns⟩ fault := by
  refine ⟨fun text => Name.check_eq_ok_iff, fun text h => ?_, fun {F G doc id uri text} h => ?_⟩
  · rw [Name.isPlainBytewise_eq] at h
    exact Name.isName_iff.1 (Name.isName_of_isPlainName h)
  · obtain ⟨q, hq, hpayload⟩ := payload?_createElementNs h
    have hmade := QName.isMade_of_ofText hq
    have hcut := hmade.isCutFrom
    rw [QName.text_ofText hq] at hcut
    refine ⟨q, hpayload, hcut, fun p hp => ?_, fun H target ns fault => ?_⟩
    · obtain ⟨hne, hcolon, hchars⟩ := hmade.prefix_chars hp
      have hdeclared := QName.ofText_declarationName hne hcolon hchars
      exact ⟨hdeclared, QName.splitAtColon?_eq_some_iff.2 ⟨rfl, by decide, by decide⟩⟩
    · have hname : QName.ofText (some xmlnsUri) (⟨q.nsPrefix, ns⟩ : Binding).declarationName =
          .ok (⟨q.nsPrefix, ns⟩ : Binding).declaredName := Frame.declarable_of_isProper (Or.inl hmade)
      exact declare_eq_error_iff hname

/-- A document, and a new element `p:a` of it. -/
def prefixedElement : Forest :=
  (empty.addDocument.1.create 0 (.element ⟨some ['u'], some ['p'], ['a']⟩ [])).1

/-- Its prefix can be declared, but not if the document is locked or vanishes. -/
theorem exists_name_createElementNs_prefixedElement :
    empty.addDocument.1.createElementNs 0 (some ['u']) "p:a".toList = .ok (prefixedElement, 1) ∧
      QName.IsCutFrom ⟨some ['u'], some ['p'], ['a']⟩ "p:a".toList ∧
      QName.ofText (some xmlnsUri) "xmlns:p".toList =
        .ok ⟨some xmlnsUri, some xmlnsPrefix, ['p']⟩ ∧
      (∀ fault, prefixedElement.declare 1 ⟨some ['p'], some ['v']⟩ ≠ .error fault) ∧
      (prefixedElement.setReadOnly 0 true).declare 1 ⟨some ['p'], some ['v']⟩ =
        .error .readOnly ∧
      (prefixedElement.retain [1]).declare 1 ⟨some ['p'], some ['v']⟩ = .error .wrongDocument := by
  have hmade : empty.addDocument.1.createElementNs 0 (some ['u']) "p:a".toList =
      .ok (prefixedElement, 1) := by with_unfolding_all rfl
  obtain ⟨q, hpayload, hcut, hdeclared, hrefused⟩ := exists_name_createElementNs.2.2 hmade
  have hname : prefixedElement.payload? 1 = some (.element ⟨some ['u'], some ['p'], ['a']⟩ []) := rfl
  obtain ⟨rfl, -⟩ := Payload.element.inj (Option.some.inj (hname.symm.trans hpayload))
  refine ⟨hmade, hcut, (hdeclared ['p'] rfl).1, fun fault h => ?_,
    (hrefused _ 1 (some ['v']) _).2 ⟨by decide, .locked (by decide)⟩,
    (hrefused _ 1 (some ['v']) _).2 ⟨by decide, .orphaned (by decide) (by decide) (by decide)⟩⟩
  rcases ((hrefused _ 1 (some ['v']) fault).1 h).2 with hlocked | ⟨-, howner, -⟩
  · exact absurd hlocked (by decide)
  · exact absurd howner (by decide)

end Forest

end XmlScribe
