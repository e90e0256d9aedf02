/-
**A document type declaration as it is written.**

A declaration is written with one space between its parts, with a quotation mark around each
identifier that the identifier does not have, and without a subset if that is empty.  What has been
written is read as the same name, identifiers and subset; and as the angle brackets stay in order,
it ends where it is meant to.

Main definitions:

* `Doctype.written` — the text between `<!DOCTYPE` and `>`;
* `Doctype.withoutEmptySubset` — an empty subset counts as none;
* `Doctype.IsQuotable` — a quotation mark can be found for an identifier;
* `Doctype.IsRead` — the document type has been read.

Main results:

* `Doctype.parse_written` — what is written is read as it was meant;
* `Builder.readDoctype_written` — a document type that has been read is read again the same;
* `Doctype.nest_written`, `Doctype.IsRead.readsBack` — it ends where it is meant to.
-/

import XmlScribe.Proofs.Doctype.Brackets
import XmlScribe.Proofs.Entity.Table
import XmlScribe.Proofs.Markup.Scan
import XmlScribe.Proofs.Outcome
import XmlScribe.Proofs.Text.Occurrence

set_option autoImplicit false

namespace XmlScribe

namespace Doctype

/-! ### What is written -/

/-- An identifier between quotation marks. -/
def quoted (literal : Text) : Text :=
  Entity.chooseQuote literal :: literal ++ [Entity.chooseQuote literal]

/-- The keyword before a system identifier that stands alone. -/
def systemKeyword : Text := ['S', 'Y', 'S', 'T', 'E', 'M']

/-- The keyword before a public identifier. -/
def publicKeyword : Text := ['P', 'U', 'B', 'L', 'I', 'C']

/-- The identifiers, each with a space before it. -/
def writtenIds (publicId systemId : Option Text) : Text :=
  match publicId, systemId with
  | some publicId, some systemId =>
      ' ' :: publicKeyword ++ ' ' :: quoted publicId ++ ' ' :: quoted systemId
  | none, some systemId => ' ' :: systemKeyword ++ ' ' :: quoted systemId
  | _, none => []

/-- The subset in brackets with a space before it, unless it is empty. -/
def writtenSubset (subset : Text) : Text :=
  if subset.isEmpty then [] else ' ' :: '[' :: subset ++ [']']

/-- The text between `<!DOCTYPE` and `>`. -/
def written (name : Text) (publicId systemId subset : Option Text) : Text :=
  name ++ writtenIds publicId systemId ++ writtenSubset (subset.getD [])

/-- The subset, if there is one and it is not empty. -/
def nonEmpty (subset : Option Text) : Option Text :=
  subset.filter (!·.isEmpty)

theorem getD_nonEmpty (subset : Option Text) : (nonEmpty subset).getD [] = subset.getD [] := by
  rcases subset with _ | _ | _ <;> rfl

/-- The document type, where an empty subset counts as none. -/
def withoutEmptySubset (d : Doctype) : Doctype :=
  { d with subset := nonEmpty d.subset }

/-- There is a quotation mark that the text does not have. -/
def IsQuotable (literal : Text) : Prop :=
  '"' ∉ literal ∨ '\'' ∉ literal

/-! ### Reading it again -/

theorem chooseQuote_not_mem {literal : Text} (h : IsQuotable literal) :
    Entity.chooseQuote literal ∉ literal := by
  rw [Entity.chooseQuote]
  split
  · rename_i hq
    rcases h with h | h
    · exact absurd (by simpa using hq) h
    · exact h
  · rename_i hq
    simpa using hq

theorem takeLiteral_quoted {literal : Text} (h : IsQuotable literal) (rest : Text) :
    takeLiteral (quoted literal ++ rest) = .ok (literal, rest) := by
  have hcut : Text.cutAt [Entity.chooseQuote literal]
      (literal ++ [Entity.chooseQuote literal] ++ rest) = some (literal, rest) :=
    Text.cutAt_singleton_eq_some_iff.2 ⟨by simp, chooseQuote_not_mem h⟩
  rw [quoted, List.cons_append, List.cons_append, takeLiteral,
    if_pos (Entity.chooseQuote_cases literal), hcut]

theorem isQuotable_of_takeLiteral {s : Text} {r : Text × Text} (h : takeLiteral s = .ok r) :
    IsQuotable r.1 := by
  obtain ⟨c, t, -, hq, hc⟩ := takeLiteral_cases h
  have hn := (Text.cutAt_singleton_eq_some_iff.1 hc).2
  rcases hq with rfl | rfl
  · exact Or.inl hn
  · exact Or.inr hn

theorem trimStart_eq_self {s : Text} (h : s.head?.all (!Text.isBlank ·) = true) :
    Text.trimStart s = s := by
  cases s with
  | nil => rfl
  | cons c s =>
      have hc : Text.isBlank c = false := by simpa using h
      simp [Text.trimStart, hc]

theorem trimStart_space (s : Text) : Text.trimStart (' ' :: s) = Text.trimStart s := rfl

theorem trimStart_quoted (literal rest : Text) :
    Text.trimStart (quoted literal ++ rest) = quoted literal ++ rest := by
  refine trimStart_eq_self ?_
  rcases Entity.chooseQuote_cases literal with h | h <;>
    simp [quoted, h, Text.isBlank]

/-- The name is read up to where it ends. -/
theorem takeName_append {name rest : Text} (hne : name ≠ [])
    (hn : ∀ c ∈ name, endsName c = false) (hr : rest.head?.all endsName = true) :
    takeName (name ++ rest) = .ok (name, rest) := by
  have hhead : (name ++ rest).head?.all endsName = false := by
    cases name with
    | nil => exact absurd rfl hne
    | cons c name => simpa using hn c (by simp)
  have hall : ∀ c ∈ name, (!endsName c) = true := fun c hc => by simp [hn c hc]
  rw [takeName, hhead, List.takeWhile_append_of_pos hall, List.dropWhile_append_of_pos hall]
  cases rest with
  | nil => simp
  | cons c rest =>
      have hc : endsName c = true := by simpa using hr
      simp [hc]

theorem systemKeyword_eq : "SYSTEM".toList = systemKeyword := rfl

theorem publicKeyword_eq : "PUBLIC".toList = publicKeyword := rfl

/-- The identifiers are read as they were meant, and then the rest. -/
theorem takeExternalId_written {publicId systemId : Option Text}
    (hids : hasValidIds publicId systemId = true) (hp : ∀ id, publicId = some id → IsQuotable id)
    (hs : ∀ id, systemId = some id → IsQuotable id) {rest : Text}
    (hrest : rest = [] ∨ ∃ t, rest = ' ' :: '[' :: t) :
    ∃ rest', takeExternalId (Text.trimStart (writtenIds publicId systemId ++ rest)) =
      .ok (systemId.map fun id => ⟨publicId, id⟩, rest') ∧
        Text.trimStart rest' = Text.trimStart rest := by
  cases systemId with
  | none =>
      have hpub : publicId = none := by
        cases publicId with
        | none => rfl
        | some id => simp [hasValidIds] at hids
      subst hpub
      refine ⟨Text.trimStart rest, ?_, ?_⟩
      · rcases hrest with rfl | ⟨t, rfl⟩ <;> rfl
      · rcases hrest with rfl | ⟨t, rfl⟩ <;> rfl
  | some sys =>
      have hsys := takeLiteral_quoted (hs sys rfl) rest
      cases publicId with
      | none =>
          refine ⟨rest, ?_, rfl⟩
          have h₁ : Text.trimStart (writtenIds none (some sys) ++ rest) =
              systemKeyword ++ (' ' :: (quoted sys ++ rest)) := by
            rw [writtenIds, List.append_assoc]
            rfl
          rw [h₁, takeExternalId, systemKeyword_eq, Text.after?_append]
          simp only [trimStart_space, trimStart_quoted, hsys]
          rfl
      | some pub =>
          refine ⟨rest, ?_, rfl⟩
          have h₁ : Text.trimStart (writtenIds (some pub) (some sys) ++ rest) =
              publicKeyword ++ (' ' :: (quoted pub ++ (' ' :: (quoted sys ++ rest)))) := by
            simp only [writtenIds, List.append_assoc, List.cons_append]
            rfl
          have h₂ : ∀ t, Text.after? systemKeyword (publicKeyword ++ t) = none := fun _ => rfl
          rw [h₁, takeExternalId, systemKeyword_eq, h₂, publicKeyword_eq, Text.after?_append]
          simp only [trimStart_space, trimStart_quoted, takeLiteral_quoted (hp pub rfl), bind,
            Except.bind, hsys]
          rfl

theorem cutAtLast_append (mark : Char) (s : Text) :
    cutAtLast mark (s ++ [mark]) = some (s, []) := by
  induction s with
  | nil => simp [cutAtLast]
  | cons c s ih => simp [cutAtLast, ih]

/-- The subset is read as it was meant. -/
theorem takeSubset_written (subset : Option Text) :
    takeSubset (Text.trimStart (writtenSubset (subset.getD []))) = .ok (nonEmpty subset, []) := by
  cases subset with
  | none => rfl
  | some s =>
      cases s with
      | nil => rfl
      | cons c s =>
          have h := cutAtLast_append ']' (c :: s)
          have ht : Text.trimStart (writtenSubset (c :: s)) = '[' :: (c :: s ++ [']']) := by
            simp [writtenSubset, Text.trimStart, Text.isBlank]
          rw [Option.getD_some, ht, takeSubset, h]
          rfl

theorem writtenSubset_cases (subset : Text) :
    writtenSubset subset = [] ∨ ∃ t, writtenSubset subset = ' ' :: '[' :: t := by
  rw [writtenSubset]
  split
  · exact Or.inl rfl
  · exact Or.inr ⟨subset ++ [']'], rfl⟩

/-- What is written is read as it was meant. -/
theorem parse_written {name : Text} {publicId systemId : Option Text} (subset : Option Text)
    (hne : name ≠ []) (hn : ∀ c ∈ name, endsName c = false)
    (hids : hasValidIds publicId systemId = true) (hp : ∀ id, publicId = some id → IsQuotable id)
    (hs : ∀ id, systemId = some id → IsQuotable id) :
    parse (written name publicId systemId subset) =
      .ok ⟨name, systemId.map fun id => ⟨publicId, id⟩, nonEmpty subset⟩ := by
  have hsub := writtenSubset_cases (subset.getD [])
  obtain ⟨rest, hids, hrest⟩ := takeExternalId_written hids hp hs hsub
  have htrim : Text.trimStart (written name publicId systemId subset) =
      written name publicId systemId subset := by
    refine trimStart_eq_self ?_
    cases name with
    | nil => exact absurd rfl hne
    | cons c name =>
        have := hn c (by simp)
        simp only [endsName, Bool.or_eq_false_iff] at this
        simp [written, this]
  have hhead : (writtenIds publicId systemId ++ writtenSubset (subset.getD [])).head?.all
      endsName = true := by
    cases publicId <;> cases systemId <;> rcases hsub with h | ⟨t, h⟩ <;>
      rw [h] <;> rfl
  rw [parse, htrim, written, List.append_assoc, takeName_append hne hn hhead]
  simp only [bind, Except.bind, hids, hrest, takeSubset_written]
  rfl

/-! ### What has been read can be written -/

theorem isQuotable_of_takeExternalId {s : Text} {r : Option ExternalId × Text}
    (h : takeExternalId s = .ok r) {id : ExternalId} (hid : r.1 = some id) :
    IsQuotable id.systemId ∧ ∀ pub, id.publicId = some pub → IsQuotable pub := by
  rcases takeExternalId_cases h with ⟨t, sys, -, ha, hr⟩ | ⟨t, pub, u, sys, -, ha, hb, hr⟩ | rfl
  · obtain rfl := Option.some.inj (hr.symm.trans hid)
    exact ⟨isQuotable_of_takeLiteral ha, by simp⟩
  · obtain rfl := Option.some.inj (hr.symm.trans hid)
    refine ⟨isQuotable_of_takeLiteral hb, fun p hp => ?_⟩
    obtain rfl := Option.some.inj hp
    exact isQuotable_of_takeLiteral ha
  · cases hid

/-- The identifiers of a declaration that has been read can be written. -/
theorem isQuotable_of_parse {content : Text} {header : Header}
    (h : parse content = .ok header) {id : ExternalId} (hid : header.externalId = some id) :
    IsQuotable id.systemId ∧ ∀ pub, id.publicId = some pub → IsQuotable pub := by
  obtain ⟨s, t, u, -, hids, -⟩ := parse_cases h
  exact isQuotable_of_takeExternalId hids hid

theorem endsName_of_isNameChar {c : Char} (h : Name.isNameChar c = true) : endsName c = false := by
  refine Bool.eq_false_iff.2 fun he => ?_
  simp only [endsName, Bool.or_eq_true, beq_iff_eq, Name.isBlank_of_isNameChar h] at he
  rcases he with ((((he | rfl) | rfl) | rfl) | rfl) | rfl
  · exact Bool.noConfusion he
  all_goals exact absurd h (by decide)

theorem angles_quoted (literal : Text) : Event.angles (quoted literal) = Event.angles literal := by
  rcases Entity.chooseQuote_cases literal with h | h <;> simp [quoted, h]

/-- What is written has the angle brackets of its parts. -/
theorem angles_written (name : Text) (id : Option ExternalId) (subset : Option Text) :
    Event.angles (written name (id.bind ExternalId.publicId) (id.map ExternalId.systemId)
      subset) = Event.angles name ++ (id.map ExternalId.angles).getD [] ++
        Event.angles (subset.getD []) := by
  have hsub : Event.angles (writtenSubset (subset.getD [])) = Event.angles (subset.getD []) := by
    rw [writtenSubset]
    split
    · rename_i he
      rw [List.isEmpty_iff.1 he]
    · simp
  have hids : Event.angles (writtenIds (id.bind ExternalId.publicId)
      (id.map ExternalId.systemId)) = (id.map ExternalId.angles).getD [] := by
    cases id with
    | none => rfl
    | some id =>
        obtain ⟨pub, sys⟩ := id
        cases pub <;>
          simp [writtenIds, ExternalId.angles, angles_quoted, systemKeyword, publicKeyword]
  rw [written, Event.angles_append, Event.angles_append, hids, hsub]

theorem foldl_addEntity_subset (decls : List EntityDecl) (d : Doctype) (subset : Option Text) :
    decls.foldl addEntity { d with subset := subset } =
      { decls.foldl addEntity d with subset := subset } := by
  induction decls generalizing d with
  | nil => rfl
  | cons decl decls ih =>
      have hadd : ({ d with subset := subset } : Doctype).addEntity decl =
          { d.addEntity decl with subset := subset } := by
        have hent : ({ d with subset := subset } : Doctype).entity? decl.name =
            d.entity? decl.name := rfl
        rw [addEntity, addEntity, hent]
        by_cases he : (d.entity? decl.name).isSome = true
        · rw [if_pos he, if_pos he]
        · rw [if_neg he, if_neg he]
      rw [List.foldl_cons, List.foldl_cons, hadd, ih]

/-- Adding entities changes nothing but the entities. -/
theorem foldl_addEntity_eq (decls : List EntityDecl) (d : Doctype) :
    decls.foldl addEntity d = { d with entities := (decls.foldl addEntity d).entities } := by
  induction decls generalizing d with
  | nil => rfl
  | cons decl decls ih =>
      have hadd : ∃ entities, d.addEntity decl = { d with entities := entities } := by
        rw [addEntity]
        split
        · exact ⟨d.entities, rfl⟩
        · exact ⟨_, rfl⟩
      obtain ⟨entities, he⟩ := hadd
      rw [List.foldl_cons, ih, he]

end Doctype

namespace Builder

open Doctype

/-- The declarations in an external definition that is at hand. -/
def outerDecls (subsets : Subsets) (publicId systemId : Option Text) :
    Except ReadFault (List EntityDecl) :=
  match systemId.bind (subsets.resolve? publicId) with
  | some subset => (parseEntities subset).mapError .doctype
  | none => pure []

/-- Reading a document type succeeds if its parts can be read. -/
theorem readDoctype_eq_ok_iff {subsets : Subsets} {content : Text} {d : Doctype}
    {entities : List (Text × Text)} :
    readDoctype subsets content = .ok (d, entities) ↔
      ∃ header inner outer, Doctype.parse content = .ok header ∧ Name.IsName header.name ∧
        parseEntities (header.subset.getD []) = .ok inner ∧
        outerDecls subsets header.publicId header.systemId = .ok outer ∧
        d = (inner ++ outer).foldl addEntity
          ⟨header.name, header.publicId, header.systemId, header.subset, []⟩ ∧
        entities = EntityDecl.replacements (inner ++ outer) := by
  rw [readDoctype, Outcome.bind_eq_ok_iff]
  constructor
  · rintro ⟨header, hh, h⟩
    obtain ⟨_, hn, h⟩ := Outcome.bind_eq_ok_iff.1 h
    obtain ⟨inner, hi, h⟩ := Outcome.bind_eq_ok_iff.1 h
    rw [Outcome.mapError_eq_ok_iff] at hh hn hi
    have hout : ∃ outer, outerDecls subsets header.publicId header.systemId = .ok outer ∧
        ((inner ++ outer).foldl addEntity
            ⟨header.name, header.publicId, header.systemId, header.subset, []⟩,
          EntityDecl.replacements (inner ++ outer)) = (d, entities) := by
      rw [outerDecls]
      cases hr : header.systemId.bind (subsets.resolve? header.publicId) with
      | none =>
        simp only [hr] at h
        obtain ⟨outer, ho, h⟩ := Outcome.bind_eq_ok_iff.1 h
        exact ⟨outer, ho, Except.ok.inj h⟩
      | some subset =>
        simp only [hr] at h
        obtain ⟨outer, ho, h⟩ := Outcome.bind_eq_ok_iff.1 h
        exact ⟨outer, ho, Except.ok.inj h⟩
    obtain ⟨outer, ho, h⟩ := hout
    cases h
    exact ⟨header, inner, outer, hh, Name.check_eq_ok_iff.1 hn, hi, ho, rfl, rfl⟩
  · rintro ⟨header, inner, outer, hh, hn, hi, ho, rfl, rfl⟩
    refine ⟨header, Outcome.mapError_of_eq_ok hh _, ?_⟩
    rw [Outcome.bind_of_eq_ok (Outcome.mapError_of_eq_ok (Name.check_eq_ok_iff.2 hn) _),
      Outcome.bind_of_eq_ok (Outcome.mapError_of_eq_ok hi _)]
    rw [outerDecls] at ho
    cases hr : header.systemId.bind (subsets.resolve? header.publicId) with
    | none =>
      simp only [hr] at ho ⊢
      exact Outcome.bind_eq_ok_iff.2 ⟨outer, ho, rfl⟩
    | some subset =>
      simp only [hr] at ho ⊢
      exact Outcome.bind_eq_ok_iff.2 ⟨outer, ho, rfl⟩

/-- A document type that has been read has a name. -/
theorem isName_of_readDoctype {subsets : Subsets} {content : Text} {d : Doctype}
    {entities : List (Text × Text)} (h : readDoctype subsets content = .ok (d, entities)) :
    Name.IsName d.name := by
  obtain ⟨⟨name, id, subset⟩, inner, outer, -, hname, -, -, rfl, -⟩ := readDoctype_eq_ok_iff.1 h
  rw [foldl_addEntity_eq]
  exact hname

/-- A document type that has been read has a system identifier if it has a public one. -/
theorem hasValidIds_of_readDoctype {subsets : Subsets} {content : Text} {d : Doctype}
    {entities : List (Text × Text)} (h : readDoctype subsets content = .ok (d, entities)) :
    hasValidIds d.publicId d.systemId = true := by
  obtain ⟨⟨name, id, subset⟩, inner, outer, -, -, -, -, rfl, -⟩ := readDoctype_eq_ok_iff.1 h
  rw [foldl_addEntity_eq]
  cases id with
  | none => rfl
  | some id => exact Bool.or_true _

/-- A document type that has been read is read again the same, but for an empty subset. -/
theorem readDoctype_written {subsets : Subsets} {content : Text} {d : Doctype}
    {entities : List (Text × Text)} (h : readDoctype subsets content = .ok (d, entities)) :
    readDoctype subsets (written d.name d.publicId d.systemId d.subset) =
      .ok (d.withoutEmptySubset, entities) := by
  obtain ⟨⟨name, id, subset⟩, inner, outer, hh, hn, hi, ho, hd, he⟩ := readDoctype_eq_ok_iff.1 h
  have hd' := hd
  rw [foldl_addEntity_eq] at hd'
  have hids : hasValidIds (id.bind ExternalId.publicId) (id.map ExternalId.systemId) = true := by
    cases id <;> simp [hasValidIds]
  have hq : ∀ i, id = some i → IsQuotable i.systemId ∧
      ∀ pub, i.publicId = some pub → IsQuotable pub := fun _ hi => isQuotable_of_parse hh hi
  have hp := parse_written subset hn.ne_nil
    (fun c hc => endsName_of_isNameChar (Name.isNameChar_of_mem hn hc)) hids
    (fun pub hpub => by
      cases id with
      | none => simp at hpub
      | some i => exact (hq i rfl).2 pub hpub)
    (fun sys hsys => by
      cases id with
      | none => simp at hsys
      | some i =>
          obtain rfl := Option.some.inj hsys
          exact (hq i rfl).1)
  have hid : ((id.map ExternalId.systemId).map fun sys =>
      (⟨id.bind ExternalId.publicId, sys⟩ : ExternalId)) = id := by
    cases id <;> rfl
  rw [hid] at hp
  have hname : d.name = name ∧ d.publicId = id.bind ExternalId.publicId ∧
      d.systemId = id.map ExternalId.systemId ∧ d.subset = subset := by
    rw [hd']
    exact ⟨rfl, rfl, rfl, rfl⟩
  obtain ⟨h₁, h₂, h₃, h₄⟩ := hname
  rw [h₁, h₂, h₃, h₄, readDoctype_eq_ok_iff]
  refine ⟨_, inner, outer, hp, hn, ?_, ho, ?_, he⟩
  · have hs : (nonEmpty subset).getD [] = subset.getD [] := by
      cases subset with
      | none => rfl
      | some s => cases s <;> rfl
    rw [hs]
    exact hi
  · have hs := foldl_addEntity_subset (inner ++ outer)
      ⟨name, id.bind ExternalId.publicId, id.map ExternalId.systemId, subset, []⟩
      (nonEmpty subset)
    rw [withoutEmptySubset, h₄, hd]
    exact hs.symm

end Builder

/-- A declaration that has been read ends, when it is written, where it is meant to. -/
theorem Doctype.nest_written {subsets : Subsets} {content : Text} {d : Doctype}
    {entities : List (Text × Text)}
    (h : Builder.readDoctype subsets content = .ok (d, entities))
    (hn : Event.nest 0 content = some 0) :
    Event.nest 0 (written d.name d.publicId d.systemId d.subset) = some 0 := by
  obtain ⟨header, inner, outer, hh, -, -, -, hd, -⟩ := Builder.readDoctype_eq_ok_iff.1 h
  rw [foldl_addEntity_eq] at hd
  rw [← hn, hd]
  exact Event.nest_congr
    ((angles_written header.name header.externalId header.subset).trans (angles_parse hh).symm) 0

/-- The document type has been read from a text that is scanned as a whole. -/
def Doctype.IsRead (subsets : Subsets) (d : Doctype) : Prop :=
  ∃ content entities, Builder.readDoctype subsets content = .ok (d, entities) ∧
    Event.nest 0 content = some 0 ∧ '\r' ∉ content

/-- What is written is read back, if its angle brackets match. -/
theorem Doctype.readsBack_written {name : Text} (hn : Name.IsName name)
    {publicId systemId subset : Option Text}
    (h : Event.nest 0 (written name publicId systemId subset) = some 0) :
    (Event.doctype (written name publicId systemId subset)).ReadsBack := by
  obtain ⟨c, s, rfl, hc, -⟩ := hn
  rw [written, List.cons_append, List.cons_append] at h ⊢
  exact Event.readsBack_doctype
    (Name.isBlank_of_isNameChar (Name.isNameChar_of_isStartChar hc)) h

/-- A document type that has been read is read back. -/
theorem Doctype.IsRead.readsBack {subsets : Subsets} {d : Doctype} (h : d.IsRead subsets) :
    (Event.doctype (written d.name d.publicId d.systemId d.subset)).ReadsBack := by
  obtain ⟨content, entities, hread, hnest, -⟩ := h
  exact readsBack_written (Builder.isName_of_readDoctype hread) (nest_written hread hnest)

end XmlScribe
