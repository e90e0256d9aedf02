/-
**Reading undoes escaping.**

A text is escaped with the entities that some declarations provide, and read where the same
declarations are known.  Whatever the writer was told to escape, the reader finds the text again:
in a value after line endings have been unified and white space has become spaces, in content after
line endings have been unified.  Only the null character, which no reference denotes, and a carriage
return in content, which reading takes for the end of a line, are beyond that.

Main definitions:

* `Reference.AreComplete` — every ampersand begins a reference that stands for something.

Main results:

* `Reference.Spells.areComplete` — a spelling has complete references only;
* `EntityTable.isReadable_of_nodup` — declarations with distinct names make a readable table;
* `Builder.expand_encode` — reading undoes escaping.
-/

import XmlScribe.Markup.Builder
import XmlScribe.Proofs.Entity.Table
import XmlScribe.Proofs.Markup.Reading
import XmlScribe.Proofs.Outcome
import XmlScribe.Proofs.Text.LineEnding
import XmlScribe.Writer.Settings

set_option autoImplicit false

namespace XmlScribe

/-! ### Complete references -/

namespace Reference

/-- Every ampersand in the text begins a reference that ends, and that stands for something. -/
def AreComplete (lookup : Text → Option Text) (raw : Text) : Prop :=
  ∀ before after, raw = before ++ '&' :: after →
    ∃ name value rest, after = name ++ ';' :: rest ∧ ';' ∉ name ∧ '&' ∉ name ∧
      ∀ start, resolve lookup start name = .ok value

variable {lookup : Text → Option Text}

/-- A spelling has complete references only. -/
theorem Spells.areComplete {raw data : Text} (h : Spells lookup raw data) :
    AreComplete lookup raw := by
  induction h with
  | nil =>
      intro before after he
      simp at he
  | char hc _ ih =>
      intro before after he
      cases before with
      | nil => exact absurd (List.cons.inj he).1 hc
      | cons _ before => exact ih before after (List.cons.inj he).2
  | @reference name value raw data hs ha hv _ ih =>
      intro before after he
      cases before with
      | nil => exact ⟨name, value, raw, (List.cons.inj he).2.symm, hs, ha, hv⟩
      | cons _ before =>
          -- The ampersand is not in the name, so it comes after the semicolon.
          have hrest : name ++ ';' :: raw = before ++ '&' :: after := (List.cons.inj he).2
          rcases List.append_eq_append_iff.1 hrest with ⟨t, rfl, ht⟩ | ⟨t, rfl, ht⟩
          · cases t with
            | nil => simp at ht
            | cons c t => exact ih t after (List.cons.inj ht).2
          · cases t with
            | nil => simp at ht
            | cons c t =>
                obtain ⟨rfl, -⟩ := List.cons.inj ht
                simp at ha

end Reference

/-- Declarations with distinct names make a table that can be read where they are known. -/
theorem EntityTable.isReadable_of_nodup {decls : List EntityDecl} {predefinedToo : Bool}
    {table : EntityTable} (h : build decls predefinedToo = .ok table)
    (hd : (decls.map EntityDecl.name).Nodup) (hn : ∀ decl ∈ decls, Name.IsName decl.name) :
    table.IsReadable fun name => (EntityDecl.replacements decls).lookup name :=
  isReadable_build h hn fun _ hm _ hv =>
    Doctype.lookup_replacements_of_find? (Doctype.find?_of_nodup hd hm) hv

/-! ### Reading -/

namespace Builder

variable {decls : List EntityDecl} {b : Builder} {e : Escaper}

theorem expand_of_spells (hb : b.entities = EntityDecl.replacements decls) {raw data : Text}
    (h : Reference.Spells (fun name => (EntityDecl.replacements decls).lookup name) raw data) :
    b.expand raw = .ok data := by
  rw [expand, hb]
  exact Outcome.mapError_of_eq_ok (Reference.expand_of_spells h) _

/-- Reading undoes escaping.  In a value between quotation marks nothing is left of what would end
it, begin a tag, or become a space; in content nothing that would begin or end markup. -/
theorem expand_encode {predefinedToo : Bool} (hd : (decls.map EntityDecl.name).Nodup)
    (hn : ∀ decl ∈ decls, Name.IsName decl.name)
    (ht : EntityTable.build decls predefinedToo = .ok e.table)
    (hb : b.entities = EntityDecl.replacements decls) {v : Text} (hv : '\x00' ∉ v) :
    (∀ quote ∈ ['"', '\''],
      (∀ d ∈ ['<', quote, '\t', '\n', '\r'], d ∉ e.encode (some quote) v) ∧
      Reference.AreComplete (fun name => b.entities.lookup name) (e.encode (some quote) v) ∧
      b.expand (normalizeValue (Text.unifyLineEndings (e.encode (some quote) v))) = .ok v) ∧
    ('\r' ∉ v →
      (∀ d ∈ ['<', '>'], d ∉ e.encode none v) ∧ ¬ "]]>".toList <:+: e.encode none v ∧
      Reference.AreComplete (fun name => b.entities.lookup name) (e.encode none v) ∧
      b.expand (Text.unifyLineEndings (e.encode none v)) = .ok v) := by
  have hread := EntityTable.isReadable_of_nodup ht hd hn
  have hspells : ∀ quote, Reference.Spells
      (fun name => (EntityDecl.replacements decls).lookup name) (e.encode quote v) v :=
    fun quote => Escaper.spells_encode hread quote hv
  constructor
  · intro quote hquote
    obtain ⟨hq, hangle, hblank⟩ :=
      Escaper.not_mem_encode_some hread (by simpa using hquote) v
    have hreturn := hblank '\r' (by simp)
    refine ⟨?_, hb ▸ (hspells _).areComplete, ?_⟩
    · simp only [List.forall_mem_cons]
      exact ⟨hangle, hq, hblank '\t' (by simp), hblank '\n' (by simp), hreturn, by simp⟩
    · rw [Text.unifyLineEndings_eq_self hreturn, normalizeValue_eq_self hblank]
      exact expand_of_spells hb (hspells _)
  · intro hr
    obtain ⟨hopen, hclose⟩ := Escaper.not_mem_encode_none hread v
    have hreturn : '\r' ∉ e.encode none v := fun hm =>
      hr (Escaper.mem_of_mem_encode hread (by decide) hm).1
    refine ⟨by simp [hopen, hclose], fun hm => hclose (hm.subset (by simp)),
      hb ▸ (hspells _).areComplete, ?_⟩
    rw [Text.unifyLineEndings_eq_self hreturn]
    exact expand_of_spells hb (hspells _)

/-- A letter and a quotation mark that have names of their own. -/
def namedDecls : List EntityDecl :=
  [⟨"eacute".toList, .internal ['é']⟩, ⟨"logo".toList, .external none "logo.gif".toList⟩,
    ⟨"quot".toList, .internal ['"']⟩]

/-- Reading where the letter and the quotation mark have names. -/
def namedBuilder : Builder :=
  { start with entities := EntityDecl.replacements namedDecls }

theorem expand_encode_namedDecls :
    ∃ table, EntityTable.build namedDecls false = .ok table ∧
      (Settings.standard.escaper table).encode (some '"') "\té\"<".toList =
        "&#x9;&eacute;&quot;&lt;".toList ∧
      namedBuilder.expand (normalizeValue (Text.unifyLineEndings
        ((Settings.standard.escaper table).encode (some '"') "\té\"<".toList))) =
          .ok "\té\"<".toList ∧
      namedBuilder.expand (Text.unifyLineEndings
        ((Settings.standard.escaper table).encode none "\té\"<".toList)) =
          .ok "\té\"<".toList := by
  have hn : ∀ decl ∈ namedDecls, Name.isName decl.name = true :=
    List.all_iff_forall_prop.1 (by decide)
  obtain ⟨hvalue, hcontent⟩ := expand_encode (b := namedBuilder)
    (e := Settings.standard.escaper ⟨[('é', "eacute".toList), ('"', "quot".toList)], false⟩)
    (by decide) (fun decl hm => Name.isName_iff.1 (hn decl hm))
    (show EntityTable.build namedDecls false = .ok _ from rfl) rfl
    (v := "\té\"<".toList) (by decide)
  exact ⟨_, rfl, by decide, (hvalue '"' (by simp)).2.2, (hcontent (by decide)).2.2.2⟩

end Builder

end XmlScribe
