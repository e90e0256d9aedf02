/-
**Nothing that cannot be encoded is written.**

A writer looks at names, comments and the like before it writes them, and escapes in text what the
character set lacks.  What is left are the names of the entities that stand for characters.  They are
not looked at where they are used; but a document that has been read has them from the internal
subset, and that has been looked at before.  So if what the settings and the XML declaration put into
a document can be encoded, everything that is written of it can, and the last resort of the encoder
is not needed.

Main definitions:

* `Settings.HasEncodableTexts` — what the settings put into a document can be encoded;
* `Writer.Wrote` — the characters that are written of a document.

Main results:

* `Writer.returns_putProlog` — before a document is written, its prolog is;
* `Writer.canEncode_of_lookup?` — the names of the entities that a writer uses can be encoded;
* `Document.canEncode_of_parse` — and so can all that is written of a document that has been read.
-/

import XmlScribe.Proofs.Doctype.Parts
import XmlScribe.Proofs.Document.References
import XmlScribe.Proofs.Document.RoundTrip
import XmlScribe.Proofs.Writer.Bytes
import XmlScribe.Proofs.Writer.Emitted

set_option autoImplicit false

namespace XmlScribe

/-- What the settings put into a document can be encoded. -/
structure Settings.HasEncodableTexts (settings : Settings) : Prop where
  /-- The text for a level of indentation. -/
  indent : ∀ c ∈ settings.indent, settings.charset.canEncode c = true
  /-- The text that ends a line. -/
  separator : ∀ c ∈ settings.separator, settings.charset.canEncode c = true
  /-- The name of the encoding. -/
  label : ∀ c ∈ settings.encodingLabel, settings.charset.canEncode c = true

namespace Walk

variable {α β : Type} {walk : Walk α} {next : α → Walk β} {P : Char → Prop} {st : WalkState}

/-- After a walk that writes nothing, what is written comes from the next one. -/
theorem IsSilent.bind_has (h : IsSilent walk) (hst : ∀ step ∈ st.trace, step.Has P)
    (hnext : ∀ a mid, walk.run.run st = (.ok a, mid) → (∀ step ∈ mid.trace, step.Has P) →
      ∀ step ∈ ((next a).run.run mid).2.trace, step.Has P) :
    ∀ step ∈ ((walk >>= next).run.run st).2.trace, step.Has P :=
  Outcome.of_run_bind (I := fun st : WalkState => ∀ step ∈ st.trace, step.Has P) (by rwa [h st]) hnext

end Walk

namespace Writer

open Walk

variable {W : Writer} {doctype : Option Doctype} {table : EntityTable}

theorem permits_canEncode (hs : W.settings.HasEncodableTexts) (ha : W.settings.charset.HasAscii) :
    W.Permits fun c => W.settings.charset.canEncode c = true :=
  ⟨id, ha.canEncode, hs.separator, hs.indent⟩

/-! ### The internal subset -/

/-- The internal subset in a document type that has been written has been looked at. -/
theorem canEncode_of_returns_putDoctype {heading : Heading} {subset : Option Text}
    (h : Returns (W.putDoctype heading subset) ()) :
    ∀ c ∈ subset.getD [], W.settings.charset.canEncode c = true := by
  obtain ⟨_, -, h⟩ := h.of_bind
  obtain ⟨_, -, h⟩ := h.of_bind
  obtain ⟨_, -, h⟩ := h.of_bind
  obtain ⟨⟨⟩, h, -⟩ := h.of_bind
  rw [putSubset] at h
  split at h
  · rename_i hempty
    rw [List.isEmpty_iff.1 hempty]
    exact fun c hc => absurd hc List.not_mem_nil
  · obtain ⟨_, -, h⟩ := h.of_bind
    obtain ⟨⟨⟩, h, -⟩ := h.of_bind
    exact canEncode_of_returns h

theorem canEncode_of_returns_putProlog {declaration : Declaration} {d : Doctype}
    (hh : W.settings.heading = none) (h : Returns (W.putProlog declaration (some d)) ()) :
    ∀ c ∈ d.subset.getD [], W.settings.charset.canEncode c = true := by
  have hheading : Returns (W.putHeading (some d)) () := by
    rw [putProlog_eq] at h
    split at h
    · obtain ⟨_, -, h⟩ := h.of_bind
      obtain ⟨_, -, h⟩ := h.of_bind
      exact h
    · exact h
  have hd : W.headingFor (some d) = some (⟨d.name, d.publicId, d.systemId⟩, d.subset) := by
    rw [headingFor, hh]
    rfl
  rw [putHeading, hd] at hheading
  obtain ⟨⟨⟩, h, -⟩ := hheading.of_bind
  exact canEncode_of_returns_putDoctype h

/-! ### The names of entities -/

/-- An entity that a writer uses is predefined, or its name stands in the internal subset. -/
theorem isInfix_of_lookup? (hread : ∀ d, doctype = some d → d.IsRead .none)
    (ht : W.entityTable doctype = .ok table) {c : Char} {name : Text}
    (hc : table.lookup? c = some name) :
    (Entity.predefinedChar? name).isSome = true ∨
      ∃ d, doctype = some d ∧ name <:+: d.subset.getD [] := by
  refine (lookup?_cases ht hc).imp_right ?_
  rintro ⟨-, d, rfl, decl, hdecl, rfl, -⟩
  exact ⟨d, rfl, (hread d rfl).isInfix_name decl hdecl⟩

/-- The names of predefined entities are basic. -/
theorem isBasic_of_predefinedChar? {name : Text}
    (h : (Entity.predefinedChar? name).isSome = true) : ∀ c ∈ name, IsBasic c := by
  have hall : ∀ entry ∈ Entity.predefined, ∀ c ∈ entry.1, IsBasic c := by decide
  obtain ⟨c, hc⟩ := Option.isSome_iff_exists.1 h
  obtain ⟨before, after, hsplit, -⟩ := List.lookup_eq_some_iff.1 hc
  exact hall (name, c) (hsplit ▸ List.mem_append_right before List.mem_cons_self)

/-- If the prolog can be written, the names of the entities that a writer uses can be encoded. -/
theorem canEncode_of_lookup? {declaration : Declaration} (ha : W.settings.charset.HasAscii)
    (hh : W.settings.heading = none) (hread : ∀ d, doctype = some d → d.IsRead .none)
    (hp : Returns (W.putProlog declaration doctype) ())
    (ht : W.entityTable doctype = .ok table) {c : Char} {name : Text}
    (hc : table.lookup? c = some name) : ∀ d ∈ name, W.settings.charset.canEncode d = true := by
  intro d hd
  rcases isInfix_of_lookup? hread ht hc with hname | ⟨doctype, rfl, hname⟩
  · exact ha.canEncode (isBasic_of_predefinedChar? hname d hd)
  · exact canEncode_of_returns_putProlog hh hp d (hname.subset hd)

/-! ### Documents -/

/-- Where a document is written, the character is handed to the buffer before the sink. -/
def Wrote (W : Writer) (F : Forest) (doc : NodeId) (c : Char) : Prop :=
  ∃ step ∈ (W.runWalk F (W.documentWalk doc W.settings.byteOrderMark)).2.trace,
    c ∈ step.piece.toText

/-- Before a document is written, its prolog is. -/
theorem returns_putProlog {id : NodeId} {mark : Bool} {st st' : WalkState}
    (h : (W.documentWalk id mark).run.run st = (.ok (), st')) :
    Returns (W.putProlog (st.forest.declaration id) (st.forest.doctype? id)) () := by
  obtain ⟨F, mid, hforest, h⟩ := Outcome.exists_of_run_bind h
  cases hforest
  obtain ⟨_, -, h⟩ := Returns.of_bind ⟨_, _, h⟩
  obtain ⟨escaper, -, h⟩ := h.of_bind
  have hbody : Returns (do
      putMark mark
      W.putProlog (st.forest.declaration id) (st.forest.doctype? id)
      if (← W.putChildren escaper false (st.forest.children id)) && W.settings.endsWithLine then
        W.putNewline) () := by
    split at h
    · obtain ⟨_, -, h⟩ := h.of_bind
      exact h
    · exact h
  obtain ⟨_, -, h⟩ := hbody.of_bind
  obtain ⟨⟨⟩, h, -⟩ := h.of_bind
  exact h

/-- What is written of a document whose document type has been read can be encoded. -/
theorem has_documentWalk (hs : W.settings.HasEncodableTexts) (ha : W.settings.charset.HasAscii)
    (hh : W.settings.heading = none) {id : NodeId} {st : WalkState}
    (hread : ∀ d, st.forest.doctype? id = some d → d.IsRead .none)
    (hversion : ∀ c ∈ (st.forest.declaration id).version.getD "1.0".toList,
      W.settings.charset.canEncode c = true)
    (hst : ∀ step ∈ st.trace, step.Has fun c => W.settings.charset.canEncode c = true)
    (mark : Bool) : ∀ step ∈ ((W.documentWalk id mark).run.run st).2.trace,
      step.Has fun c => W.settings.charset.canEncode c = true := by
  have hW := permits_canEncode hs ha
  -- nothing is written before the mark, whether the walk gets there or not
  refine isSilent_forest.bind_has hst fun F mid hforest hmid => ?_
  cases hforest
  refine (isSilent_checkDoctype _).bind_has hmid fun _ mid _ hmid => ?_
  refine (isSilent_escaperFor _).bind_has hmid fun escaper mid hescaper hmid => ?_
  obtain ⟨rfl, table, ht, rfl⟩ := of_run_escaperFor hescaper
  have hids : ∀ heading subset, W.headingFor (st.forest.doctype? id) = some (heading, subset) →
      Doctype.hasValidIds heading.publicId heading.systemId = true := by
    intro heading subset hheading
    rw [headingFor, hh] at hheading
    obtain ⟨d, hd, hparts⟩ := Option.map_eq_some_iff.1 hheading
    obtain ⟨rfl, -⟩ := Prod.mk.inj hparts
    obtain ⟨content, entities, hd, -⟩ := hread d hd
    exact Builder.hasValidIds_of_readDoctype hd
  -- only the names of entities rely on the prolog, as it has the internal subset in it
  have hescaped : Returns (W.putProlog (st.forest.declaration id) (st.forest.doctype? id)) () →
      ∀ quote s, ∀ c ∈ (W.settings.escaper table).encode quote s,
        W.settings.charset.canEncode c = true := by
    intro hp quote s c hc
    rcases Escaper.of_mem_encode hc with ⟨d, name, hname, hc⟩ | hc | hc
    · exact canEncode_of_lookup? ha hh hread hp ht hname c hc
    · exact hc
    · exact ha.canEncode hc
  have hbody := (emits_putMark mark).andThen
    (emits_body hW (emits_putProlog hW hs.label hversion hids) hescaped (st.forest.children id))
  split
  · exact (isSilent_completeFrom _).bind_has hmid fun _ mid _ hmid => hbody.has mid hmid
  · exact hbody.has mid hmid

end Writer

namespace Document

variable {x : Text} {doc : Document} {W : Writer}

/-- **Encodable output.**  If what the settings and the XML declaration put into a document can be
encoded, all that is written of a document that has been read can, and so every text that is made
of it is encoded without the last resort.  Where the document is written without a fault, the names
of the entities that are used for characters can be encoded, as they are predefined or stand in the
internal subset. -/
theorem canEncode_of_parse (h : parse .none x = .ok doc) (hh : W.settings.heading = none)
    (hl : Charset.forWriting? W.settings.encodingLabel = some W.settings.charset)
    (hs : W.settings.HasEncodableTexts)
    (hversion : ∀ version, doc.declaration.version = some version →
      ∀ c ∈ version, W.settings.charset.canEncode c = true) (F : Forest) (sink : Sink) :
    (∀ c, W.Wrote (F.plant doc).1 (F.plant doc).2 c → W.settings.charset.canEncode c = true) ∧
    (∀ s : Text, (∀ c ∈ s, W.Wrote (F.plant doc).1 (F.plant doc).2 c) → ∀ resort,
      W.settings.charset.codec.encodeWith resort s = W.settings.charset.encode s) ∧
    ((W.saveDocument (F.plant doc).1 (F.plant doc).2 sink).fault = none →
      ∀ table, W.entityTable doc.doctype? = .ok table → ∀ c name, table.lookup? c = some name →
        (∀ d ∈ name, W.settings.charset.canEncode d = true) ∧
        ((Entity.predefinedChar? name).isSome = true ∨
          ∃ d, doc.doctype? = some d ∧ name <:+: d.subset.getD [])) := by
  have ha := Charset.hasAscii_of_forWriting? hl
  have hplanted := Forest.isPlanted_plant F doc
  have hread : ∀ d, doc.doctype? = some d → d.IsRead .none :=
    fun d hd => (isPlain_parse h).isRead_of_doctype? hd
  have hwrote : ∀ c, W.Wrote (F.plant doc).1 (F.plant doc).2 c →
      W.settings.charset.canEncode c = true := by
    rintro c ⟨step, hstep, hc⟩
    refine Writer.has_documentWalk hs ha hh (by rwa [hplanted.doctype?]) ?_
      (fun _ hstep => absurd hstep List.not_mem_nil) _ step hstep c hc
    rw [hplanted.declaration]
    cases hv : doc.declaration.version with
    | none =>
        have hbasic : ∀ c ∈ "1.0".toList, IsBasic c := by decide
        exact fun c hc => ha.canEncode (hbasic c hc)
    | some version => exact hversion version hv
  refine ⟨hwrote, fun s hs resort => ?_, fun hsaved table ht c name hc => ?_⟩
  · rw [Charset.encode, ← Codec.encodeWith_reference]
    exact Codec.encodeWith_congr fun c hc => hwrote c (hs c hc)
  · obtain ⟨st, hrun, -⟩ := Writer.forest_save hsaved
    have hp := Writer.returns_putProlog hrun
    rw [hplanted.doctype?] at hp
    exact ⟨Writer.canEncode_of_lookup? ha hh hread hp ht hc, Writer.isInfix_of_lookup? hread ht hc⟩

/-- A writer in ASCII. -/
def asciiWriter : Writer :=
  Writer.quiet acuteSettings .everyBlock

/-- A document with an entity for a character that ASCII lacks, alone in a forest. -/
abbrev referringForest : Forest × NodeId :=
  Forest.empty.plant referringDocument

theorem canEncode_of_parse_referringText :
    parse .none referringText = .ok referringDocument ∧ asciiWriter.settings.heading = none ∧
      Charset.forWriting? asciiWriter.settings.encodingLabel = some asciiWriter.settings.charset ∧
      asciiWriter.settings.HasEncodableTexts ∧ referringDocument.declaration.version = none ∧
      (∀ c, asciiWriter.Wrote referringForest.1 referringForest.2 c →
        asciiWriter.settings.charset.canEncode c = true) ∧
      (∀ s : Text, (∀ c ∈ s, asciiWriter.Wrote referringForest.1 referringForest.2 c) → ∀ resort,
        asciiWriter.settings.charset.codec.encodeWith resort s =
          asciiWriter.settings.charset.encode s) ∧
      (asciiWriter.saveDocument referringForest.1 referringForest.2 .unlimited).fault = none ∧
      ∃ table, asciiWriter.entityTable referringDocument.doctype? = .ok table ∧
        table.lookup? 'é' = some "eacute".toList ∧
        (∀ c ∈ "eacute".toList, asciiWriter.settings.charset.canEncode c = true) ∧
        ∃ d, referringDocument.doctype? = some d ∧ "eacute".toList <:+: d.subset.getD [] := by
  have hl : Charset.forWriting? asciiWriter.settings.encodingLabel =
      some asciiWriter.settings.charset := by with_unfolding_all rfl
  have hs : asciiWriter.settings.HasEncodableTexts :=
    ⟨List.all_eq_true.1 (by decide), List.all_eq_true.1 (by decide), List.all_eq_true.1 (by decide)⟩
  have hfault : (asciiWriter.saveDocument referringForest.1 referringForest.2 .unlimited).fault =
      none := by decide +kernel
  have htable : asciiWriter.entityTable referringDocument.doctype? =
      .ok ⟨[('é', "eacute".toList)], false⟩ := by with_unfolding_all rfl
  have hlookup : EntityTable.lookup? ⟨[('é', "eacute".toList)], false⟩ 'é' =
      some "eacute".toList := by decide
  obtain ⟨hwrote, hresort, hnames⟩ := canEncode_of_parse (W := asciiWriter) parse_referringText
    rfl hl hs nofun .empty .unlimited
  obtain ⟨hname, hsource⟩ := hnames hfault _ htable _ _ hlookup
  exact ⟨parse_referringText, rfl, hl, hs, rfl, hwrote, hresort, hfault, _, htable, hlookup, hname,
    hsource.resolve_left (by decide)⟩

end Document

end XmlScribe
